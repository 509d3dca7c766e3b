import WikiSite.Site.Uri
import WikiSite.Table

/-!
# Open documents

While a document is open in the editor its text, and not the file on disk, is what counts.
-/

namespace WikiSite

/-- A document that is open in the editor. -/
structure Document where
  uri : Uri
  text : Text
  version : Int
  deriving DecidableEq, Repr

/-- The path of a document. -/
def Document.path (d : Document) : Path := d.uri.documentPath

/-- The open documents by URI. -/
abbrev Documents := Table Document

namespace Documents

/-- No open documents. -/
def empty : Documents := []

/-- The open document of a URI. -/
def document? (ds : Documents) (uri : Uri) : Option Document := Table.get? ds uri.text

/-- The text of the open document of a URI. -/
def text? (ds : Documents) (uri : Uri) : Option Text := (ds.document? uri).map (·.text)

/-- Stores the whole text of a document in place of an earlier version. -/
def put (ds : Documents) (d : Document) : Documents := Table.insert d.uri.text d ds

/-- Takes a document out. -/
def close (ds : Documents) (uri : Uri) : Documents := Table.erase ds uri.text

/-- Every open document, in the order of their URIs. -/
def all (ds : Documents) : List Document := List.map Prod.snd ds

end Documents

end WikiSite
