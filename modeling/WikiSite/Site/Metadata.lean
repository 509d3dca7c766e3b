import WikiSite.Page.Block
import WikiSite.Site.Path
import WikiSite.Yaml.Value

/-!
# Metadata

The fields that the frontmatter of a page declares, and the split of a page into metadata and body. The lines between
the delimiters, with their terminators, are the YAML text; everything after the closing delimiter's line is the body.
-/

namespace WikiSite

/-- The fields of a page by name. -/
abbrev Metadata := Table YamlValue

/-- The text of a value that is a string, a number or a boolean. -/
def scalarText? : YamlValue → Option Text
  | .str t => some t
  | .int n => some (intText n)
  | .real d => some d.dataText
  | .bool b => some (if b then "true".toList else "false".toList)
  | _ => none

namespace Metadata

/-- The value of a field. -/
def get? (m : Metadata) (field : Text) : Option YamlValue := Table.get? m field

/-- The text of a field that holds a scalar other than a blank string. -/
def text? (m : Metadata) (field : Text) : Option Text :=
  ((m.get? field).bind scalarText?).filter fun t => !(trim t).isEmpty

/-- The texts of a field that holds a list of scalars; a lone scalar is a list of one. -/
def texts (m : Metadata) (field : Text) : List Text :=
  match m.get? field with
  | some (.seq items) => items.filterMap scalarText?
  | some v => (scalarText? v).toList
  | none => []

end Metadata

/-- Why the frontmatter of a page cannot be read. -/
inductive FrontmatterError where
  /-- The block of the file at the given path has no closing delimiter. -/
  | unclosed (path : Text)
  /-- The lines of the block of the file at the given path are not a YAML mapping. -/
  | malformed (path : Text)
  deriving DecidableEq, Repr

/-- What an error says; `complaint` is what is said of the lines that are no YAML mapping. -/
def FrontmatterError.message (complaint : Text) : FrontmatterError → Text
  | .unclosed path => "frontmatter in ".toList ++ path ++ " is never closed".toList
  | .malformed path => "invalid frontmatter in ".toList ++ path ++ ": ".toList ++ complaint

/-- The YAML text and the body of a page whose block closes at the given line. -/
def splitAtBlock (content : Text) (last : Nat) : Text × Text :=
  let ls := linesWithEnds content
  (((ls.take last).drop 1).flatten, (ls.drop (last + 1)).flatten)

/-- Splits a page into its metadata and its body. -/
def readPage (path : Path) (content : Text) : Except FrontmatterError (Metadata × Text) :=
  match locateBlock content with
  | none => .ok ([], content)
  | some ⟨_, none⟩ => .error (.unclosed (Path.display path))
  | some ⟨_, some last⟩ =>
    let (yaml, body) := splitAtBlock content last
    if (trim yaml).isEmpty then .ok ([], body)
    else
      match Yaml.readMapping yaml with
      | some fields => .ok (fields, body)
      | none => .error (.malformed (Path.display path))

end WikiSite
