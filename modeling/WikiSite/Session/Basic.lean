import WikiSite.Config.File
import WikiSite.Editor.Answer
import WikiSite.Editor.Params
import WikiSite.Rpc.Message
import WikiSite.Session.Documents

/-!
# Sessions

A session is the server's side of one editor's work: it is opened by the first request, indexes the site once the
editor is ready, follows the open documents and the files on disk, and answers questions until it is shut down and
left. Every message leads to a new session and to what is sent back. Before the opening and after the shutdown
nothing but leaving is done.
-/

namespace WikiSite

/-- What a session sees of the machine it runs on. -/
structure Machine where
  tree : FileTree
  /-- The home of the user. -/
  home : Path
  /-- The order in which a build goes through the posts. -/
  order : PostOrder
  /-- What is said of input that cannot be read. -/
  complaint : Text

/-- How far a session has come. -/
inductive Phase where
  | uninitialized
  /-- Opened, and waiting for the editor to be ready. -/
  | initializing
  | initialized
  | shuttingDown
  | exited
  deriving DecidableEq, Repr

/-- The server's side of one editor's work. -/
structure Session where
  phase : Phase
  root : Option Path
  settings : Settings
  encoding : PositionEncoding
  index : Index
  documents : Documents

/-- Diagnostics of a document that are sent to the editor; a closed document has no version. -/
structure Publication where
  uri : Uri
  diagnostics : List Diagnostic
  version : Option Int
  deriving DecidableEq, Repr

/-- What is sent to the editor. -/
inductive Outgoing where
  | response (id : RequestId) (result : Except ResponseError Answer)
  | publication (p : Publication)

/-- A publication as an editor reads it. -/
def Publication.toJson (p : Publication) : Json :=
  .objectOf
    [("uri", some (.str p.uri.text)), ("diagnostics", some (.arr (p.diagnostics.map Diagnostic.toJson))),
      ("version", p.version.map .int)]

/-- The message in which something is sent. -/
def Outgoing.toMessage : Outgoing → Message
  | .response id (.ok a) => .success id a.toJson
  | .response id (.error e) => .failure id e
  | .publication p => .notification "textDocument/publishDiagnostics".toList p.toJson

/-! ### Columns of the editor -/

namespace PositionEncoding

/-- The position, in characters, of an editor's position in a page. -/
def charPosition (e : PositionEncoding) (page : Text) (p : Position) : Position :=
  ⟨p.line, e.charColumn (lineAt page p.line) p.character⟩

/-- The editor's position of a position in a page. -/
def clientPosition (e : PositionEncoding) (page : Text) (p : Position) : Position :=
  ⟨p.line, e.clientColumn (lineAt page p.line) p.character⟩

/-- The editor's range of a range in a page. -/
def clientRange (e : PositionEncoding) (page : Text) (r : Range) : Range :=
  ⟨e.clientPosition page r.first, e.clientPosition page r.last⟩

end PositionEncoding

namespace Session

/-- A session that has not been opened. -/
def new : Session := ⟨.uninitialized, none, Settings.default, .utf16, Index.empty, Documents.empty⟩

/-! ### Questions -/

/-- The text of a document: what is open in the editor, or else the file. -/
def textOf? (m : Machine) (s : Session) (uri : Uri) : Option Text :=
  match s.documents.text? uri with
  | some t => some t
  | none =>
    match m.tree.readText uri.documentPath with
    | .ok t => some t
    | .error _ => none

/-- The items that can be put at a position. -/
def complete (m : Machine) (s : Session) (q : Question) : Answer :=
  let page := (s.textOf? m q.uri).getD []
  .completions <| (WikiSite.completions s.index page (s.encoding.charPosition page q.position)).map fun i =>
    { i with edit := { i.edit with range := s.encoding.clientRange page i.edit.range } }

/-- What is shown at a position. -/
def hover (m : Machine) (s : Session) (q : Question) : Answer :=
  match s.textOf? m q.uri with
  | none => .nothing
  | some page =>
    match hoverAt s.index s.settings page (s.encoding.charPosition page q.position) with
    | some h => .hover { h with range := h.range.map (s.encoding.clientRange page) }
    | none => .nothing

/-- Where the thing at a position is defined. -/
def definition (m : Machine) (s : Session) (q : Question) : Answer :=
  match s.textOf? m q.uri with
  | none => .nothing
  | some page =>
    match definitionAt s.index page (s.encoding.charPosition page q.position) with
    | some l => .definition l
    | none => .nothing

/-! ### Requests -/

/-- The error for parameters that cannot be read. -/
def invalidParams (m : Machine) : ResponseError := .of .invalidParams m.complaint

/-- Answers a question whose parameters have been read. -/
def answerTo (m : Machine) (question : Option Question) (f : Question → Answer) : Except ResponseError Answer :=
  match question with
  | some q => .ok (f q)
  | none => .error (invalidParams m)

/-- Opens the session. Settings that cannot be read are replaced by the defaults. -/
def start (m : Machine) (s : Session) (o : Opening) : Session :=
  { s with
    phase := .initializing
    root := o.root
    settings := (o.root.bind fun root => loadSettings m.tree m.home root).getD Settings.default
    encoding := o.encoding }

/-- Handles a request of an open session. -/
def answerOpen (m : Machine) (s : Session) (method : Text) (params : Json) : Session × Except ResponseError Answer :=
  if method == "shutdown".toList then ({ s with phase := .shuttingDown }, .ok .nothing)
  else if method == "textDocument/completion".toList then
    (s, answerTo m (Question.ofCompletion? params) (s.complete m))
  else if method == "textDocument/hover".toList then (s, answerTo m (Question.ofHover? params) (s.hover m))
  else if method == "textDocument/definition".toList then
    (s, answerTo m (Question.ofDefinition? params) (s.definition m))
  else (s, .error (.methodNotFound method))

/-- Handles a request. -/
def answer (m : Machine) (s : Session) (method : Text) (params : Json) : Session × Except ResponseError Answer :=
  if method == "exit".toList then ({ s with phase := .exited }, .ok .nothing)
  else if method == "initialize".toList then
    match s.phase with
    | .uninitialized =>
      match Opening.ofJson? params with
      | some o => (s.start m o, .ok (.opened o.encoding))
      | none => (s, .error (invalidParams m))
    | _ => (s, .error (.of .invalidRequest "server already initialized".toList))
  else
    match s.phase with
    | .uninitialized => (s, .error .serverNotInitialized)
    | .shuttingDown | .exited => (s, .error (.of .invalidRequest "server is shutting down".toList))
    | .initializing | .initialized => s.answerOpen m method params

/-! ### Publications -/

/-- The diagnostics of an open document. -/
def publicationOf (s : Session) (d : Document) : Publication :=
  ⟨d.uri,
    (diagnostics s.index s.settings d.text).map fun x =>
      { x with range := s.encoding.clientRange d.text x.range },
    some d.version⟩

/-- The diagnostics of a document, if it is open. -/
def publish (s : Session) (uri : Uri) : List Publication := ((s.documents.document? uri).map s.publicationOf).toList

/-- The diagnostics of every open document. -/
def publishAll (s : Session) : List Publication := s.documents.all.map s.publicationOf

/-! ### Notifications -/

/-- Indexes a text as that of a document. -/
def indexText (s : Session) (uri : Uri) (text : Text) : Session := { s with index := s.index.update uri text }

/-- Indexes the file of a document anew; nothing changes when it cannot be read. -/
def indexFile (m : Machine) (s : Session) (uri : Uri) : Session :=
  match s.index.indexFile m.tree uri.documentPath with
  | .ok index => { s with index := index }
  | .error _ => s

/-- Takes over the text of an open document. -/
def putDocument (s : Session) (uri : Uri) (text : Text) (version : Int) : Session :=
  let s := s.indexText uri text
  { s with documents := s.documents.put ⟨uri, text, version⟩ }

/-- Indexes the site once the editor is ready; documents that were opened before keep their text. -/
def ready (m : Machine) (s : Session) : Session :=
  let index := match s.root with
    | some root => Index.build m.order m.tree root s.settings
    | none => s.index
  let index := s.documents.all.foldl (fun ix d => ix.update d.uri d.text) index
  { s with index := index, phase := .initialized }

/-- Takes over the change of a file on disk; an open document wins over its file. -/
def followFile (m : Machine) (s : Session) (c : FileChange) : Session :=
  if !Index.isContentFile (Path.ofText c.uri.path) || (s.documents.document? c.uri).isSome then s
  else if c.isDeleted then { s with index := (s.index.remove c.uri).2 }
  else s.indexFile m c.uri

/-- Takes over a saved document. -/
def save (m : Machine) (s : Session) (uri : Uri) (text : Option Text) : Session :=
  match text, s.documents.document? uri with
  | some text, d => s.putDocument uri text ((d.map (·.version)).getD 0)
  | none, some d => s.indexText uri d.text
  | none, none => s.indexFile m uri

/-- Closes a document: its file counts again, and without a file it is gone. -/
def close (m : Machine) (s : Session) (uri : Uri) : Session :=
  let s := { s with documents := s.documents.close uri }
  match s.index.indexFile m.tree uri.documentPath with
  | .ok index => { s with index := index }
  | .error _ => { s with index := (s.index.remove uri).2 }

/-- Takes over what the editor reports. -/
def note (m : Machine) (s : Session) : Notice → Session × List Publication
  | .opened uri text version =>
    let s := s.putDocument uri text version
    (s, s.publish uri)
  | .changed _ none _ => (s, [])
  | .changed uri (some text) version =>
    let s := s.putDocument uri text version
    (s, s.publish uri)
  | .saved uri text =>
    let s := s.save m uri text
    (s, s.publishAll)
  | .closed uri => (s.close m uri, [⟨uri, [], none⟩])
  | .filesChanged changes =>
    let s := changes.foldl (fun s c => s.followFile m c) s
    (s, s.publishAll)

/-- Handles a notification of an open session. -/
def noteOpen (m : Machine) (s : Session) (method : Text) (params : Json) : Session × List Publication :=
  if method == "initialized".toList then
    match s.phase with
    | .initializing =>
      let s := s.ready m
      (s, s.publishAll)
    | _ => (s, [])
  else
    match Notice.ofNotification? method params with
    | some n => s.note m n
    | none => (s, [])

/-- Handles a notification. -/
def notify (m : Machine) (s : Session) (method : Text) (params : Json) : Session × List Publication :=
  if method == "exit".toList then ({ s with phase := .exited }, [])
  else
    match s.phase with
    | .uninitialized | .shuttingDown | .exited => (s, [])
    | .initializing | .initialized => s.noteOpen m method params

/-! ### Messages -/

/-- Handles a message. Responses of the editor do not count. -/
def handle (m : Machine) (s : Session) : Message → Session × List Outgoing
  | .request id method params =>
    match s.answer m method params with
    | (s, result) => (s, [.response id result])
  | .notification method params =>
    match s.notify m method params with
    | (s, ps) => (s, ps.map .publication)
  | .response .. => (s, [])

end Session

end WikiSite
