import WikiSite.Editor.Place
import WikiSite.Rpc.Message
import WikiSite.Site.Uri

/-!
# What an editor sends

The parameters of requests and notifications. A record is an object, or the list of all its members in order; members
that are not known do not count, and members that may be missing may also be null. The parameters of a question about
a position are an object.
-/

namespace WikiSite

namespace Params

/-- The members of a record written as an object or as the list of all of them in order. -/
def members (names : List String) : Json → Option (List (Option Json))
  | .obj ms => some (names.map fun n => Table.get? ms n.toList)
  | .arr items => if items.length = names.length then some (items.map some) else none
  | _ => none

/-- Reads an integer of 32 bits with a sign. -/
def int32? : Json → Option Int
  | .num (.int n) => if isInt32 n then some n else none
  | _ => none

/-- Reads a number of 32 bits. -/
def nat32? : Json → Option Nat
  | .num (.int n) => if 0 ≤ n && n < limit32 then some n.toNat else none
  | _ => none

/-- Reads a boolean. -/
def bool? : Json → Option Bool
  | .bool b => some b
  | _ => none

/-- Reads a URI. -/
def uri? (v : Json) : Option Uri := v.asText?.bind Uri.ofText?

/-- Reads a list. -/
def list? {α : Type} (read : Json → Option α) : Json → Option (List α)
  | .arr items => items.mapM read
  | _ => none

/-- Reads an object as it is. -/
def object? : Json → Option Json
  | .obj ms => some (.obj ms)
  | _ => none

/-- Reads a position. -/
def position? (v : Json) : Option Position :=
  match members ["line", "character"] v with
  | some [line, character] => do return ⟨← line.bind nat32?, ← character.bind nat32?⟩
  | _ => none

/-- Reads a range. -/
def range? (v : Json) : Option Range :=
  match members ["start", "end"] v with
  | some [first, last] => do return ⟨← first.bind position?, ← last.bind position?⟩
  | _ => none

/-- Reads what names a document. -/
def document? (v : Json) : Option Uri :=
  match members ["uri"] v with
  | some [uri] => uri.bind uri?
  | _ => none

/-- Reads the token of a progress report: a number or a text. -/
def token? : Json → Option Unit
  | .str _ => some ()
  | v => (int32? v).map fun _ => ()

end Params

/-! ### Opening a session -/

/-- What the server takes from an editor's first request. -/
structure Opening where
  /-- The root of the site. -/
  root : Option Path
  encoding : PositionEncoding
  deriving DecidableEq, Repr

namespace Params

/-- Reads a folder of a workspace. -/
def folder? (v : Json) : Option Uri :=
  match members ["uri", "name"] v with
  | some [uri, name] => do
    let _ ← name.bind Json.asText?
    uri.bind uri?
  | _ => none

/-- Reads a name with an optional version, as editors introduce themselves. -/
def versioned? (name : String) (v : Json) : Option Unit :=
  match members [name, "version"] v with
  | some [name, version] => do
    let _ ← name.bind Json.asText?
    let _ ← optionalMember Json.asText? version
    return ()
  | _ => none

/-- Reads the dialect of Markdown that an editor shows. -/
def markdown? (v : Json) : Option Unit :=
  match members ["parser", "version", "allowedTags"] v with
  | some [parser, version, tags] => do
    let _ ← parser.bind Json.asText?
    let _ ← optionalMember Json.asText? version
    let _ ← optionalMember (list? Json.asText?) tags
    return ()
  | _ => none

/-- Reads how an editor treats requests that are out of date. -/
def staleRequests? (v : Json) : Option Unit :=
  match members ["cancel", "retryOnContentModified"] v with
  | some [cancel, retry] => do
    let _ ← cancel.bind bool?
    let _ ← retry.bind (list? Json.asText?)
    return ()
  | _ => none

/-- Reads the encodings of positions that an editor offers. -/
def offeredEncodings? (v : Json) : Option (List Text) :=
  match members ["regularExpressions", "markdown", "staleRequestSupport", "positionEncodings"] v with
  | some [expressions, markdown, stale, encodings] => do
    let _ ← optionalMember (versioned? "engine") expressions
    let _ ← optionalMember markdown? markdown
    let _ ← optionalMember staleRequests? stale
    return (← optionalMember (list? Json.asText?) encodings).getD []
  | _ => none

/-- Reads what an editor is capable of; only its encodings of positions are kept. What it says of its workspace, its
documents and its window is a record each, and the members of these are not looked at: an editor that words one of them
wrongly is let in. -/
def capabilities? (v : Json) : Option (List Text) :=
  match members ["workspace", "textDocument", "window", "general", "experimental"] v with
  | some [workspace, document, window, general, _] => do
    let _ ← optionalMember object? workspace
    let _ ← optionalMember object? document
    let _ ← optionalMember object? window
    return (← optionalMember offeredEncodings? general).getD []
  | _ => none

/-- Reads how much an editor wants to be told. -/
def trace? (v : Json) : Option Text :=
  v.asText?.filter fun t => ["off", "messages", "verbose"].any fun w => w.toList == t

end Params

namespace Opening

/-- The root of the site: the file that the root URI names, or else the root path, or else the first folder. -/
def rootOf (uri : Option Uri) (path : Option Text) (folders : Option (List Uri)) : Option Path :=
  match uri.bind Uri.filePath? with
  | some p => some p
  | none =>
    match path with
    | some p => some (Path.ofText p)
    | none => (folders.bind List.head?).bind Uri.filePath?

/-- Characters are counted one by one where the editor offers it, and otherwise as the protocol has it. -/
def encodingOf (offered : List Text) : PositionEncoding :=
  if offered.contains "utf-32".toList then .utf32 else .utf16

open Params

/-- Reads the parameters of the first request. -/
def ofJson? (v : Json) : Option Opening :=
  match members ["processId", "rootPath", "rootUri", "initializationOptions", "capabilities", "trace",
      "workspaceFolders", "clientInfo", "locale"] v with
  | some [process, path, uri, _, capabilities, trace, folders, client, locale] => do
    let _ ← optionalMember nat32? process
    let path ← optionalMember Json.asText? path
    let uri ← optionalMember uri? uri
    let offered ← capabilities.bind capabilities?
    let _ ← optionalMember trace? trace
    let folders ← optionalMember (list? folder?) folders
    let _ ← optionalMember (versioned? "name") client
    let _ ← optionalMember Json.asText? locale
    return ⟨rootOf uri path folders, encodingOf offered⟩
  | _ => none

end Opening

/-! ### Questions -/

/-- A question about a position of a document. -/
structure Question where
  uri : Uri
  position : Position
  deriving DecidableEq, Repr

namespace Question

open Params

/-- Reads a question; the tokens that the kind of question may carry are checked. -/
def ofJson? (tokens : List String) (v : Json) : Option Question :=
  match v with
  | .obj ms => do
    let uri ← (Table.get? ms "textDocument".toList).bind document?
    let position ← (Table.get? ms "position".toList).bind position?
    let _ ← tokens.mapM fun t => optionalMember token? (Table.get? ms t.toList)
    return ⟨uri, position⟩
  | _ => none

/-- Reads how a completion came about. -/
def trigger? (v : Json) : Option Unit :=
  match members ["triggerKind", "triggerCharacter"] v with
  | some [kind, character] => do
    let _ ← kind.bind int32?
    let _ ← optionalMember Json.asText? character
    return ()
  | _ => none

/-- Reads a question for completions. -/
def ofCompletion? (v : Json) : Option Question := do
  let q ← ofJson? ["workDoneToken", "partialResultToken"] v
  let _ ← optionalMember trigger? (v.member? "context")
  return q

/-- Reads a question for a hover. -/
def ofHover? (v : Json) : Option Question := ofJson? ["workDoneToken"] v

/-- Reads a question for a definition. -/
def ofDefinition? (v : Json) : Option Question := ofJson? ["workDoneToken", "partialResultToken"] v

end Question

/-! ### Notices -/

/-- A change of a file on disk. -/
structure FileChange where
  uri : Uri
  isDeleted : Bool
  deriving DecidableEq, Repr

/-- What an editor reports about documents and files. -/
inductive Notice where
  | opened (uri : Uri) (text : Text) (version : Int)
  /-- The text is that of the last change, if there is one. -/
  | changed (uri : Uri) (text : Option Text) (version : Int)
  | saved (uri : Uri) (text : Option Text)
  | closed (uri : Uri)
  | filesChanged (changes : List FileChange)
  deriving DecidableEq, Repr

namespace Notice

open Params

/-- Reads the report of a document that was opened. -/
def opened? (v : Json) : Option Notice :=
  match members ["textDocument"] v with
  | some [some item] =>
    match members ["uri", "languageId", "version", "text"] item with
    | some [uri, language, version, text] => do
      let uri ← uri.bind uri?
      let _ ← language.bind Json.asText?
      return .opened uri (← text.bind Json.asText?) (← version.bind int32?)
    | _ => none
  | _ => none

/-- Reads one change of a document: its whole text. -/
def change? (v : Json) : Option Text :=
  match members ["range", "rangeLength", "text"] v with
  | some [range, length, text] => do
    let _ ← optionalMember range? range
    let _ ← optionalMember nat32? length
    text.bind Json.asText?
  | _ => none

/-- Reads the report of a document that was changed. -/
def changed? (v : Json) : Option Notice :=
  match members ["textDocument", "contentChanges"] v with
  | some [some document, some changes] =>
    match members ["uri", "version"] document with
    | some [uri, version] => do
      let uri ← uri.bind uri?
      let version ← version.bind int32?
      let texts ← list? change? changes
      return .changed uri texts.getLast? version
    | _ => none
  | _ => none

/-- Reads the report of a document that was saved. -/
def saved? (v : Json) : Option Notice :=
  match members ["textDocument", "text"] v with
  | some [document, text] => do return .saved (← document.bind document?) (← optionalMember Json.asText? text)
  | _ => none

/-- Reads the report of a document that was closed. -/
def closed? (v : Json) : Option Notice :=
  match members ["textDocument"] v with
  | some [document] => (document.bind document?).map .closed
  | _ => none

/-- Reads the change of a file. -/
def fileChange? (v : Json) : Option FileChange :=
  match members ["uri", "type"] v with
  | some [uri, kind] => do return ⟨← uri.bind uri?, (← kind.bind int32?) == 3⟩
  | _ => none

/-- Reads the report of files that changed on disk. -/
def filesChanged? (v : Json) : Option Notice :=
  match members ["changes"] v with
  | some [changes] => (changes.bind (list? fileChange?)).map .filesChanged
  | _ => none

/-- The notice that a notification carries, by its method; `none` when there is none or its parameters are wrong. -/
def ofNotification? (method : Text) (params : Json) : Option Notice :=
  if method == "textDocument/didOpen".toList then opened? params
  else if method == "textDocument/didChange".toList then changed? params
  else if method == "textDocument/didSave".toList then saved? params
  else if method == "textDocument/didClose".toList then closed? params
  else if method == "workspace/didChangeWatchedFiles".toList then filesChanged? params
  else none

end Notice

end WikiSite
