import WikiSite.Editor.Completion
import WikiSite.Editor.Diagnostic
import WikiSite.Editor.Hover
import WikiSite.Json.Value

/-!
# What an editor receives

The answers to requests, and how they are written. Members without a value are left out.
-/

namespace WikiSite

/-- The object of the members that have a value. -/
def Json.objectOf (members : List (String × Option Json)) : Json :=
  .object (members.filterMap fun m => m.2.map fun v => (m.1, v))

/-- A position as an editor reads it. -/
def Position.toJson (p : Position) : Json := .object [("line", .nat p.line), ("character", .nat p.character)]

/-- A range as an editor reads it. -/
def Range.toJson (r : Range) : Json := .object [("start", r.first.toJson), ("end", r.last.toJson)]

/-- A note in Markdown. -/
def Json.markdown (t : Text) : Json := .object [("kind", .ofString "markdown"), ("value", .str t)]

/-- The number of a kind of item. -/
def ItemKind.number : ItemKind → Nat
  | .field => 5
  | .value => 12
  | .file => 17
  | .reference => 18
  | .enumMember => 20

/-- A completion item as an editor reads it. -/
def CompletionItem.toJson (i : CompletionItem) : Json :=
  .objectOf
    [("label", some (.str i.label)), ("kind", some (.nat i.kind.number)), ("detail", i.detail.map .str),
      ("documentation", i.documentation.map .markdown), ("sortText", i.sortText.map .str),
      ("filterText", i.filterText.map .str),
      ("textEdit", some (.object [("range", i.edit.range.toJson), ("newText", .str i.edit.newText)]))]

/-- A list of completion items, to be asked for again as more is typed. -/
def completionsJson (items : List CompletionItem) : Json :=
  .object [("isIncomplete", .bool true), ("items", .arr (items.map CompletionItem.toJson))]

/-- A hover as an editor reads it. -/
def Hover.toJson (h : Hover) : Json :=
  .objectOf [("contents", some (.markdown h.value)), ("range", h.range.map Range.toJson)]

/-- A location as an editor reads it. -/
def Location.toJson (l : Location) : Json := .object [("uri", .str l.uri.text), ("range", l.range.toJson)]

/-- The number of a severity. -/
def Severity.number : Severity → Nat
  | .error => 1
  | .warning => 2
  | .info => 3

/-- A diagnostic as an editor reads it. -/
def Diagnostic.toJson (d : Diagnostic) : Json :=
  .object
    [("range", d.range.toJson), ("severity", .nat d.severity.number), ("code", .str d.code),
      ("source", .str diagnosticSource), ("message", .str d.message)]

/-! ### Answers -/

/-- The name of an encoding of positions. -/
def PositionEncoding.name : PositionEncoding → String
  | .utf16 => "utf-16"
  | .utf32 => "utf-32"

/-- The characters after which an editor asks for completions. -/
def triggerCharacters : List String := ["[", "@", "!", "?", " "]

/-- What the server is capable of. -/
def capabilitiesJson (encoding : PositionEncoding) : Json :=
  .object
    [("positionEncoding", .ofString encoding.name),
      ("textDocumentSync",
        .object [("openClose", .bool true), ("change", .nat 1), ("save", .object [("includeText", .bool true)])]),
      ("completionProvider", .object [("triggerCharacters", .arr (triggerCharacters.map .ofString))]),
      ("hoverProvider", .bool true), ("definitionProvider", .bool true)]

/-- The answer to a request. -/
inductive Answer where
  /-- The session is open, with the given encoding of positions. -/
  | opened (encoding : PositionEncoding)
  /-- There is nothing to say. -/
  | nothing
  | completions (items : List CompletionItem)
  | hover (h : Hover)
  | definition (l : Location)
  deriving DecidableEq, Repr

/-- An answer as an editor reads it. -/
def Answer.toJson : Answer → Json
  | .opened encoding =>
    .object
      [("capabilities", capabilitiesJson encoding),
        ("serverInfo", .object [("name", .ofString "mdsite-lsp"), ("version", .ofString "0.1.0")])]
  | .nothing => .null
  | .completions items => completionsJson items
  | .hover h => h.toJson
  | .definition l => l.toJson

end WikiSite
