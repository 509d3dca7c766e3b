import WikiSite.Page.Wikilink
import WikiSite.Text.Letter

/-!
# Mentions

A mention is `@handle`, where the handle starts with a letter and goes on with letters, digits, `_`, `.` and `-`.
The `@` must not follow an alphanumeric character, `_` or another `@`, so an address such as `me@site` is no
mention. Points and hyphens at the end of the run are punctuation of the sentence.
-/

namespace WikiSite

/-- Whether `c` may continue a handle. -/
def isHandleChar (c : Char) : Bool := isAsciiLetter c || isDigit c || c == '_' || c == '.' || c == '-'

/-- Whether the text is a handle. -/
def isHandle : Text → Bool
  | [] => false
  | c :: rest => isAsciiLetter c && rest.all isHandleChar

/-- Whether a mention may start after the given character. -/
def mayPrecedeMention : Option Char → Bool
  | none => true
  | some c => !(isAlphanumeric c || c == '_' || c == '@')

/-- A mention on a line; the first column is that of the `@`. -/
structure Mention where
  handle : Text
  first : Nat
  last : Nat
  deriving DecidableEq, Repr

/-- Whether the mention covers the column. -/
def Mention.covers (m : Mention) (column : Nat) : Bool := m.first ≤ column && column < m.last

/-- The handle in a run of handle characters: the run without points and hyphens at its end. -/
def handleOfRun (run : Text) : Text := dropEndWhile (fun c => c == '.' || c == '-') run

/-- The mentions in a text whose first character is at `column` and follows `previous`, after passing over `skip`
characters. -/
def mentionsFrom : Nat → Nat → Option Char → Text → List Mention
  | _, _, _, [] => []
  | skip + 1, column, _, c :: rest => mentionsFrom skip (column + 1) (some c) rest
  | 0, column, previous, c :: rest =>
    if c == '@' && (rest.head?.any isAsciiLetter) then
      let run := rest.takeWhile isHandleChar
      let handle := handleOfRun run
      let found := if mayPrecedeMention previous then [⟨handle, column, column + 1 + handle.length⟩] else []
      found ++ mentionsFrom run.length (column + 1) (some c) rest
    else mentionsFrom 0 (column + 1) (some c) rest

/-- The mentions on a line, from left to right. -/
def findMentions (line : Text) : List Mention := mentionsFrom 0 0 none line

/-- The mention that covers a column. -/
def mentionAt (line : Text) (column : Nat) : Option Mention := (findMentions line).find? (·.covers column)

/-- The mention being typed in front of a column: the text after the last `@`, empty or a handle. -/
def mentionTyped (line : Text) (column : Nat) : Option Typed :=
  let before := textUpTo line column
  match cutAfterLast (· == '@') before with
  | none => none
  | some (upTo, typed) =>
    if !mayPrecedeMention (upTo.dropLast.getLast?) then none
    else if !typed.isEmpty && !isHandle typed then none
    else some ⟨typed, upTo.length⟩

end WikiSite
