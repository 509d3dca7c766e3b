import WikiSite.Page.Prose
import WikiSite.Text.Column

/-!
# Wikilinks

A wikilink is `[[target]]` or `[[target|display]]`; neither part holds a bracket, and the target ends at the first
bar. A target may carry a fragment after `#`, which is not part of the slug it names.
-/

namespace WikiSite

/-- A wikilink on a line. The columns cover the whole `[[…]]`. -/
structure Wikilink where
  target : Text
  display : Option Text
  first : Nat
  last : Nat
  deriving DecidableEq, Repr

/-- The part of a link target before its fragment. -/
def targetSlug (target : Text) : Text := trim (target.takeWhile (· != '#'))

namespace Wikilink

/-- The slug that the link names. -/
def slug (l : Wikilink) : Text := targetSlug l.target

/-- Whether the link covers the column. -/
def covers (l : Wikilink) (column : Nat) : Bool := l.first ≤ column && column < l.last

end Wikilink

/-- Whether `c` may stand in a target. -/
def noBracketOrBar (c : Char) : Bool := c != '[' && c != ']' && c != '|'

/-- Whether `c` may stand in a display text. -/
def noBracket (c : Char) : Bool := c != '[' && c != ']'

/-- Reads the inside of a link after `[[`, up to `]]`: the target, the display text when there is a bar, and the
number of characters read with the closing brackets. -/
def linkBody (t : Text) : Option (Text × Option Text × Nat) :=
  let target := t.takeWhile noBracketOrBar
  match t.dropWhile noBracketOrBar with
  | ']' :: ']' :: _ => some (target, none, target.length + 2)
  | '|' :: rest =>
    let display := rest.takeWhile noBracket
    match rest.dropWhile noBracket with
    | ']' :: ']' :: _ => some (target, some display, target.length + 1 + display.length + 2)
    | _ => none
  | _ => none

/-- The link with the given parts, unless its target is blank. -/
def linkOf (target : Text) (display : Option Text) (first last : Nat) : Option Wikilink :=
  let target := trim target
  if target.isEmpty then none
  else
    let display := (display.map trim).filter (!·.isEmpty)
    some ⟨target, display, first, last⟩

/-- The links in a text whose first character is at `column`, after passing over `skip` characters. -/
def linksFrom : Nat → Nat → Text → List Wikilink
  | _, _, [] => []
  | skip + 1, column, _ :: rest => linksFrom skip (column + 1) rest
  | 0, column, c :: rest =>
    match c, rest with
    | '[', '[' :: inner =>
      match linkBody inner with
      | some (target, display, used) =>
        (linkOf target display column (column + 2 + used)).toList ++ linksFrom (used + 1) (column + 1) rest
      | none => linksFrom 0 (column + 1) rest
    | _, _ => linksFrom 0 (column + 1) rest

/-- The wikilinks on a line whose target is not blank, from left to right. -/
def findWikilinks (line : Text) : List Wikilink := linksFrom 0 0 line

/-- The wikilink that covers a column. -/
def wikilinkAt (line : Text) (column : Nat) : Option Wikilink :=
  (findWikilinks line).find? (·.covers column)

/-! ### A link being typed -/

/-- Text typed at the cursor and the column where it starts. -/
structure Typed where
  text : Text
  first : Nat
  deriving DecidableEq, Repr

/-- The text after the first `[[` that no `]` or bar follows, where the text starts at `column`. -/
def openLinkFrom (column : Nat) : Text → Option Typed
  | '[' :: '[' :: rest =>
    if rest.all (fun c => c != ']' && c != '|') then some ⟨rest, column + 2⟩
    else openLinkFrom (column + 1) ('[' :: rest)
  | _ :: rest => openLinkFrom (column + 1) rest
  | [] => none

/-- The wikilink being typed in front of a column. -/
def wikilinkTyped (line : Text) (column : Nat) : Option Typed := openLinkFrom 0 (textUpTo line column)

/-! ### The links of a page -/

/-- A wikilink on a page and the number of its line. -/
structure PageLink where
  line : Nat
  link : Wikilink
  deriving DecidableEq, Repr

/-- The wikilinks in the prose of a page. -/
def pageLinks (page : Text) : List PageLink :=
  (proseLines page).flatMap fun (n, line) => (findWikilinks line).map fun l => ⟨n, l⟩

end WikiSite
