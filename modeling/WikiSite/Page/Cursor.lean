import WikiSite.Page.Admonition
import WikiSite.Page.Field
import WikiSite.Page.Mention

/-!
# The cursor

What is being typed at a position of a page. A frontmatter field comes before an admonition, that before a mention,
and a wikilink is last.
-/

namespace WikiSite

/-- What is being typed at the cursor. -/
inductive Cursor where
  | field (typed : FieldTyped)
  | admonition (typed : AdmonitionTyped)
  | mention (typed : Typed)
  | wikilink (typed : Typed)
  deriving DecidableEq, Repr

/-- What is being typed on a line outside the frontmatter. -/
def cursorOnLine (line : Text) (column : Nat) : Option Cursor :=
  match admonitionTyped line column with
  | some a => some (.admonition a)
  | none =>
    match mentionTyped line column with
    | some m => some (.mention m)
    | none => (wikilinkTyped line column).map .wikilink

/-- What is being typed at a position of a page. -/
def cursorAt (page : Text) (line column : Nat) : Option Cursor :=
  match fieldTyped page line column with
  | some f => some (.field f)
  | none => cursorOnLine (lineAt page line) column

end WikiSite
