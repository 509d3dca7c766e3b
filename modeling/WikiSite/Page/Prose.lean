import WikiSite.Page.Block

/-!
# Prose lines

Links and mentions count only in prose: outside the frontmatter and outside fenced code. A fence opens with a line
that starts, after blanks, with one of the two markers, and closes with the next line of the same marker; the lines
of the fence itself are no prose either.
-/

namespace WikiSite

/-- The two markers of fenced code. -/
inductive Fence where
  | backticks
  | tildes
  deriving DecidableEq, Repr

/-- The marker that a line shows. -/
def fenceOf (line : Text) : Option Fence :=
  if "```".toList.isPrefixOf (trimStart line) then some .backticks
  else if "~~~".toList.isPrefixOf (trimStart line) then some .tildes
  else none

/-- The prose among numbered lines, where `openFence` is the marker of the fence that is open in front of them. -/
def proseFrom (openFence : Option Fence) : List (Nat × Text) → List (Nat × Text)
  | [] => []
  | (n, line) :: rest =>
    match openFence, fenceOf line with
    | some f, some g => if f = g then proseFrom none rest else proseFrom openFence rest
    | some _, none => proseFrom openFence rest
    | none, some g => proseFrom (some g) rest
    | none, none => (n, line) :: proseFrom none rest

/-- The numbered lines of a page that its frontmatter block does not cover. -/
def uncoveredLines (page : Text) : List (Nat × Text) :=
  match locateBlock page with
  | some b => (numberedLines page).filter fun l => !b.covers l.1
  | none => numberedLines page

/-- The prose lines of a page with their numbers. -/
def proseLines (page : Text) : List (Nat × Text) := proseFrom none (uncoveredLines page)

end WikiSite
