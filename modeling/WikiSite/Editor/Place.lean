import WikiSite.Text.Column

/-!
# Places in a document

Positions and ranges as an editor sends and receives them, and edits that replace a range of one line.
-/

namespace WikiSite

/-- A position in a document: line and column, counted from 0. -/
structure Position where
  line : Nat
  character : Nat
  deriving DecidableEq, Repr

/-- The stretch between two positions. -/
structure Range where
  first : Position
  last : Position
  deriving DecidableEq, Repr

namespace Range

/-- A stretch of one line. -/
def onLine (line first last : Nat) : Range := ⟨⟨line, first⟩, ⟨line, last⟩⟩

/-- The stretch of a line between columns that are cut down to 32 bits. -/
def cut (line first last : Nat) : Range := onLine line (first % limit32) (last % limit32)

/-- Columns that are numbers of 32 bits stay as they are. -/
theorem cut_eq {line first last : Nat} (hfirst : first < limit32) (hlast : last < limit32) :
    cut line first last = onLine line first last := by
  unfold cut
  rw [Nat.mod_eq_of_lt hfirst, Nat.mod_eq_of_lt hlast]

/-- The empty range at the start of a document. -/
def start : Range := onLine 0 0 0

end Range

/-- A replacement of a range by a text. -/
structure TextEdit where
  range : Range
  newText : Text
  deriving DecidableEq, Repr

/-- The line after an edit on it. -/
def TextEdit.applyToLine (e : TextEdit) (line : Text) : Text :=
  line.take e.range.first.character ++ e.newText ++ line.drop e.range.last.character

end WikiSite
