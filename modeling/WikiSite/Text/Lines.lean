import WikiSite.Text.Basic

/-!
# Lines

Two views of the lines of a text that number them alike. `linesWithEnds` keeps each line's terminator, so the text
is their concatenation; `lines` drops a line feed and a carriage return in front of it. A carriage return that no
line feed follows belongs to its line, and a final line feed opens no further line.
-/

namespace WikiSite

/-- The lines with their terminators. -/
def linesWithEnds : Text → List Text
  | [] => []
  | c :: rest =>
    if c == '\n' then [c] :: linesWithEnds rest
    else
      match linesWithEnds rest with
      | [] => [[c]]
      | line :: later => (c :: line) :: later

/-- A line without its terminator. -/
def chomp (line : Text) : Text :=
  match line.reverse with
  | '\n' :: '\r' :: rest => rest.reverse
  | '\n' :: rest => rest.reverse
  | _ => line

/-- The lines without their terminators. -/
def lines (t : Text) : List Text := (linesWithEnds t).map chomp

/-- Line number `n`, empty when there is none. -/
def lineAt (t : Text) (n : Nat) : Text := ((lines t)[n]?).getD []

/-- The list with the position of each entry, from `n` on. -/
def numberFrom {α : Type} (n : Nat) : List α → List (Nat × α)
  | [] => []
  | a :: rest => (n, a) :: numberFrom (n + 1) rest

/-- The lines with their numbers, counted from 0. -/
def numberedLines (t : Text) : List (Nat × Text) := numberFrom 0 (lines t)

end WikiSite
