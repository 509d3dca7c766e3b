import WikiSite.Text.Lines

/-!
# The frontmatter block

A page may open with a block of metadata between two delimiter lines `---`. The opening one must be the first line
of the page, byte order marks in front of it apart; blanks after a delimiter do not count. A block that is never
closed reaches to the end of the page.
-/

namespace WikiSite

/-- The delimiter of a frontmatter block. -/
def delimiter : Text := ['-', '-', '-']

/-- Whether the line delimits a frontmatter block. -/
def isDelimiter (line : Text) : Bool := trimEnd line == delimiter

/-- The position of a frontmatter block: the numbers of its delimiter lines. -/
structure Block where
  /-- Line of the opening delimiter. -/
  first : Nat
  /-- Line of the closing delimiter, when there is one. -/
  last : Option Nat
  deriving DecidableEq, Repr

namespace Block

/-- Whether the line lies strictly between the delimiters. -/
def contains (b : Block) (line : Nat) : Bool :=
  b.first < line && (match b.last with | some l => line < l | none => true)

/-- Whether the line belongs to the block, delimiters included. -/
def covers (b : Block) (line : Nat) : Bool :=
  b.first ≤ line && (match b.last with | some l => line ≤ l | none => true)

end Block

/-- The byte order mark. -/
def byteOrderMark : Char := Char.ofNat 0xFEFF

/-- Finds the block among the lines of a page. -/
def blockOfLines : List Text → Option Block
  | [] => none
  | first :: rest =>
    if isDelimiter (first.dropWhile (· == byteOrderMark)) then
      some ⟨0, (rest.findIdx? isDelimiter).map (· + 1)⟩
    else none

/-- Finds the frontmatter block of a page. -/
def locateBlock (page : Text) : Option Block := blockOfLines (lines page)

/-- Whether the line lies strictly between the delimiters of the page's block. -/
def inFrontmatter (page : Text) (line : Nat) : Bool :=
  match locateBlock page with
  | some b => b.contains line
  | none => false

end WikiSite
