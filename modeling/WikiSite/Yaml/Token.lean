import WikiSite.Text.Basic

/-!
# YAML tokens

The tokens of a YAML text and the characters they are made of. Positions are kept with the remaining text: a key must
stand on one line with its colon, and indentation decides where block collections begin and end.
-/

namespace WikiSite

namespace Yaml

/-- A token of a YAML text. -/
inductive Token where
  | version (major minor : Nat)
  | tagHandle (handle target : Text)
  | documentStart
  | documentEnd
  | blockSequence
  | blockMapping
  | blockEnd
  | flowSequence
  | flowSequenceEnd
  | flowMapping
  | flowMappingEnd
  | blockEntry
  | flowEntry
  | key
  | value
  | alias (name : Text)
  | anchor (name : Text)
  | tag (handle suffix : Text)
  | scalar (plain : Bool) (text : Text)
  deriving DecidableEq, Repr

/-! ### Characters -/

/-- Whether the character is allowed in a YAML text. -/
def isAllowed (c : Char) : Bool :=
  let n := c.toNat
  n == 0x09 || n == 0x0A || n == 0x0D || (0x20 ≤ n && n ≤ 0x7E) || n == 0x85 || (0xA0 ≤ n && n ≤ 0xD7FF) ||
    (0xE000 ≤ n && n ≤ 0xFFFD) || 0x10000 ≤ n

/-- Whether the character ends a line. -/
def isBreak (c : Char) : Bool :=
  c == '\r' || c == '\n' || c.toNat == 0x85 || c.toNat == 0x2028 || c.toNat == 0x2029

/-- Whether the character is a space or a tab. -/
def isGap (c : Char) : Bool := c == ' ' || c == '\t'

/-- Whether the text is at its end or starts with a space, a tab or a line break. -/
def atGap : Text → Bool
  | [] => true
  | c :: _ => isGap c || isBreak c

/-- Whether the character may stand in the name of an anchor. -/
def isNameChar (c : Char) : Bool := isAsciiLetter c || isDigit c || c == '_' || c == '-'

/-! ### Positions -/

/-- The remaining text and its position. -/
structure Spot where
  rest : Text
  index : Nat
  line : Nat
  column : Nat
  deriving Repr

namespace Spot

/-- Passes over `n` characters of the line. -/
def skip (s : Spot) (n : Nat) : Spot := ⟨s.rest.drop n, s.index + n, s.line, s.column + n⟩

/-- Passes over the longest stretch of characters satisfying `p`, which no line break does. -/
def skipWhile (p : Char → Bool) (s : Spot) : Spot := s.skip (s.rest.takeWhile p).length

/-- Passes over one line break, when there is one. -/
def skipBreak (s : Spot) : Spot :=
  match s.rest with
  | '\r' :: '\n' :: rest => ⟨rest, s.index + 2, s.line + 1, 0⟩
  | c :: rest => if isBreak c then ⟨rest, s.index + 1, s.line + 1, 0⟩ else s
  | [] => s

/-- What a line break at the position adds to a scalar: a line feed, or one of the two Unicode separators. -/
def breakText (s : Spot) : Text :=
  match s.rest with
  | c :: _ => if c.toNat == 0x2028 || c.toNat == 0x2029 then [c] else if isBreak c then ['\n'] else []
  | [] => []

/-- Whether a document marker made of three such characters stands at the start of a line here. -/
def atMarker (s : Spot) (c : Char) : Bool :=
  s.column == 0 && [c, c, c].isPrefixOf s.rest && atGap (s.rest.drop 3)

/-- Whether either document marker stands here. -/
def atAnyMarker (s : Spot) : Bool := s.atMarker '-' || s.atMarker '.'

end Spot

/-! ### Blanks inside scalars -/

/-- The blanks between two stretches of a scalar that is written over several lines. -/
structure Gap where
  /-- Blanks before the first line break. -/
  spaces : Text
  /-- The first line break. -/
  leading : Text
  /-- The line breaks after it. -/
  trailing : Text
  /-- Whether a line has ended. -/
  broken : Bool

/-- What the gap becomes in the scalar: one line break folds to a space, more of them lose the first. -/
def Gap.text (g : Gap) : Text :=
  if !g.broken then g.spaces
  else if g.leading.head? == some '\n' then (if g.trailing.isEmpty then [' '] else g.trailing)
  else g.leading ++ g.trailing

/-- Reads the blanks and line breaks at a position. With a limit, a tab in the indentation below it is refused. -/
def readGap (limit : Option Int) : Nat → Gap → Spot → Option (Gap × Spot)
  | 0, g, s => some (g, s)
  | fuel + 1, g, s =>
    match s.rest with
    | [] => some (g, s)
    | c :: _ =>
      if isGap c then
        if g.broken && c == '\t' && (limit.any fun l => (s.column : Int) < l) then none
        else readGap limit fuel (if g.broken then g else { g with spaces := g.spaces ++ [c] }) (s.skip 1)
      else if isBreak c then
        let g' : Gap :=
          if g.broken then { g with trailing := g.trailing ++ s.breakText }
          else ⟨[], s.breakText, g.trailing, true⟩
        readGap limit fuel g' s.skipBreak
      else some (g, s)

end Yaml

end WikiSite
