import WikiSite.Text.Basic
import WikiSite.Width

/-!
# Columns

Analysis counts columns in characters. Here they are converted to and from UTF-8 byte offsets and the units in
which a client counts: UTF-16 code units or characters. A client column inside a surrogate pair moves to the next
character.
-/

namespace WikiSite

/-- Bytes of the text in UTF-8. -/
def byteLength : Text → Nat
  | [] => 0
  | c :: rest => c.utf8Size + byteLength rest

/-- Byte offset of a column, clamped to the end of the line. -/
def byteOffset (line : Text) (column : Nat) : Nat := byteLength (line.take column)

/-- Number of characters that end at or before the byte offset. -/
def charColumn : Text → Nat → Nat
  | [], _ => 0
  | c :: rest, offset => if c.utf8Size ≤ offset then charColumn rest (offset - c.utf8Size) + 1 else 0

/-- The text of the line up to a column. -/
def textUpTo (line : Text) (column : Nat) : Text := line.take column

/-- How a client counts the characters of a line. -/
inductive PositionEncoding where
  | utf16
  | utf32
  deriving DecidableEq, Repr

/-- UTF-16 code units of one character. -/
def utf16Size (c : Char) : Nat := if c.toNat < 0x10000 then 1 else 2

/-- UTF-16 code units of a text. -/
def utf16Length : Text → Nat
  | [] => 0
  | c :: rest => utf16Size c + utf16Length rest

/-- The first column whose UTF-16 offset is at least `character`; the length of the line when there is none. -/
def utf16Column : Text → Nat → Nat
  | [], _ => 0
  | c :: rest, character => if character = 0 then 0 else utf16Column rest (character - utf16Size c) + 1

namespace PositionEncoding

/-- The column of a client's column. -/
def charColumn : PositionEncoding → Text → Nat → Nat
  | .utf16, line, character => utf16Column line character
  | .utf32, _, character => character

/-- The client's column of a column, a number of 32 bits. -/
def clientColumn : PositionEncoding → Text → Nat → Nat
  | .utf16, line, column => utf16Length (line.take column) % limit32
  | .utf32, _, column => column % limit32

end PositionEncoding

end WikiSite
