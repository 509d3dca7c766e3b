import WikiSite.Text.Basic
import WikiSite.Text.Lowercase

/-!
# Host names in ASCII

A label of a host name that holds other characters is written in ASCII behind the mark `xn--`: its ASCII characters
first, then the others as gaps in their order and place, in digits of varying weight. `encode` writes a label without
the mark and `decode` reads one back.
-/

namespace WikiSite

namespace Punycode

/-- How the threshold of the digits changes after a gap, given the number of characters with the one just written. -/
def adapt (gap count : Nat) (first : Bool) : Nat :=
  let gap := if first then gap / 700 else gap / 2
  reduce gap (gap + gap / count) 0
where
  /-- Divides until the digits suffice; the first argument bounds the number of steps. -/
  reduce : Nat → Nat → Nat → Nat
    | 0, gap, k => k + 36 * gap / (gap + 38)
    | fuel + 1, gap, k => if 455 < gap then reduce fuel (gap / 35) (k + 36) else k + 36 * gap / (gap + 38)

/-- The threshold of the digit at place `k`. -/
def threshold (k bias : Nat) : Nat := if k ≤ bias then 1 else if bias + 26 ≤ k then 26 else k - bias

/-- A digit: letters first, then the decimal digits. -/
def digit (n : Nat) : Char := if n < 26 then Char.ofNat (97 + n) else Char.ofNat (22 + n)

/-- The value of a digit. -/
def digitValue? (c : Char) : Option Nat :=
  if 'a' ≤ c && c ≤ 'z' then some (c.toNat - 97)
  else if '0' ≤ c && c ≤ '9' then some (c.toNat - 22)
  else none

/-! ### Writing -/

/-- A gap in digits, from place `k` on. -/
def gapDigits (bias : Nat) : Nat → Nat → Nat → Text
  | 0, _, _ => []
  | fuel + 1, k, q =>
    let t := threshold k bias
    if q < t then [digit q] else digit (t + (q - t) % (36 - t)) :: gapDigits bias fuel (k + 36) ((q - t) / (36 - t))

/-- The state of the writer. -/
structure Writing where
  out : Text
  gap : Nat
  bias : Nat
  /-- Number of characters written. -/
  count : Nat
  /-- Whether only ASCII characters were written. -/
  first : Bool

/-- Writes the places of the character `n`, where the text is passed over once. -/
def writeChar (n : Nat) (w : Writing) (c : Char) : Writing :=
  if c.toNat < n then { w with gap := w.gap + 1 }
  else if c.toNat = n then
    { out := w.out ++ gapDigits w.bias (w.gap + 1) 36 w.gap
      gap := 0
      bias := adapt w.gap (w.count + 1) w.first
      count := w.count + 1
      first := false }
  else w

/-- Writes the characters of a text that are no ASCII, in increasing order; the next number to be looked for is `n`. -/
def writeFrom (t : Text) : Nat → List Nat → Writing → Writing
  | _, [], w => w
  | n, m :: rest, w =>
    let w := t.foldl (writeChar m) { w with gap := w.gap + (m - n) * (w.count + 1) }
    writeFrom t (m + 1) rest { w with gap := w.gap + 1 }

private def isAsciiChar (c : Char) : Bool := c.toNat < 0x80

/-- A label without its mark. -/
def encode (t : Text) : Text :=
  let ascii := t.filter isAsciiChar
  let others := (((t.filter fun c => !isAsciiChar c).map Char.toNat).eraseDups).mergeSort (· ≤ ·)
  let start : Writing := ⟨ascii ++ (if ascii.isEmpty then [] else ['-']), 0, 72, ascii.length, true⟩
  (writeFrom t 128 others start).out

/-! ### Reading -/

/-- Reads a gap, where `place` is the weight of the next digit. -/
def readGap (bias : Nat) : Nat → Nat → Nat → Text → Option (Nat × Text)
  | _, _, _, [] => none
  | k, place, gap, c :: rest =>
    match digitValue? c with
    | none => none
    | some d =>
      let t := threshold k bias
      let gap := gap + d * place
      if d < t then some (gap, rest) else readGap bias (k + 36) (place * (36 - t)) gap rest

/-- Puts the characters that the gaps stand for in their places. -/
def readGaps : Nat → Nat → Nat → Nat → Bool → Text → Text → Option Text
  | 0, _, _, _, _, _, _ => none
  | fuel + 1, n, i, bias, first, out, t =>
    if t.isEmpty then some out
    else
      match readGap bias 36 1 0 t with
      | none => none
      | some (gap, rest) =>
        let count := out.length + 1
        let n := n + (i + gap) / count
        let i := (i + gap) % count
        if 0x110000 ≤ n || (0xD800 ≤ n && n < 0xE000) then none
        else
          readGaps fuel n (i + 1) (adapt gap count first) false (out.take i ++ Char.ofNat n :: out.drop i) rest

/-- The label that a text without its mark stands for. -/
def decode (t : Text) : Option Text :=
  match cutAfterLast (· == '-') t with
  | some (ascii, rest) => readGaps (t.length + 1) 128 0 72 true ascii.dropLast rest
  | none => readGaps (t.length + 1) 128 0 72 true [] t

end Punycode

/-! ### Host names -/

/-- Characters that do not count in a host name. -/
def isIgnoredInHost (c : Char) : Bool :=
  let n := c.toNat
  n == 0xAD || n == 0x34F || (0x180B ≤ n && n ≤ 0x180F) || n == 0x200B || n == 0x2060 || (0xFE00 ≤ n && n ≤ 0xFE0F) ||
    n == 0xFEFF

/-- A wide form of an ASCII character as that character, and an ideographic full stop as a point. -/
def narrow (c : Char) : Char :=
  if 0xFF01 ≤ c.toNat && c.toNat ≤ 0xFF5E then Char.ofNat (c.toNat - 0xFEE0)
  else if c.toNat == 0x3002 || c.toNat == 0xFF61 then '.'
  else c

private def hostMark : Text := "xn--".toList

/-- Whether the character is one of the controls above ASCII. -/
private def isUpperControl (c : Char) : Bool := 0x80 ≤ c.toNat && c.toNat < 0xA0

/-- A label of a host name in ASCII; a label with the mark must be one that is written so. -/
def asciiLabel? (label : Text) : Option Text :=
  match withoutStart hostMark label with
  | some body =>
    match Punycode.decode body with
    | some t =>
      if t.all (fun c => c.toNat < 0x80) || t.any isUpperControl || Punycode.encode t != body then none else some label
    | none => none
  | none =>
    if label.all fun c => c.toNat < 0x80 then some label
    else if label.any isUpperControl then none
    else some (hostMark ++ Punycode.encode label)

/-- A host name in lower case and in ASCII. -/
def asciiHost? (host : Text) : Option Text :=
  let host := lower ((host.filter fun c => !isIgnoredInHost c).map narrow)
  ((splitWhere (· == '.') host).mapM asciiLabel?).map (joinWith ['.'])

end WikiSite
