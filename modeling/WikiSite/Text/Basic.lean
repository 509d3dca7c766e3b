import WikiSite.Text.Blank

/-!
# Text

A text is the list of its Unicode scalar values, so a column is a position of the list and a span is a stretch of
it. This module holds the cutting and joining operations that the rest of the library is written in.
-/

namespace WikiSite

/-- Text as the list of its Unicode scalar values. -/
abbrev Text := List Char

/-! ### Trimming -/

/-- Drops the longest stretch at the end whose characters satisfy `p`. -/
def dropEndWhile (p : Char → Bool) (t : Text) : Text := (t.reverse.dropWhile p).reverse

/-- The text without blanks at its start. -/
def trimStart (t : Text) : Text := t.dropWhile isBlank

/-- The text without blanks at its end. -/
def trimEnd (t : Text) : Text := dropEndWhile isBlank t

/-- The text without blanks at either end. -/
def trim (t : Text) : Text := trimEnd (trimStart t)

/-- The text without characters satisfying `p` at either end. -/
def trimBoth (p : Char → Bool) (t : Text) : Text := dropEndWhile p (t.dropWhile p)

/-! ### Cutting -/

/-- The texts before and after the first character `c`. -/
def cutAtChar (c : Char) : Text → Option (Text × Text)
  | [] => none
  | d :: rest =>
    if d == c then some ([], rest)
    else (cutAtChar c rest).map fun (before, after) => (d :: before, after)

/-- The texts before and after the first occurrence of the pattern. -/
def cutAt (pat : Text) : Text → Option (Text × Text)
  | [] => if pat.isEmpty then some ([], []) else none
  | c :: rest =>
    if pat.isPrefixOf (c :: rest) then some ([], (c :: rest).drop pat.length)
    else (cutAt pat rest).map fun (before, after) => (c :: before, after)

/-- Whether the pattern occurs in the text. -/
def occursIn (pat : Text) (t : Text) : Bool := (cutAt pat t).isSome

/-- The pieces between the characters that satisfy `p`; always at least one. -/
def splitWhere (p : Char → Bool) : Text → List Text
  | [] => [[]]
  | c :: rest =>
    if p c then [] :: splitWhere p rest
    else
      match splitWhere p rest with
      | [] => [[c]]
      | piece :: pieces => (c :: piece) :: pieces

/-- The texts after the last character satisfying `p`, and whether there is one. -/
def cutAfterLast (p : Char → Bool) (t : Text) : Option (Text × Text) :=
  match t.reverse.dropWhile (fun c => !p c) with
  | [] => none
  | c :: before => some (before.reverse ++ [c], t.drop (before.length + 1))

/-- The text after the given beginning, if it begins so. -/
def withoutStart (start : Text) (t : Text) : Option Text :=
  if start.isPrefixOf t then some (t.drop start.length) else none

/-- The text before the given end, if it ends so. -/
def withoutEnd (ending : Text) (t : Text) : Option Text :=
  if ending.isSuffixOf t then some (t.take (t.length - ending.length)) else none

/-! ### Joining and replacing -/

/-- The texts one after another with `sep` between them. -/
def joinWith (sep : Text) : List Text → Text
  | [] => []
  | [t] => t
  | t :: rest => t ++ sep ++ joinWith sep rest

/-- A natural number in decimal digits. -/
def natText (n : Nat) : Text := Nat.toDigits 10 n

/-- An integer in decimal digits, with a sign when it is negative. -/
def intText : Int → Text
  | .ofNat n => natText n
  | .negSucc n => '-' :: natText (n + 1)

/-! ### Letters of the basic alphabet -/

/-- Whether `c` is one of `a`–`z` or `A`–`Z`. -/
def isAsciiLetter (c : Char) : Bool := c.isAlpha

/-- Whether `c` is one of `0`–`9`. -/
def isDigit (c : Char) : Bool := c.isDigit

/-- The value of a hexadecimal digit. -/
def hexDigit? (c : Char) : Option Nat :=
  if '0' ≤ c && c ≤ '9' then some (c.toNat - '0'.toNat)
  else if 'a' ≤ c && c ≤ 'f' then some (c.toNat - 'a'.toNat + 10)
  else if 'A' ≤ c && c ≤ 'F' then some (c.toNat - 'A'.toNat + 10)
  else none

/-- The number written by digits of a base up to sixteen; no digits write zero. -/
def digitsValue? (base : Nat) (t : Text) : Option Nat :=
  t.foldl (fun n c => do
    let n ← n
    let d ← hexDigit? c
    if d < base then some (n * base + d) else none) (some 0)

/-- Equality up to the case of the letters `a`–`z`; all other characters must agree. -/
def sameLetters (a b : Text) : Bool := a.map Char.toLower == b.map Char.toLower

/-- The order of texts by code points. -/
def textBefore (a b : Text) : Bool := decide (a < b)

end WikiSite
