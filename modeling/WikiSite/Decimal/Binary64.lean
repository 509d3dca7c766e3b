import WikiSite.Text.Basic
import WikiSite.Width

/-!
# Doubles

The numbers of IEEE double precision, as exact binary fractions: a finite double is `± mantissa · 2 ^ exponent`.
A decimal is read to the nearest double, a tie going to the even mantissa, and the reading is exact integer
arithmetic.
-/

namespace WikiSite

/-- A number of IEEE double precision. Of a finite one the mantissa is below `2 ^ 53` and the exponent at least
`-1074`; the mantissa is at least `2 ^ 52` unless the exponent is `-1074`. -/
inductive Binary64 where
  | finite (negative : Bool) (mantissa : Nat) (exponent : Int)
  | infinite (negative : Bool)
  | nan
  deriving DecidableEq, Repr

/-- A power of two or its inverse, as numerator and denominator. -/
def powerOfTwo (e : Int) : Nat × Nat :=
  match e with
  | .ofNat n => (Nat.pow 2 n, 1)
  | .negSucc n => (1, Nat.pow 2 (n + 1))

/-- A power of ten or its inverse, as numerator and denominator. -/
def powerOfTen (e : Int) : Nat × Nat :=
  match e with
  | .ofNat n => (Nat.pow 10 n, 1)
  | .negSucc n => (1, Nat.pow 10 (n + 1))

/-- The quotient rounded to the nearest natural number, a tie going to the even one. -/
def roundQuotient (num den : Nat) : Nat :=
  let q := num / den
  let r := num % den
  if 2 * r < den then q else if den < 2 * r then q + 1 else if q % 2 == 0 then q else q + 1

namespace Binary64

/-- The least mantissa of a double that is not close to zero, `2 ^ 52`. -/
def leastNormal : Nat := 4503599627370496

/-- Zero of either sign. -/
def zero (negative : Bool) : Binary64 := .finite negative 0 (-1074)

/-- The double nearest to the positive fraction `num / den`. -/
def ofFraction (negative : Bool) (num den : Nat) : Binary64 :=
  let guess : Int := (Nat.log2 num : Int) - Nat.log2 den - 53
  let scaled (e : Int) : Nat × Nat :=
    let (up, down) := powerOfTwo e
    (num * down, den * up)
  let e₀ := max guess (-1074)
  let (n₀, d₀) := scaled e₀
  let e := if n₀ / d₀ < 2 * leastNormal then e₀ else e₀ + 1
  let (n, d) := scaled e
  let m := roundQuotient n d
  let (m, e) := if m = 2 * leastNormal then (leastNormal, e + 1) else (m, e)
  if 971 < e then .infinite negative else if m = 0 then zero negative else .finite negative m e

/-- The double nearest to `± digits · 10 ^ exponent`. -/
def ofDecimal (negative : Bool) (digits : Nat) (exponent : Int) : Binary64 :=
  if digits = 0 then zero negative
  else
    let places : Int := (natText digits).length + exponent
    if 310 < places then .infinite negative
    else if places < -330 then zero negative
    else
      let (up, down) := powerOfTen exponent
      ofFraction negative (digits * up) down

/-- The double nearest to an integer. -/
def ofInt (n : Int) : Binary64 := ofDecimal (n < 0) n.natAbs 0

/-- Whether the number is neither infinite nor `nan`. -/
def isFinite : Binary64 → Bool
  | .finite .. => true
  | _ => false

/-- Whether the number is zero, of either sign. -/
def isZero : Binary64 → Bool
  | .finite _ m _ => m == 0
  | _ => false

/-- Equality as numbers, under which `nan` equals itself and the two zeros are equal. -/
def same (a b : Binary64) : Bool := a == b || (a.isZero && b.isZero)

/-- The nearest natural number, halves rounded up; negative numbers and `nan` give 0 and numbers from `2 ^ 64` on
give `2 ^ 64 - 1`. -/
def toNat64 : Binary64 → Nat
  | .finite negative m e =>
    if negative then 0
    else
      let (up, down) := powerOfTwo e
      min ((2 * m * up + down) / (2 * down)) (limit64 - 1)
  | .infinite negative => if negative then 0 else limit64 - 1
  | .nan => 0

end Binary64

/-! ### Reading decimals -/

/-- The natural number written by decimal digits. -/
def natOfDigits (digits : Text) : Nat := digits.foldl (fun n c => n * 10 + (c.toNat - '0'.toNat)) 0

/-- Splits a leading sign off; `true` for a minus. -/
def cutSign : Text → Bool × Text
  | '-' :: rest => (true, rest)
  | '+' :: rest => (false, rest)
  | t => (false, t)

/-- Reads `digits [. digits] [e [sign] digits]` with a digit before or after the point, after an optional sign. -/
def Binary64.ofText? (t : Text) : Option Binary64 :=
  let (negative, t) := cutSign t
  let whole := t.takeWhile isDigit
  let rest := t.dropWhile isDigit
  let (fraction, rest) :=
    match rest with
    | '.' :: r => (r.takeWhile isDigit, r.dropWhile isDigit)
    | r => ([], r)
  if whole.isEmpty && fraction.isEmpty then none
  else
    let digits := natOfDigits (whole ++ fraction)
    match rest with
    | [] => some (.ofDecimal negative digits (-(fraction.length : Int)))
    | e :: r =>
      if e == 'e' || e == 'E' then
        let (minus, r) := cutSign r
        if r.isEmpty || !r.all isDigit then none
        else
          let n : Int := natOfDigits r
          some (.ofDecimal negative digits ((if minus then -n else n) - fraction.length))
      else none

end WikiSite
