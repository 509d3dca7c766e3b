import WikiSite.Decimal.Binary64

/-!
# Shortest decimals

The text of a double has the fewest digits that read back as it, and of those the nearest. Two styles write the
digits: data formats keep a fraction (`1.0`) and use an exponent outside `10^-5 … 10^16`; settings write every
number positionally and without a superfluous fraction.
-/

namespace WikiSite

/-- A positive decimal `digits · 10 ^ exponent` whose last digit is not zero. -/
structure Decimal where
  digits : Nat
  exponent : Int
  deriving Repr

namespace Decimal

/-- Moves trailing zeros of the digits into the exponent, at most `fuel` of them. -/
def strip : Nat → Nat → Int → Decimal
  | 0, digits, e => ⟨digits, e⟩
  | fuel + 1, digits, e => if digits % 10 == 0 then strip fuel (digits / 10) (e + 1) else ⟨digits, e⟩

/-- The number of decimal places before the point of the positive fraction `num / den`, minus one: the exponent of
its first digit. -/
def leadingPlace (num den : Nat) : Int :=
  let guess : Int := (natText num).length - (natText den).length
  let (up, down) := powerOfTen guess
  if num * down < den * up then guess - 1 else guess

/-- On the grid of multiples of `10 ^ place`, the neighbour of `num / den` nearest to it among those in the interval
from `low / den` to `high / den`, whose ends count when `closed` is set. -/
def onGrid (num low high den : Nat) (closed : Bool) (place : Int) : Option Nat :=
  let (up, down) := powerOfTen place
  let n := num * down
  let unit := den * up
  let inside (k : Nat) : Bool :=
    if closed then low * down ≤ k * unit && k * unit ≤ high * down
    else low * down < k * unit && k * unit < high * down
  let below := n / unit
  let above := below + 1
  let nearer := roundQuotient n unit
  match inside below, inside above with
  | true, true => some nearer
  | true, false => if below = 0 then none else some below
  | false, true => some above
  | false, false => none

/-- The first grid with a hit, trying `fuel` grids from `place` downwards. -/
def firstHit (num low high den : Nat) (closed : Bool) : Nat → Int → Decimal
  | 0, place => strip 20 (num * (powerOfTen place).2 / (den * (powerOfTen place).1)) place
  | fuel + 1, place =>
    match onGrid num low high den closed place with
    | some k => strip 20 k place
    | none => firstHit num low high den closed fuel (place - 1)

/-- The shortest decimal that reads back as the positive double `mantissa · 2 ^ exponent`. -/
def shortest (mantissa : Nat) (exponent : Int) : Decimal :=
  let (up, down) := powerOfTwo exponent
  let num := 4 * mantissa * up
  let den := 4 * down
  let low := if mantissa == Binary64.leastNormal && -1074 < exponent then num - up else num - 2 * up
  firstHit num low (num + 2 * up) den (mantissa % 2 == 0) 17 (leadingPlace num den)

/-- The text with a point `point` digits after the start of the digits, padded by zeros on either side. -/
def positional (digits : Text) (point : Int) (keepFraction : Bool) : Text :=
  if point ≤ 0 then '0' :: '.' :: (List.replicate (-point).toNat '0' ++ digits)
  else
    let p := point.toNat
    if digits.length ≤ p then
      digits ++ List.replicate (p - digits.length) '0' ++ (if keepFraction then ['.', '0'] else [])
    else digits.take p ++ '.' :: digits.drop p

end Decimal

namespace Binary64

/-- The text of a finite double in data: positional from `10^-5` to `10^16` with a fraction kept, else with an
exponent. Infinities and `nan` are written as `.inf`, `-.inf` and `.nan`. -/
def dataText : Binary64 → Text
  | .finite negative m e =>
    let sign : Text := if negative then ['-'] else []
    if m = 0 then sign ++ "0.0".toList
    else
      let d := Decimal.shortest m e
      let digits := natText d.digits
      let point := (digits.length : Int) + d.exponent
      if -5 < point && point ≤ 16 then sign ++ Decimal.positional digits point true
      else
        let whole := digits.take 1
        let fraction := if digits.length = 1 then [] else '.' :: digits.drop 1
        sign ++ whole ++ fraction ++ 'e' :: intText (point - 1)
  | .infinite negative => if negative then "-.inf".toList else ".inf".toList
  | .nan => ".nan".toList

/-- The text of a double written positionally, without a fraction when it is whole. -/
def plainText : Binary64 → Text
  | .finite negative m e =>
    let sign : Text := if negative then ['-'] else []
    if m = 0 then sign ++ ['0']
    else
      let d := Decimal.shortest m e
      let digits := natText d.digits
      sign ++ Decimal.positional digits ((digits.length : Int) + d.exponent) false
  | .infinite negative => if negative then "-inf".toList else "inf".toList
  | .nan => "NaN".toList

end Binary64

end WikiSite
