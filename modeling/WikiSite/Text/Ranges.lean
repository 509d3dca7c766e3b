/-!
# Sets of code points as ranges

A character class is a list of disjoint closed ranges in increasing order; membership stops at the first range
that begins above the code point.
-/

namespace WikiSite

/-- Whether `n` lies in one of the closed ranges, which are disjoint and in increasing order. -/
def inRanges (n : Nat) : List (Nat × Nat) → Bool
  | [] => false
  | (lo, hi) :: rest => if n < lo then false else if n ≤ hi then true else inRanges n rest

/-- A run of code points `first, first + step, …, last`, each moved by `shift`. -/
structure ShiftRun where
  first : Nat
  last : Nat
  step : Nat
  shift : Int

/-- The code point that `n` is moved to by the runs, which are in increasing order; `n` itself when no run
holds it. -/
def shiftBy (n : Nat) : List ShiftRun → Nat
  | [] => n
  | r :: rest =>
    if n < r.first then n
    else if n ≤ r.last && (n - r.first) % r.step == 0 then ((n : Int) + r.shift).toNat
    else shiftBy n rest

end WikiSite
