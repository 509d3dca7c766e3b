import WikiSite.Decimal.Binary64

/-!
# Written numbers

The decimal text of a natural number consists of digits, begins with a zero only when it is zero (`head?_natText`),
and is read back as the number (`natOfDigits_natText`).
-/

namespace WikiSite

theorem natText_ne_nil (n : Nat) : natText n ≠ [] := Nat.toDigits_ne_nil

theorem isDigit_of_mem_natText {n : Nat} {c : Char} (h : c ∈ natText n) : isDigit c = true :=
  Nat.isDigit_of_mem_toDigits (by decide) (by decide) h

/-- A digit is one of ten characters, which all lie between `U+0030` and `U+0039`. -/
theorem toNat_of_isDigit {c : Char} (h : isDigit c = true) : 48 ≤ c.toNat ∧ c.toNat ≤ 57 := by
  unfold isDigit Char.isDigit at h
  simp only [ge_iff_le, Bool.and_eq_true, decide_eq_true_eq, UInt32.le_iff_toNat_le] at h
  exact h

/-- Reading digits from the front multiplies what was read before by ten. -/
theorem natOfDigits_eq_ofDigitChars (digits : Text) (n : Nat) :
    digits.foldl (fun n c => n * 10 + (c.toNat - '0'.toNat)) n = Nat.ofDigitChars 10 digits n := by
  induction digits generalizing n with
  | nil => rfl
  | cons c digits ih =>
    rw [List.foldl_cons, Nat.ofDigitChars_cons, ih, Nat.mul_comm]

/-- The text of a number is read back as the number. -/
theorem natOfDigits_natText (n : Nat) : natOfDigits (natText n) = n := by
  unfold natOfDigits
  rw [natOfDigits_eq_ofDigitChars]
  exact Nat.ofDigitChars_ten_toDigits

/-- The text of a number other than zero begins with no zero. -/
theorem head?_natText {n : Nat} (h : 0 < n) : (natText n).head? ≠ some '0' := by
  unfold natText
  induction n using Nat.strongRecOn with
  | ind n ih =>
    by_cases hn : n < 10
    · rw [Nat.toDigits_of_lt_base hn, List.head?_cons, Ne, Option.some.injEq, Nat.digitChar_eq_zero]
      omega
    · have hh := ih (n / 10) (by omega) (by omega)
      rw [Nat.toDigits_of_base_le (by decide) (by omega), List.head?_append]
      cases e : (Nat.toDigits 10 (n / 10)).head? with
      | none => exact absurd (List.head?_eq_none_iff.1 e) Nat.toDigits_ne_nil
      | some c =>
        rw [Option.some_or, ← e]
        exact hh

end WikiSite
