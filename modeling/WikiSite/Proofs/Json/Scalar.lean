import WikiSite.Json.Reader
import WikiSite.Json.Writer
import WikiSite.Proofs.Text.Decimal

/-!
# Reading written strings and numbers

A written character is read back whatever follows it (`readString_writeChar`), so a written string is read back up to
its closing quote (`readString_flatMap_writeChar`). A written integer of 64 bits is read back when the text after it
does not go on with the number (`readNumber_intText`).
-/

namespace WikiSite

namespace Json

/-! ### Strings -/

private theorem hex4?_control : ∀ n < 32, hex4? '0' '0' (Nat.digitChar (n / 16)) (Nat.digitChar (n % 16)) = some n := by
  decide

/-- A control character is read back from its four digits. -/
private theorem readString_hex {c : Char} (h : c.toNat < 0x20) (s : Text) :
    readString ('\\' :: 'u' :: '0' :: '0' :: Nat.digitChar (c.toNat / 16) :: Nat.digitChar (c.toNat % 16) :: s) =
      prepend c (readString s) := by
  rw [readString, hex4?_control c.toNat h]
  simp only [Bool.and_eq_true, decide_eq_true_eq]
  rw [if_neg (by omega), if_neg (by omega), Char.ofNat_toNat]

/-- A character that needs no escape is read as it stands. -/
private theorem readString_plain {c : Char} (hq : c ≠ '"') (hb : c ≠ '\\') (h : ¬c.toNat < 0x20) (s : Text) :
    readString (c :: s) = prepend c (readString s) := by
  rw [readString.eq_def]
  split
  · contradiction
  · simp_all
  · simp_all
  · simp_all
  · rename_i e
    cases e
    simp [h, hb]

/-- A written character is read back. -/
theorem readString_writeChar (c : Char) (s : Text) : readString (writeChar c ++ s) = prepend c (readString s) := by
  unfold writeChar
  simp only [beq_iff_eq]
  split
  · subst_vars; rfl
  split
  · subst_vars; rfl
  split
  · rename_i hc
    split
    · subst_vars; rfl
    split
    · subst_vars; rfl
    split
    · subst_vars; rfl
    split
    · rename_i h8
      rw [← Char.ofNat_toNat c, h8]
      rfl
    split
    · rename_i h12
      rw [← Char.ofNat_toNat c, h12]
      rfl
    exact readString_hex hc s
  · exact readString_plain ‹_› ‹_› ‹_› s

/-- A written string is read back up to its closing quote. -/
theorem readString_flatMap_writeChar (t rest : Text) :
    readString (t.flatMap writeChar ++ '"' :: rest) = some (t, rest) := by
  induction t with
  | nil => rfl
  | cons c t ih =>
    rw [List.flatMap_cons, List.append_assoc, readString_writeChar, ih]
    rfl

/-! ### Numbers -/

/-- The text does not go on with a number that ends in front of it. -/
def EndsNumber (rest : Text) : Prop := ∀ c ∈ rest.head?, isDigit c = false ∧ c ≠ '.' ∧ c ≠ 'e' ∧ c ≠ 'E'

private theorem le_ofDigitChars (digits : Text) (n : Nat) : n ≤ Nat.ofDigitChars 10 digits n := by
  rw [Nat.ofDigitChars_eq_ofDigitChars_zero]
  have := Nat.le_mul_of_pos_left n (Nat.pow_pos (show 0 < 10 by decide) : 0 < 10 ^ digits.length)
  omega

/-- Digits of a number that fits 64 bits are all taken up. -/
private theorem takeDigits_append {digits rest : Text} (hd : ∀ c ∈ digits, isDigit c = true) (hr : EndsNumber rest)
    {n : Nat} (hn : Nat.ofDigitChars 10 digits n ≤ largest64) (k : Nat) :
    takeDigits n k (digits ++ rest) = (Nat.ofDigitChars 10 digits n, k + digits.length, rest) := by
  induction digits generalizing n k with
  | nil =>
    cases rest with
    | nil => rfl
    | cons c rest =>
      have hc := (hr c rfl).1
      simp [takeDigits, hc]
  | cons c digits ih =>
    rw [Nat.ofDigitChars_cons, Nat.mul_comm] at hn
    have hle := le_ofDigitChars digits (n * 10 + (c.toNat - '0'.toNat))
    have hc : (isDigit c && decide (n * 10 + (c.toNat - '0'.toNat) ≤ largest64)) = true := by
      rw [hd c (List.mem_cons_self ..)]
      simpa using Nat.le_trans hle hn
    rw [List.cons_append, takeDigits, if_pos hc, ih (fun d h => hd d (List.mem_cons_of_mem _ h)) hn,
      Nat.ofDigitChars_cons, Nat.mul_comm 10, List.length_cons, Nat.add_assoc, Nat.add_comm 1]

private theorem takeWhile_isDigit_of_ends {rest : Text} (hr : EndsNumber rest) : rest.takeWhile isDigit = [] := by
  cases rest with
  | nil => rfl
  | cons c rest => simp [(hr c rfl).1]

private theorem dropWhile_isDigit_of_ends {rest : Text} (hr : EndsNumber rest) : rest.dropWhile isDigit = rest := by
  cases rest with
  | nil => rfl
  | cons c rest => simp [(hr c rfl).1]

/-- The text of a number of 64 bits, read without a sign or after a minus. -/
private theorem readUnsigned_natText (negative : Bool) {n : Nat} (hn : n < limit64) {rest : Text}
    (hr : EndsNumber rest) :
    readUnsigned negative (natText n ++ rest) =
      if !negative then some (.int n, rest)
      else if n == 0 || 9223372036854775808 < n then some (.real (.ofDecimal true n 0), rest)
      else some (.int (-(n : Int)), rest) := by
  have hd : ∀ c ∈ natText n, isDigit c = true := fun c => isDigit_of_mem_natText
  have htake : (natText n ++ rest).takeWhile isDigit = natText n := by
    rw [List.takeWhile_append_of_pos hd, takeWhile_isDigit_of_ends hr, List.append_nil]
  have hval : Nat.ofDigitChars 10 (natText n) 0 = n := Nat.ofDigitChars_ten_toDigits
  have hdigits := takeDigits_append hd hr (n := 0) (by rw [hval]; unfold largest64; omega) 0
  rw [hval, Nat.zero_add] at hdigits
  have hzero : ((natText n).isEmpty || ((natText n).head? == some '0' && (natText n).length != 1)) = false := by
    rcases Nat.eq_zero_or_pos n with rfl | hpos
    · rfl
    · simp [natText_ne_nil, head?_natText hpos]
  -- no digit is passed over, so the number stays an integer
  unfold readUnsigned
  simp only [htake, hzero, hdigits, Nat.sub_self, dropWhile_isDigit_of_ends hr]
  split
  · contradiction
  · split
    · exact absurd rfl (hr _ rfl).2.1
    · exact absurd rfl (hr _ rfl).2.2.1
    · exact absurd rfl (hr _ rfl).2.2.2
    · rfl

/-- A written integer of 64 bits is read back. -/
theorem readNumber_intText {n : Int} (hlo : -9223372036854775808 ≤ n) (hhi : n < limit64) {rest : Text}
    (hr : EndsNumber rest) : readNumber (intText n ++ rest) = some (.int n, rest) := by
  cases n with
  | ofNat n =>
    have hn : n < limit64 := Int.ofNat_lt.1 hhi
    obtain ⟨c, digits, e⟩ := List.exists_cons_of_ne_nil (natText_ne_nil n)
    have hc : c ≠ '-' := by
      rintro rfl
      have := isDigit_of_mem_natText (n := n) (by rw [e]; exact List.mem_cons_self ..)
      cases this
    have hu := readUnsigned_natText false hn hr
    rw [if_pos (by decide)] at hu
    unfold readNumber intText
    simp only [e, List.cons_append] at hu ⊢
    split
    · rename_i h
      exact absurd (List.cons.inj h).1 hc
    · exact hu
  | negSucc n =>
    have hu := readUnsigned_natText true (n := n + 1) (by unfold limit64; omega) hr
    rw [if_neg (by decide), if_neg (by simp; omega)] at hu
    exact hu

end Json

end WikiSite
