import WikiSite.Proofs.Text.Cutting
import WikiSite.Text.Lowercase

/-!
# Lower case

Only a capital sigma is lowered by its neighbours. So a text whose characters stay on their own stays as a whole
(`lower_eq_self`), as a text of blanks does, and who passes over both forms of the small sigma reads the parts of a
text one by one (`filter_lower_append`).
-/

namespace WikiSite

/-! ### Characters that stay -/

theorem exists_of_inRanges {n : Nat} {ranges : List (Nat × Nat)} (h : inRanges n ranges = true) :
    ∃ r ∈ ranges, r.1 ≤ n ∧ n ≤ r.2 := by
  induction ranges with
  | nil => cases h
  | cons r ranges ih =>
    rw [inRanges] at h
    split at h
    · cases h
    · split at h
      · exact ⟨r, List.mem_cons_self, by omega, by omega⟩
      · obtain ⟨s, hs, hn⟩ := ih h
        exact ⟨s, List.mem_cons_of_mem r hs, hn⟩

private theorem lowerChar_blankRanges :
    ∀ r ∈ blankRanges, ∀ n ∈ List.range' r.1 (r.2 + 1 - r.1), lowerChar (Char.ofNat n) = [Char.ofNat n] := by
  decide +kernel

theorem lowerChar_of_isBlank {c : Char} (h : isBlank c = true) : lowerChar c = [c] := by
  obtain ⟨r, hr, hfirst, hlast⟩ := exists_of_inRanges h
  have hc := lowerChar_blankRanges r hr c.toNat (List.mem_range'_1.2 (by omega))
  rwa [Char.ofNat_toNat] at hc

/-! ### Texts -/

private theorem lowerFrom_eq_self {t : List Char} (h : ∀ c ∈ t, c ≠ 'Σ' ∧ lowerChar c = [c]) (before : List Char) :
    lowerFrom before t = t := by
  induction t generalizing before with
  | nil => rfl
  | cons c t ih =>
    obtain ⟨⟨hsigma, hc⟩, ht⟩ := List.forall_mem_cons.1 h
    rw [lowerFrom, if_neg (by simpa using hsigma), hc, ih ht]
    rfl

theorem lower_eq_self {t : List Char} (h : ∀ c ∈ t, c ≠ 'Σ' ∧ lowerChar c = [c]) : lower t = t :=
  lowerFrom_eq_self h []

theorem lower_of_isBlank {t : List Char} (h : ∀ c ∈ t, isBlank c = true) : lower t = t := by
  refine lower_eq_self fun c hc => ⟨?_, lowerChar_of_isBlank (h c hc)⟩
  rintro rfl
  have hsigma := h 'Σ' hc
  revert hsigma
  decide

/-- Without the small sigmas, every character is lowered on its own. -/
private theorem filter_lowerFrom {p : Char → Bool} (hsigma : p 'σ' = false) (hfinal : p 'ς' = false)
    (before t : List Char) : (lowerFrom before t).filter p = (t.flatMap lowerChar).filter p := by
  induction t generalizing before with
  | nil => rfl
  | cons c t ih =>
    rw [lowerFrom, List.flatMap_cons, List.filter_append, List.filter_append, ih]
    congr 1
    split
    · rename_i hc
      have hlowered : lowerChar c = ['σ'] := by
        rw [eq_of_beq hc]
        decide +kernel
      rw [hlowered]
      split <;> simp [hsigma, hfinal]
    · rfl

theorem filter_lower_append {p : Char → Bool} (hsigma : p 'σ' = false) (hfinal : p 'ς' = false) (s t : List Char) :
    (lower (s ++ t)).filter p = (lower s).filter p ++ (lower t).filter p := by
  unfold lower
  simp only [filter_lowerFrom hsigma hfinal, List.flatMap_append, List.filter_append]

end WikiSite
