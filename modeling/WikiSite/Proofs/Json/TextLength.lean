import WikiSite.Json.Reader
import WikiSite.Proofs.Json.WellFormed

/-!
# The length of texts that are read

An escape has more characters than what it stands for, so no text in a value is longer than the JSON text from which
the value was read (`textsWithin_of_read`). What carries the induction is a bound that is fixed from the start: from a
text within the bound every reader leaves a rest within the bound.
-/

namespace WikiSite

namespace Json

/-- Whether a value, apart from the values in it, is no text of more than `n` characters. -/
def textWithin (n : Nat) : Json → Bool
  | .str t => t.length ≤ n
  | _ => true

/-- No text in the value has more than `n` characters. -/
def TextsWithin (n : Nat) (v : Json) : Prop := v.all (textWithin n) = true

section

variable {n : Nat} {t rest : Text}

theorem TextsWithin.of_mem_items {items : List Json} (h : (Json.arr items).TextsWithin n) {v : Json} (hv : v ∈ items) :
    v.TextsWithin n := (all_arr.1 h).2 v hv

theorem TextsWithin.of_mem_members {members : List (Text × Json)} (h : (Json.obj members).TextsWithin n)
    {m : Text × Json} (hm : m ∈ members) : m.2.TextsWithin n := (all_obj.1 h).2 m hm

theorem textsWithin_str : (Json.str t).TextsWithin n ↔ t.length ≤ n := decide_eq_true_iff

/-! ### Strings -/

theorem prepend_eq_some {c : Char} {r : Option (Text × Text)} {s : Text} :
    prepend c r = some (s, rest) ↔ ∃ s', s = c :: s' ∧ r = some (s', rest) := by
  cases r with
  | none => simp [prepend]
  | some p =>
    obtain ⟨s', rest'⟩ := p
    simp only [prepend, Option.map_some, Option.some.injEq, Prod.mk.injEq]
    constructor
    · rintro ⟨rfl, rfl⟩
      exact ⟨s', rfl, rfl, rfl⟩
    · rintro ⟨_, rfl, rfl, rfl⟩
      exact ⟨rfl, rfl⟩

theorem readString_length {s : Text} (h : readString t = some (s, rest)) : s.length + rest.length < t.length := by
  fun_induction readString t generalizing s with
  | case2 rest' =>
    cases h
    simp
  | case6 | case9 | case11 | case13 =>
    rename_i ih
    obtain ⟨s', rfl, hs'⟩ := prepend_eq_some.1 h
    have hlength := ih hs'
    simp only [List.length_cons]
    omega
  | _ => cases h

/-! ### Numbers -/

theorem cutSign_suffix (t : Text) : (cutSign t).2 <:+ t := by
  unfold cutSign
  split
  · exact List.suffix_cons _ _
  · exact List.suffix_cons _ _
  · exact List.suffix_refl _

theorem takeDigits_suffix (k taken : Nat) (t : Text) : (takeDigits k taken t).2.2 <:+ t := by
  fun_induction takeDigits k taken t with
  | case1 => exact List.suffix_refl _
  | case2 k taken c rest hdigit ih => exact ih.trans (List.suffix_cons c rest)
  | case3 => exact List.suffix_refl _

theorem readExponent_suffix {negative : Bool} {k : Nat} {e : Int} {x : JsonNumber}
    (h : readExponent negative k e t = some (x, rest)) : rest <:+ t := by
  have hexponent : ∀ {c : Char} {u : Text}, (cutSign u).2.dropWhile isDigit <:+ c :: u := by
    intro c u
    exact ((List.dropWhile_suffix _).trans (cutSign_suffix u)).trans (List.suffix_cons c u)
  unfold readExponent at h
  split at h
  case h_1 | h_2 =>
    simp only at h
    split at h
    · cases h
    split at h
    · split at h
      · cases h
      · cases h
        exact hexponent
    · obtain ⟨d, -, heq⟩ := Option.map_eq_some_iff.1 h
      cases heq
      exact hexponent
  case h_3 =>
    obtain ⟨d, -, heq⟩ := Option.map_eq_some_iff.1 h
    cases heq
    exact List.suffix_refl _

theorem readFraction_suffix {negative : Bool} {k e : Nat} {x : JsonNumber}
    (h : readFraction negative k e t = some (x, rest)) : rest <:+ t := by
  unfold readFraction at h
  split at h
  · rename_i u
    simp only at h
    split at h
    · cases h
    · have hdigits := (List.dropWhile_suffix isDigit).trans (takeDigits_suffix k 0 u)
      exact ((readExponent_suffix h).trans hdigits).trans (List.suffix_cons _ u)
  · exact readExponent_suffix h

theorem readUnsigned_suffix {negative : Bool} {x : JsonNumber} (h : readUnsigned negative t = some (x, rest)) :
    rest <:+ t := by
  have hdigits := (List.dropWhile_suffix isDigit).trans (takeDigits_suffix 0 0 t)
  unfold readUnsigned at h
  simp only at h
  split at h
  · cases h
  split at h
  case h_1 | h_2 | h_3 =>
    exact (readFraction_suffix h).trans hdigits
  case h_4 =>
    split at h
    · obtain ⟨d, -, heq⟩ := Option.map_eq_some_iff.1 h
      cases heq
      exact hdigits
    split at h
    · cases h
      exact hdigits
    split at h
    · cases h
      exact hdigits
    · cases h
      exact hdigits

theorem readNumber_suffix {x : JsonNumber} (h : readNumber t = some (x, rest)) : rest <:+ t := by
  unfold readNumber at h
  split at h
  · exact (readUnsigned_suffix h).trans (List.suffix_cons _ _)
  · exact readUnsigned_suffix h

/-! ### Values -/

theorem skipSpace_length_le (t : Text) : (skipSpace t).length ≤ t.length := (List.dropWhile_suffix isSpace).length_le

theorem readWord_eq_some {word : String} {v w : Json} (h : readWord word v t = some (w, rest)) :
    w = v ∧ rest.length ≤ t.length := by
  unfold readWord withoutStart at h
  obtain ⟨u, hu, heq⟩ := Option.map_eq_some_iff.1 h
  cases heq
  split at hu
  · cases hu
    exact ⟨rfl, (List.drop_suffix _ t).length_le⟩
  · cases hu

/-- From a text within the bound the readers take values within the bound, and leave a rest within the bound. -/
structure ReadsWithin (n fuel : Nat) : Prop where
  value : ∀ depth t v rest, t.length ≤ n → readValue fuel depth t = some (v, rest) →
    v.TextsWithin n ∧ rest.length ≤ n
  items : ∀ depth t vs rest, t.length ≤ n → readItems fuel depth t = some (vs, rest) →
    (∀ v ∈ vs, v.TextsWithin n) ∧ rest.length ≤ n
  members : ∀ depth t ms rest, t.length ≤ n → readMembers fuel depth t = some (ms, rest) →
    (∀ m ∈ ms, m.2.TextsWithin n) ∧ rest.length ≤ n

theorem ReadsWithin.value_succ {fuel : Nat} (ih : ReadsWithin n fuel) {depth : Nat} {v : Json} (ht : t.length ≤ n)
    (h : readValue (fuel + 1) depth t = some (v, rest)) : v.TextsWithin n ∧ rest.length ≤ n := by
  unfold readValue at h
  split at h
  case h_2 | h_3 | h_4 =>
    obtain ⟨rfl, hrest⟩ := readWord_eq_some h
    exact ⟨rfl, by omega⟩
  · cases h
  · obtain ⟨⟨s, u⟩, hs, heq⟩ := Option.map_eq_some_iff.1 h
    cases heq
    have hlength := readString_length hs
    rw [List.length_cons] at ht
    exact ⟨textsWithin_str.2 (by omega), by omega⟩
  · rename_i u
    have hspace := skipSpace_length_le u
    rw [List.length_cons] at ht
    split at h
    · cases h
    split at h
    · rename_i hu
      cases h
      rw [hu, List.length_cons] at hspace
      exact ⟨rfl, by omega⟩
    · obtain ⟨⟨vs, w⟩, hvs, heq⟩ := Option.map_eq_some_iff.1 h
      cases heq
      obtain ⟨hitems, hrest⟩ := ih.items _ _ _ _ (by omega) hvs
      exact ⟨all_arr.2 ⟨rfl, hitems⟩, hrest⟩
  · rename_i u
    have hspace := skipSpace_length_le u
    rw [List.length_cons] at ht
    split at h
    · cases h
    split at h
    · rename_i hu
      cases h
      rw [hu, List.length_cons] at hspace
      exact ⟨rfl, by omega⟩
    · obtain ⟨⟨ms, w⟩, hms, heq⟩ := Option.map_eq_some_iff.1 h
      cases heq
      obtain ⟨hmembers, hrest⟩ := ih.members _ _ _ _ (by omega) hms
      exact ⟨all_obj.2 ⟨rfl, fun m hm => hmembers m (Table.mem_of_mem_ofEntries hm)⟩, hrest⟩
  · obtain ⟨⟨x, u⟩, hx, heq⟩ := Option.map_eq_some_iff.1 h
    cases heq
    have hlength := (readNumber_suffix hx).length_le
    exact ⟨rfl, by omega⟩

theorem ReadsWithin.items_succ {fuel : Nat} (ih : ReadsWithin n fuel) {depth : Nat} {vs : List Json} (ht : t.length ≤ n)
    (h : readItems (fuel + 1) depth t = some (vs, rest)) : (∀ v ∈ vs, v.TextsWithin n) ∧ rest.length ≤ n := by
  rw [readItems] at h
  split at h
  · cases h
  rename_i v u hv
  obtain ⟨hvalue, hu⟩ := ih.value _ _ _ _ ht hv
  have hspace := skipSpace_length_le u
  split at h
  · rename_i w hw
    obtain ⟨⟨ws, w'⟩, hws, heq⟩ := Option.map_eq_some_iff.1 h
    cases heq
    have hspace' := skipSpace_length_le w
    rw [hw, List.length_cons] at hspace
    obtain ⟨hitems, hrest⟩ := ih.items _ _ _ _ (by omega) hws
    exact ⟨List.forall_mem_cons.2 ⟨hvalue, hitems⟩, hrest⟩
  · rename_i w hw
    cases h
    rw [hw, List.length_cons] at hspace
    exact ⟨by simpa using hvalue, by omega⟩
  · cases h

theorem ReadsWithin.members_succ {fuel : Nat} (ih : ReadsWithin n fuel) {depth : Nat} {ms : List (Text × Json)}
    (ht : t.length ≤ n) (h : readMembers (fuel + 1) depth t = some (ms, rest)) :
    (∀ m ∈ ms, m.2.TextsWithin n) ∧ rest.length ≤ n := by
  unfold readMembers at h
  split at h
  · rename_i u
    split at h
    · cases h
    rename_i name u' hname
    have hlength := readString_length hname
    have hspace := skipSpace_length_le u'
    rw [List.length_cons] at ht
    split at h
    · rename_i w hw
      have hspace' := skipSpace_length_le w
      rw [hw, List.length_cons] at hspace
      split at h
      · cases h
      rename_i v w' hv
      obtain ⟨hvalue, hw'⟩ := ih.value _ _ _ _ (by omega) hv
      have hspace'' := skipSpace_length_le w'
      split at h
      · rename_i x hx
        obtain ⟨⟨ms', x'⟩, hms, heq⟩ := Option.map_eq_some_iff.1 h
        cases heq
        have hlast := skipSpace_length_le x
        rw [hx, List.length_cons] at hspace''
        obtain ⟨hmembers, hrest⟩ := ih.members _ _ _ _ (by omega) hms
        exact ⟨List.forall_mem_cons.2 ⟨hvalue, hmembers⟩, hrest⟩
      · rename_i x hx
        cases h
        rw [hx, List.length_cons] at hspace''
        exact ⟨by simpa using hvalue, by omega⟩
      · cases h
    · cases h
  · cases h

theorem readsWithin (n fuel : Nat) : ReadsWithin n fuel := by
  induction fuel with
  | zero =>
    refine ⟨?_, ?_, ?_⟩
    · intro depth t v rest _ h
      rw [readValue] at h
      cases h
    · intro depth t v rest _ h
      rw [readItems] at h
      cases h
    · intro depth t v rest _ h
      rw [readMembers] at h
      cases h
  | succ fuel ih =>
    exact ⟨fun _ _ _ _ ht h => ih.value_succ ht h, fun _ _ _ _ ht h => ih.items_succ ht h,
      fun _ _ _ _ ht h => ih.members_succ ht h⟩

/-- No text in a value is longer than the JSON text that holds the value. -/
theorem textsWithin_of_read {v : Json} (ht : t.length ≤ n) (h : read t = some v) : v.TextsWithin n := by
  unfold read at h
  split at h
  · rename_i w u hread
    split at h
    · cases h
      have hspace := skipSpace_length_le t
      exact ((readsWithin n _).value _ _ _ _ (by omega) hread).1
    · cases h
  · cases h

end

end Json

end WikiSite
