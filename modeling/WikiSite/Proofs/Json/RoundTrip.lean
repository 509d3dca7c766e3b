import WikiSite.Proofs.Json.Scalar
import WikiSite.Proofs.Json.WellFormed

/-!
# Reading written values

The compact text of a value whose numbers are integers of 64 bits is read back, with the members of its objects in
the order of their names (`read_write`). The only bound is on how deep its arrays and objects nest. What carries the
induction is `ReadsBack`: a value is found in front of any text that does not go on with a number, from as many steps
as its text has characters.
-/

namespace WikiSite

namespace Json

/-- Reading finds the written value in front of any text that does not go on with a number. -/
def ReadsBack (v : Json) : Prop :=
  ∀ fuel depth rest, v.write.length ≤ fuel → v.nesting < depth → EndsNumber rest →
    readValue fuel depth (v.write ++ rest) = some (v.sorted, rest)

theorem endsNumber_cons {c : Char} {rest : Text} (h : isDigit c = false ∧ c ≠ '.' ∧ c ≠ 'e' ∧ c ≠ 'E') :
    EndsNumber (c :: rest) := by
  intro d hd
  cases hd
  exact h

/-! ### The first character -/

/-- The text of an integer begins with a digit or a minus. -/
private theorem intText_cons (n : Int) : ∃ c t, intText n = c :: t ∧ (isDigit c = true ∨ c = '-') := by
  cases n with
  | ofNat n =>
    obtain ⟨c, t, e⟩ := List.exists_cons_of_ne_nil (natText_ne_nil n)
    exact ⟨c, t, e, .inl (isDigit_of_mem_natText (by rw [e]; exact List.mem_cons_self ..))⟩
  | negSucc n => exact ⟨'-', _, rfl, .inr rfl⟩

private theorem isDigit_or_minus_cases {c : Char} (h : isDigit c = true ∨ c = '-') :
    isSpace c = false ∧ c ≠ 'n' ∧ c ≠ 't' ∧ c ≠ 'f' ∧ c ≠ '"' ∧ c ≠ '[' ∧ c ≠ ']' ∧ c ≠ '\x7b' := by
  have hc : c.toNat = 45 ∨ 48 ≤ c.toNat ∧ c.toNat ≤ 57 := by
    rcases h with h | rfl
    · exact .inr (toNat_of_isDigit h)
    · exact .inl rfl
  have hne : ∀ d : Char, d.toNat ≠ 45 → (d.toNat < 48 ∨ 57 < d.toNat) → c ≠ d := by
    rintro d h1 h2 rfl
    omega
  refine ⟨?_, ?_, ?_, ?_, ?_, ?_, ?_, ?_⟩
  · unfold isSpace
    simp [hne ' ' (by decide) (by decide), hne '\n' (by decide) (by decide), hne '\t' (by decide) (by decide),
      hne '\r' (by decide) (by decide)]
  all_goals exact hne _ (by decide) (by decide)

/-- The text of a value begins with a character that is no blank and closes no array. -/
private theorem write_cons {v : Json} (h : v.all plain = true) :
    ∃ c t, v.write = c :: t ∧ isSpace c = false ∧ c ≠ ']' := by
  cases v with
  | null => exact ⟨'n', _, rfl, by decide⟩
  | bool b => cases b <;> exact ⟨_, _, rfl, by decide⟩
  | num n =>
    cases n with
    | int n =>
      obtain ⟨c, t, e, hc⟩ := intText_cons n
      have := isDigit_or_minus_cases hc
      exact ⟨c, t, e, this.1, this.2.2.2.2.2.2.1⟩
    | real d => cases h
  | str t => exact ⟨'"', _, rfl, by decide⟩
  | arr items => cases items <;> exact ⟨'[', _, rfl, by decide⟩
  | obj members => cases members <;> exact ⟨'\x7b', _, rfl, by decide⟩

private theorem skipSpace_cons {c : Char} (h : isSpace c = false) (t : Text) : skipSpace (c :: t) = c :: t := by
  unfold skipSpace
  rw [List.dropWhile_cons, h]
  rfl

private theorem skipSpace_write {v : Json} (h : v.all plain = true) (rest : Text) :
    skipSpace (v.write ++ rest) = v.write ++ rest := by
  obtain ⟨c, t, e, hc, -⟩ := write_cons h
  rw [e, List.cons_append, skipSpace_cons hc]

/-- A step is left for a value when as many are left as its text has characters. -/
private theorem exists_fuel {v : Json} (h : v.all plain = true) {fuel : Nat} (hf : v.write.length ≤ fuel) :
    ∃ f, fuel = f + 1 := by
  obtain ⟨c, t, e, -⟩ := write_cons h
  rw [e, List.length_cons] at hf
  exact ⟨fuel - 1, by omega⟩

/-! ### Arrays -/

/-- Written items are read back up to and with the closing bracket. -/
private theorem readItems_write {v : Json} {items : List Json} (hb : ∀ w ∈ v :: items, ReadsBack w)
    (hp : ∀ w ∈ v :: items, w.all plain = true) {depth : Nat} (hd : ∀ w ∈ v :: items, w.nesting < depth) {fuel : Nat}
    (hf : v.write.length + (writeItems items).length < fuel) (rest : Text) :
    readItems fuel depth (v.write ++ (writeItems items ++ ']' :: rest)) = some ((v :: items).map sorted, rest) := by
  induction items generalizing v fuel with
  | nil =>
    obtain ⟨fuel, rfl⟩ : ∃ f, fuel = f + 1 := ⟨fuel - 1, by omega⟩
    have hv := hb v (by simp) fuel depth (']' :: rest) (by omega) (hd v (by simp)) (endsNumber_cons (by decide))
    rw [writeItems, List.nil_append, readItems, hv]
    rfl
  | cons w items ih =>
    -- the comma in front of the next item pays for the step
    obtain ⟨fuel, rfl⟩ : ∃ f, fuel = f + 1 := ⟨fuel - 1, by omega⟩
    simp only [writeItems, List.length_cons, List.length_append] at hf
    have hv := hb v (by simp) fuel depth (',' :: (w.write ++ (writeItems items ++ ']' :: rest))) (by omega)
      (hd v (by simp)) (endsNumber_cons (by decide))
    have hw := @ih w (fun u hu => hb u (List.mem_cons_of_mem _ hu)) (fun u hu => hp u (List.mem_cons_of_mem _ hu))
      (fun u hu => hd u (List.mem_cons_of_mem _ hu)) fuel (by omega)
    rw [writeItems, List.cons_append, List.append_assoc, readItems, hv]
    simp only [skipSpace_cons (show isSpace ',' = false by decide), skipSpace_write (hp w (by simp)), hw]
    rfl

/-- An array that is not empty is read item by item. -/
private theorem readValue_items {depth : Nat} (hd : 1 < depth) {c : Char} (hc : isSpace c = false) (hne : c ≠ ']')
    (fuel : Nat) (t : Text) :
    readValue (fuel + 1) depth ('[' :: c :: t) =
      (readItems fuel (depth - 1) (c :: t)).map fun (items, rest) => (.arr items, rest) := by
  show (if depth ≤ 1 then none else _) = _
  rw [if_neg (by omega), skipSpace_cons hc]
  split
  · rename_i h
    exact absurd (List.cons.inj h).1 hne
  · rfl

private theorem readsBack_arr {items : List Json} (hb : ∀ w ∈ items, ReadsBack w)
    (hp : ∀ w ∈ items, w.all plain = true) : ReadsBack (.arr items) := by
  intro fuel depth rest hf hd hr
  simp only [nesting] at hd
  obtain ⟨fuel, rfl⟩ := exists_fuel (all_arr.2 ⟨rfl, hp⟩) hf
  cases items with
  | nil =>
    show (if depth ≤ 1 then none else some (Json.arr [], rest)) = _
    rw [if_neg (by omega)]
    rfl
  | cons v items =>
    simp only [write_arr_cons, List.length_cons, List.length_append, List.length_nil] at hf
    have hparts : ∀ w ∈ v :: items, w.nesting < depth - 1 := (nestingItems_lt (by omega)).1 (by omega)
    have hi : readItems fuel (depth - 1) _ = _ := readItems_write hb hp hparts (by omega) rest
    obtain ⟨c, t, e, hc, hne⟩ := write_cons (hp v (by simp))
    simp only [write_arr_cons, List.cons_append, List.append_assoc, List.nil_append]
    rw [e, List.cons_append] at hi ⊢
    rw [readValue_items (by omega) hc hne, hi, sorted, sortedItems_eq]
    rfl

/-! ### Objects -/

/-- The last member is read up to and with the closing brace. -/
private theorem readMembers_last {fuel depth : Nat} (name : Text) {v w : Json} (hp : v.all plain = true) {rest : Text}
    (hv : readValue fuel depth (v.write ++ '\x7d' :: rest) = some (w, '\x7d' :: rest)) :
    readMembers (fuel + 1) depth (writeString name ++ ':' :: (v.write ++ '\x7d' :: rest)) = some ([(name, w)], rest) := by
  unfold writeString
  rw [List.cons_append, List.append_assoc, List.cons_append, List.nil_append, readMembers,
    readString_flatMap_writeChar]
  simp only [skipSpace_cons (show isSpace ':' = false by decide), skipSpace_write hp, hv,
    skipSpace_cons (show isSpace '\x7d' = false by decide)]

/-- Any other member is read up to and with the comma after it. -/
private theorem readMembers_next {fuel depth : Nat} (name : Text) {v w : Json} (hp : v.all plain = true) {rest : Text}
    (hv : readValue fuel depth (v.write ++ ',' :: rest) = some (w, ',' :: rest)) :
    readMembers (fuel + 1) depth (writeString name ++ ':' :: (v.write ++ ',' :: rest)) =
      (readMembers fuel depth (skipSpace rest)).map fun (ms, rest) => ((name, w) :: ms, rest) := by
  unfold writeString
  rw [List.cons_append, List.append_assoc, List.cons_append, List.nil_append, readMembers,
    readString_flatMap_writeChar]
  simp only [skipSpace_cons (show isSpace ':' = false by decide), skipSpace_write hp, hv,
    skipSpace_cons (show isSpace ',' = false by decide)]

private theorem skipSpace_writeString (t rest : Text) : skipSpace (writeString t ++ rest) = writeString t ++ rest :=
  skipSpace_cons (by decide) _

/-- Written members are read back up to and with the closing brace. -/
private theorem readMembers_write {m : Text × Json} {members : List (Text × Json)}
    (hb : ∀ n ∈ m :: members, ReadsBack n.2) (hp : ∀ n ∈ m :: members, n.2.all plain = true) {depth : Nat}
    (hd : ∀ n ∈ m :: members, n.2.nesting < depth) {fuel : Nat}
    (hf : m.2.write.length + (writeMembers members).length < fuel) (rest : Text) :
    readMembers fuel depth (writeString m.1 ++ ':' :: (m.2.write ++ (writeMembers members ++ '\x7d' :: rest))) =
      some ((m :: members).map fun n => (n.1, n.2.sorted), rest) := by
  induction members generalizing m fuel with
  | nil =>
    obtain ⟨fuel, rfl⟩ : ∃ f, fuel = f + 1 := ⟨fuel - 1, by omega⟩
    have hm := hb m (by simp) fuel depth ('\x7d' :: rest) (by omega) (hd m (by simp)) (endsNumber_cons (by decide))
    rw [writeMembers, List.nil_append, readMembers_last m.1 (hp m (by simp)) hm]
    rfl
  | cons n members ih =>
    obtain ⟨fuel, rfl⟩ : ∃ f, fuel = f + 1 := ⟨fuel - 1, by omega⟩
    simp only [writeMembers, List.length_cons, List.length_append] at hf
    have hm := hb m (by simp) fuel depth
      (',' :: (writeString n.1 ++ ':' :: (n.2.write ++ (writeMembers members ++ '\x7d' :: rest)))) (by omega)
      (hd m (by simp)) (endsNumber_cons (by decide))
    have hn := @ih n (fun k hk => hb k (List.mem_cons_of_mem _ hk)) (fun k hk => hp k (List.mem_cons_of_mem _ hk))
      (fun k hk => hd k (List.mem_cons_of_mem _ hk)) fuel (by omega)
    rw [writeMembers, List.cons_append, List.append_assoc, List.cons_append, List.append_assoc,
      readMembers_next m.1 (hp m (by simp)) hm, skipSpace_writeString, hn]
    rfl

/-- An object that is not empty is read member by member. -/
private theorem readValue_members {depth : Nat} (hd : 1 < depth) (fuel : Nat) (name t : Text) :
    readValue (fuel + 1) depth ('\x7b' :: (writeString name ++ t)) =
      (readMembers fuel (depth - 1) (writeString name ++ t)).map fun (members, rest) =>
        (.obj (Table.ofEntries members), rest) := by
  show (if depth ≤ 1 then none else _) = _
  rw [if_neg (by omega)]
  rfl

private theorem readsBack_obj {members : List (Text × Json)} (hb : ∀ m ∈ members, ReadsBack m.2)
    (hp : ∀ m ∈ members, m.2.all plain = true) : ReadsBack (.obj members) := by
  intro fuel depth rest hf hd hr
  simp only [nesting] at hd
  obtain ⟨fuel, rfl⟩ := exists_fuel (all_obj.2 ⟨rfl, hp⟩) hf
  cases members with
  | nil =>
    show (if depth ≤ 1 then none else some (Json.obj [], rest)) = _
    rw [if_neg (by omega)]
    rfl
  | cons m members =>
    simp only [write_obj_cons, List.length_cons, List.length_append, List.length_nil] at hf
    have hparts : ∀ n ∈ m :: members, n.2.nesting < depth - 1 := (nestingMembers_lt (by omega)).1 (by omega)
    have hm : readMembers fuel (depth - 1) _ = _ := readMembers_write hb hp hparts (by omega) rest
    simp only [write_obj_cons, List.cons_append, List.append_assoc, List.nil_append]
    rw [readValue_members (by omega), hm, sorted, sortedMembers_eq]
    rfl

/-! ### Values -/

/-- A digit or a minus begins a number. -/
private theorem readValue_number {c : Char} (hc : isDigit c = true ∨ c = '-') (fuel depth : Nat) (t : Text) :
    readValue (fuel + 1) depth (c :: t) = (readNumber (c :: t)).map fun (n, rest) => (.num n, rest) := by
  obtain ⟨-, h1, h2, h3, h4, h5, -, h6⟩ := isDigit_or_minus_cases hc
  rw [readValue.eq_def]
  simp only
  split <;> simp_all

private theorem readsBack_int {n : Int} (h : fits n = true) : ReadsBack (.num (.int n)) := by
  intro fuel depth rest hf _ hr
  obtain ⟨fuel, rfl⟩ := exists_fuel (v := .num (.int n)) h hf
  obtain ⟨c, t, e, hc⟩ := intText_cons n
  have hw : (Json.num (.int n)).write = c :: t := e
  simp only [fits, Bool.and_eq_true, decide_eq_true_eq] at h
  have hn := readNumber_intText h.1 h.2 hr
  rw [e, List.cons_append] at hn
  rw [hw, List.cons_append, readValue_number hc, hn]
  rfl

/-- A value whose numbers are integers of 64 bits is read back. -/
theorem readsBack {v : Json} (h : v.all plain = true) : ReadsBack v := by
  induction v using parts_induction with
  | null =>
    intro fuel depth rest hf _ _
    obtain ⟨fuel, rfl⟩ := exists_fuel h hf
    rfl
  | bool b =>
    intro fuel depth rest hf _ _
    obtain ⟨fuel, rfl⟩ := exists_fuel h hf
    cases b <;> rfl
  | num n =>
    cases n with
    | int n => exact readsBack_int h
    | real d => cases h
  | str t =>
    intro fuel depth rest hf _ _
    obtain ⟨fuel, rfl⟩ := exists_fuel h hf
    simp only [write_str, writeString, List.cons_append, List.append_assoc, List.nil_append]
    show (readString (t.flatMap writeChar ++ '"' :: rest)).map _ = _
    rw [readString_flatMap_writeChar]
    rfl
  | arr items ih =>
    rw [all_arr] at h
    exact readsBack_arr (fun v hv => ih v hv (h.2 v hv)) h.2
  | obj members ih =>
    rw [all_obj] at h
    exact readsBack_obj (fun m hm => ih m hm (h.2 m hm)) h.2

/-- The compact text of a value is read back as the sorted value. -/
theorem read_write {v : Json} (h : v.all plain = true) (hd : v.nesting < depthLimit) : read v.write = some v.sorted := by
  have hs : skipSpace v.write = v.write := by simpa using skipSpace_write h []
  have hr := readsBack h (2 * v.write.length + 2) depthLimit [] (by omega) hd (fun c hc => nomatch hc)
  rw [List.append_nil] at hr
  unfold read
  rw [hs, hr]
  rfl

end Json

end WikiSite
