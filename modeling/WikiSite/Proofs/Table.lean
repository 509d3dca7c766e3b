import Mathlib.Data.Char
import Mathlib.Data.List.Lex
import WikiSite.Table

/-!
# Tables as finite maps

What `insert`, `erase` and a filter do to the entry under a key, and that they keep the keys in increasing order.
In an ordered table the entries are exactly the pairs that `get?` knows (`Ordered.mem_iff`), so two ordered tables
with the same answers are equal and the first entry has the least key.
-/

namespace WikiSite

namespace Table

variable {α β : Type}

/-- The keys increase strictly from entry to entry. -/
def Ordered (t : Table α) : Prop := t.Pairwise fun a b => a.1 < b.1

instance (t : Table α) : Decidable (Ordered t) := inferInstanceAs (Decidable (List.Pairwise _ _))

/-! ### The entry under a key -/

@[simp] theorem get?_nil (k : Text) : get? ([] : Table α) k = none := rfl

theorem get?_cons (l : Text) (w : α) (t : Table α) (k : Text) :
    get? ((l, w) :: t) k = if k = l then some w else get? t k := by
  unfold get?
  rw [List.lookup_cons]
  split
  · rename_i h
    rw [if_pos (eq_of_beq h)]
  · rename_i h
    rw [if_neg (by simpa using h)]

@[simp] theorem get?_insert (t : Table α) (k : Text) (v : α) (l : Text) :
    get? (insert k v t) l = if l = k then some v else get? t l := by
  induction t with
  | nil => simp [insert, get?_cons]
  | cons e t ih =>
    obtain ⟨m, w⟩ := e
    unfold insert
    split
    · subst_vars
      by_cases h : l = m <;> simp [get?_cons, h]
    · split
      · rw [get?_cons]
      · rename_i hkm _
        rw [get?_cons, ih, get?_cons]
        by_cases h : l = k
        · simp [h, hkm]
        · simp [h]

@[simp] theorem get?_erase (t : Table α) (k l : Text) :
    get? (erase t k) l = if l = k then none else get? t l := by
  unfold erase
  induction t with
  | nil => simp
  | cons e t ih =>
    obtain ⟨m, w⟩ := e
    rw [List.filter_cons, get?_cons]
    split
    · rename_i hm
      have hm : m ≠ k := by simpa using hm
      rw [get?_cons, ih]
      by_cases h : l = m
      · simp [h, hm]
      · simp [h]
    · rename_i hm
      obtain rfl : m = k := by simpa using hm
      rw [ih]
      by_cases h : l = m <;> simp [h]

/-- The values of a table, changed one by one. -/
theorem get?_map (f : α → β) (t : Table α) (k : Text) :
    get? (t.map fun e => (e.1, f e.2)) k = (get? t k).map f := by
  induction t with
  | nil => rfl
  | cons e t ih =>
    rw [List.map_cons, get?_cons, ih, get?_cons]
    by_cases h : k = e.1 <;> simp [h]

theorem has_iff {t : Table α} {k : Text} : has t k = true ↔ ∃ v, get? t k = some v := by
  unfold has
  exact Option.isSome_iff_exists

theorem mem_of_get? {t : Table α} {k : Text} {v : α} (h : get? t k = some v) : (k, v) ∈ t := by
  induction t with
  | nil => simp at h
  | cons e t ih =>
    obtain ⟨l, w⟩ := e
    rw [get?_cons] at h
    split at h
    · cases h
      subst_vars
      simp
    · exact List.mem_cons_of_mem _ (ih h)

/-- A value is put under those of the keys that are free, and no other key changes. -/
theorem get?_foldl_free (v : α) (ks : List Text) (t : Table α) (k : Text) :
    get? (ks.foldl (fun t a => if has t a then t else insert a v t) t) k =
      (get? t k).or (if k ∈ ks then some v else none) := by
  induction ks generalizing t with
  | nil => simp
  | cons a ks ih =>
    rw [List.foldl_cons, ih]
    by_cases ht : has t a = true
    · rw [if_pos ht]
      obtain ⟨w, hw⟩ := has_iff.1 ht
      by_cases hk : k = a
      · simp [hk, hw]
      · simp [hk]
    · rw [if_neg ht, get?_insert]
      have hn : get? t a = none := by simpa [has] using ht
      by_cases hk : k = a
      · simp [hk, hn]
      · simp [hk]

/-! ### Order -/

theorem ordered_nil : Ordered ([] : Table α) := List.Pairwise.nil

private theorem mem_insert {t : Table α} {k : Text} {v : α} {e : Text × α} (h : e ∈ insert k v t) :
    e = (k, v) ∨ e ∈ t := by
  induction t with
  | nil => simpa [insert] using h
  | cons a t ih =>
    obtain ⟨l, w⟩ := a
    unfold insert at h
    split at h
    · rcases List.mem_cons.1 h with h | h
      · exact .inl h
      · exact .inr (List.mem_cons_of_mem _ h)
    · split at h
      · exact List.mem_cons.1 h
      · rcases List.mem_cons.1 h with h | h
        · exact .inr (by simp [h])
        · exact (ih h).imp_right (List.mem_cons_of_mem _)

theorem mem_of_mem_ofEntries {entries : List (Text × α)} {e : Text × α} (h : e ∈ ofEntries entries) : e ∈ entries := by
  suffices hs : ∀ t : Table α, e ∈ entries.foldl (fun t e => Table.insert e.1 e.2 t) t → e ∈ t ∨ e ∈ entries from
    (hs [] h).resolve_left (by simp)
  clear h
  induction entries with
  | nil => exact fun t ht => .inl ht
  | cons d entries ih =>
    intro t ht
    rcases ih _ ht with hd | hlater
    · rcases mem_insert hd with rfl | he
      · exact .inr (by simp)
      · exact .inl he
    · exact .inr (List.mem_cons_of_mem _ hlater)

theorem Ordered.insert {t : Table α} (h : Ordered t) (k : Text) (v : α) : Ordered (insert k v t) := by
  induction t with
  | nil => exact List.pairwise_singleton _ _
  | cons e t ih =>
    obtain ⟨l, w⟩ := e
    unfold Ordered at h
    rw [List.pairwise_cons] at h
    unfold Table.insert
    split
    · subst_vars
      exact List.pairwise_cons.2 h
    · rename_i hkl
      split
      · rename_i hlt
        have hlt : k < l := by simpa [textBefore] using hlt
        refine List.pairwise_cons.2 ⟨?_, List.pairwise_cons.2 h⟩
        intro b hb
        rcases List.mem_cons.1 hb with rfl | hb
        · exact hlt
        · exact hlt.trans (h.1 b hb)
      · rename_i hge
        have hlt : l < k := by
          have hle : l ≤ k := by simpa [textBefore] using hge
          exact lt_of_le_of_ne hle (Ne.symm hkl)
        refine List.pairwise_cons.2 ⟨?_, ih h.2⟩
        intro b hb
        rcases mem_insert hb with rfl | hb
        · exact hlt
        · exact h.1 b hb

theorem Ordered.foldl_free {t : Table α} (h : Ordered t) (v : α) (ks : List Text) :
    Ordered (ks.foldl (fun t a => if has t a then t else Table.insert a v t) t) := by
  induction ks generalizing t with
  | nil => exact h
  | cons a ks ih =>
    rw [List.foldl_cons]
    split
    · exact ih h
    · exact ih (h.insert a v)

theorem Ordered.filter {t : Table α} (h : Ordered t) (f : Text × α → Bool) : Ordered (t.filter f) :=
  h.sublist List.filter_sublist

theorem Ordered.erase {t : Table α} (h : Ordered t) (k : Text) : Ordered (erase t k) := h.filter _

theorem Ordered.map {t : Table α} (h : Ordered t) (f : α → β) : Ordered (t.map fun e => (e.1, f e.2)) := by
  unfold Ordered
  rw [List.pairwise_map]
  exact h

/-- An entry whose key is past all keys goes to the end. -/
private theorem insert_of_forall_lt {t : Table α} {k : Text} (h : ∀ e ∈ t, e.1 < k) (v : α) :
    insert k v t = t ++ [(k, v)] := by
  induction t with
  | nil => rfl
  | cons e t ih =>
    have he := h e (List.mem_cons_self ..)
    unfold insert
    rw [if_neg he.ne', if_neg (by simpa [textBefore] using he.le), ih fun d hd => h d (List.mem_cons_of_mem _ hd)]
    rfl

/-- Entries in increasing order make up the table that they are. -/
theorem Ordered.ofEntries_eq {t : Table α} (h : Ordered t) : ofEntries t = t := by
  suffices hs : ∀ s : Table α, Ordered (s ++ t) → t.foldl (fun t e => Table.insert e.1 e.2 t) s = s ++ t from
    hs [] h
  clear h
  induction t with
  | nil => simp
  | cons e t ih =>
    intro s hs
    have hlt : ∀ d ∈ s, d.1 < e.1 := fun d hd => (List.pairwise_append.1 hs).2.2 d hd e (List.mem_cons_self ..)
    rw [List.foldl_cons, insert_of_forall_lt hlt, ih _ (by simpa using hs)]
    simp

/-- In an ordered table every entry is the one under its key. -/
theorem Ordered.mem_iff {t : Table α} (h : Ordered t) {k : Text} {v : α} : (k, v) ∈ t ↔ get? t k = some v := by
  refine ⟨?_, mem_of_get?⟩
  intro hm
  induction t with
  | nil => cases hm
  | cons e t ih =>
    obtain ⟨l, w⟩ := e
    unfold Ordered at h
    rw [List.pairwise_cons] at h
    rw [get?_cons]
    rcases List.mem_cons.1 hm with hm | hm
    · cases hm
      simp
    · have hlt : l < k := h.1 _ hm
      simp [hlt.ne', ih h.2 hm]

/-- Ordered tables with the same entry under every key are equal. -/
theorem Ordered.ext {t t' : Table α} (h : Ordered t) (h' : Ordered t') (he : ∀ k, get? t k = get? t' k) : t = t' := by
  have hnodup : ∀ {s : Table α}, Ordered s → s.Nodup := by
    intro s hs
    exact List.Pairwise.imp (fun hlt heq => hlt.ne (congrArg Prod.fst heq)) hs
  have hperm : t.Perm t' := by
    rw [List.perm_ext_iff_of_nodup (hnodup h) (hnodup h')]
    rintro ⟨k, v⟩
    rw [h.mem_iff, h'.mem_iff, he k]
  apply hperm.eq_of_pairwise (fun a b _ _ hab hba => absurd hba hab.not_gt) h h'

/-- A filter of an ordered table keeps or drops the entry under a key. -/
theorem Ordered.get?_filter {t : Table α} (h : Ordered t) (f : Text × α → Bool) (k : Text) :
    get? (t.filter f) k = (get? t k).filter fun v => f (k, v) := by
  apply Option.ext
  intro v
  rw [← (h.filter f).mem_iff, List.mem_filter, h.mem_iff, Option.filter_eq_some_iff]

/-- The entries of an ordered table under one key. -/
theorem Ordered.filter_key {t : Table α} (h : Ordered t) (k : Text) :
    t.filter (fun e => e.1 == k) = ((get? t k).map (k, ·)).toList := by
  induction t with
  | nil => rfl
  | cons e t ih =>
    obtain ⟨l, w⟩ := e
    unfold Ordered at h
    rw [List.pairwise_cons] at h
    rw [List.filter_cons, get?_cons, ih h.2]
    by_cases hkl : k = l
    · subst hkl
      -- the later keys are greater
      have hnone : get? t k = none := by
        rw [Option.eq_none_iff_forall_ne_some]
        intro v hv
        exact (h.1 _ (mem_of_get? hv)).ne rfl
      simp [hnone]
    · rw [if_neg (by simpa using Ne.symm hkl), if_neg hkl]

end Table

/-! ### Sorting by a text -/

section

variable {α : Type} (f : α → Text) {l : List α}

/-- Sorting by a text puts nothing in front of something with a lesser one. -/
theorem pairwise_mergeSort_text (l : List α) :
    (l.mergeSort fun a b => !textBefore (f b) (f a)).Pairwise fun a b => f a ≤ f b := by
  have h := @List.pairwise_mergeSort _ (fun a b : α => !textBefore (f b) (f a))
    (fun a b c hab hbc => by
      simp only [textBefore, Bool.not_eq_true', decide_eq_false_iff_not, not_lt] at *
      exact hab.trans hbc)
    (fun a b => by simpa [textBefore] using le_total (f a) (f b)) l
  apply h.imp
  intro a b hab
  simpa [textBefore] using hab

/-- Sorting by a text that tells the entries apart leaves them in increasing order. -/
theorem increasing_mergeSort_text (h : l.Pairwise fun a b => f a ≠ f b) :
    (l.mergeSort fun a b => !textBefore (f b) (f a)).Pairwise fun a b => f a < f b := by
  have hne : (l.mergeSort fun a b => !textBefore (f b) (f a)).Pairwise fun a b => f a ≠ f b := by
    rw [(List.mergeSort_perm _ _).pairwise_iff fun {a b} h => Ne.symm h]
    exact h
  exact ((pairwise_mergeSort_text f l).and hne).imp fun ⟨hle, hne⟩ => lt_of_le_of_ne hle hne

/-- Lists that increase by a text and have the same entries are equal. -/
theorem eq_of_increasing {l' : List α} (h : l.Pairwise fun a b => f a < f b) (h' : l'.Pairwise fun a b => f a < f b)
    (hmem : ∀ a, a ∈ l ↔ a ∈ l') : l = l' := by
  have hnodup : ∀ {m : List α}, (m.Pairwise fun a b => f a < f b) → m.Nodup :=
    fun hm => hm.imp fun hlt heq => hlt.ne (congrArg f heq)
  refine List.Perm.eq_of_pairwise ?_ h h' ((List.perm_ext_iff_of_nodup (hnodup h) (hnodup h')).2 hmem)
  intro a b _ _ hab hba
  exact absurd (hab.trans hba) (lt_irrefl _)

end

end WikiSite
