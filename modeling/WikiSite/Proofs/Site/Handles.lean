import WikiSite.Proofs.Page.Occurrences
import WikiSite.Proofs.Site.Registration
import WikiSite.Proofs.Text.Decimal

/-!
# Handles

A person stands in the table of handles under the handle and under those aliases that were free. A key that was free
for nobody is somebody's, and no key is given up again, so every key of a person in the table leads to a person
(`Reached.isSome_personByHandle`). Operations on posts leave the table alone; a build makes a new one.
-/

namespace WikiSite

/-! ### The table -/

theorem firstHandles_sublist (seen : List Text) (ps : List Person) : (firstHandles seen ps).Sublist ps := by
  fun_induction firstHandles seen ps with
  | case1 => exact .slnil
  | case2 seen q rest hq ih => exact ih.cons q
  | case3 seen q rest hq ih => exact ih.cons_cons q

theorem get?_addPerson (t : Table Person) (p : Person) (k : Text) :
    Table.get? (addPerson t p) k =
      if k = p.handle then some p else (Table.get? t k).or (if k ∈ p.aliases then some p else none) := by
  unfold addPerson
  rw [Table.get?_foldl_free, Table.get?_insert]
  split <;> simp

/-- The keys of everybody in the table are taken. -/
structure HandlesTaken (t : Table Person) : Prop where
  ordered : Table.Ordered t
  taken : ∀ k p, Table.get? t k = some p → ∀ a ∈ p.keys, Table.has t a = true

theorem handlesTaken_nil : HandlesTaken [] := ⟨Table.ordered_nil, fun _ _ h => by cases h⟩

theorem HandlesTaken.addPerson {t : Table Person} (h : HandlesTaken t) (p : Person) : HandlesTaken (addPerson t p) := by
  -- a key that is taken stays taken
  have hkept : ∀ a, Table.has t a = true → Table.has (WikiSite.addPerson t p) a = true := by
    intro a ha
    obtain ⟨q, hq⟩ := Table.has_iff.1 ha
    rw [Table.has_iff, get?_addPerson]
    split
    · exact ⟨p, rfl⟩
    · exact ⟨q, by rw [hq]; rfl⟩
  have hown : ∀ a ∈ p.keys, Table.has (WikiSite.addPerson t p) a = true := by
    intro a ha
    rw [Table.has, get?_addPerson]
    rcases List.mem_cons.1 ha with rfl | ha
    · simp
    · rw [if_pos ha]
      split
      · rfl
      · cases Table.get? t a <;> rfl
  refine ⟨(h.ordered.insert _ _).foldl_free p p.aliases, ?_⟩
  intro k q hk a ha
  rw [get?_addPerson] at hk
  split at hk
  · cases hk
    exact hown a ha
  · rcases Option.or_eq_some_iff.1 hk with hk | ⟨-, hk⟩
    · exact hkept a (h.taken k q hk a ha)
    · split at hk
      · cases hk
        exact hown a ha
      · cases hk

theorem handlesTaken_handleTable (s : Settings) (posts : List Post) : HandlesTaken (handleTable s posts) := by
  have hfold : ∀ (ps : List Person) (t : Table Person), HandlesTaken t → HandlesTaken (ps.foldl addPerson t) := by
    intro ps
    induction ps with
    | nil => exact fun t h => h
    | cons p ps ih => exact fun t h => ih _ (h.addPerson p)
  exact hfold _ [] handlesTaken_nil

/-! ### Handles as they are written -/

theorem toNat_of_isAsciiLetter {c : Char} (h : isAsciiLetter c = true) : 65 ≤ c.toNat ∧ c.toNat ≤ 122 := by
  rcases Bool.or_eq_true_iff.1 (show (c.isUpper || c.isLower) = true from h) with h | h
  · have h : 'A'.val ≤ c.val ∧ c.val ≤ 'Z'.val := of_decide_eq_true h
    simp only [UInt32.le_iff_toNat_le] at h
    change 65 ≤ c.toNat ∧ c.toNat ≤ 90 at h
    omega
  · have h : (decide ('a'.val ≤ c.val) && decide (c.val ≤ 'z'.val)) = true := h
    simp only [Bool.and_eq_true, decide_eq_true_eq, UInt32.le_iff_toNat_le] at h
    change 97 ≤ c.toNat ∧ c.toNat ≤ 122 at h
    omega

theorem isBlank_of_isHandleChar {c : Char} (h : isHandleChar c = true) : isBlank c = false := by
  simp only [isHandleChar, Bool.or_eq_true, beq_iff_eq] at h
  rcases h with (((h | h) | rfl) | rfl) | rfl
  · have := toNat_of_isAsciiLetter h
    exact isBlank_of_toNat (by omega) (by omega)
  · have := toNat_of_isDigit h
    exact isBlank_of_toNat (by omega) (by omega)
  · decide
  · decide
  · decide

theorem cleanHandle_eq_self {t : Text} (htrim : trim t = t) (hat : t.head? ≠ some '@') : cleanHandle t = t := by
  unfold cleanHandle
  rw [htrim]
  cases t with
  | nil => rfl
  | cons c t => exact List.dropWhile_cons_of_neg (by simpa using hat)

theorem cleanHandle_of_isHandle {handle : Text} (h : isHandle handle = true) : cleanHandle handle = handle := by
  refine cleanHandle_eq_self (trim_eq_self fun d hd => isBlank_of_isHandleChar (isHandleChar_of_mem h hd)) ?_
  obtain ⟨c, rest, rfl, hletter⟩ := exists_letter_of_isHandle h
  rintro ⟨⟩
  exact absurd hletter (by decide)

namespace Index

variable {ix : Index}

/-- The table of handles is one that a build makes, or that of a site with nothing in it. -/
theorem Reached.exists_handleTable (h : Reached ix) : ∃ s posts, ix.persons = handleTable s posts := by
  obtain ⟨steps, rfl⟩ := h
  induction steps using List.reverseRecOn with
  | nil => exact ⟨Settings.default, [], rfl⟩
  | append_singleton steps s ih =>
    rw [after, List.foldl_concat]
    show ∃ settings posts, ((after steps).step s).persons = handleTable settings posts
    cases s with
    | build order tree root settings => exact ⟨settings, _, rfl⟩
    | update uri content => exact (sameSite_update (after steps) uri content).persons ▸ ih
    | remove uri => exact (sameSite_remove (after steps) uri).persons ▸ ih
    | indexFile tree path =>
      simp only [Index.step]
      split
      · exact (patched_of_indexFile ‹_›).sameSite.persons ▸ ih
      · exact ih

theorem Reached.handlesTaken (h : Reached ix) : HandlesTaken ix.persons := by
  obtain ⟨s, posts, hpersons⟩ := h.exists_handleTable
  rw [hpersons]
  exact handlesTaken_handleTable s posts

/-- Every person that is listed is in the table. -/
theorem exists_get?_of_mem_allPersons (h : ix.persons.Ordered) {p : Person} (hp : p ∈ ix.allPersons) :
    ∃ k, Table.get? ix.persons k = some p := by
  unfold allPersons personsByHandle at hp
  obtain ⟨⟨k, q⟩, hmem, rfl⟩ := List.mem_map.1 ((firstHandles_sublist _ _).mem (List.mem_mergeSort.1 hp))
  exact ⟨k, h.mem_iff.1 hmem⟩

/-- A key of a person that is written like a handle leads to a person. -/
theorem Reached.isSome_personByHandle (h : Reached ix) {p : Person} (hp : p ∈ ix.allPersons) {k : Text}
    (hk : k ∈ p.keys) (hhandle : isHandle k = true) : (ix.personByHandle k).isSome = true := by
  obtain ⟨l, hl⟩ := exists_get?_of_mem_allPersons h.handlesTaken.ordered hp
  obtain ⟨q, hq⟩ := Table.has_iff.1 (h.handlesTaken.taken l p hl k hk)
  unfold personByHandle lookup
  rw [cleanHandle_of_isHandle hhandle, hq]
  rfl

end Index

end WikiSite
