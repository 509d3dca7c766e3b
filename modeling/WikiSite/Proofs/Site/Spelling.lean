import Mathlib.Data.List.Destutter
import WikiSite.Proofs.Text.Lowercase
import WikiSite.Site.Slug

/-!
# Slugs and keys

Slugs and keys are normal forms of a name: `slugify` leaves just the slugs as they are (`slugify_eq_self_iff`) and
`normalizeKey` just the keys (`normalizeKey_eq_self_iff`). A slug is a key, so a slug is the normal form of itself.
The other way, the key of a name and the name lead to one slug (`slugify_normalizeKey`), though the key is trimmed
first and collapsed before all characters are dropped that a slug does without:

* blanks at the ends leave nothing but hyphens, which a slug has not at its ends (`slugify_trim`);
* hyphens that are collapsed early would be collapsed later, together with those that meet when a character between
  them is dropped (`collapseHyphens_filter`).
-/

namespace WikiSite

/-! ### Characters -/

/-- The characters of slugs. -/
def slugAlphabet : Text := "abcdefghijklmnopqrstuvwxyz0123456789_-".toList

/-- The characters of keys. -/
def keyAlphabet : Text := slugAlphabet ++ ['/', '.']

private theorem isSlugChar_ascii :
    ∀ n < 0x80, isSlugChar (Char.ofNat n) = true → Char.ofNat n ∈ slugAlphabet := by
  decide +kernel

private theorem isSlugChar_slugAlphabet : ∀ c ∈ slugAlphabet, isSlugChar c = true := by
  rw [← List.forall_iff_forall_mem]
  decide +kernel

theorem isSlugChar_iff {c : Char} : isSlugChar c = true ↔ c ∈ slugAlphabet := by
  refine ⟨fun h => ?_, isSlugChar_slugAlphabet c⟩
  have hascii : c.toNat < 0x80 := by
    simp only [isSlugChar, Bool.or_eq_true, Bool.and_eq_true, decide_eq_true_eq, beq_iff_eq, Char.le_def,
      UInt32.le_iff_toNat_le] at h
    rcases h with ((⟨-, h⟩ | ⟨-, h⟩) | rfl) | rfl
    · exact Nat.lt_of_le_of_lt h (by decide)
    · exact Nat.lt_of_le_of_lt h (by decide)
    · decide
    · decide
  have hc := isSlugChar_ascii c.toNat hascii
  rw [Char.ofNat_toNat] at hc
  exact hc h

theorem isKeyChar_iff {c : Char} : isKeyChar c = true ↔ c ∈ keyAlphabet := by
  simp [isKeyChar, keyAlphabet, isSlugChar_iff, or_assoc]

/-- Every character of a key is its own lower-case form, and none is a blank. -/
private theorem keyAlphabet_stays :
    ∀ c ∈ keyAlphabet, (c ≠ 'Σ' ∧ lowerChar c = [c]) ∧ c ≠ ' ' ∧ isBlank c = false := by
  rw [← List.forall_iff_forall_mem]
  decide +kernel

theorem lowerHyphened_eq_self {t : Text} (h : ∀ c ∈ t, c ∈ keyAlphabet) : lowerHyphened t = t := by
  unfold lowerHyphened
  rw [lower_eq_self fun c hc => (keyAlphabet_stays c (h c hc)).1]
  refine (List.map_congr_left fun c hc => ?_).trans (List.map_id t)
  rw [if_neg (by simpa using (keyAlphabet_stays c (h c hc)).2.1), id]

/-! ### Runs of hyphens -/

/-- Not both of two neighbours are hyphens. -/
def Apart (a b : Char) : Prop := ¬(a = '-' ∧ b = '-')

instance : DecidableRel Apart := fun a b => inferInstanceAs (Decidable ¬(a = '-' ∧ b = '-'))

theorem isChain_apart_iff {t : Text} : t.IsChain Apart ↔ ¬"--".toList <:+: t := by
  rw [List.isChain_iff_forall_rel_of_append_cons_cons]
  constructor
  · rintro h ⟨s, r, e⟩
    have hsplit : t = s ++ '-' :: '-' :: r := by
      rw [← e, List.append_assoc]
      rfl
    exact h hsplit ⟨rfl, rfl⟩
  · rintro h _ _ s r e ⟨rfl, rfl⟩
    refine h ⟨s, r, ?_⟩
    rw [e, List.append_assoc]
    rfl

theorem collapseHyphens_double (t : Text) : collapseHyphens ('-' :: '-' :: t) = collapseHyphens ('-' :: t) := by
  rw [collapseHyphens, if_pos (by simp)]

private theorem collapseHyphens_cons_eq (c : Char) (t : Text) :
    collapseHyphens (c :: t) = t.destutter' Apart c := by
  induction t generalizing c with
  | nil =>
    rw [collapseHyphens, if_neg (by simp)]
    rfl
  | cons d t ih =>
    rw [List.destutter'_cons]
    by_cases h : Apart c d
    · rw [if_pos h, collapseHyphens, if_neg (by simpa [Apart] using h), ih]
    · obtain ⟨rfl, rfl⟩ := not_not.1 h
      rw [if_neg h, collapseHyphens_double, ih]

theorem collapseHyphens_eq_destutter (t : Text) : collapseHyphens t = t.destutter Apart := by
  cases t with
  | nil => rfl
  | cons c t => exact collapseHyphens_cons_eq c t

theorem mem_of_mem_collapseHyphens {c : Char} {t : Text} (h : c ∈ collapseHyphens t) : c ∈ t := by
  rw [collapseHyphens_eq_destutter] at h
  exact (List.destutter_sublist Apart t).subset h

theorem isChain_collapseHyphens (t : Text) : (collapseHyphens t).IsChain Apart := by
  rw [collapseHyphens_eq_destutter]
  exact List.isChain_destutter Apart t

theorem collapseHyphens_eq_self {t : Text} (h : ¬"--".toList <:+: t) : collapseHyphens t = t := by
  rw [collapseHyphens_eq_destutter]
  exact List.destutter_of_isChain Apart t (isChain_apart_iff.2 h)

theorem head?_collapseHyphens (t : Text) : (collapseHyphens t).head? = t.head? := by
  induction t with
  | nil => rfl
  | cons c t ih =>
    rw [collapseHyphens]
    split
    · rename_i h
      obtain ⟨rfl, hnext⟩ : c = '-' ∧ t.head? = some '-' := by simpa using h
      rw [ih, hnext, List.head?_cons]
    · rfl

/-- What a character does in front of a text shows in the collapsed text. -/
theorem collapseHyphens_cons (c : Char) (t : Text) :
    collapseHyphens (c :: t) =
      if c == '-' && (collapseHyphens t).head? == some '-' then collapseHyphens t else c :: collapseHyphens t := by
  rw [collapseHyphens, head?_collapseHyphens]

/-- Hyphens may be collapsed before other characters are dropped. -/
theorem collapseHyphens_filter {p : Char → Bool} (hp : p '-' = true) (t : Text) :
    collapseHyphens ((collapseHyphens t).filter p) = collapseHyphens (t.filter p) := by
  induction t with
  | nil => rfl
  | cons c t ih =>
    rw [collapseHyphens]
    split
    · rename_i h
      obtain ⟨rfl, hnext⟩ : c = '-' ∧ t.head? = some '-' := by simpa using h
      obtain ⟨r, rfl⟩ : ∃ r, t = '-' :: r := List.head?_eq_some_iff.1 hnext
      -- both hyphens pass the filter, so they are still neighbours when the filtered text is collapsed
      rw [ih, List.filter_cons_of_pos hp, List.filter_cons_of_pos hp, List.filter_cons_of_pos hp,
        collapseHyphens_double]
    · rw [List.filter_cons, List.filter_cons]
      split
      · rw [collapseHyphens_cons, ih, ← collapseHyphens_cons]
      · exact ih

/-! ### Hyphens at the ends -/

theorem dropWhile_collapseHyphens_append {s : Text} (hs : ∀ c ∈ s, c = '-') (t : Text) :
    (collapseHyphens (s ++ t)).dropWhile (· == '-') = (collapseHyphens t).dropWhile (· == '-') := by
  induction s with
  | nil => rfl
  | cons c s ih =>
    obtain ⟨rfl, hrest⟩ := List.forall_mem_cons.1 hs
    rw [List.cons_append, collapseHyphens]
    split
    · exact ih hrest
    · rw [List.dropWhile_cons_of_pos rfl]
      exact ih hrest

theorem exists_collapseHyphens_append {s : Text} (hs : ∀ c ∈ s, c = '-') (t : Text) :
    ∃ r, (∀ c ∈ r, c = '-') ∧ collapseHyphens (t ++ s) = collapseHyphens t ++ r := by
  induction t with
  | nil => exact ⟨collapseHyphens s, fun c hc => hs c (mem_of_mem_collapseHyphens hc), rfl⟩
  | cons c t ih =>
    obtain ⟨r, hr, e⟩ := ih
    rw [List.cons_append, collapseHyphens_cons, collapseHyphens_cons c t, e]
    cases hkept : collapseHyphens t with
    | cons d u =>
      refine ⟨r, hr, ?_⟩
      rw [List.cons_append, List.head?_cons, List.head?_cons]
      split <;> rfl
    | nil =>
      -- the hyphens come right behind `c`, which takes up the first of them if it is one itself
      cases r with
      | nil => exact ⟨[], hr, by simp⟩
      | cons d r =>
        obtain ⟨rfl, hrest⟩ := List.forall_mem_cons.1 hr
        by_cases hc : c = '-'
        · exact ⟨r, hrest, by simp [hc]⟩
        · exact ⟨'-' :: r, hr, by simp [hc]⟩

theorem trimBoth_collapseHyphens {r s : Text} (hr : ∀ c ∈ r, c = '-') (hs : ∀ c ∈ s, c = '-') (t : Text) :
    trimBoth (· == '-') (collapseHyphens (r ++ (t ++ s))) = trimBoth (· == '-') (collapseHyphens t) := by
  obtain ⟨u, hu, e⟩ := exists_collapseHyphens_append hs t
  calc trimBoth (· == '-') (collapseHyphens (r ++ (t ++ s)))
      = trimBoth (· == '-') (collapseHyphens (t ++ s)) :=
        congrArg (dropEndWhile (· == '-')) (dropWhile_collapseHyphens_append hr (t ++ s))
    _ = trimBoth (· == '-') (collapseHyphens t ++ u) := by rw [e]
    _ = trimBoth (· == '-') (collapseHyphens t) := trimBoth_append (fun c hc => by simp [hu c hc]) _

/-! ### Slugs -/

/-- A text in the form of a slug. -/
structure IsSlug (t : Text) : Prop where
  chars : ∀ c ∈ t, c ∈ slugAlphabet
  no_double : ¬"--".toList <:+: t
  head_ne : t.head? ≠ some '-'
  last_ne : t.getLast? ≠ some '-'

theorem isSlug_slugify (t : Text) : IsSlug (slugify t) := by
  have hwithin : slugify t <:+: collapseHyphens ((lowerHyphened t).filter isSlugChar) :=
    (List.rdropWhile_prefix _ _).isInfix.trans (List.dropWhile_suffix _).isInfix
  have hchain : (slugify t).IsChain Apart := List.IsChain.infix (isChain_collapseHyphens _) hwithin
  exact {
    chars := fun c hc => by
      have hkept := mem_of_mem_collapseHyphens (hwithin.subset hc)
      exact isSlugChar_iff.1 (List.mem_filter.1 hkept).2
    no_double := isChain_apart_iff.1 hchain
    head_ne := fun h => absurd (of_mem_head?_trimBoth h) (by decide)
    last_ne := fun h => absurd (of_mem_getLast?_dropEndWhile h) (by decide) }

theorem IsSlug.slugify_eq {t : Text} (h : IsSlug t) : slugify t = t := by
  unfold slugify
  rw [lowerHyphened_eq_self fun c hc => List.mem_append_left _ (h.chars c hc),
    List.filter_eq_self.2 fun c hc => isSlugChar_iff.2 (h.chars c hc), collapseHyphens_eq_self h.no_double]
  exact trimBoth_eq_self (fun c hc => beq_false_of_ne fun e => h.head_ne (e ▸ hc))
    fun c hc => beq_false_of_ne fun e => h.last_ne (e ▸ hc)

theorem slugify_eq_self_iff {t : Text} : slugify t = t ↔ IsSlug t :=
  ⟨fun h => h ▸ isSlug_slugify t, IsSlug.slugify_eq⟩

/-- A sigma is no character of a slug, so the parts of a name leave their characters one by one. -/
private theorem filter_lowerHyphened_append (s t : Text) :
    (lowerHyphened (s ++ t)).filter isSlugChar =
      (lowerHyphened s).filter isSlugChar ++ (lowerHyphened t).filter isSlugChar := by
  simp only [lowerHyphened, List.filter_map]
  rw [filter_lower_append (by decide) (by decide), List.map_append]

private theorem eq_hyphen_of_isBlank {t : Text} (h : ∀ c ∈ t, isBlank c = true) :
    ∀ c ∈ (lowerHyphened t).filter isSlugChar, c = '-' := by
  intro c hc
  obtain ⟨hmem, hslug⟩ := List.mem_filter.1 hc
  rw [lowerHyphened, lower_of_isBlank h, List.mem_map] at hmem
  obtain ⟨d, hd, rfl⟩ := hmem
  by_cases hspace : d = ' '
  · rw [if_pos (by simpa using hspace)]
  · -- any other blank stays as it is, and no blank is a character of a slug
    rw [if_neg (by simpa using hspace)] at hslug
    have hstays := (keyAlphabet_stays d (List.mem_append_left _ (isSlugChar_iff.1 hslug))).2.2
    rw [h d hd] at hstays
    cases hstays

theorem slugify_trim (t : Text) : slugify (trim t) = slugify t := by
  obtain ⟨s, hs, e⟩ := exists_trim_append t
  have hstart : ∀ c ∈ t.takeWhile isBlank, isBlank c = true := fun _ => List.mem_takeWhile_imp
  have hwhole : slugify (t.takeWhile isBlank ++ (trim t ++ s)) = slugify (trim t) := by
    unfold slugify
    rw [filter_lowerHyphened_append, filter_lowerHyphened_append]
    exact trimBoth_collapseHyphens (eq_hyphen_of_isBlank hstart) (eq_hyphen_of_isBlank hs) _
  rw [← hwhole, ← e]

/-! ### Keys -/

/-- A text in the normal form of a key. -/
structure IsKey (t : Text) : Prop where
  chars : ∀ c ∈ t, c ∈ keyAlphabet
  no_double : ¬"--".toList <:+: t

theorem isKey_normalizeKey (t : Text) : IsKey (normalizeKey t) where
  chars _ hc := isKeyChar_iff.1 (List.mem_filter.1 (mem_of_mem_collapseHyphens hc)).2
  no_double := isChain_apart_iff.1 (isChain_collapseHyphens _)

theorem IsKey.normalizeKey_eq {t : Text} (h : IsKey t) : normalizeKey t = t := by
  unfold normalizeKey
  rw [trim_eq_self fun c hc => (keyAlphabet_stays c (h.chars c hc)).2.2, lowerHyphened_eq_self h.chars,
    List.filter_eq_self.2 fun c hc => isKeyChar_iff.2 (h.chars c hc), collapseHyphens_eq_self h.no_double]

theorem normalizeKey_eq_self_iff {t : Text} : normalizeKey t = t ↔ IsKey t :=
  ⟨fun h => h ▸ isKey_normalizeKey t, IsKey.normalizeKey_eq⟩

theorem IsSlug.isKey {t : Text} (h : IsSlug t) : IsKey t :=
  ⟨fun c hc => List.mem_append_left _ (h.chars c hc), h.no_double⟩

theorem slugify_normalizeKey (t : Text) : slugify (normalizeKey t) = slugify t := by
  have hsub : ∀ c, (isSlugChar c && isKeyChar c) = isSlugChar c := by
    intro c
    unfold isKeyChar
    cases isSlugChar c <;> rfl
  calc slugify (normalizeKey t)
      = trimBoth (· == '-') (collapseHyphens ((normalizeKey t).filter isSlugChar)) := by
        rw [slugify, lowerHyphened_eq_self (isKey_normalizeKey t).chars]
    _ = trimBoth (· == '-') (collapseHyphens (((lowerHyphened (trim t)).filter isKeyChar).filter isSlugChar)) := by
        rw [normalizeKey, collapseHyphens_filter (by decide)]
    _ = slugify (trim t) := by
        rw [List.filter_filter, List.filter_congr fun c _ => hsub c, slugify]
    _ = slugify t := slugify_trim t

/-! ### Names, keys and slugs -/

/-- The slug and the key of a name are normal forms that fit together. -/
structure SpellingsFit (t : Text) : Prop where
  isSlug : IsSlug (slugify t)
  isKey : IsKey (normalizeKey t)
  slug_of_slug : slugify (slugify t) = slugify t
  key_of_key : normalizeKey (normalizeKey t) = normalizeKey t
  /-- A slug is found under itself. -/
  key_of_slug : normalizeKey (slugify t) = slugify t
  slug_of_key : slugify (normalizeKey t) = slugify t
  same_slug : ∀ u, normalizeKey u = normalizeKey t → slugify u = slugify t
  /-- Just what has the form already stays as it is. -/
  slug_iff : slugify t = t ↔ IsSlug t
  key_iff : normalizeKey t = t ↔ IsKey t

theorem spellings_fit (t : Text) : SpellingsFit t where
  isSlug := isSlug_slugify t
  isKey := isKey_normalizeKey t
  slug_of_slug := (isSlug_slugify t).slugify_eq
  key_of_key := (isKey_normalizeKey t).normalizeKey_eq
  key_of_slug := (isSlug_slugify t).isKey.normalizeKey_eq
  slug_of_key := slugify_normalizeKey t
  same_slug u h := by rw [← slugify_normalizeKey u, h, slugify_normalizeKey]
  slug_iff := slugify_eq_self_iff
  key_iff := normalizeKey_eq_self_iff

/-- A dotted capital and a Kelvin sign among blanks, and hyphens that meet only when the slash between them is gone. -/
example :
    let t := " .İ -/- \u212a\t".toList
    normalizeKey t = ".i-/-k".toList ∧ slugify t = "i-k".toList ∧ slugify (normalizeKey t) = "i-k".toList := by
  decide +kernel

end WikiSite
