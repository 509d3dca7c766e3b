import Mathlib.Data.List.DropRight
import WikiSite.Text.Basic

/-!
# Trimming and cutting

What is dropped at the end of a text is the longest stretch of such characters, so a character that stays protects all
before it (`dropEndWhile_append_cons`). Trimming does not see blanks that are added or dropped at the end
(`trim_append_blank`, `trim_dropEndWhile`) and keeps every character that is no blank (`mem_trim`). A text is cut at
the first of the characters it is cut at (`cutAtChar_append`), and what is dropped at its end is dropped behind the cut
(`cutAtChar_dropEndWhile`).
-/

namespace WikiSite

/-- The last entry, or what comes before the list. -/
theorem getLast?_cons_or {α : Type} (a : α) (as : List α) (o : Option α) :
    (a :: as).getLast?.or o = as.getLast?.or (some a) := by
  rw [List.getLast?_cons]
  cases as.getLast? <;> rfl

/-! ### Dropping at the end -/

/-- Nothing is dropped at the end when the last character stays. -/
theorem dropEndWhile_eq_self {p : Char → Bool} {t : Text} (h : ∀ c ∈ t.getLast?, p c = false) :
    dropEndWhile p t = t := by
  unfold dropEndWhile
  rw [← List.head?_reverse] at h
  cases e : t.reverse with
  | nil => rw [List.reverse_eq_nil_iff.1 e]; rfl
  | cons c s =>
    rw [List.dropWhile_cons, h c (by rw [e]; rfl), if_neg (by decide), ← e, List.reverse_reverse]

theorem dropEndWhile_append {p : Char → Bool} {s : Text} (hs : ∀ c ∈ s, p c = true) (t : Text) :
    dropEndWhile p (t ++ s) = dropEndWhile p t := by
  unfold dropEndWhile
  rw [List.reverse_append, List.dropWhile_append_of_pos fun c hc => hs c (List.mem_reverse.1 hc)]

theorem dropEndWhile_eq_nil_iff {p : Char → Bool} {t : Text} : dropEndWhile p t = [] ↔ ∀ c ∈ t, p c = true :=
  List.rdropWhile_eq_nil_iff

/-- A character that stays protects everything in front of it. -/
theorem dropEndWhile_append_cons {p : Char → Bool} {c : Char} (hc : p c = false) (s t : Text) :
    dropEndWhile p (s ++ c :: t) = s ++ c :: dropEndWhile p t := by
  unfold dropEndWhile
  rw [List.reverse_append, List.reverse_cons, List.append_assoc, List.dropWhile_append]
  split
  · rename_i h
    rw [List.isEmpty_iff] at h
    simp [h, hc]
  · simp

theorem exists_dropEndWhile_append (p : Char → Bool) (t : Text) :
    ∃ s, (∀ c ∈ s, p c = true) ∧ t = dropEndWhile p t ++ s :=
  ⟨t.rtakeWhile p, fun _ => List.mem_rtakeWhile_imp, (List.rdropWhile_append_rtakeWhile).symm⟩

theorem of_mem_getLast?_dropEndWhile {p : Char → Bool} {t : Text} {c : Char}
    (h : c ∈ (dropEndWhile p t).getLast?) : p c = false := by
  obtain ⟨hne, rfl⟩ := List.mem_getLast?_eq_getLast h
  exact Bool.eq_false_iff.2 (List.rdropWhile_last_not p t hne)

/-! ### Trimming -/

private theorem inRanges_blankRanges : ∀ n < 0x7F, 0x20 < n → inRanges n blankRanges = false := by decide

/-- Characters of ASCII behind the space are no blanks. -/
theorem isBlank_of_toNat {c : Char} (hfirst : 0x20 < c.toNat) (hlast : c.toNat < 0x7F) : isBlank c = false :=
  inRanges_blankRanges c.toNat hlast hfirst

/-- Nothing is trimmed when the first and the last character stay. -/
theorem trimBoth_eq_self {p : Char → Bool} {t : Text} (hfirst : ∀ c ∈ t.head?, p c = false)
    (hlast : ∀ c ∈ t.getLast?, p c = false) : trimBoth p t = t := by
  have hstart : t.dropWhile p = t := by
    cases t with
    | nil => rfl
    | cons c t => rw [List.dropWhile_cons_of_neg (by simp [hfirst c rfl])]
  unfold trimBoth
  rw [hstart]
  exact dropEndWhile_eq_self hlast

theorem trimBoth_append {p : Char → Bool} {s : Text} (hs : ∀ c ∈ s, p c = true) (t : Text) :
    trimBoth p (t ++ s) = trimBoth p t := by
  unfold trimBoth
  rw [List.dropWhile_append]
  split
  · rename_i h
    rw [List.isEmpty_iff] at h
    rw [h, List.dropWhile_eq_nil_iff.2 hs]
  · exact dropEndWhile_append hs _

theorem of_mem_head?_trimBoth {p : Char → Bool} {t : Text} {c : Char} (h : c ∈ (trimBoth p t).head?) :
    p c = false := by
  unfold trimBoth at h
  cases hstart : t.dropWhile p with
  | nil =>
    rw [hstart] at h
    cases h
  | cons d s =>
    -- the first character that is left is not to go, so it stays
    have hd : p d = false := by
      have hhead := List.head?_dropWhile_not p t
      rw [hstart] at hhead
      simpa using hhead
    have hkept : dropEndWhile p (d :: s) = d :: dropEndWhile p s := dropEndWhile_append_cons hd [] s
    rw [hstart, hkept] at h
    cases h
    exact hd

theorem trim_eq_self {t : Text} (h : ∀ c ∈ t, isBlank c = false) : trim t = t :=
  trimBoth_eq_self (fun c hc => h c (List.mem_of_head? hc)) fun c hc => h c (List.mem_of_getLast? hc)

theorem trim_append_blank {s : Text} (hs : ∀ c ∈ s, isBlank c = true) (t : Text) : trim (t ++ s) = trim t :=
  trimBoth_append hs t

theorem trim_dropEndWhile {p : Char → Bool} (hp : ∀ c, p c = true → isBlank c = true) (t : Text) :
    trim (dropEndWhile p t) = trim t := by
  obtain ⟨s, hs, e⟩ := exists_dropEndWhile_append p t
  have h := trim_append_blank (fun c hc => hp c (hs c hc)) (dropEndWhile p t)
  rw [← e] at h
  exact h.symm

theorem mem_trim {c : Char} {t : Text} (h : c ∈ t) (hc : isBlank c = false) : c ∈ trim t := by
  have hstart : c ∈ trimStart t := by
    rw [← List.takeWhile_append_dropWhile (p := isBlank) (l := t), List.mem_append] at h
    refine h.resolve_left fun hmem => ?_
    rw [List.mem_takeWhile_imp hmem] at hc
    cases hc
  obtain ⟨s, hs, e⟩ := exists_dropEndWhile_append isBlank (trimStart t)
  rw [e, List.mem_append] at hstart
  refine hstart.resolve_right fun hmem => ?_
  rw [hs c hmem] at hc
  cases hc

theorem isBlank_of_mem_head?_trim {t : Text} {c : Char} (h : c ∈ (trim t).head?) : isBlank c = false :=
  of_mem_head?_trimBoth h

/-- A trimmed text stays. -/
theorem trim_trim (t : Text) : trim (trim t) = trim t :=
  trimBoth_eq_self (fun _ => isBlank_of_mem_head?_trim) fun _ => of_mem_getLast?_dropEndWhile

theorem trim_trimStart (t : Text) : trim (trimStart t) = trim t := by
  unfold trim trimStart
  rw [List.dropWhile_idempotent]

theorem takeWhile_append_trimStart (t : Text) : t.takeWhile isBlank ++ trimStart t = t :=
  List.takeWhile_append_dropWhile

theorem length_sub_trimStart (t : Text) : t.length - (trimStart t).length = (t.takeWhile isBlank).length := by
  have h := congrArg List.length (takeWhile_append_trimStart t)
  rw [List.length_append] at h
  omega

/-- What stands at the end of a trimmed text has no blanks at its end. -/
theorem trim_of_trim_append {s t : Text} (h : trim (s ++ t) = s ++ t) : trim t = trimStart t := by
  refine dropEndWhile_eq_self fun c hc => ?_
  have hend : c ∈ (trim (s ++ t)).getLast? := by
    rw [h, ← takeWhile_append_trimStart t, ← List.append_assoc, List.getLast?_append, Option.mem_def.1 hc]
    rfl
  exact of_mem_getLast?_dropEndWhile hend

/-- A text is what stands between the blanks at its ends. -/
theorem exists_trim_append (t : Text) : ∃ s, (∀ c ∈ s, isBlank c = true) ∧ t = t.takeWhile isBlank ++ (trim t ++ s) := by
  obtain ⟨s, hs, hstart⟩ := exists_dropEndWhile_append isBlank (trimStart t)
  refine ⟨s, hs, ?_⟩
  calc t = t.takeWhile isBlank ++ trimStart t := (takeWhile_append_trimStart t).symm
    _ = t.takeWhile isBlank ++ (trim t ++ s) := congrArg (t.takeWhile isBlank ++ ·) hstart

theorem mem_of_mem_trim {c : Char} {t : Text} (h : c ∈ trim t) : c ∈ t := by
  have hstart : c ∈ trimStart t := (List.rdropWhile_prefix isBlank _).subset h
  exact (List.dropWhile_sublist _).subset hstart

/-- A text after other characters stays when neither its first nor its last character is a blank. -/
theorem trim_append_of_not_blank {c : Char} {s : Text} (hfirst : isBlank c = false)
    (hlast : ∀ d ∈ (c :: s).getLast?, isBlank d = false) (t : Text) :
    trim (t ++ c :: s) = trimStart t ++ c :: s := by
  have hstart : trimStart (t ++ c :: s) = trimStart t ++ c :: s := by
    unfold trimStart
    rw [List.dropWhile_append]
    split
    · rename_i h
      rw [List.isEmpty_iff] at h
      rw [h, List.dropWhile_cons, hfirst]
      rfl
    · rfl
  unfold trim
  rw [hstart]
  refine dropEndWhile_eq_self ?_
  rwa [List.getLast?_append_of_ne_nil _ (List.cons_ne_nil c s)]

/-! ### Cutting -/

/-- The longest stretch of such characters at the start ends at the first other character. -/
theorem takeWhile_append_cons {p : Char → Bool} {s : Text} (hs : ∀ c ∈ s, p c = true) {d : Char} (hd : p d = false)
    (t : Text) : (s ++ d :: t).takeWhile p = s := by
  rw [List.takeWhile_append_of_pos hs, List.takeWhile_cons_of_neg (by simp [hd]), List.append_nil]

theorem dropWhile_append_cons {p : Char → Bool} {s : Text} (hs : ∀ c ∈ s, p c = true) {d : Char} (hd : p d = false)
    (t : Text) : (s ++ d :: t).dropWhile p = d :: t := by
  rw [List.dropWhile_append_of_pos hs, List.dropWhile_cons_of_neg (by simp [hd])]

theorem cutAtChar_eq_none {c : Char} {t : Text} (h : c ∉ t) : cutAtChar c t = none := by
  induction t with
  | nil => rfl
  | cons d t ih =>
    rw [List.mem_cons, not_or] at h
    rw [cutAtChar, if_neg (by simpa using Ne.symm h.1), ih h.2]
    rfl

theorem cutAtChar_append {c : Char} {s : Text} (h : c ∉ s) (t : Text) : cutAtChar c (s ++ c :: t) = some (s, t) := by
  induction s with
  | nil => rw [List.nil_append, cutAtChar, if_pos (by simp)]
  | cons d s ih =>
    rw [List.mem_cons, not_or] at h
    rw [List.cons_append, cutAtChar, if_neg (by simpa using Ne.symm h.1), ih h.2]
    rfl

theorem cutAtChar_eq_some_iff {c : Char} {t before after : Text} :
    cutAtChar c t = some (before, after) ↔ t = before ++ c :: after ∧ c ∉ before := by
  constructor
  · intro h
    by_cases hmem : c ∈ t
    · obtain ⟨s, r, rfl, hs⟩ := List.eq_append_cons_of_mem hmem
      rw [cutAtChar_append hs] at h
      cases h
      exact ⟨rfl, hs⟩
    · rw [cutAtChar_eq_none hmem] at h
      cases h
  · rintro ⟨rfl, h⟩
    exact cutAtChar_append h after

/-- A text is cut at the first place where the pattern begins, when its first character does not come earlier. -/
theorem cutAt_append {c : Char} {s : Text} (hs : c ∉ s) (pat t : Text) :
    cutAt (c :: pat) (s ++ (c :: pat ++ t)) = some (s, t) := by
  induction s with
  | nil => simp [cutAt]
  | cons d s ih =>
    rw [List.mem_cons, not_or] at hs
    have hstart : (c :: pat).isPrefixOf (d :: (s ++ (c :: pat ++ t))) = false := by
      rw [List.isPrefixOf, beq_false_of_ne hs.1, Bool.false_and]
    rw [List.cons_append, cutAt, hstart, ih hs.2]
    rfl

theorem cutAtChar_dropEndWhile {p : Char → Bool} {c : Char} (hc : p c = false) (t : Text) :
    cutAtChar c (dropEndWhile p t) = (cutAtChar c t).map (Prod.map id (dropEndWhile p)) := by
  by_cases hmem : c ∈ t
  · obtain ⟨s, r, rfl, hs⟩ := List.eq_append_cons_of_mem hmem
    rw [dropEndWhile_append_cons hc, cutAtChar_append hs, cutAtChar_append hs]
    rfl
  · obtain ⟨s, -, e⟩ := exists_dropEndWhile_append p t
    have hkept : c ∉ dropEndWhile p t := by
      intro h
      rw [e] at hmem
      exact hmem (List.mem_append_left s h)
    rw [cutAtChar_eq_none hkept, cutAtChar_eq_none hmem]
    rfl

/-- What comes after the last of some characters. -/
theorem cutAfterLast_eq_some {p : Char → Bool} {t upTo after : Text} (h : cutAfterLast p t = some (upTo, after)) :
    ∃ before c, p c = true ∧ upTo = before ++ [c] ∧ t = before ++ c :: after := by
  unfold cutAfterLast at h
  split at h
  · cases h
  · rename_i c before hdrop
    cases h
    have hc : p c = true := by
      have hhead := List.head?_dropWhile_not (fun c => !p c) t.reverse
      rw [hdrop] at hhead
      simpa using hhead
    have hcut : t.reverse.takeWhile (fun c => !p c) ++ c :: before = t.reverse := by
      rw [← hdrop]
      exact List.takeWhile_append_dropWhile
    obtain ⟨after, rfl⟩ : ∃ after, t = before.reverse ++ c :: after :=
      ⟨_, by simpa using (congrArg List.reverse hcut).symm⟩
    exact ⟨before.reverse, c, hc, rfl, by simp [List.drop_append]⟩

/-- A text is cut at a character behind which there is none to cut at. -/
theorem cutAfterLast_append {p : Char → Bool} {c : Char} (hc : p c = true) {after : Text}
    (hafter : ∀ d ∈ after, p d = false) (before : Text) :
    cutAfterLast p (before ++ c :: after) = some (before ++ [c], after) := by
  have hdrop : (before ++ c :: after).reverse.dropWhile (fun d => !p d) = c :: before.reverse := by
    rw [List.reverse_append, List.reverse_cons, List.append_assoc, List.dropWhile_append_of_pos]
    · simp [hc]
    · intro d hd
      simp [hafter d (List.mem_reverse.1 hd)]
  unfold cutAfterLast
  rw [hdrop]
  simp [List.drop_append]

end WikiSite
