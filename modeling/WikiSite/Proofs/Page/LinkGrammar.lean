import WikiSite.Proofs.Page.Stretches

/-!
# The grammar of links

A link is written `[[w]]`, where `w` holds no bracket and the part of it in front of its first bar is not blank
(`Wikilink.WrittenOn`). The links that a search finds on a line are exactly those that are written there, from left to
right and apart, so the link at a column is the one that is written around it; and while the cursor is in the target of
a written link, a link is being typed that begins there or earlier (`recognisesLinks`).
-/

namespace WikiSite

/-- The text of a line from one column up to another. -/
def stretch (line : Text) (first last : Nat) : Text := (line.take last).drop first

/-- The part of a text in front of its first bar; all of it when there is none. -/
def beforeBar (w : Text) : Text := w.takeWhile (· != '|')

/-- The part of a text behind its first bar; empty when there is none. -/
def afterBar (w : Text) : Text := (w.dropWhile (· != '|')).drop 1

/-- The link stands on the line with the given text between its brackets. -/
structure Wikilink.WrittenOn (l : Wikilink) (line w : Text) : Prop where
  inside : l.last ≤ line.length
  text : stretch line l.first l.last = '[' :: '[' :: (w ++ [']', ']'])
  noOpening : '[' ∉ w
  noClosing : ']' ∉ w
  notBlank : trim (beforeBar w) ≠ []
  target : l.target = trim (beforeBar w)
  display : l.display = if trim (afterBar w) = [] then none else some (trim (afterBar w))

theorem stretch_append (before mid after : Text) :
    stretch (before ++ (mid ++ after)) before.length (before.length + mid.length) = mid := by
  simp [stretch, List.take_append]

/-- A line is what stands in front of a stretch, the stretch and what follows it. -/
theorem append_stretch_append (line : Text) {first last : Nat} (h : first ≤ last) :
    line.take first ++ (stretch line first last ++ line.drop last) = line := by
  have htake : (line.take last).take first = line.take first := by rw [List.take_take, Nat.min_eq_left h]
  unfold stretch
  rw [← htake, ← List.append_assoc, List.take_append_drop, List.take_append_drop]

theorem length_stretch {line : Text} {last : Nat} (h : last ≤ line.length) (first : Nat) :
    (stretch line first last).length = last - first := by
  unfold stretch
  rw [List.length_drop, List.length_take, Nat.min_eq_left h]

theorem textUpTo_min (line : Text) (column : Nat) : textUpTo line (min column line.length) = textUpTo line column := by
  unfold textUpTo
  rw [List.take_eq_take_iff]
  omega

/-- What stands in front of a column behind a part of it is the stretch from there up to the column. -/
theorem stretch_of_textUpTo {line before after : Text} {column : Nat} (h : textUpTo line column = before ++ after) :
    stretch line before.length (min column line.length) = after := by
  show (textUpTo line (min column line.length)).drop before.length = after
  rw [textUpTo_min, h, List.drop_left]

theorem forall_noBracket_iff {w : Text} : (∀ c ∈ w, noBracket c = true) ↔ '[' ∉ w ∧ ']' ∉ w := by
  simp only [noBracket, Bool.and_eq_true, bne_iff_ne]
  constructor
  · exact fun h => ⟨fun hw => (h _ hw).1 rfl, fun hw => (h _ hw).2 rfl⟩
  · rintro ⟨hopening, hclosing⟩ c hc
    exact ⟨fun h => hopening (h ▸ hc), fun h => hclosing (h ▸ hc)⟩

theorem filter_trim_tail? (w : Text) : ((w.dropWhile (· != '|')).tail?.map trim).filter (!·.isEmpty) =
    if trim (afterBar w) = [] then none else some (trim (afterBar w)) := by
  unfold afterBar
  cases w.dropWhile (· != '|') with
  | nil => rfl
  | cons c d =>
    rw [List.drop_one, List.tail_cons, List.tail?_cons, Option.map_some]
    by_cases hd : trim d = [] <;> simp [hd]

/-- A link stands on a line where its brackets stand around what is read as the link. -/
theorem Wikilink.writtenOn_iff {l : Wikilink} {line w : Text} : l.WrittenOn line w ↔
    ∃ before after, line = before ++ '[' :: '[' :: (w ++ ']' :: ']' :: after) ∧ (∀ c ∈ w, noBracket c = true) ∧
      linkOf (beforeBar w) (w.dropWhile (· != '|')).tail? before.length (before.length + 2 + (w.length + 2)) =
        some l := by
  constructor
  · intro h
    have hlength := length_stretch h.inside l.first
    simp only [h.text, List.length_cons, List.length_append, List.length_nil] at hlength
    have hline := append_stretch_append line (show l.first ≤ l.last by omega)
    have hfirst : (line.take l.first).length = l.first := by
      have := h.inside
      rw [List.length_take]
      omega
    refine ⟨line.take l.first, line.drop l.last, ?_, forall_noBracket_iff.2 ⟨h.noOpening, h.noClosing⟩, ?_⟩
    · rw [h.text] at hline
      simpa using hline.symm
    · rw [linkOf_eq_some_iff, hfirst, filter_trim_tail?]
      refine ⟨h.notBlank, ?_⟩
      have hlast : l.first + 2 + (w.length + 2) = l.last := by omega
      rw [hlast, ← h.display]
      exact congrArg (Wikilink.mk · l.display l.first l.last) h.target.symm
  · rintro ⟨before, after, rfl, hw, hl⟩
    obtain ⟨hne, rfl⟩ := linkOf_eq_some_iff.1 hl
    obtain ⟨hopening, hclosing⟩ := forall_noBracket_iff.1 hw
    refine ⟨by simp; omega, ?_, hopening, hclosing, hne, rfl, filter_trim_tail? w⟩
    have hstretch := stretch_append before ('[' :: '[' :: (w ++ [']', ']'])) after
    simp only [List.length_cons, List.length_append, List.length_nil, List.cons_append, List.append_assoc,
      List.nil_append] at hstretch
    rw [← hstretch]
    congr 1
    show before.length + 2 + (w.length + 2) = _
    omega

/-! ### What is found is what is written -/

theorem exists_writtenOn_of_mem_linksFrom {skip column : Nat} {t : Text} {l : Wikilink}
    (h : l ∈ linksFrom skip column t) (front : Text) (hfront : front.length = column) :
    ∃ w, l.WrittenOn (front ++ t) w := by
  fun_induction linksFrom skip column t generalizing front with
  | case1 => cases h
  | case2 column skip c rest ih =>
    rw [List.append_cons]
    exact ih h _ (by simp [hfront])
  | case3 column inner target display used hbody ih =>
    rcases List.mem_append.1 h with hl | hl
    · obtain ⟨w, after, rfl, hw, rfl, rfl, rfl⟩ := linkBody_eq_some_iff.1 hbody
      subst hfront
      exact ⟨w, Wikilink.writtenOn_iff.2 ⟨front, after, rfl, hw, Option.mem_toList.1 hl⟩⟩
    · rw [List.append_cons]
      exact ih hl _ (by simp [hfront])
  | case4 column inner hbody ih =>
    rw [List.append_cons]
    exact ih h _ (by simp [hfront])
  | case5 column c rest hother ih =>
    rw [List.append_cons]
    exact ih h _ (by simp [hfront])

/-- The links that are found on a line are those that are written there. -/
theorem mem_findWikilinks_iff {line : Text} {l : Wikilink} : l ∈ findWikilinks line ↔ ∃ w, l.WrittenOn line w := by
  constructor
  · intro h
    exact exists_writtenOn_of_mem_linksFrom h [] rfl
  · rintro ⟨w, h⟩
    obtain ⟨before, after, rfl, hw, hl⟩ := Wikilink.writtenOn_iff.1 h
    exact mem_findWikilinks_of_linkBody (linkBody_append hw after) hl

theorem wikilinkAt_eq_some_iff {line : Text} {column : Nat} {l : Wikilink} :
    wikilinkAt line column = some l ↔ l ∈ findWikilinks line ∧ l.first ≤ column ∧ column < l.last := by
  constructor
  · intro h
    have hcovers : l.covers column = true := List.find?_some (p := fun m : Wikilink => m.covers column) h
    exact ⟨List.mem_of_find?_eq_some h, Wikilink.covers_iff.1 hcovers⟩
  · rintro ⟨hl, hcolumn⟩
    exact wikilinkAt_eq hl (Wikilink.covers_iff.2 hcolumn)

/-! ### A link whose target is being typed -/

/-- Behind brackets that nothing closes a link is being typed, which starts there or earlier. -/
theorem exists_openLinkFrom (column : Nat) {t before rest : Text} (ht : t = before ++ '[' :: '[' :: rest)
    (hrest : rest.all (fun c => c != ']' && c != '|') = true) :
    ∃ typed, openLinkFrom column t = some typed ∧ typed.first ≤ column + before.length + 2 := by
  fun_induction openLinkFrom column t generalizing before with
  | case1 column inner hall => exact ⟨_, rfl, by simp⟩
  | case2 column inner hall ih =>
    cases before with
    | nil =>
      cases ht
      exact absurd hrest hall
    | cons c before =>
      obtain ⟨typed, htyped, hfirst⟩ := ih (List.cons.inj ht).2
      exact ⟨typed, htyped, by simp; omega⟩
  | case3 column c inner hother ih =>
    cases before with
    | nil =>
      cases ht
      exact absurd rfl (hother _ rfl)
    | cons d before =>
      obtain ⟨typed, htyped, hfirst⟩ := ih (List.cons.inj ht).2
      exact ⟨typed, htyped, by simp; omega⟩
  | case4 => simp at ht

theorem text_eq_stretch {line : Text} {column : Nat} {typed : Typed} (h : wikilinkTyped line column = some typed) :
    typed.text = stretch line typed.first column := by
  obtain ⟨before, hbefore, hfirst, -⟩ := openLinkFrom_eq_some h
  unfold stretch
  rw [show line.take column = _ from hbefore, hfirst]
  simp [List.drop_append]

theorem Wikilink.WrittenOn.exists_wikilinkTyped {l : Wikilink} {line w : Text} (h : l.WrittenOn line w) {column : Nat}
    (hfirst : l.first + 2 ≤ column) (hlast : column ≤ l.first + 2 + (beforeBar w).length) :
    ∃ typed, wikilinkTyped line column = some typed ∧ typed.first ≤ l.first + 2 := by
  obtain ⟨before, after, rfl, hw, hl⟩ := Wikilink.writtenOn_iff.1 h
  obtain ⟨-, rfl⟩ := linkOf_eq_some_iff.1 hl
  change before.length + 2 ≤ column at hfirst
  change column ≤ before.length + 2 + (beforeBar w).length at hlast
  obtain ⟨n, rfl⟩ := Nat.exists_eq_add_of_le hfirst
  -- up to the cursor stand the brackets and a part of the target
  have htaken : textUpTo (before ++ '[' :: '[' :: (w ++ ']' :: ']' :: after)) (before.length + 2 + n) =
      before ++ '[' :: '[' :: (beforeBar w).take n := by
    have hw : w ++ ']' :: ']' :: after = beforeBar w ++ (w.dropWhile (· != '|') ++ ']' :: ']' :: after) := by
      unfold beforeBar
      rw [← List.append_assoc, List.takeWhile_append_dropWhile]
    unfold textUpTo
    rw [hw, Nat.add_assoc, List.take_length_add_append, Nat.add_comm 2 n, List.take_succ_cons, List.take_succ_cons,
      List.take_append_of_le_length (by omega)]
  have hchars : ((beforeBar w).take n).all (fun c => c != ']' && c != '|') = true := by
    rw [List.all_eq_true]
    intro c hc
    have hmem : c ∈ beforeBar w := List.mem_of_mem_take hc
    have hbar : (c != '|') = true := List.mem_takeWhile_imp (p := (· != '|')) hmem
    have hclosing : c ≠ ']' := fun hc => h.noClosing (hc ▸ (List.takeWhile_sublist _).mem hmem)
    simp [hbar, hclosing]
  obtain ⟨typed, htyped, hle⟩ := exists_openLinkFrom 0 htaken hchars
  exact ⟨typed, htyped, by simpa using hle⟩

/-! ### The grammar -/

/-- Links are found on a line by their grammar. -/
structure RecognisesLinks (line : Text) : Prop where
  /-- The links come from left to right and lie apart. -/
  apart : (findWikilinks line).Pairwise fun l m => l.first < m.first ∧ l.last ≤ m.first
  /-- They are those that are written on the line. -/
  found_iff : ∀ l, l ∈ findWikilinks line ↔ ∃ w, l.WrittenOn line w
  /-- The link at a column is the one that is written around it. -/
  at_iff : ∀ column l, wikilinkAt line column = some l ↔
    (∃ w, l.WrittenOn line w) ∧ l.first ≤ column ∧ column < l.last
  /-- From the start of a link's target up to its end a link is being typed. -/
  typed : ∀ (l : Wikilink) (w : Text), l.WrittenOn line w → ∀ column, l.first + 2 ≤ column →
    column ≤ l.first + 2 + (beforeBar w).length →
    ∃ typed, wikilinkTyped line column = some typed ∧ typed.first ≤ l.first + 2 ∧
      typed.text = stretch line typed.first column

theorem recognisesLinks (line : Text) : RecognisesLinks line := by
  refine ⟨?_, fun l => mem_findWikilinks_iff, ?_, ?_⟩
  · have hlaid := laid_findWikilinks line
    refine hlaid.apart.imp_of_mem ?_
    intro l m hl hm hapart
    have := hlaid.inside l hl
    omega
  · intro column l
    rw [wikilinkAt_eq_some_iff, mem_findWikilinks_iff]
  · intro l w h column hfirst hlast
    obtain ⟨typed, htyped, hle⟩ := h.exists_wikilinkTyped hfirst hlast
    exact ⟨typed, htyped, hle, text_eq_stretch htyped⟩

/-- The link inside other brackets, with a second bar in its display text. -/
example : findWikilinks "[[[a |b|c]]] [[ |d]]".toList = [⟨"a".toList, some "b|c".toList, 1, 11⟩] := by decide

end WikiSite
