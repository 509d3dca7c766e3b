import WikiSite.Proofs.Editor.Accepting
import WikiSite.Proofs.Page.LinkGrammar

/-!
# Completing inside a link

The cursor may stand in the target of a link that is already complete. Between it and the brackets that close the link
stands what is left of the target, and the display text if there is one (`exists_rest_of_inside`). An item closes the
link unless the closing brackets follow the cursor at once (`PutInside`), so it keeps the link whole just at the end of a
target without display text (`keepsLink_iff`). Anywhere else the link is closed twice and the line has two brackets more
(`PutInside.count_edited`).
-/

namespace WikiSite

/-- After an edit of its line the link is still one link, with the same display text. -/
structure KeepsLink (line edited : Text) (l : Wikilink) : Prop where
  opening : edited.count '[' = line.count '['
  closing : edited.count ']' = line.count ']'
  found : ∃ m ∈ findWikilinks edited, m.first = l.first ∧ m.display = l.display

/-! ### The cursor in a target -/

/-- A part at the start of a text ends in front of a character that it does not hold. -/
private theorem exists_rest_append {s t w u : Text} {c : Char} (h : s ++ t = w ++ c :: u) (hs : c ∉ s) :
    ∃ rest, w = s ++ rest ∧ t = rest ++ c :: u := by
  rcases List.append_eq_append_iff.1 h with ⟨rest, hw, ht⟩ | ⟨rest, hw, ht⟩
  · exact ⟨rest, hw, ht⟩
  · cases rest with
    | nil => exact ⟨[], by simpa using hw.symm, by simpa using ht.symm⟩
    | cons d rest =>
      obtain ⟨rfl, -⟩ := List.cons.inj ht
      exact absurd (by simp [hw]) hs

/-- Behind a cursor in the target of a link stands the rest of the link. -/
theorem exists_rest_of_inside {line : Text} {column : Nat} {typed : Typed} {l : Wikilink}
    (htyped : wikilinkTyped line column = some typed) (hlink : wikilinkAt line column = some l)
    (hfirst : l.first + 2 = typed.first) :
    ∃ before rest after, textUpTo line column = before ++ '[' :: '[' :: typed.text ∧
      line.drop column = rest ++ ']' :: ']' :: after ∧ l.first = before.length ∧ l.last = column + rest.length + 2 ∧
      (∀ c ∈ typed.text ++ rest, noBracket c = true) ∧ (rest = [] → l.display = none) := by
  obtain ⟨hl, hcolumn⟩ := wikilinkAt_eq_some_iff.1 hlink
  obtain ⟨w, hw⟩ := mem_findWikilinks_iff.1 hl
  obtain ⟨before, after, hline, hchars, hlinkOf⟩ := Wikilink.writtenOn_iff.1 hw
  obtain ⟨before', hupTo, hstart, -, hopen⟩ := openLinkFrom_eq_some htyped
  have hlfirst : l.first = before.length := by
    obtain ⟨-, rfl⟩ := linkOf_eq_some_iff.1 hlinkOf
    rfl
  have hllast : l.last = before.length + 2 + (w.length + 2) := by
    obtain ⟨-, rfl⟩ := linkOf_eq_some_iff.1 hlinkOf
    rfl
  -- the text in front of the cursor starts as the line does
  have hwhole : before' ++ '[' :: '[' :: (typed.text ++ line.drop column) =
      before ++ '[' :: '[' :: (w ++ ']' :: ']' :: after) := by
    have hcut : textUpTo line column ++ line.drop column = line := List.take_append_drop column line
    rw [hupTo, hline] at hcut
    simpa [hline] using hcut
  have hlength : before'.length = before.length := by omega
  obtain ⟨rfl, hinner⟩ := List.append_inj hwhole hlength
  have hinner : typed.text ++ line.drop column = w ++ ']' :: ']' :: after := by simpa using hinner
  have hclosing : ']' ∉ typed.text := by
    intro hmem
    have := List.all_eq_true.1 hopen _ hmem
    simp at this
  obtain ⟨rest, rfl, hrest⟩ := exists_rest_append hinner hclosing
  have hcursor : column = before'.length + 2 + typed.text.length := by
    have hlt := hw.inside
    have := congrArg List.length hupTo
    simp only [textUpTo, List.length_take, List.length_append, List.length_cons] at this
    omega
  refine ⟨before', rest, after, hupTo, hrest, hlfirst, ?_, hchars, ?_⟩
  · rw [hllast, List.length_append]
    omega
  · rintro rfl
    have hbar : afterBar (typed.text ++ []) = [] := by
      unfold afterBar
      rw [List.append_nil, List.dropWhile_eq_nil_iff.2, List.drop_nil]
      intro c hc
      have := List.all_eq_true.1 hopen c hc
      simp_all
    rw [hw.display, hbar]
    rfl

/-! ### What becomes of the link -/

/-- An item closes the link unless the closing brackets follow the cursor at once. -/
theorem Completion.newText_of_mem_wikilinkItems {ix : Index} {typed : Typed} {lineText : Text} {line character : Nat}
    {item : CompletionItem} (h : item ∈ wikilinkItems ix typed lineText line character) :
    item.edit.newText =
      if "]]".toList.isPrefixOf (lineText.drop character) then item.label else item.label ++ "]]".toList := by
  unfold wikilinkItems at h
  obtain ⟨k, -, rfl⟩ := List.mem_map.1 h
  rfl

theorem closes_iff {rest after : Text} (h : ']' ∉ rest) :
    "]]".toList.isPrefixOf (rest ++ ']' :: ']' :: after) = true ↔ rest = [] := by
  cases rest with
  | nil => simp
  | cons c rest =>
    have hc : ']' ≠ c := fun hc => h (hc ▸ List.mem_cons_self)
    simp [List.isPrefixOf, hc]

/-- The line before and after an item is put into the target of a link. -/
structure PutInside (line edited label : Text) (l : Wikilink) (column : Nat) (before typed rest after : Text) : Prop where
  line_eq : line = before ++ '[' :: '[' :: (typed ++ (rest ++ ']' :: ']' :: after))
  edited_eq : edited = before ++ '[' :: '[' :: (label ++ if rest = [] then ']' :: ']' :: after
    else ']' :: ']' :: (rest ++ ']' :: ']' :: after))
  first : l.first = before.length
  last : l.last = column + rest.length + 2
  chars : ∀ c ∈ typed ++ rest, noBracket c = true
  display : rest = [] → l.display = none

section

variable {ix : Index} {page : Text} {pos : Position} {typed : Typed} {l : Wikilink} {item : CompletionItem}

theorem exists_putInside (hcursor : cursorAt page pos.line pos.character = some (.wikilink typed))
    (hlink : wikilinkAt (lineAt page pos.line) pos.character = some l) (hfirst : l.first + 2 = typed.first)
    (hitem : item ∈ completions ix page pos) :
    ∃ before rest after, PutInside (lineAt page pos.line) (item.edit.applyToLine (lineAt page pos.line)) item.label l
      pos.character before typed.text rest after := by
  simp only [completions, hcursor] at hitem
  obtain ⟨before, rest, after, hupTo, hdrop, hlfirst, hlast, hchars, hdisplay⟩ :=
    exists_rest_of_inside (readAt_of_cursorAt hcursor) hlink hfirst
  refine ⟨before, rest, after, ?_, ?_, hlfirst, hlast, hchars, hdisplay⟩
  · have hcut : textUpTo (lineAt page pos.line) pos.character ++ (lineAt page pos.line).drop pos.character =
        lineAt page pos.line := List.take_append_drop _ _
    rw [hupTo, hdrop] at hcut
    simpa using hcut.symm
  · have hclosing : ']' ∉ rest := by
      intro hmem
      exact absurd (hchars ']' (by simp [hmem])) (by decide)
    have htyped : textUpTo (lineAt page pos.line) pos.character = (before ++ ['[', '[']) ++ typed.text := by simp [hupTo]
    have hstart : typed.first = (before ++ ['[', '[']).length := by simp [← hfirst, hlfirst]
    have hrange : item.edit.range = .onLine pos.line typed.first pos.character :=
      (Completion.mem_wikilinkItems hitem).2.2.1
    have hnew := Completion.newText_of_mem_wikilinkItems hitem
    rw [applyToLine_onLine (hstart ▸ hrange) htyped, hnew, hdrop]
    by_cases hempty : rest = []
    · rw [if_pos ((closes_iff hclosing).2 hempty), if_pos hempty, hempty]
      simp
    · rw [if_neg (fun hclosed => hempty ((closes_iff hclosing).1 hclosed)), if_neg hempty]
      simp

end

namespace PutInside

variable {line edited label : Text} {l : Wikilink} {column : Nat} {before typed rest after : Text}

/-- Outside the part that is replaced, and the brackets that are put in, nothing changes. -/
theorem count_edited (h : PutInside line edited label l column before typed rest after) {c : Char}
    (hc : noBracket c = false) (hlabel : c ∉ label) :
    edited.count c = line.count c + if rest = [] then 0 else [']', ']'].count c := by
  have hnone : ∀ t : Text, (∀ d ∈ t, d ∈ typed ++ rest) → t.count c = 0 := by
    intro t ht
    rw [List.count_eq_zero]
    intro hmem
    rw [h.chars c (ht c hmem)] at hc
    cases hc
  have htyped := hnone typed (by simp +contextual)
  have hrest := hnone rest (by simp +contextual)
  rw [h.edited_eq, h.line_eq]
  split
  · simp only [List.count_append, List.count_cons, List.count_eq_zero.2 hlabel, htyped, hrest]
    omega
  · simp only [List.count_append, List.count_cons, List.count_nil, List.count_eq_zero.2 hlabel, htyped, hrest]
    omega

theorem keepsLink (h : PutInside line edited label l column before typed [] after) (hkey : trim label ≠ [])
    (hlabel : ∀ c ∈ label, noBracketOrBar c = true) : KeepsLink line edited l := by
  have hbrackets : ∀ c, noBracket c = false → c ∉ label := by
    intro c hc hmem
    rw [(noBracketOrBar_iff.1 (hlabel c hmem)).1] at hc
    cases hc
  refine ⟨?_, ?_, ?_⟩
  · simpa using h.count_edited (c := '[') (by decide) (hbrackets _ (by decide))
  · simpa using h.count_edited (c := ']') (by decide) (hbrackets _ (by decide))
  · have hbar : ∀ c ∈ label, (c != '|') = true := fun c hc => (noBracketOrBar_iff.1 (hlabel c hc)).2
    have hbody := linkBody_append (fun c hc => (noBracketOrBar_iff.1 (hlabel c hc)).1) after
    rw [List.takeWhile_eq_self_iff.2 hbar, List.dropWhile_eq_nil_iff.2 hbar] at hbody
    have hmem : ⟨trim label, none, before.length, before.length + 2 + (label.length + 2)⟩ ∈
        findWikilinks (before ++ '[' :: '[' :: (label ++ ']' :: ']' :: after)) :=
      mem_findWikilinks_of_linkBody hbody (linkOf_eq_some_iff.2 ⟨hkey, rfl⟩)
    have hedited : edited = before ++ '[' :: '[' :: (label ++ ']' :: ']' :: after) := by rw [h.edited_eq, if_pos rfl]
    rw [← hedited] at hmem
    exact ⟨_, hmem, h.first.symm, (h.display rfl).symm⟩

end PutInside

/-- An item keeps the link whole just if the brackets that close it follow the cursor at once. -/
theorem keepsLink_iff (ix : Index) (page : Text) (pos : Position) (typed : Typed) (l : Wikilink) (item : CompletionItem)
    (hcursor : cursorAt page pos.line pos.character = some (.wikilink typed))
    (hlink : wikilinkAt (lineAt page pos.line) pos.character = some l) (hfirst : l.first + 2 = typed.first)
    (hitem : item ∈ completions ix page pos) (hkey : trim item.label ≠ [])
    (hchars : ∀ c ∈ item.label, c ∉ "[]|\r\n".toList) :
    KeepsLink (lineAt page pos.line) (item.edit.applyToLine (lineAt page pos.line)) l ↔ pos.character + 2 = l.last := by
  obtain ⟨before, rest, after, h⟩ := exists_putInside hcursor hlink hfirst hitem
  have hlabel : ∀ c ∈ item.label, noBracketOrBar c = true := by
    intro c hc
    have := hchars c hc
    simp_all [noBracketOrBar]
  have hlast := h.last
  constructor
  · intro hkept
    have hcount := h.count_edited (c := ']') (by decide) (fun hmem => absurd (hlabel _ hmem) (by decide))
    rw [hkept.closing] at hcount
    have hrest : rest = [] := by
      by_contra hne
      rw [if_neg hne] at hcount
      simp at hcount
    rw [hlast, hrest, List.length_nil]
  · intro hend
    obtain rfl : rest = [] := List.length_eq_zero_iff.1 (by omega)
    exact h.keepsLink hkey hlabel

/-- A site with one post, `about`. -/
private def aboutSite : Index :=
  Index.after [.update ⟨"file".toList, some [], [], "/about.md".toList, none, none⟩ []]

theorem keepsLink_iff_end :
    ∃ item ∈ completions aboutSite "x [[abo]]".toList ⟨0, 7⟩, item.label = "about".toList ∧
      KeepsLink "x [[abo]]".toList (item.edit.applyToLine "x [[abo]]".toList) ⟨"abo".toList, none, 2, 9⟩ := by
  have hlabels : (completions aboutSite "x [[abo]]".toList ⟨0, 7⟩).map (·.label) = ["about".toList] := by decide +kernel
  have hmem : "about".toList ∈ (completions aboutSite "x [[abo]]".toList ⟨0, 7⟩).map (·.label) := by
    rw [hlabels]
    exact List.mem_singleton_self _
  obtain ⟨item, hitem, hlabel⟩ := List.mem_map.1 hmem
  have hkey : trim item.label ≠ [] := by
    rw [hlabel]
    decide
  have hchars : ∀ c ∈ item.label, c ∉ "[]|\r\n".toList := by
    rw [hlabel]
    simp
  have hiff := keepsLink_iff aboutSite "x [[abo]]".toList ⟨0, 7⟩ ⟨"abo".toList, 4⟩ ⟨"abo".toList, none, 2, 9⟩ item
    (by decide +kernel) (by decide +kernel) rfl hitem hkey hchars
  exact ⟨item, hitem, hlabel, hiff.2 rfl⟩

/-- The cursor stands inside the target `about`: the link is closed behind the key, and again at the end. -/
theorem not_keepsLink_inside :
    cursorAt "[[about]]".toList 0 4 = some (.wikilink ⟨"ab".toList, 2⟩) ∧
      wikilinkAt "[[about]]".toList 4 = some ⟨"about".toList, none, 0, 9⟩ ∧
      ∃ item ∈ completions aboutSite "[[about]]".toList ⟨0, 4⟩, item.label = "about".toList ∧
        item.edit.applyToLine "[[about]]".toList = "[[about]]out]]".toList ∧
        ¬ KeepsLink "[[about]]".toList (item.edit.applyToLine "[[about]]".toList) ⟨"about".toList, none, 0, 9⟩ := by
  refine ⟨by decide +kernel, by decide +kernel, ?_⟩
  have hedits : (completions aboutSite "[[about]]".toList ⟨0, 4⟩).map
      (fun i => (i.label, i.edit.applyToLine "[[about]]".toList)) = [("about".toList, "[[about]]out]]".toList)] := by
    decide +kernel
  have hmem : ("about".toList, "[[about]]out]]".toList) ∈ (completions aboutSite "[[about]]".toList ⟨0, 4⟩).map
      (fun i => (i.label, i.edit.applyToLine "[[about]]".toList)) := by
    rw [hedits]
    exact List.mem_singleton_self _
  obtain ⟨item, hitem, heq⟩ := List.mem_map.1 hmem
  obtain ⟨hlabel, hedited⟩ := Prod.mk.inj heq
  refine ⟨item, hitem, hlabel, hedited, ?_⟩
  intro hkept
  have hclosing := hkept.closing
  rw [hedited] at hclosing
  exact absurd hclosing (by decide)

end WikiSite
