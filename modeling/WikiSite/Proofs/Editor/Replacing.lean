import WikiSite.Proofs.Editor.Accepting
import WikiSite.Proofs.Page.LinkGrammar

/-!
# Replacing what was typed

Four analyses say from which column on a field, an admonition, a mention or a wikilink is being typed. Each parts the
text in front of the cursor at that column, so the stretch from there to the cursor is what is being typed, up to the
blanks around the name of a field or of a type (`Cursor.standsOn_of_cursorAt`). An item replaces that stretch. The name
of a type comes to stand behind the marker and at least one blank, so the line opens an admonition with that marker
(`admonitionOn_append`, `Completion.exists_marks_of_mem`).
-/

namespace WikiSite

/-! ### The stretch that is being typed -/

namespace Cursor

def first : Cursor → Nat
  | .field typed => typed.first
  | .admonition typed => typed.first
  | .mention typed => typed.first
  | .wikilink typed => typed.first

/-- Whether `s` is what is being typed. A name may stand between blanks. -/
def Reads : Cursor → Text → Prop
  | .field ⟨.name, text, _, _⟩, s => trim s = text
  | .field ⟨.value _, text, _, _⟩, s => s = text
  | .admonition typed, s => trim s = typed.text
  | .mention typed, s => s = typed.text
  | .wikilink typed, s => s = typed.text

/-- What is being typed stands on the line, from its first column up to the cursor. -/
structure StandsOn (cursor : Cursor) (line : Text) (column : Nat) : Prop where
  first_le : cursor.first ≤ min column line.length
  reads : cursor.Reads (stretch line cursor.first (min column line.length))

theorem StandsOn.of_textUpTo {cursor : Cursor} {line s : Text} {column : Nat} (before : Text)
    (h : textUpTo line column = before ++ s) (hfirst : cursor.first = before.length) (hreads : cursor.Reads s) :
    cursor.StandsOn line column := by
  constructor
  · have hlength := congrArg List.length h
    rw [textUpTo, List.length_take, List.length_append] at hlength
    omega
  · rw [hfirst, stretch_of_textUpTo h]
    exact hreads

end Cursor

/-! ### Fields -/

theorem standsOn_of_fieldTypedOnLine {line : Text} {column : Nat} {typed : FieldTyped} (elsewhere : List Text)
    (h : fieldTypedOnLine line column = some typed) :
    (Cursor.field { typed with elsewhere := elsewhere }).StandsOn line column := by
  have hname : (Cursor.field ⟨.name, trim (textUpTo line column),
      (textUpTo line column).length - (trimStart (textUpTo line column)).length, elsewhere⟩).StandsOn line column :=
    .of_textUpTo _ (takeWhile_append_trimStart _).symm (length_sub_trimStart _) (trim_trimStart _)
  unfold fieldTypedOnLine at h
  simp only at h
  split at h
  · cases h
  split at h
  · cases h
    exact hname
  rename_i name after hcut
  split at h
  · cases h
    rename_i hcursor
    constructor
    · -- the blank behind the colon is passed over only where it stands in front of the cursor
      show (if after.head? == some ' ' && name.length + 1 < min column line.length then name.length + 2
        else name.length + 1) ≤ min column line.length
      split
      · rename_i hblank
        simp only [Bool.and_eq_true, decide_eq_true_eq] at hblank
        omega
      · omega
    · rfl
  · cases h
    exact hname

/-! ### Admonitions -/

theorem not_blank_of_mem_markers {marker : Text} (h : marker ∈ markers) {c : Char} (hc : c ∈ marker) :
    isBlank c = false := by
  simpa using of_mem_markers (p := fun c => !isBlank c) (by decide) h hc

theorem exists_cons_of_mem_markers : ∀ marker ∈ markers, ∃ c s, marker = c :: s := by simp [markers]

/-- The text in front of the cursor holds a marker between blanks, and behind it what is being typed. -/
structure AdmonitionTyped.ReadFrom (typed : AdmonitionTyped) (t indent gap tail : Text) : Prop where
  text_eq : t = (indent ++ (typed.marker ++ gap)) ++ (typed.text ++ tail)
  first : typed.first = (indent ++ (typed.marker ++ gap)).length
  marker : typed.marker ∈ markers
  blankIndent : ∀ c ∈ indent, isBlank c = true
  blankGap : ∀ c ∈ gap, isBlank c = true
  trimmed : trim (typed.text ++ tail) = typed.text
  bare : gap = [] → typed.text = [] ∧ tail = []

theorem exists_readFrom {line : Text} {column : Nat} {typed : AdmonitionTyped}
    (h : admonitionTyped line column = some typed) :
    ∃ indent gap tail, typed.ReadFrom (textUpTo line column) indent gap tail := by
  obtain ⟨tail, htail, hbefore⟩ := exists_trim_append (textUpTo line column)
  have hindent : ∀ c ∈ (textUpTo line column).takeWhile isBlank, isBlank c = true := fun _ => List.mem_takeWhile_imp
  unfold admonitionTyped at h
  simp only [length_sub_trimStart] at h
  split at h
  · cases h
  · rename_i marker hcut
    cases h
    obtain ⟨hstart, hmarker, -⟩ := cutMarker_eq_some_iff.1 hcut
    -- all blanks behind a bare marker are left in place
    rw [hstart] at hbefore
    refine ⟨_, tail, [], ?_, congrArg List.length ?_, hmarker, hindent, htail, rfl, fun _ => ⟨rfl, rfl⟩⟩
    · simpa using hbefore
    · simpa using hbefore
  · rename_i marker rest _ hcut
    obtain ⟨hstart, hmarker, -⟩ := cutMarker_eq_some_iff.1 hcut
    split at h
    · rename_i hname
      cases h
      have hgap : rest.takeWhile isBlank ++ trimStart rest = rest := takeWhile_append_trimStart rest
      have htrimmed : trim (trimStart rest) = trimStart rest := by
        rw [trim_trimStart]
        refine trim_of_trim_append (s := marker) ?_
        rw [← hstart, trim_trim]
      refine ⟨_, rest.takeWhile isBlank, tail, ?_, ?_, hmarker, hindent, fun _ => List.mem_takeWhile_imp, ?_, ?_⟩
      · calc textUpTo line column
            = (textUpTo line column).takeWhile isBlank ++ (trim (textUpTo line column) ++ tail) := hbefore
          _ = (textUpTo line column).takeWhile isBlank ++
                ((marker ++ (rest.takeWhile isBlank ++ trimStart rest)) ++ tail) := by rw [hgap, hstart]
          _ = _ := by simp only [List.append_assoc]
      · simp only [List.length_append]
        omega
      · rw [trim_append_blank htail, htrimmed]
      · intro hnil
        rw [hnil, List.nil_append] at hgap
        rw [hgap] at hname
        simp at hname
    · cases h

theorem Cursor.standsOn_of_admonitionTyped {line : Text} {column : Nat} {typed : AdmonitionTyped}
    (h : admonitionTyped line column = some typed) : (Cursor.admonition typed).StandsOn line column := by
  obtain ⟨indent, gap, tail, hread⟩ := exists_readFrom h
  exact .of_textUpTo _ hread.text_eq hread.first hread.trimmed

/-- Blanks, a marker, at least one blank and a word open an admonition. -/
theorem admonitionOn_append {indent marker gap : Text} {c : Char} (hindent : ∀ d ∈ indent, isBlank d = true)
    (hmarker : marker ∈ markers) (hgap : ∀ d ∈ gap, isBlank d = true) (hne : gap ≠ []) (hword : isWord c = true)
    (hblank : isBlank c = false) (after : Text) :
    admonitionOn (indent ++ (marker ++ (gap ++ c :: after))) =
      some ⟨marker, c :: after.takeWhile isWord, indent.length,
        indent.length + marker.length + gap.length + (c :: after.takeWhile isWord).length⟩ := by
  have hstart : trimStart (indent ++ (marker ++ (gap ++ c :: after))) = marker ++ (gap ++ c :: after) := by
    obtain ⟨d, s, rfl⟩ := exists_cons_of_mem_markers marker hmarker
    exact dropWhile_append_cons hindent (not_blank_of_mem_markers hmarker List.mem_cons_self) _
  have hname : trimStart (gap ++ c :: after) = c :: after := dropWhile_append_cons hgap hblank after
  have hcut : cutMarker (marker ++ (gap ++ c :: after)) = some (marker, gap ++ c :: after) := by
    refine cutMarker_eq_some_iff.2 ⟨rfl, hmarker, fun _ hplus => ?_⟩
    obtain ⟨d, gap, rfl⟩ := List.exists_cons_of_ne_nil hne
    cases hplus
    exact absurd (hgap '+' List.mem_cons_self) (by decide)
  have hlength := List.length_pos_of_ne_nil hne
  unfold admonitionOn
  simp only [hstart, hcut, hname, List.takeWhile_cons_of_pos hword]
  rw [if_pos (by simp [hlength])]
  simp only [List.length_append, Nat.add_sub_cancel]

/-- The name of a type starts with a letter. -/
theorem AdmonitionKind.exists_name_eq_cons : ∀ k ∈ AdmonitionKind.all,
    ∃ c s, k.name.toList = c :: s ∧ isWord c = true ∧ isBlank c = false := by
  have hnames : ∀ k ∈ AdmonitionKind.all,
      (k.name.toList.head?.any fun c => isWord c && !isBlank c) = true := by decide
  intro k hk
  obtain ⟨c, hc, hletter⟩ := (Option.any_eq_true _ _).1 (hnames k hk)
  obtain ⟨s, hs⟩ := List.head?_eq_some_iff.1 hc
  exact ⟨c, s, hs, by simpa using hletter⟩

/-- The line opens an admonition: blanks, the marker, at least one blank and the name of the type. -/
structure Marks (edited marker : Text) (kind : AdmonitionKind) (indent gap after : Text) : Prop where
  edited_eq : edited = indent ++ (marker ++ (gap ++ (kind.name.toList ++ after)))
  marker_mem : marker ∈ markers
  blankIndent : ∀ c ∈ indent, isBlank c = true
  blankGap : gap ≠ [] ∧ ∀ c ∈ gap, isBlank c = true
  /-- The admonition is found at every column of the marker. -/
  found : ∀ column, indent.length ≤ column → column < indent.length + marker.length →
    ∃ a, admonitionAt edited column = some a ∧ a.marker = marker ∧ a.first = indent.length

theorem Marks.of_eq {edited marker indent gap after : Text} {kind : AdmonitionKind}
    (h : edited = indent ++ (marker ++ (gap ++ (kind.name.toList ++ after)))) (hkind : kind ∈ AdmonitionKind.all)
    (hmarker : marker ∈ markers) (hindent : ∀ c ∈ indent, isBlank c = true) (hne : gap ≠ [])
    (hgap : ∀ c ∈ gap, isBlank c = true) : Marks edited marker kind indent gap after := by
  refine ⟨h, hmarker, hindent, ⟨hne, hgap⟩, fun column hfirst hlast => ?_⟩
  obtain ⟨c, s, hname, hword, hblank⟩ := AdmonitionKind.exists_name_eq_cons kind hkind
  have hon := admonitionOn_append hindent hmarker hgap hne hword hblank (s ++ after)
  rw [hname, List.cons_append] at h
  rw [← h] at hon
  unfold admonitionAt
  rw [hon]
  refine ⟨_, Option.filter_eq_some_iff.2 ⟨rfl, ?_⟩, rfl, rfl⟩
  simp only [Bool.and_eq_true, decide_eq_true_eq]
  omega

/-- Behind the marker comes a blank, which an item puts in where there is none. -/
theorem AdmonitionTyped.ReadFrom.exists_gap {typed : AdmonitionTyped} {t indent gap tail : Text}
    (h : typed.ReadFrom t indent gap tail) (name : Text) :
    ∃ gap', gap' ≠ [] ∧ (∀ c ∈ gap', isBlank c = true) ∧
      gap ++ (if !(t.getLast?.any isBlank) && typed.text.isEmpty then ' ' :: name else name) = gap' ++ name := by
  split
  · refine ⟨gap ++ [' '], by simp, ?_, by simp⟩
    intro c hc
    rcases List.mem_append.1 hc with hc | hc
    · exact h.blankGap c hc
    · rw [List.mem_singleton.1 hc]
      decide
  · rename_i hspace
    refine ⟨gap, ?_, h.blankGap, rfl⟩
    rintro rfl
    obtain ⟨htext, htail⟩ := h.bare rfl
    -- a bare marker ends the text, so a blank is put in
    obtain ⟨c, s, hmarker⟩ := exists_cons_of_mem_markers _ h.marker
    have hend : t.getLast? = typed.marker.getLast? := by
      rw [h.text_eq, htext, htail, List.append_nil, List.append_nil, List.append_nil]
      exact List.getLast?_append_of_ne_nil _ (by simp [hmarker])
    have hlast : typed.marker.getLast?.any isBlank = false := by
      rw [Option.any_eq_false]
      intro c hc
      simp [not_blank_of_mem_markers h.marker (List.mem_of_getLast? hc)]
    rw [hend, hlast, htext] at hspace
    exact hspace rfl

/-! ### What the items replace -/

theorem Cursor.standsOn_of_cursorAt {page : Text} {line column : Nat} {cursor : Cursor}
    (h : cursorAt page line column = some cursor) : cursor.StandsOn (lineAt page line) column := by
  have hread := readAt_of_cursorAt h
  cases cursor with
  | field typed =>
    change fieldTyped page line column = some typed at hread
    unfold fieldTyped at hread
    split at hread
    · cases hread
    · obtain ⟨typed, htyped, rfl⟩ := Option.map_eq_some_iff.1 hread
      exact standsOn_of_fieldTypedOnLine _ htyped
  | admonition typed => exact standsOn_of_admonitionTyped hread
  | mention typed =>
    obtain ⟨before, hbefore, hfirst, -⟩ := mentionTyped_eq_some hread
    refine .of_textUpTo (before ++ ['@']) (by simpa using hbefore) ?_ rfl
    simpa [Cursor.first] using hfirst
  | wikilink typed =>
    obtain ⟨before, hbefore, hfirst, -⟩ := openLinkFrom_eq_some hread
    refine .of_textUpTo (before ++ ['[', '[']) (by simpa using hbefore) ?_ rfl
    simpa [Cursor.first] using hfirst

namespace Completion

variable {ix : Index} {page : Text} {pos : Position} {item : CompletionItem}

theorem range_of_mem_fieldItems {typed : FieldTyped} {line character : Nat} (h : item ∈ fieldItems typed line character) :
    item.edit.range = .onLine line typed.first character := by
  unfold fieldItems at h
  simp only at h
  split at h
  · obtain ⟨v, -, rfl⟩ := List.mem_map.1 h
    rfl
  · obtain ⟨f, -, rfl⟩ := List.mem_map.1 h
    rfl

theorem mem_admonitionItems {typed : AdmonitionTyped} {lineText : Text} {line character : Nat}
    (h : item ∈ admonitionItems typed lineText line character) :
    item.edit.range = .onLine line typed.first character ∧ ∃ kind ∈ AdmonitionKind.all,
      item.label = kind.name.toList ∧
        item.edit.newText = if !((textUpTo lineText character).getLast?.any isBlank) && typed.text.isEmpty
          then ' ' :: kind.name.toList else kind.name.toList := by
  unfold admonitionItems at h
  obtain ⟨kind, hkind, rfl⟩ := List.mem_map.1 h
  exact ⟨rfl, kind, (List.mem_filter.1 hkind).1, rfl, rfl⟩

theorem range_of_mem {cursor : Cursor} (hcursor : cursorAt page pos.line pos.character = some cursor)
    (h : item ∈ completions ix page pos) : item.edit.range = .onLine pos.line cursor.first pos.character := by
  simp only [completions, hcursor] at h
  cases cursor with
  | field typed => exact range_of_mem_fieldItems h
  | admonition typed => exact (mem_admonitionItems h).1
  | mention typed => exact (mem_mentionItems h).2
  | wikilink typed => exact (mem_wikilinkItems h).2.2.1

theorem exists_marks_of_mem {typed : AdmonitionTyped} {lineText : Text} {line character : Nat}
    (htyped : admonitionTyped lineText character = some typed)
    (h : item ∈ admonitionItems typed lineText line character) :
    ∃ kind indent gap after, item.label = kind.name.toList ∧
      Marks (item.edit.applyToLine lineText) typed.marker kind indent gap after := by
  obtain ⟨indent, gap, tail, hread⟩ := exists_readFrom htyped
  obtain ⟨hrange, kind, hkind, hlabel, hnew⟩ := mem_admonitionItems h
  obtain ⟨gap', hne, hgap', hname⟩ := hread.exists_gap kind.name.toList
  refine ⟨kind, indent, gap', lineText.drop character, hlabel, ?_⟩
  refine .of_eq ?_ hkind hread.marker hread.blankIndent hne hgap'
  calc item.edit.applyToLine lineText
      = (indent ++ (typed.marker ++ gap)) ++ (item.edit.newText ++ lineText.drop character) :=
        applyToLine_onLine (hread.first ▸ hrange) hread.text_eq
    _ = indent ++ (typed.marker ++ ((gap ++ item.edit.newText) ++ lineText.drop character)) := by
        simp only [List.append_assoc]
    _ = indent ++ (typed.marker ++ (gap' ++ (kind.name.toList ++ lineText.drop character))) := by
        rw [hnew, hname, List.append_assoc]

end Completion

/-- Every item replaces what is being typed at the cursor. -/
structure ReplacesTyped (ix : Index) (page : Text) (pos : Position) : Prop where
  /-- An item replaces the stretch from where the typing starts up to the cursor. -/
  edit : ∀ item ∈ completions ix page pos, ∃ cursor, cursorAt page pos.line pos.character = some cursor ∧
    item.edit.range = .onLine pos.line cursor.first pos.character ∧
    cursor.StandsOn (lineAt page pos.line) pos.character
  /-- The line still opens an admonition with the marker that is there. -/
  admonition : ∀ typed, cursorAt page pos.line pos.character = some (.admonition typed) →
    ∀ item ∈ completions ix page pos, ∃ kind indent gap after, item.label = kind.name.toList ∧
      Marks (item.edit.applyToLine (lineAt page pos.line)) typed.marker kind indent gap after

/-- Whatever the index, the page and the position, completion replaces exactly what is being typed. -/
theorem completions_replace_typed (ix : Index) (page : Text) (pos : Position) : ReplacesTyped ix page pos := by
  constructor
  · intro item hitem
    cases hcursor : cursorAt page pos.line pos.character with
    | none =>
      simp only [completions, hcursor] at hitem
      cases hitem
    | some cursor =>
      exact ⟨cursor, rfl, Completion.range_of_mem hcursor hitem, Cursor.standsOn_of_cursorAt hcursor⟩
  · intro typed hcursor item hitem
    simp only [completions, hcursor] at hitem
    exact Completion.exists_marks_of_mem (readAt_of_cursorAt hcursor) hitem

/-- The cursor stands in front of a plus sign, and the blank that is put in keeps the two apart. -/
example :
    ((completions .empty "  ???+".toList ⟨0, 5⟩).head?.map fun i => i.edit.applyToLine "  ???+".toList) =
      some "  ??? note+".toList := by
  decide +kernel

end WikiSite
