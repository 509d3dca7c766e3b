import WikiSite.Proofs.Editor.Replacing
import WikiSite.Proofs.Page.BlockLines
import WikiSite.Proofs.Site.Checks
import WikiSite.Proofs.Text.Lines

/-!
# Names of fields

An edit of one line leaves the lines around it as they are (`LineStands.applyToPage_eq`). When the line lies inside the
frontmatter and is no delimiter afterwards, the page keeps its block, and the other lines declare what they declared
(`declaredElsewhere_exchange`). A name is offered only when no other line declares it, so once it is accepted it is
declared at most once and is no duplicate (`completions_declare_once`).
-/

namespace WikiSite

/-! ### Edits of a page -/

/-- Where a position stands in the text of a page; a column behind the last one of its line is the end of the line. -/
def offsetOf (page : Text) (pos : Position) : Nat :=
  ((linesWithEnds page).take pos.line).flatten.length + min pos.character (lineAt page pos.line).length

def TextEdit.applyToPage (e : TextEdit) (page : Text) : Text :=
  page.take (offsetOf page e.range.first) ++ e.newText ++ page.drop (offsetOf page e.range.last)

namespace LineStands

variable {page page' line line' ending : Text} {before after : List Text}

theorem offsetOf_eq (h : LineStands page before line ending after) (column : Nat) :
    offsetOf page ⟨before.length, column⟩ = before.flatten.length + min column line.length := by
  unfold offsetOf
  rw [h.lineAt_eq, h.lines_eq, List.take_left]

/-- An edit of a line leaves what stands around the line. -/
theorem applyToPage_eq (h : LineStands page before line ending after) {e : TextEdit} {first last : Nat}
    (hrange : e.range = .onLine before.length first last) :
    e.applyToPage page = before.flatten ++ (e.applyToLine line ++ (ending ++ after.flatten)) := by
  have htake : page.take (before.flatten.length + min first line.length) = before.flatten ++ line.take first := by
    rw [h.page_eq, List.take_length_add_append, List.take_append_of_le_length (Nat.min_le_right _ _),
      ← List.take_eq_take_min]
  have hdrop : page.drop (before.flatten.length + min last line.length) =
      line.drop last ++ (ending ++ after.flatten) := by
    rw [h.page_eq, List.drop_length_add_append, List.drop_append_of_le_length (Nat.min_le_right _ _),
      ← List.drop_eq_drop_min]
  unfold TextEdit.applyToPage TextEdit.applyToLine
  rw [hrange]
  show page.take (offsetOf page ⟨before.length, first⟩) ++ e.newText ++
    page.drop (offsetOf page ⟨before.length, last⟩) = _
  rw [h.offsetOf_eq, h.offsetOf_eq, htake, hdrop]
  simp only [Range.onLine, List.append_assoc]

theorem numberedLines_eq (h : LineStands page before line ending after) :
    numberedLines page = numberFrom 0 (before.map chomp) ++
      (before.length, line) :: numberFrom (before.length + 1) (after.map chomp) := by
  unfold numberedLines
  rw [h.lines_page, numberFrom_append, List.length_map, Nat.zero_add, numberFrom]

end LineStands

/-! ### Fields declared on the other lines -/

/-- The fields that a page declares on other lines than the given one. -/
def declaredElsewhere (page : Text) (n : Nat) : List (Nat × Text) := (declaredFields page).filter fun f => f.1 != n

theorem filter_declaredIn (p : Nat → Bool) (ls : List (Nat × Text)) :
    (declaredIn ls).filter (fun f => p f.1) = declaredIn (ls.filter fun l => p l.1) := by
  unfold declaredIn
  rw [List.filter_filterMap, List.filterMap_filter]
  refine List.filterMap_congr fun l _ => ?_
  cases declaredName? l.2 <;> simp [Option.filter]

theorem declaredElsewhere_eq {page line ending : Text} {before after : List Text}
    (h : LineStands page before line ending after) :
    declaredElsewhere page before.length =
      declaredIn ((numberFrom 0 (before.map chomp) ++ numberFrom (before.length + 1) (after.map chomp)).filter
        fun l => inFrontmatter page l.1) := by
  have hothers : ((numberedLines page).filter fun l => l.1 != before.length) =
      numberFrom 0 (before.map chomp) ++ numberFrom (before.length + 1) (after.map chomp) := by
    rw [h.numberedLines_eq, List.filter_append, List.filter_cons_of_neg (by simp),
      filter_numberFrom_eq_self (p := (· != before.length)), filter_numberFrom_eq_self (p := (· != before.length))]
    · intro n hle _
      rw [bne_iff_ne]
      omega
    · intro n _ hlt
      rw [List.length_map] at hlt
      rw [bne_iff_ne]
      omega
  unfold declaredElsewhere
  rw [declaredFields_eq, filter_declaredIn (· != before.length), List.filter_comm, hothers]

/-- Where a line is exchanged and the block stays, the other lines declare the same fields. -/
theorem declaredElsewhere_exchange {page page' line line' ending ending' : Text} {before after : List Text}
    (h : LineStands page before line ending after) (h' : LineStands page' before line' ending' after)
    (hblock : locateBlock page' = locateBlock page) :
    declaredElsewhere page' before.length = declaredElsewhere page before.length := by
  rw [declaredElsewhere_eq h, declaredElsewhere_eq h']
  unfold inFrontmatter
  rw [hblock]

/-- A line declares one field at most. -/
theorem length_declared_onLine_le_one (page : Text) (n : Nat) :
    ((declaredFields page).filter fun f => f.1 == n).length ≤ 1 := by
  have hapart := ((Lint.apart page).fields).filter fun f => f.1 == n
  cases hline : (declaredFields page).filter fun f => f.1 == n with
  | nil => exact Nat.zero_le _
  | cons f fs =>
    cases fs with
    | nil => exact Nat.le_refl _
    | cons g gs =>
      -- two fields on the line would have different numbers
      have hmem : ∀ x ∈ f :: g :: gs, x.1 = n := by
        intro x hx
        rw [← hline] at hx
        simpa using (List.mem_filter.1 hx).2
      rw [hline, List.pairwise_cons] at hapart
      have hlt := hapart.1 g List.mem_cons_self
      have hf := hmem f List.mem_cons_self
      have hg := hmem g (List.mem_cons_of_mem _ List.mem_cons_self)
      omega

theorem count_declared_le_one {page name : Text} {n : Nat} (h : name ∉ (declaredElsewhere page n).map Prod.snd) :
    ((declaredFields page).map Prod.snd).count name ≤ 1 := by
  have helsewhere : (declaredElsewhere page n).countP (fun f => f.2 == name) = 0 := by
    rw [List.countP_eq_zero]
    intro f hf heq
    exact h (List.mem_map.2 ⟨f, hf, by simpa using heq⟩)
  calc ((declaredFields page).map Prod.snd).count name
      = (declaredFields page).countP fun f => f.2 == name := List.countP_map
    _ = ((declaredFields page).filter fun f => f.1 == n).countP (fun f => f.2 == name) +
          (declaredElsewhere page n).countP (fun f => f.2 == name) :=
        List.countP_eq_countP_filter_add _ _ fun f : Nat × Text => f.1 == n
    _ ≤ 1 := by
        rw [helsewhere]
        exact List.countP_le_length.trans (length_declared_onLine_le_one page n)

theorem Lint.ne_duplicateKey_of_count {page name : Text} (h : ((declaredFields page).map Prod.snd).count name ≤ 1)
    {r : Resolver} {i : Issue} (hi : i ∈ check r page) : i.problem ≠ .duplicateKey name := by
  intro hproblem
  cases mem_check_iff.1 hi with
  | @duplicateKey before after n other hfields hbefore =>
    obtain rfl : other = name := Problem.duplicateKey.inj hproblem
    have hpos := List.count_pos_iff.2 hbefore
    rw [hfields, List.map_append, List.count_append, List.map_cons, List.count_cons_self] at h
    omega
  | _ => cases hproblem

/-! ### A name being typed -/

/-- The name of a field is typed in the frontmatter, behind the blanks at the start of the line. -/
theorem fieldTyped_name {page : Text} {n column : Nat} {typed : FieldTyped}
    (h : fieldTyped page n column = some typed) (hname : typed.part = .name) :
    inFrontmatter page n = true ∧ typed.elsewhere = (declaredElsewhere page n).map Prod.snd ∧
      typed.first = ((textUpTo (lineAt page n) column).takeWhile isBlank).length := by
  unfold fieldTyped at h
  split at h
  · cases h
  rename_i hinside
  obtain ⟨onLine, honLine, rfl⟩ := Option.map_eq_some_iff.1 h
  refine ⟨by simpa using hinside, rfl, ?_⟩
  rw [← length_sub_trimStart]
  unfold fieldTypedOnLine at honLine
  simp only at honLine
  split at honLine
  · cases honLine
  split at honLine
  · cases honLine
    rfl
  split at honLine
  · cases honLine
    cases hname
  · cases honLine
    rfl

/-- An item for a name puts in a field that no other line declares. -/
theorem Completion.mem_fieldItems_name {typed : FieldTyped} {line character : Nat} {item : CompletionItem}
    (hname : typed.part = .name) (h : item ∈ fieldItems typed line character) :
    ∃ f ∈ knownFields, f.name.toList ∉ typed.elsewhere ∧ item.label = f.name.toList ∧
      item.edit.newText = f.name.toList ++ [':', ' '] := by
  unfold fieldItems at h
  rw [hname] at h
  obtain ⟨f, hf, rfl⟩ := List.mem_map.1 h
  obtain ⟨hknown, hoffered⟩ := List.mem_filter.1 hf
  rw [Bool.and_eq_true, Bool.not_eq_true', ← Bool.not_eq_true, List.contains_iff_mem] at hoffered
  exact ⟨f, hknown, hoffered.1, rfl, rfl⟩

theorem not_feed_of_mem_knownFields : ∀ f ∈ knownFields, '\n' ∉ f.name.toList := by decide

/-- A line with a character that is neither a blank nor part of the delimiter is no delimiter. -/
theorem isDelimiter_append_cons {c : Char} (hblank : isBlank c = false) (hc : c ∉ delimiter) (s t : Text) :
    isDelimiter (s ++ c :: t) = false := by
  unfold isDelimiter trimEnd
  rw [dropEndWhile_append_cons hblank, beq_eq_false_iff_ne]
  rintro h
  exact hc (h ▸ by simp)

/-! ### A name that is accepted -/

/-- The page is the same but for line `n`, which starts with the name of a field, declared nowhere else. -/
structure DeclaresOnce (page edited : Text) (n : Nat) (name : Text) : Prop where
  line : ∃ indent after, (∀ c ∈ indent, isBlank c = true) ∧
    lines edited = (lines page).set n (indent ++ (name ++ ':' :: ' ' :: after))
  block : locateBlock edited = locateBlock page
  count : ((declaredFields edited).map Prod.snd).count name ≤ 1
  noDuplicate : ∀ r, ∀ i ∈ Lint.check r edited, i.problem ≠ .duplicateKey name

theorem LineStands.declaresOnce {page line edited ending : Text} {before after : List Text}
    (h : LineStands page before line ending after) (hinside : inFrontmatter page before.length = true)
    {indent name rest : Text} (hline : edited = indent ++ (name ++ ':' :: ' ' :: rest))
    (hindent : ∀ c ∈ indent, isBlank c = true) (hfeed : '\n' ∉ edited) (hends : LineEnd edited ending)
    (hname : name ∉ (declaredElsewhere page before.length).map Prod.snd) :
    DeclaresOnce page (before.flatten ++ (edited ++ (ending ++ after.flatten))) before.length name := by
  have hedited := h.exchange hfeed hends
  generalize before.flatten ++ (edited ++ (ending ++ after.flatten)) = page' at hedited ⊢
  -- the line lies between the delimiters, so it is none, and it is none afterwards
  have hblock : locateBlock page' = locateBlock page := by
    unfold inFrontmatter at hinside
    split at hinside
    · rename_i b hb
      have hstands := blockOfLines_eq_iff.1 hb
      have hget : (lines page)[before.length]? = some line := by
        rw [h.lines_page, List.getElem?_append_right (by simp)]
        simp
      obtain ⟨hpos, hdelimiter⟩ := hstands.not_isDelimiter hinside hget
      unfold locateBlock
      rw [h.lines_page, hedited.lines_page]
      refine blockOfLines_exchange ?_ ?_
      · rw [ne_eq, List.map_eq_nil_iff]
        exact List.ne_nil_of_length_pos hpos
      · rw [hdelimiter, hline, ← List.append_assoc]
        exact isDelimiter_append_cons (by decide) (by decide) _ _
    · cases hinside
  have hcount : ((declaredFields page').map Prod.snd).count name ≤ 1 := by
    refine count_declared_le_one (n := before.length) ?_
    rwa [declaredElsewhere_exchange h hedited hblock]
  refine ⟨⟨indent, rest, hindent, ?_⟩, hblock, hcount, fun r i hi => Lint.ne_duplicateKey_of_count hcount hi⟩
  rw [hedited.lines_page, h.lines_page, hline, List.set_append_right _ _ (by simp)]
  simp

/-- An edited line ends like the line that it comes from, or with a character of its own. -/
theorem LineEnd.edited {line ending front : Text} (h : LineEnd line ending) (hne : front ≠ [])
    (hfront : front.getLast? ≠ some '\r') (column : Nat) : LineEnd (front ++ line.drop column) ending := by
  cases h with
  | returnFeed => exact .returnFeed
  | nothing => exact .nothing (by simp [hne])
  | feed hline =>
    refine .feed ?_
    cases hrest : line.drop column with
    | nil => rwa [List.append_nil]
    | cons c s =>
      rw [List.getLast?_append_of_ne_nil _ (List.cons_ne_nil c s), ← hrest, List.getLast?_drop]
      split
      · nofun
      · exact hline

/-- Accepting the name of a field declares the field once. -/
theorem completions_declare_once (ix : Index) {page : Text} {pos : Position} {typed : FieldTyped}
    (hline : pos.line < (lines page).length)
    (hcursor : cursorAt page pos.line pos.character = some (.field typed)) (hname : typed.part = .name)
    {item : CompletionItem} (hitem : item ∈ completions ix page pos) :
    ∃ f ∈ knownFields, item.label = f.name.toList ∧
      DeclaresOnce page (item.edit.applyToPage page) pos.line f.name.toList := by
  have hrange : item.edit.range = .onLine pos.line typed.first pos.character := Completion.range_of_mem hcursor hitem
  simp only [completions, hcursor] at hitem
  obtain ⟨f, hf, hoffered, hlabel, hnew⟩ := Completion.mem_fieldItems_name hname hitem
  obtain ⟨hinside, helsewhere, hfirst⟩ := fieldTyped_name (readAt_of_cursorAt hcursor) hname
  obtain ⟨before, line, ending, after, hstands, hn⟩ := exists_lineStands hline
  rw [← hn, hstands.lineAt_eq] at hfirst
  rw [← hn, hfirst] at hrange
  rw [← hn] at hinside helsewhere ⊢
  have hedited : item.edit.applyToLine line =
      (textUpTo line pos.character).takeWhile isBlank ++ (f.name.toList ++ ':' :: ' ' :: line.drop pos.character) := by
    rw [applyToLine_onLine hrange (takeWhile_append_trimStart _).symm, hnew]
    simp
  have hindent : ∀ c ∈ (textUpTo line pos.character).takeWhile isBlank, isBlank c = true :=
    fun _ => List.mem_takeWhile_imp
  refine ⟨f, hf, hlabel, ?_⟩
  rw [hstands.applyToPage_eq hrange]
  refine hstands.declaresOnce hinside hedited hindent ?_ ?_ (helsewhere ▸ hoffered)
  · rw [hedited]
    simp only [List.mem_append, List.mem_cons, not_or]
    refine ⟨fun h => hstands.noFeed ?_, not_feed_of_mem_knownFields f hf, by decide, by decide,
      fun h => hstands.noFeed (List.mem_of_mem_drop h)⟩
    exact List.mem_of_mem_take ((List.takeWhile_sublist _).subset h)
  · have hfront : item.edit.applyToLine line = ((textUpTo line pos.character).takeWhile isBlank ++
        (f.name.toList ++ [':', ' '])) ++ line.drop pos.character := by
      rw [hedited]
      simp
    rw [hfront]
    exact hstands.ends.edited (by simp) (by simp) _

/-- A name behind a blank that is no space, in front of a colon, in a block that is never closed. -/
theorem completions_declare_once_unclosed :
    let page := "---\r\ndate: a\n\u00a0ti: b\n".toList
    let item : CompletionItem := ⟨"title".toList, .field, none,
      some "Post title, used in listings and as the page heading.".toList, none, none,
      ⟨.onLine 2 1 3, "title: ".toList⟩⟩
    (2 < (lines page).length ∧ cursorAt page 2 3 = some (.field ⟨.name, "ti".toList, 1, ["date".toList]⟩) ∧
        item ∈ completions .empty page ⟨2, 3⟩) ∧
      item.edit.applyToPage page = "---\r\ndate: a\n\u00a0title: : b\n".toList ∧
      ∃ f ∈ knownFields, item.label = f.name.toList ∧
        DeclaresOnce page (item.edit.applyToPage page) 2 f.name.toList := by
  intro page item
  have hline : 2 < (lines page).length := by decide +kernel
  have hcursor : cursorAt page 2 3 = some (.field ⟨.name, "ti".toList, 1, ["date".toList]⟩) := by decide +kernel
  have hitem : item ∈ completions .empty page ⟨2, 3⟩ := by decide +kernel
  exact ⟨⟨hline, hcursor, hitem⟩, by decide +kernel, completions_declare_once .empty hline hcursor rfl hitem⟩

end WikiSite
