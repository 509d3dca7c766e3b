import WikiSite.Proofs.Editor.Replacing
import WikiSite.Proofs.Session.Publishing
import WikiSite.Proofs.Session.TextLimit
import WikiSite.Proofs.Site.Checks

/-!
# Ranges in the editor's units

The analysis counts characters, and the editor counts units. On a line that fits 32 bits both ways between them undo
each other up to the end of the line (`charColumn_length_take`), and a column further right has more units in front of
it. So it is enough that the analysis stays within the line: the range of a note covers the cursor
(`range_of_hoverAt`), what an item replaces ends at the cursor (`range_of_mem_completions`), and the span of an issue
lies on a line of the page (`within_of_mem_diagnostics`). The number of that line is cut down to 32 bits as well. That
does nothing to an open document, which is not long enough for it (`Session.length_le_of_document?`).
-/

namespace WikiSite

/-! ### Columns and units -/

/-- Every line of the page has fewer than `2 ^ 32` units of UTF-16. -/
def LinesFit (page : Text) : Prop := ∀ line ∈ lines page, utf16Length line < limit32

theorem LinesFit.lineAt {page : Text} (h : LinesFit page) (n : Nat) : utf16Length (lineAt page n) < limit32 := by
  unfold WikiSite.lineAt
  cases hline : (lines page)[n]? with
  | none => decide
  | some line => exact h line (List.mem_of_getElem? hline)

/-- A text that comes with a message has lines that fit 32 bits, and not too many of them. -/
theorem linesFit_of_length_le {page : Text} (h : page.length ≤ maxContentLength) :
    LinesFit page ∧ (lines page).length ≤ limit32 := by
  have hmax : 2 * maxContentLength < limit32 := by decide
  constructor
  · intro line hline
    obtain ⟨n, hn⟩ := List.getElem?_of_mem hline
    have hlength := (bounds_of_line hn).2
    have hunits := utf16Length_le line
    omega
  · cases hcount : (lines page).length with
    | zero => exact Nat.zero_le _
    | succ n =>
      have hlast : n < page.length := (bounds_of_line (List.getElem?_eq_getElem (by omega))).1
      omega

/-- The range is a stretch of one line of the page. -/
def Range.Within (page : Text) (r : Range) : Prop :=
  ∃ n first last, r = .onLine n first last ∧ first ≤ last ∧ last ≤ (lineAt page n).length

/-- The range lies on the line of the position, starts at or before the position and ends behind it. -/
structure Range.Covers (r : Range) (pos : Position) : Prop where
  first_line : r.first.line = pos.line
  last_line : r.last.line = pos.line
  first_le : r.first.character ≤ pos.character
  lt_last : pos.character < r.last.character

/-- The range ends at the position and starts at or before it on the same line. -/
structure Range.EndsAt (r : Range) (pos : Position) : Prop where
  last_eq : r.last = pos
  first_line : r.first.line = pos.line
  first_le : r.first.character ≤ pos.character

namespace PositionEncoding

/-- The units of a text as the editor counts them. -/
def length : PositionEncoding → Text → Nat
  | .utf16, t => utf16Length t
  | .utf32, t => t.length

/-- The range, in characters, of an editor's range in a page. -/
def charRange (e : PositionEncoding) (page : Text) (r : Range) : Range :=
  ⟨e.charPosition page r.first, e.charPosition page r.last⟩

/-- The editor's position lies on its line in front of the character at the column, or at the end of the line. A line
that is not there is empty. -/
structure At (e : PositionEncoding) (page : Text) (pos : Position) (column : Nat) : Prop where
  column_le : column ≤ (lineAt page pos.line).length
  character_eq : pos.character = e.length ((lineAt page pos.line).take column)

section

variable {e : PositionEncoding} {line page : Text} {a b c n first last column : Nat} {pos : Position}

theorem length_take_mono (h : a ≤ b) : e.length (line.take a) ≤ e.length (line.take b) := by
  cases e with
  | utf16 => exact utf16Length_take_mono line h
  | utf32 =>
    simp only [length, List.length_take]
    omega

theorem length_take_lt (h : a < b) (hb : b ≤ line.length) : e.length (line.take a) < e.length (line.take b) := by
  cases e with
  | utf16 => exact utf16Length_take_lt h hb
  | utf32 =>
    simp only [length, List.length_take]
    omega

theorem clientColumn_eq (hline : utf16Length line < limit32) (hc : c ≤ line.length) :
    e.clientColumn line c = e.length (line.take c) := by
  cases e with
  | utf16 => exact clientColumn_utf16 hline c
  | utf32 =>
    have hunits := length_le_utf16Length line
    simp only [clientColumn, length, List.length_take]
    rw [Nat.mod_eq_of_lt (by omega)]
    omega

theorem charColumn_length_take (hc : c ≤ line.length) : e.charColumn line (e.length (line.take c)) = c := by
  cases e with
  | utf16 =>
    have hback := utf16Column_utf16Length line c
    rw [Nat.min_eq_left hc] at hback
    exact hback
  | utf32 =>
    simp only [charColumn, length, List.length_take]
    omega

theorem At.charPosition_eq (h : e.At page pos column) : e.charPosition page pos = ⟨pos.line, column⟩ := by
  unfold charPosition
  rw [h.character_eq, charColumn_length_take h.column_le]

theorem clientRange_onLine (hpage : LinesFit page) (hfirst : first ≤ last) (hlast : last ≤ (lineAt page n).length) :
    e.clientRange page (.onLine n first last) =
      .onLine n (e.length ((lineAt page n).take first)) (e.length ((lineAt page n).take last)) := by
  have hline := hpage.lineAt n
  simp only [clientRange, clientPosition, Range.onLine]
  rw [clientColumn_eq hline (by omega), clientColumn_eq hline hlast]

/-- A range on a line leads back to itself. -/
theorem charRange_clientRange (hpage : LinesFit page) {r : Range} (hr : r.Within page) :
    e.charRange page (e.clientRange page r) = r := by
  obtain ⟨n, first, last, rfl, hfirst, hlast⟩ := hr
  rw [clientRange_onLine hpage hfirst hlast]
  simp only [charRange, charPosition, Range.onLine]
  rw [charColumn_length_take (by omega), charColumn_length_take hlast]

/-- A link behind a character with two units. -/
example : utf16.clientRange "😀[[a]]".toList (.onLine 0 1 6) = .onLine 0 2 7 := by decide

theorem At.covers (h : e.At page pos column) (hpage : LinesFit page) (hfirst : first ≤ column)
    (hcolumn : column < last) (hlast : last ≤ (lineAt page pos.line).length) :
    (e.clientRange page (.onLine pos.line first last)).Covers pos := by
  rw [clientRange_onLine hpage (by omega) hlast]
  refine ⟨rfl, rfl, ?_, ?_⟩
  · rw [h.character_eq]
    exact length_take_mono hfirst
  · rw [h.character_eq]
    exact length_take_lt hcolumn hlast

theorem At.endsAt (h : e.At page pos column) (hpage : LinesFit page) (hfirst : first ≤ column) :
    (e.clientRange page (.onLine pos.line first column)).EndsAt pos := by
  rw [clientRange_onLine hpage hfirst h.column_le, ← h.character_eq]
  refine ⟨rfl, rfl, ?_⟩
  rw [h.character_eq]
  exact length_take_mono hfirst

end

end PositionEncoding

/-! ### What the analysis finds -/

theorem last_le_of_admonitionOn {line : Text} {a : Admonition} (h : admonitionOn line = some a) :
    a.last ≤ line.length := by
  have hindent : (trimStart line).length ≤ line.length := (List.dropWhile_suffix isBlank).length_le
  unfold admonitionOn at h
  simp only at h
  split at h
  · cases h
  rename_i marker rest hcut
  have hstart := congrArg List.length (cutMarker_eq_some_iff.1 hcut).1
  rw [List.length_append] at hstart
  have hgap : (trimStart rest).length ≤ rest.length := (List.dropWhile_suffix isBlank).length_le
  have hkind : ((trimStart rest).takeWhile isWord).length ≤ (trimStart rest).length :=
    (List.takeWhile_prefix isWord).length_le
  split at h
  · cases h
    simp only
    omega
  · cases h

/-- What a note is about covers the column, within the line. -/
theorem Hover.range_of_onLine {ix : Index} {line : Text} {n column : Nat} {h : Hover}
    (hh : Hover.onLine ix line n column = some h) :
    ∃ first last, h.range = some (.cut n first last) ∧ first ≤ column ∧ column < last ∧ last ≤ line.length := by
  unfold Hover.onLine at hh
  split at hh
  · rename_i a ha
    cases hh
    obtain ⟨hon, hcovers⟩ := Option.filter_eq_some_iff.1 ha
    simp only [Bool.and_eq_true, decide_eq_true_eq] at hcovers
    exact ⟨a.first, a.last, rfl, hcovers.1, hcovers.2, last_le_of_admonitionOn hon⟩
  · split at hh
    · rename_i m hm
      cases hh
      unfold mentionAt at hm
      have hfound := List.find?_some hm
      have hcovers := Mention.covers_iff.1 hfound
      have hinside := (laid_findMentions line).inside m (List.mem_of_find?_eq_some hm)
      exact ⟨m.first, m.last, rfl, hcovers.1, hcovers.2, by omega⟩
    · split at hh
      · rename_i l hl
        cases hh
        unfold wikilinkAt at hl
        have hfound := List.find?_some hl
        have hcovers := Wikilink.covers_iff.1 hfound
        have hinside := (laid_findWikilinks line).inside l (List.mem_of_find?_eq_some hl)
        exact ⟨l.first, l.last, rfl, hcovers.1, hcovers.2, by omega⟩
      · cases hh

theorem range_of_hoverAt {ix : Index} {s : Settings} {page : Text} {pos : Position} {h : Hover}
    (hpage : LinesFit page) (hh : hoverAt ix s page pos = some h) {r : Range} (hr : h.range = some r) :
    ∃ first last, r = .onLine pos.line first last ∧ first ≤ pos.character ∧ pos.character < last ∧
      last ≤ (lineAt page pos.line).length := by
  unfold hoverAt at hh
  split at hh
  · cases hh
  split at hh
  · -- the note on a field has no range
    obtain ⟨f, -, rfl⟩ := Option.map_eq_some_iff.1 hh
    cases hr
  · split at hh
    · rename_i line hline
      obtain ⟨-, hlineAt⟩ := Lint.lineAt_of_getElem? hline
      obtain ⟨first, last, hrange, hfirst, hcolumn, hlast⟩ := Hover.range_of_onLine hh
      have hunits := hpage line (List.mem_of_getElem? hline)
      have hlength := length_le_utf16Length line
      rw [hrange, Range.cut_eq (by omega) (by omega)] at hr
      rw [hlineAt]
      exact ⟨first, last, (Option.some.inj hr).symm, hfirst, hcolumn, hlast⟩
    · cases hh

theorem range_of_mem_completions {ix : Index} {page : Text} {pos : Position} {i : CompletionItem}
    (h : i ∈ completions ix page pos) :
    ∃ first, i.edit.range = .onLine pos.line first pos.character ∧ first ≤ pos.character := by
  cases hcursor : cursorAt page pos.line pos.character with
  | none =>
    simp only [completions, hcursor] at h
    cases h
  | some cursor =>
    have hfirst := (Cursor.standsOn_of_cursorAt hcursor).first_le
    exact ⟨cursor.first, Completion.range_of_mem hcursor h, by omega⟩

theorem within_of_mem_diagnostics {ix : Index} {s : Settings} {page : Text} {d : Diagnostic} (hpage : LinesFit page)
    (hcount : (lines page).length ≤ limit32) (hd : d ∈ diagnostics ix s page) : d.range.Within page := by
  unfold diagnostics at hd
  split at hd
  · obtain ⟨i, hi, rfl⟩ := List.mem_map.1 hd
    have hplace := (Lint.mem_check_iff.1 hi).inPlace
    have hfirst := hplace.first_le
    have hlast := hplace.last_le
    have hline := hplace.line_lt
    have hunits := hpage.lineAt i.span.line
    have hlength := length_le_utf16Length (lineAt page i.span.line)
    refine ⟨i.span.line, i.span.first, i.span.last, ?_, hfirst, hlast⟩
    show Range.cut (i.span.line % limit32) i.span.first i.span.last = _
    rw [Nat.mod_eq_of_lt (by omega), Range.cut_eq (by omega) (by omega)]
  · cases hd

/-! ### There and back -/

/-- The note with its range moved. -/
def Hover.mapRange (f : Range → Range) (h : Hover) : Hover := { h with range := h.range.map f }

def CompletionItem.mapRange (f : Range → Range) (i : CompletionItem) : CompletionItem :=
  { i with edit := { i.edit with range := f i.edit.range } }

def Diagnostic.mapRange (f : Range → Range) (d : Diagnostic) : Diagnostic := { d with range := f d.range }

section

variable {ix : Index} {s : Settings} {page : Text} (e : PositionEncoding)

theorem Hover.mapRange_charRange {pos : Position} {h : Hover} (hpage : LinesFit page)
    (hh : hoverAt ix s page pos = some h) : (h.mapRange (e.clientRange page)).mapRange (e.charRange page) = h := by
  have hback : (h.range.map (e.clientRange page)).map (e.charRange page) = h.range := by
    cases hfound : h.range with
    | none => rfl
    | some r =>
      obtain ⟨first, last, hrange, hfirst, hcolumn, hlast⟩ := range_of_hoverAt hpage hh hfound
      have hwithin : r.Within page := ⟨_, first, last, hrange, by omega, hlast⟩
      rw [Option.map_some, Option.map_some, PositionEncoding.charRange_clientRange hpage hwithin]
  unfold Hover.mapRange
  simp only [hback]

theorem CompletionItem.map_mapRange_charRange {pos : Position} (hpage : LinesFit page)
    (hpos : pos.character ≤ (lineAt page pos.line).length) :
    ((completions ix page pos).map (mapRange (e.clientRange page))).map (mapRange (e.charRange page)) =
      completions ix page pos := by
  rw [List.map_map]
  refine (List.map_congr_left fun i hi => ?_).trans (List.map_id' _)
  obtain ⟨first, hrange, hfirst⟩ := range_of_mem_completions hi
  have hwithin : i.edit.range.Within page := ⟨_, first, _, hrange, hfirst, hpos⟩
  show i.mapRange (fun r => e.charRange page (e.clientRange page r)) = i
  unfold CompletionItem.mapRange
  simp only [PositionEncoding.charRange_clientRange hpage hwithin]

theorem Diagnostic.map_mapRange_charRange (hpage : LinesFit page) (hcount : (lines page).length ≤ limit32) :
    ((diagnostics ix s page).map (mapRange (e.clientRange page))).map (mapRange (e.charRange page)) =
      diagnostics ix s page := by
  rw [List.map_map]
  refine (List.map_congr_left fun d hd => ?_).trans (List.map_id' _)
  have hwithin := within_of_mem_diagnostics hpage hcount hd
  show d.mapRange (fun r => e.charRange page (e.clientRange page r)) = d
  unfold Diagnostic.mapRange
  simp only [PositionEncoding.charRange_clientRange hpage hwithin]

end

namespace Session

/-! ### What is sent -/

/-- The ranges that a session sends are right in the units of its editor. -/
structure ClientRanges (s : Session) : Prop where
  /-- The range of a note covers the position, and it leads back to the range that the analysis found. -/
  hover : ∀ m q page column h, s.textOf? m q.uri = some page → LinesFit page →
    s.encoding.At page q.position column → s.hover m q = .hover h →
    (∀ r, h.range = some r → r.Covers q.position) ∧
      hoverAt s.index s.settings page ⟨q.position.line, column⟩ = some (h.mapRange (s.encoding.charRange page))
  /-- What an item replaces ends at the position. -/
  completion : ∀ m q page column, (s.textOf? m q.uri).getD [] = page → LinesFit page →
    s.encoding.At page q.position column → ∃ items, s.complete m q = .completions items ∧
      (∀ i ∈ items, i.edit.range.EndsAt q.position) ∧
      items.map (CompletionItem.mapRange (s.encoding.charRange page)) =
        completions s.index page ⟨q.position.line, column⟩
  /-- Diagnostics lead back where the numbers of lines fit 32 bits. -/
  diagnostics : ∀ d, LinesFit d.text → (lines d.text).length ≤ limit32 →
    (s.publicationOf d).diagnostics.map (Diagnostic.mapRange (s.encoding.charRange d.text)) =
      WikiSite.diagnostics s.index s.settings d.text
  /-- They do in every open document, so whatever the last message made the session publish leads back. -/
  published : ∀ as a, s = new.handleAll (as ++ [a]) → (∀ b ∈ as ++ [a], b.message.Received) →
    ∀ p ∈ publicationsOf ((new.handleAll as).handle a.machine a.message).2, p.diagnostics = [] ∨
      ∃ d, s.documents.document? p.uri = some d ∧ p = s.publicationOf d ∧
        p.diagnostics.map (Diagnostic.mapRange (s.encoding.charRange d.text)) =
          WikiSite.diagnostics s.index s.settings d.text

theorem client_ranges (s : Session) : ClientRanges s where
  hover m q page column h htext hpage hat hh := by
    unfold Session.hover at hh
    simp only [htext, hat.charPosition_eq] at hh
    split at hh
    · rename_i found hfound
      cases hh
      constructor
      · intro r hr
        obtain ⟨inner, hinner, rfl⟩ := Option.map_eq_some_iff.1 hr
        obtain ⟨first, last, rfl, hfirst, hcolumn, hlast⟩ := range_of_hoverAt hpage hfound hinner
        exact hat.covers hpage hfirst hcolumn hlast
      · rw [hfound]
        exact congrArg some (Hover.mapRange_charRange s.encoding hpage hfound).symm
    · cases hh
  completion m q page column htext hpage hat := by
    unfold Session.complete
    simp only [htext, hat.charPosition_eq]
    refine ⟨_, rfl, ?_, CompletionItem.map_mapRange_charRange s.encoding hpage hat.column_le⟩
    intro i hi
    obtain ⟨item, hitem, rfl⟩ := List.mem_map.1 hi
    obtain ⟨first, hrange, hfirst⟩ := range_of_mem_completions hitem
    simp only [hrange]
    exact hat.endsAt hpage hfirst
  diagnostics d htext hcount := Diagnostic.map_mapRange_charRange s.encoding htext hcount
  published as a hs hreceived p hp := by
    have hcases := published_cases (filed_handleAll as) hp
    rw [← handleAll_concat, ← hs] at hcases
    refine hcases.imp_right ?_
    rintro ⟨d, hd, rfl⟩
    have hlength : d.text.length ≤ maxContentLength := by
      rw [hs] at hd
      exact length_le_of_document? hreceived hd
    obtain ⟨htext, hcount⟩ := linesFit_of_length_le hlength
    exact ⟨d, hd, rfl, Diagnostic.map_mapRange_charRange s.encoding htext hcount⟩

private theorem sendable_opening : (Message.opening "file:///").Sendable :=
  ⟨⟨.obj [("id".toList, .int 1), ("method".toList, .ofString "initialize"),
      ("params".toList, .object [("capabilities", .object []), ("rootUri", .ofString "file:///")])],
    by rfl, by rfl⟩, by rfl, by decide +kernel, by decide +kernel⟩

private theorem sendable_initialized : (Message.notification "initialized".toList .null).Sendable :=
  ⟨⟨.obj [("method".toList, .ofString "initialized")], by rfl, by rfl⟩, by rfl, by decide, by decide +kernel⟩

private theorem sendable_openedDocument : (Message.openedDocument "file:///a.md" "😀[[b]]\n😀[[a").Sendable :=
  ⟨⟨.obj [("method".toList, .ofString "textDocument/didOpen"), ("params".toList, .object
      [("textDocument", .object
        [("languageId", .ofString "markdown"), ("text", .ofString "😀[[b]]\n😀[[a"),
          ("uri", .ofString "file:///a.md"), ("version", .int 1)])])],
    by rfl, by rfl⟩, by rfl, by decide +kernel, by decide +kernel⟩

/-- A page in an empty site has a link behind a character of two units and, behind another on the next line, one that is
begun. The note on the first covers its five characters, the item for the second replaces the one that is typed, and
opening the page published the diagnostics of the page. -/
theorem client_ranges_emoji :
    let m : Machine := .ofTree (FileTree.empty [])
    let as : List Arrival := [⟨m, .opening "file:///"⟩, ⟨m, .notification "initialized".toList .null⟩]
    let a : Arrival := ⟨m, .openedDocument "file:///a.md" "😀[[b]]\n😀[[a"⟩
    let s := new.handleAll (as ++ [a])
    let d : Document := ⟨⟨"file".toList, some [], [], "/a.md".toList, none, none⟩, "😀[[b]]\n😀[[a".toList, 1⟩
    let note : Hover := ⟨"Post `b` not found".toList, some (.onLine 0 2 7)⟩
    let item : CompletionItem :=
      ⟨"a".toList, .file, some "a".toList, some "😀[[b]] 😀[[a".toList, some "0a".toList, some "a".toList,
        ⟨.onLine 1 4 5, "a]]".toList⟩⟩
    (s.textOf? m d.uri = some d.text ∧ LinesFit d.text ∧ s.encoding.At d.text ⟨0, 2⟩ 1 ∧
      s.hover m ⟨d.uri, ⟨0, 2⟩⟩ = .hover note ∧ (Range.onLine 0 2 7).Covers ⟨0, 2⟩ ∧
      hoverAt s.index s.settings d.text ⟨0, 1⟩ = some (note.mapRange (s.encoding.charRange d.text))) ∧
    (s.encoding.At d.text ⟨1, 5⟩ 4 ∧ s.complete m ⟨d.uri, ⟨1, 5⟩⟩ = .completions [item] ∧
      (Range.onLine 1 4 5).EndsAt ⟨1, 5⟩ ∧
      completions s.index d.text ⟨1, 4⟩ = [item.mapRange (s.encoding.charRange d.text)]) ∧
    (∀ b ∈ as ++ [a], b.message.Received) ∧
      publicationsOf ((new.handleAll as).handle m a.message).2 = [s.publicationOf d] ∧
      (s.publicationOf d).diagnostics.map (·.range) = [.onLine 0 2 7] ∧
      (s.publicationOf d).diagnostics.map (Diagnostic.mapRange (s.encoding.charRange d.text)) =
        WikiSite.diagnostics s.index s.settings d.text := by
  intro m as a s d note item
  have h := client_ranges s
  have htext : s.textOf? m d.uri = some d.text := by decide +kernel
  obtain ⟨hfit, -⟩ : LinesFit d.text ∧ (lines d.text).length ≤ limit32 := linesFit_of_length_le (by decide)
  refine ⟨?_, ?_, ?_⟩
  · have hlink : s.encoding.At d.text ⟨0, 2⟩ 1 := ⟨by decide +kernel, by decide +kernel⟩
    have hnote : s.hover m ⟨d.uri, ⟨0, 2⟩⟩ = .hover note := by decide +kernel
    obtain ⟨hcovers, hback⟩ := h.hover m ⟨d.uri, ⟨0, 2⟩⟩ d.text 1 note htext hfit hlink hnote
    exact ⟨htext, hfit, hlink, hnote, hcovers _ rfl, hback⟩
  · have hbegun : s.encoding.At d.text ⟨1, 5⟩ 4 := ⟨by decide +kernel, by decide +kernel⟩
    have hitem : s.complete m ⟨d.uri, ⟨1, 5⟩⟩ = .completions [item] := by decide +kernel
    have hpage : (s.textOf? m d.uri).getD [] = d.text := by
      rw [htext]
      rfl
    obtain ⟨items, hitems, hends, hback⟩ := h.completion m ⟨d.uri, ⟨1, 5⟩⟩ d.text 4 hpage hfit hbegun
    rw [hitem] at hitems
    cases hitems
    exact ⟨hbegun, hitem, hends item (List.mem_singleton_self _), hback.symm⟩
  · have hreceived : ∀ b ∈ as ++ [a], b.message.Received := by
      intro b hb
      simp only [as, List.cons_append, List.nil_append, List.mem_cons, List.not_mem_nil, or_false] at hb
      rcases hb with rfl | rfl | rfl
      · exact sendable_opening.received
      · exact sendable_initialized.received
      · exact sendable_openedDocument.received
    have hsent : publicationsOf ((new.handleAll as).handle m a.message).2 = [s.publicationOf d] := by decide +kernel
    have hone : (s.publicationOf d).diagnostics.map (·.range) = [.onLine 0 2 7] := by decide +kernel
    have hopen : s.documents.document? d.uri = some d := by decide +kernel
    refine ⟨hreceived, hsent, hone, ?_⟩
    have hmem : s.publicationOf d ∈ publicationsOf ((new.handleAll as).handle a.machine a.message).2 := by
      rw [hsent]
      exact List.mem_singleton_self _
    rcases h.published as a rfl hreceived _ hmem with hempty | ⟨d', hd', -, hback⟩
    · rw [hempty] at hone
      cases hone
    · obtain rfl : d = d' := Option.some.inj (hopen.symm.trans hd')
      exact hback

end Session

end WikiSite
