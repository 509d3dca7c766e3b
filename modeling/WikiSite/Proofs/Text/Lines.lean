import Mathlib.Data.List.Basic
import WikiSite.Text.Lines

/-!
# The lines of a text

`AreLines` says which lists are the lines of a text with their ends: every line ends with its only line feed, except
perhaps the last. A text is split into the one such list that makes it up (`linesWithEnds_eq_iff`). So the lines behind
a line are the lines of the text behind it, and a line may be exchanged for another one with the same end
(`LineStands.exchange`).
-/

namespace WikiSite

/-- A line with its line feed, the only one in it. -/
def IsEnded (line : Text) : Prop := ∃ s, line = s ++ ['\n'] ∧ '\n' ∉ s

/-- The end of a text behind its last line feed. -/
def IsUnended (line : Text) : Prop := line ≠ [] ∧ '\n' ∉ line

/-- The lines of some text with their ends. -/
inductive AreLines : List Text → Prop
  | nil : AreLines []
  | last {line : Text} (hline : IsUnended line) : AreLines [line]
  | cons {line : Text} {ls : List Text} (hline : IsEnded line) (hls : AreLines ls) : AreLines (line :: ls)

/-! ### Lines with their ends -/

theorem flatten_linesWithEnds (t : Text) : (linesWithEnds t).flatten = t := by
  fun_induction linesWithEnds t with
  | case1 => rfl
  | case2 c rest hc ih => rw [List.flatten_cons, ih, List.singleton_append]
  | case3 c rest hc hnil ih =>
    rw [hnil] at ih
    rw [← ih]
    rfl
  | case4 c rest hc line later hlines ih =>
    rw [hlines] at ih
    rw [← ih]
    rfl

theorem areLines_linesWithEnds (t : Text) : AreLines (linesWithEnds t) := by
  fun_induction linesWithEnds t with
  | case1 => exact .nil
  | case2 c rest hc ih =>
    obtain rfl : c = '\n' := by simpa using hc
    exact .cons ⟨[], rfl, List.not_mem_nil⟩ ih
  | case3 c rest hc hnil ih =>
    have hne : c ≠ '\n' := by simpa using hc
    exact .last ⟨List.cons_ne_nil c [], by simp [hne.symm]⟩
  | case4 c rest hc line later hlines ih =>
    have hne : c ≠ '\n' := by simpa using hc
    rw [hlines] at ih
    cases ih with
    | last hline => exact .last ⟨List.cons_ne_nil c line, by simp [hne.symm, hline.2]⟩
    | cons hline hls =>
      obtain ⟨s, rfl, hs⟩ := hline
      exact .cons ⟨c :: s, rfl, by simp [hne.symm, hs]⟩ hls

theorem linesWithEnds_append {line : Text} (h : IsEnded line) (t : Text) :
    linesWithEnds (line ++ t) = line :: linesWithEnds t := by
  obtain ⟨s, rfl, hs⟩ := h
  induction s with
  | nil => rfl
  | cons c s ih =>
    rw [List.mem_cons, not_or] at hs
    have hc : (c == '\n') = false := by simpa using Ne.symm hs.1
    rw [List.cons_append, List.cons_append, linesWithEnds, if_neg (by simp [hc]), ih hs.2]

theorem linesWithEnds_of_isUnended {line : Text} (h : IsUnended line) : linesWithEnds line = [line] := by
  obtain ⟨hne, hfeed⟩ := h
  induction line with
  | nil => exact absurd rfl hne
  | cons c s ih =>
    rw [List.mem_cons, not_or] at hfeed
    have hc : (c == '\n') = false := by simpa using Ne.symm hfeed.1
    rw [linesWithEnds, if_neg (by simp [hc])]
    cases s with
    | nil => rfl
    | cons d s => rw [ih (List.cons_ne_nil d s) hfeed.2]

theorem AreLines.linesWithEnds_flatten {ls : List Text} (h : AreLines ls) : linesWithEnds ls.flatten = ls := by
  induction h with
  | nil => rfl
  | last hline => rw [List.flatten_cons, List.flatten_nil, List.append_nil, linesWithEnds_of_isUnended hline]
  | cons hline _ ih => rw [List.flatten_cons, linesWithEnds_append hline, ih]

/-- A text is split into the lines that make it up. -/
theorem linesWithEnds_eq_iff {t : Text} {ls : List Text} : linesWithEnds t = ls ↔ t = ls.flatten ∧ AreLines ls := by
  constructor
  · rintro rfl
    exact ⟨(flatten_linesWithEnds t).symm, areLines_linesWithEnds t⟩
  · rintro ⟨rfl, h⟩
    exact h.linesWithEnds_flatten

/-- Only a line with nothing behind it may do without a line feed. -/
theorem areLines_append_cons_iff {before after : List Text} {line : Text} :
    AreLines (before ++ line :: after) ↔ (∀ l ∈ before, IsEnded l) ∧
      (IsEnded line ∨ IsUnended line ∧ after = []) ∧ AreLines after := by
  induction before with
  | nil =>
    constructor
    · intro h
      cases h with
      | last hline => exact ⟨by simp, .inr ⟨hline, rfl⟩, .nil⟩
      | cons hline hls => exact ⟨by simp, .inl hline, hls⟩
    · rintro ⟨-, hline | ⟨hline, rfl⟩, hafter⟩
      · exact .cons hline hafter
      · exact .last hline
  | cons l before ih =>
    rw [List.cons_append, List.forall_mem_cons, and_assoc, ← ih]
    constructor
    · intro h
      cases hls : before ++ line :: after with
      | nil => simp at hls
      | cons m ls =>
        rw [hls] at h
        cases h with
        | cons hl hls => exact ⟨hl, hls⟩
    · exact fun h => .cons h.1 h.2

/-- So the lines in front of a line are ended, and those behind it are the lines of a text. -/
theorem linesWithEnds_parts {page : Text} (before : List Text) {line : Text} {after : List Text}
    (h : linesWithEnds page = before ++ line :: after) :
    (∀ l ∈ before, IsEnded l) ∧ linesWithEnds after.flatten = after := by
  have hlines := areLines_linesWithEnds page
  rw [h, areLines_append_cons_iff] at hlines
  exact ⟨hlines.1, hlines.2.2.linesWithEnds_flatten⟩

theorem areLines_of_isEnded {ls : List Text} (h : ∀ line ∈ ls, IsEnded line) : AreLines ls := by
  induction ls with
  | nil => exact .nil
  | cons line ls ih =>
    rw [List.forall_mem_cons] at h
    exact .cons h.1 (ih h.2)

/-! ### Lines without their ends -/

/-- What may stand behind a line. A line feed does not stand alone behind a carriage return, which would be taken for
a part of the end, and a line with nothing behind it is not empty. -/
inductive LineEnd (line : Text) : Text → Prop
  | feed (h : line.getLast? ≠ some '\r') : LineEnd line ['\n']
  | returnFeed : LineEnd line ['\r', '\n']
  | nothing (h : line ≠ []) : LineEnd line []

theorem chomp_append {line ending : Text} (hfeed : '\n' ∉ line) (h : LineEnd line ending) :
    chomp (line ++ ending) = line := by
  cases h with
  | feed hreturn =>
    rw [← List.head?_reverse] at hreturn
    unfold chomp
    rw [List.reverse_append, List.reverse_singleton, List.singleton_append]
    split
    · rename_i rest hrev
      rw [List.cons.injEq] at hrev
      exact absurd (by rw [hrev.2]; rfl) hreturn
    · rename_i rest _ hrev
      rw [List.cons.injEq] at hrev
      rw [← hrev.2, List.reverse_reverse]
    · rename_i hother
      exact absurd rfl (hother line.reverse)
  | returnFeed => simp [chomp]
  | nothing hne =>
    rw [← List.mem_reverse] at hfeed
    rw [List.append_nil]
    unfold chomp
    split
    · rename_i rest hrev
      rw [hrev] at hfeed
      exact absurd List.mem_cons_self hfeed
    · rename_i rest _ hrev
      rw [hrev] at hfeed
      exact absurd List.mem_cons_self hfeed
    · rfl

theorem isEnded_append_iff {line ending : Text} (hfeed : '\n' ∉ line) (h : LineEnd line ending) :
    IsEnded (line ++ ending) ↔ ending ≠ [] := by
  cases h with
  | feed => exact iff_of_true ⟨line, rfl, hfeed⟩ (List.cons_ne_nil _ _)
  | returnFeed => exact iff_of_true ⟨line ++ ['\r'], by simp, by simp [hfeed]⟩ (List.cons_ne_nil _ _)
  | nothing =>
    refine iff_of_false ?_ (fun h => h rfl)
    rintro ⟨s, hs, -⟩
    rw [List.append_nil] at hs
    exact hfeed (by simp [hs])

theorem exists_lineEnd {whole : Text} (h : IsEnded whole ∨ IsUnended whole) :
    ∃ line ending, whole = line ++ ending ∧ '\n' ∉ line ∧ LineEnd line ending := by
  rcases h with ⟨s, rfl, hs⟩ | ⟨hne, hfeed⟩
  · by_cases hreturn : s.getLast? = some '\r'
    · obtain ⟨line, rfl⟩ := List.getLast?_eq_some_iff.1 hreturn
      exact ⟨line, ['\r', '\n'], by simp, fun h => hs (by simp [h]), .returnFeed⟩
    · exact ⟨s, ['\n'], rfl, hs, .feed hreturn⟩
  · exact ⟨whole, [], by simp, hfeed, .nothing hne⟩

/-! ### One line among the others -/

/-- The page holds the line with its end behind `before` and in front of `after`. -/
structure LineStands (page : Text) (before : List Text) (line ending : Text) (after : List Text) : Prop where
  lines_eq : linesWithEnds page = before ++ (line ++ ending) :: after
  noFeed : '\n' ∉ line
  ends : LineEnd line ending

theorem exists_lineStands {page : Text} {n : Nat} (h : n < (lines page).length) :
    ∃ before line ending after, LineStands page before line ending after ∧ before.length = n := by
  unfold lines at h
  rw [List.length_map] at h
  have hcut : linesWithEnds page =
      (linesWithEnds page).take n ++ (linesWithEnds page)[n] :: (linesWithEnds page).drop (n + 1) := by
    rw [← List.drop_eq_getElem_cons h, List.take_append_drop]
  have hlines := areLines_linesWithEnds page
  rw [hcut, areLines_append_cons_iff] at hlines
  obtain ⟨line, ending, hwhole, hfeed, hends⟩ := exists_lineEnd (hlines.2.1.imp_right And.left)
  rw [hwhole] at hcut
  exact ⟨_, line, ending, _, ⟨hcut, hfeed, hends⟩, by rw [List.length_take]; omega⟩

namespace LineStands

variable {page line ending : Text} {before after : List Text}

theorem page_eq (h : LineStands page before line ending after) :
    page = before.flatten ++ (line ++ (ending ++ after.flatten)) := by
  have hflatten := flatten_linesWithEnds page
  rw [h.lines_eq] at hflatten
  simpa using hflatten.symm

theorem lines_page (h : LineStands page before line ending after) :
    lines page = before.map chomp ++ line :: after.map chomp := by
  unfold lines
  rw [h.lines_eq, List.map_append, List.map_cons, chomp_append h.noFeed h.ends]

theorem lineAt_eq (h : LineStands page before line ending after) : lineAt page before.length = line := by
  unfold lineAt
  rw [h.lines_page, List.getElem?_append_right (by simp)]
  simp

/-- A line is exchanged for another one that may have the same end. -/
theorem exchange (h : LineStands page before line ending after) {line' : Text} (hfeed : '\n' ∉ line')
    (hends : LineEnd line' ending) :
    LineStands (before.flatten ++ (line' ++ (ending ++ after.flatten))) before line' ending after := by
  refine ⟨linesWithEnds_eq_iff.2 ⟨by simp, ?_⟩, hfeed, hends⟩
  have hlines := areLines_linesWithEnds page
  rw [h.lines_eq, areLines_append_cons_iff] at hlines
  rw [areLines_append_cons_iff]
  refine ⟨hlines.1, ?_, hlines.2.2⟩
  -- both lines end with a line feed, or neither does
  rcases hlines.2.1 with hended | ⟨hunended, hafter⟩
  · rw [isEnded_append_iff h.noFeed h.ends, ← isEnded_append_iff hfeed hends] at hended
    exact .inl hended
  · refine .inr ⟨?_, hafter⟩
    cases hends with
    | feed => exact absurd hunended.2 (by simp)
    | returnFeed => exact absurd hunended.2 (by simp)
    | nothing hne => exact ⟨by simpa using hne, by simpa using hfeed⟩

end LineStands

end WikiSite
