import WikiSite.Page.Admonition
import WikiSite.Proofs.Page.Occurrences

/-!
# Stretches of a line

A search for links or mentions passes over what it has found. So the stretches that it finds lie apart from left to
right within the line, and each starts with the character that opens it (`laid_linksFrom`, `laid_mentionsFrom`). The
stretch that covers a column is therefore the one that is found there (`wikilinkAt_eq`, `mentionAt_eq`). What opens an
admonition holds neither a bracket nor an `@`, so no column of a link or a mention belongs to it
(`admonitionAt_of_wikilink`, `admonitionAt_of_mention`). Prose lines are lines of the page outside its frontmatter
(`line_of_mem_proseLines`).
-/

namespace WikiSite

/-! ### Stretches that lie apart -/

/-- The stretches lie apart from left to right in a text whose first character is at `column`, behind its first `skip`
characters, and each starts with the mark. -/
structure Laid {α : Type} (first last : α → Nat) (mark : Char) (t : Text) (column skip : Nat) (xs : List α) : Prop where
  inside : ∀ x ∈ xs, column + skip ≤ first x ∧ first x < last x ∧ last x ≤ column + t.length
  marked : ∀ x ∈ xs, t[first x - column]? = some mark
  apart : xs.Pairwise fun x y => last x ≤ first y

namespace Laid

variable {α : Type} {first last : α → Nat} {mark : Char} {t : Text} {column skip : Nat} {xs : List α}

theorem nil : Laid first last mark t column skip [] := ⟨by simp, by simp, .nil⟩

/-- A character in front is passed over. -/
theorem pass (h : Laid first last mark t (column + 1) skip xs) (c : Char) :
    Laid first last mark (c :: t) column (skip + 1) xs := by
  refine ⟨?_, ?_, h.apart⟩
  · intro x hx
    have := h.inside x hx
    rw [List.length_cons]
    omega
  · intro x hx
    have hinside := h.inside x hx
    rw [show first x - column = first x - (column + 1) + 1 by omega, List.getElem?_cons_succ]
    exact h.marked x hx

theorem of_le (h : Laid first last mark t column skip xs) {skip' : Nat} (hle : skip' ≤ skip) :
    Laid first last mark t column skip' xs := by
  refine ⟨?_, h.marked, h.apart⟩
  intro x hx
  have := h.inside x hx
  omega

/-- A stretch at the start of the text comes before those behind its end. -/
theorem cons (h : Laid first last mark (mark :: t) column skip xs) {x : α} (hfirst : first x = column)
    (hlast : column < last x ∧ last x ≤ column + skip ∧ last x ≤ column + (mark :: t).length) :
    Laid first last mark (mark :: t) column 0 (x :: xs) := by
  refine ⟨?_, ?_, List.pairwise_cons.2 ⟨?_, h.apart⟩⟩
  · intro y hy
    rcases List.mem_cons.1 hy with rfl | hy
    · omega
    · have := h.inside y hy
      omega
  · intro y hy
    rcases List.mem_cons.1 hy with rfl | hy
    · rw [hfirst, Nat.sub_self]
      rfl
    · exact h.marked y hy
  · intro y hy
    have := h.inside y hy
    omega

/-- The stretch that covers a column is found there. -/
theorem find?_eq (h : Laid first last mark t column skip xs) {x : α} (hx : x ∈ xs) {n : Nat}
    (hn : first x ≤ n ∧ n < last x) : xs.find? (fun y => first y ≤ n && n < last y) = some x := by
  have hapart := h.apart
  clear h
  induction xs with
  | nil => cases hx
  | cons y ys ih =>
    obtain ⟨hhead, htail⟩ := List.pairwise_cons.1 hapart
    rw [List.find?_cons]
    rcases List.mem_cons.1 hx with rfl | hx
    · simp [hn]
    · have hy : (first y ≤ n && n < last y) = false := by
        have := hhead x hx
        simp only [Bool.and_eq_false_iff, decide_eq_false_iff_not]
        omega
      rw [hy]
      exact ih hx htail

/-- Stretches with the same first column are the same. -/
theorem eq_of_first (h : Laid first last mark t column skip xs) {x y : α} (hx : x ∈ xs) (hy : y ∈ xs)
    (hxy : first x = first y) : x = y := by
  have hx' := h.inside x hx
  have hy' := h.inside y hy
  have hfindx := h.find?_eq hx (n := first x) (by omega)
  have hfindy := h.find?_eq hy (n := first x) (by omega)
  exact Option.some.inj (hfindx.symm.trans hfindy)

end Laid

/-! ### Links and mentions -/

/-- Links start with a bracket and lie apart. -/
theorem laid_linksFrom (skip column : Nat) (t : Text) :
    Laid Wikilink.first Wikilink.last '[' t column skip (linksFrom skip column t) := by
  fun_induction linksFrom skip column t with
  | case1 => exact .nil
  | case2 column skip c rest ih => exact ih.pass c
  | case3 column inner target display used hbody ih =>
    have htail := ih.pass '['
    have hused : used ≤ inner.length := by
      obtain ⟨body, rest, rfl, rfl, -⟩ := linkBody_eq_some hbody
      simp
    cases hlink : linkOf target display column (column + 2 + used) with
    | none => exact htail.of_le (Nat.zero_le _)
    | some l =>
      obtain ⟨-, rfl⟩ := linkOf_eq_some_iff.1 hlink
      apply htail.cons rfl
      simp only [List.length_cons]
      omega
  | case4 column inner hbody ih => exact (ih.pass '[').of_le (Nat.zero_le _)
  | case5 column c rest hother ih => exact (ih.pass c).of_le (Nat.zero_le _)

/-- Mentions start with an `@` and lie apart. -/
theorem laid_mentionsFrom (skip column : Nat) (previous : Option Char) (t : Text) :
    Laid Mention.first Mention.last '@' t column skip (mentionsFrom skip column previous t) := by
  fun_induction mentionsFrom skip column previous t with
  | case1 => exact .nil
  | case2 column skip previous c rest ih => exact ih.pass c
  | case3 column previous c rest hopen run handle found ih =>
    have hc : c = '@' := by simpa using (Bool.and_eq_true_iff.1 hopen).1
    subst hc
    have htail := ih.pass '@'
    have hrun : run.length ≤ rest.length := (List.takeWhile_sublist _).length_le
    have hhandle : handle.length ≤ run.length := by
      obtain ⟨s, -, hs⟩ := exists_dropEndWhile_append (fun c => c == '.' || c == '-') run
      rw [hs, List.length_append]
      exact Nat.le_add_right _ _
    by_cases hmay : mayPrecedeMention previous = true
    · have hfound : found = [⟨handle, column, column + 1 + handle.length⟩] := if_pos hmay
      rw [hfound]
      apply htail.cons rfl
      simp only [List.length_cons]
      omega
    · have hfound : found = [] := if_neg hmay
      rw [hfound]
      exact htail.of_le (Nat.zero_le _)
  | case4 column previous c rest hopen ih => exact (ih.pass c).of_le (Nat.zero_le _)

theorem laid_findWikilinks (line : Text) :
    Laid Wikilink.first Wikilink.last '[' line 0 0 (findWikilinks line) := laid_linksFrom 0 0 line

theorem laid_findMentions (line : Text) :
    Laid Mention.first Mention.last '@' line 0 0 (findMentions line) := laid_mentionsFrom 0 0 none line

theorem Wikilink.covers_iff {l : Wikilink} {column : Nat} :
    l.covers column = true ↔ l.first ≤ column ∧ column < l.last := by
  simp [Wikilink.covers]

theorem Mention.covers_iff {m : Mention} {column : Nat} :
    m.covers column = true ↔ m.first ≤ column ∧ column < m.last := by
  simp [Mention.covers]

/-- The link that covers a column is found there. -/
theorem wikilinkAt_eq {line : Text} {l : Wikilink} (hl : l ∈ findWikilinks line) {column : Nat}
    (hc : l.covers column = true) : wikilinkAt line column = some l :=
  (laid_findWikilinks line).find?_eq hl (Wikilink.covers_iff.1 hc)

/-- The mention that covers a column is found there. -/
theorem mentionAt_eq {line : Text} {m : Mention} (hm : m ∈ findMentions line) {column : Nat}
    (hc : m.covers column = true) : mentionAt line column = some m :=
  (laid_findMentions line).find?_eq hm (Mention.covers_iff.1 hc)

/-! ### Admonitions -/

/-- The texts that mark an admonition. -/
def markers : List Text := ["!!!".toList, "???".toList, "???+".toList]

theorem of_mem_markers {p : Char → Bool} (h : (markers.all fun marker => marker.all p) = true) {marker : Text}
    (hmarker : marker ∈ markers) {c : Char} (hc : c ∈ marker) : p c = true :=
  List.all_eq_true.1 (List.all_eq_true.1 h marker hmarker) c hc

/-- A marker is cut off where it stands; a plus sign belongs to it. -/
theorem cutMarker_eq_some_iff {t marker rest : Text} : cutMarker t = some (marker, rest) ↔
    t = marker ++ rest ∧ marker ∈ markers ∧ (marker = "???".toList → rest.head? ≠ some '+') := by
  constructor
  · intro h
    unfold cutMarker at h
    split at h
    · cases h
      exact ⟨rfl, by decide, fun heq => absurd heq (by decide)⟩
    · rename_i t hplus
      cases h
      refine ⟨rfl, by decide, fun _ hhead => ?_⟩
      obtain ⟨rest, rfl⟩ := List.head?_eq_some_iff.1 hhead
      exact hplus rest rfl
    · cases h
      exact ⟨rfl, by decide, fun heq => absurd heq (by decide)⟩
    · cases h
  · rintro ⟨rfl, hmarker, hplus⟩
    simp only [markers, List.mem_cons, List.not_mem_nil, or_false] at hmarker
    rcases hmarker with rfl | rfl | rfl
    · rfl
    · have hhead := hplus rfl
      cases rest with
      | nil => rfl
      | cons c rest =>
        have hc : c ≠ '+' := fun hc => hhead (by rw [hc]; rfl)
        simp [cutMarker, hc]
    · rfl

/-- Whether `c` may stand in what opens an admonition. -/
private def opensAdmonition (c : Char) : Bool := isBlank c || c == '!' || c == '?' || c == '+' || isWord c

private theorem opensAdmonition_of_mem_markers {marker : Text} (h : marker ∈ markers) {c : Char} (hc : c ∈ marker) :
    opensAdmonition c = true :=
  of_mem_markers (by decide) h hc

/-- A text is the blanks at its start and the rest. -/
private theorem exists_trimStart_append (t : Text) :
    ∃ s, (∀ c ∈ s, opensAdmonition c = true) ∧ t = s ++ trimStart t := by
  refine ⟨t.takeWhile isBlank, ?_, List.takeWhile_append_dropWhile.symm⟩
  intro c hc
  simp [opensAdmonition, List.mem_takeWhile_imp hc]

/-- What opens an admonition is blanks, a marker, blanks and a word. -/
private theorem take_of_admonitionOn {line : Text} {a : Admonition} (h : admonitionOn line = some a) :
    ∀ c ∈ line.take a.last, opensAdmonition c = true := by
  obtain ⟨indent, hindent, hline⟩ := exists_trimStart_append line
  have hindented := congrArg List.length hline
  unfold admonitionOn at h
  simp only at h
  split at h
  · cases h
  rename_i marker rest hcut
  obtain ⟨hstart, hmarker, -⟩ := cutMarker_eq_some_iff.1 hcut
  obtain ⟨gap, hgap, hrest⟩ := exists_trimStart_append rest
  have hgapped := congrArg List.length hrest
  have hname : trimStart rest = (trimStart rest).takeWhile isWord ++ (trimStart rest).dropWhile isWord :=
    List.takeWhile_append_dropWhile.symm
  have hkind : ∀ c ∈ (trimStart rest).takeWhile isWord, opensAdmonition c = true := by
    intro c hc
    simp [opensAdmonition, List.mem_takeWhile_imp hc]
  split at h
  · cases h
    generalize (trimStart rest).takeWhile isWord = kind at hname hkind
    generalize (trimStart rest).dropWhile isWord = more at hname
    have hopening : line = (indent ++ marker ++ gap ++ kind) ++ more := by
      rw [hline, hstart, hrest, hname]
      simp
    have hlength : line.length - (trimStart line).length + marker.length + (rest.length - (trimStart rest).length) +
        kind.length = (indent ++ marker ++ gap ++ kind).length := by
      simp only [List.length_append] at hindented hgapped ⊢
      omega
    intro c hc
    rw [hlength, hopening, List.take_left] at hc
    simp only [List.mem_append] at hc
    rcases hc with ((hc | hc) | hc) | hc
    · exact hindent c hc
    · exact opensAdmonition_of_mem_markers hmarker hc
    · exact hgap c hc
    · exact hkind c hc
  · cases h

/-- No column of a stretch belongs to an admonition when its mark cannot stand in one. -/
private theorem Laid.admonitionAt_eq_none {α : Type} {first last : α → Nat} {mark : Char} {line : Text} {xs : List α}
    (h : Laid first last mark line 0 0 xs) (hmark : opensAdmonition mark = false) {x : α} (hx : x ∈ xs) {column : Nat}
    (hle : first x ≤ column) : admonitionAt line column = none := by
  unfold admonitionAt
  cases ha : admonitionOn line with
  | none => rfl
  | some a =>
    have hlast : a.last ≤ first x := by
      by_contra hlt
      have hmem : mark ∈ line.take a.last := by
        apply List.mem_of_getElem? (i := first x)
        rw [List.getElem?_take_of_lt (by omega)]
        exact h.marked x hx
      rw [take_of_admonitionOn ha mark hmem] at hmark
      cases hmark
    rw [Option.filter_eq_none_iff]
    intro b hb
    cases hb
    simp only [Bool.and_eq_true, decide_eq_true_eq]
    omega

theorem admonitionAt_of_wikilink {line : Text} {l : Wikilink} (hl : l ∈ findWikilinks line) {column : Nat}
    (hc : l.covers column = true) : admonitionAt line column = none :=
  (laid_findWikilinks line).admonitionAt_eq_none (by decide) hl (Wikilink.covers_iff.1 hc).1

theorem admonitionAt_of_mention {line : Text} {m : Mention} (hm : m ∈ findMentions line) {column : Nat}
    (hc : m.covers column = true) : admonitionAt line column = none :=
  (laid_findMentions line).admonitionAt_eq_none (by decide) hm (Mention.covers_iff.1 hc).1

/-! ### Lines of a page -/

theorem mem_numberFrom {α : Type} {k n : Nat} {a : α} {l : List α} (h : (n, a) ∈ numberFrom k l) :
    k ≤ n ∧ l[n - k]? = some a := by
  induction l generalizing k with
  | nil => cases h
  | cons b l ih =>
    rcases List.mem_cons.1 h with h | h
    · cases h
      simp
    · obtain ⟨hle, hget⟩ := ih h
      refine ⟨by omega, ?_⟩
      rw [show n - k = n - (k + 1) + 1 by omega, List.getElem?_cons_succ]
      exact hget

theorem proseFrom_sublist (openFence : Option Fence) (ls : List (Nat × Text)) : (proseFrom openFence ls).Sublist ls := by
  fun_induction proseFrom openFence ls with
  | case1 => exact .slnil
  | case2 n line rest f hf ih => exact ih.cons _
  | case3 n line rest f g hf hfg ih => exact ih.cons _
  | case4 n line rest f hf ih => exact ih.cons _
  | case5 n line rest g hf ih => exact ih.cons _
  | case6 n line rest hf ih => exact ih.cons_cons _

private theorem Block.covers_of_contains {b : Block} {n : Nat} (h : b.contains n = true) : b.covers n = true := by
  simp only [Block.contains, Block.covers, Bool.and_eq_true, decide_eq_true_eq] at h ⊢
  refine ⟨h.1.le, ?_⟩
  cases hlast : b.last with
  | none => rfl
  | some last =>
    have hlt := h.2
    rw [hlast] at hlt
    simp only [decide_eq_true_eq] at hlt ⊢
    exact hlt.le

/-- A prose line is a line of the page outside its frontmatter. -/
theorem line_of_mem_proseLines {page line : Text} {n : Nat} (h : (n, line) ∈ proseLines page) :
    (lines page)[n]? = some line ∧ inFrontmatter page n = false := by
  have huncovered : (n, line) ∈ uncoveredLines page := (proseFrom_sublist none _).mem h
  unfold uncoveredLines at huncovered
  unfold inFrontmatter
  cases hb : locateBlock page with
  | some b =>
    rw [hb] at huncovered
    obtain ⟨hline, hcovers⟩ := List.mem_filter.1 huncovered
    refine ⟨by simpa using (mem_numberFrom hline).2, ?_⟩
    rw [← Bool.not_eq_true]
    intro hcontains
    rw [Block.covers_of_contains hcontains] at hcovers
    cases hcovers
  | none =>
    rw [hb] at huncovered
    exact ⟨by simpa using (mem_numberFrom huncovered).2, rfl⟩

private theorem length_chomp_le (line : Text) : (chomp line).length ≤ line.length := by
  have hlength : line.reverse.length = line.length := List.length_reverse
  unfold chomp
  split
  · rename_i rest h
    rw [h, List.length_cons, List.length_cons] at hlength
    rw [List.length_reverse]
    omega
  · rename_i rest _ h
    rw [h, List.length_cons] at hlength
    rw [List.length_reverse]
    omega
  · exact le_rfl

private theorem linesWithEnds_bounds (t : Text) :
    (linesWithEnds t).length ≤ t.length ∧ ∀ line ∈ linesWithEnds t, line.length ≤ t.length := by
  fun_induction linesWithEnds t with
  | case1 => simp
  | case2 c rest hc ih =>
    refine ⟨by simpa using ih.1, ?_⟩
    intro line hline
    rcases List.mem_cons.1 hline with rfl | hline
    · simp
    · exact (ih.2 line hline).trans (by simp)
  | case3 c rest hc hnil ih => simp
  | case4 c rest hc line later hlines ih =>
    rw [hlines] at ih
    refine ⟨ih.1.trans (by simp), ?_⟩
    intro line' hline
    rcases List.mem_cons.1 hline with rfl | hline
    · simpa using ih.2 line (by simp)
    · exact (ih.2 line' (by simp [hline])).trans (by simp)

/-- Neither the number of a line nor its length exceeds the length of the page. -/
theorem bounds_of_line {page line : Text} {n : Nat} (h : (lines page)[n]? = some line) :
    n < page.length ∧ line.length ≤ page.length := by
  obtain ⟨hcount, hlength⟩ := linesWithEnds_bounds page
  constructor
  · have hn := (List.getElem?_eq_some_iff.1 h).1
    unfold lines at hn
    rw [List.length_map] at hn
    omega
  · obtain ⟨whole, hwhole, rfl⟩ := List.mem_map.1 (List.mem_of_getElem? h)
    exact (length_chomp_le whole).trans (hlength whole hwhole)

end WikiSite
