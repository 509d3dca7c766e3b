import WikiSite.Editor.Diagnostic
import WikiSite.Editor.Hover
import WikiSite.Proofs.Site.Checks

/-!
# Diagnostics, hover and definitions

Three answers about the link or the mention under the cursor are made by three ways through the index, and they agree
(`answers_agree`). Where the diagnostics report a broken link, the hover says that its post is not there and the
definition is nowhere; elsewhere the hover and the definition are those of one post. A mention is reported as unknown
just if the hover says so, and then it has no definition.
-/

namespace WikiSite

/-! ### Targets -/

/-- The slug that a target names has no fragment and no blanks around it. -/
theorem targetSlug_targetSlug (target : Text) : targetSlug (targetSlug target) = targetSlug target := by
  have hall : ∀ c ∈ targetSlug target, (c != '#') = true := by
    intro c hc
    exact List.mem_takeWhile_imp (p := (· != '#')) (mem_of_mem_trim hc)
  show trim ((targetSlug target).takeWhile (· != '#')) = targetSlug target
  rw [List.takeWhile_eq_self_iff.2 hall]
  exact trim_trim _

theorem Index.slug_resolver (ix : Index) (l : Wikilink) : ix.resolver.slug l.slug = (ix.postBySlug l.target).isSome := by
  show (ix.postBySlug (targetSlug l.target)).isSome = (ix.postBySlug l.target).isSome
  unfold postBySlug
  rw [targetSlug_targetSlug]

/-! ### What the checks find -/

namespace Lint

variable {r : Resolver} {page line : Text} {n : Nat} {i : Issue}

/-- Problems of links and mentions are found in prose. -/
theorem mem_check (h : IsReference i.problem) :
    i ∈ check r page ↔ ∃ n line, (n, line) ∈ proseLines page ∧ i ∈ references r n line := by
  rw [mem_check_iff]
  constructor
  · intro hdue
    cases hdue with
    | unclosed => exact h.elim
    | duplicateKey => exact h.elim
    | invalidDate => exact h.elim
    | brokenWikilink hline hl hslug => exact ⟨_, _, hline, mem_references.2 (.inl ⟨_, hl, hslug, rfl⟩)⟩
    | unknownMention hline hm hhandle => exact ⟨_, _, hline, mem_references.2 (.inr ⟨_, hm, hhandle, rfl⟩)⟩
  · rintro ⟨n, line, hline, hi⟩
    rcases mem_references.1 hi with ⟨l, hl, hslug, rfl⟩ | ⟨m, hm, hhandle, rfl⟩
    · exact .brokenWikilink hline hl hslug
    · exact .unknownMention hline hm hhandle

/-- Problems of links and mentions are found on the line where they are. -/
theorem mem_references_of_mem_check (h : IsReference i.problem) (hi : i ∈ check r page) (hn : i.span.line = n)
    (hline : (n, line) ∈ proseLines page) : i ∈ references r n line := by
  obtain ⟨n', line', hline', hi⟩ := (mem_check h).1 hi
  obtain rfl : n' = n := (line_of_mem_references hi).symm.trans hn
  have hsame := (line_of_mem_proseLines hline').1
  rw [(line_of_mem_proseLines hline).1] at hsame
  rwa [Option.some.inj hsame]

theorem eq_brokenWikilink_of_code {p : Problem} (h : p.code = "broken-wikilink".toList) :
    ∃ target, p = .brokenWikilink target := by
  cases p with
  | brokenWikilink target => exact ⟨target, rfl⟩
  | unclosedFrontmatter => exact absurd h (show "unclosed-frontmatter".toList ≠ _ by decide +kernel)
  | duplicateKey => exact absurd h (show "duplicate-key".toList ≠ _ by decide +kernel)
  | invalidDate => exact absurd h (show "invalid-date".toList ≠ _ by decide +kernel)
  | unknownMention => exact absurd h (show "unknown-mention".toList ≠ _ by decide +kernel)

theorem eq_unknownMention_of_code {p : Problem} (h : p.code = "unknown-mention".toList) :
    ∃ handle, p = .unknownMention handle := by
  cases p with
  | unknownMention handle => exact ⟨handle, rfl⟩
  | unclosedFrontmatter => exact absurd h (show "unclosed-frontmatter".toList ≠ _ by decide +kernel)
  | duplicateKey => exact absurd h (show "duplicate-key".toList ≠ _ by decide +kernel)
  | invalidDate => exact absurd h (show "invalid-date".toList ≠ _ by decide +kernel)
  | brokenWikilink => exact absurd h (show "broken-wikilink".toList ≠ _ by decide +kernel)

/-- A link is found broken where it is, just if no post has its slug. -/
theorem brokenWikilink_iff (hline : (n, line) ∈ proseLines page) {l : Wikilink} (hl : l ∈ findWikilinks line) :
    (∃ i ∈ check r page, i.problem.code = "broken-wikilink".toList ∧ i.span = ⟨n, l.first, l.last⟩) ↔
      r.slug l.slug = false := by
  constructor
  · rintro ⟨i, hi, hcode, hspan⟩
    obtain ⟨target, hproblem⟩ := eq_brokenWikilink_of_code hcode
    have hi := mem_references_of_mem_check (hproblem ▸ trivial) hi (congrArg Span.line hspan) hline
    rcases mem_references.1 hi with ⟨l', hl', hslug, rfl⟩ | ⟨m, -, -, rfl⟩
    · have hfirst : l'.first = l.first := congrArg Span.first hspan
      rwa [(laid_findWikilinks line).eq_of_first hl' hl hfirst] at hslug
    · cases hproblem
  · intro hslug
    refine ⟨⟨⟨n, l.first, l.last⟩, .brokenWikilink l.target⟩, ?_, rfl, rfl⟩
    refine (mem_check ?_).2 ⟨n, line, hline, mem_references.2 (.inl ⟨l, hl, hslug, rfl⟩)⟩
    trivial

/-- A mention is found unknown where it is, just if nobody has its handle. -/
theorem unknownMention_iff (hline : (n, line) ∈ proseLines page) {m : Mention} (hm : m ∈ findMentions line) :
    (∃ i ∈ check r page, i.problem.code = "unknown-mention".toList ∧ i.span = ⟨n, m.first, m.last⟩) ↔
      r.handle m.handle = false := by
  constructor
  · rintro ⟨i, hi, hcode, hspan⟩
    obtain ⟨handle, hproblem⟩ := eq_unknownMention_of_code hcode
    have hi := mem_references_of_mem_check (hproblem ▸ trivial) hi (congrArg Span.line hspan) hline
    rcases mem_references.1 hi with ⟨l, -, -, rfl⟩ | ⟨m', hm', hhandle, rfl⟩
    · cases hproblem
    · have hfirst : m'.first = m.first := congrArg Span.first hspan
      rwa [(laid_findMentions line).eq_of_first hm' hm hfirst] at hhandle
  · intro hhandle
    refine ⟨⟨⟨n, m.first, m.last⟩, .unknownMention m.handle⟩, ?_, rfl, rfl⟩
    refine (mem_check ?_).2 ⟨n, line, hline, mem_references.2 (.inr ⟨m, hm, hhandle, rfl⟩)⟩
    trivial

/-- Problems of links and mentions lie within the page. -/
theorem span_of_mem_check (h : IsReference i.problem) (hi : i ∈ check r page) :
    i.span.line < page.length ∧ i.span.first < page.length ∧ i.span.last ≤ page.length := by
  obtain ⟨n, line, hline, hi⟩ := (mem_check h).1 hi
  have hbounds := bounds_of_line (line_of_mem_proseLines hline).1
  rcases mem_references.1 hi with ⟨l, hl, -, rfl⟩ | ⟨m, hm, -, rfl⟩
  · have hinside := (laid_findWikilinks line).inside l hl
    simp only
    omega
  · have hinside := (laid_findMentions line).inside m hm
    simp only
    omega

end Lint

/-! ### What is shown -/

namespace Hover

/-- The note for a link whose post is not there. -/
def missingPost (l : Wikilink) : Text := "Post `".toList ++ l.slug ++ "` not found".toList

/-- The note for a mention of somebody who is not there. -/
def missingPerson (m : Mention) : Text := "Mention `@".toList ++ m.handle ++ "` not found".toList

private theorem head?_joinWith (sep t : Text) (c : Char) (rest : List Text) :
    (joinWith sep ((c :: t) :: rest)).head? = some c := by
  cases rest <;> rfl

theorem postCard_ne_missingPost (p : Post) (l : Wikilink) : postCard p ≠ missingPost l := by
  have hcard : (postCard p).head? = some '*' := head?_joinWith _ _ '*' _
  have hnote : (missingPost l).head? = some 'P' := rfl
  intro h
  rw [h, hnote] at hcard
  exact absurd hcard (by decide)

theorem personCard_ne_missingPerson (p : Person) (m : Mention) : personCard p ≠ missingPerson m := by
  have hcard : (personCard p).head? = some '*' := head?_joinWith _ _ '*' _
  have hnote : (missingPerson m).head? = some 'M' := rfl
  intro h
  rw [h, hnote] at hcard
  exact absurd hcard (by decide)

end Hover

section

variable (ix : Index) {s : Settings} {page line : Text} {n column : Nat} {l : Wikilink} {m : Mention}

/-- The note on a link of a prose line. -/
theorem hoverAt_wikilink (hs : s.hover = true) (hline : (n, line) ∈ proseLines page) (hl : l ∈ findWikilinks line)
    (hc : l.covers column = true) (hm : mentionAt line column = none) :
    hoverAt ix s page ⟨n, column⟩ = some ⟨match ix.postBySlug l.target with
      | some p => Hover.postCard p
      | none => Hover.missingPost l, some (Range.cut n l.first l.last)⟩ := by
  obtain ⟨hget, hbody⟩ := line_of_mem_proseLines hline
  unfold hoverAt
  simp only [hs, hbody, hget, Bool.not_true, Bool.false_eq_true, ↓reduceIte]
  simp only [Hover.onLine, admonitionAt_of_wikilink hl hc, hm, wikilinkAt_eq hl hc]
  rfl

/-- The note on a mention of a prose line. -/
theorem hoverAt_mention (hs : s.hover = true) (hline : (n, line) ∈ proseLines page) (hm : m ∈ findMentions line)
    (hc : m.covers column = true) :
    hoverAt ix s page ⟨n, column⟩ = some ⟨match ix.personByHandle m.handle with
      | some p => Hover.personCard p
      | none => Hover.missingPerson m, some (Range.cut n m.first m.last)⟩ := by
  obtain ⟨hget, hbody⟩ := line_of_mem_proseLines hline
  unfold hoverAt
  simp only [hs, hbody, hget, Bool.not_true, Bool.false_eq_true, ↓reduceIte]
  simp only [Hover.onLine, admonitionAt_of_mention hm hc, mentionAt_eq hm hc]
  rfl

theorem definitionAt_wikilink (hline : (n, line) ∈ proseLines page) (hl : l ∈ findWikilinks line)
    (hc : l.covers column = true) (hm : mentionAt line column = none) :
    definitionAt ix page ⟨n, column⟩ = (ix.postBySlug l.target).map fun p => ⟨p.uri, Range.start⟩ := by
  unfold definitionAt
  simp only [(line_of_mem_proseLines hline).1, hm, wikilinkAt_eq hl hc]

theorem definitionAt_mention (hline : (n, line) ∈ proseLines page) (hm : m ∈ findMentions line)
    (hc : m.covers column = true) :
    definitionAt ix page ⟨n, column⟩ = (ix.personByHandle m.handle).bind (personLocation ix) := by
  unfold definitionAt
  simp only [(line_of_mem_proseLines hline).1, mentionAt_eq hm hc]

end

/-! ### What is reported -/

/-- Among the diagnostics is that of a problem with the code at exactly the span. -/
def Reported (ix : Index) (s : Settings) (page code : Text) (span : Span) : Prop :=
  ∃ i ∈ Lint.check ix.resolver page, i.problem.code = code ∧ i.span = span ∧ Diagnostic.ofIssue i ∈ diagnostics ix s page

section

variable {ix : Index} {s : Settings} {page code : Text} {span : Span}

theorem reported_iff (hs : s.diagnostics = true) : Reported ix s page code span ↔
    ∃ i ∈ Lint.check ix.resolver page, i.problem.code = code ∧ i.span = span := by
  unfold Reported diagnostics
  rw [if_pos hs]
  constructor
  · rintro ⟨i, hi, hcode, hspan, -⟩
    exact ⟨i, hi, hcode, hspan⟩
  · rintro ⟨i, hi, hcode, hspan⟩
    exact ⟨i, hi, hcode, hspan, List.mem_map_of_mem hi⟩

/-- Places within a page whose length is a number of 32 bits are reported as they are. -/
theorem range_ofIssue {r : Resolver} {i : Issue} (h : Lint.IsReference i.problem) (hi : i ∈ Lint.check r page)
    (hpage : page.length < limit32) :
    (Diagnostic.ofIssue i).range = Range.onLine i.span.line i.span.first i.span.last := by
  obtain ⟨hline, hfirst, hlast⟩ := Lint.span_of_mem_check h hi
  show Range.cut (i.span.line % limit32) i.span.first i.span.last = _
  rw [Nat.mod_eq_of_lt (by omega), Range.cut_eq (by omega) (by omega)]

/-- Then a report can be told by its code and its range. -/
theorem reported_iff_range (hcode : ∀ p : Problem, p.code = code → Lint.IsReference p) (hpage : page.length < limit32) :
    Reported ix s page code span ↔
      ∃ d ∈ diagnostics ix s page, d.code = code ∧ d.range = Range.onLine span.line span.first span.last := by
  constructor
  · rintro ⟨i, hi, hc, rfl, hd⟩
    exact ⟨_, hd, hc, range_ofIssue (hcode _ hc) hi hpage⟩
  · rintro ⟨d, hd, hc, hrange⟩
    have hissue : ∃ i ∈ Lint.check ix.resolver page, Diagnostic.ofIssue i = d := by
      unfold diagnostics at hd
      split at hd
      · exact List.mem_map.1 hd
      · cases hd
    obtain ⟨i, hi, rfl⟩ := hissue
    rw [range_ofIssue (hcode _ hc) hi hpage] at hrange
    simp only [Range.onLine, Range.mk.injEq, Position.mk.injEq] at hrange
    obtain ⟨⟨hline, hfirst⟩, -, hlast⟩ := hrange
    refine ⟨i, hi, hc, ?_, hd⟩
    show (⟨i.span.line, i.span.first, i.span.last⟩ : Span) = span
    rw [hline, hfirst, hlast]

end

/-! ### Agreement -/

/-- The note shown at a position. -/
def noteAt (ix : Index) (s : Settings) (page : Text) (pos : Position) : Option Text :=
  (hoverAt ix s page pos).map Hover.value

/-- The answers about a link at a position agree. -/
structure LinkAgrees (ix : Index) (s : Settings) (page : Text) (pos : Position) (l : Wikilink) : Prop where
  /-- It is reported as broken just if its post is shown as missing. -/
  reported : Reported ix s page "broken-wikilink".toList ⟨pos.line, l.first, l.last⟩ ↔
    noteAt ix s page pos = some (Hover.missingPost l)
  /-- The same, told by the range of the diagnostic where places are numbers of 32 bits. -/
  ranged : page.length < limit32 →
    ((∃ d ∈ diagnostics ix s page, d.code = "broken-wikilink".toList ∧
      d.range = Range.onLine pos.line l.first l.last) ↔ noteAt ix s page pos = some (Hover.missingPost l))
  /-- Its post is shown as missing just if it has no definition. -/
  undefined : noteAt ix s page pos = some (Hover.missingPost l) ↔ definitionAt ix page pos = none
  /-- Otherwise the card and the definition are those of the post that its target names. -/
  same : noteAt ix s page pos ≠ some (Hover.missingPost l) →
    ∃ p, ix.postBySlug l.target = some p ∧ noteAt ix s page pos = some (Hover.postCard p) ∧
      definitionAt ix page pos = some ⟨p.uri, Range.start⟩

/-- The answers about a mention at a position agree. -/
structure MentionAgrees (ix : Index) (s : Settings) (page : Text) (pos : Position) (m : Mention) : Prop where
  /-- It is reported as unknown just if it is shown as missing. -/
  reported : Reported ix s page "unknown-mention".toList ⟨pos.line, m.first, m.last⟩ ↔
    noteAt ix s page pos = some (Hover.missingPerson m)
  /-- The same, told by the range of the diagnostic where places are numbers of 32 bits. -/
  ranged : page.length < limit32 →
    ((∃ d ∈ diagnostics ix s page, d.code = "unknown-mention".toList ∧
      d.range = Range.onLine pos.line m.first m.last) ↔ noteAt ix s page pos = some (Hover.missingPerson m))
  /-- Then it has no definition. -/
  undefined : noteAt ix s page pos = some (Hover.missingPerson m) → definitionAt ix page pos = none

section

variable (ix : Index) {s : Settings} {page line : Text} {n column : Nat} {l : Wikilink} {m : Mention}

theorem noteAt_wikilink (hs : s.hover = true) (hline : (n, line) ∈ proseLines page) (hl : l ∈ findWikilinks line)
    (hc : l.covers column = true) (hm : mentionAt line column = none) :
    noteAt ix s page ⟨n, column⟩ = some (Hover.missingPost l) ↔ ix.postBySlug l.target = none := by
  unfold noteAt
  rw [hoverAt_wikilink ix hs hline hl hc hm, Option.map_some, Option.some.injEq]
  cases ix.postBySlug l.target with
  | none => simp
  | some p => simpa using Hover.postCard_ne_missingPost p l

theorem noteAt_mention (hs : s.hover = true) (hline : (n, line) ∈ proseLines page) (hm : m ∈ findMentions line)
    (hc : m.covers column = true) :
    noteAt ix s page ⟨n, column⟩ = some (Hover.missingPerson m) ↔ ix.personByHandle m.handle = none := by
  unfold noteAt
  rw [hoverAt_mention ix hs hline hm hc, Option.map_some, Option.some.injEq]
  cases ix.personByHandle m.handle with
  | none => simp
  | some p => simpa using Hover.personCard_ne_missingPerson p m

theorem linkAgrees (hhover : s.hover = true) (hdiagnostics : s.diagnostics = true)
    (hline : (n, line) ∈ proseLines page) (hl : l ∈ findWikilinks line) (hc : l.covers column = true)
    (hm : mentionAt line column = none) : LinkAgrees ix s page ⟨n, column⟩ l := by
  have hmissing := noteAt_wikilink ix hhover hline hl hc hm
  have hdefinition := definitionAt_wikilink ix hline hl hc hm
  have hreported : Reported ix s page "broken-wikilink".toList ⟨n, l.first, l.last⟩ ↔
      noteAt ix s page ⟨n, column⟩ = some (Hover.missingPost l) := by
    rw [reported_iff hdiagnostics, Lint.brokenWikilink_iff hline hl, ix.slug_resolver, hmissing,
      Option.isSome_eq_false_iff, Option.isNone_iff_eq_none]
  refine ⟨hreported, ?_, ?_, ?_⟩
  · intro hpage
    have hcode : ∀ p : Problem, p.code = "broken-wikilink".toList → Lint.IsReference p := by
      intro p hp
      obtain ⟨target, rfl⟩ := Lint.eq_brokenWikilink_of_code hp
      trivial
    exact (reported_iff_range hcode hpage).symm.trans hreported
  · rw [hmissing, hdefinition, Option.map_eq_none_iff]
  · intro hne
    rw [Ne, hmissing] at hne
    obtain ⟨p, hp⟩ := Option.ne_none_iff_exists'.1 hne
    refine ⟨p, hp, ?_, by rw [hdefinition, hp]; rfl⟩
    unfold noteAt
    rw [hoverAt_wikilink ix hhover hline hl hc hm, hp]
    rfl

theorem mentionAgrees (hhover : s.hover = true) (hdiagnostics : s.diagnostics = true)
    (hline : (n, line) ∈ proseLines page) (hm : m ∈ findMentions line) (hc : m.covers column = true) :
    MentionAgrees ix s page ⟨n, column⟩ m := by
  have hmissing := noteAt_mention ix hhover hline hm hc
  have hreported : Reported ix s page "unknown-mention".toList ⟨n, m.first, m.last⟩ ↔
      noteAt ix s page ⟨n, column⟩ = some (Hover.missingPerson m) := by
    rw [reported_iff hdiagnostics, Lint.unknownMention_iff hline hm, hmissing, ← Option.isNone_iff_eq_none,
      ← Option.isSome_eq_false_iff]
    rfl
  refine ⟨hreported, ?_, ?_⟩
  · intro hpage
    have hcode : ∀ p : Problem, p.code = "unknown-mention".toList → Lint.IsReference p := by
      intro p hp
      obtain ⟨handle, rfl⟩ := Lint.eq_unknownMention_of_code hp
      trivial
    exact (reported_iff_range hcode hpage).symm.trans hreported
  · intro hnote
    rw [definitionAt_mention ix hline hm hc, hmissing.1 hnote]
    rfl

end

/-- At every column of a link or a mention in prose, the diagnostics, the hover and the definition agree. -/
theorem answers_agree (ix : Index) (s : Settings) (page line : Text) (n column : Nat) (hhover : s.hover = true)
    (hdiagnostics : s.diagnostics = true) (hline : (n, line) ∈ proseLines page) :
    (∀ l ∈ findWikilinks line, l.covers column = true → mentionAt line column = none →
      LinkAgrees ix s page ⟨n, column⟩ l) ∧
    (∀ m ∈ findMentions line, m.covers column = true → MentionAgrees ix s page ⟨n, column⟩ m) := by
  constructor
  · intro l hl hc hm
    exact linkAgrees ix hhover hdiagnostics hline hl hc hm
  · intro m hm hc
    exact mentionAgrees ix hhover hdiagnostics hline hm hc

/-- A mention in a broken link behind an admonition. -/
private def asideLine : Text := "!!! note [[nowhere#top|ask @bob]]".toList

/-- A page with frontmatter and this line. -/
private def asidePage : Text := "---\ntitle: x\n---\n".toList ++ asideLine ++ ['\n']

theorem answers_agree_aside :
    (Settings.default.hover = true ∧ Settings.default.diagnostics = true ∧ (3, asideLine) ∈ proseLines asidePage) ∧
      LinkAgrees Index.empty Settings.default asidePage ⟨3, 12⟩
        ⟨"nowhere#top".toList, some "ask @bob".toList, 9, 33⟩ ∧
      MentionAgrees Index.empty Settings.default asidePage ⟨3, 28⟩ ⟨"bob".toList, 27, 31⟩ := by
  have hline : (3, asideLine) ∈ proseLines asidePage := by decide +kernel
  have hlink := (answers_agree Index.empty Settings.default asidePage asideLine 3 12 rfl rfl hline).1
  have hmention := (answers_agree Index.empty Settings.default asidePage asideLine 3 28 rfl rfl hline).2
  exact ⟨⟨rfl, rfl, hline⟩, hlink _ (by decide +kernel) (by decide +kernel) (by decide +kernel),
    hmention _ (by decide +kernel) (by decide +kernel)⟩

end WikiSite
