import Mathlib.Data.Char
import Mathlib.Data.List.Lex
import Mathlib.Data.List.Nodup
import Mathlib.Data.Prod.Lex
import WikiSite.Proofs.Page.MentionGrammar
import WikiSite.Site.Lint

/-!
# What the checks report

`Lint.Due` says which issues a page has, rule by rule and with their spans. The checks report exactly these, each once,
in the order of their places (`Lint.checks_exactly`): the declared fields stand on different lines, and so do the prose
lines, whose links and mentions lie apart, so different occurrences never give the same issue. A span lies on a line of
the page, and it covers the text that the problem is about (`Lint.InPlace`).
-/

namespace WikiSite

/-- The place of an issue and the code of its problem, by which issues are ordered. -/
def Issue.rank (i : Issue) : Nat ×ₗ Nat ×ₗ Nat ×ₗ Text :=
  toLex (i.span.line, toLex (i.span.first, toLex (i.span.last, i.problem.code)))

theorem Issue.notAfter_iff {a b : Issue} : a.notAfter b = true ↔ a.rank ≤ b.rank := by
  unfold notAfter rank textBefore
  simp only [Prod.Lex.toLex_le_toLex]
  by_cases hline : a.span.line = b.span.line
  · by_cases hfirst : a.span.first = b.span.first
    · by_cases hlast : a.span.last = b.span.last <;> simp [hline, hfirst, hlast]
    · simp [hline, hfirst]
  · simp [hline]

namespace Lint

/-- The span of a key on its line: behind the blanks at the start. -/
def keySpan (n : Nat) (line name : Text) : Span :=
  ⟨n, (line.takeWhile isBlank).length, (line.takeWhile isBlank).length + name.length⟩

/-- The span of the trimmed value behind a key and its colon. -/
def valueSpan (n : Nat) (key raw : Text) : Span :=
  ⟨n, key.length + 1 + (raw.takeWhile isBlank).length, key.length + 1 + (raw.takeWhile isBlank).length + (trim raw).length⟩

/-- The page has the issue. -/
inductive Due (r : Resolver) (page : Text) : Issue → Prop
  | unclosed {b : Block} (hblock : locateBlock page = some b) (hlast : b.last = none) :
      Due r page ⟨⟨0, 0, (lineAt page 0).length⟩, .unclosedFrontmatter⟩
  | duplicateKey {before after : List (Nat × Text)} {n : Nat} {name : Text}
      (hfields : declaredFields page = before ++ (n, name) :: after) (hname : name ∈ before.map Prod.snd) :
      Due r page ⟨keySpan n (lineAt page n) name, .duplicateKey name⟩
  | invalidDate {n : Nat} {name key raw : Text} (hfield : (n, name) ∈ declaredFields page)
      (hname : name ∈ ["date".toList, "published_date".toList, "updated".toList])
      (hline : lineAt page n = key ++ ':' :: raw) (hkey : ':' ∉ key) (hvalue : unquoteValue (trim raw) ≠ [])
      (hdate : isDate (unquoteValue (trim raw)) = false) :
      Due r page ⟨valueSpan n key raw, .invalidDate name (unquoteValue (trim raw))⟩
  | brokenWikilink {n : Nat} {line : Text} {l : Wikilink} (hline : (n, line) ∈ proseLines page)
      (hl : l ∈ findWikilinks line) (hslug : r.slug l.slug = false) :
      Due r page ⟨⟨n, l.first, l.last⟩, .brokenWikilink l.target⟩
  | unknownMention {n : Nat} {line : Text} {m : Mention} (hline : (n, line) ∈ proseLines page)
      (hm : m ∈ findMentions line) (hhandle : r.handle m.handle = false) :
      Due r page ⟨⟨n, m.first, m.last⟩, .unknownMention m.handle⟩

/-! ### Declared fields -/

variable {r : Resolver} {page line : Text} {n : Nat} {i : Issue}

theorem declaredName?_eq_some {name : Text} (h : declaredName? line = some name) :
    ∃ key raw, line = key ++ ':' :: raw ∧ ':' ∉ key ∧ name = trim key ∧ name ≠ [] := by
  unfold declaredName? at h
  split at h
  · cases h
  split at h
  · cases h
  · rename_i key raw hcut
    split at h
    · cases h
    · rename_i hne
      obtain ⟨hline, hkey⟩ := cutAtChar_eq_some_iff.1 hcut
      cases h
      exact ⟨key, raw, hline, hkey, rfl, by simpa using hne⟩

/-- The name that a line declares stands behind the blanks at its start. -/
theorem exists_name_append {name : Text} (h : declaredName? line = some name) :
    ∃ c s rest, name = c :: s ∧ isBlank c = false ∧ line = line.takeWhile isBlank ++ (c :: s ++ rest) := by
  obtain ⟨key, raw, hline, -, hname, hne⟩ := declaredName?_eq_some h
  obtain ⟨blanks, -, hkey⟩ := exists_trim_append key
  obtain ⟨c, s, hcons⟩ := List.exists_cons_of_ne_nil hne
  have hc : isBlank c = false := by
    apply isBlank_of_mem_head?_trim (t := key)
    rw [← hname, hcons]
    rfl
  have hwhole : line = key.takeWhile isBlank ++ (c :: (s ++ (blanks ++ ':' :: raw))) := by
    rw [hline]
    conv => lhs; rw [hkey, ← hname, hcons]
    simp
  have hindent : line.takeWhile isBlank = key.takeWhile isBlank := by
    rw [hwhole]
    exact takeWhile_append_cons (fun d hd => List.mem_takeWhile_imp hd) hc _
  refine ⟨c, s, blanks ++ ':' :: raw, hcons, hc, ?_⟩
  rw [hindent, List.cons_append]
  exact hwhole

/-- So the first place where it occurs is where it is declared. -/
theorem cutAt_name {name : Text} (h : declaredName? line = some name) :
    ((cutAt name line).map (·.1.length)).getD 0 = (line.takeWhile isBlank).length := by
  obtain ⟨c, s, rest, rfl, hc, hline⟩ := exists_name_append h
  have hindent : c ∉ line.takeWhile isBlank := by
    intro hmem
    rw [List.mem_takeWhile_imp hmem] at hc
    cases hc
  have hcut := cutAt_append hindent s rest
  rw [← hline] at hcut
  rw [hcut]
  rfl

theorem lineAt_of_getElem? (h : (lines page)[n]? = some line) : n < (lines page).length ∧ lineAt page n = line := by
  refine ⟨(List.getElem?_eq_some_iff.1 h).1, ?_⟩
  unfold lineAt
  rw [h]
  rfl

theorem line_of_mem_declaredFields {name : Text} (h : (n, name) ∈ declaredFields page) :
    n < (lines page).length ∧ declaredName? (lineAt page n) = some name := by
  unfold declaredFields at h
  split at h
  · cases h
  obtain ⟨⟨k, line⟩, hline, hfield⟩ := List.mem_filterMap.1 h
  simp only at hfield
  split at hfield
  · obtain ⟨name', hname, heq⟩ := Option.map_eq_some_iff.1 hfield
    cases heq
    have hget : (lines page)[n]? = some line := by simpa using (mem_numberFrom hline).2
    obtain ⟨hn, rfl⟩ := lineAt_of_getElem? hget
    exact ⟨hn, hname⟩
  · cases hfield

/-! ### What each check finds -/

theorem mem_unclosed : i ∈ unclosed page ↔ ∃ b, locateBlock page = some b ∧ b.last = none ∧
    i = ⟨⟨0, 0, (lineAt page 0).length⟩, .unclosedFrontmatter⟩ := by
  have hfirst : ∀ b, locateBlock page = some b → b.first = 0 := by
    intro b hb
    unfold locateBlock blockOfLines at hb
    split at hb
    · cases hb
    · split at hb
      · cases hb
        rfl
      · cases hb
  unfold unclosed
  split
  · rename_i first hb
    obtain rfl : first = 0 := hfirst _ hb
    rw [List.mem_singleton, hb]
    simp
  · rename_i hb
    constructor
    · intro hi
      cases hi
    · rintro ⟨⟨first, last⟩, hblock, rfl, -⟩
      exact absurd hblock (hb first)

theorem mem_invalidDate {name : Text} : i ∈ invalidDate n line name ↔
    ∃ key raw, (line = key ++ ':' :: raw ∧ ':' ∉ key) ∧ unquoteValue (trim raw) ≠ [] ∧
      isDate (unquoteValue (trim raw)) = false ∧
      i = ⟨valueSpan n key raw, .invalidDate name (unquoteValue (trim raw))⟩ := by
  unfold invalidDate
  simp only [← cutAtChar_eq_some_iff]
  cases hcut : cutAtChar ':' line with
  | none => simp
  | some cut =>
    obtain ⟨key, raw⟩ := cut
    obtain ⟨hline, -⟩ := cutAtChar_eq_some_iff.1 hcut
    have hfirst : line.length - (trimStart raw).length = key.length + 1 + (raw.takeWhile isBlank).length := by
      have hraw := congrArg List.length (takeWhile_append_trimStart raw)
      rw [List.length_append] at hraw
      rw [hline, List.length_append, List.length_cons]
      omega
    simp only [hfirst]
    by_cases hvalue : unquoteValue (trim raw) = []
    · simp [hvalue]
    · by_cases hdate : isDate (unquoteValue (trim raw)) = true
      · simp [hdate]
      · simp [hvalue, hdate, valueSpan]

/-- What is wrong with a declared field, where `seen` holds the names in front of it. -/
def Faulty (page : Text) (seen : List Text) (f : Nat × Text) (i : Issue) : Prop :=
  (f.2 ∈ seen ∧ i = ⟨keySpan f.1 (lineAt page f.1) f.2, .duplicateKey f.2⟩) ∨
    (f.2 ∈ dateFields ∧ i ∈ invalidDate f.1 (lineAt page f.1) f.2)

theorem faulty_congr {seen seen' : List Text} (h : ∀ name, name ∈ seen ↔ name ∈ seen') {f : Nat × Text} :
    Faulty page seen f i ↔ Faulty page seen' f i := by
  unfold Faulty
  rw [h]

theorem Faulty.line_eq {seen : List Text} {f : Nat × Text} (h : Faulty page seen f i) : i.span.line = f.1 := by
  rcases h with ⟨-, rfl⟩ | ⟨-, hi⟩
  · rfl
  · obtain ⟨key, raw, -, -, -, rfl⟩ := mem_invalidDate.1 hi
    rfl

theorem Faulty.problem_eq {seen : List Text} {f : Nat × Text} (h : Faulty page seen f i) :
    i.problem = .duplicateKey f.2 ∨ ∃ value, i.problem = .invalidDate f.2 value := by
  rcases h with ⟨-, rfl⟩ | ⟨-, hi⟩
  · exact .inl rfl
  · obtain ⟨key, raw, -, -, -, rfl⟩ := mem_invalidDate.1 hi
    exact .inr ⟨_, rfl⟩

theorem nodup_invalidDate (n : Nat) (line name : Text) : (invalidDate n line name).Nodup := by
  unfold invalidDate
  split
  · simp
  · simp only
    split <;> simp

/-- The checks of the first field, and then those of the others with its name in front of them. -/
theorem fieldsFrom_cons (seen : List Text) {f : Nat × Text} (fields : List (Nat × Text))
    (hf : declaredName? (lineAt page f.1) = some f.2) :
    ∃ found, fieldsFrom page seen (f :: fields) = found ++ fieldsFrom page (f.2 :: seen) fields ∧ found.Nodup ∧
      ∀ i, i ∈ found ↔ Faulty page seen f i := by
  refine ⟨_, rfl, ?_, ?_⟩
  · rw [List.nodup_append]
    refine ⟨?_, ?_, ?_⟩
    · split <;> simp
    · split
      · exact nodup_invalidDate _ _ _
      · exact .nil
    · intro a ha b hb hab
      split at ha
      · split at hb
        · obtain ⟨key, raw, -, -, -, rfl⟩ := mem_invalidDate.1 hb
          rw [List.mem_singleton, hab] at ha
          exact Problem.noConfusion (congrArg Issue.problem ha)
        · cases hb
      · cases ha
  · intro i
    simp only [List.mem_append, cutAt_name hf]
    unfold Faulty
    refine or_congr ?_ ?_
    · by_cases hseen : f.2 ∈ seen <;> simp [hseen, keySpan]
    · by_cases hdate : f.2 ∈ dateFields <;> simp [hdate]

theorem mem_fieldsFrom {seen : List Text} {fields : List (Nat × Text)}
    (hfields : ∀ f ∈ fields, declaredName? (lineAt page f.1) = some f.2) :
    i ∈ fieldsFrom page seen fields ↔
      ∃ before f after, fields = before ++ f :: after ∧ Faulty page (before.map Prod.snd ++ seen) f i := by
  induction fields generalizing seen with
  | nil => simp [fieldsFrom]
  | cons f fields ih =>
    rw [List.forall_mem_cons] at hfields
    obtain ⟨found, hfound, -, hmem⟩ := fieldsFrom_cons seen fields hfields.1
    rw [hfound, List.mem_append, hmem, ih hfields.2]
    -- the name of `f` is the last of those in front of a later field
    have hseen : ∀ (before : List (Nat × Text)) (g : Nat × Text),
        Faulty page (before.map Prod.snd ++ f.2 :: seen) g i ↔ Faulty page ((f :: before).map Prod.snd ++ seen) g i := by
      intro before g
      exact faulty_congr fun name => by simp [or_left_comm]
    constructor
    · rintro (hi | ⟨before, g, after, rfl, hi⟩)
      · exact ⟨[], f, fields, rfl, hi⟩
      · exact ⟨f :: before, g, after, rfl, (hseen before g).1 hi⟩
    · rintro ⟨before, g, after, hcut, hi⟩
      cases before with
      | nil =>
        cases hcut
        exact .inl hi
      | cons f' before =>
        cases hcut
        exact .inr ⟨before, g, after, rfl, (hseen before g).2 hi⟩

theorem mem_references : i ∈ references r n line ↔
    (∃ l ∈ findWikilinks line, r.slug l.slug = false ∧ i = ⟨⟨n, l.first, l.last⟩, .brokenWikilink l.target⟩) ∨
    (∃ m ∈ findMentions line, r.handle m.handle = false ∧ i = ⟨⟨n, m.first, m.last⟩, .unknownMention m.handle⟩) := by
  unfold references
  simp only [List.mem_append, List.mem_map, List.mem_filter, Bool.not_eq_true', and_assoc]
  simp only [eq_comm]

theorem mem_check_iff : i ∈ check r page ↔ Due r page i := by
  have hdeclared : ∀ f ∈ declaredFields page, declaredName? (lineAt page f.1) = some f.2 :=
    fun f hf => (line_of_mem_declaredFields hf).2
  unfold check
  rw [List.mem_mergeSort, List.mem_append, List.mem_append, List.mem_flatMap, mem_unclosed, mem_fieldsFrom hdeclared]
  constructor
  · rintro ((⟨b, hblock, hlast, rfl⟩ | ⟨before, ⟨n, name⟩, after, hfields, hi⟩) | ⟨⟨n, line⟩, hline, hi⟩)
    · exact .unclosed hblock hlast
    · rcases hi with ⟨hname, rfl⟩ | ⟨hname, hi⟩
      · exact .duplicateKey hfields (by simpa using hname)
      · obtain ⟨key, raw, ⟨hline, hkey⟩, hvalue, hdate, rfl⟩ := mem_invalidDate.1 hi
        exact .invalidDate (by simp [hfields]) hname hline hkey hvalue hdate
    · rcases mem_references.1 hi with ⟨l, hl, hslug, rfl⟩ | ⟨m, hm, hhandle, rfl⟩
      · exact .brokenWikilink hline hl hslug
      · exact .unknownMention hline hm hhandle
  · intro hi
    cases hi with
    | unclosed hblock hlast => exact .inl (.inl ⟨_, hblock, hlast, rfl⟩)
    | duplicateKey hfields hname =>
      exact .inl (.inr ⟨_, _, _, hfields, .inl ⟨by simpa using hname, rfl⟩⟩)
    | invalidDate hfield hname hline hkey hvalue hdate =>
      obtain ⟨before, after, hfields⟩ := List.append_of_mem hfield
      exact .inl (.inr ⟨before, _, after, hfields,
        .inr ⟨hname, mem_invalidDate.2 ⟨_, _, ⟨hline, hkey⟩, hvalue, hdate, rfl⟩⟩⟩)
    | brokenWikilink hline hl hslug =>
      exact .inr ⟨_, hline, mem_references.2 (.inl ⟨_, hl, hslug, rfl⟩)⟩
    | unknownMention hline hm hhandle =>
      exact .inr ⟨_, hline, mem_references.2 (.inr ⟨_, hm, hhandle, rfl⟩)⟩

/-! ### Each issue once -/

/-- What the checks look at stands at different places. -/
structure Apart (page : Text) : Prop where
  fields : (declaredFields page).Pairwise fun f g => f.1 < g.1
  prose : (proseLines page).Pairwise fun l m => l.1 < m.1
  links : ∀ l ∈ proseLines page, (findWikilinks l.2).Pairwise fun a b => a.first < b.first
  mentions : ∀ l ∈ proseLines page, (findMentions l.2).Pairwise fun a b => a.first < b.first

theorem pairwise_numberFrom {α : Type} (k : Nat) (l : List α) : (numberFrom k l).Pairwise fun x y => x.1 < y.1 := by
  induction l generalizing k with
  | nil => exact .nil
  | cons a l ih =>
    refine List.pairwise_cons.2 ⟨?_, ih (k + 1)⟩
    rintro ⟨n, b⟩ hb
    have := (mem_numberFrom hb).1
    show k < n
    omega

theorem pairwise_first_of_laid {α : Type} {first last : α → Nat} {mark : Char} {xs : List α}
    (h : Laid first last mark line 0 0 xs) : xs.Pairwise fun x y => first x < first y := by
  refine h.apart.imp_of_mem ?_
  intro x y hx _ hxy
  have := h.inside x hx
  omega

theorem apart (page : Text) : Apart page := by
  have hlines : (numberedLines page).Pairwise fun x y => x.1 < y.1 := pairwise_numberFrom 0 _
  refine ⟨?_, ?_, fun l _ => pairwise_first_of_laid (laid_findWikilinks l.2),
    fun l _ => pairwise_first_of_laid (laid_findMentions l.2)⟩
  · unfold declaredFields
    split
    · exact .nil
    · rw [List.pairwise_filterMap]
      refine hlines.imp ?_
      rintro ⟨n, line⟩ ⟨n', line'⟩ hlt f hf g hg
      simp only [Option.ite_none_right_eq_some, Option.map_eq_some_iff] at hf hg
      obtain ⟨-, -, -, rfl⟩ := hf
      obtain ⟨-, -, -, rfl⟩ := hg
      exact hlt
  · refine List.Pairwise.sublist (proseFrom_sublist none _) ?_
    unfold uncoveredLines
    split
    · exact hlines.sublist List.filter_sublist
    · exact hlines

theorem nodup_fieldsFrom {seen : List Text} {fields : List (Nat × Text)}
    (hfields : ∀ f ∈ fields, declaredName? (lineAt page f.1) = some f.2)
    (hapart : fields.Pairwise fun f g => f.1 < g.1) : (fieldsFrom page seen fields).Nodup := by
  induction fields generalizing seen with
  | nil => exact .nil
  | cons f fields ih =>
    rw [List.forall_mem_cons] at hfields
    rw [List.pairwise_cons] at hapart
    obtain ⟨found, hfound, hnodup, hmem⟩ := fieldsFrom_cons seen fields hfields.1
    rw [hfound, List.nodup_append]
    refine ⟨hnodup, ih hfields.2 hapart.2, ?_⟩
    rintro i hi j hj rfl
    obtain ⟨before, g, after, rfl, hg⟩ := (mem_fieldsFrom hfields.2).1 hj
    have hlt : f.1 < g.1 := hapart.1 g (by simp)
    have hline : f.1 = g.1 := ((hmem i).1 hi).line_eq.symm.trans hg.line_eq
    omega

theorem nodup_references (r : Resolver) (n : Nat) (line : Text) : (references r n line).Nodup := by
  have hlinks := pairwise_first_of_laid (laid_findWikilinks line)
  have hmentions := pairwise_first_of_laid (laid_findMentions line)
  unfold references
  rw [List.nodup_append]
  refine ⟨?_, ?_, ?_⟩
  · refine List.pairwise_map.2 ((hlinks.sublist List.filter_sublist).imp ?_)
    intro l l' hlt heq
    have hfirst : l.first = l'.first := congrArg (fun i : Issue => i.span.first) heq
    omega
  · refine List.pairwise_map.2 ((hmentions.sublist List.filter_sublist).imp ?_)
    intro m m' hlt heq
    have hfirst : m.first = m'.first := congrArg (fun i : Issue => i.span.first) heq
    omega
  · rintro i hi j hj rfl
    obtain ⟨l, -, rfl⟩ := List.mem_map.1 hi
    obtain ⟨m, -, heq⟩ := List.mem_map.1 hj
    exact Problem.noConfusion (congrArg Issue.problem heq)

/-- The problems of links and mentions. -/
def IsReference : Problem → Prop
  | .brokenWikilink _ | .unknownMention _ => True
  | _ => False

theorem isReference_of_mem_references (h : i ∈ references r n line) : IsReference i.problem := by
  rcases mem_references.1 h with ⟨l, -, -, rfl⟩ | ⟨m, -, -, rfl⟩ <;> trivial

theorem line_of_mem_references (h : i ∈ references r n line) : i.span.line = n := by
  rcases mem_references.1 h with ⟨l, -, -, rfl⟩ | ⟨m, -, -, rfl⟩ <;> rfl

theorem nodup_check (r : Resolver) (page : Text) : (check r page).Nodup := by
  have hapart := apart page
  have hdeclared : ∀ f ∈ declaredFields page, declaredName? (lineAt page f.1) = some f.2 :=
    fun f hf => (line_of_mem_declaredFields hf).2
  unfold check
  rw [(List.mergeSort_perm _ _).nodup_iff, List.nodup_append, List.nodup_append, List.nodup_flatMap]
  refine ⟨⟨?_, nodup_fieldsFrom hdeclared hapart.fields, ?_⟩, ⟨fun l _ => nodup_references r l.1 l.2, ?_⟩, ?_⟩
  · unfold unclosed
    split <;> simp
  · rintro i hi j hj rfl
    obtain ⟨b, -, -, rfl⟩ := mem_unclosed.1 hi
    obtain ⟨before, f, after, -, hf⟩ := (mem_fieldsFrom hdeclared).1 hj
    rcases hf.problem_eq with hproblem | ⟨value, hproblem⟩ <;> exact Problem.noConfusion hproblem
  · refine hapart.prose.imp ?_
    intro l m hlt i hi hj
    have hl := line_of_mem_references hi
    have hm := line_of_mem_references hj
    omega
  · rintro i hi j hj rfl
    obtain ⟨l, -, hj⟩ := List.mem_flatMap.1 hj
    have hreference := isReference_of_mem_references hj
    rcases List.mem_append.1 hi with hi | hi
    · obtain ⟨b, -, -, rfl⟩ := mem_unclosed.1 hi
      exact hreference
    · obtain ⟨before, f, after, -, hf⟩ := (mem_fieldsFrom hdeclared).1 hi
      rcases hf.problem_eq with hproblem | ⟨value, hproblem⟩ <;> rw [hproblem] at hreference <;> exact hreference

/-! ### Where the issues are -/

/-- The text on a line that a problem is about. -/
def Shows (line : Text) : Problem → Text → Prop
  | .unclosedFrontmatter, t => t = line
  | .duplicateKey name, t => t = name
  | .invalidDate _ value, t =>
    ∃ key raw, (line = key ++ ':' :: raw ∧ ':' ∉ key) ∧ t = trim raw ∧ value = unquoteValue (trim raw)
  | .brokenWikilink target, t =>
    ∃ w, t = '[' :: '[' :: (w ++ [']', ']']) ∧ ('[' ∉ w ∧ ']' ∉ w) ∧ target = trim (beforeBar w)
  | .unknownMention handle, t => t = '@' :: handle

/-- The span of an issue lies on a line of the page and covers the text that its problem is about. -/
structure InPlace (page : Text) (i : Issue) : Prop where
  line_lt : i.span.line < (lines page).length
  first_le : i.span.first ≤ i.span.last
  last_le : i.span.last ≤ (lineAt page i.span.line).length
  shows : Shows (lineAt page i.span.line) i.problem (stretch (lineAt page i.span.line) i.span.first i.span.last)

private theorem inPlace_of_append {p : Problem} {before mid after : Text} (hn : n < (lines page).length)
    (hline : lineAt page n = before ++ (mid ++ after)) (hshows : Shows (lineAt page n) p mid) :
    InPlace page ⟨⟨n, before.length, before.length + mid.length⟩, p⟩ := by
  refine ⟨hn, Nat.le_add_right _ _, ?_, ?_⟩
  · show before.length + mid.length ≤ (lineAt page n).length
    rw [hline, List.length_append, List.length_append]
    omega
  · show Shows (lineAt page n) p (stretch (lineAt page n) before.length (before.length + mid.length))
    have hstretch := stretch_append before mid after
    rw [← hline] at hstretch
    rwa [hstretch]

theorem Due.inPlace (h : Due r page i) : InPlace page i := by
  cases h with
  | unclosed hblock hlast =>
    have hn : 0 < (lines page).length := by
      unfold locateBlock at hblock
      cases hlines : lines page with
      | nil =>
        rw [hlines] at hblock
        cases hblock
      | cons first rest => simp
    have hwhole : lineAt page 0 = [] ++ (lineAt page 0 ++ []) := by simp
    have hplace := inPlace_of_append (p := .unclosedFrontmatter) hn hwhole rfl
    simpa using hplace
  | @duplicateKey before after n name hfields hname =>
    have hfield : (n, name) ∈ declaredFields page := by simp [hfields]
    obtain ⟨hn, hdeclared⟩ := line_of_mem_declaredFields hfield
    obtain ⟨c, s, rest, rfl, -, hline⟩ := exists_name_append hdeclared
    exact inPlace_of_append hn hline rfl
  | @invalidDate n name key raw hfield hname hline hkey hvalue hdate =>
    obtain ⟨hn, -⟩ := line_of_mem_declaredFields hfield
    obtain ⟨blanks, -, hraw⟩ := exists_trim_append raw
    have hwhole : lineAt page n = (key ++ ':' :: raw.takeWhile isBlank) ++ (trim raw ++ blanks) := by
      rw [hline]
      conv => lhs; rw [hraw]
      simp
    have hplace := inPlace_of_append (p := .invalidDate name (unquoteValue (trim raw))) hn hwhole
      ⟨key, raw, ⟨hline, hkey⟩, rfl, rfl⟩
    have hlength : (key ++ ':' :: raw.takeWhile isBlank).length = key.length + 1 + (raw.takeWhile isBlank).length := by
      simp
      omega
    rw [hlength] at hplace
    exact hplace
  | @brokenWikilink n line l hline hl hslug =>
    obtain ⟨hn, rfl⟩ := lineAt_of_getElem? (line_of_mem_proseLines hline).1
    obtain ⟨w, hw⟩ := mem_findWikilinks_iff.1 hl
    have hinside := (laid_findWikilinks _).inside l hl
    exact ⟨hn, by simp; omega, hw.inside, w, hw.text, ⟨hw.noOpening, hw.noClosing⟩, hw.target⟩
  | @unknownMention n line m hline hm hhandle =>
    obtain ⟨hn, rfl⟩ := lineAt_of_getElem? (line_of_mem_proseLines hline).1
    have hinside := (laid_findMentions _).inside m hm
    exact ⟨hn, by simp; omega, by simp; omega, (mem_findMentions_iff.1 hm).text⟩

/-- The checks report the issues of a page, each once and in order. -/
structure ChecksExactly (r : Resolver) (page : Text) : Prop where
  found_iff : ∀ i, i ∈ check r page ↔ Due r page i
  nodup : (check r page).Nodup
  /-- So there is one issue for each occurrence: no two occurrences stand at the same place. -/
  apart : Apart page
  sorted : (check r page).Pairwise fun a b => a.rank ≤ b.rank
  inPlace : ∀ i ∈ check r page, InPlace page i

theorem pairwise_check (r : Resolver) (page : Text) : (check r page).Pairwise fun a b => a.rank ≤ b.rank := by
  have hsorted := @List.pairwise_mergeSort _ Issue.notAfter
    (fun a b c hab hbc => Issue.notAfter_iff.2 ((Issue.notAfter_iff.1 hab).trans (Issue.notAfter_iff.1 hbc)))
    (fun a b => by simpa only [Bool.or_eq_true, Issue.notAfter_iff] using le_total a.rank b.rank)
  exact (hsorted _).imp Issue.notAfter_iff.1

theorem checks_exactly (r : Resolver) (page : Text) : ChecksExactly r page where
  found_iff _ := mem_check_iff
  nodup := nodup_check r page
  apart := apart page
  sorted := pairwise_check r page
  inPlace _ hi := (mem_check_iff.1 hi).inPlace

/-- A key behind a blank that is no space, declared again; a date that is none; a link and a mention that lead nowhere. -/
example :
    check ⟨fun _ => false, fun _ => false⟩ "---\ndate: ''\n\u00a0date : 'soon' \n---\n@a [[b|c]]".toList =
      [⟨⟨2, 1, 5⟩, .duplicateKey "date".toList⟩, ⟨⟨2, 8, 14⟩, .invalidDate "date".toList "soon".toList⟩,
        ⟨⟨4, 0, 2⟩, .unknownMention "a".toList⟩, ⟨⟨4, 3, 10⟩, .brokenWikilink "b".toList⟩] := by cbv

end Lint

end WikiSite
