import WikiSite.Site.Metadata
import WikiSite.Proofs.Page.BlockLines
import WikiSite.Proofs.Text.Lines

/-!
# Metadata and body

A page is cut into metadata and body by its lines with their ends, while everything else goes by the lines that
`locateBlock` counts. `SplitAt` says that the two agree: the parts make up the page, the metadata are the lines between
the delimiters and the body the lines behind the closing one, whatever stands at the end of a line. A page is read from
these parts (`readPage_splits`).
-/

namespace WikiSite

/-- The page is cut at the block that closes at line `last`. -/
structure SplitAt (page : Text) (last : Nat) (opening yaml closing body : Text) : Prop where
  page_eq : page = opening ++ (yaml ++ (closing ++ body))
  /-- In front of the body stand the lines up to the closing delimiter, with their ends. -/
  front_eq : opening ++ (yaml ++ closing) = ((linesWithEnds page).take (last + 1)).flatten
  yaml_eq : linesWithEnds yaml = ((linesWithEnds page).take last).drop 1
  body_eq : linesWithEnds body = (linesWithEnds page).drop (last + 1)
  lines_body : lines body = (lines page).drop (last + 1)
  last_eq : last = (lines yaml).length + 1
  inside_iff : ∀ n, inFrontmatter page n = true ↔ 0 < n ∧ n < last
  inside_eq : ((numberedLines page).filter fun l => inFrontmatter page l.1) = numberFrom 1 (lines yaml)
  declared_eq : declaredFields page = declaredIn (numberFrom 1 (lines yaml))
  prose_eq : proseLines page = proseFrom none (numberFrom (last + 1) (lines body))

theorem exists_splitAt {page : Text} {b : Block} {last : Nat} (h : locateBlock page = some b)
    (hlast : b.last = some last) : ∃ opening yaml closing body, SplitAt page last opening yaml closing body := by
  obtain ⟨f, rest, hfits, hlines, rfl⟩ :
      ∃ f rest, FrontLines.Fits f ∧ lines page = f.lines ++ rest ∧ last = f.inner.length + 1 := by
    unfold locateBlock at h
    generalize lines page = ls at h
    cases blockOfLines_eq_iff.1 h with
    | @closed f hfits rest => exact ⟨f, rest, hfits, rfl, (Option.some.inj hlast).symm⟩
    | unclosed => cases hlast
  -- the same lines with their ends
  have hwhole := hlines
  unfold lines at hwhole
  rw [FrontLines.lines_append, List.map_eq_cons_iff] at hwhole
  obtain ⟨opening, _, hends, -, hwhole⟩ := hwhole
  obtain ⟨inner, _, rfl, hinner, hwhole⟩ := List.map_eq_append_iff.1 hwhole
  obtain ⟨closing, after, rfl, -, hafter⟩ := List.map_eq_cons_iff.1 hwhole
  have hlength : inner.length = f.inner.length := by rw [← hinner, List.length_map]
  obtain ⟨hended, hbody⟩ := linesWithEnds_parts (opening :: inner) hends
  have hyaml : linesWithEnds inner.flatten = inner :=
    (areLines_of_isEnded (List.forall_mem_cons.1 hended).2).linesWithEnds_flatten
  have hyamlLines : lines inner.flatten = f.inner := by rw [lines, hyaml, hinner]
  have hbodyLines : lines after.flatten = rest := by rw [lines, hbody, hafter]
  have hinside := insideLines_closed hfits hlines
  refine ⟨opening, inner.flatten, closing, after.flatten, ?_⟩
  exact {
    page_eq := by
      have hflatten := flatten_linesWithEnds page
      rw [hends] at hflatten
      simpa using hflatten.symm
    front_eq := by
      rw [hends, ← hlength, List.take_succ_cons, List.take_length_add_append 1]
      simp
    yaml_eq := by
      rw [hyaml, hends, ← hlength]
      simp
    body_eq := by
      rw [hbody, hends, ← hlength]
      simp [List.drop_append]
    lines_body := by
      rw [hbodyLines, hlines, List.drop_left' (by rw [FrontLines.length_lines])]
    last_eq := by rw [hyamlLines]
    inside_iff := by
      intro n
      rw [inFrontmatter_closed hfits hlines, FrontLines.contains_block]
    inside_eq := by rw [hinside, hyamlLines]
    declared_eq := by rw [declaredFields_eq, hinside, hyamlLines]
    prose_eq := by
      unfold proseLines
      rw [uncoveredLines_closed hfits hlines, hbodyLines, FrontLines.length_lines] }

theorem SplitAt.splitAtBlock_eq {page opening yaml closing body : Text} {last : Nat}
    (h : SplitAt page last opening yaml closing body) : splitAtBlock page last = (yaml, body) := by
  simp only [splitAtBlock, ← h.yaml_eq, ← h.body_eq, flatten_linesWithEnds]

/-- What is read from the text between the delimiters and the body behind them, in the file at a path. -/
def readParts (path : Path) (yaml body : Text) : Except FrontmatterError (Metadata × Text) :=
  if (trim yaml).isEmpty then .ok ([], body)
  else
    match Yaml.readMapping yaml with
    | some fields => .ok (fields, body)
    | none => .error (.malformed (Path.display path))

theorem eq_of_readParts {path : Path} {yaml body rest : Text} {fields : Metadata}
    (h : readParts path yaml body = .ok (fields, rest)) : rest = body := by
  unfold readParts at h
  split at h
  · cases h
    rfl
  · split at h
    · cases h
      rfl
    · cases h

theorem eq_malformed_of_readParts {path : Path} {yaml body : Text} {e : FrontmatterError}
    (h : readParts path yaml body = .error e) : e = .malformed (Path.display path) := by
  unfold readParts at h
  split at h
  · cases h
  · split at h
    · cases h
    · cases h
      rfl

/-- A page without a block is all body, a block that is never closed is an error, and a closed block parts the page. -/
structure Splits (path : Path) (page : Text) : Prop where
  absent : locateBlock page = none → readPage path page = .ok ([], page)
  unclosed_iff : ∀ p, readPage path page = .error (.unclosed p) ↔
    p = Path.display path ∧ ∃ b, locateBlock page = some b ∧ b.last = none
  closed : ∀ b last, locateBlock page = some b → b.last = some last →
    ∃ opening yaml closing body, SplitAt page last opening yaml closing body ∧
      readPage path page = readParts path yaml body ∧
        ∀ fields rest, readPage path page = .ok (fields, rest) → rest = body

theorem readPage_closed (path : Path) {page opening yaml closing body : Text} {b : Block} {last : Nat}
    (h : locateBlock page = some b) (hlast : b.last = some last)
    (hsplit : SplitAt page last opening yaml closing body) : readPage path page = readParts path yaml body := by
  obtain ⟨first, _⟩ := b
  obtain rfl := hlast
  unfold readPage
  rw [h]
  simp only [hsplit.splitAtBlock_eq]
  rfl

theorem readPage_splits (path : Path) (page : Text) : Splits path page where
  absent h := by
    unfold readPage
    rw [h]
  unclosed_iff p := by
    match hblock : locateBlock page with
    | none =>
      unfold readPage
      rw [hblock]
      simp
    | some ⟨first, none⟩ =>
      unfold readPage
      rw [hblock]
      simp [eq_comm]
    | some ⟨first, some last⟩ =>
      obtain ⟨opening, yaml, closing, body, hsplit⟩ := exists_splitAt hblock rfl
      have hne : readParts path yaml body ≠ .error (.unclosed p) := fun h => nomatch eq_malformed_of_readParts h
      rw [readPage_closed path hblock rfl hsplit]
      simp [hne]
  closed b last h hlast := by
    obtain ⟨opening, yaml, closing, body, hsplit⟩ := exists_splitAt h hlast
    have hread := readPage_closed path h hlast hsplit
    refine ⟨opening, yaml, closing, body, hsplit, hread, ?_⟩
    intro fields rest hok
    exact eq_of_readParts (hread.symm.trans hok)

/-- The file that an error is about. -/
def FrontmatterError.path : FrontmatterError → Text
  | .unclosed path => path
  | .malformed path => path

theorem path_of_readPage {path : Path} {page : Text} {e : FrontmatterError} (h : readPage path page = .error e) :
    e.path = Path.display path := by
  match hblock : locateBlock page with
  | none =>
    unfold readPage at h
    rw [hblock] at h
    cases h
  | some ⟨first, none⟩ =>
    unfold readPage at h
    rw [hblock] at h
    cases h
    rfl
  | some ⟨first, some last⟩ =>
    obtain ⟨opening, yaml, closing, body, hsplit⟩ := exists_splitAt hblock rfl
    rw [readPage_closed path hblock rfl hsplit] at h
    rw [eq_malformed_of_readParts h]
    rfl

/-- A mark in front, carriage returns before and without line feeds, and blanks behind the closing delimiter. -/
example :
    ((readPage [] "\ufeff---\r\na: b\r\n--- \t\r\ntext\r".toList).toOption.map (·.2)) = some "text\r".toList := by
  decide +kernel

end WikiSite
