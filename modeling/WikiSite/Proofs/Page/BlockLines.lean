import WikiSite.Page.Field
import WikiSite.Proofs.Page.Stretches

/-!
# The lines of the frontmatter block

The lines of a page have no block in front, or they start with a closed block, or with a block that is never closed.
`BlockStands` tells the three apart by the lines alone, and a block is found exactly as it stands
(`blockOfLines_eq_iff`). From this follows which lines belong to what: behind a closed block stand the lines among which
prose is looked for (`uncoveredLines_closed`), and between its delimiters those that may declare fields
(`insideLines_closed`).
-/

namespace WikiSite

/-- Whether the line opens a block when it is the first one. -/
def opensBlock (line : Text) : Bool := isDelimiter (line.dropWhile (· == byteOrderMark))

/-- The lines of a closed block: its delimiters and what stands between them. -/
structure FrontLines where
  opening : Text
  inner : List Text
  closing : Text

namespace FrontLines

def lines (f : FrontLines) : List Text := f.opening :: (f.inner ++ [f.closing])

/-- The block that these lines are at the start of a page. -/
def block (f : FrontLines) : Block := ⟨0, some (f.inner.length + 1)⟩

/-- The first delimiter behind the opening line closes the block. -/
structure Fits (f : FrontLines) : Prop where
  opening : opensBlock f.opening = true
  inner : ∀ line ∈ f.inner, isDelimiter line = false
  closing : isDelimiter f.closing = true

theorem length_lines (f : FrontLines) : f.lines.length = f.inner.length + 2 := by simp [lines]

theorem lines_append (f : FrontLines) (rest : List Text) :
    f.lines ++ rest = f.opening :: (f.inner ++ f.closing :: rest) := by simp [lines]

theorem covers_block {f : FrontLines} {n : Nat} : f.block.covers n = true ↔ n < f.lines.length := by
  have hcovers : f.block.covers n = true ↔ n ≤ f.inner.length + 1 := by simp [block, Block.covers]
  rw [hcovers, length_lines]
  omega

theorem contains_block {f : FrontLines} {n : Nat} : f.block.contains n = true ↔ 0 < n ∧ n < f.inner.length + 1 := by
  unfold block Block.contains
  rw [Bool.and_eq_true, decide_eq_true_iff, decide_eq_true_iff]

end FrontLines

/-- How the frontmatter stands among the lines of a page. -/
inductive BlockStands : List Text → Option Block → Prop
  | absent {ls : List Text} (h : ∀ line ∈ ls.head?, opensBlock line = false) : BlockStands ls none
  | closed {f : FrontLines} (h : f.Fits) (rest : List Text) :
      BlockStands (f.lines ++ rest) (some f.block)
  | unclosed {opening : Text} {rest : List Text} (hopening : opensBlock opening = true)
      (hrest : ∀ line ∈ rest, isDelimiter line = false) : BlockStands (opening :: rest) (some ⟨0, none⟩)

theorem blockOfLines_cons (opening : Text) (rest : List Text) :
    blockOfLines (opening :: rest) =
      if opensBlock opening then some ⟨0, (rest.findIdx? isDelimiter).map (· + 1)⟩ else none := rfl

theorem findIdx?_closing {f : FrontLines} (h : f.Fits) (rest : List Text) :
    (f.inner ++ f.closing :: rest).findIdx? isDelimiter = some f.inner.length := by
  have hinner : f.inner.findIdx? isDelimiter = none := List.findIdx?_eq_none_iff.2 h.inner
  rw [List.findIdx?_append, hinner, List.findIdx?_cons, if_pos h.closing]
  simp

theorem BlockStands.blockOfLines_eq {ls : List Text} {b : Option Block} (h : BlockStands ls b) : blockOfLines ls = b := by
  cases h with
  | absent h =>
    cases ls with
    | nil => rfl
    | cons opening rest => rw [blockOfLines_cons, if_neg (by simp [h opening rfl])]
  | closed h rest =>
    rw [FrontLines.lines_append, blockOfLines_cons, if_pos h.opening, findIdx?_closing h]
    rfl
  | unclosed hopening hrest =>
    rw [blockOfLines_cons, if_pos hopening, List.findIdx?_eq_none_iff.2 hrest]
    rfl

theorem exists_blockStands (ls : List Text) : ∃ b, BlockStands ls b := by
  cases ls with
  | nil => exact ⟨none, .absent (by simp)⟩
  | cons opening rest =>
    cases hopening : opensBlock opening with
    | false => exact ⟨none, .absent (by simpa using hopening)⟩
    | true =>
      cases hclosing : rest.find? isDelimiter with
      | none => exact ⟨_, .unclosed hopening (by simpa using hclosing)⟩
      | some closing =>
        obtain ⟨hdelimiter, inner, behind, rfl, hinner⟩ := List.find?_eq_some_iff_append.1 hclosing
        have hfits : FrontLines.Fits ⟨opening, inner, closing⟩ := ⟨hopening, by simpa using hinner, hdelimiter⟩
        have hstands := BlockStands.closed hfits behind
        rw [FrontLines.lines_append] at hstands
        exact ⟨_, hstands⟩

/-- A block is found exactly as it stands. -/
theorem blockOfLines_eq_iff {ls : List Text} {b : Option Block} : blockOfLines ls = b ↔ BlockStands ls b := by
  constructor
  · rintro rfl
    obtain ⟨b, hb⟩ := exists_blockStands ls
    rwa [hb.blockOfLines_eq]
  · exact BlockStands.blockOfLines_eq

/-- A line behind the first may be exchanged where both are delimiters or neither is. -/
theorem blockOfLines_exchange {before after : List Text} (hbefore : before ≠ []) {line line' : Text}
    (h : isDelimiter line' = isDelimiter line) :
    blockOfLines (before ++ line' :: after) = blockOfLines (before ++ line :: after) := by
  obtain ⟨opening, before, rfl⟩ := List.exists_cons_of_ne_nil hbefore
  rw [List.cons_append, List.cons_append, blockOfLines_cons, blockOfLines_cons, List.findIdx?_append,
    List.findIdx?_append, List.findIdx?_cons, List.findIdx?_cons, h]

/-- No line between the delimiters is a delimiter. -/
theorem BlockStands.not_isDelimiter {ls : List Text} {b : Block} (h : BlockStands ls (some b)) {n : Nat} {line : Text}
    (hn : b.contains n = true) (hline : ls[n]? = some line) : 0 < n ∧ isDelimiter line = false := by
  cases n with
  | zero =>
    cases h with
    | closed => simp [FrontLines.contains_block] at hn
    | unclosed => simp [Block.contains] at hn
  | succ n =>
    refine ⟨Nat.succ_pos n, ?_⟩
    cases h with
    | closed h rest =>
      rw [FrontLines.contains_block] at hn
      rw [FrontLines.lines_append, List.getElem?_cons_succ, List.getElem?_append_left (by omega)] at hline
      exact h.inner line (List.mem_of_getElem? hline)
    | unclosed hopening hrest =>
      rw [List.getElem?_cons_succ] at hline
      exact hrest line (List.mem_of_getElem? hline)

/-! ### Numbered lines -/

theorem numberFrom_append {α : Type} (n : Nat) (xs ys : List α) :
    numberFrom n (xs ++ ys) = numberFrom n xs ++ numberFrom (n + xs.length) ys := by
  induction xs generalizing n with
  | nil => rfl
  | cons x xs ih =>
    rw [List.cons_append, numberFrom, numberFrom, ih, List.length_cons, List.cons_append]
    congr 3
    omega

theorem bounds_of_mem_numberFrom {α : Type} {k : Nat} {x : Nat × α} {xs : List α} (h : x ∈ numberFrom k xs) :
    k ≤ x.1 ∧ x.1 < k + xs.length := by
  obtain ⟨hle, hget⟩ := mem_numberFrom h
  have hlt := (List.getElem?_eq_some_iff.1 hget).1
  omega

theorem filter_numberFrom_eq_self {α : Type} {k : Nat} {xs : List α} {p : Nat → Bool}
    (h : ∀ n, k ≤ n → n < k + xs.length → p n = true) :
    (numberFrom k xs).filter (fun x => p x.1) = numberFrom k xs := by
  rw [List.filter_eq_self]
  intro x hx
  exact h x.1 (bounds_of_mem_numberFrom hx).1 (bounds_of_mem_numberFrom hx).2

theorem filter_numberFrom_eq_nil {α : Type} {k : Nat} {xs : List α} {p : Nat → Bool}
    (h : ∀ n, k ≤ n → n < k + xs.length → p n = false) : (numberFrom k xs).filter (fun x => p x.1) = [] := by
  rw [List.filter_eq_nil_iff]
  intro x hx
  simp [h x.1 (bounds_of_mem_numberFrom hx).1 (bounds_of_mem_numberFrom hx).2]

/-! ### What belongs to the block -/

variable {page : Text} {f : FrontLines} {rest : List Text}

theorem locateBlock_closed (h : f.Fits) (hlines : lines page = f.lines ++ rest) :
    locateBlock page = some f.block := by
  unfold locateBlock
  rw [hlines]
  exact (BlockStands.closed h rest).blockOfLines_eq

/-- Behind a closed block no line is covered. -/
theorem uncoveredLines_closed (h : f.Fits) (hlines : lines page = f.lines ++ rest) :
    uncoveredLines page = numberFrom f.lines.length rest := by
  unfold uncoveredLines numberedLines
  rw [locateBlock_closed h hlines, hlines, numberFrom_append]
  simp only [List.filter_append, Nat.zero_add]
  rw [filter_numberFrom_eq_nil (p := fun n => !f.block.covers n),
    filter_numberFrom_eq_self (p := fun n => !f.block.covers n), List.nil_append]
  · intro n hle _
    rw [Bool.not_eq_true', ← Bool.not_eq_true, FrontLines.covers_block]
    omega
  · intro n _ hlt
    rw [Bool.not_eq_false', FrontLines.covers_block]
    omega

/-- A block that is never closed covers every line. -/
theorem uncoveredLines_unclosed (h : locateBlock page = some ⟨0, none⟩) : uncoveredLines page = [] := by
  unfold uncoveredLines
  rw [h]
  simp [Block.covers]

/-- The fields that numbered lines declare. -/
def declaredIn (ls : List (Nat × Text)) : List (Nat × Text) :=
  ls.filterMap fun l => (declaredName? l.2).map fun name => (l.1, name)

theorem declaredFields_eq (page : Text) :
    declaredFields page = declaredIn ((numberedLines page).filter fun l => inFrontmatter page l.1) := by
  unfold declaredFields inFrontmatter declaredIn
  cases locateBlock page with
  | none => simp
  | some b => rw [List.filterMap_filter]

theorem inFrontmatter_closed (h : f.Fits) (hlines : lines page = f.lines ++ rest) (n : Nat) :
    inFrontmatter page n = f.block.contains n := by
  unfold inFrontmatter
  rw [locateBlock_closed h hlines]

/-- The lines in the frontmatter of a closed block stand between its delimiters. -/
theorem insideLines_closed (h : f.Fits) (hlines : lines page = f.lines ++ rest) :
    ((numberedLines page).filter fun l => inFrontmatter page l.1) = numberFrom 1 f.inner := by
  have hparts : numberedLines page = numberFrom 0 [f.opening] ++ (numberFrom 1 f.inner ++
      numberFrom (1 + f.inner.length) (f.closing :: rest)) := by
    unfold numberedLines
    rw [hlines, FrontLines.lines_append, ← List.singleton_append, numberFrom_append, numberFrom_append]
    rfl
  simp only [hparts, List.filter_append, inFrontmatter_closed h hlines]
  rw [filter_numberFrom_eq_nil (p := f.block.contains), filter_numberFrom_eq_self (p := f.block.contains),
    filter_numberFrom_eq_nil (p := f.block.contains), List.nil_append, List.append_nil]
  · intro n hle _
    rw [← Bool.not_eq_true, FrontLines.contains_block]
    omega
  · intro n hle hlt
    rw [FrontLines.contains_block]
    omega
  · intro n _ hlt
    rw [← Bool.not_eq_true, FrontLines.contains_block]
    rw [List.length_singleton] at hlt
    omega

end WikiSite
