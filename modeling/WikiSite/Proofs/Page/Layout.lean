import Mathlib.Logic.ExistsUnique
import WikiSite.Proofs.Page.BlockLines

/-!
# The layout of a page

A page is an optional block of frontmatter, then lines of prose and fenced code in any order; the last fence may be left
open. A layout names these parts, and its lines are theirs in order (`Layout.lines`). Lines are read back into the parts
they are put together from (`Body.read_lines`), and reading lines gives parts with these lines (`Body.lines_read`), so a
page whose block is not left open has exactly one layout. The prose of a page are the prose lines of its layout, each
with its number (`proseLines_layout`).
-/

namespace WikiSite

/-- Fenced code up to the line that closes it. -/
structure Code where
  opening : Text
  inner : List Text

/-- What stands behind the frontmatter: a line of prose, or fenced code with the line that closes it. -/
inductive Piece where
  | prose (line : Text)
  | fenced (code : Code) (closing : Text)

/-- Pieces in order; at the end a fence may be left open. -/
structure Body where
  pieces : List Piece
  leftOpen : Option Code

/-- How a page is laid out. -/
structure Layout where
  front : Option FrontLines
  body : Body

namespace Code

def lines (c : Code) : List Text := c.opening :: c.inner

/-- A fence of the marker is in front and none is inside. -/
structure Fits (c : Code) (mark : Fence) : Prop where
  opening : fenceOf c.opening = some mark
  inner : ∀ line ∈ c.inner, fenceOf line ≠ some mark

end Code

namespace Piece

def lines : Piece → List Text
  | prose line => [line]
  | fenced code closing => code.lines ++ [closing]

/-- Prose shows no marker, and fenced code is closed by the marker that opens it. -/
inductive Fits : Piece → Prop
  | prose {line : Text} (h : fenceOf line = none) : Fits (prose line)
  | fenced {code : Code} {closing : Text} {mark : Fence} (h : code.Fits mark) (hclosing : fenceOf closing = some mark) :
      Fits (fenced code closing)

/-- The prose lines among pieces, where the first line has the number `n`. -/
def proseOf (n : Nat) : List Piece → List (Nat × Text)
  | [] => []
  | prose line :: ps => (n, line) :: proseOf (n + 1) ps
  | fenced code closing :: ps => proseOf (n + (fenced code closing).lines.length) ps

end Piece

namespace Body

def lines (b : Body) : List Text := b.pieces.flatMap Piece.lines ++ b.leftOpen.toList.flatMap Code.lines

structure Fits (b : Body) : Prop where
  pieces : ∀ p ∈ b.pieces, p.Fits
  leftOpen : ∀ c ∈ b.leftOpen, ∃ mark, c.Fits mark

end Body

namespace Layout

def frontLines (l : Layout) : List Text := l.front.toList.flatMap FrontLines.lines

def lines (l : Layout) : List Text := l.frontLines ++ l.body.lines

/-- The prose lines with their numbers. -/
def prose (l : Layout) : List (Nat × Text) := Piece.proseOf l.frontLines.length l.body.pieces

/-- The parts are what they stand for, and where there is no block the first line does not open one. -/
structure Fits (l : Layout) : Prop where
  front : ∀ f ∈ l.front, f.Fits
  noFront : l.front = none → ∀ line ∈ l.lines.head?, opensBlock line = false
  body : l.body.Fits

end Layout

/-- The first line opens a block and no other line closes it. -/
def LeavesBlockOpen (ls : List Text) : Prop :=
  ∃ opening rest, ls = opening :: rest ∧ opensBlock opening = true ∧ ∀ line ∈ rest, isDelimiter line = false

/-! ### One piece after another -/

namespace Body

/-- A body with a piece in front. -/
def cons (p : Piece) (b : Body) : Body := ⟨p :: b.pieces, b.leftOpen⟩

theorem lines_cons (p : Piece) (b : Body) : (b.cons p).lines = p.lines ++ b.lines := by simp [cons, lines]

theorem Fits.cons {b : Body} (h : b.Fits) {p : Piece} (hp : p.Fits) : (b.cons p).Fits :=
  ⟨List.forall_mem_cons.2 ⟨hp, h.pieces⟩, h.leftOpen⟩

theorem lines_prose (line : Text) (ps : List Piece) (c : Option Code) :
    lines ⟨.prose line :: ps, c⟩ = line :: lines ⟨ps, c⟩ := by simp [lines, Piece.lines]

theorem lines_fenced (code : Code) (closing : Text) (ps : List Piece) (c : Option Code) :
    lines ⟨.fenced code closing :: ps, c⟩ = code.lines ++ closing :: lines ⟨ps, c⟩ := by simp [lines, Piece.lines]

theorem lines_leftOpen (code : Code) : lines ⟨[], some code⟩ = code.lines ++ [] := by simp [lines]

theorem Fits.uncons {p : Piece} {ps : List Piece} {c : Option Code} (h : (⟨p :: ps, c⟩ : Body).Fits) :
    p.Fits ∧ (⟨ps, c⟩ : Body).Fits :=
  ⟨(List.forall_mem_cons.1 h.pieces).1, (List.forall_mem_cons.1 h.pieces).2, h.leftOpen⟩

end Body

/-! ### The prose among pieces -/

section Lines

variable {line : Text} {mark : Fence} (n : Nat) (rest : List (Nat × Text))

theorem proseFrom_prose (h : fenceOf line = none) :
    proseFrom none ((n, line) :: rest) = (n, line) :: proseFrom none rest := by simp [proseFrom, h]

theorem proseFrom_opening (h : fenceOf line = some mark) :
    proseFrom none ((n, line) :: rest) = proseFrom (some mark) rest := by simp [proseFrom, h]

theorem proseFrom_closing (h : fenceOf line = some mark) :
    proseFrom (some mark) ((n, line) :: rest) = proseFrom none rest := by simp [proseFrom, h]

theorem proseFrom_inside (h : fenceOf line ≠ some mark) :
    proseFrom (some mark) ((n, line) :: rest) = proseFrom (some mark) rest := by
  cases hline : fenceOf line with
  | none => simp [proseFrom, hline]
  | some other =>
    have hne : mark ≠ other := by
      rintro rfl
      exact h hline
    simp [proseFrom, hline, hne]

end Lines

theorem proseFrom_inner {mark : Fence} {inner : List Text} (h : ∀ line ∈ inner, fenceOf line ≠ some mark) (n : Nat)
    (rest : List Text) : proseFrom (some mark) (numberFrom n (inner ++ rest)) =
      proseFrom (some mark) (numberFrom (n + inner.length) rest) := by
  induction inner generalizing n with
  | nil => rfl
  | cons line inner ih =>
    rw [List.forall_mem_cons] at h
    rw [List.cons_append, numberFrom, proseFrom_inside _ _ h.1, ih h.2, List.length_cons, Nat.add_assoc,
      Nat.add_comm 1]

theorem Code.Fits.proseFrom_append {c : Code} {mark : Fence} (h : c.Fits mark) (n : Nat) (rest : List Text) :
    proseFrom none (numberFrom n (c.lines ++ rest)) =
      proseFrom (some mark) (numberFrom (n + c.lines.length) rest) := by
  unfold Code.lines
  rw [List.cons_append, numberFrom, proseFrom_opening _ _ h.opening, proseFrom_inner h.inner, List.length_cons,
    Nat.add_assoc, Nat.add_comm 1]

theorem Body.Fits.proseFrom_lines {b : Body} (h : b.Fits) (n : Nat) :
    proseFrom none (numberFrom n b.lines) = Piece.proseOf n b.pieces := by
  obtain ⟨ps, c⟩ := b
  induction ps generalizing n with
  | nil =>
    cases c with
    | none => rfl
    | some code =>
      obtain ⟨mark, hcode⟩ := h.leftOpen code rfl
      rw [Body.lines_leftOpen, hcode.proseFrom_append]
      rfl
  | cons p ps ih =>
    obtain ⟨hp, htail⟩ := h.uncons
    cases hp with
    | @prose line hline =>
      rw [Body.lines_prose, numberFrom, proseFrom_prose _ _ hline, ih _ htail]
      rfl
    | @fenced code closing mark hcode hclosing =>
      have hlength : (Piece.fenced code closing).lines.length = code.lines.length + 1 := by simp [Piece.lines]
      rw [Body.lines_fenced, hcode.proseFrom_append, numberFrom, proseFrom_closing _ _ hclosing, ih _ htail,
        Piece.proseOf, hlength, Nat.add_assoc]

/-! ### Reading a layout -/

namespace Body

/-- Reads the body that lines make up, behind the code of a fence that is open with a marker. -/
def read : Option (Fence × Code) → List Text → Body
  | started, [] => ⟨[], started.map (·.2)⟩
  | none, line :: rest =>
    match fenceOf line with
    | none => (read none rest).cons (.prose line)
    | some mark => read (some (mark, ⟨line, []⟩)) rest
  | some (mark, code), line :: rest =>
    if fenceOf line = some mark then (read none rest).cons (.fenced code line)
    else read (some (mark, ⟨code.opening, code.inner ++ [line]⟩)) rest

theorem read_prose {line : Text} (h : fenceOf line = none) (rest : List Text) :
    read none (line :: rest) = (read none rest).cons (.prose line) := by simp [read, h]

theorem read_opening {line : Text} {mark : Fence} (h : fenceOf line = some mark) (rest : List Text) :
    read none (line :: rest) = read (some (mark, ⟨line, []⟩)) rest := by simp [read, h]

theorem read_closing {line : Text} {mark : Fence} (h : fenceOf line = some mark) (code : Code) (rest : List Text) :
    read (some (mark, code)) (line :: rest) = (read none rest).cons (.fenced code line) := by simp [read, h]

theorem read_inner {mark : Fence} {inner : List Text} (h : ∀ line ∈ inner, fenceOf line ≠ some mark) (code : Code)
    (rest : List Text) :
    read (some (mark, code)) (inner ++ rest) = read (some (mark, ⟨code.opening, code.inner ++ inner⟩)) rest := by
  induction inner generalizing code with
  | nil => simp
  | cons line inner ih =>
    rw [List.forall_mem_cons] at h
    rw [List.cons_append, read, if_neg h.1, ih h.2]
    simp

theorem read_code {mark : Fence} {code : Code} (h : code.Fits mark) (rest : List Text) :
    read none (code.lines ++ rest) = read (some (mark, code)) rest := by
  unfold Code.lines
  rw [List.cons_append, read_opening h.opening, read_inner h.inner]
  rfl

theorem read_lines {b : Body} (h : b.Fits) : read none b.lines = b := by
  obtain ⟨ps, c⟩ := b
  induction ps with
  | nil =>
    cases c with
    | none => rfl
    | some code =>
      obtain ⟨mark, hcode⟩ := h.leftOpen code rfl
      rw [lines_leftOpen, read_code hcode]
      rfl
  | cons p ps ih =>
    obtain ⟨hp, htail⟩ := h.uncons
    cases hp with
    | prose hline =>
      rw [lines_prose, read_prose hline, ih htail]
      rfl
    | fenced hcode hclosing =>
      rw [lines_fenced, read_code hcode, read_closing hclosing, ih htail]
      rfl

/-- The body that is read has the lines it is read from, behind those of the open fence. -/
theorem lines_read (started : Option (Fence × Code)) (h : ∀ s ∈ started, s.2.Fits s.1) (ls : List Text) :
    (read started ls).Fits ∧ (read started ls).lines = started.toList.flatMap (·.2.lines) ++ ls := by
  -- along the reading, which moves a line behind the open fence or closes it
  fun_induction read started ls with
  | case1 started =>
    cases started with
    | none => exact ⟨⟨by simp, by simp⟩, rfl⟩
    | some s => exact ⟨⟨by simp, by simpa using ⟨s.1, h s rfl⟩⟩, by simp [lines]⟩
  | case2 line rest hline ih =>
    obtain ⟨hfits, hlines⟩ := ih h
    exact ⟨hfits.cons (.prose hline), by rw [lines_cons, hlines]; rfl⟩
  | case3 line rest mark hline ih =>
    obtain ⟨hfits, hlines⟩ := ih (by simpa using ⟨hline, by simp⟩)
    exact ⟨hfits, by rw [hlines]; simp [Code.lines]⟩
  | case4 mark code line rest hline ih =>
    obtain ⟨hfits, hlines⟩ := ih (by simp)
    exact ⟨hfits.cons (.fenced (h _ rfl) hline), by rw [lines_cons, hlines]; simp [Piece.lines]⟩
  | case5 mark code line rest hline ih =>
    have hcode := h _ rfl
    obtain ⟨hfits, hlines⟩ := ih (by
      rintro s ⟨⟩
      exact ⟨hcode.opening, by simpa [or_imp, forall_and] using ⟨hcode.inner, hline⟩⟩)
    exact ⟨hfits, by rw [hlines]; simp [Code.lines]⟩

end Body

/-! ### The layout of a page -/

theorem FrontLines.eq_of_lines {f f' : FrontLines} (h : f.lines = f'.lines) : f = f' := by
  obtain ⟨opening, inner, closing⟩ := f
  obtain ⟨opening', inner', closing'⟩ := f'
  obtain ⟨rfl, hrest⟩ := List.cons.inj h
  obtain ⟨rfl, hclosing⟩ := List.append_inj' hrest rfl
  cases hclosing
  rfl

namespace Layout

variable {l l' : Layout}

theorem lines_of_front {f : FrontLines} (h : l.front = some f) : l.lines = f.lines ++ l.body.lines := by
  simp [lines, frontLines, h]

/-- The front of the layout is the block that its lines start with. -/
theorem Fits.blockStands (h : l.Fits) : BlockStands l.lines (l.front.map FrontLines.block) := by
  cases hfront : l.front with
  | none => exact .absent (h.noFront hfront)
  | some f =>
    rw [lines_of_front hfront]
    exact .closed (h.front f hfront) _

theorem Fits.front_eq (h : l.Fits) (h' : l'.Fits) (hlines : l.lines = l'.lines) : l.front = l'.front := by
  have hstands := h'.blockStands
  rw [← hlines] at hstands
  have hblock := h.blockStands.blockOfLines_eq.symm.trans hstands.blockOfLines_eq
  cases hfront : l.front with
  | none =>
    rw [hfront, Option.map_none, eq_comm, Option.map_eq_none_iff] at hblock
    exact hblock.symm
  | some f =>
    rw [hfront, Option.map_some, eq_comm, Option.map_eq_some_iff] at hblock
    obtain ⟨f', hfront', hlast⟩ := hblock
    -- blocks that end at the same line have equally many lines
    have hlength : f'.inner.length + 1 = f.inner.length + 1 := Option.some.inj (congrArg Block.last hlast)
    rw [lines_of_front hfront, lines_of_front hfront'] at hlines
    have hlines := (List.append_inj hlines (by simp only [FrontLines.length_lines]; omega)).1
    rw [hfront', FrontLines.eq_of_lines hlines]

theorem Fits.eq_of_lines (h : l.Fits) (h' : l'.Fits) (hlines : l.lines = l'.lines) : l = l' := by
  have hfront := h.front_eq h' hlines
  have hbody : l.body.lines = l'.body.lines := by
    unfold lines frontLines at hlines
    rw [hfront] at hlines
    exact List.append_cancel_left hlines
  calc l = ⟨l.front, Body.read none l.body.lines⟩ := by rw [Body.read_lines h.body]
    _ = ⟨l'.front, Body.read none l'.body.lines⟩ := by rw [hfront, hbody]
    _ = l' := by rw [Body.read_lines h'.body]

theorem exists_layout {ls : List Text} (h : ¬ LeavesBlockOpen ls) : ∃ l : Layout, l.Fits ∧ l.lines = ls := by
  obtain ⟨b, hstands⟩ := exists_blockStands ls
  cases hstands with
  | absent hfirst =>
    obtain ⟨hbody, hlines⟩ := Body.lines_read none (by simp) ls
    have hwhole : (⟨none, Body.read none ls⟩ : Layout).lines = ls := hlines
    exact ⟨⟨none, Body.read none ls⟩, ⟨by simp, fun _ => hwhole.symm ▸ hfirst, hbody⟩, hwhole⟩
  | @closed f hf rest =>
    obtain ⟨hbody, hlines⟩ := Body.lines_read none (by simp) rest
    refine ⟨⟨some f, Body.read none rest⟩, ⟨by simpa using hf, by simp, hbody⟩, ?_⟩
    rw [lines_of_front rfl]
    exact congrArg _ hlines
  | unclosed hopening hrest => exact absurd ⟨_, _, rfl, hopening, hrest⟩ h

theorem Fits.proseLines_eq (h : l.Fits) {page : Text} (hlines : l.lines = WikiSite.lines page) :
    proseLines page = l.prose := by
  have huncovered : uncoveredLines page = numberFrom l.frontLines.length l.body.lines := by
    cases hfront : l.front with
    | none =>
      have hblock := h.blockStands.blockOfLines_eq
      rw [hlines, hfront] at hblock
      have hbody : l.body.lines = WikiSite.lines page := by simpa [lines, frontLines, hfront] using hlines
      unfold uncoveredLines locateBlock
      rw [hblock, hbody]
      simp [frontLines, hfront, numberedLines]
    | some f =>
      rw [lines_of_front hfront] at hlines
      rw [uncoveredLines_closed (h.front f hfront) hlines.symm]
      simp [frontLines, hfront]
  unfold proseLines prose
  rw [huncovered, h.body.proseFrom_lines]

end Layout

theorem leavesBlockOpen_iff {page : Text} :
    LeavesBlockOpen (lines page) ↔ ∃ b, locateBlock page = some b ∧ b.last = none := by
  unfold locateBlock
  constructor
  · rintro ⟨opening, rest, hlines, hopening, hrest⟩
    exact ⟨⟨0, none⟩, hlines ▸ (BlockStands.unclosed hopening hrest).blockOfLines_eq, rfl⟩
  · rintro ⟨b, hblock, hlast⟩
    generalize lines page = ls at hblock
    cases blockOfLines_eq_iff.1 hblock with
    | closed => cases hlast
    | unclosed hopening hrest => exact ⟨_, _, rfl, hopening, hrest⟩

/-- The prose of a page is that of its layout. -/
structure ProseByLayout (page : Text) : Prop where
  prose : ∀ l : Layout, l.Fits → l.lines = lines page → proseLines page = l.prose
  /-- A page has one layout unless its block is left open. -/
  layout : ¬ LeavesBlockOpen (lines page) → ∃! l : Layout, l.Fits ∧ l.lines = lines page
  leftOpen_iff : LeavesBlockOpen (lines page) ↔ ∃ b, locateBlock page = some b ∧ b.last = none
  leftOpen : LeavesBlockOpen (lines page) → proseLines page = []

theorem proseLines_layout (page : Text) : ProseByLayout page where
  prose _ h hlines := h.proseLines_eq hlines
  layout h := by
    obtain ⟨l, hl, hlines⟩ := Layout.exists_layout h
    refine ⟨l, ⟨hl, hlines⟩, ?_⟩
    rintro l' ⟨hl', hlines'⟩
    exact hl'.eq_of_lines hl (hlines'.trans hlines.symm)
  leftOpen_iff := leavesBlockOpen_iff
  leftOpen h := by
    obtain ⟨opening, rest, hlines, hopening, hrest⟩ := h
    have hblock : locateBlock page = some ⟨0, none⟩ := by
      unfold locateBlock
      rw [hlines]
      exact (BlockStands.unclosed hopening hrest).blockOfLines_eq
    unfold proseLines
    rw [uncoveredLines_unclosed hblock]
    rfl

/-- A fence right behind the block, the other marker inside it, and a fence that is left open. -/
example :
    proseLines "﻿---
a: b
--- 
 ```md
~~~
[[x]]
```
see [[y]]
~~~
end".toList =
      [(7, "see [[y]]".toList)] := by decide +kernel

end WikiSite
