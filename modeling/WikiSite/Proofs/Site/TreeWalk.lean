import Mathlib.Data.List.Nodup
import WikiSite.Site.FileTree

/-!
# Walking down a file tree

A walk from a path finds the files below it that no directory on the way hides, each once (`walk_perm`). One step of the
walk goes from a place to the entries of its directory, and the names from the place are those from the entry with its
own in front (`mem_under`); so the names tell the entry through which a file is found (`mem_walkFrom`), and no two files
are found by the same names (`walkFrom_distinct`).
-/

namespace WikiSite

theorem mem_properStarts {α : Type} {l dirs : List α} :
    dirs ∈ properStarts l ↔ ∃ rest, rest ≠ [] ∧ l = dirs ++ rest := by
  unfold properStarts
  rw [List.mem_map]
  constructor
  · rintro ⟨n, hn, rfl⟩
    refine ⟨l.drop n, ?_, (List.take_append_drop n l).symm⟩
    rw [List.mem_range] at hn
    simpa using hn
  · rintro ⟨rest, hrest, rfl⟩
    refine ⟨dirs.length, ?_, List.take_left⟩
    have := List.length_pos_iff.2 hrest
    rw [List.mem_range, List.length_append]
    omega

namespace FileTree

/-! ### The entries of a directory -/

private theorem nodup_eraseDups {α : Type} [BEq α] [LawfulBEq α] (l : List α) : l.eraseDups.Nodup := by
  match l with
  | [] => exact List.nodup_nil
  | a :: as =>
    rw [List.eraseDups_cons, List.nodup_cons]
    refine ⟨?_, nodup_eraseDups _⟩
    rw [List.mem_eraseDups, List.mem_filter]
    simp
termination_by l.length
decreasing_by exact Nat.lt_succ_of_le (List.length_filter_le _ _)

variable {files : List (List Bytes × Bytes)} {n : Bytes} {rest : List Bytes} {bytes : Bytes}

theorem mem_under : (rest, bytes) ∈ under n files ↔ (n :: rest, bytes) ∈ files := by
  unfold under
  rw [List.mem_filterMap]
  constructor
  · rintro ⟨⟨names, bs⟩, hf, he⟩
    split at he
    · rename_i m more hnames
      split at he
      · rename_i hm
        cases he
        subst hm
        rw [← hnames]
        exact hf
      · cases he
    · cases he
  · intro h
    exact ⟨_, h, if_pos rfl⟩

theorem mem_entryNames : n ∈ entryNames files ↔ ∃ rest bytes, (n :: rest, bytes) ∈ files := by
  unfold entryNames
  rw [List.mem_eraseDups, List.mem_filterMap]
  constructor
  · rintro ⟨⟨names, bytes⟩, hf, hn⟩
    obtain ⟨rest, rfl⟩ := List.head?_eq_some_iff.1 hn
    exact ⟨rest, bytes, hf⟩
  · rintro ⟨rest, bytes, hf⟩
    exact ⟨_, hf, rfl⟩

theorem mem_fileHere {here names : List Bytes} :
    (names, bytes) ∈ fileHere here files ↔ names = here ∧ ([], bytes) ∈ files := by
  unfold fileHere
  rw [List.mem_map]
  constructor
  · rintro ⟨⟨rest, bs⟩, hf, he⟩
    obtain ⟨hf, hrest⟩ := List.mem_filter.1 hf
    obtain rfl : rest = [] := List.isEmpty_iff.1 hrest
    cases he
    exact ⟨rfl, hf⟩
  · rintro ⟨rfl, hf⟩
    exact ⟨([], bytes), List.mem_filter.2 ⟨hf, rfl⟩, rfl⟩

/-! ### What a walk finds -/

/-- No directory on the way along `names` from `here` hides what they lead to. -/
def Open (enters : List Bytes → Bool) (here names : List Bytes) : Prop :=
  ∀ dirs rest, names = dirs ++ rest → rest ≠ [] → enters (here ++ dirs) = true

variable {enters : List Bytes → Bool} {depth : Nat} {here names : List Bytes}

theorem open_nil : Open enters here [] := fun _ _ h hrest => absurd (List.append_eq_nil_iff.1 h.symm).2 hrest

/-- The way to an entry of a directory starts with entering the directory. -/
theorem open_cons : Open enters here (n :: rest) ↔ enters here = true ∧ Open enters (here ++ [n]) rest := by
  constructor
  · intro h
    refine ⟨by simpa using h [] (n :: rest) rfl (by simp), ?_⟩
    intro dirs more hsplit hmore
    rw [List.append_assoc]
    exact h (n :: dirs) more (by rw [hsplit, List.cons_append]) hmore
  · rintro ⟨hhere, h⟩ dirs more hsplit hmore
    cases dirs with
    | nil => rwa [List.append_nil]
    | cons m dirs =>
      rw [List.cons_append, List.cons.injEq] at hsplit
      obtain ⟨rfl, hsplit⟩ := hsplit
      have henters := h dirs more hsplit hmore
      rwa [List.append_assoc] at henters

private theorem exists_of_mem_fileHere (h : (names, bytes) ∈ fileHere here files) :
    ∃ rest, names = here ++ rest ∧ (rest, bytes) ∈ files ∧ rest.length ≤ depth ∧ Open enters here rest := by
  obtain ⟨rfl, hf⟩ := mem_fileHere.1 h
  exact ⟨[], (List.append_nil _).symm, hf, Nat.zero_le _, open_nil⟩

/-- A walk finds the files that lie open, down to its depth. -/
theorem mem_walkFrom :
    (names, bytes) ∈ walkFrom enters depth here files ↔
      ∃ rest, names = here ++ rest ∧ (rest, bytes) ∈ files ∧ rest.length ≤ depth ∧ Open enters here rest := by
  induction depth generalizing here files with
  | zero =>
    refine ⟨exists_of_mem_fileHere, ?_⟩
    rintro ⟨rest, rfl, hf, hlen, -⟩
    obtain rfl := List.length_eq_zero_iff.1 (Nat.le_zero.1 hlen)
    exact mem_fileHere.2 ⟨List.append_nil _, hf⟩
  | succ depth ih =>
    unfold walkFrom
    constructor
    · intro h
      split at h
      · rename_i henters
        rcases List.mem_append.1 h with h | h
        · exact exists_of_mem_fileHere h
        · obtain ⟨n, -, h⟩ := List.mem_flatMap.1 h
          obtain ⟨rest, rfl, hf, hlen, hopen⟩ := ih.1 h
          exact ⟨n :: rest, by simp, mem_under.1 hf, Nat.succ_le_succ hlen, open_cons.2 ⟨henters, hopen⟩⟩
      · exact exists_of_mem_fileHere h
    · rintro ⟨rest, rfl, hf, hlen, hopen⟩
      cases rest with
      | nil =>
        have hown : (here ++ [], bytes) ∈ fileHere here files := mem_fileHere.2 ⟨List.append_nil _, hf⟩
        split
        · exact List.mem_append_left _ hown
        · exact hown
      | cons n rest =>
        obtain ⟨henters, hopen⟩ := open_cons.1 hopen
        rw [if_pos henters]
        refine List.mem_append_right _ (List.mem_flatMap.2 ⟨n, mem_entryNames.2 ⟨rest, bytes, hf⟩, ih.2 ?_⟩)
        exact ⟨rest, by simp, mem_under.2 hf, Nat.le_of_succ_le_succ hlen, hopen⟩

/-! ### No file twice -/

/-- No two files are reached by the same names. -/
def DistinctNames (files : List (List Bytes × Bytes)) : Prop := files.Pairwise fun f g => f.1 ≠ g.1

theorem distinctNames_under (h : DistinctNames files) (n : Bytes) : DistinctNames (under n files) := by
  refine h.filterMap _ ?_
  rintro ⟨as, b⟩ ⟨cs, d⟩ hne f hf g hg
  cases as with
  | nil => cases hf
  | cons a as =>
    cases cs with
    | nil => cases hg
    | cons c cs =>
      simp only [Option.ite_none_right_eq_some, Option.some.injEq] at hf hg
      obtain ⟨rfl, rfl⟩ := hf
      obtain ⟨rfl, rfl⟩ := hg
      simpa using hne

theorem distinctNames_fileHere (h : DistinctNames files) (here : List Bytes) : DistinctNames (fileHere here files) := by
  unfold DistinctNames fileHere
  rw [List.pairwise_map]
  refine (List.Pairwise.filter _ h).imp_of_mem ?_
  intro f g hf hg hne
  -- both are reached by no names
  have hf := List.isEmpty_iff.1 (List.mem_filter.1 hf).2
  have hg := List.isEmpty_iff.1 (List.mem_filter.1 hg).2
  exact absurd (hf.trans hg.symm) hne

theorem walkFrom_distinct (h : DistinctNames files) : DistinctNames (walkFrom enters depth here files) := by
  induction depth generalizing here files with
  | zero => exact distinctNames_fileHere h here
  | succ depth ih =>
    unfold walkFrom
    split
    · unfold DistinctNames
      rw [List.pairwise_append, List.pairwise_flatMap]
      refine ⟨distinctNames_fileHere h here, ⟨fun n _ => ih (distinctNames_under h n), ?_⟩, ?_⟩
      · -- files found through different entries
        refine (nodup_eraseDups _).imp ?_
        rintro n m hnm ⟨as, a⟩ ha ⟨bs, b⟩ hb rfl
        obtain ⟨r, hr, -⟩ := mem_walkFrom.1 ha
        obtain ⟨t, ht, -⟩ := mem_walkFrom.1 hb
        rw [hr] at ht
        simp only [List.append_assoc, List.singleton_append, List.append_cancel_left_eq, List.cons.injEq] at ht
        exact hnm ht.1
      · rintro ⟨as, a⟩ ha ⟨bs, b⟩ hb rfl
        obtain ⟨n, -, hb⟩ := List.mem_flatMap.1 hb
        obtain ⟨t, ht, -⟩ := mem_walkFrom.1 hb
        rw [(mem_fileHere.1 ha).1] at ht
        simp at ht
    · exact distinctNames_fileHere h here

/-! ### Walking from a path -/

/-- Every file below a path is reached from there by file names. -/
theorem named_filesBelow (tree : FileTree) (p : Path) {f : List Bytes × Bytes} (hf : f ∈ tree.filesBelow p) :
    f.1.all isFileName = true := by
  unfold filesBelow at hf
  split at hf
  · cases hf
  · obtain ⟨g, hg, rfl⟩ := List.mem_map.1 hf
    have := tree.named g (List.mem_filter.1 hg).1
    rw [List.all_eq_true] at this ⊢
    exact fun n hn => this n (List.mem_of_mem_drop hn)

theorem distinctNames_filesBelow (tree : FileTree) (p : Path) : DistinctNames (tree.filesBelow p) := by
  unfold filesBelow
  split
  · exact List.Pairwise.nil
  · rename_i base _
    unfold DistinctNames
    rw [List.pairwise_map]
    have hd : (tree.files.filter fun f => base.isPrefixOf f.1).Pairwise fun f g => f.1 ≠ g.1 :=
      (List.pairwise_map.1 tree.distinct).filter _
    refine hd.imp_of_mem ?_
    intro f g hf hg hne e
    obtain ⟨r, hr⟩ := List.isPrefixOf_iff_prefix.1 (List.mem_filter.1 hf).2
    obtain ⟨t, ht⟩ := List.isPrefixOf_iff_prefix.1 (List.mem_filter.1 hg).2
    rw [← hr, ← ht, List.drop_left, List.drop_left] at e
    have e : r = t := e
    exact hne (by rw [← hr, ← ht, e])

theorem mem_walk {tree : FileTree} {p : Path} {f : List Bytes × Bytes} :
    f ∈ tree.walk enters p ↔ f ∈ tree.filesBelow p ∧ Open enters [] f.1 := by
  refine mem_walkFrom.trans ?_
  constructor
  · rintro ⟨rest, hnames, hf, -, hopen⟩
    obtain rfl : f.1 = rest := hnames
    exact ⟨hf, hopen⟩
  · rintro ⟨hf, hopen⟩
    exact ⟨f.1, rfl, hf, List.le_max?_getD_of_mem (List.mem_map_of_mem hf), hopen⟩

theorem walk_distinct (tree : FileTree) (p : Path) : DistinctNames (tree.walk enters p) :=
  walkFrom_distinct (distinctNames_filesBelow tree p)

/-- A walk finds the files below a path that no directory on the way hides, each once. -/
theorem walk_perm (tree : FileTree) (enters : List Bytes → Bool) (p : Path) :
    (tree.walk enters p).Perm ((tree.filesBelow p).filter fun f => (properStarts f.1).all enters) := by
  have hnodup : ∀ {files}, DistinctNames files → files.Nodup := fun h => h.imp fun hne e => hne (by rw [e])
  rw [List.perm_ext_iff_of_nodup (hnodup (walk_distinct tree p)) ((hnodup (distinctNames_filesBelow tree p)).filter _)]
  intro f
  rw [mem_walk, List.mem_filter, List.all_eq_true]
  refine and_congr_right fun _ => ?_
  simp only [mem_properStarts, Open, List.nil_append]
  constructor
  · rintro h dirs ⟨rest, hrest, hnames⟩
    exact h dirs rest hnames hrest
  · intro h dirs rest hnames hrest
    exact h dirs ⟨rest, hrest, hnames⟩

end FileTree

end WikiSite
