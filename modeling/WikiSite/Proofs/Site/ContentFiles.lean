import Mathlib.Data.List.Perm.Basic
import Mathlib.Data.List.Nodup
import WikiSite.Proofs.Site.TreeWalk
import WikiSite.Proofs.Text.Utf8
import WikiSite.Site.Index

/-!
# The content files of a directory

A file below a directory is reached by file names, and these names can be read off its path and off its URI: the
parts of the path are those of the directory and then the names (`parts_foldl_join`), and the percent form of a name
stands for that name only (`decodePercent_encodeBytes`). So different files have different URIs
(`contentPosts_distinct`), and the posts that an index is built from stand in strictly increasing order of their paths
(`contentPosts_increasing`).
-/

namespace WikiSite

/-! ### Pieces between slashes -/

theorem splitBytes_cons (b c : UInt8) (p : Bytes) :
    splitBytes b (c :: p) =
      if c == b then [] :: splitBytes b p
      else match splitBytes b p with
        | [] => [[c]]
        | piece :: pieces => (c :: piece) :: pieces := rfl

theorem splitBytes_ne_nil (b : UInt8) (p : Bytes) : splitBytes b p ≠ [] := by
  cases p with
  | nil => simp [splitBytes]
  | cons c p =>
    rw [splitBytes_cons]
    split
    · simp
    · split <;> simp

theorem splitBytes_append (b : UInt8) (p q : Bytes) :
    splitBytes b (p ++ b :: q) = splitBytes b p ++ splitBytes b q := by
  induction p with
  | nil => simp [splitBytes]
  | cons c p ih =>
    rw [List.cons_append, splitBytes_cons b c (p ++ b :: q), splitBytes_cons b c p, ih]
    split
    · rfl
    · cases h : splitBytes b p with
      | nil => exact absurd h (splitBytes_ne_nil b p)
      | cons piece pieces => rfl

theorem splitBytes_of_not_mem {b : UInt8} {p : Bytes} (h : b ∉ p) : splitBytes b p = [p] := by
  induction p with
  | nil => rfl
  | cons c p ih =>
    rw [List.mem_cons, not_or] at h
    rw [splitBytes_cons, if_neg (by simpa using Ne.symm h.1), ih h.2]

/-! ### The parts of a path below a directory -/

namespace Path

theorem isFileName_iff {n : Bytes} :
    isFileName n = true ↔ n ≠ [] ∧ slash ∉ n ∧ n ≠ [dot] ∧ n ≠ [dot, dot] := by
  simp [isFileName, slash, dot, and_assoc]

variable {p n : Bytes}

private theorem isAbsolute_of_isFileName (hn : isFileName n = true) : isAbsolute n = false := by
  have h := (isFileName_iff.1 hn).2.1
  unfold isAbsolute
  cases n with
  | nil => rfl
  | cons c n =>
    rw [List.mem_cons, not_or] at h
    simpa using Ne.symm h.1

theorem isAbsolute_join (hn : isFileName n = true) : isAbsolute (join p n) = isAbsolute p := by
  unfold join
  rw [isAbsolute_of_isFileName hn]
  cases p with
  | nil => simpa [isAbsolute] using isAbsolute_of_isFileName hn
  | cons c p =>
    simp only [Bool.false_eq_true, ↓reduceIte, List.isEmpty_cons, Bool.false_or, isAbsolute]
    split <;> simp

theorem partsOfPieces_append (as bs : List Bytes) :
    partsOfPieces (as ++ bs) = partsOfPieces as ++ partsOfPieces bs := by
  unfold partsOfPieces
  exact List.filterMap_append

private theorem partsOfPieces_name (hn : isFileName n = true) : partsOfPieces [n] = [.name n] := by
  obtain ⟨h1, -, h2, h3⟩ := isFileName_iff.1 hn
  simp [partsOfPieces, h1, h2, h3]

/-- The parts of a path below a directory are those of the directory and the name. -/
theorem parts_join (hp : isAbsolute p = true) (hn : isFileName n = true) :
    parts (join p n) = parts p ++ [.name n] := by
  have hs := splitBytes_of_not_mem (isFileName_iff.1 hn).2.1
  have hj := isAbsolute_join (p := p) hn
  have hpieces : partsOfPieces (splitBytes slash (join p n)) = partsOfPieces (splitBytes slash p) ++ [.name n] := by
    unfold join
    rw [isAbsolute_of_isFileName hn, if_neg Bool.false_ne_true]
    split
    · rename_i h
      obtain ⟨q, rfl⟩ : ∃ q, p = q ++ [slash] := by
        rw [Bool.or_eq_true, List.isEmpty_iff, beq_iff_eq] at h
        rcases h with rfl | h
        · cases hp
        · exact ⟨p.dropLast, (List.dropLast_append_getLast? _ h).symm⟩
      rw [List.append_assoc, List.singleton_append, splitBytes_append, splitBytes_append, hs, partsOfPieces_append,
        partsOfPieces_append, partsOfPieces_name hn]
      simp [partsOfPieces, splitBytes]
    · rw [splitBytes_append, hs, partsOfPieces_append, partsOfPieces_name hn]
  unfold parts
  simp only [hj, hp, ↓reduceIte, hpieces, List.cons_append]

theorem isAbsolute_foldl_join {names : List Bytes} (h : names.all isFileName = true) :
    isAbsolute (names.foldl join p) = isAbsolute p := by
  induction names generalizing p with
  | nil => rfl
  | cons n names ih =>
    rw [List.all_cons, Bool.and_eq_true] at h
    rw [List.foldl_cons, ih h.2, isAbsolute_join h.1]

theorem parts_foldl_join {names : List Bytes} (hp : isAbsolute p = true) (h : names.all isFileName = true) :
    parts (names.foldl join p) = parts p ++ names.map .name := by
  induction names generalizing p with
  | nil => simp
  | cons n names ih =>
    rw [List.all_cons, Bool.and_eq_true] at h
    rw [List.foldl_cons, ih (by rw [isAbsolute_join h.1, hp]) h.2, parts_join hp h.1]
    simp

end Path

/-! ### The percent form of a name -/

namespace Uri

private theorem hexDigit?_upper : ∀ n < 16, hexDigit? (Nat.digitChar n).toUpper = some n := by
  decide

private theorem decodePercent_encodeByte {special : Text} (hs : '%' ∈ special) (b : UInt8) (rest : Text) :
    decodePercent (encodeByte special b ++ rest) = b :: decodePercent rest := by
  unfold encodeByte
  have hb := b.toNat_lt
  split
  · have h1 := hexDigit?_upper (b.toNat / 16) (by omega)
    have h2 := hexDigit?_upper (b.toNat % 16) (by omega)
    show decodePercent ('%' :: _ :: _ :: rest) = _
    rw [decodePercent, h1, h2]
    have he : b.toNat / 16 * 16 + b.toNat % 16 = b.toNat := by omega
    simp [he]
  · rename_i h
    simp only [Bool.or_eq_true, decide_eq_true_eq, not_or, Nat.not_lt, List.contains_iff_mem] at h
    have hc : Char.ofNat b.toNat ≠ '%' := fun e => h.2 (e ▸ hs)
    have hn : (Char.ofNat b.toNat).toNat = b.toNat := toNat_charOfNat (by omega)
    rw [List.singleton_append, decodePercent, utf8EncodeChar_of_lt (by omega), hn, UInt8.ofNat_toNat]
    · rfl
    · exact fun x y t e => absurd e hc

/-- Reading the percent form of bytes gives the bytes back. -/
theorem decodePercent_encodeBytes {special : Text} (hs : '%' ∈ special) (bs : Bytes) :
    decodePercent (encodeBytes special bs) = bs := by
  unfold encodeBytes
  induction bs with
  | nil => rfl
  | cons b bs ih => rw [List.flatMap_cons, decodePercent_encodeByte hs, ih]

/-- The percent form of a name holds no slash. -/
theorem slash_not_mem_encodeBytes (bs : Bytes) : '/' ∉ encodeBytes segmentSpecial bs := by
  unfold encodeBytes
  rw [List.mem_flatMap]
  rintro ⟨b, -, hb⟩
  unfold encodeByte at hb
  split at hb
  · have h1 := hexDigit?_upper (b.toNat / 16) (by have := b.toNat_lt; omega)
    have h2 := hexDigit?_upper (b.toNat % 16) (by omega)
    simp only [percentByte, List.mem_cons, List.not_mem_nil, or_false] at hb
    rcases hb with hb | hb | hb
    · cases hb
    · rw [← hb] at h1
      cases h1
    · rw [← hb] at h2
      cases h2
  · rename_i h
    rw [List.mem_singleton] at hb
    rw [← hb] at h
    have hm : List.contains segmentSpecial '/' = true := by decide
    rw [hm, Bool.or_true] at h
    exact h rfl

/-! ### The URI of a path -/

private theorem takeWhile_segment {s t : Text} (hs : '/' ∉ s) (ht : t = [] ∨ ∃ r, t = '/' :: r) :
    (s ++ t).takeWhile (· != '/') = s := by
  induction s with
  | nil => rcases ht with rfl | ⟨r, rfl⟩ <;> simp
  | cons c s ih =>
    rw [List.mem_cons, not_or] at hs
    rw [List.cons_append, List.takeWhile_cons, ih hs.2, if_pos (by simpa using Ne.symm hs.1)]

private theorem flatMap_slash_cases (as : List Text) :
    as.flatMap ('/' :: ·) = [] ∨ ∃ r, as.flatMap ('/' :: ·) = '/' :: r := by
  cases as with
  | nil => exact .inl rfl
  | cons a as => exact .inr ⟨_, rfl⟩

/-- Segments without slashes can be read off their written sequence. -/
theorem flatMap_slash_injective {as bs : List Text} (ha : ∀ s ∈ as, '/' ∉ s) (hb : ∀ s ∈ bs, '/' ∉ s)
    (h : as.flatMap ('/' :: ·) = bs.flatMap ('/' :: ·)) : as = bs := by
  induction as generalizing bs with
  | nil =>
    cases bs with
    | nil => rfl
    | cons b bs => cases h
  | cons a as ih =>
    cases bs with
    | nil => cases h
    | cons b bs =>
      simp only [List.flatMap_cons, List.cons_append, List.cons.injEq, true_and] at h
      -- both start with the text before the next slash
      have e : a = b := by
        rw [← takeWhile_segment (ha a (by simp)) (flatMap_slash_cases as), h,
          takeWhile_segment (hb b (by simp)) (flatMap_slash_cases bs)]
      subst e
      rw [ih (fun s hs => ha s (by simp [hs])) (fun s hs => hb s (by simp [hs])) (List.append_cancel_left h)]

/-- The names of a path below the root. -/
private def segmentsOf (p : Path) : List Bytes := ((Path.parts p).drop 1).map PathPart.bytes

private theorem segment_ne_nil {p : Path} (hp : Path.isAbsolute p = true) {s : Bytes} (hs : s ∈ segmentsOf p) :
    s ≠ [] := by
  obtain ⟨part, hpart, rfl⟩ := List.mem_map.1 hs
  unfold Path.parts at hpart
  simp only [hp, ↓reduceIte, List.drop_succ_cons, List.drop_zero, Path.partsOfPieces, List.mem_filterMap] at hpart
  obtain ⟨piece, -, he⟩ := hpart
  split at he
  · cases he
  · rename_i hne
    split at he
    · cases he
      simp [PathPart.bytes]
    · cases he
      intro e
      have e : piece = [] := e
      simp [e] at hne

/-- The written form of the URI of a path. -/
private theorem text_of_ofPath? {p : Path} {u : Uri} (h : ofPath? p = some u) :
    Path.isAbsolute p = true ∧ u.text = "file://".toList ++
      if segmentsOf p = [] then ['/'] else ((segmentsOf p).map (encodeBytes segmentSpecial)).flatMap ('/' :: ·) := by
  unfold ofPath? at h
  split at h
  · cases h
  · rename_i hp
    refine ⟨by simpa using hp, ?_⟩
    cases h
    have hm : (((Path.parts p).drop 1).map fun part => encodeBytes segmentSpecial part.bytes) =
        (segmentsOf p).map (encodeBytes segmentSpecial) := by
      unfold segmentsOf
      rw [List.map_map]
      rfl
    simp only [hm, text, List.isEmpty_iff, List.map_eq_nil_iff]
    simp

/-- The written names of a path are not a lone slash, which stands for the root. -/
private theorem flatMap_segmentsOf_ne {p : Path} (hp : Path.isAbsolute p = true) (hne : segmentsOf p ≠ []) :
    ((segmentsOf p).map (encodeBytes segmentSpecial)).flatMap ('/' :: ·) ≠ ['/'] := by
  intro e
  cases hs : segmentsOf p with
  | nil => exact hne hs
  | cons b bs =>
    rw [hs, List.map_cons, List.flatMap_cons, List.cons_append, List.cons.injEq, List.append_eq_nil_iff] at e
    have hb := decodePercent_encodeBytes (show '%' ∈ segmentSpecial by decide) b
    rw [e.2.1] at hb
    exact segment_ne_nil hp (hs ▸ List.mem_cons_self ..) hb.symm

/-- Two absolute paths with the same URI are reached by the same names. -/
private theorem segmentsOf_eq_of_text {p q : Path} {u v : Uri} (hu : ofPath? p = some u) (hv : ofPath? q = some v)
    (h : u.text = v.text) : segmentsOf p = segmentsOf q := by
  obtain ⟨hp, eu⟩ := text_of_ofPath? hu
  obtain ⟨hq, ev⟩ := text_of_ofPath? hv
  rw [eu, ev, List.append_cancel_left_eq] at h
  have hslash : ∀ r : Path, ∀ s ∈ (segmentsOf r).map (encodeBytes segmentSpecial), '/' ∉ s := by
    intro r s hs
    obtain ⟨b, -, rfl⟩ := List.mem_map.1 hs
    exact slash_not_mem_encodeBytes b
  split at h
  · rename_i hpn
    split at h
    · rename_i hqn
      rw [hpn, hqn]
    · rename_i hqn
      exact absurd h.symm (flatMap_segmentsOf_ne hq hqn)
  · rename_i hpn
    split at h
    · exact absurd h (flatMap_segmentsOf_ne hp hpn)
    · have hm := flatMap_slash_injective (hslash p) (hslash q) h
      have hd := congrArg (List.map decodePercent) hm
      simpa [Function.comp_def, decodePercent_encodeBytes (show '%' ∈ segmentSpecial by decide)] using hd

/-- Two absolute paths with the same parts have one URI. -/
theorem ofPath?_congr {p q : Path} (hp : Path.isAbsolute p = true) (hq : Path.isAbsolute q = true)
    (h : Path.parts p = Path.parts q) : ofPath? p = ofPath? q := by
  unfold ofPath?
  rw [hp, hq, h]

theorem isAbsolute_of_ofPath? {p : Path} {u : Uri} (h : ofPath? p = some u) : Path.isAbsolute p = true :=
  (text_of_ofPath? h).1

/-- Files that are reached from a directory by different names have different URIs. -/
theorem names_eq_of_text {root : Path} {as bs : List Bytes} (ha : as.all isFileName = true)
    (hb : bs.all isFileName = true) {u v : Uri} (hu : ofPath? (as.foldl Path.join root) = some u)
    (hv : ofPath? (bs.foldl Path.join root) = some v) (h : u.text = v.text) : as = bs := by
  have hroot : Path.isAbsolute root = true := by
    rw [← Path.isAbsolute_foldl_join ha]
    exact isAbsolute_of_ofPath? hu
  have hs := segmentsOf_eq_of_text hu hv h
  unfold segmentsOf at hs
  rw [Path.parts_foldl_join hroot ha, Path.parts_foldl_join hroot hb] at hs
  have hlen : 1 ≤ (Path.parts root).length := by
    simp [Path.parts, hroot]
  rw [List.drop_append_of_le_length hlen, List.drop_append_of_le_length hlen, List.map_append, List.map_append,
    List.append_cancel_left_eq] at hs
  simpa [Function.comp_def, PathPart.bytes] using hs

end Uri

/-! ### The order of paths -/

namespace PathPart

theorem before_irrefl (a : PathPart) : a.before a = false := by
  cases a <;> simp [before, rank]

theorem before_trans {a b c : PathPart} (h₁ : a.before b = true) (h₂ : b.before c = true) : a.before c = true := by
  cases a <;> cases b <;> cases c <;> simp_all [before, rank]
  exact List.lt_trans h₁ h₂

theorem before_total (a b : PathPart) : a = b ∨ a.before b = true ∨ b.before a = true := by
  cases a <;> cases b <;> simp [before, rank]
  rename_i x y
  by_cases h : x < y
  · exact .inr (.inl h)
  · by_cases h' : y < x
    · exact .inr (.inr h')
    · exact .inl (List.le_antisymm (List.not_lt.1 h') (List.not_lt.1 h))

end PathPart

namespace Path

theorem partsBefore_irrefl (as : List PathPart) : partsBefore as as = false := by
  induction as with
  | nil => rfl
  | cons a as ih => simp [partsBefore, ih]

theorem partsBefore_trans {as bs cs : List PathPart} (h₁ : partsBefore as bs = true)
    (h₂ : partsBefore bs cs = true) : partsBefore as cs = true := by
  induction as generalizing bs cs with
  | nil =>
    cases cs with
    | nil => cases bs <;> simp [partsBefore] at h₂
    | cons c cs => rfl
  | cons a as ih =>
    cases bs with
    | nil => simp [partsBefore] at h₁
    | cons b bs =>
      cases cs with
      | nil => simp [partsBefore] at h₂
      | cons c cs =>
        unfold partsBefore at h₁ h₂ ⊢
        by_cases hab : a = b
        · subst hab
          rw [if_pos rfl] at h₁
          by_cases hac : a = c
          · rw [if_pos hac] at h₂ ⊢
            exact ih h₁ h₂
          · rw [if_neg hac] at h₂ ⊢
            exact h₂
        · rw [if_neg hab] at h₁
          by_cases hbc : b = c
          · subst hbc
            rw [if_neg hab]
            exact h₁
          · rw [if_neg hbc] at h₂
            have hac := PathPart.before_trans h₁ h₂
            rw [if_neg, hac]
            rintro rfl
            rw [PathPart.before_irrefl] at hac
            cases hac

theorem partsBefore_total (as bs : List PathPart) : as = bs ∨ partsBefore as bs = true ∨ partsBefore bs as = true := by
  induction as generalizing bs with
  | nil => cases bs <;> simp [partsBefore]
  | cons a as ih =>
    cases bs with
    | nil => simp [partsBefore]
    | cons b bs =>
      unfold partsBefore
      by_cases hab : a = b
      · subst hab
        simpa using ih bs
      · rw [if_neg hab, if_neg (Ne.symm hab)]
        exact .inr ((PathPart.before_total a b).resolve_left hab)

/-- The relation by which paths are sorted: not after. -/
private theorem not_before_trans {a b c : Path} (h₁ : before b a = false) (h₂ : before c b = false) :
    before c a = false := by
  unfold before at *
  rcases partsBefore_total (parts a) (parts b) with e | h | h
  · rw [e]
    exact h₂
  · rcases partsBefore_total (parts b) (parts c) with e | h' | h'
    · rw [← e]
      exact h₁
    · cases hc : partsBefore (parts c) (parts a) with
      | false => rfl
      | true =>
        have := partsBefore_trans (partsBefore_trans h h') hc
        rw [partsBefore_irrefl] at this
        cases this
    · rw [h'] at h₂
      cases h₂
  · rw [h] at h₁
    cases h₁

private theorem not_before_total (a b : Path) : before b a = false ∨ before a b = false := by
  unfold before
  cases h : partsBefore (parts b) (parts a) with
  | false => exact .inl rfl
  | true =>
    cases h' : partsBefore (parts a) (parts b) with
    | false => exact .inr rfl
    | true =>
      have := partsBefore_trans h h'
      rw [partsBefore_irrefl] at this
      cases this

/-- Sorting by paths puts no file in front of an earlier one. -/
theorem pairwise_mergeSort_before {α : Type} (l : List (Path × α)) :
    (l.mergeSort fun a b => !before b.1 a.1).Pairwise fun a b => before b.1 a.1 = false := by
  have h := @List.pairwise_mergeSort _ (fun a b : Path × α => !before b.1 a.1)
    (fun a b c h₁ h₂ => by
      simp only [Bool.not_eq_true'] at *
      exact not_before_trans h₁ h₂)
    (fun a b => by simpa using not_before_total a.1 b.1) l
  simpa using h

end Path

/-! ### The posts of a directory -/

namespace Index

theorem contentFile?_eq_some {path : Path} {bytes : Bytes} {f : Path × Text} :
    contentFile? path bytes = some f ↔ isContentFile path = true ∧ bytes = encodeUtf8 f.2 ∧ f.1 = path := by
  unfold contentFile?
  rw [Option.ite_none_right_eq_some, Option.map_eq_some_iff]
  refine and_congr_right fun _ => ?_
  constructor
  · rintro ⟨text, htext, rfl⟩
    exact ⟨decodeUtf8_eq_some.1 htext, rfl⟩
  · rintro ⟨hbytes, hpath⟩
    exact ⟨f.2, decodeUtf8_eq_some.2 hbytes, by rw [← hpath]⟩

/-- Different content files have different URIs. -/
private theorem contentFiles_distinct (tree : FileTree) (root : Path) (cacheDir : Text) :
    (contentFiles tree root cacheDir).Pairwise fun a b =>
      ∀ u v, Uri.ofPath? a.1 = some u → Uri.ofPath? b.1 = some v → u.text ≠ v.text := by
  unfold contentFiles
  rw [(List.mergeSort_perm _ _).pairwise_iff fun {a b} h u v hu hv e => h v u hv hu e.symm, List.pairwise_filterMap]
  refine (FileTree.walk_distinct tree root).imp_of_mem ?_
  intro f g hf hg hne a ha b hb u v hu hv e
  rw [(contentFile?_eq_some.1 ha).2.2] at hu
  rw [(contentFile?_eq_some.1 hb).2.2] at hv
  have hf := tree.named_filesBelow root (FileTree.mem_walk.1 hf).1
  have hg := tree.named_filesBelow root (FileTree.mem_walk.1 hg).1
  exact hne (Uri.names_eq_of_text hf hg hu hv e)

/-- The posts that an index is built from are of different files. -/
theorem contentPosts_distinct (tree : FileTree) (root : Path) (s : Settings) :
    ((contentPosts tree root s).map fun p => p.uri.text).Nodup := by
  unfold contentPosts
  rw [List.Nodup, List.pairwise_map, List.pairwise_filterMap]
  refine (contentFiles_distinct tree root s.cacheDir).imp ?_
  intro a b h x hx y hy
  obtain ⟨u, hu, rfl⟩ := Option.map_eq_some_iff.1 hx
  obtain ⟨v, hv, rfl⟩ := Option.map_eq_some_iff.1 hy
  exact h u v hu hv

/-- The posts that an index is built from stand in increasing order of their paths. -/
theorem contentPosts_increasing (tree : FileTree) (root : Path) (s : Settings) :
    (contentPosts tree root s).Pairwise fun p q => Path.before p.path q.path = true := by
  unfold contentPosts
  rw [List.pairwise_filterMap]
  have hsorted : (contentFiles tree root s.cacheDir).Pairwise fun a b => Path.before b.1 a.1 = false :=
    Path.pairwise_mergeSort_before _
  refine ((contentFiles_distinct tree root s.cacheDir).and hsorted).imp ?_
  rintro a b ⟨hne, hle⟩ x hx y hy
  obtain ⟨u, hu, rfl⟩ := Option.map_eq_some_iff.1 hx
  obtain ⟨v, hv, rfl⟩ := Option.map_eq_some_iff.1 hy
  show Path.before a.1 b.1 = true
  unfold Path.before at hle ⊢
  rcases Path.partsBefore_total (Path.parts a.1) (Path.parts b.1) with e | h | h
  · have hsame := Uri.ofPath?_congr (Uri.isAbsolute_of_ofPath? hu) (Uri.isAbsolute_of_ofPath? hv) e
    rw [hu, hv] at hsame
    exact absurd (congrArg Uri.text (Option.some.inj hsame)) (hne u v hu hv)
  · exact h
  · rw [h] at hle
    cases hle

end Index

end WikiSite
