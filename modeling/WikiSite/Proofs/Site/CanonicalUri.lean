import WikiSite.Proofs.Site.ContentFiles

/-!
# Canonical URIs

A file can be named by several URIs, since percent forms, empty segments, queries and fragments are kept as they are
written. One of them is canonical: the URI that the path of the file gives. A path can be read off its canonical URI up
to slashes that do not count (`parts_documentPath`), so an editor that makes its URIs from absolute paths uses no others
than canonical ones (`isCanonical_iff`). Paths with the same parts have the same canonical URI.
-/

namespace WikiSite

/-! ### Pieces and parts -/

theorem splitWhere_of_not_mem {c : Char} {t : Text} (h : c ∉ t) : splitWhere (· == c) t = [t] := by
  induction t with
  | nil => rfl
  | cons d t ih =>
    rw [List.mem_cons, not_or] at h
    unfold splitWhere
    rw [if_neg (by simpa using Ne.symm h.1), ih h.2]

theorem splitWhere_append_cons {c : Char} {s : Text} (h : c ∉ s) (t : Text) :
    splitWhere (· == c) (s ++ c :: t) = s :: splitWhere (· == c) t := by
  induction s with
  | nil => simp [splitWhere]
  | cons d s ih =>
    rw [List.mem_cons, not_or] at h
    rw [List.cons_append]
    conv => lhs; unfold splitWhere
    rw [if_neg (by simpa using Ne.symm h.1), ih h.2]

/-- Segments without slashes are the pieces of their written sequence. -/
theorem splitWhere_flatMap {s : Text} {ss : List Text} (hs : '/' ∉ s) (hss : ∀ t ∈ ss, '/' ∉ t) :
    splitWhere (· == '/') (s ++ ss.flatMap ('/' :: ·)) = s :: ss := by
  induction ss generalizing s with
  | nil => simpa using splitWhere_of_not_mem hs
  | cons t ss ih =>
    rw [List.flatMap_cons, List.cons_append, splitWhere_append_cons hs,
      ih (hss t (by simp)) fun r hr => hss r (by simp [hr])]

/-- Names without slashes are the pieces of the bytes that they are written by. -/
theorem splitBytes_flatMap {b : UInt8} {s : Bytes} {ss : List Bytes} (hs : b ∉ s) (hss : ∀ t ∈ ss, b ∉ t) :
    splitBytes b (s ++ ss.flatMap (b :: ·)) = s :: ss := by
  induction ss generalizing s with
  | nil => simpa using splitBytes_of_not_mem hs
  | cons t ss ih =>
    rw [List.flatMap_cons, List.cons_append, splitBytes_append, splitBytes_of_not_mem hs,
      ih (hss t (by simp)) fun r hr => hss r (by simp [hr])]
    rfl

theorem not_mem_of_mem_splitBytes {b : UInt8} {p s : Bytes} (hs : s ∈ splitBytes b p) : b ∉ s := by
  induction p generalizing s with
  | nil => simp_all [splitBytes]
  | cons c p ih =>
    unfold splitBytes at hs
    split at hs
    · rcases List.mem_cons.1 hs with rfl | hs
      · exact List.not_mem_nil
      · exact ih hs
    · rename_i hc
      have hc : b ≠ c := by
        rintro rfl
        exact hc (beq_self_eq_true b)
      split at hs
      · rw [List.mem_singleton.1 hs, List.mem_singleton]
        exact hc
      · rename_i piece pieces hp
        rw [hp] at ih
        rcases List.mem_cons.1 hs with rfl | hs
        · rw [List.mem_cons, not_or]
          exact ⟨hc, ih (by simp)⟩
        · exact ih (by simp [hs])

namespace Path

theorem parts_of_isAbsolute {p : Path} (hp : isAbsolute p = true) :
    parts p = .root :: partsOfPieces (splitBytes slash p) := by
  simp [parts, hp]

/-- The parts below the root of an absolute path: they hold no slash, and each is read back from its bytes. -/
theorem bytes_of_mem_parts {p : Path} (hp : isAbsolute p = true) {part : PathPart} (h : part ∈ (parts p).drop 1) :
    slash ∉ part.bytes ∧ partsOfPieces [part.bytes] = [part] := by
  rw [parts_of_isAbsolute hp, List.drop_one, List.tail_cons, partsOfPieces, List.mem_filterMap] at h
  obtain ⟨piece, hpiece, he⟩ := h
  have hslash := not_mem_of_mem_splitBytes hpiece
  split at he
  · cases he
  · rename_i hne
    split at he
    · cases he
      exact ⟨by decide, by decide⟩
    · rename_i hup
      cases he
      refine ⟨hslash, ?_⟩
      show partsOfPieces [piece] = [.name piece]
      simp only [partsOfPieces, List.filterMap_cons, hne, hup, List.filterMap_nil, if_false, Bool.false_eq_true]

/-- The parts of a path that is written by pieces. -/
theorem parts_flatMap {pieces : List Bytes} (hne : pieces ≠ []) (h : ∀ s ∈ pieces, slash ∉ s) :
    parts (pieces.flatMap (slash :: ·)) = .root :: partsOfPieces pieces := by
  have habs : isAbsolute (pieces.flatMap (slash :: ·)) = true := by
    cases pieces with
    | nil => exact absurd rfl hne
    | cons s ss => simp [isAbsolute]
  have hsplit := splitBytes_flatMap (s := []) List.not_mem_nil h
  rw [List.nil_append] at hsplit
  rw [parts_of_isAbsolute habs, hsplit]
  rfl

/-- The names below the root of an absolute path, of which there is at least an empty one. -/
def pieces (p : Path) : List Bytes :=
  let names := ((parts p).drop 1).map PathPart.bytes
  if names.isEmpty then [[]] else names

variable {p : Path}

theorem pieces_ne_nil (p : Path) : pieces p ≠ [] := by
  unfold pieces
  simp only
  split
  · simp
  · rename_i h
    simpa using h

theorem slash_not_mem_pieces (hp : isAbsolute p = true) {s : Bytes} (hs : s ∈ pieces p) : slash ∉ s := by
  unfold pieces at hs
  simp only at hs
  split at hs
  · rw [List.mem_singleton.1 hs]
    exact List.not_mem_nil
  · obtain ⟨part, hpart, rfl⟩ := List.mem_map.1 hs
    exact (bytes_of_mem_parts hp hpart).1

theorem partsOfPieces_pieces (hp : isAbsolute p = true) : parts p = .root :: partsOfPieces (pieces p) := by
  have hroot : parts p = .root :: (parts p).drop 1 := by
    rw [parts_of_isAbsolute hp]
    rfl
  have hbytes : ∀ part ∈ (parts p).drop 1, partsOfPieces [part.bytes] = [part] :=
    fun part hpart => (bytes_of_mem_parts hp hpart).2
  rw [hroot]
  unfold pieces
  rw [hroot]
  generalize (parts p).drop 1 = ps at hbytes
  have hback : partsOfPieces (ps.map PathPart.bytes) = ps := by
    induction ps with
    | nil => rfl
    | cons part ps ih =>
      rw [List.map_cons, ← List.singleton_append, partsOfPieces_append, hbytes part (by simp),
        ih fun r hr => hbytes r (by simp [hr])]
      rfl
  cases ps with
  | nil => rfl
  | cons part ps => simpa using hback.symm

end Path

namespace Uri

/-! ### The path of the URI of a path -/

/-- The URI of a file whose path is written by the pieces. -/
def ofPieces (pieces : List Bytes) : Uri :=
  ⟨"file".toList, some [], [], (pieces.map (encodeBytes segmentSpecial)).flatMap ('/' :: ·), none, none⟩

theorem ofPath?_eq_some {p : Path} {v : Uri} (h : ofPath? p = some v) :
    Path.isAbsolute p = true ∧ v = ofPieces (Path.pieces p) := by
  unfold ofPath? at h
  split at h
  · cases h
  · rename_i hp
    refine ⟨by simpa using hp, ?_⟩
    cases h
    unfold ofPieces Path.pieces
    cases (Path.parts p).drop 1 with
    | nil => rfl
    | cons part ps => simp [Function.comp_def]

/-- The path is read back from the URI, with an empty piece behind it where it ends like a drive. -/
private theorem filePath?_ofPieces {pieces : List Bytes} (hne : pieces ≠ []) :
    ∃ ending, (ending = [] ∨ ending = [[]]) ∧
      (ofPieces pieces).filePath? = some ((pieces ++ ending).flatMap (slash :: ·)) := by
  obtain ⟨s, ss, rfl⟩ := List.exists_cons_of_ne_nil hne
  have hslash : ∀ t ∈ ss.map (encodeBytes segmentSpecial), '/' ∉ t := by
    intro t ht
    obtain ⟨b, -, rfl⟩ := List.mem_map.1 ht
    exact slash_not_mem_encodeBytes b
  have hsplit := splitWhere_flatMap (slash_not_mem_encodeBytes s) hslash
  have hbytes : (encodeBytes segmentSpecial s :: ss.map (encodeBytes segmentSpecial)).flatMap
      (fun t => 0x2F :: decodePercent t) = (s :: ss).flatMap (slash :: ·) := by
    rw [← List.map_cons, List.flatMap_map]
    congr 1
    funext t
    rw [decodePercent_encodeBytes (by decide)]
    rfl
  have hending : ∀ drive : Bool, ∃ ending, (ending = [] ∨ ending = [[]]) ∧
      some (if drive then (s :: ss).flatMap (slash :: ·) ++ [0x2F] else (s :: ss).flatMap (slash :: ·)) =
        some ((s :: ss ++ ending).flatMap (slash :: ·)) := by
    intro drive
    cases drive with
    | true => exact ⟨[[]], .inr rfl, by simp [slash]⟩
    | false => exact ⟨[], .inl rfl, by simp⟩
  unfold filePath? ofPieces
  simp only [List.map_cons, List.flatMap_cons, List.cons_append, List.isEmpty_nil, Bool.not_true, Bool.false_and,
    Bool.false_eq_true, ↓reduceIte]
  rw [hsplit, hbytes]
  exact hending _

theorem documentPath_eq {u : Uri} {p : Path} (h : u.filePath? = some p) : u.documentPath = p := by
  unfold documentPath
  rw [h]

/-- The path of the URI of a path has the parts of the path. -/
theorem parts_documentPath {p : Path} {v : Uri} (h : ofPath? p = some v) :
    v.filePath? = some v.documentPath ∧ Path.isAbsolute v.documentPath = true ∧
      Path.parts v.documentPath = Path.parts p := by
  obtain ⟨hp, rfl⟩ := ofPath?_eq_some h
  obtain ⟨ending, hending, hpath⟩ := filePath?_ofPieces (Path.pieces_ne_nil p)
  have hslash : ∀ s ∈ Path.pieces p ++ ending, slash ∉ s := by
    intro s hs
    rcases List.mem_append.1 hs with hs | hs
    · exact Path.slash_not_mem_pieces hp hs
    · rcases hending with rfl | rfl
      · cases hs
      · rw [List.mem_singleton.1 hs]
        exact List.not_mem_nil
  have hne : Path.pieces p ++ ending ≠ [] := by
    intro e
    exact Path.pieces_ne_nil p (List.append_eq_nil_iff.1 e).1
  have hparts := Path.parts_flatMap hne hslash
  rw [documentPath_eq hpath]
  refine ⟨hpath, ?_, ?_⟩
  · obtain ⟨s, ss, e⟩ := List.exists_cons_of_ne_nil hne
    rw [e]
    rfl
  · rw [hparts, Path.partsOfPieces_append, Path.partsOfPieces_pieces hp]
    rcases hending with rfl | rfl <;> simp [Path.partsOfPieces]

/-! ### The canonical URI of a file -/

/-- The URI is the one that the path which it names gives. -/
def IsCanonical (u : Uri) : Prop := u.filePath?.bind ofPath? = some u

instance (u : Uri) : Decidable u.IsCanonical := inferInstanceAs (Decidable (_ = _))

theorem IsCanonical.ofPath?_documentPath {u : Uri} (h : u.IsCanonical) : ofPath? u.documentPath = some u := by
  obtain ⟨p, hp, hu⟩ := Option.bind_eq_some_iff.1 h
  rw [documentPath_eq hp, hu]

/-- A canonical URI is known by its written form. -/
theorem IsCanonical.eq_of_text {u v : Uri} (hu : u.IsCanonical) (hv : v.IsCanonical) (h : u.text = v.text) : u = v := by
  have hpath : ∀ ps qs, (ofPieces ps).text = (ofPieces qs).text → (ofPieces ps).path = (ofPieces qs).path := by
    intro ps qs hpq
    simpa [text, ofPieces] using hpq
  obtain ⟨-, eu⟩ := ofPath?_eq_some hu.ofPath?_documentPath
  obtain ⟨-, ev⟩ := ofPath?_eq_some hv.ofPath?_documentPath
  rw [eu, ev] at h ⊢
  -- the other components are those of every file
  exact congrArg (fun t => (⟨"file".toList, some [], [], t, none, none⟩ : Uri)) (hpath _ _ h)

/-- The canonical URIs are the URIs of paths. -/
theorem isCanonical_iff {u : Uri} : u.IsCanonical ↔ ∃ p, ofPath? p = some u := by
  constructor
  · intro hu
    exact ⟨u.documentPath, hu.ofPath?_documentPath⟩
  · rintro ⟨p, h⟩
    obtain ⟨hpath, hu, hparts⟩ := parts_documentPath h
    unfold IsCanonical
    rw [hpath, Option.bind_some, ofPath?_congr hu (isAbsolute_of_ofPath? h) hparts, h]

end Uri

end WikiSite
