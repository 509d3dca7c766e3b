import WikiSite.Proofs.Site.Registration

/-!
# The files that a build registers

A file below a directory is eligible when its name ends in `.md`, its bytes are text, and no directory on the way to it
is left out (`Eligible`). This is said of the names that lead to the file. The build asks it of paths and of bytes: the
extension of the last part of a path, the beginnings of a sequence of names, the reading of bytes. Both agree
(`mem_contentFiles`), so a build registers the eligible files, each once, and the last of those that claim a slug holds
it (`build_registers`).
-/

namespace WikiSite

/-! ### The extension of a file name -/

theorem flatten_intersperse_splitBytes (b : UInt8) (p : Bytes) : ((splitBytes b p).intersperse [b]).flatten = p := by
  induction p with
  | nil => rfl
  | cons c p ih =>
    rw [splitBytes_cons]
    cases hp : splitBytes b p with
    | nil => exact absurd hp (splitBytes_ne_nil b p)
    | cons piece pieces =>
      rw [hp] at ih
      by_cases hc : c = b
      · subst hc
        simp [ih]
      · rw [if_neg (by simpa using hc)]
        cases pieces <;> simpa using ih

namespace Path

theorem cutExtension_of_not_mem {n : Bytes} (h : dot ∉ n) : (cutExtension n).2 = none := by
  unfold cutExtension
  rw [splitBytes_of_not_mem h]
  rfl

theorem cutExtension_append {ext : Bytes} (h : dot ∉ ext) (stem : Bytes) :
    (cutExtension (stem ++ dot :: ext)).2 = if stem = [] then none else some ext := by
  have hstem := flatten_intersperse_splitBytes dot stem
  unfold cutExtension
  rw [splitBytes_append, splitBytes_of_not_mem h, List.reverse_append]
  cases hp : (splitBytes dot stem).reverse with
  | nil => exact absurd (List.reverse_eq_nil_iff.1 hp) (splitBytes_ne_nil dot stem)
  | cons piece pieces =>
    have hback : (piece :: pieces).reverse = splitBytes dot stem := by rw [← hp, List.reverse_reverse]
    simp only [List.reverse_singleton, List.singleton_append, hback, hstem, List.isEmpty_iff]
    split <;> rfl

theorem cutExtension_eq_some {n ext : Bytes} :
    (cutExtension n).2 = some ext ↔ ∃ stem, stem ≠ [] ∧ n = stem ++ dot :: ext ∧ dot ∉ ext := by
  constructor
  · intro h
    by_cases hn : dot ∈ n
    · -- the last point of the name
      obtain ⟨as, bs, hcut, hlast⟩ := List.eq_append_cons_of_mem (List.mem_reverse.2 hn)
      have hcut : n = bs.reverse ++ dot :: as.reverse := by
        rw [← List.reverse_reverse n, hcut]
        simp
      have hlast : dot ∉ as.reverse := by rwa [List.mem_reverse]
      rw [hcut, cutExtension_append hlast] at h
      split at h
      · cases h
      · rename_i hstem
        cases h
        exact ⟨_, hstem, hcut, hlast⟩
    · rw [cutExtension_of_not_mem hn] at h
      cases h
  · rintro ⟨stem, hstem, rfl, hext⟩
    rw [cutExtension_append hext, if_neg hstem]

/-- The name of a file below a directory is the last of the names that lead to it. -/
theorem fileName?_foldl_join {root : Path} {names : List Bytes} (hroot : isAbsolute root = true)
    (hnames : names.all isFileName = true) (hne : names ≠ []) :
    fileName? (parts (names.foldl join root)) = names.getLast? := by
  unfold fileName?
  rw [parts_foldl_join hroot hnames, List.getLast?_append, List.getLast?_map]
  cases hlast : names.getLast? with
  | none => exact absurd (List.getLast?_eq_none_iff.1 hlast) hne
  | some n => rfl

end Path

/-! ### Content files by name -/

/-- A file name with a stem and the extension `md`, in any letter case. -/
def IsContentName (n : Bytes) : Prop :=
  ∃ stem m d, stem ≠ [] ∧ n = stem ++ [dot, m, d] ∧ (m = 0x4D ∨ m = 0x6D) ∧ (d = 0x44 ∨ d = 0x64)

/-- A character is its lowercase form or stands 32 places in front of it. -/
private theorem of_toLower_eq {c d : Char} (h : c.toLower = d) : c = d ∨ c.toNat + 32 = d.toNat := by
  unfold Char.toLower at h
  split at h
  · rename_i hc
    have hlast : c.toNat ≤ 0x5A := hc.2
    subst h
    right
    show c.toNat + 32 = (c.val + 32).toNat
    rw [UInt32.toNat_add]
    show c.toNat + 32 = (c.toNat + 32) % 2 ^ 32
    omega
  · exact .inl h

/-- A letter is one byte, in either case. -/
private theorem utf8EncodeChar_of_toLower {c d : Char} (h : c.toLower = d) (hd : 32 ≤ d.toNat ∧ d.toNat < 0x80) :
    String.utf8EncodeChar c = [UInt8.ofNat (d.toNat - 32)] ∨ String.utf8EncodeChar c = [UInt8.ofNat d.toNat] := by
  rcases of_toLower_eq h with rfl | hc
  · exact .inr (utf8EncodeChar_of_lt hd.2)
  · left
    rw [utf8EncodeChar_of_lt (by omega), show c.toNat = d.toNat - 32 by omega]

private theorem encodeUtf8_of_sameLetters {t : Text} (h : sameLetters t "md".toList = true) :
    ∃ m d, encodeUtf8 t = [m, d] ∧ (m = 0x4D ∨ m = 0x6D) ∧ (d = 0x44 ∨ d = 0x64) := by
  have h : t.map Char.toLower = ['m', 'd'] := by simpa [sameLetters] using h
  obtain ⟨a, r, rfl, ha, hr⟩ := List.map_eq_cons_iff.1 h
  obtain ⟨b, r, rfl, hb, hr⟩ := List.map_eq_cons_iff.1 hr
  obtain rfl := List.map_eq_nil_iff.1 hr
  have hm := utf8EncodeChar_of_toLower ha (by decide)
  have hd := utf8EncodeChar_of_toLower hb (by decide)
  rw [encodeUtf8_cons, encodeUtf8_cons]
  rcases hm with hm | hm <;> rcases hd with hd | hd <;> rw [hm, hd]
  · exact ⟨0x4D, 0x44, rfl, .inl rfl, .inl rfl⟩
  · exact ⟨0x4D, 0x64, rfl, .inl rfl, .inr rfl⟩
  · exact ⟨0x6D, 0x44, rfl, .inr rfl, .inl rfl⟩
  · exact ⟨0x6D, 0x64, rfl, .inr rfl, .inr rfl⟩

private theorem sameLetters_of_bytes {m d : UInt8} (hm : m = 0x4D ∨ m = 0x6D) (hd : d = 0x44 ∨ d = 0x64) :
    ∃ t, decodeUtf8 [m, d] = some t ∧ sameLetters t "md".toList = true := by
  rcases hm with rfl | rfl <;> rcases hd with rfl | rfl
  · exact ⟨"MD".toList, rfl, rfl⟩
  · exact ⟨"Md".toList, rfl, rfl⟩
  · exact ⟨"mD".toList, rfl, rfl⟩
  · exact ⟨"md".toList, rfl, rfl⟩

namespace Index

theorem isContentFile_iff {p : Path} :
    isContentFile p = true ↔ ∃ n, Path.fileName? (Path.parts p) = some n ∧ IsContentName n := by
  unfold isContentFile
  constructor
  · intro h
    split at h
    · rename_i t ht
      obtain ⟨ext, hext, ht⟩ := Option.bind_eq_some_iff.1 ht
      obtain ⟨n, hn, hext⟩ := Option.bind_eq_some_iff.1 hext
      obtain ⟨stem, hstem, rfl, -⟩ := Path.cutExtension_eq_some.1 hext
      obtain ⟨m, d, hmd, hm, hd⟩ := encodeUtf8_of_sameLetters h
      rw [decodeUtf8_eq_some, hmd] at ht
      exact ⟨_, hn, stem, m, d, hstem, by rw [ht], hm, hd⟩
    · cases h
  · rintro ⟨n, hn, stem, m, d, hstem, rfl, hm, hd⟩
    have hext : (Path.cutExtension (stem ++ [dot, m, d])).2 = some [m, d] := by
      rw [Path.cutExtension_eq_some]
      refine ⟨stem, hstem, rfl, ?_⟩
      rcases hm with rfl | rfl <;> rcases hd with rfl | rfl <;> decide
    obtain ⟨t, ht, hsame⟩ := sameLetters_of_bytes hm hd
    simp only [hn, hext, ht, Option.bind_some, hsame]

end Index

/-! ### The files below a directory -/

namespace FileTree

variable {tree : FileTree} {root : Path} {base names : List Bytes} {bytes : Bytes}

theorem mem_files : (names, bytes) ∈ tree.files ↔ tree.file? names = some bytes := by
  unfold file?
  rw [List.lookup_eq_some_iff]
  constructor
  · intro h
    obtain ⟨before, behind, hsplit⟩ := List.append_of_mem h
    refine ⟨before, behind, hsplit, ?_⟩
    intro f hf
    have hd := tree.distinct
    rw [hsplit, List.map_append, List.nodup_append] at hd
    have := hd.2.2 f.1 (List.mem_map_of_mem hf) names (by simp)
    simpa using this.symm
  · rintro ⟨before, behind, hsplit, -⟩
    rw [hsplit]
    simp

theorem mem_filesBelow (h : tree.locate root = .ok base) :
    (names, bytes) ∈ tree.filesBelow root ↔ tree.file? (base ++ names) = some bytes := by
  unfold filesBelow
  rw [h, ← mem_files]
  simp only [List.mem_map, List.mem_filter, List.isPrefixOf_iff_prefix, Prod.mk.injEq]
  constructor
  · rintro ⟨f, ⟨hf, rest, hrest⟩, rfl, rfl⟩
    rw [← hrest, List.drop_left, hrest]
    exact hf
  · intro hf
    exact ⟨_, ⟨hf, List.prefix_append base names⟩, List.drop_left, rfl⟩

/-- Files are reached by file names from every directory. -/
theorem all_isFileName (h : tree.file? (base ++ names) = some bytes) : names.all isFileName = true := by
  have hnamed : (base ++ names).all isFileName = true := tree.named _ (mem_files.2 h)
  rw [List.all_append, Bool.and_eq_true] at hnamed
  exact hnamed.2

end FileTree

theorem Uri.exists_ofPath? {p : Path} (h : Path.isAbsolute p = true) : ∃ uri, Uri.ofPath? p = some uri := by
  unfold Uri.ofPath?
  rw [h]
  exact ⟨_, rfl⟩

/-! ### Eligible files -/

namespace Index

/-- The absolute path leads to the directory `base` of the tree, where no file is. -/
structure LeadsToDir (tree : FileTree) (root : Path) (base : List Bytes) : Prop where
  absolute : Path.isAbsolute root = true
  located : tree.locate root = .ok base
  isDir : tree.isDir base = true
  notFile : tree.file? base = none

/-- A directory below the root is left out: by its name, or because its path is that of the cache. -/
def LeftOut (root : Path) (cacheDir : Text) (dirs : List Bytes) : Prop :=
  (∃ name ∈ [".git", "node_modules", "output"], dirs.getLast? = some (encodeUtf8 name.toList)) ∨
    Path.parts (dirs.foldl Path.join root) = Path.parts (Path.join root (Path.ofText cacheDir))

/-- The names lead from the directory `base` to a content file with the text, and through no directory that is left
out. -/
structure Eligible (tree : FileTree) (root : Path) (base : List Bytes) (cacheDir : Text) (names : List Bytes)
    (text : Text) : Prop where
  isFile : tree.file? (base ++ names) = some (encodeUtf8 text)
  isContent : ∃ n, names.getLast? = some n ∧ IsContentName n
  visible : ∀ dirs rest, names = dirs ++ rest → dirs ≠ [] → rest ≠ [] → ¬ LeftOut root cacheDir dirs

theorem isSkippedDir_iff {root : Path} {cacheDir : Text} {dirs : List Bytes} :
    isSkippedDir root (Path.join root (Path.ofText cacheDir)) dirs = true ↔ LeftOut root cacheDir dirs := by
  unfold isSkippedDir LeftOut Path.same
  rw [Bool.or_eq_true, beq_iff_eq]
  refine or_congr_left ?_
  have hnames : skippedDirs = [".git", "node_modules", "output"].map String.toList := rfl
  rw [hnames, Option.any_eq_true]
  constructor
  · rintro ⟨t, ht, hmem⟩
    obtain ⟨n, hn, ht⟩ := Option.bind_eq_some_iff.1 ht
    obtain ⟨name, hname, rfl⟩ := List.mem_map.1 (List.contains_iff_mem.1 hmem)
    exact ⟨name, hname, by rw [hn, decodeUtf8_eq_some.1 ht]⟩
  · rintro ⟨name, hname, hlast⟩
    refine ⟨name.toList, ?_, List.contains_iff_mem.2 (List.mem_map_of_mem hname)⟩
    rw [hlast, Option.bind_some, decodeUtf8_encodeUtf8]

variable {tree : FileTree} {root : Path} {base : List Bytes} {cacheDir : Text}

/-- A file lies open when no directory that leads to it is left out. -/
theorem open_iff {names : List Bytes} :
    FileTree.Open (fun dirs => dirs.isEmpty || !isSkippedDir root (Path.join root (Path.ofText cacheDir)) dirs) []
        names ↔
      ∀ dirs rest, names = dirs ++ rest → dirs ≠ [] → rest ≠ [] → ¬ LeftOut root cacheDir dirs := by
  unfold FileTree.Open
  simp only [List.nil_append, Bool.or_eq_true, List.isEmpty_iff, Bool.not_eq_true', ← Bool.not_eq_true,
    isSkippedDir_iff]
  constructor
  · intro h dirs rest hnames hdirs hrest
    exact (h dirs rest hnames hrest).resolve_left hdirs
  · intro h dirs rest hnames hrest
    by_cases hdirs : dirs = []
    · exact .inl hdirs
    · exact .inr (h dirs rest hnames hdirs hrest)

/-- A build reads the eligible files. -/
theorem mem_contentFiles (h : LeadsToDir tree root base) {f : Path × Text} :
    f ∈ contentFiles tree root cacheDir ↔
      ∃ names, Eligible tree root base cacheDir names f.2 ∧ f.1 = names.foldl Path.join root := by
  unfold contentFiles
  rw [List.mem_mergeSort, List.mem_filterMap]
  -- the root itself is no file
  have hnames : ∀ {names bytes}, tree.file? (base ++ names) = some bytes → names ≠ [] →
      (isContentFile (names.foldl Path.join root) = true ↔ ∃ n, names.getLast? = some n ∧ IsContentName n) := by
    intro names bytes hfile hne
    rw [isContentFile_iff, Path.fileName?_foldl_join h.absolute (FileTree.all_isFileName hfile) hne]
  constructor
  · rintro ⟨⟨names, bytes⟩, hfound, hf⟩
    obtain ⟨hbelow, hopen⟩ := FileTree.mem_walk.1 hfound
    have hfile := (FileTree.mem_filesBelow h.located).1 hbelow
    obtain ⟨hcontent, rfl, hpath⟩ := contentFile?_eq_some.1 hf
    have hne : names ≠ [] := by
      rintro rfl
      rw [List.append_nil, h.notFile] at hfile
      cases hfile
    exact ⟨names, ⟨hfile, (hnames hfile hne).1 hcontent, open_iff.1 hopen⟩, hpath⟩
  · rintro ⟨names, ⟨hfile, hcontent, hvisible⟩, hpath⟩
    have hne : names ≠ [] := by
      rintro rfl
      obtain ⟨n, hn, -⟩ := hcontent
      cases hn
    have hfound := FileTree.mem_walk.2 ⟨(FileTree.mem_filesBelow h.located).2 hfile, open_iff.2 hvisible⟩
    exact ⟨_, hfound, contentFile?_eq_some.2 ⟨(hnames hfile hne).2 hcontent, rfl, hpath⟩⟩

/-! ### What a build registers -/

/-- In a log that is in order the holder of a slug comes after the others that claim it. -/
theorem Log.holder_of_pairwise {log : Log} {R : Post → Post → Prop} (h : log.Pairwise R) {p : Post} (hp : p ∈ log) :
    ∃ q, Log.holder log p.slug = some q ∧ (p = q ∨ R p q) := by
  have hclaims : (Log.claims log p.slug).Pairwise R := h.filter _
  have hmem : p ∈ Log.claims log p.slug := Log.mem_claims.2 ⟨hp, rfl⟩
  rw [Log.claims_eq, List.pairwise_append] at hclaims
  rw [Log.claims_eq, List.mem_append] at hmem
  cases hq : Log.holder log p.slug with
  | none =>
    rw [hq, Log.waiting_of_holder_none hq] at hmem
    simp at hmem
  | some q =>
    rw [hq, Option.toList_some] at hclaims hmem
    refine ⟨q, rfl, ?_⟩
    rcases hmem with hmem | hmem
    · exact .inr (hclaims.2.2 p hmem q (List.mem_singleton_self q))
    · exact .inl (List.mem_singleton.1 hmem)

/-- The URIs of the live posts and of those that wait, as they are written. -/
def registeredUris (ix : Index) : List Text := ix.slugs.map (·.1) ++ ix.displacedPosts.map fun p => p.uri.text

theorem Reflects.mem_registeredUris {ix : Index} {log : Log} (h : Reflects ix log) {u : Text} :
    u ∈ ix.registeredUris ↔ ∃ p, ix.Knows p ∧ p.uri.text = u := by
  have hwaiting : ∀ p, p ∈ ix.displacedPosts ↔ ix.IsWaiting p := by
    intro p
    rw [h.mem_displacedPosts, IsWaiting, h.waitingFor_eq]
  unfold registeredUris
  rw [List.mem_append, List.mem_map, List.mem_map]
  constructor
  · rintro (⟨⟨v, s⟩, hmem, rfl⟩ | ⟨p, hp, rfl⟩)
    · have hs := h.holds.slugs_ordered.mem_iff.1 hmem
      obtain ⟨p, hp, hu, rfl⟩ := h.coherent.slug_leads v s hs
      exact ⟨p, .inl ⟨by rw [hu, hs], hp⟩, hu⟩
    · exact ⟨p, .inr ((hwaiting p).1 hp), rfl⟩
  · rintro ⟨p, hlive | hwait, rfl⟩
    · exact .inl ⟨_, Table.mem_of_get? hlive.1, rfl⟩
    · exact .inr ⟨p, (hwaiting p).2 hwait, rfl⟩

/-- No file is registered twice. -/
theorem Coherent.registeredUris_nodup {ix : Index} (h : Coherent ix) : ix.registeredUris.Nodup := by
  unfold registeredUris
  rw [List.nodup_append]
  refine ⟨?_, h.once.1, ?_⟩
  · rw [List.Nodup, List.pairwise_map]
    exact h.ordered.2.1.imp fun hlt => hlt.ne
  · rintro u hu v hv rfl
    obtain ⟨⟨w, s⟩, hmem, rfl⟩ := List.mem_map.1 hu
    obtain ⟨p, hp, heq⟩ := List.mem_map.1 hv
    have hnone := h.once.2 p hp
    rw [heq, h.ordered.2.1.mem_iff.1 hmem] at hnone
    cases hnone

/-- The index registers the eligible files below a directory. -/
structure Registers (ix : Index) (tree : FileTree) (root : Path) (base : List Bytes) (s : Settings) : Prop where
  /-- The registered URIs are those of the eligible files. -/
  uris : ∀ u, u ∈ ix.registeredUris ↔ ∃ names text uri, Eligible tree root base s.cacheDir names text ∧
    Uri.ofPath? (names.foldl Path.join root) = some uri ∧ uri.text = u
  /-- Every eligible file has a URI. -/
  addressed : ∀ names text, Eligible tree root base s.cacheDir names text →
    ∃ uri, Uri.ofPath? (names.foldl Path.join root) = some uri
  /-- No URI is registered twice. -/
  once : ix.registeredUris.Nodup
  /-- A file is registered with the post of its text. -/
  posts : ∀ p, ix.Knows p ↔ ∃ names text, Eligible tree root base s.cacheDir names text ∧
    Uri.ofPath? (names.foldl Path.join root) = some p.uri ∧
    p = Post.ofContent (some root) (names.foldl Path.join root) p.uri text s.excerptLength
  /-- A slug belongs to the last file in the order of paths that claims it. -/
  lastHolds : ∀ p, ix.Knows p → ∃ q, ix.IsLive q ∧ q.slug = p.slug ∧ (p = q ∨ Path.before p.path q.path = true)

/-- The posts that an index is built from, by the names that lead to their files. -/
theorem mem_contentPosts_iff (h : LeadsToDir tree root base) {s : Settings} {p : Post} :
    p ∈ contentPosts tree root s ↔ ∃ names text, Eligible tree root base s.cacheDir names text ∧
      Uri.ofPath? (names.foldl Path.join root) = some p.uri ∧
      p = Post.ofContent (some root) (names.foldl Path.join root) p.uri text s.excerptLength := by
  rw [mem_contentPosts]
  constructor
  · rintro ⟨f, hf, huri, hp⟩
    obtain ⟨names, he, hpath⟩ := (mem_contentFiles h).1 hf
    rw [hpath] at huri hp
    exact ⟨names, f.2, he, huri, hp⟩
  · rintro ⟨names, text, he, huri, hp⟩
    exact ⟨(names.foldl Path.join root, text), (mem_contentFiles h).2 ⟨names, he, rfl⟩, huri, hp⟩

/-- Whatever the index held before, a build registers the eligible files below its directory, and the index that it
leaves is the same. -/
theorem build_registers (ix : Index) (order : PostOrder) (tree : FileTree) (root : Path) (base : List Bytes)
    (s : Settings) (h : LeadsToDir tree root base) :
    Registers (ix.step (.build order tree root s)) tree root base s ∧
      ∀ other : Index, other.step (.build order tree root s) = ix.step (.build order tree root s) := by
  have hr : Reflects (build order tree root s) (contentPosts tree root s) :=
    (after_agrees [.build order tree root s]).reflects
  have haddressed : ∀ names text, Eligible tree root base s.cacheDir names text →
      ∃ uri, Uri.ofPath? (names.foldl Path.join root) = some uri := by
    intro names text he
    apply Uri.exists_ofPath?
    rw [Path.isAbsolute_foldl_join (FileTree.all_isFileName he.isFile), h.absolute]
  have hposts := fun p => (knows_build order tree root s p).trans (mem_contentPosts_iff h)
  refine ⟨⟨?_, haddressed, hr.coherent.registeredUris_nodup, hposts, ?_⟩, fun _ => rfl⟩
  · intro u
    refine hr.mem_registeredUris.trans ⟨?_, ?_⟩
    · rintro ⟨p, hp, rfl⟩
      obtain ⟨names, text, he, huri, -⟩ := (hposts p).1 hp
      exact ⟨names, text, p.uri, he, huri, rfl⟩
    · rintro ⟨names, text, uri, he, huri, rfl⟩
      exact ⟨Post.ofContent (some root) _ uri text s.excerptLength, (hposts _).2 ⟨names, text, he, huri, rfl⟩, rfl⟩
  · intro p hp
    obtain ⟨q, hq, hlast⟩ := Log.holder_of_pairwise (contentPosts_increasing tree root s) (hr.knows_iff.1 hp)
    have hslug := Log.slug_of_holder hq
    exact ⟨q, hr.isLive_iff.2 (by rw [hslug, hq]), hslug, hlast⟩

/-- A directory with two content files that claim one slug, a file named like a directory that is left out, and a file
in such a directory. -/
private def notes : FileTree :=
  let name (t : String) : Bytes := encodeUtf8 t.toList
  let site : List (List Bytes × String) :=
    [([name "srv", name "a.md"], "---\nslug: x\n---\n"),
      ([name "srv", name "deep", name "B.MD"], "---\nslug: x\n---\n"),
      ([name "srv", name "deep", name "output"], "text"), ([name "srv", name "output", name "c.md"], "text")]
  site.foldl (fun tree f => tree.write f.1 (name f.2)) (FileTree.empty [])

theorem build_registers_notes :
    LeadsToDir notes (Path.ofText "/srv/".toList) [Path.ofText "srv".toList] ∧
      Registers (empty.step (.build .asListed notes (Path.ofText "/srv/".toList) Settings.default)) notes
        (Path.ofText "/srv/".toList) [Path.ofText "srv".toList] Settings.default ∧
      ∀ other : Index, other.step (.build .asListed notes (Path.ofText "/srv/".toList) Settings.default) =
        empty.step (.build .asListed notes (Path.ofText "/srv/".toList) Settings.default) := by
  have h : LeadsToDir notes (Path.ofText "/srv/".toList) [Path.ofText "srv".toList] :=
    ⟨by decide +kernel, by decide +kernel, by decide +kernel, by decide +kernel⟩
  exact ⟨h, build_registers empty .asListed notes _ _ Settings.default h⟩

end Index

end WikiSite
