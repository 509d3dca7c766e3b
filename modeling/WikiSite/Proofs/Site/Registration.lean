import WikiSite.Proofs.Site.Ownership

/-!
# Registered posts

A post is registered when the index knows it, whether it is live or waits for its slug. Seen this way the index is a
map from files to posts, and its operations are those of a map: an update puts the post of its file in place of an
earlier one (`Reached.knows_update`), a removal takes the post of its file out (`Reached.knows_remove`), a build
starts with the posts of the directory (`knows_build`), and no file has two posts (`Reached.eq_of_uri`). Slugs and
collisions do not show. Whatever comes about by updates and removals (`Patched`) is an index of the same site.
-/

namespace WikiSite

namespace Index

/-- The index can come about by operations. -/
def Reached (ix : Index) : Prop := ∃ steps, after steps = ix

theorem reached_empty : Reached empty := ⟨[], rfl⟩

theorem reached_build (order : PostOrder) (tree : FileTree) (root : Path) (s : Settings) :
    Reached (build order tree root s) :=
  ⟨[.build order tree root s], rfl⟩

/-- The post of a content, as an update of the index makes it. -/
def postOf (ix : Index) (uri : Uri) (content : Text) : Post :=
  Post.ofContent ix.root uri.documentPath uri content ix.settings.excerptLength

@[simp] theorem uri_postOf (ix : Index) (uri : Uri) (content : Text) : (ix.postOf uri content).uri = uri := rfl

theorem sameSite_update (ix : Index) (uri : Uri) (content : Text) : SameSite ix (ix.update uri content) :=
  (sameSite_retract ix uri).trans (sameSite_insert _ _)

theorem sameSite_remove (ix : Index) (uri : Uri) : SameSite ix (ix.remove uri).2 := sameSite_retract ix uri

/-- Posts are made alike by indexes of the same site. -/
theorem SameSite.postOf_eq {ix ix' : Index} (h : SameSite ix ix') (uri : Uri) (content : Text) :
    ix'.postOf uri content = ix.postOf uri content := by
  unfold postOf
  rw [h.root, h.settings]

namespace Reached

variable {ix : Index}

theorem step (h : Reached ix) (s : Step) : Reached (ix.step s) := by
  obtain ⟨steps, rfl⟩ := h
  exact ⟨steps ++ [s], List.foldl_append⟩

theorem update (h : Reached ix) (uri : Uri) (content : Text) : Reached (ix.update uri content) :=
  h.step (.update uri content)

theorem remove (h : Reached ix) (uri : Uri) : Reached (ix.remove uri).2 := h.step (.remove uri)

theorem mem_livePosts (h : Reached ix) {p : Post} : p ∈ ix.livePosts ↔ ix.IsLive p := by
  obtain ⟨steps, rfl⟩ := h
  have hr := (after_agrees steps).reflects
  rw [hr.isLive_iff, ← hr.mem_allPosts, allPosts, List.mem_mergeSort]

/-- The posts of a file are one post. -/
theorem eq_of_uri (h : Reached ix) {p q : Post} (hp : ix.Knows p) (hq : ix.Knows q) (hu : p.uri.text = q.uri.text) :
    p = q := by
  obtain ⟨steps, rfl⟩ := h
  have hr := (after_agrees steps).reflects
  exact hr.distinct.eq_of_uri (hr.knows_iff.1 hp) (hr.knows_iff.1 hq) hu

/-- An update puts the post of its file in place of an earlier one. -/
theorem knows_update (h : Reached ix) (uri : Uri) (content : Text) (p : Post) :
    (ix.update uri content).Knows p ↔ ix.Knows p ∧ p.uri.text ≠ uri.text ∨ p = ix.postOf uri content := by
  obtain ⟨steps, rfl⟩ := h
  have hbefore := after_agrees steps
  have hafter := hbefore.step (.update uri content)
  rw [show (after steps).update uri content = (after steps).step (.update uri content) from rfl,
    hafter.reflects.knows_iff, hbefore.reflects.knows_iff]
  show p ∈ Log.without _ _ ++ [_] ↔ _
  rw [List.mem_append, List.mem_singleton, Log.mem_without, ← hbefore.root, ← hbefore.settings]
  rfl

/-- A removal takes the post of its file out. -/
theorem knows_remove (h : Reached ix) (uri : Uri) (p : Post) :
    (ix.remove uri).2.Knows p ↔ ix.Knows p ∧ p.uri.text ≠ uri.text := by
  obtain ⟨steps, rfl⟩ := h
  have hbefore := after_agrees steps
  have hafter := hbefore.step (.remove uri)
  rw [show ((after steps).remove uri).2 = (after steps).step (.remove uri) from rfl,
    hafter.reflects.knows_iff, hbefore.reflects.knows_iff]
  exact Log.mem_without

end Reached

/-! ### Updates and removals -/

/-- The second index comes about from the first by updates and removals. -/
inductive Patched (ix : Index) : Index → Prop where
  | refl : Patched ix ix
  | update {ix' : Index} (h : Patched ix ix') (uri : Uri) (content : Text) : Patched ix (ix'.update uri content)
  | remove {ix' : Index} (h : Patched ix ix') (uri : Uri) : Patched ix (ix'.remove uri).2

namespace Patched

variable {ix ix' ix'' : Index}

theorem trans (h : Patched ix ix') (h' : Patched ix' ix'') : Patched ix ix'' := by
  induction h' with
  | refl => exact h
  | update _ uri content ih => exact ih.update uri content
  | remove _ uri ih => exact ih.remove uri

theorem sameSite (h : Patched ix ix') : SameSite ix ix' := by
  induction h with
  | refl => exact ⟨rfl, rfl, rfl⟩
  | update _ uri content ih => exact ih.trans (sameSite_update _ uri content)
  | remove _ uri ih => exact ih.trans (sameSite_remove _ uri)

theorem reached (h : Patched ix ix') (hix : Reached ix) : Reached ix' := by
  induction h with
  | refl => exact hix
  | update _ uri content ih => exact ih.update uri content
  | remove _ uri ih => exact ih.remove uri

end Patched

theorem patched_of_indexFile {ix ix' : Index} {tree : FileTree} {path : Path} (h : ix.indexFile tree path = .ok ix') :
    Patched ix ix' := by
  unfold indexFile at h
  split at h
  · cases h
  split at h
  · cases h
    exact .update .refl _ _
  · cases h

/-! ### Builds -/

/-- A build starts with the posts of the directory. -/
theorem knows_build (order : PostOrder) (tree : FileTree) (root : Path) (s : Settings) (p : Post) :
    (build order tree root s).Knows p ↔ p ∈ contentPosts tree root s :=
  (after_agrees [.build order tree root s]).reflects.knows_iff

/-- A build reads the content files of the directory. -/
theorem mem_contentPosts {tree : FileTree} {root : Path} {s : Settings} {p : Post} :
    p ∈ contentPosts tree root s ↔ ∃ f ∈ contentFiles tree root s.cacheDir, Uri.ofPath? f.1 = some p.uri ∧
      p = Post.ofContent (some root) f.1 p.uri f.2 s.excerptLength := by
  unfold contentPosts
  rw [List.mem_filterMap]
  constructor
  · rintro ⟨f, hf, hp⟩
    obtain ⟨uri, huri, rfl⟩ := Option.map_eq_some_iff.1 hp
    exact ⟨f, hf, huri, rfl⟩
  · rintro ⟨f, hf, huri, hp⟩
    refine ⟨f, hf, ?_⟩
    show (Uri.ofPath? f.1).map _ = some p
    rw [huri, Option.map_some, ← hp]

theorem root_build (order : PostOrder) (tree : FileTree) (root : Path) (s : Settings) :
    (build order tree root s).root = some root :=
  (after_agrees [.build order tree root s]).root

theorem settings_build (order : PostOrder) (tree : FileTree) (root : Path) (s : Settings) :
    (build order tree root s).settings = s :=
  (after_agrees [.build order tree root s]).settings

theorem not_knows_empty (p : Post) : ¬ empty.Knows p := by
  have h : empty.Knows p ↔ p ∈ (Ledger.after []).log := (after_agrees []).reflects.knows_iff
  rw [h]
  exact List.not_mem_nil

end Index

end WikiSite
