import WikiSite.Proofs.Site.Claims
import WikiSite.Proofs.Site.ContentFiles

/-!
# Histories of an index

A history is a sequence of operations on the index: building from a directory, indexing a file anew and taking a file
out. Beside the index runs a ledger, which only keeps the log of claims: a build starts it with the posts of the
directory in the order of their paths, an update moves its file to the end, and a removal strikes its file out. After
every history the index is in the state that the log describes (`after_agrees`).
-/

namespace WikiSite

namespace Index

/-! ### Operations -/

/-- An operation on an index. -/
inductive Step where
  | build (order : PostOrder) (tree : FileTree) (root : Path) (settings : Settings)
  | update (uri : Uri) (content : Text)
  | remove (uri : Uri)
  | indexFile (tree : FileTree) (path : Path)

/-- The index after an operation. A file that cannot be read changes nothing. -/
def step (ix : Index) : Step → Index
  | .build order tree root settings => build order tree root settings
  | .update uri content => ix.update uri content
  | .remove uri => (ix.remove uri).2
  | .indexFile tree path =>
    match ix.indexFile tree path with
    | .ok ix => ix
    | .error _ => ix

/-- The index after a history that starts with nothing. -/
def after (steps : List Step) : Index := steps.foldl step empty

/-- The log of claims, with what a post is made from. -/
structure Ledger where
  root : Option Path
  settings : Settings
  log : Log

namespace Ledger

/-- The ledger of nothing. -/
def empty : Ledger := ⟨none, Settings.default, []⟩

/-- Moves a file to the end of the log with the post of its content. -/
def record (l : Ledger) (uri : Uri) (content : Text) : Ledger :=
  { l with
    log := Log.without l.log uri.text ++
      [Post.ofContent l.root uri.documentPath uri content l.settings.excerptLength] }

/-- Deletes a file from the log. -/
def strike (l : Ledger) (uri : Uri) : Ledger := { l with log := Log.without l.log uri.text }

/-- The ledger after an operation. -/
def step (l : Ledger) : Step → Ledger
  | .build _ tree root settings => ⟨some root, settings, contentPosts tree root settings⟩
  | .update uri content => l.record uri content
  | .remove uri => l.strike uri
  | .indexFile tree path =>
    match tree.readText path, Uri.ofPath? path with
    | .ok content, some uri => l.record uri content
    | _, _ => l

/-- The ledger after a history. -/
def after (steps : List Step) : Ledger := steps.foldl step empty

end Ledger

/-! ### What the claims leave alone -/

/-- The two indexes agree on everything but the tables of posts. -/
structure SameSite (ix ix' : Index) : Prop where
  root : ix'.root = ix.root
  settings : ix'.settings = ix.settings
  persons : ix'.persons = ix.persons

theorem SameSite.trans {ix ix' ix'' : Index} (h : SameSite ix ix') (h' : SameSite ix' ix'') : SameSite ix ix'' :=
  ⟨h'.root.trans h.root, h'.settings.trans h.settings, h'.persons.trans h.persons⟩

theorem sameSite_detach (ix : Index) (uri : Uri) : SameSite ix (ix.detach uri).2 := by
  obtain ⟨posts, slugs, h⟩ := detach_snd_eq ix uri
  rw [h]
  exact ⟨rfl, rfl, rfl⟩

theorem sameSite_insert (ix : Index) (p : Post) : SameSite ix (ix.insert p) := by
  suffices h : SameSite ix (ix.displaceHolder p) from ⟨h.root, h.settings, h.persons⟩
  unfold displaceHolder
  split
  · exact ⟨rfl, rfl, rfl⟩
  · rename_i holder _
    have hd := sameSite_detach ix holder.uri
    split
    · rename_i previous ix' he
      rw [he] at hd
      exact ⟨hd.root, hd.settings, hd.persons⟩
    · rename_i ix' he
      rwa [he] at hd

theorem sameSite_retract (ix : Index) (uri : Uri) : SameSite ix (ix.retract uri).2 := by
  have hf : SameSite ix (ix.forget uri) := ⟨rfl, rfl, rfl⟩
  have hd := hf.trans (sameSite_detach (ix.forget uri) uri)
  unfold retract
  split
  · rename_i ix' he
    rwa [he] at hd
  · rename_i p ix' he
    rw [he] at hd
    refine hd.trans ?_
    show SameSite ix' (ix'.reinstate p.slug)
    unfold reinstate
    simp only
    split
    · rename_i q _ _
      have hw : SameSite ix' (ix'.setWaiting p.slug (ix'.waitingFor p.slug).dropLast) := ⟨rfl, rfl, rfl⟩
      exact hw.trans (sameSite_insert _ q)
    · exact ⟨rfl, rfl, rfl⟩

/-! ### Agreement after every history -/

/-- The index and the ledger tell the same story. -/
structure Agrees (ix : Index) (l : Ledger) : Prop where
  root : ix.root = l.root
  settings : ix.settings = l.settings
  reflects : Reflects ix l.log

theorem Reflects.of_tables {ix ix' : Index} {log : Log} (h : Reflects ix log) (hp : ix'.posts = ix.posts)
    (hs : ix'.slugs = ix.slugs) (hd : ix'.displaced = ix.displaced) : Reflects ix' log :=
  ⟨h.distinct, h.holds.of_tables hp hs, hd ▸ h.displaced_ordered, hd ▸ h.displaced_eq⟩

/-- Posts of new files claim their slugs one after another. -/
theorem Reflects.foldl_insert {ix : Index} {log ps : Log} (h : Reflects ix log) (hd : Log.Distinct (log ++ ps)) :
    Reflects (ps.foldl Index.insert ix) (log ++ ps) := by
  induction ps generalizing ix log with
  | nil => simpa using h
  | cons p ps ih =>
    have e : log ++ p :: ps = (log ++ [p]) ++ ps := by simp
    rw [e] at hd ⊢
    refine ih (h.insert ?_) hd
    intro q hq
    unfold Log.Distinct at hd
    rw [List.map_append, List.nodup_append, List.map_append, List.nodup_append] at hd
    exact hd.1.2.2 _ (List.mem_map_of_mem hq) _ (by simp)

theorem sameSite_foldl_insert (ps : List Post) (ix : Index) : SameSite ix (ps.foldl Index.insert ix) := by
  induction ps generalizing ix with
  | nil => exact ⟨rfl, rfl, rfl⟩
  | cons p ps ih => exact (sameSite_insert ix p).trans (ih _)

private theorem Agrees.build (order : PostOrder) (tree : FileTree) (root : Path) (s : Settings) :
    Agrees (Index.build order tree root s) ⟨some root, s, contentPosts tree root s⟩ := by
  have hs := sameSite_foldl_insert (contentPosts tree root s) { empty with root := some root, settings := s }
  have hr : Reflects { empty with root := some root, settings := s } [] := Reflects.nil rfl rfl rfl
  have hf : Reflects _ ([] ++ contentPosts tree root s) := hr.foldl_insert (contentPosts_distinct tree root s)
  exact ⟨hs.root, hs.settings, hf.of_tables rfl rfl rfl⟩

private theorem Agrees.update {ix : Index} {l : Ledger} (h : Agrees ix l) (uri : Uri) (content : Text) :
    Agrees (ix.update uri content) (l.record uri content) := by
  have hs := (sameSite_retract ix uri).trans (sameSite_insert (ix.retract uri).2
    (Post.ofContent ix.root uri.documentPath uri content ix.settings.excerptLength))
  refine ⟨hs.root.trans h.root, hs.settings.trans h.settings, ?_⟩
  unfold Index.update Ledger.record
  rw [← h.root, ← h.settings]
  refine (h.reflects.retract uri).insert ?_
  intro q hq
  exact (Log.mem_without.1 hq).2

private theorem Agrees.strike {ix : Index} {l : Ledger} (h : Agrees ix l) (uri : Uri) :
    Agrees (ix.remove uri).2 (l.strike uri) := by
  have hs := sameSite_retract ix uri
  exact ⟨hs.root.trans h.root, hs.settings.trans h.settings, h.reflects.retract uri⟩

/-- One operation keeps the index and the ledger together. -/
theorem Agrees.step {ix : Index} {l : Ledger} (h : Agrees ix l) (s : Step) : Agrees (ix.step s) (l.step s) := by
  cases s with
  | build order tree root settings => exact Agrees.build order tree root settings
  | update uri content => exact h.update uri content
  | remove uri => exact h.strike uri
  | indexFile tree path =>
    simp only [Index.step, Ledger.step, Index.indexFile]
    cases tree.readText path with
    | error e => exact h
    | ok content =>
      cases Uri.ofPath? path with
      | none => exact h
      | some uri => exact h.update uri content

theorem Agrees.foldl {ix : Index} {l : Ledger} (h : Agrees ix l) (steps : List Step) :
    Agrees (steps.foldl Index.step ix) (steps.foldl Ledger.step l) := by
  induction steps generalizing ix l with
  | nil => exact h
  | cons s steps ih => exact ih (h.step s)

/-- After every history the index is in the state that the ledger describes. -/
theorem after_agrees (steps : List Step) : Agrees (after steps) (Ledger.after steps) := by
  have h : Agrees empty Ledger.empty := ⟨rfl, rfl, Reflects.nil rfl rfl rfl⟩
  exact h.foldl steps

end Index

end WikiSite
