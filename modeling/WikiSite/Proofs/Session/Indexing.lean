import WikiSite.Proofs.Session.Reports
import WikiSite.Proofs.Site.CanonicalUri
import WikiSite.Proofs.Site.Registration

/-!
# What a report does to the index

The text of an open document is indexed under the URI that the editor gave it, and a file under the URI of its path.
For canonical URIs the two are one, so every handler is an operation on the registered post of a single file: a text
takes its place, the file as it is on disk takes its place, or it goes (`knows_indexFile`, `knows_close`,
`knows_followFile`). Only a build starts anew (`patched_heed`).
-/

namespace WikiSite

/-- The URIs of the documents and files that a message reports on. -/
def Message.uris : Message → List Uri
  | .notification method params => ((Notice.ofNotification? method params).map Notice.uris).getD []
  | _ => []

/-- The text of the file that a URI names, if it can be read. -/
def Machine.fileText? (m : Machine) (uri : Uri) : Option Text := (m.tree.readText uri.documentPath).toOption

namespace Index

/-- The file of a canonical URI is indexed under that URI. -/
theorem indexFile_documentPath {uri : Uri} (hu : uri.IsCanonical) (ix : Index) (tree : FileTree) :
    ix.indexFile tree uri.documentPath = (tree.readText uri.documentPath).map (ix.update uri) := by
  unfold indexFile
  rw [hu.ofPath?_documentPath]
  cases tree.readText uri.documentPath <;> rfl

/-! ### Documents over the index -/

/-- The index with the texts of documents in it. -/
def overlay (ix : Index) (ds : List Document) : Index := ds.foldl (fun ix d => ix.update d.uri d.text) ix

theorem patched_overlay (ix : Index) (ds : List Document) : Patched ix (ix.overlay ds) := by
  induction ds generalizing ix with
  | nil => exact .refl
  | cons d ds ih => exact (Patched.refl.update d.uri d.text).trans (ih _)

/-- Documents take the place of their files and leave the others alone. -/
theorem Reached.knows_overlay {ix : Index} (h : Reached ix) {ds : List Document}
    (hds : ds.Pairwise fun d e => d.uri.text ≠ e.uri.text) (p : Post) :
    (ix.overlay ds).Knows p ↔
      ix.Knows p ∧ (∀ d ∈ ds, p.uri.text ≠ d.uri.text) ∨ ∃ d ∈ ds, p = ix.postOf d.uri d.text := by
  induction ds generalizing ix with
  | nil => simp [overlay]
  | cons d ds ih =>
    rw [List.pairwise_cons] at hds
    have hpost := fun (e : Document) => (sameSite_update ix d.uri d.text).postOf_eq e.uri e.text
    rw [show ix.overlay (d :: ds) = (ix.update d.uri d.text).overlay ds from rfl,
      ih (h.update d.uri d.text) hds.2, h.knows_update]
    simp only [hpost, List.forall_mem_cons, List.exists_mem_cons_iff]
    constructor
    · rintro (⟨⟨hp, hd⟩ | rfl, hrest⟩ | hp)
      · exact .inl ⟨hp, hd, hrest⟩
      · exact .inr (.inl rfl)
      · exact .inr (.inr hp)
    · rintro (⟨hp, hd, hrest⟩ | rfl | hp)
      · exact .inl ⟨.inl ⟨hp, hd⟩, hrest⟩
      · exact .inl ⟨.inr rfl, hds.1⟩
      · exact .inr hp

end Index

namespace Session

variable {s : Session}

/-! ### Where an index comes from -/

theorem patched_indexFile (m : Machine) (s : Session) (uri : Uri) : s.index.Patched (s.indexFile m uri).index := by
  unfold indexFile
  split
  · exact Index.patched_of_indexFile ‹_›
  · exact .refl

theorem patched_close (m : Machine) (s : Session) (uri : Uri) : s.index.Patched (s.close m uri).index := by
  unfold close
  simp only
  split
  · exact Index.patched_of_indexFile ‹_›
  · exact .remove .refl uri

theorem patched_save (m : Machine) (s : Session) (uri : Uri) (text : Option Text) :
    s.index.Patched (s.save m uri text).index := by
  unfold save
  split
  · exact .update .refl uri _
  · exact .update .refl uri _
  · exact patched_indexFile m s uri

theorem patched_followFile (m : Machine) (s : Session) (c : FileChange) :
    s.index.Patched (s.followFile m c).index := by
  unfold followFile
  split
  · exact .refl
  split
  · exact .remove .refl c.uri
  · exact patched_indexFile m s c.uri

theorem patched_foldl_followFile (m : Machine) (s : Session) (cs : List FileChange) :
    s.index.Patched (cs.foldl (fun s c => s.followFile m c) s).index := by
  induction cs generalizing s with
  | nil => exact .refl
  | cons c cs ih => exact (patched_followFile m s c).trans (ih _)

theorem index_ready_of_some {root : Path} (h : s.root = some root) (m : Machine) :
    (s.ready m).index = (Index.build m.order m.tree root s.settings).overlay s.documents.all := by
  simp [ready, h, Index.overlay]

theorem index_ready_of_none (h : s.root = none) (m : Machine) :
    (s.ready m).index = s.index.overlay s.documents.all := by
  simp [ready, h, Index.overlay]

/-- A report starts from a new index of the directory or else from the index that there is. -/
theorem patched_heed (m : Machine) (s : Session) (r : Report) :
    (∃ root, r = .ready ∧ s.root = some root ∧
      (s.heed m r).1.index = (Index.build m.order m.tree root s.settings).overlay s.documents.all) ∨
    s.index.Patched (s.heed m r).1.index := by
  cases r with
  | ready =>
    cases hroot : s.root with
    | some root => exact .inl ⟨root, rfl, rfl, index_ready_of_some hroot m⟩
    | none => exact .inr (index_ready_of_none hroot m ▸ Index.patched_overlay s.index s.documents.all)
  | notice n =>
    refine .inr ?_
    cases n with
    | opened uri text version => exact .update .refl uri text
    | changed uri text version =>
      cases text with
      | none => exact .refl
      | some text => exact .update .refl uri text
    | saved uri text => exact patched_save m s uri text
    | closed uri => exact patched_close m s uri
    | filesChanged changes => exact patched_foldl_followFile m s changes

theorem reached_heed (h : s.index.Reached) (m : Machine) (r : Report) : (s.heed m r).1.index.Reached := by
  rcases patched_heed m s r with ⟨root, -, -, hindex⟩ | hpatched
  · rw [hindex]
    exact (Index.patched_overlay _ _).reached (Index.reached_build m.order m.tree root s.settings)
  · exact hpatched.reached h

theorem reached_handleAll (as : List Arrival) : (new.handleAll as).index.Reached := by
  induction as using List.reverseRecOn with
  | nil => exact Index.reached_empty
  | append_singleton as a ih =>
    rw [handleAll_concat]
    rcases handle_cases a.machine (new.handleAll as) a.message with ⟨-, hindex, -⟩ | ⟨r, -, hsession, -⟩
    · exact hindex ▸ ih
    · exact hsession ▸ reached_heed ih a.machine r

/-! ### Single files -/

variable {uri : Uri}

/-- A file that can be read takes the place of its post. -/
theorem knows_indexFile (h : s.index.Reached) (hu : uri.IsCanonical) (m : Machine) (p : Post) :
    (s.indexFile m uri).index.Knows p ↔ s.index.Knows p ∧ (p.uri.text = uri.text → m.fileText? uri = none) ∨
      ∃ text, m.fileText? uri = some text ∧ p = s.index.postOf uri text := by
  unfold indexFile Machine.fileText?
  rw [Index.indexFile_documentPath hu]
  cases m.tree.readText uri.documentPath with
  | error => simp [Except.map, Except.toOption]
  | ok text =>
    show (s.index.update uri text).Knows p ↔ _
    rw [h.knows_update]
    simp [Except.toOption]

/-- The file of a closed document takes the place of its post, which goes in any case. -/
theorem knows_close (h : s.index.Reached) (hu : uri.IsCanonical) (m : Machine) (p : Post) :
    (s.close m uri).index.Knows p ↔ s.index.Knows p ∧ p.uri.text ≠ uri.text ∨
      ∃ text, m.fileText? uri = some text ∧ p = s.index.postOf uri text := by
  unfold close Machine.fileText?
  simp only [Index.indexFile_documentPath hu]
  cases m.tree.readText uri.documentPath with
  | error =>
    show (s.index.remove uri).2.Knows p ↔ _
    rw [h.knows_remove]
    simp [Except.toOption]
  | ok text =>
    show (s.index.update uri text).Knows p ↔ _
    rw [h.knows_update]
    simp [Except.toOption]

/-- Whether a change of a file counts: it is that of a content file that is not open. -/
def heeds (s : Session) (c : FileChange) : Bool :=
  Index.isContentFile (Path.ofText c.uri.path) && (s.documents.document? c.uri).isNone

/-- A change that counts removes the post of a deleted file and puts that of any other in place. -/
theorem knows_followFile (h : s.index.Reached) {c : FileChange} (hc : c.uri.IsCanonical) (m : Machine) (p : Post) :
    (s.followFile m c).index.Knows p ↔
      s.index.Knows p ∧ (s.heeds c = true → p.uri.text = c.uri.text →
        c.isDeleted = false ∧ m.fileText? c.uri = none) ∨
      s.heeds c = true ∧ c.isDeleted = false ∧ ∃ text, m.fileText? c.uri = some text ∧ p = s.index.postOf c.uri text := by
  have hheeds : s.heeds c = !(!Index.isContentFile (Path.ofText c.uri.path) || (s.documents.document? c.uri).isSome) := by
    simp [heeds]
  unfold followFile
  rw [hheeds]
  cases !Index.isContentFile (Path.ofText c.uri.path) || (s.documents.document? c.uri).isSome with
  | true => simp
  | false =>
    cases c.isDeleted with
    | true =>
      show (s.index.remove c.uri).2.Knows p ↔ _
      rw [h.knows_remove]
      simp
    | false =>
      show (s.indexFile m c.uri).index.Knows p ↔ _
      rw [knows_indexFile h hc]
      simp

end Session

end WikiSite
