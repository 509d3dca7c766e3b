import WikiSite.Proofs.Session.Indexing

/-!
# Editor text and file text

While a document is open its text is what is indexed under its URI; at all other times it is what was last read from
the file. The state of a session that makes this true is `Current`, and every handler keeps it. For the files that are
not open a run is followed read by read: a message reads the file anew, and then its post is made from what was read,
or it leaves the post alone (`Turn`).
-/

namespace WikiSite

/-- The URIs that a report is about. -/
def Report.uris : Report → List Uri
  | .ready => []
  | .notice n => n.uris

/-- The file that a URI names, if it can be read. -/
def Machine.file? (m : Machine) (uri : Uri) : Option (Path × Text) := (m.fileText? uri).map (uri.documentPath, ·)

theorem Machine.file?_of_some {m : Machine} {uri : Uri} {text : Text} (h : m.fileText? uri = some text) :
    m.file? uri = some (uri.documentPath, text) := by
  rw [file?, h]
  rfl

theorem Machine.file?_of_none {m : Machine} {uri : Uri} (h : m.fileText? uri = none) : m.file? uri = none := by
  rw [file?, h]
  rfl

namespace Index

/-- The post is that of a file as it was read, under the URI of its path. -/
structure IsFrom (ix : Index) (p : Post) (f : Path × Text) : Prop where
  uri : Uri.ofPath? f.1 = some p.uri
  post : p = Post.ofContent ix.root f.1 p.uri f.2 ix.settings.excerptLength

theorem SameSite.isFrom {ix ix' : Index} (h : SameSite ix ix') {p : Post} {f : Path × Text} (hp : ix.IsFrom p f) :
    ix'.IsFrom p f := by
  refine ⟨hp.uri, ?_⟩
  rw [h.root, h.settings]
  exact hp.post

theorem isFrom_postOf (ix : Index) {uri : Uri} (hu : uri.IsCanonical) (text : Text) :
    ix.IsFrom (ix.postOf uri text) (uri.documentPath, text) := ⟨hu.ofPath?_documentPath, rfl⟩

end Index

namespace Session

theorem uris_of_report? {s : Session} {msg : Message} {r : Report} (hr : s.report? msg = some r) {u : Uri}
    (hu : u ∈ r.uris) : u ∈ msg.uris := by
  cases msg with
  | request | response => cases hr
  | notification method params =>
    simp only [report?] at hr
    split at hr
    · cases hr
    split at hr
    · split at hr
      · cases hr
        cases hu
      · cases hr
    · obtain ⟨n, hn, rfl⟩ := Option.map_eq_some_iff.1 hr
      show u ∈ ((Notice.ofNotification? method params).map Notice.uris).getD []
      rw [hn]
      exact hu

/-! ### What a report reads -/

/-- What the change of a file reads of the file of a URI: its path and its text. -/
def readsChange (m : Machine) (s : Session) (uri : Uri) (c : FileChange) : Option (Path × Text) :=
  if c.uri.text = uri.text ∧ s.heeds c ∧ !c.isDeleted then m.file? c.uri else none

/-- What a report reads of the file of a URI: its path and its text. -/
def reads (m : Machine) (s : Session) (uri : Uri) : Report → Option (Path × Text)
  | .ready =>
    -- a build reads every content file below the root
    s.root.bind fun root => (Index.contentFiles m.tree root s.settings.cacheDir).find? fun f =>
      (Uri.ofPath? f.1).any fun u => u.text == uri.text
  | .notice (.saved u none) => if u.text = uri.text ∧ (s.documents.document? u).isNone then m.file? u else none
  | .notice (.closed u) => if u.text = uri.text then m.file? u else none
  -- of several changes of one file the last counts
  | .notice (.filesChanged changes) => (changes.filterMap (s.readsChange m uri)).getLast?
  | _ => none

/-- The file of a URI as it was last read in a run. -/
def lastRead (s : Session) (uri : Uri) : List Arrival → Option (Path × Text)
  | [] => none
  | a :: as =>
    ((s.handle a.machine a.message).1.lastRead uri as).or ((s.report? a.message).bind (s.reads a.machine uri))

theorem lastRead_concat (s : Session) (uri : Uri) (as : List Arrival) (a : Arrival) :
    s.lastRead uri (as ++ [a]) = (((s.handleAll as).report? a.message).bind
      ((s.handleAll as).reads a.machine uri)).or (s.lastRead uri as) := by
  induction as generalizing s with
  | nil => simp [lastRead, handleAll]
  | cons b as ih => rw [List.cons_append, lastRead, ih, lastRead, handleAll_cons, Option.or_assoc]

/-! ### Open documents -/

variable {s s' : Session} {uri : Uri} {m : Machine} {p : Post}

/-- The text of every open document is indexed, and the open documents have canonical URIs. -/
structure Current (s : Session) : Prop where
  reached : s.index.Reached
  filed : s.documents.Filed
  canonical : ∀ uri d, s.documents.document? uri = some d → d.uri.IsCanonical
  registered : ∀ uri d, s.documents.document? uri = some d → s.index.Knows (s.index.postOf d.uri d.text)

theorem current_new : Current new where
  reached := Index.reached_empty
  filed := Documents.filed_empty
  canonical _ _ hd := by cases hd
  registered _ _ hd := by cases hd

namespace Current

/-- After updates and removals it is enough to look for the posts as they were made before. -/
theorem patch (h : Current s) (hpatched : s.index.Patched s'.index) (hfiled : s'.documents.Filed)
    (hd : ∀ uri d, s'.documents.document? uri = some d →
      d.uri.IsCanonical ∧ s'.index.Knows (s.index.postOf d.uri d.text)) : Current s' := by
  refine ⟨hpatched.reached h.reached, hfiled, fun uri d h => (hd uri d h).1, ?_⟩
  intro uri d hopen
  rw [hpatched.sameSite.postOf_eq]
  exact (hd uri d hopen).2

theorem put (h : Current s) (hu : uri.IsCanonical) (text : Text) (version : Int) :
    Current (s.putDocument uri text version) := by
  refine h.patch (.update .refl uri text) (h.filed.put _) ?_
  intro v d hd
  show _ ∧ (s.index.update uri text).Knows _
  rw [h.reached.knows_update]
  have hd : (if v.text = uri.text then some ⟨uri, text, version⟩ else s.documents.document? v) = some d := by
    rw [← hd]
    exact (Documents.document?_put s.documents ⟨uri, text, version⟩ v).symm
  split at hd
  · cases hd
    exact ⟨hu, .inr rfl⟩
  · rename_i hv
    refine ⟨h.canonical v d hd, .inl ⟨h.registered v d hd, ?_⟩⟩
    rw [Index.uri_postOf, h.filed.uri_of_document? hd]
    exact hv

/-- The text of an open document can be indexed again. -/
theorem indexText (h : Current s) (hu : uri.IsCanonical) {d : Document} (hd : s.documents.document? uri = some d) :
    Current (s.indexText uri d.text) := by
  refine h.patch (.update .refl uri d.text) h.filed ?_
  intro v e (he : s.documents.document? v = some e)
  refine ⟨h.canonical v e he, ?_⟩
  show (s.index.update uri d.text).Knows _
  rw [h.reached.knows_update]
  by_cases hv : v.text = uri.text
  · rw [Documents.document?_congr _ hv, hd] at he
    cases he
    -- the URI of the document and that of the message are written alike, and canonical
    right
    rw [(h.canonical uri d hd).eq_of_text hu (h.filed.uri_of_document? hd)]
  · left
    refine ⟨h.registered v e he, ?_⟩
    rw [Index.uri_postOf, h.filed.uri_of_document? he]
    exact hv

/-- What happens to the file of a document that is not open leaves the open ones alone. -/
theorem aside (h : Current s) (hpatched : s.index.Patched s'.index) (hdocuments : s'.documents = s.documents)
    (hkept : ∀ p, s.index.Knows p → (s.documents.document? p.uri).isSome → s'.index.Knows p) : Current s' := by
  refine h.patch hpatched (hdocuments ▸ h.filed) ?_
  rw [hdocuments]
  intro v d hd
  refine ⟨h.canonical v d hd, hkept _ (h.registered v d hd) ?_⟩
  rw [Index.uri_postOf, Documents.document?_congr _ (h.filed.uri_of_document? hd), hd]
  rfl

theorem indexFile (h : Current s) (hu : uri.IsCanonical) (hclosed : s.documents.document? uri = none) (m : Machine) :
    Current (s.indexFile m uri) := by
  refine h.aside (patched_indexFile m s uri) (documents_indexFile m s uri) ?_
  intro p hp hopen
  rw [knows_indexFile h.reached hu]
  refine .inl ⟨hp, fun e => ?_⟩
  rw [Documents.document?_congr _ e, hclosed] at hopen
  cases hopen

theorem followFile (h : Current s) {c : FileChange} (hc : c.uri.IsCanonical) (m : Machine) :
    Current (s.followFile m c) := by
  refine h.aside (patched_followFile m s c) (documents_followFile m s c) ?_
  intro p hp hopen
  rw [knows_followFile h.reached hc]
  refine .inl ⟨hp, fun hheeds e => ?_⟩
  rw [Documents.document?_congr _ e] at hopen
  simp [heeds, Option.isSome_iff_ne_none.1 hopen] at hheeds

theorem followFiles (h : Current s) {cs : List FileChange} (hcs : ∀ c ∈ cs, c.uri.IsCanonical) (m : Machine) :
    Current (cs.foldl (fun s c => s.followFile m c) s) := by
  induction cs generalizing s with
  | nil => exact h
  | cons c cs ih => exact ih (h.followFile (hcs c (by simp)) m) fun e he => hcs e (by simp [he])

theorem close (h : Current s) (hu : uri.IsCanonical) (m : Machine) : Current (s.close m uri) := by
  refine h.patch (patched_close m s uri) ?_ ?_
  · rw [documents_close]
    exact h.filed.close uri
  · intro v d hd
    rw [documents_close, Documents.document?_close] at hd
    rw [knows_close h.reached hu]
    split at hd
    · cases hd
    · rename_i hv
      refine ⟨h.canonical v d hd, .inl ⟨h.registered v d hd, ?_⟩⟩
      rw [Index.uri_postOf, h.filed.uri_of_document? hd]
      exact hv

theorem save (h : Current s) (hu : uri.IsCanonical) (m : Machine) (text : Option Text) :
    Current (s.save m uri text) := by
  cases text with
  | some text => exact h.put hu text _
  | none =>
    unfold Session.save
    cases hd : s.documents.document? uri with
    | some d => exact h.indexText hu hd
    | none => exact h.indexFile hu hd m

theorem overlay (h : Current s) {ix : Index} (hix : ix.Reached) :
    Current { s with index := ix.overlay s.documents.all, phase := .initialized } := by
  refine ⟨(Index.patched_overlay ix _).reached hix, h.filed, h.canonical, ?_⟩
  intro uri d hd
  have hmem : d ∈ s.documents.all := by
    rw [h.filed.mem_all, ← hd]
    exact Documents.document?_congr _ (h.filed.uri_of_document? hd)
  show (ix.overlay s.documents.all).Knows ((ix.overlay s.documents.all).postOf d.uri d.text)
  rw [(Index.patched_overlay ix _).sameSite.postOf_eq, hix.knows_overlay h.filed.pairwise_all]
  exact .inr ⟨d, hmem, rfl⟩

theorem ready (h : Current s) (m : Machine) : Current (s.ready m) := by
  unfold Session.ready
  refine h.overlay ?_
  cases s.root with
  | some root => exact Index.reached_build m.order m.tree root s.settings
  | none => exact h.reached

/-- Every report keeps the texts of the open documents indexed. -/
theorem heed (h : Current s) (m : Machine) {r : Report} (hr : ∀ u ∈ r.uris, u.IsCanonical) :
    Current (s.heed m r).1 := by
  cases r with
  | ready => exact h.ready m
  | notice n =>
    cases n with
    | opened uri text version => exact h.put (hr uri (List.mem_singleton_self uri)) text version
    | changed uri text version =>
      cases text with
      | none => exact h
      | some text => exact h.put (hr uri (List.mem_singleton_self uri)) text version
    | saved uri text => exact h.save (hr uri (List.mem_singleton_self uri)) m text
    | closed uri => exact h.close (hr uri (List.mem_singleton_self uri)) m
    | filesChanged changes => exact h.followFiles (fun c hc => hr c.uri (List.mem_map_of_mem hc)) m

theorem handle (h : Current s) (m : Machine) {msg : Message} (hmsg : ∀ u ∈ msg.uris, u.IsCanonical) :
    Current (s.handle m msg).1 := by
  rcases handle_cases m s msg with ⟨-, hindex, hdocuments, -⟩ | ⟨r, hr, hsession, -⟩
  · refine ⟨?_, ?_, ?_, ?_⟩
    · exact hindex ▸ h.reached
    · exact hdocuments ▸ h.filed
    · exact hdocuments ▸ h.canonical
    · rw [hindex, hdocuments]
      exact h.registered
  · rw [hsession]
    exact h.heed m fun u hu => hmsg u (uris_of_report? hr hu)

end Current

theorem current_handleAll {as : List Arrival} (h : ∀ a ∈ as, ∀ u ∈ a.message.uris, u.IsCanonical) :
    Current (new.handleAll as) := by
  induction as using List.reverseRecOn with
  | nil => exact current_new
  | append_singleton as a ih =>
    rw [handleAll_concat]
    exact (ih fun b hb => h b (by simp [hb])).handle a.machine (h a (by simp))

/-! ### Files that are not open -/

/-- What a stretch of a run did to the post of a file that is not open after it, where `got` is what was last read of
the file: the post is made from that, or nothing was read and the post was there before. -/
inductive Turn (s s' : Session) (p : Post) (got : Option (Path × Text)) : Prop where
  | read {f : Path × Text} : got = some f → s'.index.IsFrom p f → Turn s s' p got
  | kept : got = none → s.index.Knows p → s.documents.document? p.uri = none → s.index.SameSite s'.index →
      Turn s s' p got

/-- Stretches follow each other; the later read counts. -/
theorem Turn.after {s₁ s₂ : Session} {got₁ got₂ : Option (Path × Text)} (h₂ : Turn s₁ s₂ p got₂)
    (h₁ : s₁.index.Knows p → s₁.documents.document? p.uri = none → Turn s s₁ p got₁) :
    Turn s s₂ p (got₂.or got₁) := by
  cases h₂ with
  | read hgot hp =>
    rw [hgot]
    exact .read rfl hp
  | kept hgot hp hclosed hsite =>
    rw [hgot, Option.none_or]
    cases h₁ hp hclosed with
    | read hgot hfrom => exact .read hgot (hsite.isFrom hfrom)
    | kept hgot hp hclosed hsite₁ => exact .kept hgot hp hclosed (hsite₁.trans hsite)

/-- A file that can be read and is indexed under its URI. -/
private theorem Turn.ofFile (hu : uri.IsCanonical) (hsite : s.index.SameSite s'.index) {text : Text}
    (htext : m.fileText? uri = some text) : Turn s s' (s.index.postOf uri text) (m.file? uri) :=
  .read (Machine.file?_of_some htext) (hsite.isFrom (s.index.isFrom_postOf hu text))

theorem turn_put (h : Current s) (text : Text) (version : Int)
    (hp : (s.putDocument uri text version).index.Knows p)
    (hclosed : (s.putDocument uri text version).documents.document? p.uri = none) :
    Turn s (s.putDocument uri text version) p none := by
  have hclosed : (if p.uri.text = uri.text then some ⟨uri, text, version⟩ else s.documents.document? p.uri) = none := by
    rw [← hclosed]
    exact (Documents.document?_put s.documents ⟨uri, text, version⟩ p.uri).symm
  split at hclosed
  · cases hclosed
  · rename_i hne
    rcases (h.reached.knows_update uri text p).1 hp with ⟨hp, -⟩ | rfl
    · exact .kept rfl hp hclosed (Index.sameSite_update ..)
    · exact absurd rfl hne

theorem turn_indexFile (h : Current s) (hu : uri.IsCanonical) (hp : (s.indexFile m uri).index.Knows p)
    (hclosed : s.documents.document? p.uri = none) :
    Turn s (s.indexFile m uri) p (if uri.text = p.uri.text then m.file? uri else none) := by
  have hsite := (patched_indexFile m s uri).sameSite
  rcases (knows_indexFile h.reached hu m p).1 hp with ⟨hp, hunread⟩ | ⟨text, htext, rfl⟩
  · refine .kept ?_ hp hclosed hsite
    split
    · rename_i e
      exact Machine.file?_of_none (hunread e.symm)
    · rfl
  · rw [Index.uri_postOf, if_pos rfl]
    exact .ofFile hu hsite htext

theorem turn_save (h : Current s) (hu : uri.IsCanonical) (text : Option Text) (hp : (s.save m uri text).index.Knows p)
    (hclosed : (s.save m uri text).documents.document? p.uri = none) :
    Turn s (s.save m uri text) p (s.reads m p.uri (.notice (.saved uri text))) := by
  cases text with
  | some text => exact turn_put h text _ hp hclosed
  | none =>
    have hdocuments : (s.save m uri none).documents = s.documents := documents_save m s uri none
    rw [hdocuments] at hclosed
    unfold save at hp ⊢
    simp only [reads]
    cases hd : s.documents.document? uri with
    | some d =>
      rw [hd] at hp
      refine .kept (by simp) ?_ hclosed (Index.sameSite_update ..)
      rcases (h.reached.knows_update uri d.text p).1 hp with ⟨hp, -⟩ | rfl
      · exact hp
      · rw [Index.uri_postOf, hd] at hclosed
        cases hclosed
    | none =>
      rw [hd] at hp
      simpa only [Option.isNone_none, and_true] using turn_indexFile h hu hp hclosed

theorem turn_close (h : Current s) (hu : uri.IsCanonical) (hp : (s.close m uri).index.Knows p)
    (hclosed : (s.close m uri).documents.document? p.uri = none) :
    Turn s (s.close m uri) p (s.reads m p.uri (.notice (.closed uri))) := by
  have hsite := (patched_close m s uri).sameSite
  simp only [reads]
  rcases (knows_close h.reached hu m p).1 hp with ⟨hp, hne⟩ | ⟨text, htext, rfl⟩
  · rw [documents_close, Documents.document?_close, if_neg hne] at hclosed
    rw [if_neg (Ne.symm hne)]
    exact .kept rfl hp hclosed hsite
  · rw [Index.uri_postOf, if_pos rfl]
    exact .ofFile hu hsite htext

theorem turn_followFile (h : Current s) {c : FileChange} (hc : c.uri.IsCanonical)
    (hp : (s.followFile m c).index.Knows p) (hclosed : s.documents.document? p.uri = none) :
    Turn s (s.followFile m c) p (s.readsChange m p.uri c) := by
  have hsite := (patched_followFile m s c).sameSite
  unfold readsChange
  rcases (knows_followFile h.reached hc m p).1 hp with ⟨hp, hunread⟩ | ⟨hheeds, hkept, text, htext, rfl⟩
  · refine .kept ?_ hp hclosed hsite
    split
    · rename_i hread
      exact Machine.file?_of_none (hunread hread.2.1 hread.1.symm).2
    · rfl
  · rw [Index.uri_postOf, if_pos ⟨rfl, hheeds, by simp [hkept]⟩]
    exact .ofFile hc hsite htext

/-- The open documents decide which changes count. -/
private theorem readsChange_congr (hdocuments : s'.documents = s.documents) :
    s'.readsChange m uri = s.readsChange m uri := by
  funext c
  unfold readsChange heeds
  rw [hdocuments]

theorem turn_followFiles (h : Current s) {cs : List FileChange} (hcs : ∀ c ∈ cs, c.uri.IsCanonical)
    (hp : (cs.foldl (fun s c => s.followFile m c) s).index.Knows p) (hclosed : s.documents.document? p.uri = none) :
    Turn s (cs.foldl (fun s c => s.followFile m c) s) p (s.reads m p.uri (.notice (.filesChanged cs))) := by
  induction cs using List.reverseRecOn with
  | nil => exact .kept rfl hp hclosed ⟨rfl, rfl, rfl⟩
  | append_singleton cs c ih =>
    have hcs' : ∀ e ∈ cs, e.uri.IsCanonical := fun e he => hcs e (by simp [he])
    have hdocuments := documents_foldl_followFile m s cs
    rw [List.foldl_concat] at hp ⊢
    have hlast := turn_followFile (h.followFiles hcs' m) (hcs c (by simp)) hp (hdocuments ▸ hclosed)
    rw [readsChange_congr hdocuments] at hlast
    have hreads : s.reads m p.uri (.notice (.filesChanged (cs ++ [c]))) =
        (s.readsChange m p.uri c).or (s.reads m p.uri (.notice (.filesChanged cs))) := by
      simp only [reads]
      rw [List.filterMap_append, List.getLast?_append]
      cases hc : s.readsChange m p.uri c <;> simp [hc]
    rw [hreads]
    exact hlast.after fun hp _ => ih hcs' hp

/-- What a build found of a file is what it read of it. -/
private theorem isFrom_build {root : Path} {settings : Settings}
    (hp : p ∈ Index.contentPosts m.tree root settings) :
    ∃ f, (Index.contentFiles m.tree root settings.cacheDir).find?
        (fun f => (Uri.ofPath? f.1).any fun u => u.text == p.uri.text) = some f ∧
      (Index.build m.order m.tree root settings).IsFrom p f := by
  obtain ⟨g, hg, hguri, -⟩ := Index.mem_contentPosts.1 hp
  cases hf : (Index.contentFiles m.tree root settings.cacheDir).find?
      (fun f => (Uri.ofPath? f.1).any fun u => u.text == p.uri.text) with
  | none => simpa [hguri] using List.find?_eq_none.1 hf g hg
  | some f =>
    have hmatch := List.find?_some hf
    obtain ⟨u, hu, he⟩ := (Option.any_eq_true _ _).1 hmatch
    -- the post of the file that was found has the URI of `p`, so it is `p`
    have hq : Post.ofContent (some root) f.1 u f.2 settings.excerptLength ∈ Index.contentPosts m.tree root settings :=
      Index.mem_contentPosts.2 ⟨f, List.mem_of_find?_eq_some hf, hu, rfl⟩
    have hpq := List.inj_on_of_nodup_map (Index.contentPosts_distinct m.tree root settings) hp hq
      (beq_iff_eq.1 he).symm
    refine ⟨f, rfl, ?_, ?_⟩
    · rw [hu, hpq]
      rfl
    · rw [Index.root_build, Index.settings_build]
      conv => lhs; rw [hpq]
      rw [hpq]
      rfl

theorem turn_ready (h : Current s) (hp : (s.ready m).index.Knows p) (hclosed : s.documents.document? p.uri = none) :
    Turn s (s.ready m) p (s.reads m p.uri .ready) := by
  have hopen : ∀ d ∈ s.documents.all, p.uri.text ≠ d.uri.text := by
    intro d hd e
    rw [Documents.document?_congr _ e, h.filed.mem_all.1 hd] at hclosed
    cases hclosed
  -- the documents that are put over the index are open, so `p` was there before
  have hbelow : ∀ ix : Index, ix.Reached → (ix.overlay s.documents.all).Knows p → ix.Knows p := by
    intro ix hix hp
    rcases (hix.knows_overlay h.filed.pairwise_all p).1 hp with ⟨hp, -⟩ | ⟨d, hd, rfl⟩
    · exact hp
    · exact absurd rfl (hopen d hd)
  simp only [reads]
  cases hroot : s.root with
  | none =>
    rw [index_ready_of_none hroot] at hp
    refine .kept rfl (hbelow _ h.reached hp) hclosed ?_
    rw [index_ready_of_none hroot]
    exact (Index.patched_overlay ..).sameSite
  | some root =>
    rw [index_ready_of_some hroot] at hp
    have hbuilt := (Index.knows_build ..).1 (hbelow _ (Index.reached_build ..) hp)
    obtain ⟨f, hf, hfrom⟩ := isFrom_build hbuilt
    refine .read hf ?_
    rw [index_ready_of_some hroot]
    exact (Index.patched_overlay ..).sameSite.isFrom hfrom

/-- A report reads the file anew or leaves the post alone. -/
theorem turn_heed (h : Current s) {r : Report} (hr : ∀ u ∈ r.uris, u.IsCanonical) (hp : (s.heed m r).1.index.Knows p)
    (hclosed : (s.heed m r).1.documents.document? p.uri = none) : Turn s (s.heed m r).1 p (s.reads m p.uri r) := by
  cases r with
  | ready => exact turn_ready h hp hclosed
  | notice n =>
    cases n with
    | opened uri text version => exact turn_put h text version hp hclosed
    | changed uri text version =>
      cases text with
      | none => exact .kept rfl hp hclosed ⟨rfl, rfl, rfl⟩
      | some text => exact turn_put h text version hp hclosed
    | saved uri text => exact turn_save h (hr uri (List.mem_singleton_self uri)) text hp hclosed
    | closed uri => exact turn_close h (hr uri (List.mem_singleton_self uri)) hp hclosed
    | filesChanged changes =>
      rw [documents_heed] at hclosed
      exact turn_followFiles h (fun c hc => hr c.uri (List.mem_map_of_mem hc)) hp hclosed

theorem turn_handle (h : Current s) {msg : Message} (hmsg : ∀ u ∈ msg.uris, u.IsCanonical)
    (hp : (s.handle m msg).1.index.Knows p) (hclosed : (s.handle m msg).1.documents.document? p.uri = none) :
    Turn s (s.handle m msg).1 p ((s.report? msg).bind (s.reads m p.uri)) := by
  rcases handle_cases m s msg with ⟨hnone, hindex, hdocuments, -⟩ | ⟨r, hr, hsession, -⟩
  · rw [hindex] at hp
    rw [hdocuments] at hclosed
    rw [hnone]
    exact .kept rfl hp hclosed (hindex ▸ ⟨rfl, rfl, rfl⟩)
  · rw [hsession] at hp hclosed ⊢
    rw [hr]
    exact turn_heed h (fun u hu => hmsg u (uris_of_report? hr hu)) hp hclosed

/-- Through a run the post of a file that is not open is made from what was last read of the file. -/
theorem isFrom_lastRead {as : List Arrival} (h : ∀ a ∈ as, ∀ u ∈ a.message.uris, u.IsCanonical)
    (hp : (new.handleAll as).index.Knows p) (hclosed : (new.handleAll as).documents.document? p.uri = none) :
    ∃ f, new.lastRead p.uri as = some f ∧ (new.handleAll as).index.IsFrom p f := by
  have hturn : Turn new (new.handleAll as) p (new.lastRead p.uri as) := by
    induction as using List.reverseRecOn with
    | nil => exact .kept rfl hp hclosed ⟨rfl, rfl, rfl⟩
    | append_singleton as a ih =>
      have has : ∀ b ∈ as, ∀ u ∈ b.message.uris, u.IsCanonical := fun b hb => h b (by simp [hb])
      rw [handleAll_concat] at hp hclosed ⊢
      rw [lastRead_concat]
      exact (turn_handle (current_handleAll has) (h a (by simp)) hp hclosed).after (ih has)
  cases hturn with
  | read hgot hfrom => exact ⟨_, hgot, hfrom⟩
  | kept _ hp => exact absurd hp (Index.not_knows_empty p)

/-! ### Both together -/

/-- Editor text is indexed exactly while its document is open. -/
structure EditorTextCounts (as : List Arrival) : Prop where
  /-- The URI of an open document is registered, with the post of its text and no other. -/
  opened : ∀ uri d, (new.handleAll as).documents.document? uri = some d → ∀ p,
    (new.handleAll as).index.Knows p ∧ p.uri.text = uri.text ↔ p = (new.handleAll as).index.postOf d.uri d.text
  /-- The post of any other URI is made from the file as it was last read. -/
  closed : ∀ p, (new.handleAll as).index.Knows p → (new.handleAll as).documents.document? p.uri = none →
    ∃ f, new.lastRead p.uri as = some f ∧ (new.handleAll as).index.IsFrom p f

/-- As long as the editor names files by their canonical URIs, its text is indexed exactly while a document is open. -/
theorem editorText_counts (as : List Arrival) (h : ∀ a ∈ as, ∀ u ∈ a.message.uris, u.IsCanonical) :
    EditorTextCounts as := by
  have hcurrent := current_handleAll h
  refine ⟨?_, fun p hp hclosed => isFrom_lastRead h hp hclosed⟩
  intro uri d hd p
  have hregistered := hcurrent.registered uri d hd
  have huri := hcurrent.filed.uri_of_document? hd
  constructor
  · rintro ⟨hp, hpuri⟩
    exact hcurrent.reached.eq_of_uri hp hregistered (hpuri.trans huri.symm)
  · rintro rfl
    exact ⟨hregistered, huri⟩

/-- A document that is not on disk is open, and its neighbour is on disk and not open. -/
theorem editorText_counts_draft :
    let m : Machine := .ofTree ((FileTree.empty []).write [encodeUtf8 "b.md".toList] (encodeUtf8 "B.".toList))
    let as : List Arrival :=
      [⟨m, .opening "file:///"⟩, ⟨m, .notification "initialized".toList .null⟩,
        ⟨m, .openedDocument "file:///a.md" "Draft."⟩]
    let a : Uri := .ofPieces [encodeUtf8 "a.md".toList]
    let b : Uri := .ofPieces [encodeUtf8 "b.md".toList]
    (∀ x ∈ as, ∀ u ∈ x.message.uris, u.IsCanonical) ∧
      (new.handleAll as).documents.document? a = some ⟨a, "Draft.".toList, 1⟩ ∧
      (new.handleAll as).index.slugs = [(a.text, "a".toList), (b.text, "b".toList)] ∧
      new.lastRead b as = some (Path.ofText "/b.md".toList, "B.".toList) ∧ EditorTextCounts as := by
  intro m as a b
  have hcanonical : ∀ x ∈ as, ∀ u ∈ x.message.uris, u.IsCanonical := by decide +kernel
  exact ⟨hcanonical, by decide +kernel, by decide +kernel, by decide +kernel, editorText_counts as hcanonical⟩

end Session

end WikiSite
