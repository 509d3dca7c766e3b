import WikiSite.Proofs.Session.Reports

/-!
# Published diagnostics

An editor shows of each document what was published for it last. Here this is held against the open documents: what
one report publishes for a URI is nothing while its document stays as it is, the diagnostics of its document, or
nothing to see once it is closed (`heed_publishes`). So through every run the last publication for an open document is
that of its present text, made with the index of that moment, and the last one for any other URI is empty
(`published_tracks`).
-/

namespace WikiSite

/-- Whether the diagnostics of every open document are published anew after a report. -/
def Report.republishes : Report → Bool
  | .ready => true
  | .notice (.saved ..) => true
  | .notice (.filesChanged _) => true
  | _ => false

namespace Session

/-! ### What one report publishes -/

/-- The publications for a URI. -/
def forUri (ps : List Publication) (uri : Uri) : List Publication := ps.filter fun p => p.uri.text == uri.text

theorem forUri_append (ps qs : List Publication) (uri : Uri) : forUri (ps ++ qs) uri = forUri ps uri ++ forUri qs uri :=
  List.filter_append ..

theorem mem_of_mem_forUri {ps : List Publication} {uri : Uri} {p : Publication} (h : p ∈ forUri ps uri) : p ∈ ps :=
  (List.mem_filter.1 h).1

theorem forUri_publishAll {s : Session} (h : s.documents.Filed) (uri : Uri) :
    forUri s.publishAll uri = s.publish uri := by
  unfold forUri publishAll publish Documents.all Documents.document?
  rw [List.map_map, List.filter_map]
  have hkey : ∀ e ∈ s.documents, ((fun p : Publication => p.uri.text == uri.text) ∘ (s.publicationOf ∘ Prod.snd)) e =
      (e.1 == uri.text) := by
    intro e he
    have huri := h.uri e.1 e.2 (h.ordered.mem_iff.1 he)
    show (e.2.uri.text == uri.text) = _
    rw [huri]
  rw [List.filter_congr hkey, h.ordered.filter_key]
  cases Table.get? s.documents uri.text <;> rfl

theorem forUri_publish {s : Session} (h : s.documents.Filed) (u uri : Uri) :
    forUri (s.publish u) uri = if uri.text = u.text then s.publish uri else [] := by
  by_cases hu : uri.text = u.text
  · rw [if_pos hu, ← forUri_publishAll h, ← forUri_publishAll h]
    unfold forUri
    rw [List.filter_filter, hu]
    simp
  · rw [if_neg hu]
    unfold forUri publish
    cases hd : s.documents.document? u with
    | none => rfl
    | some d =>
      have huri := h.uri_of_document? hd
      simp [publicationOf, huri, Ne.symm hu]

theorem publish_of_some {s : Session} {uri : Uri} {d : Document} (hd : s.documents.document? uri = some d) :
    s.publish uri = [s.publicationOf d] := by
  unfold publish
  rw [hd]
  rfl

theorem publish_of_none {s : Session} {uri : Uri} (hd : s.documents.document? uri = none) : s.publish uri = [] := by
  unfold publish
  rw [hd]
  rfl

/-- After a report that calls for it everything is published. -/
theorem heed_republishes (m : Machine) (s : Session) {r : Report} (hr : r.republishes = true) :
    (s.heed m r).2 = (s.heed m r).1.publishAll := by
  cases r with
  | ready => rfl
  | notice n =>
    cases n with
    | saved uri text => rfl
    | filesChanged changes => rfl
    | opened | changed | closed => cases hr

/-- What a report publishes for a URI: nothing where the document stays as it is, the diagnostics of the document, or
an empty set where the document is closed. -/
inductive Publishes (s s' : Session) (uri : Uri) (ps : List Publication) : Prop where
  | nothing : s'.documents.document? uri = s.documents.document? uri → ps = [] → Publishes s s' uri ps
  | document {d : Document} : s'.documents.document? uri = some d → ps = [s'.publicationOf d] → Publishes s s' uri ps
  | farewell {p : Publication} : s'.documents.document? uri = none → ps = [p] → p.diagnostics = [] →
      Publishes s s' uri ps

/-- A document that is put is published. -/
private theorem Publishes.put {s s' : Session} (hs' : s'.documents.Filed) {d : Document}
    (hdocuments : s'.documents = s.documents.put d) (uri : Uri) :
    Publishes s s' uri (forUri (s'.publish d.uri) uri) := by
  have hlookup : s'.documents.document? uri = if uri.text = d.uri.text then some d else s.documents.document? uri := by
    rw [hdocuments, Documents.document?_put]
  rw [forUri_publish hs']
  by_cases hu : uri.text = d.uri.text
  · rw [if_pos hu] at hlookup ⊢
    exact .document hlookup (publish_of_some hlookup)
  · rw [if_neg hu] at hlookup ⊢
    exact .nothing hlookup rfl

/-- Where everything is published and no document is closed, every document is published. -/
private theorem Publishes.all {s s' : Session} (hs' : s'.documents.Filed) {uri : Uri}
    (hkept : s'.documents.document? uri = none → s.documents.document? uri = none) :
    Publishes s s' uri (forUri s'.publishAll uri) := by
  rw [forUri_publishAll hs']
  cases hd : s'.documents.document? uri with
  | some d => exact .document hd (publish_of_some hd)
  | none => exact .nothing (by rw [hd, hkept hd]) (publish_of_none hd)

theorem heed_publishes {s : Session} (h : s.documents.Filed) (m : Machine) (r : Report) (uri : Uri) :
    Publishes s (s.heed m r).1 uri (forUri (s.heed m r).2 uri) := by
  have hfiled := filed_heed h m r
  have hdocuments := documents_heed m s r
  cases r with
  | ready =>
    refine .all hfiled fun hnone => ?_
    rwa [hdocuments] at hnone
  | notice n =>
    cases n with
    | opened u text version => exact .put hfiled hdocuments uri
    | changed u text version =>
      cases text with
      | none => exact .nothing rfl rfl
      | some text => exact .put hfiled hdocuments uri
    | saved u text =>
      refine .all hfiled fun hnone => ?_
      rw [hdocuments] at hnone
      cases text with
      | none => exact hnone
      | some text =>
        rw [Documents.document?_put] at hnone
        split at hnone
        · cases hnone
        · exact hnone
    | closed u =>
      have hlookup : (s.heed m (.notice (.closed u))).1.documents.document? uri =
          if uri.text = u.text then none else s.documents.document? uri := by
        rw [hdocuments, Documents.document?_close]
      show Publishes s _ uri (forUri [⟨u, [], none⟩] uri)
      by_cases hu : uri.text = u.text
      · rw [if_pos hu] at hlookup
        have hone : forUri [⟨u, [], none⟩] uri = [(⟨u, [], none⟩ : Publication)] := by simp [forUri, hu]
        exact .farewell hlookup hone rfl
      · rw [if_neg hu] at hlookup
        exact .nothing hlookup (by simp [forUri, Ne.symm hu])
    | filesChanged changes =>
      refine .all hfiled fun hnone => ?_
      rwa [hdocuments] at hnone

/-! ### What a run publishes -/

/-- Everything that is published in a run, in order. -/
def published : Session → List Arrival → List Publication
  | _, [] => []
  | s, a :: as => publicationsOf (s.handle a.machine a.message).2 ++ published (s.handle a.machine a.message).1 as

theorem published_append (s : Session) (as bs : List Arrival) :
    s.published (as ++ bs) = s.published as ++ (s.handleAll as).published bs := by
  induction as generalizing s with
  | nil => rfl
  | cons a as ih => rw [List.cons_append, published, ih, published, handleAll_cons, List.append_assoc]

theorem published_concat (s : Session) (as : List Arrival) (a : Arrival) :
    s.published (as ++ [a]) = s.published as ++ publicationsOf ((s.handleAll as).handle a.machine a.message).2 := by
  rw [published_append]
  exact congrArg _ (List.append_nil _)

/-- What an editor was told last about a document. -/
def lastPublished (as : List Arrival) (uri : Uri) : Option Publication := (forUri (new.published as) uri).getLast?

/-- A publication was sent on a message, and none was sent for its URI since. -/
structure SentLast (earlier : List Arrival) (a : Arrival) (later : List Arrival) (uri : Uri) (p : Publication) :
    Prop where
  sent : p ∈ publicationsOf ((new.handleAll earlier).handle a.machine a.message).2
  last : lastPublished (earlier ++ a :: later) uri = some p
  silent : forUri ((new.handleAll (earlier ++ [a])).published later) uri = []

/-- Published diagnostics track the open documents. -/
structure Tracks (as : List Arrival) : Prop where
  /-- Of a document that is not open, the last publication is empty. -/
  closed : ∀ uri, (new.handleAll as).documents.document? uri = none →
    ∀ p, lastPublished as uri = some p → p.diagnostics = []
  /-- Of an open document, the last publication has its version and the diagnostics of its text, found with the index
  as it stood when the publication was sent. -/
  opened : ∀ uri d, (new.handleAll as).documents.document? uri = some d →
    ∃ earlier a later, as = earlier ++ a :: later ∧
      SentLast earlier a later uri ((new.handleAll (earlier ++ [a])).publicationOf d)
  /-- When the editor has become ready, and after saves and changes of files, it is found with the present index. -/
  republished : ∀ earlier a r, as = earlier ++ [a] → (new.handleAll earlier).report? a.message = some r →
    r.republishes = true → ∀ uri d, (new.handleAll as).documents.document? uri = some d →
      lastPublished as uri = some ((new.handleAll as).publicationOf d)

private theorem publishes_handle {s : Session} (h : s.documents.Filed) (a : Arrival) (uri : Uri) :
    Publishes s (s.handle a.machine a.message).1 uri
      (forUri (publicationsOf (s.handle a.machine a.message).2) uri) := by
  rcases handle_cases a.machine s a.message with ⟨-, -, hdocuments, hout⟩ | ⟨r, -, hsession, hout⟩
  · exact .nothing (by rw [hdocuments]) (by rw [hout]; rfl)
  · rw [hsession, hout]
    exact heed_publishes h a.machine r uri

/-- Whatever a message makes a session publish is that of an open document, unless it is empty. -/
theorem published_cases {s : Session} (h : s.documents.Filed) {a : Arrival} {p : Publication}
    (hp : p ∈ publicationsOf (s.handle a.machine a.message).2) :
    p.diagnostics = [] ∨ ∃ d, (s.handle a.machine a.message).1.documents.document? p.uri = some d ∧
      p = (s.handle a.machine a.message).1.publicationOf d := by
  have huri : p ∈ forUri (publicationsOf (s.handle a.machine a.message).2) p.uri :=
    List.mem_filter.2 ⟨hp, by simp⟩
  cases publishes_handle h a p.uri with
  | nothing _ hnone =>
    rw [hnone] at huri
    cases huri
  | document hd hone =>
    rw [hone] at huri
    exact .inr ⟨_, hd, List.mem_singleton.1 huri⟩
  | farewell _ hone hempty =>
    rw [hone] at huri
    rw [List.mem_singleton.1 huri]
    exact .inl hempty

theorem lastPublished_concat (as : List Arrival) (a : Arrival) (uri : Uri) :
    lastPublished (as ++ [a]) uri =
      ((forUri (publicationsOf ((new.handleAll as).handle a.machine a.message).2) uri).getLast?).or
        (lastPublished as uri) := by
  unfold lastPublished
  rw [published_concat, forUri_append, List.getLast?_append]

private theorem closed_concat {as : List Arrival} (a : Arrival) {uri : Uri}
    (ih : (new.handleAll as).documents.document? uri = none → ∀ p, lastPublished as uri = some p → p.diagnostics = [])
    (hclosed : (new.handleAll (as ++ [a])).documents.document? uri = none) {p : Publication}
    (hp : lastPublished (as ++ [a]) uri = some p) : p.diagnostics = [] := by
  rw [handleAll_concat] at hclosed
  rw [lastPublished_concat] at hp
  cases publishes_handle (filed_handleAll as) a uri with
  | nothing hsame hnone =>
    rw [hnone] at hp
    exact ih (by rw [← hsame, hclosed]) p hp
  | document hd =>
    rw [hclosed] at hd
    cases hd
  | farewell _ hone hempty =>
    rw [hone] at hp
    cases hp
    exact hempty

private theorem opened_concat {as : List Arrival} (a : Arrival) {uri : Uri} {d : Document}
    (ih : (new.handleAll as).documents.document? uri = some d → ∃ earlier b later, as = earlier ++ b :: later ∧
      SentLast earlier b later uri ((new.handleAll (earlier ++ [b])).publicationOf d))
    (hopen : (new.handleAll (as ++ [a])).documents.document? uri = some d) :
    ∃ earlier b later, as ++ [a] = earlier ++ b :: later ∧
      SentLast earlier b later uri ((new.handleAll (earlier ++ [b])).publicationOf d) := by
  rw [handleAll_concat] at hopen
  cases publishes_handle (filed_handleAll as) a uri with
  | nothing hsame hnone =>
    -- nothing was sent, so what was the last publication is still the last one
    obtain ⟨earlier, b, later, rfl, hsent⟩ := ih (by rw [← hsame, hopen])
    refine ⟨earlier, b, later ++ [a], by simp, hsent.sent, ?_, ?_⟩
    · have hlast := lastPublished_concat (earlier ++ b :: later) a uri
      rw [hnone] at hlast
      rw [← List.cons_append, ← List.append_assoc, hlast]
      exact hsent.last
    · rw [published_concat, forUri_append, hsent.silent, ← handleAll_append]
      simpa using hnone
  | document hd hone =>
    rw [hopen] at hd
    cases hd
    refine ⟨as, a, [], rfl, ?_, ?_, rfl⟩
    · rw [handleAll_concat]
      refine @mem_of_mem_forUri _ uri _ ?_
      rw [hone]
      exact List.mem_singleton_self _
    · rw [lastPublished_concat, hone, handleAll_concat]
      rfl
  | farewell hd =>
    rw [hopen] at hd
    cases hd

/-- Through every run the published diagnostics track the open documents. -/
theorem published_tracks (as : List Arrival) : Tracks as := by
  refine ⟨?_, ?_, ?_⟩
  · induction as using List.reverseRecOn with
    | nil =>
      intro uri _ p hp
      cases hp
    | append_singleton as a ih => exact fun uri hclosed p hp => closed_concat a (ih uri) hclosed hp
  · induction as using List.reverseRecOn with
    | nil =>
      intro uri d hd
      cases hd
    | append_singleton as a ih => exact fun uri d hopen => opened_concat a (ih uri d) hopen
  · rintro earlier a r rfl hr hrepublishes uri d hopen
    have hfiled := filed_handleAll (earlier ++ [a])
    rw [lastPublished_concat]
    rw [handleAll_concat] at hopen hfiled ⊢
    obtain ⟨hsession, hout⟩ := handle_of_report? hr a.machine
    rw [hout, heed_republishes _ _ hrepublishes, ← hsession, forUri_publishAll hfiled, publish_of_some hopen]
    rfl

end Session

end WikiSite
