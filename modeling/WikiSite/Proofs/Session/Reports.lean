import Mathlib.Data.List.Induction
import WikiSite.Proofs.Session.Lifecycle
import WikiSite.Proofs.Table

/-!
# What a session heeds

Of all messages only a few do something to the index and to the open documents of a session: the editor is ready, or
it reports what became of a document or a file (`Session.report?`). `handle_cases` tells this once for all messages;
what a report does to the documents follows case by case, and with it that the table of open documents is kept in
order (`filed_handle`).
-/

namespace WikiSite

/-! ### Tables of documents -/

namespace Documents

/-- Every document stands under its own URI, and the URIs increase. -/
structure Filed (ds : Documents) : Prop where
  ordered : Table.Ordered ds
  uri : ∀ k d, Table.get? ds k = some d → d.uri.text = k

theorem document?_congr (ds : Documents) {u v : Uri} (h : u.text = v.text) : ds.document? u = ds.document? v :=
  congrArg (Table.get? ds) h

@[simp] theorem document?_put (ds : Documents) (d : Document) (uri : Uri) :
    (ds.put d).document? uri = if uri.text = d.uri.text then some d else ds.document? uri :=
  Table.get?_insert ds d.uri.text d uri.text

@[simp] theorem document?_close (ds : Documents) (u uri : Uri) :
    (ds.close u).document? uri = if uri.text = u.text then none else ds.document? uri :=
  Table.get?_erase ds u.text uri.text

theorem filed_empty : Filed empty := ⟨Table.ordered_nil, fun _ _ h => by cases h⟩

namespace Filed

variable {ds : Documents}

theorem uri_of_document? (h : Filed ds) {uri : Uri} {d : Document} (hd : ds.document? uri = some d) :
    d.uri.text = uri.text := h.uri uri.text d hd

theorem put (h : Filed ds) (d : Document) : Filed (ds.put d) := by
  refine ⟨h.ordered.insert _ _, ?_⟩
  intro k e hk
  unfold Documents.put at hk
  rw [Table.get?_insert] at hk
  split at hk
  · cases hk
    exact (‹k = d.uri.text›).symm
  · exact h.uri k e hk

theorem close (h : Filed ds) (uri : Uri) : Filed (ds.close uri) := by
  refine ⟨h.ordered.erase _, ?_⟩
  intro k e hk
  unfold Documents.close at hk
  rw [Table.get?_erase] at hk
  split at hk
  · cases hk
  · exact h.uri k e hk

/-- The listed documents are the open ones. -/
theorem mem_all (h : Filed ds) {d : Document} : d ∈ ds.all ↔ ds.document? d.uri = some d := by
  unfold all
  rw [List.mem_map]
  constructor
  · rintro ⟨⟨k, e⟩, hm, rfl⟩
    have hk := h.ordered.mem_iff.1 hm
    rw [← h.uri k e hk] at hk
    exact hk
  · intro hd
    exact ⟨(d.uri.text, d), h.ordered.mem_iff.2 hd, rfl⟩

/-- No two open documents have one URI. -/
theorem pairwise_all (h : Filed ds) : ds.all.Pairwise fun d e => d.uri.text ≠ e.uri.text := by
  unfold all
  rw [List.pairwise_map]
  refine h.ordered.imp_of_mem ?_
  intro a b ha hb hlt
  rw [h.uri a.1 a.2 (h.ordered.mem_iff.1 ha), h.uri b.1 b.2 (h.ordered.mem_iff.1 hb)]
  exact hlt.ne

end Filed

end Documents

/-! ### Reports -/

/-- What an editor can report to an open session. -/
inductive Report where
  /-- It is ready. -/
  | ready
  | notice (n : Notice)

/-- The URIs of the documents and files that a notice is about. -/
def Notice.uris : Notice → List Uri
  | .opened uri _ _ => [uri]
  | .changed uri _ _ => [uri]
  | .saved uri _ => [uri]
  | .closed uri => [uri]
  | .filesChanged changes => changes.map (·.uri)

/-- The publications among what is sent. -/
def publicationsOf (out : List Outgoing) : List Publication :=
  out.filterMap fun
    | .publication p => some p
    | .response .. => none

@[simp] theorem publicationsOf_map (ps : List Publication) : publicationsOf (ps.map .publication) = ps := by
  induction ps with
  | nil => rfl
  | cons p ps ih =>
    rw [List.map_cons]
    exact congrArg (p :: ·) ih

namespace Session

/-- The report that a message makes, if the session heeds it. -/
def report? (s : Session) : Message → Option Report
  | .notification method params =>
    if !s.phase.isOpen then none
    else if method == "initialized".toList then
      if s.phase = .initializing then some .ready else none
    else (Notice.ofNotification? method params).map .notice
  | _ => none

/-- What a report does, and what is published then. -/
def heed (m : Machine) (s : Session) : Report → Session × List Publication
  | .ready => (s.ready m, (s.ready m).publishAll)
  | .notice n => s.note m n

private theorem answer_keeps (m : Machine) (s : Session) (method : Text) (params : Json) :
    (s.answer m method params).1.index = s.index ∧ (s.answer m method params).1.documents = s.documents := by
  have h := answers_answer m s method params
  generalize s.answer m method params = r at h ⊢
  cases h <;> exact ⟨rfl, rfl⟩

private theorem notify_closed {s : Session} (hs : s.phase.isOpen = false) (m : Machine) (method : Text)
    (params : Json) : (s.notify m method params).1.index = s.index ∧
      (s.notify m method params).1.documents = s.documents ∧ (s.notify m method params).2 = [] := by
  have h := notifies_notify m s method params
  generalize s.notify m method params = r at h ⊢
  cases h with
  | leave | dropped => exact ⟨rfl, rfl, rfl⟩
  | ready _ hphase => rw [hphase] at hs; cases hs
  | report hopen hn => rw [hopen] at hs; cases hs

private theorem notify_open {s : Session} (hs : s.phase.isOpen = true) (m : Machine) {method : Text}
    (hexit : method ≠ "exit".toList) (params : Json) : s.notify m method params = s.noteOpen m method params := by
  unfold notify
  rw [if_neg (by simpa using hexit)]
  revert hs
  cases s.phase with
  | initializing | initialized => exact fun _ => rfl
  | uninitialized | shuttingDown | exited => exact fun hs => by cases hs

private theorem noteOpen_cases {s : Session} (hs : s.phase.isOpen = true) (m : Machine) (method : Text) (params : Json) :
    (s.report? (.notification method params) = none ∧ s.noteOpen m method params = (s, [])) ∨
    ∃ r, s.report? (.notification method params) = some r ∧ s.noteOpen m method params = s.heed m r := by
  unfold noteOpen report?
  rw [hs]
  simp only [Bool.not_true, Bool.false_eq_true, ↓reduceIte, beq_iff_eq]
  by_cases hready : method = "initialized".toList
  · rw [if_pos hready, if_pos hready]
    split
    · rename_i hphase
      rw [hphase]
      exact .inr ⟨.ready, rfl, rfl⟩
    · refine .inl ⟨rfl, ?_⟩
      split
      · exact absurd ‹_› ‹_›
      · rfl
  · rw [if_neg hready, if_neg hready]
    cases Notice.ofNotification? method params with
    | none => exact .inl ⟨rfl, rfl⟩
    | some n => exact .inr ⟨.notice n, rfl, rfl⟩

/-- A message does nothing to the index and the documents and nothing is published, or it makes a report. -/
theorem handle_cases (m : Machine) (s : Session) (msg : Message) :
    (s.report? msg = none ∧ (s.handle m msg).1.index = s.index ∧ (s.handle m msg).1.documents = s.documents ∧
      publicationsOf (s.handle m msg).2 = []) ∨
    ∃ r, s.report? msg = some r ∧ (s.handle m msg).1 = (s.heed m r).1 ∧
      publicationsOf (s.handle m msg).2 = (s.heed m r).2 := by
  cases msg with
  | response id result error => exact .inl ⟨rfl, rfl, rfl, rfl⟩
  | request id method params =>
    obtain ⟨hindex, hdocuments⟩ := answer_keeps m s method params
    exact .inl ⟨rfl, hindex, hdocuments, rfl⟩
  | notification method params =>
    rw [handle_notification, publicationsOf_map]
    cases hopen : s.phase.isOpen with
    | false => exact .inl ⟨by simp [report?, hopen], notify_closed hopen m method params⟩
    | true =>
      -- leaving is no report, and it is the only notification that is not left to the open session
      by_cases hexit : method = "exit".toList
      · subst hexit
        exact .inl ⟨by simp [report?, hopen, Notice.ofNotification?], rfl, rfl, rfl⟩
      · rw [notify_open hopen m hexit]
        rcases noteOpen_cases hopen m method params with ⟨hnone, h⟩ | ⟨r, hr, h⟩
        · rw [h]
          exact .inl ⟨hnone, rfl, rfl, rfl⟩
        · rw [h]
          exact .inr ⟨r, hr, rfl, rfl⟩

theorem handle_of_report? {s : Session} {msg : Message} {r : Report} (hr : s.report? msg = some r) (m : Machine) :
    (s.handle m msg).1 = (s.heed m r).1 ∧ publicationsOf (s.handle m msg).2 = (s.heed m r).2 := by
  rcases handle_cases m s msg with ⟨hnone, -⟩ | ⟨r', hr', h⟩
  · rw [hr] at hnone
    cases hnone
  · rw [hr] at hr'
    cases hr'
    exact h

/-! ### Documents after a report -/

@[simp] theorem documents_indexFile (m : Machine) (s : Session) (uri : Uri) :
    (s.indexFile m uri).documents = s.documents := by
  unfold indexFile
  split <;> rfl

@[simp] theorem documents_followFile (m : Machine) (s : Session) (c : FileChange) :
    (s.followFile m c).documents = s.documents := by
  unfold followFile
  split
  · rfl
  split
  · rfl
  · exact documents_indexFile m s c.uri

theorem documents_foldl_followFile (m : Machine) (s : Session) (cs : List FileChange) :
    (cs.foldl (fun s c => s.followFile m c) s).documents = s.documents := by
  induction cs generalizing s with
  | nil => rfl
  | cons c cs ih => rw [List.foldl_cons, ih, documents_followFile]

@[simp] theorem documents_close (m : Machine) (s : Session) (uri : Uri) :
    (s.close m uri).documents = s.documents.close uri := by
  unfold close
  simp only
  split <;> rfl

theorem documents_save (m : Machine) (s : Session) (uri : Uri) (text : Option Text) :
    (s.save m uri text).documents = match text with
      | some t => s.documents.put ⟨uri, t, ((s.documents.document? uri).map (·.version)).getD 0⟩
      | none => s.documents := by
  cases text with
  | some t => rfl
  | none =>
    unfold save
    cases s.documents.document? uri with
    | some d => rfl
    | none => exact documents_indexFile m s uri

/-- The documents after a report. -/
theorem documents_heed (m : Machine) (s : Session) (r : Report) :
    (s.heed m r).1.documents = match r with
      | .notice (.opened uri text version) => s.documents.put ⟨uri, text, version⟩
      | .notice (.changed uri (some text) version) => s.documents.put ⟨uri, text, version⟩
      | .notice (.saved uri (some text)) =>
        s.documents.put ⟨uri, text, ((s.documents.document? uri).map (·.version)).getD 0⟩
      | .notice (.closed uri) => s.documents.close uri
      | _ => s.documents := by
  cases r with
  | ready => rfl
  | notice n =>
    cases n with
    | opened uri text version => rfl
    | changed uri text version => cases text <;> rfl
    | saved uri text =>
      have h := documents_save m s uri text
      cases text <;> exact h
    | closed uri => exact documents_close m s uri
    | filesChanged changes => exact documents_foldl_followFile m s changes

theorem filed_heed {s : Session} (h : s.documents.Filed) (m : Machine) (r : Report) :
    (s.heed m r).1.documents.Filed := by
  rw [documents_heed]
  split
  · exact h.put _
  · exact h.put _
  · exact h.put _
  · exact h.close _
  · exact h

theorem filed_handle {s : Session} (h : s.documents.Filed) (m : Machine) (msg : Message) :
    (s.handle m msg).1.documents.Filed := by
  rcases handle_cases m s msg with ⟨-, -, hdocuments, -⟩ | ⟨r, -, hsession, -⟩
  · rw [hdocuments]
    exact h
  · rw [hsession]
    exact filed_heed h m r

/-! ### Runs -/

theorem handleAll_append (s : Session) (as bs : List Arrival) : s.handleAll (as ++ bs) = (s.handleAll as).handleAll bs :=
  List.foldl_append

theorem handleAll_concat (s : Session) (as : List Arrival) (a : Arrival) :
    s.handleAll (as ++ [a]) = ((s.handleAll as).handle a.machine a.message).1 := by
  rw [handleAll_append]
  rfl

theorem filed_handleAll (as : List Arrival) : (new.handleAll as).documents.Filed := by
  induction as using List.reverseRecOn with
  | nil => exact Documents.filed_empty
  | append_singleton as a ih =>
    rw [handleAll_concat]
    exact filed_handle ih a.machine a.message

end Session

end WikiSite
