import WikiSite.Session.Basic

/-!
# The life of a session

A session goes through its phases in one direction. What a message can do is told once for requests (`answers_answer`)
and once for notifications (`notifies_notify`), and everything else follows from these two:

* no phase comes after a later one (`handleAll_forward`), and only a message to exit leads to the last phase
  (`phase_handle_eq_exited`);
* before the opening nothing but opening and leaving is done, so the session is still the new one
  (`handleAll_uninitialized`), and a session is opened at most once (`openings_le_one`);
* after the shutdown nothing but leaving is done (`handleAll_closed`);
* a refused request and a notification that cannot be read leave everything as it was.

`handleAll_lawful` puts them together for every sequence of messages, with the files on disk changing in between.
-/

namespace WikiSite

/-- How far a phase is from the beginning. -/
def Phase.rank : Phase → Nat
  | .uninitialized => 0
  | .initializing => 1
  | .initialized => 2
  | .shuttingDown => 3
  | .exited => 4

/-- Whether questions are answered and documents followed in a phase. -/
def Phase.isOpen (p : Phase) : Bool := p = .initializing ∨ p = .initialized

/-- Whether nothing but leaving is done in a phase. -/
def Phase.isClosed (p : Phase) : Bool := p = .shuttingDown ∨ p = .exited

theorem Phase.of_isClosed {p : Phase} (h : p.isClosed = true) :
    p.isOpen = false ∧ p ≠ .uninitialized ∧ p ≠ .initializing := by
  revert h
  cases p <;> decide

theorem Phase.rank_le (p : Phase) : p.rank ≤ 4 := by cases p <;> decide

/-- Whether a message asks to leave the session. -/
def Message.isExit (msg : Message) : Bool := msg.method? == some "exit".toList

/-- A machine with these files, on which nothing else counts. -/
def Machine.ofTree (tree : FileTree) : Machine := ⟨tree, [], .asListed, []⟩

/-- The request that opens a session on a directory. -/
def Message.opening (root : String) : Message :=
  .request (.number 1) "initialize".toList (.object [("rootUri", .ofString root), ("capabilities", .object [])])

/-- The notification that a document was opened with a text. -/
def Message.openedDocument (uri text : String) : Message :=
  .notification "textDocument/didOpen".toList <| .object
    [("textDocument", .object
      [("uri", .ofString uri), ("languageId", .ofString "markdown"), ("version", .int 1), ("text", .ofString text)])]

/-- A message that arrives, and the machine as it is then. -/
structure Arrival where
  machine : Machine
  message : Message

namespace Session

/-- The session after messages have been handled one after another. -/
def handleAll (s : Session) (as : List Arrival) : Session := as.foldl (fun s a => (s.handle a.machine a.message).1) s

theorem handleAll_cons (s : Session) (a : Arrival) (as : List Arrival) :
    s.handleAll (a :: as) = (s.handle a.machine a.message).1.handleAll as := rfl

/-! ### What a message can do -/

/-- The answers to a request, and the session after it, by what the request asks for and how far the session has come. -/
inductive Answers (m : Machine) (s : Session) : Text → Json → Session × Except ResponseError Answer → Prop where
  | leave (params : Json) : Answers m s "exit".toList params ({ s with phase := .exited }, .ok .nothing)
  | opening {params : Json} {o : Opening} : s.phase = .uninitialized → Opening.ofJson? params = some o →
      Answers m s "initialize".toList params (s.start m o, .ok (.opened o.encoding))
  | openingUnread {params : Json} : s.phase = .uninitialized → Opening.ofJson? params = none →
      Answers m s "initialize".toList params (s, .error (invalidParams m))
  | openedBefore (params : Json) : s.phase ≠ .uninitialized →
      Answers m s "initialize".toList params (s, .error (.of .invalidRequest "server already initialized".toList))
  | tooEarly {method : Text} (params : Json) : method ≠ "exit".toList → method ≠ "initialize".toList →
      s.phase = .uninitialized → Answers m s method params (s, .error .serverNotInitialized)
  | tooLate {method : Text} (params : Json) : method ≠ "exit".toList → method ≠ "initialize".toList →
      s.phase.isClosed = true →
      Answers m s method params (s, .error (.of .invalidRequest "server is shutting down".toList))
  | shutdown (params : Json) : s.phase.isOpen = true →
      Answers m s "shutdown".toList params ({ s with phase := .shuttingDown }, .ok .nothing)
  | question {method : Text} (params : Json) (r : Except ResponseError Answer) : method ≠ "exit".toList →
      method ≠ "initialize".toList → method ≠ "shutdown".toList → s.phase.isOpen = true →
      Answers m s method params (s, r)

private theorem answers_answerOpen (m : Machine) {s : Session} (hopen : s.phase.isOpen = true) {method : Text}
    (hexit : method ≠ "exit".toList) (hinit : method ≠ "initialize".toList) (params : Json) :
    Answers m s method params (s.answerOpen m method params) := by
  unfold answerOpen
  simp only [beq_iff_eq]
  by_cases hshut : method = "shutdown".toList
  · rw [if_pos hshut, hshut]
    exact .shutdown params hopen
  · rw [if_neg hshut]
    -- whatever the question, the session stays
    split
    · exact .question params _ hexit hinit hshut hopen
    split
    · exact .question params _ hexit hinit hshut hopen
    split
    · exact .question params _ hexit hinit hshut hopen
    · exact .question params _ hexit hinit hshut hopen

theorem answers_answer (m : Machine) (s : Session) (method : Text) (params : Json) :
    Answers m s method params (s.answer m method params) := by
  unfold answer
  simp only [beq_iff_eq]
  by_cases hexit : method = "exit".toList
  · rw [if_pos hexit, hexit]
    exact .leave params
  rw [if_neg hexit]
  by_cases hinit : method = "initialize".toList
  · rw [if_pos hinit, hinit]
    split
    · rename_i hphase
      split
      · exact .opening hphase ‹_›
      · exact .openingUnread hphase ‹_›
    · exact .openedBefore params ‹_›
  · rw [if_neg hinit]
    split <;> rename_i hphase
    · exact .tooEarly params hexit hinit hphase
    · exact .tooLate params hexit hinit (by rw [hphase]; rfl)
    · exact .tooLate params hexit hinit (by rw [hphase]; rfl)
    · exact answers_answerOpen m (by rw [hphase]; rfl) hexit hinit params
    · exact answers_answerOpen m (by rw [hphase]; rfl) hexit hinit params

/-- What a notification does to a session, and what is published. -/
inductive Notifies (m : Machine) (s : Session) : Text → Json → Session × List Publication → Prop where
  | leave (params : Json) : Notifies m s "exit".toList params ({ s with phase := .exited }, [])
  | ready (params : Json) : s.phase = .initializing →
      Notifies m s "initialized".toList params (s.ready m, (s.ready m).publishAll)
  | report {method : Text} {params : Json} {n : Notice} : s.phase.isOpen = true →
      Notice.ofNotification? method params = some n → Notifies m s method params (s.note m n)
  | dropped {method : Text} (params : Json) : method ≠ "exit".toList → Notifies m s method params (s, [])

private theorem notifies_noteOpen (m : Machine) {s : Session} (hopen : s.phase.isOpen = true) {method : Text}
    (hexit : method ≠ "exit".toList) (params : Json) : Notifies m s method params (s.noteOpen m method params) := by
  unfold noteOpen
  simp only [beq_iff_eq]
  by_cases hready : method = "initialized".toList
  · rw [if_pos hready, hready]
    split
    · exact .ready params ‹_›
    · exact .dropped params (by decide)
  · rw [if_neg hready]
    split
    · exact .report hopen ‹_›
    · exact .dropped params hexit

theorem notifies_notify (m : Machine) (s : Session) (method : Text) (params : Json) :
    Notifies m s method params (s.notify m method params) := by
  unfold notify
  simp only [beq_iff_eq]
  by_cases hexit : method = "exit".toList
  · rw [if_pos hexit, hexit]
    exact .leave params
  rw [if_neg hexit]
  split <;> rename_i hphase
  · exact .dropped params hexit
  · exact .dropped params hexit
  · exact .dropped params hexit
  · exact notifies_noteOpen m (by rw [hphase]; rfl) hexit params
  · exact notifies_noteOpen m (by rw [hphase]; rfl) hexit params

theorem handle_request (m : Machine) (s : Session) (id : RequestId) (method : Text) (params : Json) :
    s.handle m (.request id method params) =
      ((s.answer m method params).1, [.response id (s.answer m method params).2]) := rfl

theorem handle_notification (m : Machine) (s : Session) (method : Text) (params : Json) :
    s.handle m (.notification method params) =
      ((s.notify m method params).1, (s.notify m method params).2.map .publication) := rfl

/-! ### Reports leave the phase alone -/

@[simp] theorem phase_indexFile (m : Machine) (s : Session) (uri : Uri) : (s.indexFile m uri).phase = s.phase := by
  unfold indexFile
  split <;> rfl

@[simp] theorem phase_save (m : Machine) (s : Session) (uri : Uri) (text : Option Text) :
    (s.save m uri text).phase = s.phase := by
  unfold save
  split
  · rfl
  · rfl
  · exact phase_indexFile m s uri

@[simp] theorem phase_close (m : Machine) (s : Session) (uri : Uri) : (s.close m uri).phase = s.phase := by
  unfold close
  simp only
  split <;> rfl

@[simp] theorem phase_followFile (m : Machine) (s : Session) (c : FileChange) : (s.followFile m c).phase = s.phase := by
  unfold followFile
  split
  · rfl
  split
  · rfl
  · exact phase_indexFile m s c.uri

theorem phase_foldl_followFile (m : Machine) (s : Session) (cs : List FileChange) :
    (cs.foldl (fun s c => s.followFile m c) s).phase = s.phase := by
  induction cs generalizing s with
  | nil => rfl
  | cons c cs ih => rw [List.foldl_cons, ih, phase_followFile]

theorem phase_note (m : Machine) (s : Session) (n : Notice) : (s.note m n).1.phase = s.phase := by
  cases n with
  | opened uri text version => rfl
  | changed uri text version => cases text <;> rfl
  | saved uri text => exact phase_save m s uri text
  | closed uri => exact phase_close m s uri
  | filesChanged changes => exact phase_foldl_followFile m s changes

/-! ### Forward -/

theorem handle_forward (m : Machine) (s : Session) (msg : Message) :
    s.phase.rank ≤ (s.handle m msg).1.phase.rank := by
  cases msg with
  | response id result error => exact Nat.le_refl _
  | request id method params =>
    have h := answers_answer m s method params
    rw [handle_request]
    generalize s.answer m method params = r at h ⊢
    cases h with
    | leave => exact s.phase.rank_le
    | opening hphase ho =>
      rw [hphase]
      exact Nat.zero_le _
    | shutdown _ hopen =>
      have : s.phase.rank ≤ 3 := by revert hopen; cases s.phase <;> decide
      exact this
    | _ => exact Nat.le_refl _
  | notification method params =>
    have h := notifies_notify m s method params
    rw [handle_notification]
    generalize s.notify m method params = r at h ⊢
    cases h with
    | leave => exact s.phase.rank_le
    | ready _ hphase =>
      rw [hphase]
      exact (by decide : (1 : Nat) ≤ 2)
    | report hopen hn => exact Nat.le_of_eq (by rw [phase_note])
    | dropped => exact Nat.le_refl _

theorem handleAll_forward (s : Session) (as : List Arrival) : s.phase.rank ≤ (s.handleAll as).phase.rank := by
  induction as generalizing s with
  | nil => exact Nat.le_refl _
  | cons a as ih => exact Nat.le_trans (handle_forward a.machine s a.message) (ih _)

theorem isExit_request {id : RequestId} {method : Text} {params : Json} :
    (Message.request id method params).isExit = true ↔ method = "exit".toList := by
  simp [Message.isExit, Message.method?]

theorem isExit_notification {method : Text} {params : Json} :
    (Message.notification method params).isExit = true ↔ method = "exit".toList := by
  simp [Message.isExit, Message.method?]

/-- Only a message to exit leads to the last phase. -/
theorem phase_handle_eq_exited {m : Machine} {s : Session} (hs : s.phase ≠ .exited) (msg : Message) :
    (s.handle m msg).1.phase = .exited ↔ msg.isExit = true := by
  cases msg with
  | response id result error => simpa [handle, Message.isExit, Message.method?] using hs
  | request id method params =>
    have h := answers_answer m s method params
    rw [handle_request, isExit_request]
    generalize s.answer m method params = r at h ⊢
    cases h with
    | leave => simp
    | opening hphase ho => simp [start]
    | shutdown _ hopen => simp
    | openingUnread | openedBefore => simpa using hs
    | tooEarly _ hexit | tooLate _ hexit | question _ _ hexit => exact iff_of_false hs hexit
  | notification method params =>
    have h := notifies_notify m s method params
    rw [handle_notification, isExit_notification]
    generalize s.notify m method params = r at h ⊢
    cases h with
    | leave => simp
    | ready _ hphase => simp [ready]
    | @report _ _ n hopen hn =>
      have hexit : method ≠ "exit".toList := by
        rintro rfl
        cases hn
      rw [phase_note]
      exact iff_of_false hs hexit
    | dropped _ hexit => exact iff_of_false hs hexit

/-! ### Before the opening -/

/-- A message after which the session is not open yet has done nothing. -/
theorem handle_uninitialized {m : Machine} {s : Session} {msg : Message}
    (hphase : (s.handle m msg).1.phase = .uninitialized) : (s.handle m msg).1 = s := by
  cases msg with
  | response id result error => rfl
  | request id method params =>
    have h := answers_answer m s method params
    rw [handle_request] at hphase ⊢
    generalize s.answer m method params = r at h hphase ⊢
    cases h with
    | leave | opening | shutdown => cases hphase
    | _ => rfl
  | notification method params =>
    have h := notifies_notify m s method params
    rw [handle_notification] at hphase ⊢
    generalize s.notify m method params = r at h hphase ⊢
    cases h with
    | leave | ready => cases hphase
    | report hopen hn =>
      rw [phase_note] at hphase
      rw [hphase] at hopen
      cases hopen
    | dropped => rfl

theorem handleAll_uninitialized {s : Session} {as : List Arrival} (hphase : (s.handleAll as).phase = .uninitialized) :
    s.handleAll as = s := by
  induction as generalizing s with
  | nil => rfl
  | cons a as ih =>
    rw [handleAll_cons] at hphase ⊢
    -- the later messages have done nothing, so the session is already the one after the first
    have hfirst := ih hphase
    rw [hfirst] at hphase ⊢
    exact handle_uninitialized hphase

/-- Whether something that is sent is a result. -/
def isResult : Outgoing → Bool
  | .response _ (.ok _) => true
  | _ => false

/-- Whether a message is a request to open the session that is answered with a result. -/
def opensWith (s : Session) (a : Arrival) : Bool :=
  match a.message with
  | .request _ method _ => method == "initialize".toList && (s.handle a.machine a.message).2.any isResult
  | _ => false

/-- How many requests to open the session are answered with a result. -/
def openings : Session → List Arrival → Nat
  | _, [] => 0
  | s, a :: as => (if s.opensWith a then 1 else 0) + openings (s.handle a.machine a.message).1 as

/-- An opening goes from the first phase to the second. -/
theorem opensWith_phase {s : Session} {a : Arrival} (h : s.opensWith a = true) :
    s.phase = .uninitialized ∧ (s.handle a.machine a.message).1.phase = .initializing := by
  obtain ⟨m, msg⟩ := a
  unfold opensWith at h
  cases msg with
  | response id result error => cases h
  | notification method params => cases h
  | request id method params =>
    have hans := answers_answer m s method params
    simp only [handle_request, Bool.and_eq_true, beq_iff_eq] at h ⊢
    generalize s.answer m method params = r at h hans ⊢
    obtain ⟨rfl, hresult⟩ := h
    cases hans with
    | opening hphase ho => exact ⟨hphase, rfl⟩
    | openingUnread => cases hresult
    | openedBefore => cases hresult
    | tooEarly _ _ hinit | tooLate _ _ hinit | question _ _ _ hinit => exact absurd rfl hinit

theorem openings_eq_zero {s : Session} (hs : s.phase ≠ .uninitialized) (as : List Arrival) : s.openings as = 0 := by
  induction as generalizing s with
  | nil => rfl
  | cons a as ih =>
    have hnot : s.opensWith a = false := by
      rw [← Bool.not_eq_true]
      exact fun h => hs (opensWith_phase h).1
    -- a phase that has been left does not come again
    have hnext : (s.handle a.machine a.message).1.phase ≠ .uninitialized := by
      intro h
      exact hs (handle_uninitialized h ▸ h)
    rw [openings, hnot, ih hnext]
    rfl

theorem openings_le_one (s : Session) (as : List Arrival) : s.openings as ≤ 1 := by
  induction as generalizing s with
  | nil => exact Nat.zero_le _
  | cons a as ih =>
    rw [openings]
    split
    · rename_i h
      have hnext : (s.handle a.machine a.message).1.phase ≠ .uninitialized := by
        rw [(opensWith_phase h).2]
        decide
      have hlater := openings_eq_zero hnext as
      omega
    · rw [Nat.zero_add]
      exact ih _

/-! ### After the shutdown -/

/-- Of a closed session nothing changes but, with a message to exit, the phase. -/
theorem handle_closed {s : Session} (hs : s.phase.isClosed = true) (m : Machine) (msg : Message) :
    (s.handle m msg).1 = (if msg.isExit then { s with phase := .exited } else s) ∧
      ∀ p, .publication p ∉ (s.handle m msg).2 := by
  obtain ⟨hopen, hnew, hinitializing⟩ := Phase.of_isClosed hs
  cases msg with
  | response id result error => exact ⟨rfl, fun p => List.not_mem_nil⟩
  | request id method params =>
    have h := answers_answer m s method params
    rw [handle_request]
    refine ⟨?_, fun p => by simp⟩
    generalize s.answer m method params = r at h ⊢
    cases h with
    | leave => rfl
    | opening hphase ho => exact absurd hphase hnew
    | shutdown _ ho => rw [hopen] at ho; cases ho
    | openingUnread | openedBefore => rfl
    | tooEarly _ hexit | tooLate _ hexit | question _ _ hexit => rw [if_neg (by rwa [isExit_request])]
  | notification method params =>
    have h := notifies_notify m s method params
    rw [handle_notification]
    generalize s.notify m method params = r at h ⊢
    cases h with
    | leave => exact ⟨rfl, fun p => List.not_mem_nil⟩
    | ready _ hphase => exact absurd hphase hinitializing
    | report ho hn => rw [hopen] at ho; cases ho
    | dropped _ hexit => exact ⟨by rw [if_neg (by rwa [isExit_notification])], fun p => List.not_mem_nil⟩

theorem handleAll_closed {s : Session} (hs : s.phase.isClosed = true) (as : List Arrival) :
    s.handleAll as = if as.any (fun a => a.message.isExit) then { s with phase := .exited } else s := by
  induction as generalizing s with
  | nil => rfl
  | cons a as ih =>
    rw [handleAll_cons, (handle_closed hs a.machine a.message).1, List.any_cons]
    cases a.message.isExit with
    | true =>
      -- leaving twice is leaving once
      rw [if_pos rfl, ih rfl, Bool.true_or, if_pos rfl]
      split <;> rfl
    | false => rw [if_neg (by decide), ih hs, Bool.false_or]

/-- A closed session refuses every request but that to exit. -/
theorem answer_closed {s : Session} (hs : s.phase.isClosed = true) (m : Machine) {method : Text}
    (hexit : method ≠ "exit".toList) (params : Json) :
    ∃ e : ResponseError, e.code.number = -32600 ∧ s.answer m method params = (s, .error e) := by
  obtain ⟨hopen, hnew, -⟩ := Phase.of_isClosed hs
  have h := answers_answer m s method params
  generalize s.answer m method params = r at h ⊢
  cases h with
  | leave => exact absurd rfl hexit
  | openedBefore | tooLate => exact ⟨_, rfl, rfl⟩
  | opening hphase | openingUnread hphase => exact absurd hphase hnew
  | tooEarly _ _ _ hphase => exact absurd hphase hnew
  | shutdown _ ho => rw [hopen] at ho; cases ho
  | question _ _ _ _ _ ho => rw [hopen] at ho; cases ho

theorem closed_of_shutdown {m : Machine} {s : Session} {method : Text} (hmethod : method = "shutdown".toList)
    {params : Json} {a : Answer} (hok : (s.answer m method params).2 = .ok a) :
    (s.answer m method params).1.phase = .shuttingDown := by
  have h := answers_answer m s method params
  generalize s.answer m method params = r at h hok ⊢
  cases h with
  | shutdown => rfl
  | leave | opening => exact absurd hmethod (by decide)
  | question _ _ _ _ hshut => exact absurd hmethod hshut
  | _ => cases hok

/-! ### Refusals -/

/-- A request that is answered with an error has done nothing. -/
theorem answer_of_error {m : Machine} {s : Session} {method : Text} {params : Json} {e : ResponseError}
    (herror : (s.answer m method params).2 = .error e) : (s.answer m method params).1 = s := by
  have h := answers_answer m s method params
  generalize s.answer m method params = r at h herror ⊢
  cases h with
  | leave | opening | shutdown => cases herror
  | _ => rfl

theorem answer_uninitialized {s : Session} (hs : s.phase = .uninitialized) (m : Machine) {method : Text}
    (hinit : method ≠ "initialize".toList) (hexit : method ≠ "exit".toList) (params : Json) :
    s.answer m method params = (s, .error .serverNotInitialized) := by
  have h := answers_answer m s method params
  generalize s.answer m method params = r at h ⊢
  cases h with
  | tooEarly => rfl
  | leave => exact absurd rfl hexit
  | opening | openingUnread | openedBefore => exact absurd rfl hinit
  | tooLate _ _ _ hclosed => rw [hs] at hclosed; cases hclosed
  | shutdown _ hopen => rw [hs] at hopen; cases hopen
  | question _ _ _ _ _ hopen => rw [hs] at hopen; cases hopen

theorem answer_initialize {s : Session} (hs : s.phase = .uninitialized) (m : Machine) (params : Json) :
    s.answer m "initialize".toList params =
      match Opening.ofJson? params with
      | some o => (s.start m o, .ok (.opened o.encoding))
      | none => (s, .error (invalidParams m)) := by
  unfold answer
  cases Opening.ofJson? params with
  | some o => simp [hs]
  | none => simp [hs]

theorem notify_uninitialized {s : Session} (hs : s.phase = .uninitialized) (m : Machine) {method : Text}
    (hexit : method ≠ "exit".toList) (params : Json) : s.notify m method params = (s, []) := by
  have h := notifies_notify m s method params
  generalize s.notify m method params = r at h ⊢
  cases h with
  | leave => exact absurd rfl hexit
  | ready _ hphase => rw [hs] at hphase; cases hphase
  | report hopen hn => rw [hs] at hopen; cases hopen
  | dropped => rfl

/-- A notification that takes parameters does nothing when they cannot be read. -/
theorem notify_unread (m : Machine) (s : Session) {method : Text} (hexit : method ≠ "exit".toList)
    (hready : method ≠ "initialized".toList) {params : Json} (hunread : Notice.ofNotification? method params = none) :
    s.notify m method params = (s, []) := by
  have h := notifies_notify m s method params
  generalize s.notify m method params = r at h ⊢
  cases h with
  | leave => exact absurd rfl hexit
  | ready => exact absurd rfl hready
  | report hopen hn => rw [hunread] at hn; cases hn
  | dropped => rfl

/-! ### The whole life -/

/-- What holds of a session from its shutdown on. -/
structure IsShut (s : Session) : Prop where
  /-- Nothing but a message to exit changes anything, and that only the phase. -/
  unchanged : ∀ later, s.handleAll later =
    if later.any (fun a => a.message.isExit) then { s with phase := .exited } else s
  refuses : ∀ later m id method params, method ≠ "exit".toList → ∃ e : ResponseError, e.code.number = -32600 ∧
    (s.handleAll later).handle m (.request id method params) = (s.handleAll later, [.response id (.error e)])
  silent : ∀ later m msg p, .publication p ∉ ((s.handleAll later).handle m msg).2

/-- What holds of a session at every point of its life. -/
structure Lawful (s : Session) : Prop where
  forward : ∀ later, s.phase.rank ≤ (s.handleAll later).phase.rank
  /-- Before the opening the session is as it was created. -/
  untouched : s.phase = .uninitialized → s = new
  refuses : s.phase = .uninitialized → ∀ m id method params, method ≠ "initialize".toList → method ≠ "exit".toList →
    ∃ e : ResponseError, e.code.number = -32002 ∧
      s.handle m (.request id method params) = (s, [.response id (.error e)])
  drops : s.phase = .uninitialized → ∀ m method params, method ≠ "exit".toList →
    s.handle m (.notification method params) = (s, [])
  /-- A shutdown that is answered with a result shuts the session. -/
  shuts : ∀ m id params a, (s.handle m (.request id "shutdown".toList params)).2 = [.response id (.ok a)] →
    (s.handle m (.request id "shutdown".toList params)).1.IsShut
  /-- A request that is answered with an error leaves everything as it was. -/
  atomic : ∀ m id method params e, (s.handle m (.request id method params)).2 = [.response id (.error e)] →
    (s.handle m (.request id method params)).1 = s
  /-- An opening that could not be read can be tried again. -/
  retry : s.phase = .uninitialized → ∀ m id params, Opening.ofJson? params = none →
    (∃ e : ResponseError, e.code.number = -32602 ∧
      s.handle m (.request id "initialize".toList params) = (s, [.response id (.error e)])) ∧
    ∀ m id params o, Opening.ofJson? params = some o →
      (s.handle m (.request id "initialize".toList params)).2 = [.response id (.ok (.opened o.encoding))]
  /-- A notification with parameters that cannot be read leaves everything as it was. -/
  unread : ∀ m method params, method ≠ "exit".toList → method ≠ "initialized".toList →
    Notice.ofNotification? method params = none → s.handle m (.notification method params) = (s, [])
  /-- The two other methods take no parameters, so nothing is read with them. -/
  paramless : ∀ m method, method = "exit".toList ∨ method = "initialized".toList → ∀ params params',
    s.handle m (.notification method params) = s.handle m (.notification method params')

theorem isShut_of_isClosed {s : Session} (hs : s.phase.isClosed = true) : s.IsShut := by
  have hlater : ∀ later, (s.handleAll later).phase.isClosed = true := by
    intro later
    rw [handleAll_closed hs]
    split
    · rfl
    · exact hs
  refine ⟨handleAll_closed hs, ?_, ?_⟩
  · intro later m id method params hexit
    obtain ⟨e, he, h⟩ := answer_closed (hlater later) m hexit params
    exact ⟨e, he, by rw [handle_request, h]⟩
  · intro later m msg p
    exact (handle_closed (hlater later) m msg).2 p

private theorem notify_paramless (m : Machine) (s : Session) {method : Text}
    (h : method = "exit".toList ∨ method = "initialized".toList) (params params' : Json) :
    s.notify m method params = s.notify m method params' := by
  rcases h with rfl | rfl
  · rfl
  · unfold notify
    rw [if_neg (by decide), if_neg (by decide)]
    split <;> rfl

/-- At every point of a session, and whatever messages have led to it, the laws of its life hold; and in all its life
at most one request to open it is answered with a result. -/
theorem handleAll_lawful (as : List Arrival) : (new.handleAll as).Lawful ∧ new.openings as ≤ 1 := by
  refine ⟨?_, openings_le_one new as⟩
  generalize hs : new.handleAll as = s
  refine ⟨handleAll_forward s, ?_, ?_, ?_, ?_, ?_, ?_, ?_, ?_⟩
  · rintro hphase
    rw [← hs] at hphase ⊢
    exact handleAll_uninitialized hphase
  · intro hphase m id method params hinit hexit
    refine ⟨.serverNotInitialized, rfl, ?_⟩
    rw [handle_request, answer_uninitialized hphase m hinit hexit]
  · intro hphase m method params hexit
    rw [handle_notification, notify_uninitialized hphase m hexit]
    rfl
  · intro m id params a hok
    refine isShut_of_isClosed ?_
    rw [handle_request] at hok ⊢
    simp only [List.cons.injEq, Outgoing.response.injEq, true_and, and_true] at hok
    rw [closed_of_shutdown rfl hok]
    rfl
  · intro m id method params e herror
    rw [handle_request] at herror ⊢
    simp only [List.cons.injEq, Outgoing.response.injEq, true_and, and_true] at herror
    exact answer_of_error herror
  · intro hphase m id params hunread
    refine ⟨⟨invalidParams m, rfl, by rw [handle_request, answer_initialize hphase, hunread]⟩, ?_⟩
    intro m id params o ho
    rw [handle_request, answer_initialize hphase, ho]
  · intro m method params hexit hready hunread
    rw [handle_notification, notify_unread m s hexit hready hunread]
    rfl
  · intro m method h params params'
    rw [handle_notification, handle_notification, notify_paramless m s h params params']

end Session

end WikiSite
