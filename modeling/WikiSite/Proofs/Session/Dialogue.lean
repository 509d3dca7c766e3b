import Mathlib.Data.List.Forall2
import WikiSite.Proofs.Rpc.Frame
import WikiSite.Proofs.Rpc.Stream
import WikiSite.Proofs.Session.Lifecycle
import WikiSite.Session.Serve

/-!
# Answers in turn

What a connection writes is held against what was read from it (`heard`). Every request calls for a response to its
id, a body that cannot be read as a message for an error to nobody, and nothing else for a response at all
(`ReadResult.expected?`). `serve_inTurn`: the responses that are written are the expected ones, one for each and in
the order in which they were called for, and all else that is written are diagnostics.
-/

namespace WikiSite

/-! ### What is read -/

/-- Whether a result of the reader is a message that asks to leave. -/
def ReadResult.isExit : ReadResult → Bool
  | .message msg => msg.isExit
  | _ => false

/-- The results of reading a stream up to the message that asks to leave, the end of the stream or an error that
breaks it. -/
def heard (ending : StreamEnd) (bs : Bytes) : List ReadResult :=
  match hread : readMessage ending bs with
  | (r, rest) =>
    if hgo : r.goesOn = true then
      have : rest.length < bs.length := readMessage_length hread hgo
      r :: if r.isExit then [] else heard ending rest
    else []
termination_by bs.length

theorem heard_of_stops {ending : StreamEnd} {bs rest : Bytes} {r : ReadResult}
    (e : readMessage ending bs = (r, rest)) (h : r.goesOn = false) : heard ending bs = [] := by
  rw [heard]
  split
  rename_i h'
  rw [e] at h'
  cases h'
  rw [dif_neg (by rw [h]; decide)]

theorem heard_of_goesOn {ending : StreamEnd} {bs rest : Bytes} {r : ReadResult}
    (e : readMessage ending bs = (r, rest)) (h : r.goesOn = true) :
    heard ending bs = r :: if r.isExit then [] else heard ending rest := by
  rw [heard]
  split
  rename_i h'
  rw [e] at h'
  cases h'
  rw [dif_pos h]

/-! ### What is expected -/

/-- A response that is called for. -/
inductive Expected where
  /-- A response to the request with this id. -/
  | answer (id : RequestId)
  /-- An error of this number to nobody. -/
  | error (number : Int)

/-- The response that a result of the reader calls for. -/
def ReadResult.expected? : ReadResult → Option Expected
  | .message (.request id _ _) => some (.answer id)
  | .error .parse => some (.error (-32700))
  | .error .invalidMessage => some (.error (-32600))
  | _ => none

/-- Whether a message is the response that was called for: a request is answered with a result or with an error. -/
def Expected.IsMetBy (msg : Message) : Expected → Prop
  | .answer id => (∃ result, msg = .success id result) ∨ ∃ error, msg = .failure id error
  | .error number => ∃ error, msg = .failure .null error ∧ error.code.number = number

def Message.isResponse : Message → Bool
  | .response .. => true
  | _ => false

/-- The responses among the messages are the ones that the results call for, in their order, and all other messages
are diagnostics of a document. -/
structure InTurn (rs : List ReadResult) (msgs : List Message) : Prop where
  responses : List.Forall₂ (fun expected msg => expected.IsMetBy msg) (rs.filterMap ReadResult.expected?)
    (msgs.filter Message.isResponse)
  others : ∀ msg ∈ msgs, msg.isResponse = false →
    ∃ params, msg = .notification "textDocument/publishDiagnostics".toList params

namespace InTurn

theorem nil : InTurn [] [] := ⟨.nil, fun _ hmem => absurd hmem List.not_mem_nil⟩

theorem append {rs rs' : List ReadResult} {msgs msgs' : List Message} (h : InTurn rs msgs) (h' : InTurn rs' msgs') :
    InTurn (rs ++ rs') (msgs ++ msgs') := by
  constructor
  · rw [List.filterMap_append, List.filter_append]
    exact List.rel_append h.responses h'.responses
  · intro msg hmem hkind
    rcases List.mem_append.1 hmem with hmem | hmem
    · exact h.others msg hmem hkind
    · exact h'.others msg hmem hkind

/-- A response that was called for. -/
theorem one {r : ReadResult} {expected : Expected} {msg : Message} (hr : r.expected? = some expected)
    (hmsg : msg.isResponse = true) (hmet : expected.IsMetBy msg) : InTurn [r] [msg] := by
  constructor
  · rw [List.filterMap_cons_some hr, List.filter_cons_of_pos hmsg]
    exact .cons hmet .nil
  · intro msg' hmem hkind
    rw [List.mem_singleton.1 hmem, hmsg] at hkind
    cases hkind

/-- Diagnostics, where no response was called for. -/
theorem publications {r : ReadResult} (hr : r.expected? = none) (ps : List Publication) :
    InTurn [r] ((ps.map Outgoing.publication).map Outgoing.toMessage) := by
  constructor
  · have hnone : ((ps.map Outgoing.publication).map Outgoing.toMessage).filter Message.isResponse = [] := by
      rw [List.filter_eq_nil_iff]
      intro msg hmem
      obtain ⟨p, -, rfl⟩ := List.mem_map.1 (List.map_map ▸ hmem)
      exact Bool.false_ne_true
    rw [List.filterMap_cons_none hr, hnone]
    exact .nil
  · intro msg hmem _
    obtain ⟨p, -, rfl⟩ := List.mem_map.1 (List.map_map ▸ hmem)
    exact ⟨p.toJson, rfl⟩

end InTurn

namespace Session

/-! ### One result of the reader -/

/-- What a result of the reader leads to. -/
def hear (m : Machine) (s : Session) : ReadResult → Session × List Outgoing
  | .message msg => s.receive m (.ok msg)
  | .error e => s.receive m (.error e)
  | .ended => (s, [])

theorem inTurn_handle (m : Machine) (s : Session) (msg : Message) :
    InTurn [.message msg] ((s.handle m msg).2.map Outgoing.toMessage) := by
  cases msg with
  | request id method params =>
    rw [handle_request]
    cases (s.answer m method params).2 with
    | ok a => exact .one rfl rfl (.inl ⟨a.toJson, rfl⟩)
    | error e => exact .one rfl rfl (.inr ⟨e, rfl⟩)
  | notification method params =>
    rw [handle_notification]
    exact .publications rfl _
  | response id result error => exact .publications rfl []

theorem inTurn_hear (m : Machine) (s : Session) (r : ReadResult) :
    InTurn [r] ((s.hear m r).2.map Outgoing.toMessage) := by
  cases r with
  | message msg => exact inTurn_handle m s msg
  | error e =>
    cases e with
    | parse => exact .one rfl rfl ⟨_, rfl, rfl⟩
    | invalidMessage => exact .one rfl rfl ⟨_, rfl, rfl⟩
    | io => exact .publications rfl []
    | missingContentLength => exact .publications rfl []
    | invalidContentLength v => exact .publications rfl []
    | invalidUtf8 => exact .publications rfl []
  | ended => exact .publications rfl []

theorem phase_hear_eq_exited {s : Session} (hs : s.phase ≠ .exited) (m : Machine) (r : ReadResult) :
    (s.hear m r).1.phase = .exited ↔ r.isExit = true := by
  cases r with
  | message msg => exact phase_handle_eq_exited hs msg
  | error e => exact ⟨fun h => absurd h hs, fun h => by cases h⟩
  | ended => exact ⟨fun h => absurd h hs, fun h => by cases h⟩

/-! ### The whole stream -/

variable (machines : Nat → Machine)

theorem serveFrom_exited {s : Session} (hs : s.phase = .exited) (c : Connection) (fuel : Nat) (bs : Bytes) :
    (serveFrom c fuel machines s bs).written = [] := by
  cases fuel with
  | zero => rfl
  | succ fuel => rw [serveFrom, if_pos hs]

theorem serveFrom_of_stops {s : Session} (c : Connection) (fuel : Nat) {bs rest : Bytes} {r : ReadResult}
    (e : readMessage c.ending bs = (r, rest)) (h : r.goesOn = false) :
    (serveFrom c (fuel + 1) machines s bs).written = [] := by
  rw [serveFrom]
  split
  · rfl
  rw [e]
  cases r with
  | message msg => cases h
  | error err =>
    have hfatal : err.isFatal = true := by simpa [ReadResult.goesOn] using h
    simp only [hfatal, if_true]
  | ended => rfl

theorem serveFrom_of_goesOn {s : Session} (hs : s.phase ≠ .exited) {c : Connection} (hw : c.writable = true)
    (fuel : Nat) {bs rest : Bytes} {r : ReadResult} (e : readMessage c.ending bs = (r, rest)) (h : r.goesOn = true) :
    (serveFrom c (fuel + 1) machines s bs).written = (s.hear (machines 0) r).2 ++
      (serveFrom c fuel (fun n => machines (n + 1)) (s.hear (machines 0) r).1 rest).written := by
  rw [serveFrom, if_neg hs, e]
  cases r with
  | message msg =>
    simp only [hw, Bool.not_true, Bool.false_and, Bool.false_eq_true, if_false]
    rfl
  | error err =>
    have hfatal : err.isFatal = false := by simpa [ReadResult.goesOn] using h
    simp only [hfatal, hw, Bool.not_true, Bool.false_and, Bool.false_eq_true, if_false]
    rfl
  | ended => cases h

theorem inTurn_serveFrom {c : Connection} (hw : c.writable = true) {fuel : Nat} {s : Session} {bs : Bytes}
    (hs : s.phase ≠ .exited) (hfuel : bs.length < fuel) :
    InTurn (heard c.ending bs) ((serveFrom c fuel machines s bs).written.map Outgoing.toMessage) := by
  induction fuel generalizing machines s bs with
  | zero => omega
  | succ fuel ih =>
    rcases hread : readMessage c.ending bs with ⟨r, rest⟩
    rcases hgo : r.goesOn with _ | _
    · rw [heard_of_stops hread hgo, serveFrom_of_stops machines c fuel hread hgo]
      exact .nil
    · -- a byte was taken, so the fuel lasts for what is left
      have hlength := readMessage_length hread hgo
      -- the session is left exactly where the hearing stops
      have hexited := phase_hear_eq_exited hs (machines 0) r
      rw [heard_of_goesOn hread hgo, serveFrom_of_goesOn machines hs hw fuel hread hgo, List.map_append]
      have hrest : InTurn (if r.isExit then [] else heard c.ending rest)
          ((serveFrom c fuel (fun n => machines (n + 1)) (s.hear (machines 0) r).1 rest).written.map
            Outgoing.toMessage) := by
        split
        · rename_i hexit
          rw [serveFrom_exited _ (hexited.2 hexit)]
          exact .nil
        · rename_i hexit
          exact ih _ (fun h => hexit (hexited.1 h)) (by omega)
      exact (inTurn_hear (machines 0) s r).append hrest

end Session

/-- On a connection to which everything can be written, the responses are written in turn: one for every request that
is read and one for every body that is no message, in the order of the stream, and besides them nothing but
diagnostics. -/
theorem serve_inTurn (machines : Nat → Machine) (c : Connection) (hw : c.writable = true) (hc : c.cancelled = false) :
    InTurn (heard c.ending c.input) ((serve machines c).written.map Outgoing.toMessage) := by
  rw [serve, hc]
  exact Session.inTurn_serveFrom machines hw (by decide) (Nat.lt_succ_self _)

private theorem sendable_exitRequest : (Message.request (.number 1) "exit".toList .null).Sendable :=
  ⟨⟨.obj [("id".toList, .int 1), ("method".toList, .str "exit".toList)], by rfl, by rfl⟩, by rfl, by decide, by decide⟩

/-- A body that is no JSON and a request to leave: an error to nobody and a response to the request are expected. -/
theorem serve_inTurn_exit :
    let exit : Message := .request (.number 1) "exit".toList .null
    let c : Connection := ⟨frameOf [0x7B] ++ exit.frame, .eof, true, false⟩
    let m : Machine := .ofTree ⟨[], [], [], by decide, by decide⟩
    (heard c.ending c.input).filterMap ReadResult.expected? = [.error (-32700), .answer (.number 1)] ∧
      InTurn (heard c.ending c.input) ((serve (fun _ => m) c).written.map Outgoing.toMessage) := by
  intro exit c m
  refine ⟨?_, serve_inTurn (fun _ => m) c rfl rfl⟩
  have hbody : readBody [0x7B] = .error .parse := by rfl
  have hfirst : readMessage .eof (frameOf [0x7B] ++ exit.frame) = (.error .parse, exit.frame) := by
    rw [readMessage_frameOf (by decide) (by decide), hbody]
  have hsecond : readMessage .eof exit.frame = (.message exit, []) := by
    have hread := sendable_exitRequest.readMessage_frame []
    rwa [List.append_nil] at hread
  show (heard .eof (frameOf [0x7B] ++ exit.frame)).filterMap ReadResult.expected? = _
  rw [heard_of_goesOn hfirst rfl, heard_of_goesOn hsecond rfl]
  rfl

end WikiSite
