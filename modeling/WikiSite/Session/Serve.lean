import WikiSite.Rpc.Frame
import WikiSite.Session.Basic

/-!
# Serving a connection

The loop of the server: it reads messages from a stream of bytes and writes what the session sends, until the session
is left, the stream ends or it breaks. A body that is no JSON and a body that is no message are answered with an
error to nobody; other frames that cannot be read are dropped. Each frame meets the machine as it is by then.
-/

namespace WikiSite

/-- A connection to an editor. -/
structure Connection where
  /-- The bytes that come in. -/
  input : Bytes
  /-- What comes after them. -/
  ending : StreamEnd
  /-- Whether what is written goes out. -/
  writable : Bool
  /-- Whether the connection was called off before it began. -/
  cancelled : Bool

/-- What came of a connection: everything that was written, and the error that ended it, if any. -/
structure Outcome where
  written : List Outgoing
  error : Option FrameError

/-- What is written after what was written before. -/
def Outcome.after (before : List Outgoing) (o : Outcome) : Outcome := { o with written := before ++ o.written }

/-- The answer to a frame that was read but holds no message, with what is said of it. -/
def FrameError.response? (complaint : Text) : FrameError → Option Outgoing
  | .parse => some (.response .null (.error (.of .parseError complaint)))
  | .invalidMessage => some (.response .null (.error (.of .invalidRequest complaint)))
  | _ => none

namespace Session

/-- What one result of the reader leads to: the next session and what is written. -/
def receive (m : Machine) (s : Session) : Except FrameError Message → Session × List Outgoing
  | .ok msg => s.handle m msg
  | .error e => (s, (e.response? m.complaint).toList)

/-- Serves the bytes of a stream with the machines that the frames meet; the fuel bounds the number of frames. -/
def serveFrom (c : Connection) : Nat → (Nat → Machine) → Session → Bytes → Outcome
  | 0, _, _, _ => ⟨[], none⟩
  | fuel + 1, machines, s, bs =>
    let later := fun n => machines (n + 1)
    if s.phase = .exited then ⟨[], none⟩
    else
      match readMessage c.ending bs with
      | (.ended, _) => ⟨[], none⟩
      | (.error e, rest) =>
        if e.isFatal then ⟨[], some e⟩
        else
          match s.receive (machines 0) (.error e) with
          | (s, out) =>
            if !c.writable && !out.isEmpty then ⟨[], some .io⟩ else (serveFrom c fuel later s rest).after out
      | (.message msg, rest) =>
        match s.receive (machines 0) (.ok msg) with
        | (s, out) =>
          if !c.writable && !out.isEmpty then ⟨[], some .io⟩ else (serveFrom c fuel later s rest).after out

end Session

/-- Serves a connection with a new session, on the machines that its frames meet. -/
def serve (machines : Nat → Machine) (c : Connection) : Outcome :=
  if c.cancelled then ⟨[], none⟩ else Session.serveFrom c (c.input.length + 1) machines .new c.input

end WikiSite
