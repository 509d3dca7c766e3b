import WikiSite.Rpc.Message
import WikiSite.Text.Utf8

/-!
# Frames

On the wire a message is a block of header lines, an empty line, and a body of as many bytes as the header
`Content-Length` says. The reader passes over everything else in a header block: unknown lines, lines that are not
text, and empty lines in front of it. A header or a body that is wrong costs one message and not the stream.
-/

namespace WikiSite

/-- The longest body that is read. -/
def maxContentLength : Nat := 64 * 1024 * 1024

/-- Why no message was read. -/
inductive FrameError where
  | io
  | missingContentLength
  | invalidContentLength (value : Text)
  | invalidUtf8
  | parse
  | invalidMessage
  deriving DecidableEq, Repr

namespace FrameError

/-- Whether the stream itself is broken. -/
def isFatal : FrameError → Bool
  | .io => true
  | _ => false

/-- What an error says, where the server words it. -/
def message? : FrameError → Option Text
  | .missingContentLength => some "message header has no Content-Length".toList
  | .invalidContentLength v => some ("invalid Content-Length header value: `".toList ++ v ++ "`".toList)
  | .invalidUtf8 => some "message body is not valid UTF-8".toList
  | _ => none

end FrameError

/-! ### Writing -/

/-- The frame around a body. -/
def frameOf (body : Bytes) : Bytes :=
  encodeUtf8 ("Content-Length: ".toList ++ natText body.length ++ "\r\n\r\n".toList) ++ body

/-- The frame of a message. -/
def Message.frame (m : Message) : Bytes := frameOf (encodeUtf8 m.body)

/-! ### Streams -/

/-- What comes after the last byte of a stream. -/
inductive StreamEnd where
  | eof
  | error
  deriving DecidableEq, Repr

/-- Splits off the bytes up to and with the first line feed; the flag tells whether there is one. -/
def cutLine : Bytes → Bytes × Bool × Bytes
  | [] => ([], false, [])
  | b :: rest =>
    if b == 0x0A then ([b], true, rest)
    else
      let (line, found, after) := cutLine rest
      (b :: line, found, after)

/-! ### Headers -/

/-- The number that a header value writes: digits after an optional plus sign, below `2 ^ 64`. -/
def lengthOf? (t : Text) : Option Nat :=
  let digits := match t with | '+' :: rest => rest | _ => t
  if digits.isEmpty || !digits.all isDigit then none
  else
    let n := natOfDigits digits
    if n < limit64 then some n else none

/-- Whether a header name is that of the length, also when other characters precede it on the line. -/
def isLengthName (name : Text) : Bool :=
  let name := trim name
  sameLetters (name.drop (name.length - 14)) "content-length".toList

/-- What the header lines so far have said. -/
structure Headers where
  /-- The last length that could be read. -/
  length : Option Nat
  /-- The last length that could not be read. -/
  invalid : Option Text
  /-- Whether a line was seen that is not empty. -/
  seen : Bool
  deriving DecidableEq, Repr

/-- Takes up a header line; `none` when the line ends the block. -/
def Headers.add (h : Headers) (raw : Bytes) : Option Headers :=
  match decodeUtf8 raw with
  | none => some { h with seen := true }
  | some text =>
    let line := dropEndWhile (fun c => c == '\r' || c == '\n') text
    if line.isEmpty then (if h.seen then none else some h)
    else
      match cutAtChar ':' line with
      | none => some { h with seen := true }
      | some (name, value) =>
        if isLengthName name then
          match lengthOf? (trim value) with
          | some n => some { h with length := some n, seen := true }
          | none => some { h with invalid := some (trim value), seen := true }
        else some { h with seen := true }

/-- What reading a header block led to. -/
inductive HeaderResult where
  | done (h : Headers)
  | ended
  | broken

/-- Reads header lines up to and with the empty line that ends them. -/
def readHeaders (ending : StreamEnd) : Nat → Headers → Bytes → HeaderResult × Bytes
  | 0, _, bs => (.ended, bs)
  | fuel + 1, h, bs =>
    let (line, found, rest) := cutLine bs
    if !found && ending = .error then (.broken, [])
    else if line.isEmpty then (.ended, [])
    else
      match h.add line with
      | none => (.done h, rest)
      | some h => readHeaders ending fuel h rest

/-! ### Messages -/

/-- What reading a message led to. -/
inductive ReadResult where
  | message (m : Message)
  | error (e : FrameError)
  | ended

/-- The message in a body. -/
def readBody (body : Bytes) : ReadResult :=
  match decodeUtf8 body with
  | none => .error .invalidUtf8
  | some text =>
    match Json.read text with
    | none => .error .parse
    | some v =>
      match Message.ofJson? v with
      | some m => .message m
      | none => .error .invalidMessage

/-- Reads the next message and leaves the bytes after it. -/
def readMessage (ending : StreamEnd) (bs : Bytes) : ReadResult × Bytes :=
  match readHeaders ending (bs.length + 1) ⟨none, none, false⟩ bs with
  | (.broken, rest) => (.error .io, rest)
  | (.ended, rest) => (.ended, rest)
  | (.done h, rest) =>
    match h.invalid with
    | some v => (.error (.invalidContentLength v), rest)
    | none =>
      match h.length with
      | none => (.error .missingContentLength, rest)
      | some n =>
        if n = 0 then (.error .missingContentLength, rest)
        else if maxContentLength < n then (.error (.invalidContentLength (natText n)), rest)
        else if rest.length < n then
          (match ending with | .eof => .ended | .error => .error .io, [])
        else (readBody (rest.take n), rest.drop n)

/-- A number of bytes that must still come before the next message can be read; 0 when it can be read from what is
there. -/
def bytesMissing (bs : Bytes) : Nat :=
  match readHeaders .error (bs.length + 1) ⟨none, none, false⟩ bs with
  | (.done h, rest) =>
    match h.invalid, h.length with
    | none, some n => if n ≤ maxContentLength then n - rest.length else 0
    | _, _ => 0
  | _ => 1

/-- Reads messages up to the end of the stream or a fatal error. -/
def readAll (ending : StreamEnd) : Nat → Bytes → List (Except FrameError Message)
  | 0, _ => []
  | fuel + 1, bs =>
    match readMessage ending bs with
    | (.ended, _) => []
    | (.message m, rest) => .ok m :: readAll ending fuel rest
    | (.error e, rest) => if e.isFatal then [.error e] else .error e :: readAll ending fuel rest

/-- Everything that is read from a stream: messages and errors in order. -/
def readStream (ending : StreamEnd) (bs : Bytes) : List (Except FrameError Message) :=
  readAll ending (bs.length + 1) bs

end WikiSite
