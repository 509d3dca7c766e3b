import WikiSite.Json.Reader
import WikiSite.Json.Writer
import WikiSite.Text.Quoted

/-!
# Messages

The three kinds of messages between an editor and the server: a request has a method and an id other than null, a
notification has a method and no such id, and everything else is a response. A message may also be written as the
list of its members in order.
-/

namespace WikiSite

/-- The id of a request. -/
inductive RequestId where
  | number (n : Int)
  | text (t : Text)
  | null
  deriving DecidableEq, Repr

/-- How an id is shown: texts in quotes. -/
def RequestId.display : RequestId → Text
  | .number n => intText n
  | .text t => quoted t
  | .null => "null".toList

/-- What went wrong with a request. -/
inductive ErrorCode where
  | parseError
  | invalidRequest
  | methodNotFound
  | invalidParams
  | internalError
  | serverNotInitialized
  | other (code : Int)
  deriving DecidableEq, Repr

namespace ErrorCode

/-- The number of a code. -/
def number : ErrorCode → Int
  | .parseError => -32700
  | .invalidRequest => -32600
  | .methodNotFound => -32601
  | .invalidParams => -32602
  | .internalError => -32603
  | .serverNotInitialized => -32002
  | .other n => n

/-- The code of a number. -/
def ofNumber (n : Int) : ErrorCode :=
  if n = -32700 then .parseError
  else if n = -32600 then .invalidRequest
  else if n = -32601 then .methodNotFound
  else if n = -32602 then .invalidParams
  else if n = -32603 then .internalError
  else if n = -32002 then .serverNotInitialized
  else .other n

end ErrorCode

/-- The error of a failed response. -/
structure ResponseError where
  code : ErrorCode
  message : Text
  data : Option Json

namespace ResponseError

/-- An error without data. -/
def of (code : ErrorCode) (message : Text) : ResponseError := ⟨code, message, none⟩

/-- The error for a method that does not exist. -/
def methodNotFound (method : Text) : ResponseError := .of .methodNotFound ("method not found: ".toList ++ method)

/-- The error for a request before the session started. -/
def serverNotInitialized : ResponseError := .of .serverNotInitialized "server not initialized".toList

end ResponseError

/-- A message. -/
inductive Message where
  | request (id : RequestId) (method : Text) (params : Json)
  | notification (method : Text) (params : Json)
  | response (id : RequestId) (result : Option Json) (error : Option ResponseError)

namespace Message

/-- The method of a request or notification. -/
def method? : Message → Option Text
  | .request _ m _ => some m
  | .notification m _ => some m
  | .response .. => none

/-- The response with a result. -/
def success (id : RequestId) (result : Json) : Message := .response id (some result) none

/-- The response with an error. -/
def failure (id : RequestId) (error : ResponseError) : Message := .response id none (some error)

end Message

/-! ### Reading -/

/-- The members of a record written as an object, or as a list of at most that many values in order. A missing member
is `none`. -/
def recordMembers (names : List String) : Json → Option (List (Option Json))
  | .obj members => some (names.map fun n => Table.get? members n.toList)
  | .arr items =>
    if names.length < items.length then none else some ((List.range names.length).map fun i => items[i]?)
  | _ => none

/-- The value of a member that is there and not null. -/
def present (v : Option Json) : Option Json := v.filter fun v => !v.isNull

/-- Reads an integer of 64 bits with a sign. -/
def Json.asInt64? : Json → Option Int
  | .num (.int n) => if isInt64 n then some n else none
  | _ => none

/-- Reads a string. -/
def Json.asText? : Json → Option Text
  | .str t => some t
  | _ => none

/-- Reads a member that may be missing or null. -/
def optionalMember {α : Type} (read : Json → Option α) (v : Option Json) : Option (Option α) :=
  match present v with
  | some v => (read v).map some
  | none => some none

/-- Reads an id. -/
def RequestId.ofJson? : Json → Option RequestId
  | .str t => some (.text t)
  | .null => some .null
  | v => v.asInt64?.map .number

/-- Reads the error of a response. -/
def ResponseError.ofJson? (v : Json) : Option ResponseError :=
  match recordMembers ["code", "message", "data"] v with
  | some [code, message, data] => do
    let code ← code.bind Json.asInt64?
    let message ← message.bind Json.asText?
    return ⟨.ofNumber code, message, present data⟩
  | _ => none

/-- The message with the given members. -/
def Message.ofMembers (id : Option RequestId) (method : Option Text) (params result : Option Json)
    (error : Option ResponseError) : Message :=
  match method with
  | some m =>
    match id with
    | some (.number n) => .request (.number n) m (params.getD .null)
    | some (.text t) => .request (.text t) m (params.getD .null)
    | _ => .notification m (params.getD .null)
  | none =>
    match error with
    | some e => .response (id.getD .null) none (some e)
    | none => .response (id.getD .null) (some (result.getD .null)) none

/-- Reads a message from a JSON value. -/
def Message.ofJson? (v : Json) : Option Message :=
  match recordMembers ["jsonrpc", "id", "method", "params", "result", "error"] v with
  | some [version, id, method, params, result, error] => do
    let _ ← (match version with | some v => v.asText? | none => some [])
    let id ← optionalMember RequestId.ofJson? id
    let method ← optionalMember Json.asText? method
    let error ← optionalMember ResponseError.ofJson? error
    return .ofMembers id method (present params) (present result) error
  | _ => none

/-! ### Writing -/

/-- An id as a JSON value. -/
def RequestId.toJson : RequestId → Json
  | .number n => .int n
  | .text t => .str t
  | .null => .null

/-- The members of an error, in the order in which they are written. -/
def ResponseError.members (e : ResponseError) : List (Text × Json) :=
  [("code".toList, .int e.code.number), ("message".toList, .str e.message)] ++
    (e.data.map fun d => ("data".toList, d)).toList

/-- The members of a message, in the order in which they are written. -/
def Message.members : Message → List (Text × Json)
  | .request id m params =>
    [("jsonrpc".toList, .ofString "2.0"), ("id".toList, id.toJson), ("method".toList, .str m)] ++
      (if params.isNull then [] else [("params".toList, params)])
  | .notification m params =>
    [("jsonrpc".toList, .ofString "2.0"), ("method".toList, .str m)] ++
      (if params.isNull then [] else [("params".toList, params)])
  | .response id result error =>
    [("jsonrpc".toList, .ofString "2.0"), ("id".toList, id.toJson)] ++
      (match error with
        | some e => [("error".toList, .obj e.members)]
        | none => [("result".toList, result.getD .null)])

/-- A message as a JSON value whose members stand in the order in which they are written. -/
def Message.toJson (m : Message) : Json := .obj m.members

/-- The JSON text of a message. -/
def Message.body (m : Message) : Text := m.toJson.write

end WikiSite
