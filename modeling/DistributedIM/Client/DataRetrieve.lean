/-
  The `readyRead` handlers of `TCPNetworkConnection`: `setupChattingDataRetrieveEvent` and
  `setupResourcesDataRetrieveEvent` are one piece of code over a `RecvInfo` and a `RecvNode` that
  outlive the call, the first with `MSGNODE_NORMAL`, the second with `MSGNODE_FILE_TRANSFER`.

  A call reads everything the socket holds into a local `array`, so `bytesAvailable` is 0 after
  the first pass of the outer loop and a call is one `chunk`. What `array` still holds when the
  call returns is gone.

  Once a frame is complete its body goes to `QJsonDocument::fromJson`, and only an object is handed
  on, to the callback of the id or to the logic thread. Nothing after that touches the node.

  Not modelled: `signal_login_failed` for the other documents, and what the callbacks do.
-/
import DistributedIM.Lib.Loop
import DistributedIM.Buffer.MsgNode

namespace DistributedIM.Client

open Bytes DistributedIM.Buffer

/-! ## State and handler -/

/-- `RecvInfo`: the length is 16 bits wide for both servers. -/
structure RecvInfo where
  id : UInt16
  length : UInt16
  msg : List UInt8
  deriving DecidableEq, Repr

/-- What a connection keeps between two calls. -/
structure Retrieve where
  received : RecvInfo
  buffer : MsgHeader
  deriving DecidableEq, Repr

/-- How the inner `while` is left. -/
inductive Exit
  /-- `return`, the body is not complete -/
  | waiting (st : Retrieve)
  /-- the loop condition failed -/
  | received (st : Retrieve)
  | fault (f : Fault)
  deriving DecidableEq, Repr

/-- A connection that has received nothing. -/
def Retrieve.init (type : MsgNodeType) : Retrieve :=
  { received := ⟨0, 0, []⟩, buffer := MsgHeader.forReceiving type }

/-- `std::optional::value`. -/
def optionalValue {α : Type} : Option α → Except Fault α
  | some a => .ok a
  | none => .error .badOptionalAccess

/-- Still receiving the header: it is cut off the array and decoded. -/
def takeHeader (e : Endian) (st : Retrieve) (array : List UInt8) :
    Except Fault (Retrieve × List UInt8) :=
  if st.buffer.checkHeaderRemaining then do
    let hlen := getHeaderLength st.buffer.type
    let buffer := { st.buffer with buffer := array.take hlen }.updatePointerPos hlen
    let id ← optionalValue (RecvNode.getId e buffer).1
    let buffer := (RecvNode.getId e buffer).2
    let length ← optionalValue (RecvNode.getLength e buffer).1
    let buffer := (RecvNode.getLength e buffer).2
    return ({ received := { st.received with id := id, length := UInt16.ofNat length },
              buffer := buffer }, array.drop hlen)
  else .ok (st, array)

/-- Still receiving the body: `received._length` bytes are copied to its base. -/
def takeBody (st : Retrieve) (array : List UInt8) : Except Fault (Retrieve × List UInt8) :=
  if st.buffer.checkBodyRemaining then do
    let length := st.received.length.toNat
    let buffer ← st.buffer.receiveAt (getHeaderLength st.buffer.type) (array.take length)
    return ({ st with buffer := buffer.updatePointerPos length }, array.drop length)
  else .ok (st, array)

/-- One pass of the inner `while`. -/
def pass (e : Endian) : Retrieve × List UInt8 → Loop.Pass (Retrieve × List UInt8) Exit
  | (st, array) =>
    if array.length < getHeaderLength st.buffer.type then .done (.received st)
    else
      match takeHeader e st array with
      | .error f => .done (.fault f)
      | .ok (st, array) =>
        if array.length < st.received.length.toNat then .done (.waiting st)
        else
          match takeBody st array with
          | .error f => .done (.fault f)
          | .ok s => .next s

/-- `RecvNode::get_msg_body` with a `QByteArray`. A length shorter than the header wraps around to
    a negative size, for which `QByteArray` takes the bytes up to the first NUL, wherever that is:
    `text` is what it finds behind the buffer. -/
def getMsgBody (text : List UInt8) (h : MsgHeader) : Option (List UInt8) :=
  if h.checkBodyRemaining then none
  else if h.length < getHeaderLength h.type then some text
  else
    some (slice h.buffer (getHeaderLength h.type) (sizeSub h.length (getHeaderLength h.type)))

/-- A message handed on for dispatch. -/
abbrev Message := UInt16 × List UInt8

/-- A `QJsonDocument`. -/
inductive JsonDocument
  | null
  | array
  | object
  deriving DecidableEq, Repr

/-- `QJsonDocument::fromJson`. There is no document in an empty text, and none with a NUL behind
    it. -/
structure JsonReader where
  fromJson : List UInt8 → JsonDocument
  fromJson_nil : fromJson [] = .null
  fromJson_nul : ∀ text, fromJson (text ++ [0]) = .null

variable (json : JsonReader)

/-- The message, if its body is an object. -/
def dispatched (m : Message) : List Message :=
  match json.fromJson m.2 with
  | .null => []
  | .array => []
  | .object => [m]

/-- After the loop: the message is taken out and the buffer cleared for the next one. -/
def handOn (text : List UInt8) (st : Retrieve) : Except Fault (Retrieve × List Message) := do
  let msg ← optionalValue (getMsgBody text st.buffer)
  return ({ received := { st.received with msg := msg }, buffer := st.buffer.clear },
    dispatched json (st.received.id, msg))

/-- What the call does after the loop. -/
def Exit.finish (text : List UInt8) : Exit → Except Fault (Retrieve × List Message)
  | .fault f => .error f
  | .waiting st => .ok (st, [])
  | .received st => handOn json text st

/-- One call of the handler; `none` when the inner loop has not ended within `fuel` passes. -/
def readyRead (text : List UInt8) (e : Endian) (fuel : Nat) (st : Retrieve)
    (chunk : List UInt8) : Option (Except Fault (Retrieve × List Message)) :=
  if chunk = [] then some (.ok (st, []))
  else (Loop.run (pass e) fuel (st, chunk)).map (Exit.finish json text)

/-- One call for each chunk, with the messages handed on by all of them; `texts n` is what lies
    behind the buffer while `n` chunks with bytes are still to come. -/
def readyReads (texts : Nat → List UInt8) (e : Endian) (fuel : Nat) :
    Retrieve → List (List UInt8) → Option (Except Fault (Retrieve × List Message))
  | st, [] => some (.ok (st, []))
  | st, chunk :: chunks =>
    match readyRead json (texts (chunks.countP (· ≠ []))) e fuel st chunk with
    | none => none
    | some (.error f) => some (.error f)
    | some (.ok (st, ms)) =>
      (readyReads texts e fuel st chunks).map fun r => r.map fun r => (r.1, ms ++ r.2)

/-- Whatever lies behind the buffer, every call ends without a fault and the calls hand on exactly
    these messages. -/
def Reassembles (e : Endian) (type : MsgNodeType) (chunks : List (List UInt8))
    (ms : List Message) : Prop :=
  ∀ texts, ∃ fuel st, readyReads json texts e fuel (Retrieve.init type) chunks = some (.ok (st, ms))

end DistributedIM.Client
