/-
  The receiving half of `Session` in the chatting server and in the resources server:
  `startSession`, `handle_header` and `handle_msgbody`, which replace the `RecvNode` from frame to
  frame and always have at most one `async_read` in flight. The two servers differ in the node's
  type, in the variable that takes the body length (`uint16_t` and `size_t`) and in the limit it
  is compared with (`MAX_LENGTH` and the configured `ResourcesMsgLength`).

  `framesBefore` says what a stream holds before its first invalid header, from the wire format
  alone. No handler compares the declared length with the header; `sizeSub` wraps around and the
  limit has to catch the result. `receives_of_guarded`: where it does, a session commits exactly
  those frames and no read is larger than its buffer. `sessions_receive_iff`: the chatting server's
  limit always does, the resources server's does below `2 ^ 64 - 6`.

  Not modelled: the heart beat, the log, and what `purgeRemoveConnection` removes besides the
  connection itself. A `commit` is the call; the queue behind it may be full.
-/
import DistributedIM.Lib.Loop
import DistributedIM.Buffer.MsgNode

namespace DistributedIM.Buffer

open Bytes

/-! ## State and handlers -/

/-- `ServiceType::SERVICE_UNKNOWN`, the same in both servers. -/
def serviceUnknown : Nat := 34

/-- What the two servers' `Session` differ in. -/
structure Receiver where
  type : MsgNodeType
  /-- width of `msg_length` -/
  lengthBits : Nat
  /-- what `msg_length` is compared with -/
  maxLength : Nat
  /-- every length the wire can declare fits `msg_length` -/
  holdsLength : 256 ^ lengthWidth type ≤ 2 ^ lengthBits

def chattingSession : Receiver :=
  { type := .msgnodeNormal, lengthBits := 16, maxLength := 2048, holdsLength := by decide }

def resourcesSession (resourcesMsgLength : UInt64) : Receiver :=
  { type := .msgnodeFileTransfer, lengthBits := 64, maxLength := resourcesMsgLength.toNat,
    holdsLength := by decide }

inductive Handler
  | handleHeader
  | handleMsgbody
  deriving DecidableEq, Repr

/-- An `async_read` of `size` bytes to position `offset` of the node's buffer, which holds `room`
    bytes from there on. -/
structure AsyncRead where
  handler : Handler
  offset : Nat
  size : Nat
  room : Nat
  deriving DecidableEq, Repr

/-- What the receiving half of a `Session` keeps, with the reads it has asked for and the nodes it
    has handed to `SyncLogic::commit`. -/
structure Receiving where
  recvBuffer : MsgHeader
  reading : Option AsyncRead
  asked : List AsyncRead
  committed : List MsgHeader
  purged : Bool
  deriving DecidableEq, Repr

def Receiving.asyncRead (st : Receiving) (handler : Handler) (offset size : Nat) : Receiving :=
  let read : AsyncRead :=
    { handler := handler, offset := offset, size := size,
      room := st.recvBuffer.buffer.length - offset }
  { st with reading := some read, asked := st.asked ++ [read] }

/-- `purgeRemoveConnection`: no further read is started. -/
def Receiving.purge (st : Receiving) : Receiving :=
  { st with purged := true }

/-- A fresh `RecvNode`, with the read of its header in flight. -/
def Receiving.freshNode (r : Receiver) (st : Receiving) : Receiving :=
  { st with recvBuffer := MsgHeader.forReceiving r.type }.asyncRead .handleHeader 0
    (getHeaderLength r.type)

def startSession (r : Receiver) : Receiving :=
  Receiving.freshNode r
    { recvBuffer := MsgHeader.forReceiving r.type, reading := none, asked := [], committed := [],
      purged := false }

/-- `Session::handle_header`; `ec` tells whether the read failed. -/
def handleHeader (r : Receiver) (e : Endian) (st : Receiving) (ec : Bool)
    (bytesTransferred : Nat) : Receiving :=
  if ec then st.purge
  else
    let buffer := st.recvBuffer.updatePointerPos bytesTransferred
    if buffer.checkHeaderRemaining then { st with recvBuffer := buffer }.purge
    else
      match RecvNode.getId e buffer with
      | (none, buffer) => { st with recvBuffer := buffer }.purge
      | (some id, buffer) =>
        if serviceUnknown ≤ id.toNat then { st with recvBuffer := buffer }.purge
        else
          match RecvNode.getLength e buffer with
          | (none, buffer) => { st with recvBuffer := buffer }.purge
          | (some length, buffer) =>
            let msgLength := length % 2 ^ r.lengthBits
            if r.maxLength < msgLength then { st with recvBuffer := buffer }.purge
            else
              { st with recvBuffer := buffer }.asyncRead .handleMsgbody
                (getHeaderLength buffer.type) msgLength

/-- `Session::handle_msgbody`. -/
def handleMsgbody (r : Receiver) (st : Receiving) (ec : Bool) (bytesTransferred : Nat) :
    Receiving :=
  if ec then st.purge
  else
    let buffer := st.recvBuffer.updatePointerPos bytesTransferred
    if buffer.checkBodyRemaining then { st with recvBuffer := buffer }.purge
    else Receiving.freshNode r { st with committed := st.committed ++ [buffer] }

/-- The read in flight completes with exactly the bytes it asked for. -/
def complete (r : Receiver) (e : Endian) (st : Receiving) (read : AsyncRead)
    (bytes : List UInt8) : Except Fault Receiving := do
  let buffer ← st.recvBuffer.receiveAt read.offset bytes
  let st := { st with recvBuffer := buffer, reading := none }
  match read.handler with
  | .handleHeader => return handleHeader r e st false bytes.length
  | .handleMsgbody => return handleMsgbody r st false bytes.length

/-- The next completion on a stream, until no read is in flight or its bytes are not there. -/
def completion (r : Receiver) (e : Endian) :
    Receiving × List UInt8 → Loop.Pass (Receiving × List UInt8) (Except Fault Receiving)
  | (st, stream) =>
    match st.reading with
    | none => .done (.ok st)
    | some read =>
      if stream.length < read.size then .done (.ok st)
      else
        match complete r e st read (stream.take read.size) with
        | .error f => .done (.error f)
        | .ok st => .next (st, stream.drop read.size)

/-- What `SyncLogic` reads off the committed nodes. -/
def Receiving.messages (st : Receiving) : List (UInt16 × Except Fault (Option (List UInt8))) :=
  st.committed.map fun node => (node.id, RecvNode.getMsgBody node)

/-! ## The stream -/

/-- A header no frame may begin with. -/
def InvalidHeader (r : Receiver) (id declared : Nat) : Prop :=
  serviceUnknown ≤ id ∨ declared < getHeaderLength r.type ∨
    r.maxLength < declared - getHeaderLength r.type

instance (r : Receiver) (id declared : Nat) : Decidable (InvalidHeader r id declared) := by
  unfold InvalidHeader
  infer_instance

/-- The complete frames that precede the first invalid header, and whether there is one. A frame
    takes at least one byte, so `fuel` bytes are enough fuel. -/
def framesFrom (r : Receiver) : Nat → List UInt8 → List Frame × Bool
  | 0, _ => ([], false)
  | fuel + 1, stream =>
    let hlen := getHeaderLength r.type
    if stream.length < hlen then ([], false)
    else
      let id := ofBE (slice stream 0 2)
      let declared := ofBE (slice stream 2 (lengthWidth r.type))
      let rest := stream.drop hlen
      let length := declared - hlen
      if InvalidHeader r id declared then ([], true)
      else if rest.length < length then ([], false)
      else
        let frames := framesFrom r fuel (rest.drop length)
        (⟨UInt16.ofNat id, length, rest.take length⟩ :: frames.1, frames.2)

def framesBefore (r : Receiver) (stream : List UInt8) : List Frame × Bool :=
  framesFrom r stream.length stream

/-- A session fed with the stream commits exactly the frames before the first invalid header, in
    order, with their ids and bodies; behind an invalid header no read is in flight that could
    commit more; and every read it has asked for stays within the buffer. -/
def Receives (r : Receiver) (e : Endian) (stream : List UInt8) : Prop :=
  ∃ fuel st, Loop.run (completion r e) fuel (startSession r, stream) = some (.ok st) ∧
    st.messages = (framesBefore r stream).1.map (fun f => (f.id, .ok (some f.body))) ∧
    (st.purged, st.reading.isNone) = ((framesBefore r stream).2, (framesBefore r stream).2) ∧
    ∀ read ∈ st.asked, read.size ≤ read.room

/-! ## One completion -/

/-- Where no handler looks, the limit catches a declared length that does not count the header. -/
def Receiver.Guarded (r : Receiver) : Prop :=
  ∀ declared < getHeaderLength r.type,
    r.maxLength < sizeSub declared (getHeaderLength r.type) % 2 ^ r.lengthBits

/-- The node after `handle_header` has decoded these fields. -/
def headerNode (type : MsgNodeType) (id len : List UInt8) : MsgHeader :=
  { id := UInt16.ofNat (ofBE id), length := ofBE len, curLength := getHeaderLength type,
    buffer := resize (id ++ len) (ofBE len), type := type }

/-- The node after the body has been received. -/
def bodyNode (type : MsgNodeType) (id len body : List UInt8) : MsgHeader :=
  { headerNode type id len with
    curLength := getHeaderLength type + body.length, buffer := (id ++ len) ++ body }

variable {r : Receiver} {e : Endian}

/-- A node that has received nothing, and the read of its header in flight. -/
structure AtHeader (r : Receiver) (st : Receiving) : Prop where
  recvBuffer_eq : st.recvBuffer = MsgHeader.forReceiving r.type
  reading_eq : st.reading =
    some ⟨.handleHeader, 0, getHeaderLength r.type, getHeaderLength r.type⟩
  not_purged : st.purged = false

/-- A decoded header, and the read of as many bytes as it announces in flight. -/
structure AtBody (r : Receiver) (id len : List UInt8) (st : Receiving) : Prop where
  recvBuffer_eq : st.recvBuffer = headerNode r.type id len
  reading_eq : st.reading = some ⟨.handleMsgbody, getHeaderLength r.type,
    ofBE len - getHeaderLength r.type, ofBE len - getHeaderLength r.type⟩
  not_purged : st.purged = false

/-- The reads of `st'` that `st` had not asked for are within their buffer. -/
def AsksWithin (st st' : Receiving) : Prop :=
  ∀ read ∈ st'.asked, read ∈ st.asked ∨ read.size ≤ read.room

theorem AsksWithin.trans {st st₁ st₂ : Receiving} (h : AsksWithin st st₁)
    (h' : AsksWithin st₁ st₂) : AsksWithin st st₂ := by
  intro read hread
  rcases h' read hread with hread | hle
  · exact h read hread
  · exact Or.inr hle

theorem asksWithin_asyncRead (st : Receiving) {handler : Handler} {offset size : Nat}
    (h : size ≤ st.recvBuffer.buffer.length - offset) :
    AsksWithin st (st.asyncRead handler offset size) := by
  intro read hread
  rcases List.mem_append.mp hread with hread | hread
  · exact Or.inl hread
  · rw [List.mem_singleton.mp hread]
    exact Or.inr h

theorem asksWithin_freshNode (st : Receiving) : AsksWithin st (Receiving.freshNode r st) :=
  asksWithin_asyncRead { st with recvBuffer := MsgHeader.forReceiving r.type }
    (by simp [MsgHeader.forReceiving])

theorem atHeader_freshNode {st : Receiving} (h : st.purged = false) :
    AtHeader r (Receiving.freshNode r st) :=
  ⟨rfl, by simp [Receiving.freshNode, Receiving.asyncRead, MsgHeader.forReceiving], h⟩

theorem atBody_asyncRead {st : Receiving} {id len : List UInt8} (h : st.purged = false) :
    AtBody r id len ({ st with recvBuffer := headerNode r.type id len }.asyncRead .handleMsgbody
      (getHeaderLength r.type) (ofBE len - getHeaderLength r.type)) :=
  ⟨rfl, by simp [Receiving.asyncRead, headerNode], h⟩

theorem ofBE_id_lt {id : List UInt8} (hid : id.length = 2) : ofBE id < 2 ^ 16 := by
  have := ofBE_lt id
  rwa [hid] at this

/-- `handle_header` looks at the service id and at the limit. -/
theorem handleHeader_fields {st : Receiving} {id len : List UInt8} (hid : id.length = 2)
    (hlen : len.length = lengthWidth r.type)
    (hbuf : st.recvBuffer = { MsgHeader.forReceiving r.type with buffer := id ++ len }) :
    let msgLength := sizeSub (ofBE len) (getHeaderLength r.type) % 2 ^ r.lengthBits
    handleHeader r e st false (getHeaderLength r.type) =
      if serviceUnknown ≤ ofBE id then
        { st with recvBuffer :=
          { headerNode r.type id len with
            length := getHeaderLength r.type, buffer := id ++ len } }.purge
      else if r.maxLength < msgLength then
        { st with recvBuffer := headerNode r.type id len }.purge
      else
        { st with recvBuffer := headerNode r.type id len }.asyncRead .handleMsgbody
          (getHeaderLength r.type) msgLength := by
  let h : MsgHeader := { MsgHeader.forReceiving r.type with
    buffer := id ++ len, curLength := getHeaderLength r.type }
  have hupdate : st.recvBuffer.updatePointerPos (getHeaderLength r.type) = h := by
    rw [hbuf]
    simp only [MsgHeader.updatePointerPos, MsgHeader.forReceiving, Nat.zero_add, h]
  have hremain : ¬ h.checkHeaderRemaining = true := by
    simp [MsgHeader.checkHeaderRemaining, h, MsgHeader.forReceiving]
  obtain ⟨hgetId, hgetLength⟩ := RecvNode.getHeader_fields e (h := h) (Nat.le_refl _) rfl hid hlen
  have htoNat : (UInt16.ofNat (ofBE id)).toNat = ofBE id := by
    rw [UInt16.toNat_ofNat', Nat.mod_eq_of_lt (ofBE_id_lt hid)]
  simp only [handleHeader, Bool.false_eq_true, if_false, hupdate, if_neg hremain, hgetId, htoNat,
    hgetLength]
  rfl

/-- The header's bytes arrive. -/
theorem complete_handleHeader {st : Receiving} (hst : AtHeader r st) {id len : List UInt8}
    (hid : id.length = 2) (hlen : len.length = lengthWidth r.type) (size room : Nat) :
    complete r e st ⟨.handleHeader, 0, size, room⟩ (id ++ len) =
      .ok (handleHeader r e
        { st with
          recvBuffer := { MsgHeader.forReceiving r.type with buffer := id ++ len }
          reading := none } false (getHeaderLength r.type)) := by
  have hhdr := fields_length hid hlen
  simp only [complete, hst.recvBuffer_eq, receiveAt_forReceiving r.type hhdr, hhdr]
  rfl

/-- The announced body arrives behind its header. -/
theorem complete_handleMsgbody {st : Receiving} {id len body : List UInt8}
    (hst : AtBody r id len st) (hid : id.length = 2) (hlen : len.length = lengthWidth r.type)
    (hbody : getHeaderLength r.type + body.length = ofBE len) (size room : Nat) :
    complete r e st ⟨.handleMsgbody, getHeaderLength r.type, size, room⟩ body =
      .ok (Receiving.freshNode r
        { st with
          recvBuffer := { headerNode r.type id len with buffer := (id ++ len) ++ body }
          committed := st.committed ++ [bodyNode r.type id len body]
          reading := none }) := by
  have hhdr := fields_length hid hlen
  have hreceive : (headerNode r.type id len).receiveAt (getHeaderLength r.type) body =
      .ok { headerNode r.type id len with buffer := (id ++ len) ++ body } :=
    receiveAt_body (h := headerNode r.type id len) hhdr rfl hbody
  have hfull : { headerNode r.type id len with buffer := (id ++ len) ++ body }.updatePointerPos
      body.length = bodyNode r.type id len body := rfl
  have hremain : ¬ (bodyNode r.type id len body).checkBodyRemaining = true := by
    simp only [bodyNode, headerNode, MsgHeader.checkBodyRemaining, hbody, ge_iff_le, le_refl,
      decide_true, Bool.not_true, Bool.false_eq_true, not_false_eq_true]
  simp only [complete, hst.recvBuffer_eq, hreceive]
  refine congrArg Except.ok ?_
  simp only [handleMsgbody, Bool.false_eq_true, if_false, hfull, if_neg hremain]

theorem messages_bodyNode {id len body : List UInt8} (hid : id.length = 2)
    (hlen : len.length = lengthWidth r.type)
    (hbody : getHeaderLength r.type + body.length = ofBE len) :
    RecvNode.getMsgBody (bodyNode r.type id len body) = .ok (some body) := by
  have hhdr := fields_length hid hlen
  exact getMsgBody_full (h := bodyNode r.type id len body) hhdr rfl hbody (Nat.le_of_eq hbody.symm)

/-! ## The frames of a stream -/

theorem framesFrom_short {fuel : Nat} {stream : List UInt8}
    (h : stream.length < getHeaderLength r.type) : framesFrom r fuel stream = ([], false) := by
  cases fuel with
  | zero => rfl
  | succ fuel => simp only [framesFrom, if_pos h]

theorem framesFrom_fields {fuel : Nat} {id len rest : List UInt8} (hid : id.length = 2)
    (hlen : len.length = lengthWidth r.type) :
    let length := ofBE len - getHeaderLength r.type
    framesFrom r (fuel + 1) (id ++ (len ++ rest)) =
      if InvalidHeader r (ofBE id) (ofBE len) then ([], true)
      else if rest.length < length then ([], false)
      else
        (⟨UInt16.ofNat (ofBE id), length, rest.take length⟩ ::
            (framesFrom r fuel (rest.drop length)).1,
          (framesFrom r fuel (rest.drop length)).2) := by
  have hhdr := fields_length hid hlen
  have hlong : ¬ (id ++ (len ++ rest)).length < getHeaderLength r.type := by
    rw [← List.append_assoc, List.length_append, hhdr]
    omega
  have hslice : slice (id ++ (len ++ rest)) 0 2 = id :=
    slice_append [] id (len ++ rest) rfl hid.symm
  have hslice' : slice (id ++ (len ++ rest)) 2 (lengthWidth r.type) = len :=
    slice_append id len rest hid.symm hlen.symm
  have hdrop : (id ++ (len ++ rest)).drop (getHeaderLength r.type) = rest := by
    rw [← List.append_assoc, List.drop_left' hhdr]
  simp only [framesFrom, if_neg hlong, hslice, hslice', hdrop]

/-- Where the limit catches every length shorter than a header, the two comparisons of
    `handle_header` decide whether a header is valid. -/
theorem Receiver.Guarded.invalidHeader_iff (hg : r.Guarded) (id : Nat) {declared : Nat}
    (hdeclared : declared < 256 ^ lengthWidth r.type) :
    InvalidHeader r id declared ↔ serviceUnknown ≤ id ∨
      r.maxLength < sizeSub declared (getHeaderLength r.type) % 2 ^ r.lengthBits := by
  unfold InvalidHeader
  by_cases hshort : declared < getHeaderLength r.type
  · have := hg declared hshort
    simp only [hshort, this, true_or, or_true]
  · have hfits := r.holdsLength
    have hmod : (declared - getHeaderLength r.type) % 2 ^ r.lengthBits =
        declared - getHeaderLength r.type := Nat.mod_eq_of_lt (by omega)
    rw [sizeSub_of_le (by omega), hmod]
    simp only [hshort, false_or]

theorem ofBE_len_lt {len : List UInt8} (hlen : len.length = lengthWidth r.type) :
    ofBE len < 256 ^ lengthWidth r.type := by
  have := ofBE_lt len
  rwa [hlen] at this

theorem handleHeader_invalid (hg : r.Guarded) (st : Receiving) {id len : List UInt8}
    (hid : id.length = 2) (hlen : len.length = lengthWidth r.type)
    (hbuf : st.recvBuffer = { MsgHeader.forReceiving r.type with buffer := id ++ len })
    (h : InvalidHeader r (ofBE id) (ofBE len)) :
    ∃ buffer, handleHeader r e st false (getHeaderLength r.type) =
      { st with recvBuffer := buffer }.purge := by
  rw [handleHeader_fields hid hlen hbuf]
  by_cases hservice : serviceUnknown ≤ ofBE id
  · rw [if_pos hservice]
    exact ⟨_, rfl⟩
  · have hlimit := ((hg.invalidHeader_iff _ (ofBE_len_lt hlen)).mp h).resolve_left hservice
    rw [if_neg hservice, if_pos hlimit]
    exact ⟨_, rfl⟩

theorem handleHeader_asks {st : Receiving} {id len : List UInt8} (msgLength : Nat)
    (hid : id.length = 2) (hlen : len.length = lengthWidth r.type)
    (hbuf : st.recvBuffer = { MsgHeader.forReceiving r.type with buffer := id ++ len })
    (hservice : ¬ serviceUnknown ≤ ofBE id)
    (hmod : sizeSub (ofBE len) (getHeaderLength r.type) % 2 ^ r.lengthBits = msgLength)
    (hlimit : ¬ r.maxLength < msgLength) :
    handleHeader r e st false (getHeaderLength r.type) =
      { st with recvBuffer := headerNode r.type id len }.asyncRead .handleMsgbody
        (getHeaderLength r.type) msgLength := by
  simp only [handleHeader_fields hid hlen hbuf, if_neg hservice, hmod, if_neg hlimit]

theorem handleHeader_valid {st : Receiving} {id len : List UInt8}
    (hid : id.length = 2) (hlen : len.length = lengthWidth r.type)
    (hbuf : st.recvBuffer = { MsgHeader.forReceiving r.type with buffer := id ++ len })
    (h : ¬ InvalidHeader r (ofBE id) (ofBE len)) :
    handleHeader r e st false (getHeaderLength r.type) =
      { st with recvBuffer := headerNode r.type id len }.asyncRead .handleMsgbody
        (getHeaderLength r.type) (ofBE len - getHeaderLength r.type) := by
  simp only [InvalidHeader, not_or, Nat.not_lt, Nat.not_le] at h
  obtain ⟨hservice, hle, hlimit⟩ := h
  have hfits := r.holdsLength
  have hlt := ofBE_len_lt hlen
  have hmod : sizeSub (ofBE len) (getHeaderLength r.type) % 2 ^ r.lengthBits =
      ofBE len - getHeaderLength r.type := by
    rw [sizeSub_of_le hle]
    exact Nat.mod_eq_of_lt (by omega)
  exact handleHeader_asks _ hid hlen hbuf (Nat.not_le.mpr hservice) hmod (Nat.not_lt.mpr hlimit)

/-! ## Passes of the loop -/

theorem completion_of_none {st : Receiving} (h : st.reading = none) (stream : List UInt8) :
    completion r e (st, stream) = .done (.ok st) := by
  simp only [completion, h]

theorem completion_of_short {st : Receiving} {read : AsyncRead} (h : st.reading = some read)
    {stream : List UInt8} (hshort : stream.length < read.size) :
    completion r e (st, stream) = .done (.ok st) := by
  simp only [completion, h, if_pos hshort]

theorem completion_of_complete {st st' : Receiving} {read : AsyncRead}
    (h : st.reading = some read) {bytes : List UInt8} (hbytes : bytes.length = read.size)
    (hst' : complete r e st read bytes = .ok st') (rest : List UInt8) :
    completion r e (st, bytes ++ rest) = .next (st', rest) := by
  have hlong : ¬ (bytes ++ rest).length < read.size := by
    rw [List.length_append, hbytes]
    omega
  simp only [completion, h, if_neg hlong, List.take_left' hbytes, List.drop_left' hbytes, hst']

/-- The pass that takes a header off the stream. -/
theorem completion_header {st : Receiving} (hst : AtHeader r st) {id len : List UInt8}
    (hid : id.length = 2) (hlen : len.length = lengthWidth r.type) (rest : List UInt8) :
    completion r e (st, id ++ (len ++ rest)) = .next
      (handleHeader r e
        { st with
          recvBuffer := { MsgHeader.forReceiving r.type with buffer := id ++ len }
          reading := none } false (getHeaderLength r.type), rest) := by
  have hhdr := fields_length hid hlen
  rw [← List.append_assoc]
  exact completion_of_complete hst.reading_eq hhdr (complete_handleHeader hst hid hlen _ _) rest

/-! ## Every stream -/

/-- From `st` on, the stream leads to a state that has committed these frames as well. -/
def Yields (r : Receiver) (e : Endian) (st : Receiving) (stream : List UInt8)
    (frames : List Frame × Bool) : Prop :=
  ∃ fuel st', Loop.run (completion r e) fuel (st, stream) = some (.ok st') ∧
    st'.messages = st.messages ++ frames.1.map (fun f => (f.id, .ok (some f.body))) ∧
    (st'.purged, st'.reading.isNone) = (frames.2, frames.2) ∧
    AsksWithin st st'

theorem yields_of_done {st : Receiving} {stream : List UInt8} {b : Bool}
    (h : completion r e (st, stream) = .done (.ok st))
    (hst : (st.purged, st.reading.isNone) = (b, b)) : Yields r e st stream ([], b) :=
  ⟨1, st, Loop.run_succ_of_done h 0, (List.append_nil _).symm, hst, fun _ => Or.inl⟩

/-- A pass that commits these nodes, if any. -/
theorem yields_of_next {st st₁ : Receiving} {stream rest : List UInt8}
    {frames : List Frame × Bool} (nodes : List MsgHeader) (first : List Frame)
    (h : completion r e (st, stream) = .next (st₁, rest))
    (hcommitted : st₁.committed = st.committed ++ nodes)
    (hnodes : nodes.map (fun node => (node.id, RecvNode.getMsgBody node)) =
      first.map fun f => (f.id, .ok (some f.body)))
    (hasked : AsksWithin st st₁) (hy : Yields r e st₁ rest frames) :
    Yields r e st stream (first ++ frames.1, frames.2) := by
  obtain ⟨fuel, st', hrun, hmessages, hend, hreads⟩ := hy
  refine ⟨fuel + 1, st', (Loop.run_succ_of_next h fuel).trans hrun, ?_, hend, hasked.trans hreads⟩
  rw [hmessages, Receiving.messages, hcommitted, List.map_append, hnodes, List.append_assoc,
    ← List.map_append]
  rfl

/-- Behind a valid header: the body, and the frames after it. -/
theorem yields_of_atBody {st : Receiving} {id len rest : List UInt8} (hst : AtBody r id len st)
    (hid : id.length = 2) (hlen : len.length = lengthWidth r.type)
    (hle : getHeaderLength r.type ≤ ofBE len) (frames : List Frame × Bool)
    (ih : ∀ st', AtHeader r st' →
      Yields r e st' (rest.drop (ofBE len - getHeaderLength r.type)) frames) :
    let length := ofBE len - getHeaderLength r.type
    Yields r e st rest
      (if rest.length < length then ([], false)
      else (⟨UInt16.ofNat (ofBE id), length, rest.take length⟩ :: frames.1, frames.2)) := by
  intro length
  split
  · rename_i hshort
    refine yields_of_done (completion_of_short hst.reading_eq hshort) ?_
    rw [hst.not_purged, hst.reading_eq]
    rfl
  · have htake : (rest.take length).length = length := by
      rw [List.length_take]
      omega
    have hbody : getHeaderLength r.type + (rest.take length).length = ofBE len := by
      rw [htake]
      omega
    have hpass := completion_of_complete (e := e) hst.reading_eq htake
      (complete_handleMsgbody hst hid hlen hbody _ _) (rest.drop length)
    rw [List.take_append_drop] at hpass
    have hnode := messages_bodyNode hid hlen hbody
    refine yields_of_next [_] [_] hpass rfl ?_ ?_ (ih _ (atHeader_freshNode hst.not_purged))
    · rw [List.map_singleton, hnode]
      rfl
    · exact asksWithin_freshNode _

theorem yields_of_short {st : Receiving} {stream : List UInt8} (hst : AtHeader r st)
    (hshort : stream.length < getHeaderLength r.type) : Yields r e st stream ([], false) := by
  refine yields_of_done (completion_of_short hst.reading_eq hshort) ?_
  rw [hst.not_purged, hst.reading_eq]
  rfl

/-- From header to header, frame by frame. -/
theorem yields_framesFrom (hg : r.Guarded) {fuel : Nat} {st : Receiving} {stream : List UInt8}
    (hst : AtHeader r st) (hfuel : stream.length ≤ fuel) :
    Yields r e st stream (framesFrom r fuel stream) := by
  have hpos := getHeaderLength_pos r.type
  induction fuel generalizing st stream with
  | zero => exact yields_of_short hst (by omega)
  | succ fuel ih =>
    by_cases hshort : stream.length < getHeaderLength r.type
    · rw [framesFrom_short hshort]
      exact yields_of_short hst hshort
    · obtain ⟨id, len, rest, rfl, hid, hlen⟩ := exists_fields (Nat.le_of_not_lt hshort)
      have hpass := completion_header (e := e) hst hid hlen rest
      rw [framesFrom_fields hid hlen]
      by_cases hinvalid : InvalidHeader r (ofBE id) (ofBE len)
      · obtain ⟨buffer, hpurge⟩ := handleHeader_invalid (e := e) hg
          { st with
            recvBuffer := { MsgHeader.forReceiving r.type with buffer := id ++ len }
            reading := none } hid hlen rfl hinvalid
        rw [hpurge] at hpass
        rw [if_pos hinvalid]
        exact yields_of_next [] [] hpass (List.append_nil _).symm rfl (fun _ => Or.inl)
          (yields_of_done (completion_of_none rfl rest) rfl)
      · rw [handleHeader_valid hid hlen rfl hinvalid] at hpass
        rw [if_neg hinvalid]
        have hle : getHeaderLength r.type ≤ ofBE len := by
          simp only [InvalidHeader, not_or, Nat.not_lt] at hinvalid
          exact hinvalid.2.1
        refine yields_of_next [] [] hpass (List.append_nil _).symm rfl (asksWithin_asyncRead _ ?_)
          (yields_of_atBody (atBody_asyncRead hst.not_purged) hid hlen hle _ fun st' hst' =>
            ih hst' ?_)
        · simp [headerNode]
        · simp only [List.length_append, List.length_drop] at hfuel ⊢
          rw [getHeaderLength] at hpos
          omega

/-- Where the limit catches the wrapped lengths, a session receives every stream as it should. -/
theorem receives_of_guarded (hg : r.Guarded) (stream : List UInt8) : Receives r e stream := by
  have hstart : AtHeader r (startSession r) := atHeader_freshNode rfl
  obtain ⟨fuel, st, hrun, hmessages, hend, hasks⟩ :=
    yields_framesFrom (e := e) hg hstart (Nat.le_refl stream.length)
  refine ⟨fuel, st, hrun, ?_, hend, fun read hread => ?_⟩
  · exact hmessages
  · rcases hasks read hread with hread | hle
    · rw [List.mem_singleton.mp hread]
      simp [MsgHeader.forReceiving]
    · exact hle

/-! ## The two servers -/

theorem guarded_chattingSession : chattingSession.Guarded := by
  unfold Receiver.Guarded chattingSession
  decide

theorem guarded_resourcesSession {resourcesMsgLength : UInt64}
    (h : resourcesMsgLength.toNat < 2 ^ 64 - 6) :
    (resourcesSession resourcesMsgLength).Guarded := by
  intro declared hdeclared
  simp only [resourcesSession, getHeaderLength, lengthWidth] at hdeclared ⊢
  rw [sizeSub, if_neg (by omega)]
  omega

/-- A header that declares length 0 passes such a limit: `handle_header` asks for `2 ^ 64 - 6`
    bytes behind a buffer without any. -/
theorem completion_overlooked {resourcesMsgLength : UInt64}
    (h : 2 ^ 64 - 6 ≤ resourcesMsgLength.toNat) :
    ∃ st, completion (resourcesSession resourcesMsgLength) e
        (startSession (resourcesSession resourcesMsgLength), [0, 30, 0, 0, 0, 0]) =
          .next (st, []) ∧
      st.reading = some ⟨.handleMsgbody, 6, 2 ^ 64 - 6, 0⟩ ∧
      ⟨.handleMsgbody, 6, 2 ^ 64 - 6, 0⟩ ∈ st.asked := by
  have hstart : AtHeader (resourcesSession resourcesMsgLength)
    (startSession (resourcesSession resourcesMsgLength)) := atHeader_freshNode rfl
  have hid : ([0, 30] : List UInt8).length = 2 := rfl
  have hlen : ([0, 0, 0, 0] : List UInt8).length = lengthWidth .msgnodeFileTransfer := rfl
  have hheader := completion_header (e := e) hstart hid hlen []
  rw [handleHeader_asks (2 ^ 64 - 6) hid hlen rfl (by decide) rfl (Nat.not_lt.mpr h)] at hheader
  exact ⟨_, hheader, rfl, List.mem_append_right _ List.mem_cons_self⟩

theorem not_receives_of_limit {resourcesMsgLength : UInt64}
    (h : 2 ^ 64 - 6 ≤ resourcesMsgLength.toNat) :
    ¬ Receives (resourcesSession resourcesMsgLength) e [0, 30, 0, 0, 0, 0] := by
  rintro ⟨fuel, st, hrun, -, -, hasks⟩
  obtain ⟨st₁, hheader, hreading, hasked⟩ := completion_overlooked (e := e) h
  have hwaits : completion (resourcesSession resourcesMsgLength) e (st₁, []) = .done (.ok st₁) :=
    completion_of_short hreading (by decide)
  have hfinal := (Loop.run_succ_of_next hheader 1).trans (Loop.run_succ_of_done hwaits 0)
  rw [← Except.ok.inj (Loop.run_unique hfinal hrun)] at hasks
  exact absurd (hasks _ hasked) (by decide)

/-- The chatting server receives every stream as it should; the resources server does exactly
    when its configured limit is below every length that wraps around. -/
theorem sessions_receive_iff (e : Endian) :
    (∀ stream, Receives chattingSession e stream) ∧
      ∀ resourcesMsgLength : UInt64,
        (∀ stream, Receives (resourcesSession resourcesMsgLength) e stream) ↔
          resourcesMsgLength.toNat < 2 ^ 64 - 6 := by
  refine ⟨receives_of_guarded guarded_chattingSession, fun resourcesMsgLength => ?_⟩
  constructor
  · intro hall
    by_contra hlimit
    exact not_receives_of_limit (Nat.le_of_not_lt hlimit) (hall _)
  · intro hlimit
    exact receives_of_guarded (guarded_resourcesSession hlimit)

/-- `msg_length` configured as the largest `unsigned long`, and a `SERVICE_FILEUPLOADREQUEST` that
    declares length 0. -/
theorem not_receives_unlimited :
    ¬ Receives (resourcesSession 18446744073709551615) .little [0, 30, 0, 0, 0, 0] :=
  not_receives_of_limit (by decide)

end DistributedIM.Buffer
