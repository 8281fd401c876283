/-
  `MsgNode.hpp`: the frame header and the two nodes that write and read it. The servers' copy and
  the client's copy differ only in the conversion functor (boost's `host_to_network_*` and Qt's
  `qToBigEndian`), which is `hostToNetwork` of the machine's byte order here.

    name |  _id  |  _length  |     _buffer
    size |   2B  |   2B(4B)  | _length - 4B(6B)

  `SendNode` keeps the total length in a `size_t` and stores it through a cast to the field's
  width. `sendNode_buffer` gives the bytes it hands on, `readFrame_sendNode` what a reader makes
  of them at every body length, and `readStream_encodeFrames` of a concatenation.

  Not modelled: `MsgHeader::get_id`/`get_length` without conversion, which no caller uses, and
  the `QString` branch of `get_msg_body`.
-/
import DistributedIM.Lib.Bytes

namespace DistributedIM.Buffer

open Bytes

/-! ## The header -/

/-- `MsgNodeType`. -/
inductive MsgNodeType
  | msgnodeNormal
  | msgnodeFileTransfer
  deriving DecidableEq, Repr

/-- Ways a call leaves the documented behaviour of the containers. -/
inductive Fault
  | badOptionalAccess
  | outOfRange
  deriving DecidableEq, Repr

/-- Width of the length field, `sizeof(uint16_t)` or `sizeof(uint32_t)`. -/
def lengthWidth : MsgNodeType → Nat
  | .msgnodeNormal => 2
  | .msgnodeFileTransfer => 4

/-- `get_header_length`. -/
def getHeaderLength (type : MsgNodeType) : Nat :=
  2 + lengthWidth type

/-- `size_t` subtraction. -/
def sizeSub (a b : Nat) : Nat :=
  if b ≤ a then a - b else a + 2 ^ 64 - b

theorem sizeSub_of_le {a b : Nat} (h : b ≤ a) : sizeSub a b = a - b := if_pos h

/-- `MsgHeader`. -/
structure MsgHeader where
  id : UInt16
  length : Nat
  curLength : Nat
  buffer : List UInt8
  type : MsgNodeType
  deriving DecidableEq, Repr

namespace MsgHeader

/-- The header before any byte has been received. -/
def forReceiving (type : MsgNodeType) : MsgHeader :=
  let length := getHeaderLength type
  { id := 0, length := length, curLength := 0, buffer := resize [] length, type := type }

/-- The header of a message to send, its buffer not filled in yet. -/
def forSending (id : UInt16) (input : List UInt8) (type : MsgNodeType) : MsgHeader :=
  let length := input.length + getHeaderLength type
  { id := id, length := length, curLength := 0, buffer := resize [] length, type := type }

def updatePointerPos (h : MsgHeader) (increment : Nat) : MsgHeader :=
  { h with curLength := h.curLength + increment }

def clear (h : MsgHeader) : MsgHeader :=
  { h with buffer := [], curLength := 0, length := 0 }

def checkHeaderRemaining (h : MsgHeader) : Bool :=
  !decide (h.curLength ≥ getHeaderLength h.type)

def checkBodyRemaining (h : MsgHeader) : Bool :=
  !decide (h.curLength ≥ h.length)

/-- Bytes copied into the buffer from outside, to `get_header_base` (`off = 0`) or to
    `get_body_base`; running over the end of the buffer is a fault. -/
def receiveAt (h : MsgHeader) (off : Nat) (bs : List UInt8) : Except Fault MsgHeader :=
  if off + bs.length ≤ h.buffer.length then .ok { h with buffer := overwrite h.buffer off bs }
  else .error .outOfRange

end MsgHeader

/-! ## RecvNode -/

namespace RecvNode

/-- `RecvNode::get_id`, with the header it leaves behind. -/
def getId (e : Endian) (h : MsgHeader) : Option UInt16 × MsgHeader :=
  if h.checkHeaderRemaining then (none, h)
  else
    let id := UInt16.ofNat (hostToNetwork e 2 (load e (slice h.buffer 0 2)))
    (some id, { h with id := id })

/-- `RecvNode::get_length`: the size of the body, from the total length on the wire. -/
def getLength (e : Endian) (h : MsgHeader) : Option Nat × MsgHeader :=
  if h.checkHeaderRemaining then (none, h)
  else
    let w := lengthWidth h.type
    let length := hostToNetwork e w (load e (slice h.buffer 2 w))
    (some (sizeSub length (getHeaderLength h.type)),
      { h with length := length, buffer := resize h.buffer length })

/-- `RecvNode::get_msg_body` with the servers' `std::string`. The container is built from
    `get_body_base` and `_length - get_header_length()`, which wraps around when the length is
    shorter than the header: no string holds that many bytes. -/
def getMsgBody (h : MsgHeader) : Except Fault (Option (List UInt8)) :=
  if h.checkBodyRemaining then .ok none
  else if h.length < getHeaderLength h.type then .error .outOfRange
  else
    .ok (some (slice h.buffer (getHeaderLength h.type)
      (sizeSub h.length (getHeaderLength h.type))))

theorem getId_fields (e : Endian) {h : MsgHeader} {id x : List UInt8}
    (hcur : getHeaderLength h.type ≤ h.curLength) (hbuf : h.buffer = id ++ x)
    (hid : id.length = 2) :
    getId e h = (some (UInt16.ofNat (ofBE id)), { h with id := UInt16.ofNat (ofBE id) }) := by
  have hslice : slice h.buffer 0 2 = id := by
    rw [hbuf]
    exact slice_append [] id x rfl hid.symm
  have hconv := hostToNetwork_load e id
  rw [hid] at hconv
  simp [getId, MsgHeader.checkHeaderRemaining, hcur, hslice, hconv]

theorem getLength_fields (e : Endian) {h : MsgHeader} {id len x : List UInt8}
    (hcur : getHeaderLength h.type ≤ h.curLength) (hbuf : h.buffer = id ++ (len ++ x))
    (hid : id.length = 2) (hlen : len.length = lengthWidth h.type) :
    getLength e h = (some (sizeSub (ofBE len) (getHeaderLength h.type)),
      { h with length := ofBE len, buffer := resize h.buffer (ofBE len) }) := by
  have hslice : slice h.buffer 2 (lengthWidth h.type) = len := by
    rw [hbuf]
    exact slice_append id len x hid.symm hlen.symm
  have hconv := hostToNetwork_load e len
  rw [hlen] at hconv
  simp [getLength, MsgHeader.checkHeaderRemaining, hcur, hslice, hconv]

/-- Both readings of a node whose buffer is exactly a header. -/
theorem getHeader_fields (e : Endian) {h : MsgHeader} {id len : List UInt8}
    (hcur : getHeaderLength h.type ≤ h.curLength) (hbuf : h.buffer = id ++ len)
    (hid : id.length = 2) (hlen : len.length = lengthWidth h.type) :
    getId e h = (some (UInt16.ofNat (ofBE id)), { h with id := UInt16.ofNat (ofBE id) }) ∧
      getLength e { h with id := UInt16.ofNat (ofBE id) } =
        (some (sizeSub (ofBE len) (getHeaderLength h.type)),
          { h with
            id := UInt16.ofNat (ofBE id), length := ofBE len
            buffer := resize (id ++ len) (ofBE len) }) := by
  have hbuf' : h.buffer = id ++ (len ++ []) := by rw [List.append_nil, hbuf]
  refine ⟨getId_fields e hcur hbuf hid, ?_⟩
  rw [← hbuf]
  exact getLength_fields e (h := { h with id := UInt16.ofNat (ofBE id) }) hcur hbuf' hid hlen

end RecvNode

/-! ## SendNode -/

/-- `SendNode`: `get_buffer` is its `buffer`, `get_full_length` its `length`. -/
def sendNode (e : Endian) (msgId : UInt16) (string : List UInt8) (type : MsgNodeType) :
    MsgHeader :=
  let h := MsgHeader.forSending msgId string type
  let w := lengthWidth type
  -- `static_cast` to the field's width, then the conversion
  let len := hostToNetwork e w (h.length % 256 ^ w)
  let buffer := overwrite h.buffer 0 (store e 2 (hostToNetwork e 2 h.id.toNat))
  let buffer := overwrite buffer 2 (store e w len)
  { h with buffer := overwrite buffer (getHeaderLength type) string }

/-- The bytes on the wire: the id, the total length cut to its field, the body. -/
theorem sendNode_buffer (e : Endian) (msgId : UInt16) (body : List UInt8) (type : MsgNodeType) :
    (sendNode e msgId body type).buffer =
      toBE 2 msgId.toNat ++
        (toBE (lengthWidth type) (body.length + getHeaderLength type) ++ body) := by
  have hid (n : Nat) (bs : List UInt8) :
      overwrite (List.replicate n 0) 0 bs = bs ++ (List.replicate n 0).drop bs.length := by
    simp [overwrite]
  have hrest : body.length + getHeaderLength type - 2 - lengthWidth type - body.length = 0 := by
    simp only [getHeaderLength]
    omega
  simp only [sendNode, MsgHeader.forSending, store_hostToNetwork, resize_nil, hid]
  rw [overwrite_append (toBE 2 _) _ _ (by simp), ← List.append_assoc,
    overwrite_append _ _ body (by simp [getHeaderLength]; omega)]
  simp only [List.drop_replicate, toBE_length, hrest, List.replicate_zero, List.append_nil,
    toBE_mod, List.append_assoc]

/-! ## Reading frames off a stream -/

/-- What a reader learns from one frame: `get_id`, `get_length`, `get_msg_body`. -/
structure Frame where
  id : UInt16
  length : Nat
  body : List UInt8
  deriving DecidableEq, Repr

/-- The frame a sender means by a message. -/
def Frame.ofMessage (m : UInt16 × List UInt8) : Frame :=
  ⟨m.1, m.2.length, m.2⟩

/-- `Session::handle_header`: a fresh node, the header bytes, then the id and the body size. -/
def readHeader (e : Endian) (type : MsgNodeType) (bytes : List UInt8) :
    Option (UInt16 × Nat × MsgHeader) := do
  let h ← ((MsgHeader.forReceiving type).receiveAt 0 bytes).toOption
  let h := h.updatePointerPos bytes.length
  let (id, h) := RecvNode.getId e h
  let (length, h) := RecvNode.getLength e h
  return (← id, ← length, h)

/-- `Session::handle_msgbody`: the body bytes behind the header, then the message. -/
def readBody (h : MsgHeader) (bytes : List UInt8) : Option (List UInt8) := do
  let h ← (h.receiveAt (getHeaderLength h.type) bytes).toOption
  let h := h.updatePointerPos bytes.length
  let body ← (RecvNode.getMsgBody h).toOption
  body

/-- One frame: exactly the header, then exactly the announced body; with the bytes left over. -/
def readFrame (e : Endian) (type : MsgNodeType) (bytes : List UInt8) :
    Option (Frame × List UInt8) :=
  let hlen := getHeaderLength type
  if bytes.length < hlen then none
  else do
    let (id, length, h) ← readHeader e type (bytes.take hlen)
    let rest := bytes.drop hlen
    if rest.length < length then none
    else do
      let body ← readBody h (rest.take length)
      return (⟨id, length, body⟩, rest.drop length)

/-- Frames read until the bytes run out; a frame takes at least one byte, so `fuel` bytes are
    enough fuel. -/
def readFrames (e : Endian) (type : MsgNodeType) : Nat → List UInt8 → Option (List Frame)
  | _, [] => some []
  | 0, _ :: _ => none
  | fuel + 1, bytes => do
    let (frame, rest) ← readFrame e type bytes
    let frames ← readFrames e type fuel rest
    return frame :: frames

/-- All frames of a stream. -/
def readStream (e : Endian) (type : MsgNodeType) (bytes : List UInt8) : Option (List Frame) :=
  readFrames e type bytes.length bytes

/-- The bytes of the messages, one frame after the other. -/
def encodeFrames (e : Endian) (type : MsgNodeType) (ms : List (UInt16 × List UInt8)) :
    List UInt8 :=
  ms.flatMap fun m => (sendNode e m.1 m.2 type).buffer

/-! ## What a reader makes of a frame -/

theorem getHeaderLength_pos (type : MsgNodeType) : 0 < getHeaderLength type := by
  rw [getHeaderLength]
  omega

theorem fields_length {type : MsgNodeType} {id len : List UInt8} (hid : id.length = 2)
    (hlen : len.length = lengthWidth type) : (id ++ len).length = getHeaderLength type := by
  rw [List.length_append, hid, hlen, getHeaderLength]

/-- Enough bytes for a header are an id, a length and a rest. -/
theorem exists_fields {type : MsgNodeType} {bytes : List UInt8}
    (h : getHeaderLength type ≤ bytes.length) :
    ∃ id len rest, bytes = id ++ (len ++ rest) ∧ id.length = 2 ∧
      len.length = lengthWidth type := by
  rw [getHeaderLength] at h
  refine ⟨bytes.take 2, (bytes.drop 2).take (lengthWidth type),
    (bytes.drop 2).drop (lengthWidth type), ?_, ?_, ?_⟩
  · rw [List.take_append_drop, List.take_append_drop]
  · rw [List.length_take]
    omega
  · rw [List.length_take, List.length_drop]
    omega

theorem receiveAt_forReceiving (type : MsgNodeType) {hdr : List UInt8}
    (hhdr : hdr.length = getHeaderLength type) :
    (MsgHeader.forReceiving type).receiveAt 0 hdr =
      .ok { MsgHeader.forReceiving type with buffer := hdr } := by
  have hover : overwrite (List.replicate (getHeaderLength type) 0) 0 hdr = hdr := by
    simp [overwrite, ← hhdr]
  have hfits : 0 + hdr.length ≤ (MsgHeader.forReceiving type).buffer.length := by
    simp only [MsgHeader.forReceiving, resize_length, hhdr, Nat.zero_add, Nat.le_refl]
  rw [MsgHeader.receiveAt, if_pos hfits]
  simp only [MsgHeader.forReceiving, resize_nil, hover]

/-- Exactly the announced body behind a header that has been decoded. -/
theorem receiveAt_body {h : MsgHeader} {hdr bytes : List UInt8}
    (hhdr : hdr.length = getHeaderLength h.type) (hbuf : h.buffer = resize hdr h.length)
    (hbytes : getHeaderLength h.type + bytes.length = h.length) :
    h.receiveAt (getHeaderLength h.type) bytes = .ok { h with buffer := hdr ++ bytes } := by
  have hfits : getHeaderLength h.type + bytes.length ≤ h.buffer.length := by
    rw [hbuf, resize_length]
    omega
  have hover : overwrite h.buffer (getHeaderLength h.type) bytes = hdr ++ bytes := by
    have hrest : h.length - hdr.length = bytes.length := by omega
    rw [hbuf, resize_of_le (by omega), overwrite_append _ _ _ hhdr.symm, hrest]
    simp
  rw [MsgHeader.receiveAt, if_pos hfits, hover]

theorem getMsgBody_full {h : MsgHeader} {hdr bytes : List UInt8}
    (hhdr : hdr.length = getHeaderLength h.type) (hbuf : h.buffer = hdr ++ bytes)
    (hbytes : getHeaderLength h.type + bytes.length = h.length) (hcur : h.length ≤ h.curLength) :
    RecvNode.getMsgBody h = .ok (some bytes) := by
  have hslice : slice (hdr ++ bytes) (getHeaderLength h.type) bytes.length = bytes := by
    have := slice_append hdr bytes [] hhdr.symm rfl
    rwa [List.append_nil] at this
  have hnot : ¬ h.length < getHeaderLength h.type := by omega
  have hn : sizeSub h.length (getHeaderLength h.type) = bytes.length := by
    rw [sizeSub_of_le (by omega)]
    omega
  simp [RecvNode.getMsgBody, MsgHeader.checkBodyRemaining, hcur, hnot, hn, hbuf, hslice]

theorem readHeader_fields (e : Endian) (type : MsgNodeType) {id len : List UInt8}
    (hid : id.length = 2) (hlen : len.length = lengthWidth type) :
    readHeader e type (id ++ len) =
      some (UInt16.ofNat (ofBE id), sizeSub (ofBE len) (getHeaderLength type),
        { id := UInt16.ofNat (ofBE id), length := ofBE len, curLength := getHeaderLength type,
          buffer := resize (id ++ len) (ofBE len), type := type }) := by
  have hhdr := fields_length hid hlen
  let h : MsgHeader := { MsgHeader.forReceiving type with
    buffer := id ++ len, curLength := getHeaderLength type }
  obtain ⟨hgetId, hgetLength⟩ := RecvNode.getHeader_fields e (h := h) (Nat.le_refl _) rfl hid hlen
  have hcur : 0 + (id ++ len).length = getHeaderLength type := by rw [hhdr, Nat.zero_add]
  unfold readHeader
  rw [receiveAt_forReceiving type hhdr]
  simp only [h, MsgHeader.forReceiving] at hgetId hgetLength
  simp only [Except.toOption, Option.bind_eq_bind, Option.bind_some, MsgHeader.updatePointerPos,
    MsgHeader.forReceiving, hcur, hgetId, hgetLength, Option.pure_def]

/-- The body of a frame whose announced length does not even count the header is not read. -/
theorem readBody_fields (h : MsgHeader) (hdr bytes : List UInt8)
    (hhdr : hdr.length = getHeaderLength h.type) (hcur : h.curLength = getHeaderLength h.type)
    (hbuf : h.buffer = resize hdr h.length)
    (hbytes : bytes.length = sizeSub h.length (getHeaderLength h.type)) :
    readBody h bytes = if getHeaderLength h.type ≤ h.length then some bytes else none := by
  by_cases hle : getHeaderLength h.type ≤ h.length
  · have htotal : getHeaderLength h.type + bytes.length = h.length := by
      rw [hbytes, sizeSub_of_le hle]
      omega
    have hbody : RecvNode.getMsgBody
        ({ h with buffer := hdr ++ bytes }.updatePointerPos bytes.length) = .ok (some bytes) :=
      getMsgBody_full hhdr rfl htotal (by
        simp only [MsgHeader.updatePointerPos, hcur]
        omega)
    simp only [readBody, receiveAt_body hhdr hbuf htotal, Except.toOption, Option.bind_eq_bind,
      Option.bind_some, hbody, if_pos hle]
  · have hfits : ¬ getHeaderLength h.type + bytes.length ≤ h.buffer.length := by
      rw [hbuf, resize_length]
      omega
    simp [readBody, MsgHeader.receiveAt, hfits, Except.toOption, hle]

/-- Only the announced length decides how a frame is read: it must count the header, and the
    bytes must be there. -/
theorem readFrame_fields (e : Endian) (type : MsgNodeType) (id len rest : List UInt8)
    (hid : id.length = 2) (hlen : len.length = lengthWidth type) :
    readFrame e type (id ++ (len ++ rest)) =
      if getHeaderLength type ≤ ofBE len ∧ ofBE len - getHeaderLength type ≤ rest.length then
        some (⟨UInt16.ofNat (ofBE id), ofBE len - getHeaderLength type,
          rest.take (ofBE len - getHeaderLength type)⟩,
          rest.drop (ofBE len - getHeaderLength type))
      else none := by
  have hhdr := fields_length hid hlen
  have hbytes : id ++ (len ++ rest) = (id ++ len) ++ rest := (List.append_assoc ..).symm
  have hlong : ¬ ((id ++ len) ++ rest).length < getHeaderLength type := by
    rw [List.length_append, hhdr]
    omega
  have hbody (n : Nat) (hn : n ≤ rest.length) (heq : n = sizeSub (ofBE len) (getHeaderLength type)) :
      readBody ⟨UInt16.ofNat (ofBE id), ofBE len, getHeaderLength type,
          resize (id ++ len) (ofBE len), type⟩ (rest.take n) =
        if getHeaderLength type ≤ ofBE len then some (rest.take n) else none :=
    readBody_fields _ (id ++ len) (rest.take n) hhdr rfl rfl (by
      rw [List.length_take, Nat.min_eq_left hn, heq])
  rw [hbytes]
  simp only [readFrame, if_neg hlong, List.take_left' hhdr, List.drop_left' hhdr,
    readHeader_fields e type hid hlen, Option.bind_eq_bind, Option.bind_some]
  by_cases hn : rest.length < sizeSub (ofBE len) (getHeaderLength type)
  · have hnot : ¬ (getHeaderLength type ≤ ofBE len ∧
        ofBE len - getHeaderLength type ≤ rest.length) := by
      rintro ⟨hle, hrest⟩
      rw [sizeSub_of_le hle] at hn
      omega
    rw [if_pos hn, if_neg hnot]
  · rw [if_neg hn, hbody _ (by omega) rfl]
    by_cases hle : getHeaderLength type ≤ ofBE len
    · rw [sizeSub_of_le hle] at hn ⊢
      rw [if_pos hle, if_pos ⟨hle, by omega⟩]
      rfl
    · rw [if_neg hle, if_neg (fun h => hle h.1)]
      rfl

/-! ## Round trip -/

/-- The length field holds the total length of a frame with this body. -/
def FitsLength (type : MsgNodeType) (body : List UInt8) : Prop :=
  body.length + getHeaderLength type < 256 ^ lengthWidth type

instance (type : MsgNodeType) (body : List UInt8) : Decidable (FitsLength type body) := by
  unfold FitsLength
  infer_instance

theorem ofNat_ofBE_toBE_id (id : UInt16) : UInt16.ofNat (ofBE (toBE 2 id.toNat)) = id := by
  have hlt : id.toNat < 256 ^ 2 := id.toNat_lt
  rw [ofBE_toBE, Nat.mod_eq_of_lt hlt, UInt16.ofNat_toNat]

/-- A frame whose length fits is read back, and the reader stops right behind it. -/
theorem readFrame_sendNode (e e' : Endian) (type : MsgNodeType) (id : UInt16)
    (body rest : List UInt8) (hfits : FitsLength type body) :
    readFrame e' type ((sendNode e id body type).buffer ++ rest) =
      some (⟨id, body.length, body⟩, rest) := by
  have hlen : ofBE (toBE (lengthWidth type) (body.length + getHeaderLength type)) =
      body.length + getHeaderLength type := by
    rw [ofBE_toBE, Nat.mod_eq_of_lt hfits]
  rw [sendNode_buffer, List.append_assoc, List.append_assoc,
    readFrame_fields e' type _ _ _ (toBE_length ..) (toBE_length ..), hlen, ofNat_ofBE_toBE_id]
  simp

/-- A frame whose length does not fit is never read back, whatever follows it. -/
theorem readFrame_sendNode_body_ne (e e' : Endian) (type : MsgNodeType) (id : UInt16)
    (body rest : List UInt8) (hfits : ¬ FitsLength type body) {frame : Frame} {rest' : List UInt8}
    (h : readFrame e' type ((sendNode e id body type).buffer ++ rest) = some (frame, rest')) :
    frame.body ≠ body := by
  have hpos : 0 < 256 ^ lengthWidth type := Nat.pow_pos (by decide)
  have hlt := Nat.mod_lt (body.length + getHeaderLength type) hpos
  rw [sendNode_buffer, List.append_assoc, List.append_assoc,
    readFrame_fields e' type _ _ _ (toBE_length ..) (toBE_length ..), ofBE_toBE] at h
  split at h
  · rename_i hread
    obtain ⟨rfl, -⟩ := Prod.mk.inj (Option.some.inj h)
    intro heq
    have hlength := congrArg List.length heq
    simp only [List.length_take, FitsLength] at hlength hfits
    omega
  · cases h

theorem encodeFrames_cons (e : Endian) (type : MsgNodeType) (m : UInt16 × List UInt8)
    (ms : List (UInt16 × List UInt8)) :
    encodeFrames e type (m :: ms) = (sendNode e m.1 m.2 type).buffer ++ encodeFrames e type ms :=
  List.flatMap_cons

theorem sendNode_buffer_length (e : Endian) (id : UInt16) (body : List UInt8)
    (type : MsgNodeType) :
    (sendNode e id body type).buffer.length = getHeaderLength type + body.length := by
  simp [sendNode_buffer, getHeaderLength]
  omega

theorem length_le_encodeFrames (e : Endian) (type : MsgNodeType)
    (ms : List (UInt16 × List UInt8)) : ms.length ≤ (encodeFrames e type ms).length := by
  induction ms with
  | nil => exact Nat.zero_le _
  | cons m ms ih =>
    rw [encodeFrames_cons, List.length_append, sendNode_buffer_length, List.length_cons,
      getHeaderLength]
    omega

theorem readFrames_succ (e : Endian) (type : MsgNodeType) (fuel : Nat) {bytes : List UInt8}
    (h : bytes ≠ []) :
    readFrames e type (fuel + 1) bytes = (readFrame e type bytes).bind fun r =>
      (readFrames e type fuel r.2).map (r.1 :: ·) := by
  cases bytes with
  | nil => exact absurd rfl h
  | cons b bytes =>
    simp only [readFrames, Option.map_eq_bind]
    rfl

theorem sendNode_buffer_append_ne_nil (e : Endian) (id : UInt16) (body rest : List UInt8)
    (type : MsgNodeType) : (sendNode e id body type).buffer ++ rest ≠ [] := by
  intro h
  have hlen := congrArg List.length h
  rw [List.length_append, sendNode_buffer_length, getHeaderLength, List.length_nil] at hlen
  omega

theorem readFrames_encodeFrames (e e' : Endian) (type : MsgNodeType)
    (ms : List (UInt16 × List UInt8)) (fuel : Nat) (hfuel : ms.length ≤ fuel)
    (hfits : ∀ m ∈ ms, FitsLength type m.2) :
    readFrames e' type fuel (encodeFrames e type ms) = some (ms.map Frame.ofMessage) := by
  induction ms generalizing fuel with
  | nil => cases fuel <;> rfl
  | cons m ms ih =>
    rw [List.length_cons] at hfuel
    obtain ⟨fuel, rfl⟩ : ∃ k, fuel = k + 1 := ⟨fuel - 1, by omega⟩
    have htail := ih fuel (by omega) fun m' hm' => hfits m' (List.mem_cons_of_mem _ hm')
    have hne := sendNode_buffer_append_ne_nil e m.1 m.2 (encodeFrames e type ms) type
    rw [encodeFrames_cons, readFrames_succ _ _ _ hne,
      readFrame_sendNode e e' type m.1 m.2 _ (hfits m List.mem_cons_self), Option.bind_some,
      htail]
    rfl

/-- The reader loses the stream at the first frame whose length does not fit. -/
theorem fitsLength_of_readFrames (e e' : Endian) (type : MsgNodeType)
    (ms : List (UInt16 × List UInt8)) (fuel : Nat)
    (h : readFrames e' type fuel (encodeFrames e type ms) = some (ms.map Frame.ofMessage)) :
    ∀ m ∈ ms, FitsLength type m.2 := by
  induction ms generalizing fuel with
  | nil => simp
  | cons m ms ih =>
    rw [encodeFrames_cons] at h
    have hne := sendNode_buffer_append_ne_nil e m.1 m.2 (encodeFrames e type ms) type
    cases fuel with
    | zero =>
      cases hbytes : (sendNode e m.1 m.2 type).buffer ++ encodeFrames e type ms with
      | nil => exact absurd hbytes hne
      | cons b bytes => rw [hbytes] at h; cases h
    | succ fuel =>
      rw [readFrames_succ _ _ _ hne, Option.bind_eq_some_iff] at h
      obtain ⟨⟨frame, rest⟩, hread, hmap⟩ := h
      obtain ⟨frames, hframes, hcons⟩ := Option.map_eq_some_iff.mp hmap
      obtain ⟨hhead, htail⟩ := List.cons.inj hcons
      by_cases hfits : FitsLength type m.2
      · rw [readFrame_sendNode e e' type m.1 m.2 _ hfits] at hread
        obtain ⟨-, rfl⟩ := Prod.mk.inj (Option.some.inj hread)
        rw [htail] at hframes
        exact List.forall_mem_cons.mpr ⟨hfits, ih fuel hframes⟩
      · exact absurd (congrArg Frame.body hhead)
          (readFrame_sendNode_body_ne e e' type m.1 m.2 _ hfits hread)

/-- Decoding undoes encoding, frame by frame and on the concatenated stream. -/
def RoundTrips (e e' : Endian) (type : MsgNodeType) (ms : List (UInt16 × List UInt8)) : Prop :=
  (∀ m ∈ ms, readFrame e' type (sendNode e m.1 m.2 type).buffer = some (Frame.ofMessage m, [])) ∧
    readStream e' type (encodeFrames e type ms) = some (ms.map Frame.ofMessage)

/-- Messages survive the wire exactly when every one of them fits the length field, whatever the
    byte orders of the two machines. -/
theorem roundTrips_iff_fitsLength (e e' : Endian) (type : MsgNodeType)
    (ms : List (UInt16 × List UInt8)) :
    RoundTrips e e' type ms ↔ ∀ m ∈ ms, FitsLength type m.2 := by
  constructor
  · rintro ⟨-, hstream⟩
    exact fitsLength_of_readFrames e e' type ms _ hstream
  · intro hfits
    refine ⟨fun m hm => ?_, ?_⟩
    · have h := readFrame_sendNode e e' type m.1 m.2 [] (hfits m hm)
      rwa [List.append_nil] at h
    · exact readFrames_encodeFrames e e' type ms _ (length_le_encodeFrames e type ms) hfits

/-- A login response (`SERVICE_LOGINRESPONSE`, id 6) of 65532 bytes announces length 0. -/
theorem not_roundTrips_long_login_response :
    ¬ RoundTrips .little .little .msgnodeNormal [(6, List.replicate 65532 97)] := by
  rintro ⟨hframes, -⟩
  have hread := hframes _ List.mem_cons_self
  rw [← List.append_nil (sendNode ..).buffer] at hread
  have hfits : ¬ FitsLength .msgnodeNormal (List.replicate 65532 97) := by
    rw [FitsLength, List.length_replicate]
    decide
  exact readFrame_sendNode_body_ne _ _ _ _ _ _ hfits hread rfl

end DistributedIM.Buffer
