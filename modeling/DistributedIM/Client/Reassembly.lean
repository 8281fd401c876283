/-
  When the `readyRead` handlers put a byte stream back together.

  A call accounts for its bytes: what it hands on and what the node holds afterwards is at most
  what the node held and the chunk brought (`readyRead_account`). The handler keeps nothing of the
  local array, so to hand on every frame no call may lose a byte. Between two calls that lose
  nothing the node is empty (`Boundary`) or holds exactly one header (`filling` at header length),
  and from each of the two there is one way on: `call_boundary`, `call_filling`.

  `reassembles_iff_wholeCuts`: the frames come out exactly when every body is a JSON object of less
  than `2 ^ 16` bytes and every non-empty chunk is one whole frame, or a header alone with its body
  alone behind it. Of a longer body, on the resources connection, `received._length` has the length
  modulo `2 ^ 16` only: the body then ends in zeros that nothing was copied over, and is no JSON.

  Not covered: frames whose total length does not fit its field (see `roundTrips_iff_fitsLength`).
-/
import Mathlib.Algebra.Ring.Nat
import DistributedIM.Lib.Outcome
import DistributedIM.Client.DataRetrieve

namespace DistributedIM.Client

open Bytes DistributedIM.Buffer

variable {type : MsgNodeType} {e : Endian} {json : JsonReader}

/-! ## Frames on the wire -/

/-- A frame whose total length its length field can hold. -/
structure WireFrame (type : MsgNodeType) where
  id : UInt16
  body : List UInt8
  fits : FitsLength type body

namespace WireFrame

/-- Id and total length. -/
def header (f : WireFrame type) : List UInt8 :=
  toBE 2 f.id.toNat ++ toBE (lengthWidth type) (f.body.length + getHeaderLength type)

def bytes (f : WireFrame type) : List UInt8 :=
  f.header ++ f.body

def message (f : WireFrame type) : Message :=
  (f.id, f.body)

/-- What is left of the body length in `received._length`: the body arrives in blocks of this
    size. -/
def block (f : WireFrame type) : Nat :=
  f.body.length % 2 ^ 16

/-- `received._length` can hold the length of the body, and the body is an object. -/
def Dispatches (json : JsonReader) (f : WireFrame type) : Prop :=
  f.body.length < 2 ^ 16 ∧ json.fromJson f.body = .object

@[simp] theorem header_length (f : WireFrame type) : f.header.length = getHeaderLength type := by
  simp [header, getHeaderLength]
  omega

theorem block_le (f : WireFrame type) : f.block ≤ f.body.length := Nat.mod_le ..

theorem block_of_dispatches {f : WireFrame type} (h : f.Dispatches json) :
    f.block = f.body.length :=
  Nat.mod_eq_of_lt h.1

/-- An empty body is no object. -/
theorem body_ne_nil_of_dispatches {f : WireFrame type} (h : f.Dispatches json) : f.body ≠ [] := by
  intro hnil
  have hobject := h.2
  rw [hnil, json.fromJson_nil] at hobject
  cases hobject

end WireFrame

/-- The bytes of the frames, one behind the other. -/
def wire (fs : List (WireFrame type)) : List UInt8 :=
  fs.flatMap WireFrame.bytes

@[simp] theorem wire_nil : wire ([] : List (WireFrame type)) = [] := rfl

@[simp] theorem wire_cons (f : WireFrame type) (fs : List (WireFrame type)) :
    wire (f :: fs) = f.bytes ++ wire fs :=
  List.flatMap_cons

/-! ## No call hands on more than it was given -/

@[simp] theorem getId_curLength (e : Endian) (h : MsgHeader) :
    (RecvNode.getId e h).2.curLength = h.curLength := by
  unfold RecvNode.getId
  split <;> rfl

@[simp] theorem getId_type (e : Endian) (h : MsgHeader) :
    (RecvNode.getId e h).2.type = h.type := by
  unfold RecvNode.getId
  split <;> rfl

@[simp] theorem getLength_curLength (e : Endian) (h : MsgHeader) :
    (RecvNode.getLength e h).2.curLength = h.curLength := by
  unfold RecvNode.getLength
  split <;> rfl

@[simp] theorem getLength_type (e : Endian) (h : MsgHeader) :
    (RecvNode.getLength e h).2.type = h.type := by
  unfold RecvNode.getLength
  split <;> rfl

theorem receiveAt_ok {h h' : MsgHeader} {off : Nat} {bs : List UInt8}
    (hr : h.receiveAt off bs = .ok h') : h' = { h with buffer := overwrite h.buffer off bs } := by
  unfold MsgHeader.receiveAt at hr
  split at hr
  · exact (Except.ok.inj hr).symm
  · cases hr

theorem takeHeader_account {st st' : Retrieve} {array array' : List UInt8}
    (h : takeHeader e st array = .ok (st', array'))
    (hlen : getHeaderLength st.buffer.type ≤ array.length) :
    st'.buffer.curLength + array'.length = st.buffer.curLength + array.length ∧
      st'.buffer.type = st.buffer.type := by
  unfold takeHeader at h
  split at h
  · obtain ⟨id, -, h⟩ := Outcome.bind_eq_ok.mp h
    obtain ⟨length, -, h⟩ := Outcome.bind_eq_ok.mp h
    obtain ⟨rfl, rfl⟩ := Prod.mk.inj (Except.ok.inj h)
    simp only [getLength_curLength, getId_curLength, getLength_type, getId_type,
      MsgHeader.updatePointerPos, List.length_drop]
    exact ⟨by omega, trivial⟩
  · obtain ⟨rfl, rfl⟩ := Prod.mk.inj (Except.ok.inj h)
    exact ⟨rfl, rfl⟩

theorem takeBody_account {st st' : Retrieve} {array array' : List UInt8}
    (h : takeBody st array = .ok (st', array'))
    (hlen : st.received.length.toNat ≤ array.length) :
    st'.buffer.curLength + array'.length = st.buffer.curLength + array.length ∧
      st'.buffer.type = st.buffer.type := by
  unfold takeBody at h
  split at h
  · obtain ⟨buffer, hbuf, h⟩ := Outcome.bind_eq_ok.mp h
    obtain ⟨rfl, rfl⟩ := Prod.mk.inj (Except.ok.inj h)
    rw [receiveAt_ok hbuf]
    simp only [MsgHeader.updatePointerPos, List.length_drop]
    exact ⟨by omega, trivial⟩
  · obtain ⟨rfl, rfl⟩ := Prod.mk.inj (Except.ok.inj h)
    exact ⟨rfl, rfl⟩

/-- Bytes in the node after the loop. -/
def Exit.AtMost (type : MsgNodeType) (n : Nat) : Exit → Prop
  | .waiting st => st.buffer.curLength ≤ n ∧ st.buffer.type = type
  | .received st => st.buffer.curLength ≤ n ∧ st.buffer.type = type
  | .fault _ => True

theorem pass_account (s : Retrieve × List UInt8) :
    match pass e s with
    | .next s' => s'.1.buffer.curLength + s'.2.length = s.1.buffer.curLength + s.2.length ∧
        s'.1.buffer.type = s.1.buffer.type
    | .done x => x.AtMost s.1.buffer.type (s.1.buffer.curLength + s.2.length) := by
  obtain ⟨st, array⟩ := s
  by_cases hlen : array.length < getHeaderLength st.buffer.type
  · simp only [pass, if_pos hlen]
    exact ⟨Nat.le_add_right .., rfl⟩
  · cases hhead : takeHeader e st array with
    | error f => simp only [pass, if_neg hlen, hhead, Exit.AtMost]
    | ok s₁ =>
      obtain ⟨st₁, array₁⟩ := s₁
      obtain ⟨hcur₁, htype₁⟩ := takeHeader_account hhead (by omega)
      by_cases hbody : array₁.length < st₁.received.length.toNat
      · simp only [pass, if_neg hlen, hhead, if_pos hbody]
        exact ⟨by omega, htype₁⟩
      · cases hcopy : takeBody st₁ array₁ with
        | error f => simp only [pass, if_neg hlen, hhead, if_neg hbody, hcopy, Exit.AtMost]
        | ok s₂ =>
          obtain ⟨st₂, array₂⟩ := s₂
          obtain ⟨hcur₂, htype₂⟩ := takeBody_account hcopy (by omega)
          simp only [pass, if_neg hlen, hhead, if_neg hbody, hcopy]
          exact ⟨by omega, htype₂.trans htype₁⟩

theorem loop_account (fuel : Nat) (s : Retrieve × List UInt8) {x : Exit}
    (h : Loop.run (pass e) fuel s = some x) :
    x.AtMost s.1.buffer.type (s.1.buffer.curLength + s.2.length) := by
  refine Loop.run_invariant
    (P := fun s' => s'.1.buffer.curLength + s'.2.length = s.1.buffer.curLength + s.2.length ∧
      s'.1.buffer.type = s.1.buffer.type) ?_ ?_ ⟨rfl, rfl⟩ h
  · rintro s₁ s₂ ⟨hsize, htype⟩ hnext
    have hp := pass_account (e := e) s₁
    rw [hnext] at hp
    exact ⟨hp.1.trans hsize, hp.2.trans htype⟩
  · rintro s₁ x ⟨hsize, htype⟩ hdone
    have hp := pass_account (e := e) s₁
    rwa [hdone, hsize, htype] at hp

/-- Wire size of the messages. -/
def wireSize (type : MsgNodeType) (ms : List Message) : Nat :=
  (ms.map fun m => getHeaderLength type + m.2.length).sum

@[simp] theorem wireSize_nil (type : MsgNodeType) : wireSize type [] = 0 := rfl

@[simp] theorem wireSize_cons (type : MsgNodeType) (m : Message) (ms : List Message) :
    wireSize type (m :: ms) = getHeaderLength type + m.2.length + wireSize type ms := rfl

theorem wireSize_append (type : MsgNodeType) (ms ms' : List Message) :
    wireSize type (ms ++ ms') = wireSize type ms + wireSize type ms' := by
  simp [wireSize]

theorem wireSize_message (fs : List (WireFrame type)) :
    wireSize type (fs.map WireFrame.message) = (wire fs).length := by
  induction fs with
  | nil => rfl
  | cons f fs ih =>
    rw [List.map_cons, wireSize_cons, ih, wire_cons, List.length_append, WireFrame.bytes,
      List.length_append, WireFrame.header_length, WireFrame.message]

variable (json) in
theorem dispatched_eq_nil_or (m : Message) :
    dispatched json m = [] ∨ dispatched json m = [m] ∧ json.fromJson m.2 = .object := by
  unfold dispatched
  cases json.fromJson m.2 with
  | null => exact Or.inl rfl
  | array => exact Or.inl rfl
  | object => exact Or.inr ⟨rfl, rfl⟩

theorem handOn_eq_ok {text : List UInt8} {st st' : Retrieve} {ms : List Message}
    (h : handOn json text st = .ok (st', ms)) :
    ∃ msg, getMsgBody text st.buffer = some msg ∧ ms = dispatched json (st.received.id, msg) ∧
      st'.buffer.curLength = 0 ∧ st'.buffer.type = st.buffer.type := by
  obtain ⟨msg, hval, h⟩ := Outcome.bind_eq_ok.mp h
  obtain ⟨rfl, rfl⟩ := Prod.mk.inj (Except.ok.inj h)
  refine ⟨msg, ?_, rfl, rfl, rfl⟩
  cases hmsg : getMsgBody text st.buffer with
  | none =>
    rw [hmsg] at hval
    cases hval
  | some msg' =>
    rw [hmsg] at hval
    exact congrArg some (Except.ok.inj hval)

/-- With nothing behind the buffer, no message is longer than what the node has received. -/
theorem handOn_account {st st' : Retrieve} {ms : List Message}
    (h : handOn json [] st = .ok (st', ms)) :
    wireSize st.buffer.type ms ≤ st.buffer.curLength ∧
      st'.buffer.curLength = 0 ∧ st'.buffer.type = st.buffer.type := by
  obtain ⟨msg, hmsg, rfl, hzero, htype⟩ := handOn_eq_ok h
  refine ⟨?_, hzero, htype⟩
  rcases dispatched_eq_nil_or json (st.received.id, msg) with hnil | ⟨hone, hobject⟩
  · rw [hnil]
    exact Nat.zero_le _
  · rw [hone, wireSize_cons, wireSize_nil]
    unfold getMsgBody at hmsg
    split at hmsg
    · cases hmsg
    · rename_i hrem
      split at hmsg
      · obtain rfl := Option.some.inj hmsg
        rw [json.fromJson_nil] at hobject
        cases hobject
      · obtain rfl := Option.some.inj hmsg
        have hcur : st.buffer.length ≤ st.buffer.curLength := by
          simpa [MsgHeader.checkBodyRemaining] using hrem
        have hsize := List.length_take_le (sizeSub st.buffer.length (getHeaderLength st.buffer.type))
          (st.buffer.buffer.drop (getHeaderLength st.buffer.type))
        rw [sizeSub_of_le (by omega)] at hsize ⊢
        simp only [slice]
        omega

/-- A call hands on at most what the node held and the chunk brought. -/
theorem readyRead_account {fuel : Nat} {st st' : Retrieve} {chunk : List UInt8}
    {ms : List Message} (h : readyRead json [] e fuel st chunk = some (.ok (st', ms))) :
    wireSize st.buffer.type ms + st'.buffer.curLength ≤ st.buffer.curLength + chunk.length ∧
      st'.buffer.type = st.buffer.type := by
  unfold readyRead at h
  split at h
  · obtain ⟨rfl, rfl⟩ := Prod.mk.inj (Except.ok.inj (Option.some.inj h))
    exact ⟨by simp, rfl⟩
  · obtain ⟨x, hrun, hx⟩ := Option.map_eq_some_iff.mp h
    have hle : x.AtMost st.buffer.type (st.buffer.curLength + chunk.length) :=
      loop_account fuel _ hrun
    cases x with
    | fault f => cases hx
    | waiting st₁ =>
      obtain ⟨rfl, rfl⟩ := Prod.mk.inj (Except.ok.inj hx)
      exact ⟨by simpa using hle.1, hle.2⟩
    | received st₁ =>
      obtain ⟨hsize, hzero, htype⟩ := handOn_account hx
      obtain ⟨hcur, htype₁⟩ := hle
      rw [htype₁] at hsize
      exact ⟨by omega, htype.trans htype₁⟩

/-! ## Runs of calls -/

/-- The call on `chunk` ends well in `st'` and hands on `ms`. -/
def Call (json : JsonReader) (text : List UInt8) (e : Endian) (st : Retrieve)
    (chunk : List UInt8) (st' : Retrieve) (ms : List Message) : Prop :=
  ∃ fuel, readyRead json text e fuel st chunk = some (.ok (st', ms))

/-- All calls end well, the last one in `st'`, and together hand on `ms`. -/
def Calls (json : JsonReader) (texts : Nat → List UInt8) (e : Endian) (st : Retrieve)
    (chunks : List (List UInt8)) (st' : Retrieve) (ms : List Message) : Prop :=
  ∃ fuel, readyReads json texts e fuel st chunks = some (.ok (st', ms))

variable {text : List UInt8} {texts : Nat → List UInt8}

theorem readyRead_mono {fuel fuel' : Nat} {st : Retrieve} {chunk : List UInt8}
    {r : Except Fault (Retrieve × List Message)} (h : readyRead json text e fuel st chunk = some r)
    (hle : fuel ≤ fuel') : readyRead json text e fuel' st chunk = some r := by
  unfold readyRead at h ⊢
  split at h
  · rename_i hnil
    rw [if_pos hnil, h]
  · rename_i hne
    obtain ⟨x, hrun, hx⟩ := Option.map_eq_some_iff.mp h
    rw [if_neg hne, Loop.run_mono hrun hle, Option.map_some, hx]

theorem readyReads_cons_ok {fuel : Nat} {st st'' : Retrieve} {chunk : List UInt8}
    {chunks : List (List UInt8)} {ms : List Message} :
    readyReads json texts e fuel st (chunk :: chunks) = some (.ok (st'', ms)) ↔
      ∃ st' ms₁ ms₂,
        readyRead json (texts (chunks.countP (· ≠ []))) e fuel st chunk = some (.ok (st', ms₁)) ∧
        readyReads json texts e fuel st' chunks = some (.ok (st'', ms₂)) ∧ ms = ms₁ ++ ms₂ := by
  rw [readyReads]
  cases readyRead json (texts (chunks.countP (· ≠ []))) e fuel st chunk with
  | none => simp
  | some r =>
    cases r with
    | error f => simp
    | ok p =>
      obtain ⟨st₁, ms₁⟩ := p
      simp only [Option.map_eq_some_iff, Option.some.injEq, Except.ok.injEq, Prod.mk.injEq]
      constructor
      · rintro ⟨r, hr, hmap⟩
        obtain ⟨⟨st₂, ms₂⟩, rfl, hp⟩ := Outcome.map_eq_ok.mp hmap
        obtain ⟨rfl, rfl⟩ := Prod.mk.inj hp
        exact ⟨st₁, ms₁, ms₂, ⟨rfl, rfl⟩, hr, rfl⟩
      · rintro ⟨st', ms', ms₂, ⟨rfl, rfl⟩, hr, rfl⟩
        exact ⟨_, hr, rfl⟩

theorem readyReads_mono {fuel fuel' : Nat} {st st' : Retrieve} {chunks : List (List UInt8)}
    {ms : List Message} (h : readyReads json texts e fuel st chunks = some (.ok (st', ms)))
    (hle : fuel ≤ fuel') : readyReads json texts e fuel' st chunks = some (.ok (st', ms)) := by
  induction chunks generalizing st ms with
  | nil => exact h
  | cons chunk chunks ih =>
    obtain ⟨st₁, ms₁, ms₂, hcall, hcalls, rfl⟩ := readyReads_cons_ok.mp h
    exact readyReads_cons_ok.mpr ⟨st₁, ms₁, ms₂, readyRead_mono hcall hle, ih hcalls, rfl⟩

theorem calls_nil {st st' : Retrieve} {ms : List Message} :
    Calls json texts e st [] st' ms ↔ st' = st ∧ ms = [] := by
  simp [Calls, readyReads, eq_comm]

theorem calls_cons {st st'' : Retrieve} {chunk : List UInt8} {chunks : List (List UInt8)}
    {ms : List Message} :
    Calls json texts e st (chunk :: chunks) st'' ms ↔
      ∃ st' ms₁ ms₂, Call json (texts (chunks.countP (· ≠ []))) e st chunk st' ms₁ ∧
        Calls json texts e st' chunks st'' ms₂ ∧ ms = ms₁ ++ ms₂ := by
  constructor
  · rintro ⟨fuel, h⟩
    obtain ⟨st₁, ms₁, ms₂, hcall, hcalls, hms⟩ := readyReads_cons_ok.mp h
    exact ⟨st₁, ms₁, ms₂, ⟨fuel, hcall⟩, ⟨fuel, hcalls⟩, hms⟩
  · rintro ⟨st₁, ms₁, ms₂, ⟨fuel, hcall⟩, ⟨fuel', hcalls⟩, hms⟩
    exact ⟨max fuel fuel', readyReads_cons_ok.mpr ⟨st₁, ms₁, ms₂,
      readyRead_mono hcall (Nat.le_max_left ..), readyReads_mono hcalls (Nat.le_max_right ..),
      hms⟩⟩

theorem calls_account {st st' : Retrieve} {chunks : List (List UInt8)} {ms : List Message}
    (h : Calls json (fun _ => []) e st chunks st' ms) :
    wireSize st.buffer.type ms ≤ st.buffer.curLength + chunks.flatten.length := by
  induction chunks generalizing st ms with
  | nil =>
    obtain ⟨-, rfl⟩ := calls_nil.mp h
    exact Nat.zero_le _
  | cons chunk chunks ih =>
    obtain ⟨st₁, ms₁, ms₂, ⟨fuel, hcall⟩, hcalls, rfl⟩ := calls_cons.mp h
    obtain ⟨hle, htype⟩ := readyRead_account hcall
    have htail := ih hcalls
    rw [htype] at htail
    rw [wireSize_append, List.flatten_cons, List.length_append]
    omega

/-- A chunk without bytes does not call the loop. -/
theorem calls_filter (st st' : Retrieve) (chunks : List (List UInt8)) (ms : List Message) :
    Calls json texts e st chunks st' ms ↔ Calls json texts e st (chunks.filter (· ≠ [])) st' ms := by
  induction chunks generalizing st ms with
  | nil => exact Iff.rfl
  | cons chunk chunks ih =>
    by_cases hnil : chunk = []
    · subst hnil
      rw [List.filter_cons_of_neg (by simp), ← ih, calls_cons]
      constructor
      · rintro ⟨st₁, ms₁, ms₂, ⟨fuel, hcall⟩, hcalls, rfl⟩
        obtain ⟨rfl, rfl⟩ := Prod.mk.inj (Except.ok.inj (Option.some.inj hcall))
        exact hcalls
      · intro hcalls
        exact ⟨st, [], ms, ⟨0, rfl⟩, hcalls, rfl⟩
    · rw [List.filter_cons_of_pos (by simpa using hnil), calls_cons, calls_cons]
      simp only [ih, List.countP_filter, Bool.and_self]

/-! ## Between two calls -/

/-- No byte of a frame has been received. -/
structure Boundary (type : MsgNodeType) (st : Retrieve) : Prop where
  type_eq : st.buffer.type = type
  curLength_eq : st.buffer.curLength = 0

/-- The header of `f` is decoded, the write pointer stands at `cur`, the body area holds `b`. -/
def filling (f : WireFrame type) (msg : List UInt8) (cur : Nat) (b : List UInt8) : Retrieve :=
  { received := ⟨f.id, UInt16.ofNat f.body.length, msg⟩
    buffer :=
      { id := f.id, length := f.body.length + getHeaderLength type, curLength := cur,
        buffer := f.header ++ b, type := type } }

/-- The body area right after the header. -/
def WireFrame.blank (f : WireFrame type) : List UInt8 :=
  List.replicate f.body.length 0

@[simp] theorem WireFrame.blank_length (f : WireFrame type) : f.blank.length = f.body.length :=
  List.length_replicate

theorem boundary_init (type : MsgNodeType) : Boundary type (Retrieve.init type) := ⟨rfl, rfl⟩

/-- The pass that takes a header off the array: only its fields matter. -/
theorem takeHeader_fields {st : Retrieve} (htype : st.buffer.type = type)
    (hremain : st.buffer.checkHeaderRemaining = true) {id len rest : List UInt8}
    (hid : id.length = 2) (hlen : len.length = lengthWidth type) :
    takeHeader e st (id ++ (len ++ rest)) =
      .ok ({ received := { st.received with
               id := UInt16.ofNat (ofBE id)
               length := UInt16.ofNat (sizeSub (ofBE len) (getHeaderLength type)) }
             buffer :=
               { id := UInt16.ofNat (ofBE id), length := ofBE len,
                 curLength := st.buffer.curLength + getHeaderLength type,
                 buffer := resize (id ++ len) (ofBE len), type := type } }, rest) := by
  subst htype
  have hhdr := fields_length hid hlen
  let h : MsgHeader := { st.buffer with
    buffer := id ++ len, curLength := st.buffer.curLength + getHeaderLength st.buffer.type }
  obtain ⟨hgetId, hgetLength⟩ :=
    RecvNode.getHeader_fields e (h := h) (Nat.le_add_left ..) rfl hid hlen
  rw [← List.append_assoc]
  simp only [takeHeader, hremain, if_true, MsgHeader.updatePointerPos, List.take_left' hhdr,
    List.drop_left' hhdr]
  simp only [h] at hgetId hgetLength
  simp only [hgetId, hgetLength, optionalValue]
  rfl

theorem takeHeader_boundary {st : Retrieve} (hst : Boundary type st) (f : WireFrame type)
    (x : List UInt8) :
    takeHeader e st (f.header ++ x) =
      .ok (filling f st.received.msg (getHeaderLength type) f.blank, x) := by
  have hpos := getHeaderLength_pos type
  have hremain : st.buffer.checkHeaderRemaining = true := by
    simp only [MsgHeader.checkHeaderRemaining, hst.type_eq, hst.curLength_eq,
      Bool.not_eq_true', decide_eq_false_iff_not]
    omega
  have hlen : ofBE (toBE (lengthWidth type) (f.body.length + getHeaderLength type)) =
      f.body.length + getHeaderLength type := by
    rw [ofBE_toBE, Nat.mod_eq_of_lt f.fits]
  have hresize : resize f.header (f.body.length + getHeaderLength type) = f.header ++ f.blank := by
    rw [resize_of_le (by simp), WireFrame.header_length, Nat.add_sub_cancel, WireFrame.blank]
  rw [WireFrame.header] at hresize ⊢
  rw [List.append_assoc, takeHeader_fields hst.type_eq hremain (toBE_length ..) (toBE_length ..),
    hlen, ofNat_ofBE_toBE_id, sizeSub_of_le (Nat.le_add_left ..), Nat.add_sub_cancel,
    hst.curLength_eq, Nat.zero_add, hresize]
  rfl

theorem filling_block (f : WireFrame type) (msg b : List UInt8) (cur : Nat) :
    (filling f msg cur b).received.length.toNat = f.block :=
  UInt16.toNat_ofNat'

theorem takeBody_filling (f : WireFrame type) (msg array : List UInt8) (cur : Nat)
    {b : List UInt8} (hb : b.length = f.body.length) (harray : f.block ≤ array.length) :
    takeBody (filling f msg cur b) array =
      if cur < f.body.length + getHeaderLength type then
        .ok (filling f msg (cur + f.block) (array.take f.block ++ b.drop f.block),
          array.drop f.block)
      else .ok (filling f msg cur b, array) := by
  have hblock := f.block_le
  unfold takeBody
  rw [filling_block]
  by_cases hcur : cur < f.body.length + getHeaderLength type
  · have hremain : (filling f msg cur b).buffer.checkBodyRemaining = true := by
      simpa [filling, MsgHeader.checkBodyRemaining] using hcur
    have hfits : getHeaderLength type + (array.take f.block).length ≤ (f.header ++ b).length := by
      rw [List.length_append, WireFrame.header_length, List.length_take]
      omega
    have hover : overwrite (f.header ++ b) (getHeaderLength type) (array.take f.block) =
        f.header ++ (array.take f.block ++ b.drop f.block) := by
      rw [overwrite_append _ _ _ f.header_length.symm, List.length_take, Nat.min_eq_left harray]
    rw [if_pos hremain, if_pos hcur]
    simp only [filling, MsgHeader.receiveAt, if_pos hfits, hover]
    rfl
  · have hremain : ¬ (filling f msg cur b).buffer.checkBodyRemaining = true := by
      simpa [filling, MsgHeader.checkBodyRemaining] using hcur
    rw [if_neg hremain, if_neg hcur]

/-- One pass once the header is there. -/
theorem pass_filling (f : WireFrame type) (msg array : List UInt8) {cur : Nat} {b : List UInt8}
    (hcur : getHeaderLength type ≤ cur) (hb : b.length = f.body.length) :
    pass e (filling f msg cur b, array) =
      if array.length < getHeaderLength type then .done (.received (filling f msg cur b))
      else if array.length < f.block then .done (.waiting (filling f msg cur b))
      else if cur < f.body.length + getHeaderLength type then
        .next (filling f msg (cur + f.block) (array.take f.block ++ b.drop f.block),
          array.drop f.block)
      else .next (filling f msg cur b, array) := by
  have hremain : ¬ (filling f msg cur b).buffer.checkHeaderRemaining = true := by
    simpa [filling, MsgHeader.checkHeaderRemaining] using hcur
  have hhead : takeHeader e (filling f msg cur b) array = .ok (filling f msg cur b, array) :=
    if_neg hremain
  have htype : (filling f msg cur b).buffer.type = type := rfl
  simp only [pass, hhead, filling_block, htype]
  by_cases hblock : array.length < f.block
  · simp only [if_pos hblock]
  · simp only [if_neg hblock, takeBody_filling f msg array cur hb (by omega)]
    by_cases hless : cur < f.body.length + getHeaderLength type
    · simp only [if_pos hless]
    · simp only [if_neg hless]

/-- The pass that decodes the header, with the first block of the body behind it. -/
theorem pass_boundary {st : Retrieve} (hst : Boundary type st) (f : WireFrame type)
    (x : List UInt8) :
    pass e (st, f.header ++ x) =
      if x.length < f.block then
        .done (.waiting (filling f st.received.msg (getHeaderLength type) f.blank))
      else if f.body = [] then
        .next (filling f st.received.msg (getHeaderLength type) f.blank, x)
      else
        .next (filling f st.received.msg (getHeaderLength type + f.block)
          (x.take f.block ++ f.blank.drop f.block), x.drop f.block) := by
  have hlong : ¬ (f.header ++ x).length < getHeaderLength st.buffer.type := by
    rw [hst.type_eq, List.length_append, WireFrame.header_length]
    omega
  have hbody : getHeaderLength type < f.body.length + getHeaderLength type ↔ ¬ f.body = [] := by
    rw [← List.length_eq_zero_iff]
    omega
  simp only [pass, if_neg hlong, takeHeader_boundary hst, filling_block]
  by_cases hblock : x.length < f.block
  · simp only [if_pos hblock]
  · simp only [if_neg hblock, takeBody_filling f _ x _ f.blank_length (by omega), hbody, ite_not]
    by_cases hnil : f.body = []
    · simp only [if_pos hnil]
    · simp only [if_neg hnil]

/-! ## The body loop -/

/-- The body area after the blocks of `array` have been copied, all to its base. -/
def copied (block : Nat) (b array : List UInt8) : List UInt8 :=
  if array = [] then b else array.drop (array.length - block) ++ b.drop block

/-- Copying a block and then the others is copying them all. -/
theorem copied_step {block : Nat} {b array : List UInt8} (hle : block ≤ array.length)
    (hne : array ≠ []) (hdvd : block ∣ array.length - block) :
    copied block (array.take block ++ b.drop block) (array.drop block) = copied block b array := by
  unfold copied
  rw [if_neg hne]
  split
  · rename_i hlast
    rw [List.drop_eq_nil_iff] at hlast
    rw [show array.length - block = 0 by omega, List.drop_zero, List.take_of_length_le hlast]
  · rename_i hmore
    have hpos : 0 < array.length - block := by
      rw [← List.length_drop]
      exact List.length_pos_iff.mpr hmore
    have hle' := Nat.le_of_dvd hpos hdvd
    have htake : (array.take block).length = block := by
      rw [List.length_take]
      omega
    rw [List.drop_drop, List.length_drop, List.drop_left' htake]
    congr 2
    omega

/-- A loop that ends with the frame complete has copied whole blocks, and has read the later ones
    only because they were as long as a header. -/
theorem loop_filling_received (f : WireFrame type) (msg : List UInt8) (fuel : Nat) {cur : Nat}
    {b array : List UInt8} {st : Retrieve} (hcur : getHeaderLength type ≤ cur)
    (hb : b.length = f.body.length)
    (htotal : cur + array.length = f.body.length + getHeaderLength type)
    (hrun : Loop.run (pass e) fuel (filling f msg cur b, array) = some (.received st))
    (hdone : st.buffer.checkBodyRemaining = false) :
    f.block ∣ array.length ∧ (array ≠ [] → getHeaderLength type ≤ f.block) ∧
      st = filling f msg (f.body.length + getHeaderLength type) (copied f.block b array) := by
  induction fuel generalizing cur b array with
  | zero => cases hrun
  | succ fuel ih =>
    have hpass := pass_filling (e := e) f msg array hcur hb
    by_cases hshort : array.length < getHeaderLength type
    · rw [if_pos hshort] at hpass
      rw [Loop.run_succ_of_done hpass] at hrun
      obtain rfl := Exit.received.inj (Option.some.inj hrun)
      have hge : f.body.length + getHeaderLength type ≤ cur := by
        simpa [MsgHeader.checkBodyRemaining, filling] using hdone
      obtain rfl : array = [] := List.length_eq_zero_iff.mp (by omega)
      obtain rfl : cur = f.body.length + getHeaderLength type := by simpa using htotal
      exact ⟨by simp, fun h => absurd rfl h, by simp [copied]⟩
    · rw [if_neg hshort] at hpass
      have hpos := getHeaderLength_pos type
      by_cases hblock : array.length < f.block
      · rw [if_pos hblock] at hpass
        rw [Loop.run_succ_of_done hpass] at hrun
        cases hrun
      · rw [if_neg hblock, if_pos (by omega)] at hpass
        rw [Loop.run_succ_of_next hpass] at hrun
        have hne : array ≠ [] := List.length_pos_iff.mp (by omega)
        have hblen := f.block_le
        obtain ⟨hdvd, hsize, hst⟩ := ih (by omega)
          (by rw [List.length_append, List.length_take, List.length_drop]; omega)
          (by rw [List.length_drop]; omega) hrun
        rw [List.length_drop] at hdvd
        refine ⟨(Nat.dvd_sub_iff_left (by omega) (Nat.dvd_refl _)).mp hdvd, fun _ => ?_, ?_⟩
        · by_cases hlast : array.drop f.block = []
          · rw [List.drop_eq_nil_iff] at hlast
            omega
          · exact hsize hlast
        · rw [hst, copied_step (by omega) hne hdvd]

/-- The loop keeps the frame's header, and leaves bytes unread when it returns early. -/
theorem loop_filling_exit (f : WireFrame type) (msg : List UInt8) (fuel : Nat) {cur : Nat}
    {b array : List UInt8} {x : Exit} (hcur : getHeaderLength type ≤ cur)
    (hb : b.length = f.body.length)
    (hrun : Loop.run (pass e) fuel (filling f msg cur b, array) = some x) :
    ∃ cur' b', b'.length = f.body.length ∧
      (x = .received (filling f msg cur' b') ∨
        (x = .waiting (filling f msg cur' b') ∧ cur' < cur + array.length)) := by
  induction fuel generalizing cur b array with
  | zero => cases hrun
  | succ fuel ih =>
    have hpass := pass_filling (e := e) f msg array hcur hb
    have hpos := getHeaderLength_pos type
    by_cases hshort : array.length < getHeaderLength type
    · rw [if_pos hshort] at hpass
      rw [Loop.run_succ_of_done hpass] at hrun
      exact ⟨cur, b, hb, Or.inl (Option.some.inj hrun).symm⟩
    · by_cases hblock : array.length < f.block
      · rw [if_neg hshort, if_pos hblock] at hpass
        rw [Loop.run_succ_of_done hpass] at hrun
        exact ⟨cur, b, hb, Or.inr ⟨(Option.some.inj hrun).symm, by omega⟩⟩
      · by_cases hless : cur < f.body.length + getHeaderLength type
        · rw [if_neg hshort, if_neg hblock, if_pos hless] at hpass
          rw [Loop.run_succ_of_next hpass] at hrun
          have hblen := f.block_le
          obtain ⟨cur', b', hb', hx⟩ := ih (by omega)
            (by rw [List.length_append, List.length_take, List.length_drop]; omega) hrun
          rw [List.length_drop] at hx
          exact ⟨cur', b', hb', hx.imp_right fun h => ⟨h.1, by omega⟩⟩
        · -- a complete frame and a full array: the pass repeats for ever
          rw [if_neg hshort, if_neg hblock, if_neg hless] at hpass
          rw [Loop.run_eq_none_of_next_self hpass] at hrun
          cases hrun

variable (json text) in
theorem handOn_filling (f : WireFrame type) (msg : List UInt8) {cur : Nat} {b : List UInt8}
    (hb : b.length = f.body.length) (hcur : f.body.length + getHeaderLength type ≤ cur) :
    ∃ st, Boundary type st ∧
      handOn json text (filling f msg cur b) = .ok (st, dispatched json (f.id, b)) := by
  have hslice : slice (f.header ++ b) (getHeaderLength type) f.body.length = b := by
    have := slice_append f.header b [] f.header_length.symm hb.symm
    rwa [List.append_nil] at this
  have hbody : getMsgBody text (filling f msg cur b).buffer = some b := by
    have hnot : ¬ cur < f.body.length + getHeaderLength type := by omega
    simp [getMsgBody, MsgHeader.checkBodyRemaining, filling, hnot, sizeSub_of_le, hslice]
  refine ⟨{ received := ⟨f.id, UInt16.ofNat f.body.length, b⟩,
            buffer := (filling f msg cur b).buffer.clear }, ⟨rfl, rfl⟩, ?_⟩
  unfold handOn
  rw [hbody]
  rfl

theorem handOn_filling_ok {f : WireFrame type} {msg b : List UInt8} {cur : Nat} {st : Retrieve}
    {ms : List Message} (h : handOn json text (filling f msg cur b) = .ok (st, ms)) :
    (filling f msg cur b).buffer.checkBodyRemaining = false := by
  obtain ⟨msg', hmsg, -⟩ := handOn_eq_ok h
  unfold getMsgBody at hmsg
  split at hmsg
  · cases hmsg
  · rename_i hrem
    simpa using hrem

/-- A call that loses no byte of a decoded frame completes it and reads not a byte more. -/
theorem finish_filling (f : WireFrame type) (msg : List UInt8) {fuel cur : Nat}
    {b array : List UInt8} {x : Exit} {st : Retrieve} {ms : List Message}
    (hcur : getHeaderLength type ≤ cur) (hb : b.length = f.body.length)
    (hrun : Loop.run (pass e) fuel (filling f msg cur b, array) = some x)
    (hx : x.finish json text = .ok (st, ms))
    (hall : wireSize type ms + st.buffer.curLength = cur + array.length) :
    cur + array.length = f.body.length + getHeaderLength type ∧ f.block ∣ array.length ∧
      (array ≠ [] → getHeaderLength type ≤ f.block) ∧
      ms = [(f.id, copied f.block b array)] ∧
      json.fromJson (copied f.block b array) = .object ∧ Boundary type st := by
  have hpos := getHeaderLength_pos type
  obtain ⟨cur', b', hb', rfl | ⟨rfl, hlt⟩⟩ := loop_filling_exit f msg fuel hcur hb hrun
  · have hdone := handOn_filling_ok hx
    have hge : f.body.length + getHeaderLength type ≤ cur' := by
      simpa [MsgHeader.checkBodyRemaining, filling] using hdone
    obtain ⟨st₂, hst₂, hon⟩ := handOn_filling json text f msg hb' hge
    obtain ⟨rfl, rfl⟩ := Prod.mk.inj (Except.ok.inj (hx.symm.trans hon))
    rcases dispatched_eq_nil_or json (f.id, b') with hnil | ⟨hone, hobject⟩
    · rw [hnil, wireSize_nil, hst₂.curLength_eq] at hall
      omega
    rw [hone, wireSize_cons, wireSize_nil, hst₂.curLength_eq] at hall
    simp only at hall
    have htotal : cur + array.length = f.body.length + getHeaderLength type := by omega
    obtain ⟨hdvd, hsize, hst⟩ := loop_filling_received f msg fuel hcur hb htotal hrun hdone
    have hcopied : b' = copied f.block b array := by
      have := congrArg (fun st => st.buffer.buffer) hst
      exact List.append_cancel_left this
    rw [hcopied] at hone hobject
    exact ⟨htotal, hdvd, hsize, hcopied ▸ hone, hobject, hst₂⟩
  · obtain ⟨rfl, rfl⟩ := Prod.mk.inj (Except.ok.inj hx)
    rw [wireSize_nil] at hall
    simp only [filling] at hall
    omega

/-- With whole blocks, each as long as a header, the loop does complete the frame. -/
theorem loop_filling_complete (f : WireFrame type) (msg : List UInt8) (cur : Nat)
    (b array : List UInt8) (hcur : getHeaderLength type ≤ cur) (hb : b.length = f.body.length)
    (htotal : cur + array.length = f.body.length + getHeaderLength type)
    (hdvd : f.block ∣ array.length) (hsize : array ≠ [] → getHeaderLength type ≤ f.block) :
    ∃ fuel, Loop.run (pass e) fuel (filling f msg cur b, array) =
      some (.received
        (filling f msg (f.body.length + getHeaderLength type) (copied f.block b array))) := by
  have hpos := getHeaderLength_pos type
  have hpass := pass_filling (e := e) f msg array hcur hb
  by_cases hne : array = []
  · subst hne
    rw [if_pos (by simpa using hpos)] at hpass
    rw [List.length_nil, Nat.add_zero] at htotal
    refine ⟨1, ?_⟩
    rw [Loop.run_succ_of_done hpass, htotal]
    rfl
  · have hblock := hsize hne
    have hle := Nat.le_of_dvd (List.length_pos_iff.mpr hne) hdvd
    have hdvd' : f.block ∣ array.length - f.block :=
      (Nat.dvd_sub_iff_left hle (Nat.dvd_refl _)).mpr hdvd
    rw [if_neg (by omega), if_neg (by omega), if_pos (by omega)] at hpass
    have hblen := f.block_le
    obtain ⟨fuel, hfuel⟩ := loop_filling_complete f msg (cur + f.block)
      (array.take f.block ++ b.drop f.block) (array.drop f.block) (by omega)
      (by rw [List.length_append, List.length_take, List.length_drop]; omega)
      (by rw [List.length_drop]; omega) (by rwa [List.length_drop]) (fun _ => hblock)
    refine ⟨fuel + 1, ?_⟩
    rw [Loop.run_succ_of_next hpass, hfuel, copied_step hle hne hdvd']
termination_by array.length
decreasing_by
  rw [List.length_drop]
  have := List.length_pos_iff.mpr hne
  omega

/-! ## Bodies that survive -/

theorem copied_blank_of_block_eq (f : WireFrame type) (h : f.block = f.body.length) :
    copied f.block f.blank f.body = f.body := by
  unfold copied
  split
  · rename_i hnil
    simp [WireFrame.blank, hnil]
  · simp [h, WireFrame.blank]

/-- A body that does not fit `received._length` ends in zeros after the blocks are copied. -/
theorem dispatches_of_copied {f : WireFrame type}
    (hmsg : f.message = (f.id, copied f.block f.blank f.body))
    (hobject : json.fromJson (copied f.block f.blank f.body) = .object) :
    f.Dispatches json := by
  have hcopied : copied f.block f.blank f.body = f.body := (Prod.mk.inj hmsg).2.symm
  rw [hcopied] at hobject
  refine ⟨?_, hobject⟩
  by_contra hlong
  have hblock : f.block < f.body.length := by
    have hlt : f.block < 2 ^ 16 := Nat.mod_lt _ (by decide)
    omega
  have hne : f.body ≠ [] := List.length_pos_iff.mp (by omega)
  obtain ⟨n, hn⟩ := Nat.exists_eq_add_of_lt hblock
  have hzeros : f.blank.drop f.block = List.replicate n 0 ++ [0] := by
    rw [WireFrame.blank, List.drop_replicate, ← List.replicate_succ']
    congr 1
    omega
  rw [← hcopied, copied, if_neg hne, hzeros, ← List.append_assoc, json.fromJson_nul] at hobject
  cases hobject

/-! ## One call -/

/-- From an empty node, a call that loses nothing reads one whole frame or one header alone. -/
theorem call_boundary (f : WireFrame type) (more : List UInt8) {st st' : Retrieve}
    {chunk : List UInt8} {ms : List Message} (hst : Boundary type st) (hne : chunk ≠ [])
    (hpre : chunk <+: f.bytes ++ more) (hcall : Call json [] e st chunk st' ms)
    (hall : wireSize type ms + st'.buffer.curLength = chunk.length) :
    (chunk = f.bytes ∧ ms = [(f.id, copied f.block f.blank f.body)] ∧ Boundary type st' ∧
        json.fromJson (copied f.block f.blank f.body) = .object) ∨
      (chunk = f.header ∧ f.body ≠ [] ∧ ms = [] ∧
        st' = filling f st.received.msg (getHeaderLength type) f.blank) := by
  obtain ⟨fuel, hcall⟩ := hcall
  obtain ⟨x, hrun, hx⟩ : ∃ x, Loop.run (pass e) fuel (st, chunk) = some x ∧
      x.finish json [] = .ok (st', ms) := by
    rw [readyRead, if_neg hne] at hcall
    exact Option.map_eq_some_iff.mp hcall
  cases fuel with
  | zero => cases hrun
  | succ fuel =>
    by_cases hshort : chunk.length < getHeaderLength type
    · -- not even a header: the loop is skipped and an empty node is taken for a full one
      have hpass : pass e (st, chunk) = .done (.received st) := by
        simp only [pass, hst.type_eq, if_pos hshort]
      rw [Loop.run_succ_of_done hpass] at hrun
      obtain rfl := Option.some.inj hrun
      obtain ⟨hsize, hzero, -⟩ := handOn_account hx
      rw [hst.type_eq, hst.curLength_eq] at hsize
      exact absurd (List.length_eq_zero_iff.mp (by omega)) hne
    · obtain ⟨y, rfl, hy⟩ : ∃ y, chunk = f.header ++ y ∧ y <+: f.body ++ more := by
        rw [WireFrame.bytes, List.append_assoc] at hpre
        obtain ⟨y, rfl⟩ := List.prefix_of_prefix_length_le (List.prefix_append f.header _) hpre
          (by rw [WireFrame.header_length]; omega)
        exact ⟨y, rfl, (List.prefix_append_right_inj _).mp hpre⟩
      have hblen := f.block_le
      have hpass := pass_boundary (e := e) hst f y
      rw [List.length_append, WireFrame.header_length] at hall
      by_cases hblock : y.length < f.block
      · rw [if_pos hblock] at hpass
        rw [Loop.run_succ_of_done hpass] at hrun
        obtain rfl := Option.some.inj hrun
        obtain ⟨rfl, rfl⟩ := Prod.mk.inj (Except.ok.inj hx)
        rw [wireSize_nil] at hall
        simp only [filling] at hall
        obtain rfl : y = [] := List.length_eq_zero_iff.mp (by omega)
        refine Or.inr ⟨List.append_nil _, List.length_pos_iff.mp ?_, rfl, rfl⟩
        rw [List.length_nil] at hblock
        omega
      · have hwhole : y.length = f.body.length → y = f.body := fun hlen =>
          List.IsPrefix.eq_of_length_le ((List.prefix_of_prefix_length_le hy
            (List.prefix_append _ _) (Nat.le_of_eq hlen))) (Nat.le_of_eq hlen.symm)
        refine Or.inl ?_
        by_cases hnil : f.body = []
        · rw [if_neg hblock, if_pos hnil] at hpass
          rw [Loop.run_succ_of_next hpass] at hrun
          obtain ⟨htotal, -, -, hms, hobject, hst'⟩ := finish_filling f st.received.msg
            (Nat.le_refl _) f.blank_length hrun hx hall
          have hzero : f.body.length = 0 := by rw [hnil]; rfl
          obtain rfl := hwhole (by omega)
          exact ⟨rfl, hms, hst', hobject⟩
        · rw [if_neg hblock, if_neg hnil] at hpass
          rw [Loop.run_succ_of_next hpass] at hrun
          obtain ⟨htotal, hdvd, -, hms, hobject, hst'⟩ := finish_filling f st.received.msg
            (Nat.le_add_right ..)
            (by simp only [List.length_append, List.length_take, List.length_drop,
                  WireFrame.blank_length]; omega)
            hrun hx (by rw [List.length_drop]; omega)
          rw [List.length_drop] at htotal hdvd
          obtain rfl := hwhole (by omega)
          rw [copied_step hblen hnil hdvd] at hms hobject
          exact ⟨rfl, hms, hst', hobject⟩

/-- Behind a header, a call that loses nothing reads the body alone. -/
theorem call_filling (f : WireFrame type) (msg more : List UInt8) {st' : Retrieve}
    {chunk : List UInt8} {ms : List Message} (hne : chunk ≠ [])
    (hpre : chunk <+: f.body ++ more)
    (hcall : Call json [] e (filling f msg (getHeaderLength type) f.blank) chunk st' ms)
    (hall : wireSize type ms + st'.buffer.curLength = getHeaderLength type + chunk.length) :
    chunk = f.body ∧ ms = [(f.id, copied f.block f.blank f.body)] ∧ Boundary type st' ∧
      json.fromJson (copied f.block f.blank f.body) = .object ∧
        getHeaderLength type ≤ f.block := by
  obtain ⟨fuel, hcall⟩ := hcall
  rw [readyRead, if_neg hne] at hcall
  obtain ⟨x, hrun, hx⟩ := Option.map_eq_some_iff.mp hcall
  obtain ⟨htotal, -, hsize, hms, hobject, hst'⟩ := finish_filling f msg (Nat.le_refl _)
    f.blank_length hrun hx hall
  obtain rfl : chunk = f.body := List.IsPrefix.eq_of_length_le
    (List.prefix_of_prefix_length_le hpre (List.prefix_append _ _) (by omega)) (by omega)
  exact ⟨rfl, hms, hst', hobject, hsize hne⟩

variable (text) in
/-- What `finish` makes of a loop that ended with the frame of `f` complete. -/
theorem finish_received (f : WireFrame type) (msg : List UInt8) (hs : f.Dispatches json) :
    ∃ st, Boundary type st ∧
      (Exit.received (filling f msg (f.body.length + getHeaderLength type)
        (copied f.block f.blank f.body))).finish json text = .ok (st, [f.message]) := by
  obtain ⟨st, hst, hon⟩ :=
    handOn_filling json text f msg (b := f.body) rfl (Nat.le_refl _)
  refine ⟨st, hst, ?_⟩
  rw [copied_blank_of_block_eq f (WireFrame.block_of_dispatches hs), Exit.finish, hon, dispatched]
  simp only [hs.2]
  rfl

theorem call_whole (f : WireFrame type) (hs : f.Dispatches json) {st : Retrieve}
    (hst : Boundary type st) :
    ∃ st', Boundary type st' ∧ Call json text e st f.bytes st' [f.message] := by
  have hblock := WireFrame.block_of_dispatches hs
  have hdvd : f.block ∣ f.body.length := hblock ▸ Nat.dvd_refl _
  have hsize : f.block ≠ f.body.length → getHeaderLength type ≤ f.block := fun h => absurd hblock h
  obtain ⟨st', hst', hfinish⟩ := finish_received text f st.received.msg hs
  have hpass := pass_boundary (e := e) hst f f.body
  have hlen := f.block_le
  have hne : f.bytes ≠ [] := by
    have hpos := getHeaderLength_pos type
    refine List.length_pos_iff.mp ?_
    rw [WireFrame.bytes, List.length_append, WireFrame.header_length]
    omega
  refine ⟨st', hst', ?_⟩
  obtain ⟨fuel, hfuel⟩ : ∃ fuel, Loop.run (pass e) fuel (st, f.bytes) =
      some (.received (filling f st.received.msg (f.body.length + getHeaderLength type)
        (copied f.block f.blank f.body))) := by
    rw [if_neg (by omega)] at hpass
    by_cases hnil : f.body = []
    · rw [if_pos hnil] at hpass
      obtain ⟨fuel, hfuel⟩ := loop_filling_complete (e := e) f st.received.msg _ _ f.body
        (Nat.le_refl _) f.blank_length (Nat.add_comm ..) hdvd (fun h => absurd hnil h)
      exact ⟨fuel + 1, by rw [WireFrame.bytes, Loop.run_succ_of_next hpass, hfuel]⟩
    · rw [if_neg hnil] at hpass
      have hdvd' : f.block ∣ f.body.length - f.block :=
        (Nat.dvd_sub_iff_left hlen (Nat.dvd_refl _)).mpr hdvd
      obtain ⟨fuel, hfuel⟩ := loop_filling_complete (e := e) f st.received.msg
        (getHeaderLength type + f.block) (f.body.take f.block ++ f.blank.drop f.block)
        (f.body.drop f.block)
        (Nat.le_add_right ..)
        (by simp only [List.length_append, List.length_take, List.length_drop,
              WireFrame.blank_length]; omega)
        (by rw [List.length_drop]; omega) (by rwa [List.length_drop])
        (fun hdrop => hsize fun h => hdrop (List.drop_eq_nil_iff.mpr (by omega)))
      rw [copied_step hlen hnil hdvd'] at hfuel
      exact ⟨fuel + 1, by rw [WireFrame.bytes, Loop.run_succ_of_next hpass, hfuel]⟩
  exact ⟨fuel, by rw [readyRead, if_neg hne, hfuel, Option.map_some, hfinish]⟩

theorem call_header (f : WireFrame type) (hs : f.Dispatches json) {st : Retrieve}
    (hst : Boundary type st) :
    Call json text e st f.header (filling f st.received.msg (getHeaderLength type) f.blank) [] := by
  have hpass := pass_boundary (e := e) hst f []
  have hpos := getHeaderLength_pos type
  have hheader : f.header ≠ [] := List.length_pos_iff.mp (by rwa [WireFrame.header_length])
  have hblock : 0 < f.block := by
    rw [WireFrame.block_of_dispatches hs]
    exact List.length_pos_iff.mpr (WireFrame.body_ne_nil_of_dispatches hs)
  rw [if_pos (by simpa using hblock), List.append_nil] at hpass
  refine ⟨1, ?_⟩
  rw [readyRead, if_neg hheader, Loop.run_succ_of_done hpass]
  rfl

theorem call_body (f : WireFrame type) (hs : f.Dispatches json)
    (hlong : getHeaderLength type ≤ f.body.length) (msg : List UInt8) :
    ∃ st', Boundary type st' ∧
      Call json text e (filling f msg (getHeaderLength type) f.blank) f.body st' [f.message] := by
  have hequal := WireFrame.block_of_dispatches hs
  have hdvd : f.block ∣ f.body.length := hequal ▸ Nat.dvd_refl _
  have hblock : getHeaderLength type ≤ f.block := hequal ▸ hlong
  obtain ⟨st', hst', hfinish⟩ := finish_received text f msg hs
  have hne := WireFrame.body_ne_nil_of_dispatches hs
  obtain ⟨fuel, hfuel⟩ := loop_filling_complete (e := e) f msg _ _ f.body
    (Nat.le_refl _) f.blank_length (Nat.add_comm ..) hdvd (fun _ => hblock)
  exact ⟨st', hst', fuel, by rw [readyRead, if_neg hne, hfuel, Option.map_some, hfinish]⟩

/-! ## Every run of calls -/

/-- Cuts of the byte stream that the handler puts together again: each body is an object, and each
    chunk is a whole frame, or a header alone and the next one the body alone, as long as a header
    at least. -/
inductive WholeCuts (json : JsonReader) : List (WireFrame type) → List (List UInt8) → Prop
  | nil : WholeCuts json [] []
  | whole (f : WireFrame type) {fs : List (WireFrame type)} {chunks : List (List UInt8)} :
      f.Dispatches json → WholeCuts json fs chunks →
        WholeCuts json (f :: fs) (f.bytes :: chunks)
  | halves (f : WireFrame type) {fs : List (WireFrame type)} {chunks : List (List UInt8)} :
      f.Dispatches json → getHeaderLength type ≤ f.body.length → WholeCuts json fs chunks →
        WholeCuts json (f :: fs) (f.header :: f.body :: chunks)

theorem calls_of_wholeCuts {fs : List (WireFrame type)} {chunks : List (List UInt8)}
    (h : WholeCuts json fs chunks) {st : Retrieve} (hst : Boundary type st) :
    ∃ st', Calls json texts e st chunks st' (fs.map WireFrame.message) := by
  induction h generalizing st with
  | nil => exact ⟨st, calls_nil.mpr ⟨rfl, rfl⟩⟩
  | whole f hs _ ih =>
    obtain ⟨st₁, hst₁, hcall⟩ := call_whole f hs hst
    obtain ⟨st', hcalls⟩ := ih hst₁
    exact ⟨st', calls_cons.mpr ⟨st₁, _, _, hcall, hcalls, rfl⟩⟩
  | halves f hs hlong _ ih =>
    obtain ⟨st₂, hst₂, hbody⟩ := call_body f hs hlong st.received.msg
    obtain ⟨st', hcalls⟩ := ih hst₂
    exact ⟨st', calls_cons.mpr ⟨_, _, _, call_header f hs hst,
      calls_cons.mpr ⟨st₂, _, _, hbody, hcalls, rfl⟩, rfl⟩⟩

theorem bytes_ne_nil (f : WireFrame type) : f.bytes ≠ [] := by
  have hpos := getHeaderLength_pos type
  refine List.length_pos_iff.mp ?_
  rw [WireFrame.bytes, List.length_append, WireFrame.header_length]
  omega

/-- Frames that all come out leave no call a byte to lose. -/
theorem call_account_eq {st st₁ st' : Retrieve} {chunk : List UInt8} {chunks : List (List UInt8)}
    {ms₁ ms₂ : List Message} (htype : st.buffer.type = type)
    (hcall : Call json [] e st chunk st₁ ms₁)
    (hcalls : Calls json (fun _ => []) e st₁ chunks st' ms₂)
    (hall : wireSize type (ms₁ ++ ms₂) = st.buffer.curLength + (chunk ++ chunks.flatten).length) :
    wireSize type ms₁ + st₁.buffer.curLength = st.buffer.curLength + chunk.length := by
  obtain ⟨fuel, hread⟩ := hcall
  obtain ⟨hle, htype₁⟩ := readyRead_account hread
  have hrest := calls_account hcalls
  rw [htype₁] at hrest
  rw [htype] at hle hrest
  rw [wireSize_append, List.length_append] at hall
  omega

theorem wholeCuts_of_calls {fs : List (WireFrame type)} {chunks : List (List UInt8)}
    {st st' : Retrieve} (hst : Boundary type st) (hne : ∀ chunk ∈ chunks, chunk ≠ [])
    (hflat : chunks.flatten = wire fs)
    (h : Calls json (fun _ => []) e st chunks st' (fs.map WireFrame.message)) :
    WholeCuts json fs chunks := by
  induction fs generalizing chunks st with
  | nil =>
    cases chunks with
    | nil => exact .nil
    | cons chunk chunks =>
      exact absurd (List.append_eq_nil_iff.mp hflat).1 (hne chunk List.mem_cons_self)
  | cons f fs ih =>
    rw [wire_cons] at hflat
    cases chunks with
    | nil => exact absurd (List.append_eq_nil_iff.mp hflat.symm).1 (bytes_ne_nil f)
    | cons chunk chunks =>
      rw [List.flatten_cons] at hflat
      have hsize := wireSize_message (f :: fs)
      rw [wire_cons, ← hflat] at hsize
      obtain ⟨st₁, ms₁, ms₂, hcall, hcalls, hms⟩ := calls_cons.mp h
      obtain ⟨hchunk, hchunks⟩ := List.forall_mem_cons.mp hne
      have hall := call_account_eq hst.type_eq hcall hcalls (by
        rw [← hms, hsize, hst.curLength_eq, Nat.zero_add])
      rw [hst.curLength_eq, Nat.zero_add] at hall
      rw [List.map_cons] at hms
      rcases call_boundary f (wire fs) hst hchunk (hflat ▸ List.prefix_append _ _) hcall hall with
        ⟨rfl, rfl, hst₁, hobject⟩ | ⟨rfl, hbody, rfl, rfl⟩
      · rw [List.singleton_append] at hms
        obtain ⟨hmsg, htail⟩ := List.cons.inj hms
        exact .whole f (dispatches_of_copied hmsg hobject)
          (ih hst₁ hchunks (List.append_cancel_left hflat) (htail ▸ hcalls))
      · rw [WireFrame.bytes, List.append_assoc] at hflat
        replace hflat := List.append_cancel_left hflat
        rw [List.nil_append] at hms
        cases chunks with
        | nil => exact absurd (List.append_eq_nil_iff.mp hflat.symm).1 hbody
        | cons chunk chunks =>
          rw [List.flatten_cons] at hflat hsize
          rw [← hms] at hcalls
          obtain ⟨st₂, ms₂, ms₃, hcall₂, hcalls₂, hms₂⟩ := calls_cons.mp hcalls
          obtain ⟨hchunk₂, hchunks₂⟩ := List.forall_mem_cons.mp hchunks
          have htype : (filling f st.received.msg (getHeaderLength type) f.blank).buffer.type =
            type := rfl
          have hall₂ := call_account_eq htype hcall₂ hcalls₂ (by
            rw [← hms₂, ← List.map_cons, hsize, List.length_append, WireFrame.header_length]
            rfl)
          obtain ⟨rfl, rfl, hst₂, hobject, hblock⟩ := call_filling f st.received.msg (wire fs) hchunk₂
            (hflat ▸ List.prefix_append _ _) hcall₂ hall₂
          rw [List.singleton_append] at hms₂
          obtain ⟨hmsg, htail⟩ := List.cons.inj hms₂
          exact .halves f (dispatches_of_copied hmsg hobject)
            (Nat.le_trans hblock f.block_le)
            (ih hst₂ hchunks₂ (List.append_cancel_left hflat) (htail ▸ hcalls₂))

/-- However the frames' bytes are cut into chunks, the handler puts them together again exactly
    when every body is an object and every non-empty chunk is a whole frame, or a header alone
    followed by its body alone. -/
theorem reassembles_iff_wholeCuts (json : JsonReader) (e : Endian) (type : MsgNodeType)
    (fs : List (WireFrame type)) (chunks : List (List UInt8)) (hflat : chunks.flatten = wire fs) :
    Reassembles json e type chunks (fs.map WireFrame.message) ↔
      WholeCuts json fs (chunks.filter (· ≠ [])) := by
  have hswap (texts : Nat → List UInt8) :
      (∃ fuel st, readyReads json texts e fuel (Retrieve.init type) chunks =
        some (.ok (st, fs.map WireFrame.message))) ↔
        ∃ st', Calls json texts e (Retrieve.init type) (chunks.filter (· ≠ [])) st'
          (fs.map WireFrame.message) := by
    simp only [← calls_filter]
    exact exists_comm
  simp only [Reassembles, hswap]
  constructor
  · intro hcalls
    obtain ⟨st', hcalls⟩ := hcalls fun _ => []
    refine wholeCuts_of_calls (boundary_init type) (fun chunk hmem => ?_) ?_ hcalls
    · simpa using (List.mem_filter.mp hmem).2
    · rw [← hflat]
      exact List.flatten_filter_ne_nil
  · intro hcuts texts
    exact calls_of_wholeCuts hcuts (boundary_init type)

/-- A reader of the two bytes `{}`. -/
def braces : JsonReader where
  fromJson text := if text = [123, 125] then .object else .null
  fromJson_nil := rfl
  fromJson_nul text := by
    refine if_neg fun heq => ?_
    have hlast := congrArg List.getLast? heq
    simp at hlast

theorem reassembles_two_whole_frames :
    Reassembles braces .little .msgnodeNormal [[0, 6, 0, 6, 123, 125], [0, 8, 0, 6, 123, 125]]
      [(6, [123, 125]), (8, [123, 125])] := by
  have hcuts : WholeCuts braces [(⟨6, [123, 125], by decide⟩ : WireFrame .msgnodeNormal), _] _ :=
    .whole _ ⟨by decide, rfl⟩
      (.whole (⟨8, [123, 125], by decide⟩ : WireFrame .msgnodeNormal) ⟨by decide, rfl⟩ .nil)
  have hchunks : [[0, 6, 0, 6, 123, 125], [0, 8, 0, 6, 123, 125]].filter (· ≠ []) =
      [(⟨6, [123, 125], by decide⟩ : WireFrame .msgnodeNormal).bytes,
        (⟨8, [123, 125], by decide⟩ : WireFrame .msgnodeNormal).bytes] := by decide
  rw [← hchunks] at hcuts
  exact (reassembles_iff_wholeCuts braces .little .msgnodeNormal _ _ (by decide)).mpr hcuts

/-- Two frames in one chunk: the first is complete, the second is longer than a header, and the
    loop finds nothing left to do for ever. -/
theorem not_reassembles_coalesced :
    let a := (sendNode .little 6 [123, 125] .msgnodeNormal).buffer
    let b := (sendNode .little 8 [123, 125] .msgnodeNormal).buffer
    ¬ Reassembles braces .little .msgnodeNormal [a ++ b] [(6, [123, 125]), (8, [123, 125])] := by
  intro a b hall
  obtain ⟨fuel, st, h⟩ := hall fun _ => []
  obtain ⟨st₁, ms₁, ms₂, hcall, -, -⟩ := readyReads_cons_ok.mp h
  have hstuck : pass .little
      ({ received := ⟨6, 2, []⟩,
         buffer := ⟨6, 6, 6, [0, 6, 0, 6, 123, 125], .msgnodeNormal⟩ }, b) = .next
      ({ received := ⟨6, 2, []⟩,
         buffer := ⟨6, 6, 6, [0, 6, 0, 6, 123, 125], .msgnodeNormal⟩ }, b) := by decide
  cases fuel with
  | zero => cases hcall
  | succ fuel =>
    have hfirst : readyRead braces [] .little (fuel + 1) (Retrieve.init .msgnodeNormal) (a ++ b) =
        none := by
      have hstep : pass .little (Retrieve.init .msgnodeNormal, a ++ b) = .next
          ({ received := ⟨6, 2, []⟩,
             buffer := ⟨6, 6, 6, [0, 6, 0, 6, 123, 125], .msgnodeNormal⟩ }, b) := by decide
      rw [readyRead, if_neg (by decide), Loop.run_succ_of_next hstep,
        Loop.run_eq_none_of_next_self hstuck]
      rfl
    rw [hfirst] at hcall
    cases hcall

end DistributedIM.Client
