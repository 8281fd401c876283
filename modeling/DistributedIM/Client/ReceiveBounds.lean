/-
  What the `readyRead` handlers do to memory and to lengths, whatever the server sends and however
  it is cut into chunks.

  `Visited` are the states in which the inner loop is entered, over all calls until one of them
  faults or does not end. `passMemcpy` is the `memcpy` of a pass, `passWaits` the declared length
  and the number of body bytes it waits for. A copy only happens while the node is not full, and
  `received._length` is then at most what the buffer was resized to: `memcpy_inBounds` needs no
  assumption about the stream. The number of bytes waited for is right exactly as long as every
  decoded header declares at least itself and a body of less than `2 ^ 16` bytes
  (`receivesInBounds_iff`).
-/
import DistributedIM.Client.Reassembly

namespace DistributedIM.Client

open Bytes DistributedIM.Buffer

variable {e : Endian} {type : MsgNodeType} {json : JsonReader}

/-! ## What a pass copies and waits for -/

/-- A `memcpy` of `size` bytes to position `offset` of a buffer of `room` bytes, from an array that
    holds `available` bytes. -/
structure Memcpy where
  offset : Nat
  size : Nat
  room : Nat
  available : Nat
  deriving DecidableEq, Repr

def Memcpy.InBounds (m : Memcpy) : Prop :=
  m.offset + m.size ≤ m.room ∧ m.size ≤ m.available

/-- The `memcpy` of a pass, if it comes to one. -/
def passMemcpy (e : Endian) : Retrieve × List UInt8 → Option Memcpy
  | (st, array) =>
    if array.length < getHeaderLength st.buffer.type then none
    else
      match takeHeader e st array with
      | .error _ => none
      | .ok (st, array) =>
        if array.length < st.received.length.toNat then none
        else if st.buffer.checkBodyRemaining then
          some { offset := getHeaderLength st.buffer.type, size := st.received.length.toNat,
                 room := st.buffer.buffer.length, available := array.length }
        else none

/-- The declared length, and the number of body bytes a pass compares the array with. -/
def passWaits (e : Endian) : Retrieve × List UInt8 → Option (Nat × Nat)
  | (st, array) =>
    if array.length < getHeaderLength st.buffer.type then none
    else
      match takeHeader e st array with
      | .error _ => none
      | .ok (st, _) => some (st.buffer.length, st.received.length.toNat)

/-- The states of the inner loop at the beginning of a pass, over one call for each chunk, whatever
    lies behind the buffer. -/
inductive Visited (json : JsonReader) (e : Endian) :
    Retrieve → List (List UInt8) → Retrieve × List UInt8 → Prop
  | enter {st : Retrieve} {chunk : List UInt8} (chunks : List (List UInt8)) :
      chunk ≠ [] → Visited json e st (chunk :: chunks) (st, chunk)
  | pass {st : Retrieve} {chunks : List (List UInt8)} {s s' : Retrieve × List UInt8} :
      Visited json e st chunks s → Client.pass e s = .next s' → Visited json e st chunks s'
  | later {st st' : Retrieve} {chunk text : List UInt8} {chunks : List (List UInt8)}
      {ms : List Message} {s : Retrieve × List UInt8} :
      Call json text e st chunk st' ms → Visited json e st' chunks s →
        Visited json e st (chunk :: chunks) s

/-- Every copy stays within the buffer and the array, and the number of body bytes waited for is
    the declared length less the header. The difference is one of integers: a length shorter than
    its header is not made a body length by wrapping around. -/
def ReceivesInBounds (json : JsonReader) (e : Endian) (type : MsgNodeType)
    (chunks : List (List UInt8)) : Prop :=
  ∀ s, Visited json e (Retrieve.init type) chunks s →
    (∀ m ∈ passMemcpy e s, m.InBounds) ∧
      ∀ w ∈ passWaits e s, (w.2 : Int) = w.1 - getHeaderLength type

/-- The header a pass decodes, if it decodes one, declares at least itself, and a body that
    `received._length` can hold. -/
def DeclaredFits (type : MsgNodeType) (s : Retrieve × List UInt8) : Prop :=
  let declared := ofBE (slice s.2 2 (lengthWidth type))
  s.1.buffer.checkHeaderRemaining = true → getHeaderLength type ≤ s.2.length →
    getHeaderLength type ≤ declared ∧ declared - getHeaderLength type < 2 ^ 16

/-! ## The invariant -/

/-- Once a header is decoded, the buffer has the declared length and `received._length` the rest
    of it modulo `2 ^ 16`. -/
structure Linked (type : MsgNodeType) (st : Retrieve) : Prop where
  type_eq : st.buffer.type = type
  buffer_length : getHeaderLength type ≤ st.buffer.curLength →
    st.buffer.buffer.length = st.buffer.length
  received_length : getHeaderLength type ≤ st.buffer.curLength →
    st.received.length.toNat = sizeSub st.buffer.length (getHeaderLength type) % 2 ^ 16

/-- The decoded header fits. -/
def LengthFits (type : MsgNodeType) (st : Retrieve) : Prop :=
  getHeaderLength type ≤ st.buffer.curLength →
    getHeaderLength type ≤ st.buffer.length ∧
      st.buffer.length - getHeaderLength type < 2 ^ 16

/-- The invariant of the loop; `C` is what the second half rests on. -/
def Sound (type : MsgNodeType) (C : Prop) (st : Retrieve) : Prop :=
  Linked type st ∧ (C → LengthFits type st)

theorem sound_of_curLength {C : Prop} {st : Retrieve} (htype : st.buffer.type = type)
    (hcur : st.buffer.curLength = 0) : Sound type C st := by
  have hpos := getHeaderLength_pos type
  have hnot : ¬ getHeaderLength type ≤ st.buffer.curLength := by omega
  exact ⟨⟨htype, fun h => absurd h hnot, fun h => absurd h hnot⟩, fun _ h => absurd h hnot⟩

/-! ## One pass -/

theorem header_decoded {st : Retrieve} (htype : st.buffer.type = type)
    (h : ¬ st.buffer.checkHeaderRemaining = true) :
    getHeaderLength type ≤ st.buffer.curLength := by
  simpa [MsgHeader.checkHeaderRemaining, htype] using h

theorem takeHeader_sound {C : Prop} {st : Retrieve} {array : List UInt8} (hst : Sound type C st)
    (hC : C → DeclaredFits type (st, array)) (hlong : getHeaderLength type ≤ array.length) :
    ∃ st' array', takeHeader e st array = .ok (st', array') ∧ Sound type C st' ∧
      getHeaderLength type ≤ st'.buffer.curLength := by
  have htype := hst.1.type_eq
  by_cases hremain : st.buffer.checkHeaderRemaining = true
  · obtain ⟨id, len, rest, rfl, hid, hlen⟩ := exists_fields hlong
    have hslice : slice (id ++ (len ++ rest)) 2 (lengthWidth type) = len :=
      slice_append id len rest hid.symm hlen.symm
    refine ⟨_, rest, takeHeader_fields htype hremain hid hlen, ⟨⟨rfl, ?_, ?_⟩, ?_⟩,
      Nat.le_add_left ..⟩
    · intro _
      exact resize_length ..
    · intro _
      exact UInt16.toNat_ofNat'
    · intro c _
      have hfits := hC c hremain hlong
      rwa [hslice] at hfits
  · exact ⟨st, array, if_neg hremain, hst, header_decoded htype hremain⟩

/-- While the node is not full, the body bytes waited for fit the buffer. -/
theorem Linked.body_le {st : Retrieve} (hst : Linked type st)
    (hcur : getHeaderLength type ≤ st.buffer.curLength)
    (hremain : st.buffer.checkBodyRemaining = true) :
    getHeaderLength type + st.received.length.toNat ≤ st.buffer.buffer.length := by
  have hless : st.buffer.curLength < st.buffer.length := by
    simpa [MsgHeader.checkBodyRemaining] using hremain
  have hmod := Nat.mod_le (st.buffer.length - getHeaderLength type) (2 ^ 16)
  rw [hst.buffer_length hcur, hst.received_length hcur, sizeSub_of_le (by omega)]
  omega

theorem takeBody_sound {C : Prop} {st : Retrieve} {array : List UInt8} (hst : Sound type C st)
    (hcur : getHeaderLength type ≤ st.buffer.curLength)
    (harray : st.received.length.toNat ≤ array.length) :
    ∃ st' array', takeBody st array = .ok (st', array') ∧ Sound type C st' := by
  obtain ⟨hlinked, hfits⟩ := hst
  obtain rfl := hlinked.type_eq
  by_cases hremain : st.buffer.checkBodyRemaining = true
  · have htake : (array.take st.received.length.toNat).length = st.received.length.toNat := by
      rw [List.length_take]
      omega
    have hle : getHeaderLength st.buffer.type + (array.take st.received.length.toNat).length ≤
        st.buffer.buffer.length := by
      rw [htake]
      exact hlinked.body_le hcur hremain
    have hcopy : takeBody st array = .ok
        ({ st with
           buffer := { st.buffer with
             curLength := st.buffer.curLength + st.received.length.toNat
             buffer := overwrite st.buffer.buffer (getHeaderLength st.buffer.type)
               (array.take st.received.length.toNat) } },
          array.drop st.received.length.toNat) := by
      simp only [takeBody, if_pos hremain, MsgHeader.receiveAt, if_pos hle]
      rfl
    refine ⟨_, _, hcopy, ⟨rfl, fun _ => ?_, fun _ => ?_⟩, fun c _ => ?_⟩
    · exact (overwrite_length hle).trans (hlinked.buffer_length hcur)
    · exact hlinked.received_length hcur
    · exact hfits c hcur
  · exact ⟨st, array, if_neg hremain, hlinked, hfits⟩

/-- What every state the loop is left in satisfies. -/
def Exit.Keeps (P : Retrieve → Prop) : Exit → Prop
  | .waiting st => P st
  | .received st => P st
  | .fault _ => False

/-- A pass keeps the invariant and does not fault. -/
theorem pass_sound {C : Prop} {s : Retrieve × List UInt8} (hs : Sound type C s.1)
    (hC : C → DeclaredFits type s) :
    match pass e s with
    | .next s' => Sound type C s'.1
    | .done x => x.Keeps (Sound type C) := by
  obtain ⟨st, array⟩ := s
  have htype : st.buffer.type = type := hs.1.type_eq
  by_cases hshort : array.length < getHeaderLength st.buffer.type
  · simp only [pass, if_pos hshort]
    exact hs
  · obtain ⟨st₁, array₁, hhead, hst₁, hcur₁⟩ :=
      takeHeader_sound (e := e) hs hC (by rw [← htype]; omega)
    by_cases hbody : array₁.length < st₁.received.length.toNat
    · simp only [pass, if_neg hshort, hhead, if_pos hbody]
      exact hst₁
    · obtain ⟨st₂, array₂, hcopy, hst₂⟩ := takeBody_sound hst₁ hcur₁ (Nat.le_of_not_lt hbody)
      simp only [pass, if_neg hshort, hhead, if_neg hbody, hcopy]
      exact hst₂

/-! ## Every call -/

theorem loop_sound {C : Prop} {st : Retrieve} {chunk : List UInt8}
    {chunks : List (List UInt8)} (hst : Sound type C st) (hchunk : chunk ≠ [])
    (hC : C → ∀ s, Visited json e st (chunk :: chunks) s → DeclaredFits type s) {fuel : Nat} {x : Exit}
    (h : Loop.run (pass e) fuel (st, chunk) = some x) : x.Keeps (Sound type C) := by
  refine Loop.run_invariant
    (P := fun s => Visited json e st (chunk :: chunks) s ∧ Sound type C s.1) ?_ ?_
    ⟨.enter chunks hchunk, hst⟩ h
  · rintro s s' ⟨hvisited, hs⟩ hnext
    have hpass := pass_sound (e := e) hs fun c => hC c s hvisited
    rw [hnext] at hpass
    exact ⟨.pass hvisited hnext, hpass⟩
  · rintro s x ⟨hvisited, hs⟩ hdone
    have hpass := pass_sound (e := e) hs fun c => hC c s hvisited
    rwa [hdone] at hpass

theorem call_sound {C : Prop} {st st' : Retrieve} {chunk text : List UInt8}
    {chunks : List (List UInt8)} {ms : List Message} (hst : Sound type C st)
    (hC : C → ∀ s, Visited json e st (chunk :: chunks) s → DeclaredFits type s)
    (h : Call json text e st chunk st' ms) : Sound type C st' := by
  obtain ⟨fuel, h⟩ := h
  unfold readyRead at h
  split at h
  · obtain ⟨rfl, -⟩ := Prod.mk.inj (Except.ok.inj (Option.some.inj h))
    exact hst
  · rename_i hchunk
    obtain ⟨x, hrun, hx⟩ := Option.map_eq_some_iff.mp h
    have hkeeps := loop_sound hst hchunk hC hrun
    cases x with
    | fault f => cases hx
    | waiting st₁ =>
      obtain ⟨rfl, -⟩ := Prod.mk.inj (Except.ok.inj hx)
      exact hkeeps
    | received st₁ =>
      obtain ⟨-, -, -, hzero, htype⟩ := handOn_eq_ok hx
      exact sound_of_curLength (htype.trans hkeeps.1.type_eq) hzero

theorem visited_sound {C : Prop} {st : Retrieve} {chunks : List (List UInt8)}
    {s : Retrieve × List UInt8} (hst : Sound type C st)
    (hC : C → ∀ s, Visited json e st chunks s → DeclaredFits type s) (h : Visited json e st chunks s) :
    Sound type C s.1 := by
  induction h with
  | enter chunks hchunk => exact hst
  | pass hvisited hnext ih =>
    have hpass := pass_sound (e := e) (ih hst hC) fun c => hC c _ hvisited
    rwa [hnext] at hpass
  | later hcall _ ih =>
    exact ih (call_sound hst hC hcall) fun c s hs => hC c s (.later hcall hs)

/-! ## Every byte stream -/

/-- What needs no assumption about the stream. -/
theorem sound_of_visited {chunks : List (List UInt8)} {s : Retrieve × List UInt8}
    (h : Visited json e (Retrieve.init type) chunks s) : Sound type False s.1 :=
  visited_sound (sound_of_curLength rfl rfl) (fun c => c.elim) h

/-- Whatever arrives, and however it is cut, no copy leaves the buffer or the array. -/
theorem memcpy_inBounds {chunks : List (List UInt8)} {s : Retrieve × List UInt8}
    (h : Visited json e (Retrieve.init type) chunks s) : ∀ m ∈ passMemcpy e s, m.InBounds := by
  have hs := sound_of_visited h
  obtain ⟨st, array⟩ := s
  have htype : st.buffer.type = type := hs.1.type_eq
  intro m hm
  by_cases hshort : array.length < getHeaderLength st.buffer.type
  · simp only [passMemcpy, if_pos hshort] at hm
    cases hm
  · have hlong : getHeaderLength type ≤ array.length := by
      rw [← htype]
      omega
    obtain ⟨st₁, array₁, hhead, hst₁, hcur₁⟩ :=
      takeHeader_sound (e := e) hs (fun c => c.elim) hlong
    simp only [passMemcpy, if_neg hshort, hhead] at hm
    by_cases hbody : array₁.length < st₁.received.length.toNat
    · rw [if_pos hbody] at hm
      cases hm
    · rw [if_neg hbody] at hm
      by_cases hremain : st₁.buffer.checkBodyRemaining = true
      · rw [if_pos hremain] at hm
        obtain rfl := Option.some.inj hm
        have hle := hst₁.1.body_le hcur₁ hremain
        rw [← hst₁.1.type_eq] at hle
        exact ⟨hle, Nat.le_of_not_lt hbody⟩
      · rw [if_neg hremain] at hm
        cases hm

/-- What a pass waits for right after a header has been decoded. -/
theorem passWaits_of_header {st : Retrieve} {array : List UInt8} (htype : st.buffer.type = type)
    (hremain : st.buffer.checkHeaderRemaining = true)
    (hlong : getHeaderLength type ≤ array.length) :
    let declared := ofBE (slice array 2 (lengthWidth type))
    passWaits e (st, array) =
      some (declared, sizeSub declared (getHeaderLength type) % 2 ^ 16) := by
  obtain ⟨id, len, rest, rfl, hid, hlen⟩ := exists_fields hlong
  have hslice : slice (id ++ (len ++ rest)) 2 (lengthWidth type) = len :=
    slice_append id len rest hid.symm hlen.symm
  have hnot : ¬ (id ++ (len ++ rest)).length < getHeaderLength st.buffer.type := by
    rw [htype]
    omega
  simp only [passWaits, if_neg hnot, takeHeader_fields htype hremain hid hlen, hslice,
    UInt16.toNat_ofNat']

theorem declaredFits_of_waits {s : Retrieve × List UInt8} (htype : s.1.buffer.type = type)
    (h : ∀ w ∈ passWaits e s, (w.2 : Int) = w.1 - getHeaderLength type) :
    DeclaredFits type s := by
  intro hremain hlong
  have hwaits := h _ (passWaits_of_header (e := e) htype hremain hlong)
  generalize ofBE (slice s.2 2 (lengthWidth type)) = declared at hwaits ⊢
  simp only at hwaits
  have hlt : sizeSub declared (getHeaderLength type) % 2 ^ 16 < 2 ^ 16 :=
    Nat.mod_lt _ (by decide)
  omega

theorem waits_of_sound {C : Prop} {s : Retrieve × List UInt8} (hs : Sound type C s.1) (c : C)
    (hC : C → DeclaredFits type s) :
    ∀ w ∈ passWaits e s, (w.2 : Int) = w.1 - getHeaderLength type := by
  obtain ⟨st, array⟩ := s
  have htype : st.buffer.type = type := hs.1.type_eq
  intro w hw
  by_cases hshort : array.length < getHeaderLength st.buffer.type
  · simp only [passWaits, if_pos hshort] at hw
    cases hw
  · have hlong : getHeaderLength type ≤ array.length := by
      rw [← htype]
      omega
    obtain ⟨st₁, array₁, hhead, ⟨hlinked, hfits⟩, hcur₁⟩ := takeHeader_sound (e := e) hs hC hlong
    simp only [passWaits, if_neg hshort, hhead] at hw
    obtain rfl := Option.some.inj hw
    obtain ⟨hle, hlt⟩ := hfits c hcur₁
    simp only [hlinked.received_length hcur₁, sizeSub_of_le hle, Nat.mod_eq_of_lt hlt]
    omega

/-- Over every sequence of chunks, the handlers stay within their bounds and wait for the right
    number of bytes exactly as long as every header they decode fits. -/
theorem receivesInBounds_iff (json : JsonReader) (e : Endian) (type : MsgNodeType)
    (chunks : List (List UInt8)) :
    ReceivesInBounds json e type chunks ↔
      ∀ s, Visited json e (Retrieve.init type) chunks s → DeclaredFits type s := by
  constructor
  · intro hbounds s hs
    exact declaredFits_of_waits (sound_of_visited hs).1.type_eq (hbounds s hs).2
  · intro hfits s hs
    have hsound : Sound type True s.1 :=
      visited_sound (sound_of_curLength rfl rfl) (fun _ => hfits) hs
    exact ⟨memcpy_inBounds hs, waits_of_sound hsound trivial fun _ => hfits s hs⟩

/-- A frame that declares length 3 makes the handler wait for 65535 bytes. -/
theorem not_receivesInBounds_short :
    ¬ ReceivesInBounds braces .little .msgnodeNormal [[0, 6, 0, 3]] := by
  intro hbounds
  have hs : Visited braces .little (Retrieve.init .msgnodeNormal) [[0, 6, 0, 3]]
      (Retrieve.init .msgnodeNormal, [0, 6, 0, 3]) := .enter [] (by decide)
  have hwaits : passWaits .little (Retrieve.init .msgnodeNormal, [0, 6, 0, 3]) =
      some (3, 65535) := by decide
  have hwrong := (hbounds _ hs).2 _ hwaits
  exact absurd hwrong (by decide)

/-- A byte alone is dropped with what lies behind the empty buffer, and the next frame is read. -/
example : ¬ ReceivesInBounds braces .little .msgnodeNormal [[0, 6, 0, 4], [0], [0, 6, 0, 3]] := by
  intro hbounds
  let st : Retrieve := ⟨⟨6, 0, []⟩, ⟨6, 0, 0, [], .msgnodeNormal⟩⟩
  have hempty : Call braces [] .little (Retrieve.init .msgnodeNormal) [0, 6, 0, 4] st [] := ⟨2, rfl⟩
  have hbyte : Call braces [] .little st [0] st [] := ⟨1, rfl⟩
  have hs := Visited.later hempty (.later hbyte (.enter [] (List.cons_ne_nil 0 [6, 0, 3])))
  have hwrong := (hbounds _ hs).2 (3, 65535) (by decide)
  exact absurd hwrong (by decide)

end DistributedIM.Client
