/-
  `ChattingMessageBuffer.hpp` over the records of `ChattingThreadDef.hpp`: one list of messages,
  an index of the local ones by unique id, an index of the verified ones by message id.

  A stored message is changed in place through its `shared_ptr`; here a node owns its record.
  `MessagePointers` has the pointers, and does the same (`always_byValue`).

  `RepInv` is the representation invariant. `runs_keep_iff_runs_safe`: in every run, every
  operation keeps it and leaves the buffer alone when it returns false exactly when no operation
  of the run is one of two kinds (`Safe`): an update of a local message to an id that is already
  verified, which the inverted test lets through to the mutation, and the insertion of a verified
  message whose id has white space around it, which is indexed under the trimmed id.

  Not modelled: `m_lastFetchedMsgId` of the buffer has no reader; it is kept for the record.
  Null pointers are not messages.
-/
import DistributedIM.Lib.NodeList
import DistributedIM.Lib.Text
import DistributedIM.Lib.Trace

namespace DistributedIM.Client

open Text (trimmed)

/-! ## Messages -/

/-- `MsgType`. -/
inductive MsgType
  | default
  | text
  | image
  | file
  | audio
  | video
  deriving DecidableEq, Repr

/-- `ChattingRecordBase` with the id and the content its subclasses add. -/
structure ChattingRecord where
  type : MsgType
  senderUuid : String
  receiverUuid : String
  status : Bool
  uniqueId : String
  msgId : String
  msgContent : String
  deriving DecidableEq, Repr

namespace ChattingRecord

def isOnLocal (m : ChattingRecord) : Bool :=
  !m.status

def getMsgID (m : ChattingRecord) : Option String :=
  if m.isOnLocal then none else some m.msgId

/-- A message with a server id is a verified one. -/
def setMsgID (m : ChattingRecord) (value : String) : ChattingRecord :=
  { m with msgId := value, status := true }

end ChattingRecord

/-! ## The buffer -/

/-- `MessageBuffer`; an iterator is the identity of its node. -/
structure MessageBuffer where
  messages : NodeList ChattingRecord
  localMsgIndex : String → Option Nat
  verifyMessage : String → Option Nat
  lastFetchedMsgId : String

namespace MessageBuffer

def empty : MessageBuffer where
  messages := .empty
  localMsgIndex := fun _ => none
  verifyMessage := fun _ => none
  lastFetchedMsgId := ""

/-- `updateVerificationStatus`. -/
def updateVerificationStatus (b : MessageBuffer) (uniqueId msgId : String) :
    Bool × MessageBuffer :=
  if msgId = "" ∨ uniqueId = "" then (false, b)
  else
    match b.localMsgIndex uniqueId with
    | none => (false, b)
    | some node =>
      -- `if (!m_verifyMessage.count(msg_id)) return false`
      match b.verifyMessage msgId with
      | none => (false, b)
      | some _ =>
        let messages := b.messages.modify node (·.setMsgID msgId)
        -- `try_emplace` keeps an entry that is there
        match b.verifyMessage msgId with
        | some _ => (false, { b with messages := messages })
        | none =>
          (true, { b with
            messages := messages
            verifyMessage := Function.update b.verifyMessage msgId (some node)
            localMsgIndex := Function.update b.localMsgIndex uniqueId none })

/-- `insertLocal`. -/
def insertLocal (b : MessageBuffer) (uniqueId : String) (node : Nat) : Bool × MessageBuffer :=
  if uniqueId = "" then (false, b)
  else
    match b.localMsgIndex uniqueId with
    | some _ => (false, b)
    | none => (true, { b with localMsgIndex := Function.update b.localMsgIndex uniqueId (some node) })

/-- `insertVerified`. -/
def insertVerified (b : MessageBuffer) (value : ChattingRecord) (node : Nat) :
    Bool × MessageBuffer :=
  match value.getMsgID with
  | none => (false, b)
  | some msgId =>
    if trimmed msgId = "" then (false, b)
    else
      match b.verifyMessage (trimmed msgId) with
      | some _ => (false, b)
      | none =>
        (true, { b with
          verifyMessage := Function.update b.verifyMessage (trimmed msgId) (some node)
          lastFetchedMsgId := msgId })

/-- `insertMessage`: the message goes to the end of the list, and is taken off again when the
    index refuses it. -/
def insertMessage (b : MessageBuffer) (value : ChattingRecord) : Bool × MessageBuffer :=
  let node := b.messages.next
  let b := { b with messages := b.messages.pushBack value }
  let r := if value.isOnLocal then b.insertLocal value.uniqueId node
    else b.insertVerified value node
  if r.1 then (true, r.2) else (false, { r.2 with messages := r.2.messages.erase node })

def clear (_ : MessageBuffer) : MessageBuffer := empty

/-- `dumpAllChatData`. -/
def dumpAllChatData (b : MessageBuffer) : List ChattingRecord :=
  b.messages.values

/-- A public operation. -/
inductive Op
  | insertMessage (value : ChattingRecord)
  | updateVerificationStatus (uniqueId msgId : String)
  | clear
  deriving DecidableEq, Repr

/-- What an operation returns and leaves behind; `clear` cannot fail. -/
def apply (b : MessageBuffer) : Op → Bool × MessageBuffer
  | .insertMessage value => b.insertMessage value
  | .updateVerificationStatus uniqueId msgId => b.updateVerificationStatus uniqueId msgId
  | .clear => (true, b.clear)

def step (b : MessageBuffer) (op : Op) : Option MessageBuffer :=
  some (b.apply op).2

/-! ## Representation -/

/-- Where a message is to be found. -/
inductive Key
  | onLocal (uniqueId : String)
  | verified (msgId : String)
  deriving DecidableEq, Repr

/-- A local message is found by its unique id, a verified one by its message id. -/
def keyOf (m : ChattingRecord) : Key :=
  if m.isOnLocal then .onLocal m.uniqueId else .verified m.msgId

/-- The two indices as one. -/
def index (b : MessageBuffer) : Key → Option Nat
  | .onLocal uniqueId => b.localMsgIndex uniqueId
  | .verified msgId => b.verifyMessage msgId

/-- Every message is indexed once, under its own id, and every entry points to a message. -/
def RepInv (b : MessageBuffer) : Prop :=
  NodeList.Coupled keyOf b.messages b.index

/-- The operation keeps the representation, and has changed nothing if it returns false. -/
def Keeps (b : MessageBuffer) (op : Op) : Prop :=
  (b.apply op).2.RepInv ∧
    ((b.apply op).1 = false →
      (b.apply op).2.messages.nodes = b.messages.nodes ∧ (b.apply op).2.index = b.index)

/-- The operation is neither an update to a message id that is verified already, nor the
    insertion of a verified message under an id with white space around it. -/
def Safe (b : MessageBuffer) : Op → Prop
  | .insertMessage value => value.status = true → trimmed value.msgId ≠ "" →
      b.verifyMessage (trimmed value.msgId) = none → trimmed value.msgId = value.msgId
  | .updateVerificationStatus uniqueId msgId => msgId ≠ "" → uniqueId ≠ "" →
      b.localMsgIndex uniqueId ≠ none → b.verifyMessage msgId = none
  | .clear => True

theorem repInv_empty : RepInv empty := by
  have hindex : empty.index = fun _ => none := by
    funext k
    cases k <;> rfl
  rw [RepInv, hindex]
  exact NodeList.coupled_empty keyOf

/-! ## What an insertion does -/

/-- The index entry an insertion asks for, none if the id it needs is empty. -/
def slot (m : ChattingRecord) : Option Key :=
  if m.isOnLocal then (if m.uniqueId = "" then none else some (.onLocal m.uniqueId))
  else if trimmed m.msgId = "" then none
  else some (.verified (trimmed m.msgId))

theorem slot_onLocal {m : ChattingRecord} (h : m.status = false) :
    slot m = if m.uniqueId = "" then none else some (.onLocal m.uniqueId) := by
  simp [slot, ChattingRecord.isOnLocal, h]

theorem slot_verified {m : ChattingRecord} (h : m.status = true) :
    slot m = if trimmed m.msgId = "" then none else some (.verified (trimmed m.msgId)) := by
  simp [slot, ChattingRecord.isOnLocal, h]

theorem index_update_localMsgIndex (b : MessageBuffer) (uniqueId : String) (n : Option Nat) :
    index { b with localMsgIndex := Function.update b.localMsgIndex uniqueId n } =
      Function.update b.index (.onLocal uniqueId) n := by
  funext k
  cases k with
  | onLocal u => by_cases h : u = uniqueId <;> simp [index, h]
  | verified k => simp [index]

theorem index_update_verifyMessage (b : MessageBuffer) (msgId last : String) (n : Option Nat) :
    index { b with
        verifyMessage := Function.update b.verifyMessage msgId n, lastFetchedMsgId := last } =
      Function.update b.index (.verified msgId) n := by
  funext k
  cases k with
  | onLocal u => simp [index]
  | verified k => by_cases h : k = msgId <;> simp [index, h]

/-- An insertion into a free slot appends the message and takes the slot. -/
theorem insertMessage_free (b : MessageBuffer) {m : ChattingRecord} {k : Key}
    (hslot : slot m = some k) (hfree : b.index k = none) :
    (b.insertMessage m).1 = true ∧
      (b.insertMessage m).2.messages = b.messages.pushBack m ∧
      (b.insertMessage m).2.index = Function.update b.index k (some b.messages.next) := by
  cases hm : m.status with
  | false =>
    rw [slot_onLocal hm] at hslot
    split at hslot
    · cases hslot
    · rename_i hne
      obtain rfl := Option.some.inj hslot
      have hnone : b.localMsgIndex m.uniqueId = none := hfree
      have hins : b.insertMessage m = (true, { b with
          messages := b.messages.pushBack m
          localMsgIndex :=
            Function.update b.localMsgIndex m.uniqueId (some b.messages.next) }) := by
        simp [insertMessage, insertLocal, ChattingRecord.isOnLocal, hm, hne, hnone]
      rw [hins]
      exact ⟨rfl, rfl, index_update_localMsgIndex b m.uniqueId _⟩
  | true =>
    rw [slot_verified hm] at hslot
    split at hslot
    · cases hslot
    · rename_i hne
      obtain rfl := Option.some.inj hslot
      have hnone : b.verifyMessage (trimmed m.msgId) = none := hfree
      have hins : b.insertMessage m = (true, { b with
          messages := b.messages.pushBack m
          verifyMessage :=
            Function.update b.verifyMessage (trimmed m.msgId) (some b.messages.next)
          lastFetchedMsgId := m.msgId }) := by
        simp [insertMessage, insertVerified, ChattingRecord.isOnLocal, ChattingRecord.getMsgID,
          hm, hne, hnone]
      rw [hins]
      exact ⟨rfl, rfl, index_update_verifyMessage b (trimmed m.msgId) m.msgId _⟩

/-- Any other insertion is rolled back. -/
theorem insertMessage_taken (b : MessageBuffer) {m : ChattingRecord}
    (htaken : ∀ k, slot m = some k → b.index k ≠ none) :
    (b.insertMessage m).1 = false ∧
      (b.insertMessage m).2.messages.nodes = b.messages.nodes ∧
      (b.insertMessage m).2.index = b.index := by
  have hback : b.insertMessage m = (false, { b with
      messages := (b.messages.pushBack m).erase b.messages.next }) := by
    cases hm : m.status with
    | false =>
      rw [slot_onLocal hm] at htaken
      by_cases hne : m.uniqueId = ""
      · simp [insertMessage, insertLocal, ChattingRecord.isOnLocal, hm, hne]
      · have hsome := htaken _ (if_neg hne)
        obtain ⟨n, hn⟩ := Option.ne_none_iff_exists'.mp hsome
        have hlocal : b.localMsgIndex m.uniqueId = some n := hn
        simp [insertMessage, insertLocal, ChattingRecord.isOnLocal, hm, hne, hlocal]
    | true =>
      rw [slot_verified hm] at htaken
      by_cases hne : trimmed m.msgId = ""
      · simp [insertMessage, insertVerified, ChattingRecord.isOnLocal, ChattingRecord.getMsgID,
          hm, hne]
      · have hsome := htaken _ (if_neg hne)
        obtain ⟨n, hn⟩ := Option.ne_none_iff_exists'.mp hsome
        have hverify : b.verifyMessage (trimmed m.msgId) = some n := hn
        simp [insertMessage, insertVerified, ChattingRecord.isOnLocal, ChattingRecord.getMsgID,
          hm, hne, hverify]
  rw [hback]
  refine ⟨rfl, NodeList.pushBack_erase_nodes _ _, ?_⟩
  funext k
  cases k <;> rfl

/-- An insertion adds at most the message. -/
theorem mem_insertMessage {b : MessageBuffer} {m m' : ChattingRecord}
    (h : m' ∈ (b.insertMessage m).2.dumpAllChatData) : m' ∈ b.dumpAllChatData ∨ m' = m := by
  by_cases hfree : ∃ k, slot m = some k ∧ b.index k = none
  · obtain ⟨k, hslot, hk⟩ := hfree
    obtain ⟨-, hmessages, -⟩ := insertMessage_free b hslot hk
    rw [dumpAllChatData, hmessages, NodeList.pushBack_values, List.mem_append,
      List.mem_singleton] at h
    exact h
  · obtain ⟨-, hnodes, -⟩ := insertMessage_taken b fun k hslot hk => hfree ⟨k, hslot, hk⟩
    rw [dumpAllChatData, NodeList.values, hnodes] at h
    exact Or.inl h

/-- An insertion takes no entry away. -/
theorem insertMessage_index_ne_none {b : MessageBuffer} (m : ChattingRecord) {k : Key}
    (h : b.index k ≠ none) : (b.insertMessage m).2.index k ≠ none := by
  by_cases hfree : ∃ k, slot m = some k ∧ b.index k = none
  · obtain ⟨k', hslot, hk⟩ := hfree
    obtain ⟨-, -, hindex⟩ := insertMessage_free b hslot hk
    have hne : k ≠ k' := fun heq => h (heq ▸ hk)
    rwa [hindex, Function.update_of_ne hne]
  · obtain ⟨-, -, hindex⟩ := insertMessage_taken b fun k hslot hk => hfree ⟨k, hslot, hk⟩
    rwa [hindex]

/-- After an insertion, refused or not, the slot it asked for is taken. -/
theorem insertMessage_slot_ne_none (b : MessageBuffer) {m : ChattingRecord} {k : Key}
    (hslot : slot m = some k) : (b.insertMessage m).2.index k ≠ none := by
  by_cases hk : b.index k = none
  · obtain ⟨-, -, hindex⟩ := insertMessage_free b hslot hk
    simp [hindex]
  · exact insertMessage_index_ne_none m hk

/-! ## Runs -/

/-- An accepted insertion keeps the representation exactly when it indexes the message under its
    own id. -/
theorem repInv_insertMessage_iff {b : MessageBuffer} (hb : b.RepInv) {m : ChattingRecord}
    {k : Key} (hslot : slot m = some k) (hfree : b.index k = none) :
    (b.insertMessage m).2.RepInv ↔ k = keyOf m := by
  obtain ⟨-, hmessages, hindex⟩ := insertMessage_free b hslot hfree
  rw [RepInv, hmessages, hindex]
  constructor
  · intro h
    have hnew : (b.messages.next, m) ∈ (b.messages.pushBack m).nodes := by simp
    exact (h.indexed _ _ hnew k).mp (Function.update_self ..)
  · intro h
    subst h
    exact NodeList.coupled_push hb hfree

theorem safe_insertMessage_iff (b : MessageBuffer) (m : ChattingRecord) :
    b.Safe (.insertMessage m) ↔ ∀ k, slot m = some k → b.index k = none → k = keyOf m := by
  cases hm : m.status with
  | false =>
    have hslot := slot_onLocal hm
    constructor
    · intro _ k hk _
      rw [hslot] at hk
      split at hk
      · cases hk
      · simp [keyOf, ChattingRecord.isOnLocal, hm, ← Option.some.inj hk]
    · intro _ hstatus
      rw [hm] at hstatus
      cases hstatus
  | true =>
    have hslot := slot_verified hm
    have hkey : keyOf m = .verified m.msgId := by simp [keyOf, ChattingRecord.isOnLocal, hm]
    rw [hkey]
    constructor
    · intro h k hk hfree
      rw [hslot] at hk
      split at hk
      · cases hk
      · rename_i hne
        obtain rfl := Option.some.inj hk
        rw [h hm hne hfree]
    · intro h _ hne hfree
      exact Key.verified.inj (h _ (hslot.trans (if_neg hne)) hfree)

/-- An update that does not find both ids does nothing at all. -/
theorem updateVerificationStatus_safe {b : MessageBuffer} {uniqueId msgId : String}
    (h : b.Safe (.updateVerificationStatus uniqueId msgId)) :
    b.updateVerificationStatus uniqueId msgId = (false, b) := by
  by_cases hempty : msgId = "" ∨ uniqueId = ""
  · exact if_pos hempty
  · obtain ⟨hmsg, hunique⟩ := not_or.mp hempty
    cases hlocal : b.localMsgIndex uniqueId with
    | none => simp [updateVerificationStatus, hempty, hlocal]
    | some node =>
      have hverify := h hmsg hunique (by simp [hlocal])
      simp [updateVerificationStatus, hempty, hlocal, hverify]

/-- An update that finds both ids marks the message and then finds the entry taken. -/
theorem updateVerificationStatus_taken {b : MessageBuffer} {uniqueId msgId : String}
    {node other : Nat} (hunique : uniqueId ≠ "") (hmsg : msgId ≠ "")
    (hnode : b.localMsgIndex uniqueId = some node) (hother : b.verifyMessage msgId = some other) :
    b.updateVerificationStatus uniqueId msgId =
      (false, { b with messages := b.messages.modify node (·.setMsgID msgId) }) := by
  simp [updateVerificationStatus, hmsg, hunique, hnode, hother]

/-- An update that finds both fails too, but only after the message was marked verified. -/
theorem updateVerificationStatus_unsafe {b : MessageBuffer} (hb : b.RepInv)
    {uniqueId msgId : String} (h : ¬ b.Safe (.updateVerificationStatus uniqueId msgId)) :
    (b.updateVerificationStatus uniqueId msgId).1 = false ∧
      (b.updateVerificationStatus uniqueId msgId).2.messages.nodes ≠ b.messages.nodes := by
  simp only [Safe, Classical.not_imp] at h
  obtain ⟨hmsg, hunique, hlocal, hverify⟩ := h
  obtain ⟨node, hnode⟩ := Option.ne_none_iff_exists'.mp hlocal
  obtain ⟨other, hother⟩ := Option.ne_none_iff_exists'.mp hverify
  have hmutated := updateVerificationStatus_taken hunique hmsg hnode hother
  obtain ⟨m, hm⟩ := hb.live (.onLocal uniqueId) node hnode
  have hstatus : m.status = false := by
    have hkey := (hb.indexed node m hm (.onLocal uniqueId)).mp hnode
    by_contra hne
    rw [Bool.not_eq_false] at hne
    simp [keyOf, ChattingRecord.isOnLocal, hne] at hkey
  have hchanged : m.setMsgID msgId ≠ m := by
    intro heq
    have := congrArg ChattingRecord.status heq
    rw [hstatus] at this
    cases this
  rw [hmutated]
  exact ⟨rfl, NodeList.modify_nodes_ne _ hm hchanged⟩

theorem keeps_insertMessage_iff {b : MessageBuffer} (hb : b.RepInv) (m : ChattingRecord) :
    b.Keeps (.insertMessage m) ↔ b.Safe (.insertMessage m) := by
  rw [safe_insertMessage_iff]
  by_cases hfree : ∃ k, slot m = some k ∧ b.index k = none
  · obtain ⟨k, hslot, hk⟩ := hfree
    obtain ⟨hok, -, -⟩ := insertMessage_free b hslot hk
    constructor
    · intro h k' hslot' _
      obtain rfl := Option.some.inj (hslot.symm.trans hslot')
      exact (repInv_insertMessage_iff hb hslot hk).mp h.1
    · intro h
      refine ⟨(repInv_insertMessage_iff hb hslot hk).mpr (h k hslot hk), fun hfalse => ?_⟩
      exact absurd (hok.symm.trans hfalse) (by decide)
  · have htaken : ∀ k, slot m = some k → b.index k ≠ none := fun k hslot hk =>
      hfree ⟨k, hslot, hk⟩
    obtain ⟨-, hnodes, hindex⟩ := insertMessage_taken b htaken
    constructor
    · intro _ k hslot hk
      exact absurd hk (htaken k hslot)
    · intro _
      refine ⟨?_, fun _ => ⟨hnodes, hindex⟩⟩
      show NodeList.Coupled keyOf _ (b.insertMessage m).2.index
      rw [hindex]
      exact NodeList.coupled_congr hnodes.symm hb

theorem keeps_updateVerificationStatus_iff {b : MessageBuffer} (hb : b.RepInv)
    (uniqueId msgId : String) :
    b.Keeps (.updateVerificationStatus uniqueId msgId) ↔
      b.Safe (.updateVerificationStatus uniqueId msgId) := by
  constructor
  · intro h
    by_contra hunsafe
    obtain ⟨hfalse, hne⟩ := updateVerificationStatus_unsafe hb hunsafe
    exact hne (h.2 hfalse).1
  · intro h
    have hsame := updateVerificationStatus_safe h
    show (b.updateVerificationStatus uniqueId msgId).2.RepInv ∧ _
    rw [hsame]
    refine ⟨hb, fun _ => ?_⟩
    show (b.updateVerificationStatus uniqueId msgId).2.messages.nodes = _ ∧
      (b.updateVerificationStatus uniqueId msgId).2.index = _
    rw [hsame]
    exact ⟨rfl, rfl⟩

theorem keeps_iff_safe {b : MessageBuffer} (hb : b.RepInv) (op : Op) :
    b.Keeps op ↔ b.Safe op := by
  cases op with
  | insertMessage m => exact keeps_insertMessage_iff hb m
  | updateVerificationStatus u k => exact keeps_updateVerificationStatus_iff hb u k
  | clear => exact ⟨fun _ => trivial, fun _ => ⟨repInv_empty, fun h => by cases h⟩⟩

/-- Every operation of a run keeps the representation, and leaves the buffer alone when it fails,
    exactly when every operation of the run is safe. -/
theorem runs_keep_iff_runs_safe (ops : List Op) :
    Trace.Meets step Keeps empty ops ↔ Trace.Meets step Safe empty ops := by
  apply Trace.meets_iff_meets RepInv
  · intro b op b' hb _
    exact keeps_iff_safe hb op
  · intro b op b' hb hsafe hstep
    obtain rfl := Option.some.inj hstep
    exact ((keeps_iff_safe hb op).mpr hsafe).1
  · exact repInv_empty

/-- A message of ours, and the copy of it the server sent with the history. -/
def sample (status : Bool) (uniqueId msgId : String) : ChattingRecord :=
  { type := .text, senderUuid := "1", receiverUuid := "2", status := status,
    uniqueId := uniqueId, msgId := msgId, msgContent := "hi" }

/-- The acknowledgement of a local message whose id the history has brought before: the update
    fails, yet the message is marked verified and stays in the index of the local ones. -/
theorem not_keeps_acknowledged_twice :
    ¬ Trace.Meets step Keeps empty
      [.insertMessage (sample false "a" ""), .insertMessage (sample true "b" "7"),
        .updateVerificationStatus "a" "7"] := by
  intro h
  obtain ⟨-, h⟩ := h _ rfl
  obtain ⟨-, h⟩ := h _ rfl
  obtain ⟨⟨-, hsame⟩, -⟩ := h _ rfl
  exact absurd (hsame (by decide)).1 (by decide)

end MessageBuffer

end DistributedIM.Client
