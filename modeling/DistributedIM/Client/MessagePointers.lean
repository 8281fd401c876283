/-
  `UserChatThread` with its messages behind `shared_ptr`, as the list, the two indices and
  `m_lastMessage` share them: a number stands for an object, `objects` says what is in it.

  `insertMessage` sets `m_lastMessage` and `m_lastFetchedMsgId` before the buffer decides. So
  `keepsLast_iff`: refused messages leave a thread alone, and `getLastMsg` is the last of `dumpAll`,
  exactly if every message that is refused is the last one already, and brings no new message id.

  `byValue_step`: no object stands in the list twice, and so the buffer does what the buffer of
  records does (`ChattingMessageBuffer`).
-/
import DistributedIM.Client.LocalPromotion

namespace DistributedIM.Client

open MessageBuffer (slot Found)

/-! ## The buffer -/

/-- `MessageBuffer<ChattingRecordBase>`. -/
structure PointerBuffer where
  messages : NodeList Nat
  localMsgIndex : String → Option Nat
  verifyMessage : String → Option Nat
  lastFetchedMsgId : String

namespace PointerBuffer

def empty : PointerBuffer where
  messages := .empty
  localMsgIndex := fun _ => none
  verifyMessage := fun _ => none
  lastFetchedMsgId := ""

/-- The buffer of the records that the objects contain. -/
def byValue (b : PointerBuffer) (objects : Nat → ChattingRecord) : MessageBuffer where
  messages := b.messages.map objects
  localMsgIndex := b.localMsgIndex
  verifyMessage := b.verifyMessage
  lastFetchedMsgId := b.lastFetchedMsgId

/-- `insertLocal`. -/
def insertLocal (b : PointerBuffer) (uniqueId : String) (node : Nat) : Bool × PointerBuffer :=
  if uniqueId = "" then (false, b)
  else
    match b.localMsgIndex uniqueId with
    | some _ => (false, b)
    | none => (true, { b with localMsgIndex := Function.update b.localMsgIndex uniqueId (some node) })

/-- `insertVerified`. -/
def insertVerified (b : PointerBuffer) (value : ChattingRecord) (node : Nat) :
    Bool × PointerBuffer :=
  match value.getMsgID with
  | none => (false, b)
  | some msgId =>
    if Text.trimmed msgId = "" then (false, b)
    else
      match b.verifyMessage (Text.trimmed msgId) with
      | some _ => (false, b)
      | none =>
        (true, { b with
          verifyMessage := Function.update b.verifyMessage (Text.trimmed msgId) (some node)
          lastFetchedMsgId := msgId })

/-- The index of `_insert` for the message in the node. -/
def insertIndex (b : PointerBuffer) (value : ChattingRecord) (node : Nat) : Bool × PointerBuffer :=
  if value.isOnLocal then b.insertLocal value.uniqueId node else b.insertVerified value node

/-- `_insert`. -/
def insertMessage (b : PointerBuffer) (objects : Nat → ChattingRecord) (value : Nat) :
    Bool × PointerBuffer :=
  let node := b.messages.next
  match insertIndex { b with messages := b.messages.pushBack value } (objects value) node with
  | (true, c) => (true, c)
  | (false, c) => (false, { c with messages := c.messages.erase node })

/-- `msg->setMsgID(msg_id)` for the object of the node. -/
def setMsgID (b : PointerBuffer) (objects : Nat → ChattingRecord) (node : Nat) (msgId : String) :
    Nat → ChattingRecord :=
  match b.messages.get? node with
  | none => objects
  | some msg => Function.update objects msg ((objects msg).setMsgID msgId)

/-- `updateVerificationStatus`, with what it makes of the objects. -/
def updateVerificationStatus (b : PointerBuffer) (objects : Nat → ChattingRecord)
    (uniqueId msgId : String) : Bool × (Nat → ChattingRecord) × PointerBuffer :=
  if msgId = "" ∨ uniqueId = "" then (false, objects, b)
  else
    match b.localMsgIndex uniqueId with
    | none => (false, objects, b)
    | some node =>
      match b.verifyMessage msgId with
      | none => (false, objects, b)
      | some _ =>
        let objects := b.setMsgID objects node msgId
        match b.verifyMessage msgId with
        | some _ => (false, objects, b)
        | none =>
          (true, objects, { b with
            verifyMessage := Function.update b.verifyMessage msgId (some node)
            localMsgIndex := Function.update b.localMsgIndex uniqueId none })

/-! ## The buffer of the records -/

variable {objects : Nat → ChattingRecord}

theorem insertLocal_messages (b : PointerBuffer) (uniqueId : String) (node : Nat) :
    (b.insertLocal uniqueId node).2.messages = b.messages := by
  unfold insertLocal
  split
  · rfl
  · split <;> rfl

theorem insertVerified_messages (b : PointerBuffer) (value : ChattingRecord) (node : Nat) :
    (b.insertVerified value node).2.messages = b.messages := by
  unfold insertVerified
  split
  · rfl
  · split
    · rfl
    · split <;> rfl

theorem insertIndex_messages (b : PointerBuffer) (value : ChattingRecord) (node : Nat) :
    (b.insertIndex value node).2.messages = b.messages := by
  unfold insertIndex
  split
  · exact insertLocal_messages b _ _
  · exact insertVerified_messages b _ _

/-- The list with the message, and what the index said and has become. -/
theorem insertMessage_eq (b : PointerBuffer) (objects : Nat → ChattingRecord) (value : Nat) :
    ∃ ok c, insertIndex { b with messages := b.messages.pushBack value } (objects value)
        b.messages.next = (ok, c) ∧
      b.insertMessage objects value =
        (ok, if ok then c else { c with messages := c.messages.erase b.messages.next }) := by
  rcases hindex : insertIndex { b with messages := b.messages.pushBack value } (objects value)
    b.messages.next with ⟨ok, c⟩
  refine ⟨ok, c, rfl, ?_⟩
  rw [insertMessage, hindex]
  cases ok <;> rfl

/-- The message stands at the end of the list if it was accepted, else the list is as it was. -/
theorem insertMessage_values (b : PointerBuffer) (objects : Nat → ChattingRecord) (value : Nat) :
    (b.insertMessage objects value).2.messages.values =
      if (b.insertMessage objects value).1 then b.messages.values ++ [value]
      else b.messages.values := by
  obtain ⟨ok, c, hindex, hinsert⟩ := insertMessage_eq b objects value
  have hmessages : c.messages = b.messages.pushBack value := by
    rw [← congrArg (fun r => r.2.messages) hindex]
    exact insertIndex_messages _ _ _
  rw [hinsert]
  cases ok with
  | true => simp [hmessages]
  | false => simp [hmessages, NodeList.values]

theorem insertLocal_byValue (b : PointerBuffer) (objects : Nat → ChattingRecord)
    (uniqueId : String) (node : Nat) :
    (b.byValue objects).insertLocal uniqueId node =
      ((b.insertLocal uniqueId node).1, (b.insertLocal uniqueId node).2.byValue objects) := by
  by_cases hempty : uniqueId = ""
  · simp [insertLocal, MessageBuffer.insertLocal, hempty]
  · cases hlocal : b.localMsgIndex uniqueId <;>
      simp [insertLocal, MessageBuffer.insertLocal, hempty, hlocal, byValue]

theorem insertVerified_byValue (b : PointerBuffer) (objects : Nat → ChattingRecord)
    (value : ChattingRecord) (node : Nat) :
    (b.byValue objects).insertVerified value node =
      ((b.insertVerified value node).1, (b.insertVerified value node).2.byValue objects) := by
  unfold insertVerified MessageBuffer.insertVerified
  cases value.getMsgID with
  | none => rfl
  | some msgId =>
    by_cases hempty : Text.trimmed msgId = ""
    · simp [hempty]
    · cases hverify : b.verifyMessage (Text.trimmed msgId) <;> simp [hempty, hverify, byValue]

theorem insertIndex_byValue (b : PointerBuffer) (objects : Nat → ChattingRecord)
    (value : ChattingRecord) (node : Nat) :
    (if value.isOnLocal then (b.byValue objects).insertLocal value.uniqueId node
      else (b.byValue objects).insertVerified value node) =
      ((b.insertIndex value node).1, (b.insertIndex value node).2.byValue objects) := by
  unfold insertIndex
  split
  · exact insertLocal_byValue b objects _ node
  · exact insertVerified_byValue b objects value node

/-- An insertion of a pointer is the insertion of the record behind it. -/
theorem insertMessage_byValue (b : PointerBuffer) (objects : Nat → ChattingRecord) (value : Nat) :
    (b.byValue objects).insertMessage (objects value) =
      ((b.insertMessage objects value).1, (b.insertMessage objects value).2.byValue objects) := by
  obtain ⟨ok, c, hindex, hinsert⟩ := insertMessage_eq b objects value
  have hpush : { b.byValue objects with
      messages := (b.byValue objects).messages.pushBack (objects value) } =
      ({ b with messages := b.messages.pushBack value } : PointerBuffer).byValue objects := by
    simp [byValue]
  have hvalue := insertIndex_byValue { b with messages := b.messages.pushBack value } objects
    (objects value) b.messages.next
  rw [hindex, ← hpush] at hvalue
  rw [hinsert, MessageBuffer.insertMessage]
  dsimp only
  rw [show (b.byValue objects).messages.next = b.messages.next from rfl, hvalue]
  cases ok <;> simp [byValue]

theorem updateVerificationStatus_messages (b : PointerBuffer) (objects : Nat → ChattingRecord)
    (uniqueId msgId : String) :
    (b.updateVerificationStatus objects uniqueId msgId).2.2.messages = b.messages := by
  unfold updateVerificationStatus
  split
  · rfl
  · split
    · rfl
    · split
      · rfl
      · dsimp only
        split <;> rfl

theorem updateVerificationStatus_byValue (b : PointerBuffer) (objects : Nat → ChattingRecord)
    (hnodup : b.messages.values.Nodup) (uniqueId msgId : String) :
    (b.byValue objects).updateVerificationStatus uniqueId msgId =
      ((b.updateVerificationStatus objects uniqueId msgId).1,
        (b.updateVerificationStatus objects uniqueId msgId).2.2.byValue
          (b.updateVerificationStatus objects uniqueId msgId).2.1) := by
  have hset (node : Nat) : b.messages.map (b.setMsgID objects node msgId) =
      (b.messages.map objects).modify node (·.setMsgID msgId) := by
    cases hget : b.messages.get? node with
    | none =>
      simp only [setMsgID, hget]
      exact (NodeList.modify_of_get?_eq_none hget objects _).symm
    | some msg =>
      simp only [setMsgID, hget]
      exact NodeList.map_update hnodup (NodeList.get?_eq_some hget) objects (·.setMsgID msgId)
  unfold updateVerificationStatus MessageBuffer.updateVerificationStatus
  by_cases hempty : msgId = "" ∨ uniqueId = ""
  · simp [hempty]
  · cases hlocal : b.localMsgIndex uniqueId with
    | none => simp [hempty, hlocal, byValue]
    | some node =>
      cases hverify : b.verifyMessage msgId with
      | none => simp [hempty, hlocal, hverify, byValue]
      | some other => simp [hempty, hlocal, hverify, byValue, hset]

end PointerBuffer

/-! ## The thread -/

/-- A `UserChatThread` and the message objects, those it has and those it may get. -/
structure PointerThread where
  objects : Nat → ChattingRecord
  lastFetchedMsgId : String
  lastMessage : Option Nat
  recordStorge : PointerBuffer

namespace PointerThread

def new (objects : Nat → ChattingRecord) : PointerThread where
  objects := objects
  lastFetchedMsgId := ""
  lastMessage := none
  recordStorge := .empty

def insertMessage (t : PointerThread) (msg : Nat) : Bool × PointerThread :=
  let r := t.recordStorge.insertMessage t.objects msg
  (r.1, { t with
    lastFetchedMsgId :=
      if (t.objects msg).isOnLocal then t.lastFetchedMsgId else (t.objects msg).msgId
    lastMessage := some msg
    recordStorge := r.2 })

def promoteLocalToVerified (t : PointerThread) (uniqueId msgId : String) : Bool × PointerThread :=
  let r := t.recordStorge.updateVerificationStatus t.objects uniqueId msgId
  (r.1, { t with objects := r.2.1, recordStorge := r.2.2 })

def setLastMessageId (t : PointerThread) (id : String) : PointerThread :=
  { t with lastFetchedMsgId := id }

/-- The pointers that `dumpAll` returns. -/
def dumpAll (t : PointerThread) : List Nat :=
  t.recordStorge.messages.values

inductive Event
  | insertMessage (msg : Nat)
  | promoteLocalToVerified (uniqueId msgId : String)
  | setLastMessageId (id : String)
  deriving DecidableEq, Repr

def step (t : PointerThread) : Event → Option PointerThread
  | .insertMessage msg => some (t.insertMessage msg).2
  | .promoteLocalToVerified uniqueId msgId => some (t.promoteLocalToVerified uniqueId msgId).2
  | .setLastMessageId id => some (t.setLastMessageId id)

/-! ## What the last message is to be -/

/-- `getLastMsg` is the last message there is. -/
def LastIsLast (t : PointerThread) : Prop :=
  t.dumpAll ≠ [] → t.lastMessage = t.dumpAll.getLast?

/-- A message that is turned away changes nothing. -/
def RejectsCleanly (t : PointerThread) : Event → Prop
  | .insertMessage msg => (t.insertMessage msg).1 = false →
      (t.insertMessage msg).2.lastFetchedMsgId = t.lastFetchedMsgId ∧
        (t.insertMessage msg).2.lastMessage = t.lastMessage ∧
        (t.insertMessage msg).2.dumpAll = t.dumpAll
  | _ => True

/-- The id the message needs is blank, or another message has it. -/
def Refused (t : PointerThread) (msg : Nat) : Prop :=
  ∀ k, slot (t.objects msg) = some k → (t.recordStorge.byValue t.objects).index k ≠ none

/-- A message that is turned away was inserted last, and is local or has the message id that was
    fetched last. -/
def Repeats (t : PointerThread) : Event → Prop
  | .insertMessage msg => t.Refused msg → t.lastMessage = some msg ∧
      ((t.objects msg).isOnLocal = false → (t.objects msg).msgId = t.lastFetchedMsgId)
  | _ => True

theorem insertMessage_refused_iff (t : PointerThread) (msg : Nat) :
    (t.insertMessage msg).1 = false ↔ t.Refused msg := by
  have hvalue := PointerBuffer.insertMessage_byValue t.recordStorge t.objects msg
  have hok : (t.insertMessage msg).1 =
      ((t.recordStorge.byValue t.objects).insertMessage (t.objects msg)).1 := by
    rw [hvalue]
    rfl
  rw [hok]
  constructor
  · intro hfalse k hslot hfree
    rw [(MessageBuffer.insertMessage_free _ hslot hfree).1] at hfalse
    cases hfalse
  · intro hrefused
    exact (MessageBuffer.insertMessage_taken _ hrefused).1

theorem insertMessage_dumpAll (t : PointerThread) (msg : Nat) :
    (t.insertMessage msg).2.dumpAll =
      if (t.insertMessage msg).1 then t.dumpAll ++ [msg] else t.dumpAll :=
  PointerBuffer.insertMessage_values t.recordStorge t.objects msg

theorem rejectsCleanly_iff_repeats (t : PointerThread) (e : Event) :
    t.RejectsCleanly e ↔ t.Repeats e := by
  cases e with
  | insertMessage msg =>
    refine imp_congr_ctx (insertMessage_refused_iff t msg) fun hrefused => ?_
    have hfalse := (insertMessage_refused_iff t msg).mpr hrefused
    have hsame : (t.insertMessage msg).2.dumpAll = t.dumpAll := by
      rw [insertMessage_dumpAll, hfalse]
      rfl
    constructor
    · rintro ⟨hid, hlast, -⟩
      refine ⟨hlast.symm, fun hverified => ?_⟩
      simpa [insertMessage, hverified] using hid
    · rintro ⟨hlast, hid⟩
      refine ⟨?_, hlast.symm, hsame⟩
      cases hlocal : (t.objects msg).isOnLocal with
      | true => simp [insertMessage, hlocal]
      | false => simp [insertMessage, hlocal, hid hlocal]
  | promoteLocalToVerified uniqueId msgId => exact Iff.rfl
  | setLastMessageId id => exact Iff.rfl

theorem lastIsLast_step {t t' : PointerThread} {e : Event} (h : t.LastIsLast)
    (hrepeats : t.Repeats e) (hstep : t.step e = some t') : t'.LastIsLast := by
  intro hne
  cases e with
  | insertMessage msg =>
    obtain rfl := Option.some.inj hstep
    show some msg = _
    rw [insertMessage_dumpAll] at hne ⊢
    cases hok : (t.insertMessage msg).1 with
    | true => simp
    | false =>
      obtain ⟨hlast, -⟩ := hrepeats ((insertMessage_refused_iff t msg).mp hok)
      rw [hok] at hne
      rw [← hlast]
      exact h hne
  | promoteLocalToVerified uniqueId msgId =>
    obtain rfl := Option.some.inj hstep
    have hsame : (t.promoteLocalToVerified uniqueId msgId).2.dumpAll = t.dumpAll :=
      congrArg NodeList.values (PointerBuffer.updateVerificationStatus_messages ..)
    rw [hsame] at hne ⊢
    exact h hne
  | setLastMessageId id =>
    obtain rfl := Option.some.inj hstep
    exact h hne

/-- Messages that are turned away leave the thread alone, and `getLastMsg` is the last of
    `dumpAll`, exactly if each message that is turned away is the last one and brings no new
    message id. -/
theorem keepsLast_iff (objects : Nat → ChattingRecord) (es : List Event) :
    Trace.Always step LastIsLast (new objects) es ∧
        Trace.Meets step RejectsCleanly (new objects) es ↔
      Trace.Meets step Repeats (new objects) es := by
  apply Trace.always_and_meets_iff_meets LastIsLast
  · intro t h
    exact h
  · intro t e t' h hrepeats hstep
    exact ⟨(rejectsCleanly_iff_repeats t e).mpr hrepeats, lastIsLast_step h hrepeats hstep⟩
  · intro t e t' _ hother _ hclean
    exact absurd ((rejectsCleanly_iff_repeats t e).mp hclean) hother
  · intro hne
    exact absurd rfl hne

/-- Two messages with the same unique id. -/
def sameUniqueId : Nat → ChattingRecord :=
  fun _ => MessageBuffer.sample false "a" ""

/-- The second one is turned away, and is the last message all the same. -/
theorem not_keepsLast_duplicate :
    ¬ ∀ objects es, Trace.Always step LastIsLast (new objects) es ∧
      Trace.Meets step RejectsCleanly (new objects) es := by
  intro h
  have hlast := Trace.exec_of_always
    (h sameUniqueId [.insertMessage 0, .insertMessage 1]).1 rfl
  exact absurd (hlast (by decide)) (by decide)

/-! ## The thread of the records -/

/-- No object stands in the list twice. -/
structure Distinct (t : PointerThread) : Prop where
  found : Found (t.recordStorge.byValue t.objects)
  nodup : t.dumpAll.Nodup

/-- What an event is for the buffer of the records. -/
def Event.op (t : PointerThread) : Event → List MessageBuffer.Op
  | .insertMessage msg => [.insertMessage (t.objects msg)]
  | .promoteLocalToVerified uniqueId msgId => [.updateVerificationStatus uniqueId msgId]
  | .setLastMessageId _ => []

/-- A message in the list is turned away: its own entry is in its way. -/
theorem refused_of_mem {t : PointerThread} (h : t.Distinct) {msg : Nat} (hmem : msg ∈ t.dumpAll) :
    t.Refused msg := by
  obtain ⟨n, hn⟩ := NodeList.mem_values.mp hmem
  have hnode : (n, t.objects msg) ∈ (t.recordStorge.byValue t.objects).messages.nodes :=
    List.mem_map.mpr ⟨(n, msg), hn, rfl⟩
  intro k hslot
  rcases MessageBuffer.slot_eq_some hslot with ⟨hlocal, -, rfl⟩ | ⟨hverified, rfl⟩
  · rw [(h.found.onLocal n _ hnode hlocal).2]
    exact Option.some_ne_none n
  · exact h.found.verified n _ hnode hverified

theorem insertMessage_byValue (t : PointerThread) (msg : Nat) :
    MessageBuffer.step (t.recordStorge.byValue t.objects) (.insertMessage (t.objects msg)) =
      some ((t.insertMessage msg).2.recordStorge.byValue t.objects) := by
  show some _ = some _
  rw [MessageBuffer.apply, PointerBuffer.insertMessage_byValue t.recordStorge t.objects msg]
  rfl

theorem promoteLocalToVerified_byValue {t : PointerThread} (h : t.Distinct)
    (uniqueId msgId : String) :
    MessageBuffer.step (t.recordStorge.byValue t.objects)
        (.updateVerificationStatus uniqueId msgId) =
      some ((t.promoteLocalToVerified uniqueId msgId).2.recordStorge.byValue
        (t.promoteLocalToVerified uniqueId msgId).2.objects) := by
  show some _ = some _
  rw [MessageBuffer.apply, PointerBuffer.updateVerificationStatus_byValue t.recordStorge
    t.objects h.nodup uniqueId msgId]
  rfl

/-- Every step does to the buffer what the operation on the buffer of the records does. -/
theorem byValue_step {t t' : PointerThread} {e : Event} (h : t.Distinct)
    (hstep : t.step e = some t') :
    Trace.exec MessageBuffer.step (t.recordStorge.byValue t.objects) (e.op t) =
        some (t'.recordStorge.byValue t'.objects) ∧ t'.Distinct := by
  cases e with
  | insertMessage msg =>
    obtain rfl := Option.some.inj hstep
    have hexec := insertMessage_byValue t msg
    rw [Event.op, Trace.exec_singleton]
    refine ⟨hexec, MessageBuffer.found_step h.found hexec, ?_⟩
    rw [insertMessage_dumpAll]
    cases hok : (t.insertMessage msg).1 with
    | true =>
      have hnew : msg ∉ t.dumpAll := fun hmem => by
        have hfalse := (insertMessage_refused_iff t msg).mpr (refused_of_mem h hmem)
        rw [hok] at hfalse
        cases hfalse
      exact List.Nodup.append h.nodup (List.nodup_singleton msg)
        (List.disjoint_singleton.mpr hnew)
    | false => exact h.nodup
  | promoteLocalToVerified uniqueId msgId =>
    obtain rfl := Option.some.inj hstep
    have hexec := promoteLocalToVerified_byValue h uniqueId msgId
    rw [Event.op, Trace.exec_singleton]
    refine ⟨hexec, MessageBuffer.found_step h.found hexec, ?_⟩
    show (NodeList.values _).Nodup
    rw [show (t.promoteLocalToVerified uniqueId msgId).2.recordStorge.messages =
      t.recordStorge.messages from PointerBuffer.updateVerificationStatus_messages ..]
    exact h.nodup
  | setLastMessageId id =>
    obtain rfl := Option.some.inj hstep
    exact ⟨rfl, h.found, h.nodup⟩

/-- In every state of every run the buffer of the records is one that its own operations reach. -/
theorem always_byValue (objects : Nat → ChattingRecord) (es : List Event) :
    Trace.Always step (fun t => Trace.Reaches MessageBuffer.step .empty
      (t.recordStorge.byValue t.objects)) (new objects) es := by
  have hempty : (new objects).recordStorge.byValue objects = .empty := by
    simp [new, PointerBuffer.empty, PointerBuffer.byValue, MessageBuffer.empty, NodeList.map,
      NodeList.empty]
  have hinv : Trace.Always step (fun t => Trace.Reaches MessageBuffer.step .empty
      (t.recordStorge.byValue t.objects) ∧ t.Distinct) (new objects) es := by
    apply Trace.always_of_invariant
    · intro t e t' h hstep
      obtain ⟨hexec, hdistinct⟩ := byValue_step h.2 hstep
      exact ⟨h.1.exec _ hexec, hdistinct⟩
    · refine ⟨⟨[], congrArg some hempty.symm⟩, ?_, List.nodup_nil⟩
      show Found ((new objects).recordStorge.byValue objects)
      rw [hempty]
      exact MessageBuffer.found_empty
  exact Trace.always_mono (fun _ h => h.1) hinv

end PointerThread

end DistributedIM.Client
