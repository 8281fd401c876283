/-
  `UserChatThread` and the slots of `ChattingDlgMainFrame` that put messages into one: live
  messages, history pages, acknowledgements, the messages of a friend confirmation, and the
  user's own messages.

  The server numbers its messages; an id reaches the client as decimal text. Unique ids are
  `QUuid` texts, which stand in braces, except where `generatePackage` makes one of a server id.

  `Single` is the client's view of one thread: every server id at most once, and every message
  that arrived with one stored as verified under it. `always_single_iff_quiet`: a run keeps it in
  every state exactly when it has no live message, because `generatePackage` rebuilds a verified
  message as a local one, and no acknowledgement of a local message with an id that is verified
  already.

  Not modelled: messages that are not text, which every path here drops, and the peer card.
-/
import DistributedIM.Client.ChattingMessageBuffer

namespace DistributedIM.Client

open MessageBuffer (Key keyOf RepInv)

/-! ## The thread -/

/-- `UserChatType`. -/
inductive UserChatType
  | privateChat
  | groupChat
  deriving DecidableEq, Repr

/-- `UserChatThread`. -/
structure UserChatThread where
  threadId : String
  lastFetchedMsgId : String
  userChatType : UserChatType
  lastMessage : Option ChattingRecord
  recordStorge : MessageBuffer

/-- `QUuid::createUuid().toString()`, with the part between the braces given. -/
def quuid (u : String) : String :=
  "\x7b" ++ u ++ "\x7d"

/-- `ChattingTextMsg(sender, receiver, unique_id, content)`. -/
def chattingTextMsg (sender receiver uniqueId content : String) : ChattingRecord :=
  { type := .text, senderUuid := sender, receiverUuid := receiver, status := false,
    uniqueId := uniqueId, msgId := "", msgContent := content }

/-- `FriendingConfirmInfo`. -/
structure FriendingConfirmInfo where
  messageType : MsgType
  threadId : String
  messageId : String
  messageSender : String
  messageReceiver : String
  messageContent : String
  deriving DecidableEq, Repr

namespace UserChatThread

def insertMessage (t : UserChatThread) (msg : ChattingRecord) : UserChatThread :=
  { t with
    lastFetchedMsgId := if msg.isOnLocal then t.lastFetchedMsgId else msg.msgId
    lastMessage := some msg
    recordStorge := (t.recordStorge.insertMessage msg).2 }

@[simp] theorem insertMessage_recordStorge (t : UserChatThread) (msg : ChattingRecord) :
    (t.insertMessage msg).recordStorge = (t.recordStorge.insertMessage msg).2 := rfl

/-- `dumpAll`. -/
def dumpAll (t : UserChatThread) : List ChattingRecord :=
  t.recordStorge.dumpAllChatData

def promoteLocalToVerified (t : UserChatThread) (uniqueId msgId : String) : UserChatThread :=
  { t with recordStorge := (t.recordStorge.updateVerificationStatus uniqueId msgId).2 }

/-- `generatePackage` of a friend confirmation; `u` is the fresh unique id. -/
def generatePackageInfo (u : String) (info : FriendingConfirmInfo) : Option ChattingRecord :=
  match info.messageType with
  | .text =>
    some ((chattingTextMsg info.messageSender info.messageReceiver (quuid u)
      info.messageContent).setMsgID info.messageId)
  | _ => none

/-- `generatePackage` of a message: a new local one, whose unique id is the unique id of a local
    message and the message id of a verified one. -/
def generatePackage (type : MsgType) (msg : ChattingRecord) : Option ChattingRecord :=
  match type with
  | .text =>
    if msg.isOnLocal then
      some (chattingTextMsg msg.senderUuid msg.receiverUuid msg.uniqueId msg.msgContent)
    else some (chattingTextMsg msg.senderUuid msg.receiverUuid msg.msgId msg.msgContent)
  | _ => none

/-! ## The slots -/

/-- `slot_incoming_msg`, once the thread of the sender is found. -/
def slotIncomingMsg (t : UserChatThread) (type : MsgType) (msg : ChattingRecord) :
    UserChatThread :=
  match generatePackage type msg with
  | none => t
  | some data => t.insertMessage data

/-- `slot_update_chat_msg`, without the request for the next page. -/
def slotUpdateChatMsg (t : UserChatThread) (list : List ChattingRecord) (nextMessageId : String) :
    UserChatThread :=
  { list.foldl insertMessage t with lastFetchedMsgId := nextMessageId }

/-- The loop of `slot_add_auth_friend_init_chatting_thread`. -/
def addHistory (t : UserChatThread) (list : List (String × FriendingConfirmInfo)) :
    UserChatThread :=
  list.foldl (fun t item =>
    match generatePackageInfo item.1 item.2 with
    | none => t
    | some history => t.insertMessage history) t

/-- A text message as the server sends it: its number, and for a live one the unique id its
    sender gave it. -/
structure Item where
  sender : String
  receiver : String
  uniqueId : String
  msgId : Nat
  content : String
  deriving DecidableEq, Repr

/-- The callback of `SERVICE_TEXTCHATMSGICOMINGREQUEST`. -/
def Item.live (i : Item) : ChattingRecord :=
  (chattingTextMsg i.sender i.receiver i.uniqueId i.content).setMsgID i.msgId.repr

/-- The callback of `SERVICE_PULLCHATRECORDRESPONSE`: a history message gets a unique id of its
    own. -/
def Item.history (i : Item) : ChattingRecord :=
  (chattingTextMsg i.sender i.receiver (quuid i.uniqueId) i.content).setMsgID i.msgId.repr

/-- The callback of `SERVICE_FRIENDING_ON_BIDDIRECTIONAL`. -/
def Item.confirmInfo (threadId : String) (i : Item) : FriendingConfirmInfo :=
  { messageType := .text, threadId := threadId, messageId := i.msgId.repr,
    messageSender := i.sender, messageReceiver := i.receiver, messageContent := i.content }

/-- What reaches a thread. -/
inductive Event
  | incoming (item : Item)
  | page (items : List Item) (next : String)
  | acknowledge (uniqueId : String) (msgId : Nat)
  | confirm (items : List Item)
  | send (sender receiver u content : String)
  deriving Repr

def handle (t : UserChatThread) : Event → UserChatThread
  | .incoming item => t.slotIncomingMsg .text item.live
  | .page items next => t.slotUpdateChatMsg (items.map Item.history) next
  | .acknowledge uniqueId msgId => t.promoteLocalToVerified uniqueId msgId.repr
  | .confirm items => t.addHistory (items.map fun i => (i.uniqueId, i.confirmInfo t.threadId))
  | .send sender receiver u content =>
    t.insertMessage (chattingTextMsg sender receiver (quuid u) content)

/-- The ids of the messages an event brings. -/
def Event.arrives : Event → List Nat
  | .incoming item => [item.msgId]
  | .page items _ => items.map Item.msgId
  | .acknowledge _ _ => []
  | .confirm items => items.map Item.msgId
  | .send _ _ _ _ => []

def new (threadId : String) (type : UserChatType) : UserChatThread :=
  { threadId := threadId, lastFetchedMsgId := "", userChatType := type, lastMessage := none,
    recordStorge := .empty }

/-! ## One copy of every message -/

/-- A thread and the ids of the messages that have arrived for it. -/
structure Watched where
  thread : UserChatThread
  arrived : List Nat

def Watched.step (w : Watched) (e : Event) : Option Watched :=
  some { thread := w.thread.handle e, arrived := w.arrived ++ e.arrives }

def Watched.init (threadId : String) (type : UserChatType) : Watched :=
  { thread := new threadId type, arrived := [] }

/-- The id stands in the message, as its message id or as its unique id. -/
def carries (id : Nat) (m : ChattingRecord) : Bool :=
  m.msgId = id.repr || m.uniqueId = id.repr

/-- No id in two nodes, and every message that arrived is there, verified under its id. -/
structure Watched.Single (w : Watched) : Prop where
  once : ∀ id, w.thread.dumpAll.countP (carries id) ≤ 1
  verified : ∀ id ∈ w.arrived,
    ∃ m ∈ w.thread.dumpAll, m.status = true ∧ m.msgId = id.repr

/-- No live message, and no acknowledgement of a local message with an id that is verified. -/
def Watched.Quiet (w : Watched) : Event → Prop
  | .incoming _ => False
  | .acknowledge uniqueId msgId => uniqueId ≠ "" →
      w.thread.recordStorge.localMsgIndex uniqueId ≠ none →
      w.thread.recordStorge.verifyMessage msgId.repr = none
  | _ => True

/-! ## The invariant -/

theorem quuid_ne_repr (u : String) (n : Nat) : quuid u ≠ n.repr := by
  intro h
  have hmem : '\x7b' ∈ n.repr.toList := by
    rw [← h]
    simp [quuid]
  exact absurd (Text.isDigit_of_mem_repr hmem) (by decide)

/-- What the messages of a quiet run look like. -/
structure WellFormed (m : ChattingRecord) : Prop where
  uniqueId : ∃ u, m.uniqueId = quuid u
  onLocal : m.status = false → m.msgId = ""
  verified : m.status = true → ∃ n : Nat, m.msgId = n.repr

/-- The buffer of a quiet run, and the ids that have arrived. -/
structure Inv (b : MessageBuffer) (arrived : List Nat) : Prop where
  rep : b.RepInv
  wellFormed : ∀ m ∈ b.dumpAllChatData, WellFormed m
  seen : ∀ id ∈ arrived, b.index (.verified id.repr) ≠ none

theorem inv_empty : Inv .empty [] where
  rep := MessageBuffer.repInv_empty
  wellFormed := by simp [MessageBuffer.dumpAllChatData, MessageBuffer.empty, NodeList.values]
  seen := by simp

theorem wellFormed_history (i : Item) : WellFormed i.history where
  uniqueId := ⟨i.uniqueId, rfl⟩
  onLocal := fun h => by cases h
  verified := fun _ => ⟨i.msgId, rfl⟩

theorem wellFormed_send (sender receiver u content : String) :
    WellFormed (chattingTextMsg sender receiver (quuid u) content) where
  uniqueId := ⟨u, rfl⟩
  onLocal := fun _ => rfl
  verified := fun h => by cases h

theorem keyOf_verified {m : ChattingRecord} (h : m.status = true) :
    keyOf m = .verified m.msgId := by
  simp [keyOf, ChattingRecord.isOnLocal, h]

/-- A message of a quiet run that carries an id is verified under it. -/
theorem WellFormed.carries_iff {m : ChattingRecord} (hm : WellFormed m) (id : Nat) :
    carries id m = true ↔ m.status = true ∧ m.msgId = id.repr := by
  obtain ⟨u, hu⟩ := hm.uniqueId
  have hne := quuid_ne_repr u id
  cases hstatus : m.status with
  | false => simp [carries, hu, hne, hm.onLocal hstatus, (Text.repr_ne_empty id).symm]
  | true => simp [carries, hu, hne]

/-- Inserting a well-formed message keeps the invariant. -/
theorem inv_insertMessage {b : MessageBuffer} {arrived : List Nat} (h : Inv b arrived)
    {m : ChattingRecord} (hm : WellFormed m) : Inv (b.insertMessage m).2 arrived where
  rep := by
    refine ((MessageBuffer.keeps_insertMessage_iff h.rep m).mpr ?_).1
    intro hstatus _ _
    obtain ⟨n, hn⟩ := hm.verified hstatus
    rw [hn, Text.trimmed_repr]
  wellFormed := by
    intro m' hm'
    rcases MessageBuffer.mem_insertMessage hm' with hold | rfl
    · exact h.wellFormed m' hold
    · exact hm
  seen := fun id hid => MessageBuffer.insertMessage_index_ne_none m (h.seen id hid)

theorem inv_insert_history {b : MessageBuffer} {arrived : List Nat} (h : Inv b arrived)
    (i : Item) : Inv (b.insertMessage i.history).2 (arrived ++ [i.msgId]) := by
  obtain ⟨hrep, hwf, hseen⟩ := inv_insertMessage h (wellFormed_history i)
  refine ⟨hrep, hwf, fun id hid => ?_⟩
  rcases List.mem_append.mp hid with hold | hnew
  · exact hseen id hold
  · obtain rfl := List.mem_singleton.mp hnew
    apply MessageBuffer.insertMessage_slot_ne_none
    have hmsg : i.history.msgId = i.msgId.repr := rfl
    rw [MessageBuffer.slot_verified rfl, hmsg, Text.trimmed_repr, if_neg (Text.repr_ne_empty _)]

theorem inv_foldl_history {t : UserChatThread} {arrived : List Nat}
    (h : Inv t.recordStorge arrived) (items : List Item) :
    Inv ((items.map Item.history).foldl insertMessage t).recordStorge
      (arrived ++ items.map Item.msgId) := by
  induction items generalizing t arrived with
  | nil => simpa using h
  | cons i items ih =>
    have hhead : Inv (t.insertMessage i.history).recordStorge (arrived ++ [i.msgId]) := by
      rw [insertMessage_recordStorge]
      exact inv_insert_history h i
    have htail := ih hhead
    rwa [List.append_assoc] at htail

/-- The messages of a confirmation are stored as those of a history page are. -/
theorem addHistory_confirm (t : UserChatThread) (threadId : String) (items : List Item) :
    t.addHistory (items.map fun i => (i.uniqueId, i.confirmInfo threadId)) =
      (items.map Item.history).foldl insertMessage t := by
  rw [addHistory, List.foldl_map, List.foldl_map]
  rfl

theorem inv_step {w w' : Watched} {e : Event} (h : Inv w.thread.recordStorge w.arrived)
    (hquiet : w.Quiet e) (hstep : w.step e = some w') :
    Inv w'.thread.recordStorge w'.arrived := by
  obtain rfl := Option.some.inj hstep
  cases e with
  | incoming item => exact hquiet.elim
  | page items next => exact inv_foldl_history h items
  | acknowledge uniqueId msgId =>
    have hsafe : w.thread.recordStorge.Safe (.updateVerificationStatus uniqueId msgId.repr) :=
      fun _ => hquiet
    have hsame := MessageBuffer.updateVerificationStatus_safe hsafe
    show Inv (w.thread.recordStorge.updateVerificationStatus uniqueId msgId.repr).2
      (w.arrived ++ [])
    rw [hsame, List.append_nil]
    exact h
  | confirm items =>
    show Inv (w.thread.addHistory _).recordStorge _
    rw [addHistory_confirm]
    exact inv_foldl_history h items
  | send sender receiver u content =>
    show Inv (w.thread.recordStorge.insertMessage _).2 (w.arrived ++ [])
    rw [List.append_nil]
    exact inv_insertMessage h (wellFormed_send ..)

theorem single_of_inv {w : Watched} (h : Inv w.thread.recordStorge w.arrived) : w.Single where
  once := by
    intro id
    refine (NodeList.countP_values_le_one_iff _ _).mpr fun n a n' b ha hb hca hcb => ?_
    have hwf (n : Nat) (a : ChattingRecord)
        (ha : (n, a) ∈ w.thread.recordStorge.messages.nodes) (hca : carries id a) :
        w.thread.recordStorge.index (.verified id.repr) = some n := by
      have hm := h.wellFormed a (NodeList.mem_values.mpr ⟨n, ha⟩)
      obtain ⟨hstatus, hid⟩ := (hm.carries_iff id).mp hca
      refine (h.rep.indexed n a ha _).mpr ?_
      rw [keyOf_verified hstatus, hid]
    exact Option.some.inj ((hwf n a ha hca).symm.trans (hwf n' b hb hcb))
  verified := by
    intro id hid
    obtain ⟨n, hn⟩ := Option.ne_none_iff_exists'.mp (h.seen id hid)
    obtain ⟨m, hm⟩ := h.rep.live _ n hn
    have hkey := (h.rep.indexed n m hm _).mp hn
    refine ⟨m, NodeList.mem_values.mpr ⟨n, hm⟩, ?_⟩
    cases hstatus : m.status with
    | false => simp [keyOf, ChattingRecord.isOnLocal, hstatus] at hkey
    | true =>
      rw [keyOf_verified hstatus] at hkey
      exact ⟨rfl, (Key.verified.inj hkey).symm⟩

/-! ## What breaks it -/

/-- A live message is stored once more, as a local one whose unique id is the server's id. -/
theorem not_single_incoming {w w' : Watched} {item : Item}
    (h : Inv w.thread.recordStorge w.arrived) (hstep : w.step (.incoming item) = some w') :
    ¬ w'.Single := by
  obtain rfl := Option.some.inj hstep
  let m := chattingTextMsg item.sender item.receiver item.msgId.repr item.content
  have hfree : w.thread.recordStorge.index (.onLocal item.msgId.repr) = none := by
    by_contra hne
    obtain ⟨n, hn⟩ := Option.ne_none_iff_exists'.mp hne
    obtain ⟨a, ha⟩ := h.rep.live _ n hn
    have hkey := (h.rep.indexed n a ha _).mp hn
    obtain ⟨u, hu⟩ := (h.wellFormed a (NodeList.mem_values.mpr ⟨n, ha⟩)).uniqueId
    unfold keyOf at hkey
    split at hkey
    · rw [hu] at hkey
      exact quuid_ne_repr u _ (Key.onLocal.inj hkey).symm
    · cases hkey
  have hslot : MessageBuffer.slot m = some (.onLocal item.msgId.repr) := by
    rw [MessageBuffer.slot_onLocal rfl]
    exact if_neg (Text.repr_ne_empty _)
  obtain ⟨-, hmessages, -⟩ := MessageBuffer.insertMessage_free w.thread.recordStorge hslot hfree
  have hdump : (w.thread.handle (.incoming item)).dumpAll = w.thread.dumpAll ++ [m] := by
    show (w.thread.recordStorge.insertMessage m).2.messages.values = _
    rw [hmessages, NodeList.pushBack_values]
    rfl
  intro hsingle
  obtain ⟨m', hm', hstatus, hid⟩ := hsingle.verified item.msgId (by simp [Event.arrives])
  have hcount := hsingle.once item.msgId
  simp only [hdump] at hm' hcount
  rcases List.mem_append.mp hm' with hold | hnew
  · have hpos : 0 < w.thread.dumpAll.countP (carries item.msgId) :=
      List.countP_pos_iff.mpr ⟨m', hold, by simp [carries, hid]⟩
    have hone : [m].countP (carries item.msgId) = 1 := by simp [m, carries, chattingTextMsg]
    rw [List.countP_append, hone] at hcount
    omega
  · rw [List.mem_singleton.mp hnew] at hstatus
    cases hstatus

/-- The acknowledgement of a local message with an id that is verified already leaves two messages
    with that id. -/
theorem not_single_acknowledge {w w' : Watched} {uniqueId : String} {msgId : Nat}
    (h : Inv w.thread.recordStorge w.arrived) (hloud : ¬ w.Quiet (.acknowledge uniqueId msgId))
    (hstep : w.step (.acknowledge uniqueId msgId) = some w') : ¬ w'.Single := by
  obtain rfl := Option.some.inj hstep
  simp only [Watched.Quiet, Classical.not_imp] at hloud
  obtain ⟨hunique, hlocal, hverify⟩ := hloud
  obtain ⟨node, hnode⟩ := Option.ne_none_iff_exists'.mp hlocal
  obtain ⟨other, hother⟩ := Option.ne_none_iff_exists'.mp hverify
  obtain ⟨m, hm⟩ := h.rep.live (.onLocal uniqueId) node hnode
  obtain ⟨m', hm'⟩ := h.rep.live (.verified msgId.repr) other hother
  have hkey := (h.rep.indexed node m hm (.onLocal uniqueId)).mp hnode
  have hkey' := (h.rep.indexed other m' hm' (.verified msgId.repr)).mp hother
  have hne : other ≠ node := by
    intro heq
    subst heq
    have := (h.rep.indexed other m hm (.verified msgId.repr)).mp hother
    rw [← hkey] at this
    cases this
  have hid : m'.msgId = msgId.repr := by
    unfold keyOf at hkey'
    split at hkey'
    · cases hkey'
    · exact (Key.verified.inj hkey').symm
  have hmutated := MessageBuffer.updateVerificationStatus_taken hunique
    (Text.repr_ne_empty msgId) hnode hother
  intro hsingle
  have honce := (NodeList.countP_values_le_one_iff _ _).mp (hsingle.once msgId)
  simp only [handle, promoteLocalToVerified, hmutated] at honce
  exact hne (honce other m' node (m.setMsgID msgId.repr) (NodeList.mem_modify_of_ne _ hm' hne)
    (NodeList.mem_modify_self _ hm) (by simp [carries, hid])
    (by simp [carries, ChattingRecord.setMsgID]))

/-- A run stores every server message once, verified under its id, exactly when it is quiet. -/
theorem always_single_iff_quiet (threadId : String) (type : UserChatType) (es : List Event) :
    Trace.Always Watched.step Watched.Single (.init threadId type) es ↔
      Trace.Meets Watched.step Watched.Quiet (.init threadId type) es := by
  apply Trace.always_iff_meets fun w => Inv w.thread.recordStorge w.arrived
  · intro w h
    exact single_of_inv h
  · intro w e w' h hquiet hstep
    exact inv_step h hquiet hstep
  · intro w e w' h hloud hstep
    cases e with
    | incoming item => exact not_single_incoming h hstep
    | acknowledge uniqueId msgId => exact not_single_acknowledge h hloud hstep
    | page items next => exact absurd trivial hloud
    | confirm items => exact absurd trivial hloud
    | send sender receiver u content => exact absurd trivial hloud
  · exact inv_empty

/-- The same message live and then in a history page leaves two copies. -/
theorem not_single_live_then_history :
    ¬ Trace.Always Watched.step Watched.Single (.init "1" .privateChat)
      [.incoming ⟨"2", "1", "a", 7, "hi"⟩, .page [⟨"2", "1", "b", 7, "hi"⟩] "7"] := by
  intro h
  have hlast := (h.2 _ rfl).2 _ rfl
  exact absurd (hlast.once 7) (by decide)

end UserChatThread

end DistributedIM.Client
