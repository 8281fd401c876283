/-
  Sending texts: `SyncLogic::handlingTextChatMsg`. The items are stored first. Only then the server
  of the receiver is looked up in Redis, and without an entry the sender is told of an error, as if
  nothing had been stored. After the reply that acknowledges the items, a receiver who should be on
  this server and is not costs a second reply, an error of the friending service.

  Replies are what the handler hands to `sendMessage` of the requester's session; what becomes of
  them there is the subject of `Session`. How the call to another server ends is only logged.
-/
import Mathlib.Data.List.Forall2
import DistributedIM.ChattingServer.MessageThreads
import DistributedIM.ChattingServer.Requests

namespace DistributedIM.ChattingServer

/-! ## The request -/

/-- `chat::TextMsgInfo`: a message with the sender's own id of it. -/
structure TextMsgInfo where
  uniqueId : String
  info : MsgInfo
  deriving DecidableEq, Repr

structure TextChatMsg where
  threadId : String
  sender : String
  receiver : String
  updatedMsg : List TextMsgInfo
  deriving DecidableEq, Repr

def TextChatMsg.infos (request : TextChatMsg) : List MsgInfo :=
  request.updatedMsg.map TextMsgInfo.info

def readTextItem (threadId : String) (obj : Json.Object) : Reading TextMsgInfo := do
  let uniqueId ← textField obj "unique_id"
  let msgSender ← textField obj "msg_sender"
  let msgReceiver ← textField obj "msg_receiver"
  let msgContent ← textField obj "msg_content"
  return ⟨uniqueId, ⟨threadId, msgSender, msgReceiver, msgContent, none⟩⟩

/-- An item that is no object is skipped. -/
def readTextItems (threadId : String) : List Json → Reading (List TextMsgInfo)
  | [] => return []
  | .object obj :: arr => do
    let item ← readTextItem threadId obj
    return item :: (← readTextItems threadId arr)
  | _ :: arr => readTextItems threadId arr

def readTextChatMsg (root : Json.Object) : Reading TextChatMsg := do
  requireFields root ["text_sender", "text_receiver", "text_msg", "thread_id"]
    ⟨.textChatMsgResponse, .jsonparseError⟩
  let threadId ← textField root "thread_id"
  let sender ← textField root "text_sender"
  let receiver ← textField root "text_receiver"
  requireNumbers [sender, receiver] ⟨.textChatMsgResponse, .jsonparseError⟩
  match root.get "text_msg" with
  | .array arr => return ⟨threadId, sender, receiver, ← readTextItems threadId arr⟩
  | _ => throw (some ⟨.textChatMsgResponse, .loginUnsuccessful⟩)

/-! ## What is sent -/

/-- An item of `verified_msg`. -/
structure VerifiedMsg where
  threadId : String
  uniqueId : String
  msgId : String
  deriving DecidableEq, Repr

/-- A message to the requester. -/
inductive TextChatReply
  | error (message : ErrorMessage)
  | success (textSender textReceiver : String) (verifiedMsg : List VerifiedMsg)
  deriving DecidableEq, Repr

/-- `message::ChattingHistoryData`, and an item of `text_msg`. -/
structure ChattingHistoryData where
  msgType : Nat
  msgStatus : Nat
  msgSender : String
  msgReceiver : String
  msgId : String
  threadId : String
  uniqueId : String
  msgContent : String
  deriving DecidableEq, Repr

/-- `SERVICE_TEXTCHATMSGICOMINGREQUEST` -/
structure IncomingTexts where
  destination : Destination
  textSender : String
  textReceiver : String
  textMsg : List ChattingHistoryData
  deriving DecidableEq, Repr

/-- `chat::MsgType::TEXT` -/
def msgTypeText : Nat := 1

/-- An item that is not verified is left out. -/
def TextMsgInfo.mapping (threadId : String) (item : TextMsgInfo) : Option VerifiedMsg :=
  item.info.messageId.map fun msgId => ⟨threadId, item.uniqueId, msgId⟩

def TextMsgInfo.dataItem (msgStatus : Nat) (item : TextMsgInfo) : Option ChattingHistoryData :=
  item.info.messageId.map fun msgId =>
    ⟨msgTypeText, msgStatus, item.info.msgSender, item.info.msgReceiver, msgId,
      item.info.threadId, item.uniqueId, item.info.msgContent⟩

/-- What follows when the items are stored. -/
def deliverTextChatMsg (c : Cluster) (sid : SessionId) (get : Bool) (request : TextChatMsg)
    (updatedMsg : List TextMsgInfo) : List TextChatReply × List IncomingTexts :=
  match c.redis.checkValue request.receiver get with
  | none => ([.error ⟨.textChatMsgResponse, .redisUnkownError⟩], [])
  | some server =>
    let success := .success request.sender request.receiver
      (updatedMsg.filterMap (TextMsgInfo.mapping request.threadId))
    let forward (destination : Destination) (msgStatus : Nat) : IncomingTexts :=
      ⟨destination, request.sender, request.receiver,
        updatedMsg.filterMap (TextMsgInfo.dataItem msgStatus)⟩
    if server = (c.session sid).server then
      match c.getSession server request.receiver with
      | none => ([success, .error ⟨.friendSenderResponse, .friendingTargetUserNotFound⟩], [])
      -- the status sent to a session here is the type
      | some receiver => ([success], [forward (.session receiver) msgTypeText])
    else ([success], [forward (.server server) 0])

structure TextChatOutcome where
  conn : DbConn
  replies : List TextChatReply
  forwards : List IncomingTexts

/-- The handler once the request is read. -/
def storeTextChatMsg (sql : MySql) (c : Cluster) (sid : SessionId) (get : Bool)
    (request : TextChatMsg) (conn : DbConn) : TextChatOutcome :=
  match createModifyChattingHistoryRecords sql request.infos true conn with
  | ((.error _, _), conn) => ⟨conn, [], []⟩
  | ((.ok false, _), conn) => ⟨conn, [.error ⟨.textChatMsgResponse, .mysqlInternalError⟩], []⟩
  | ((.ok true, infos), conn) =>
    let updatedMsg := List.zipWith (fun item info => { item with info := info })
      request.updatedMsg infos
    let sent := deliverTextChatMsg c sid get request updatedMsg
    ⟨conn, sent.1, sent.2⟩

def handlingTextChatMsg (sql : MySql) (c : Cluster) (sid : SessionId) (get : Bool)
    (body : Option Json) (conn : DbConn) : TextChatOutcome :=
  let (errors, root) := parseJson body
  match readTextChatMsg root with
  | .error refusal => ⟨conn, (errors ++ refusal.toList).map .error, []⟩
  | .ok request =>
    let out := storeTextChatMsg sql c sid get request conn
    { out with replies := errors.map .error ++ out.replies }

/-! ## The rows of a list of messages -/

/-- The row is what the message is stored as. -/
structure MsgInfo.StoredAs (sql : MySql) (t : Tables) (info : MsgInfo) (row : ChatMsg) : Prop where
  place : info.landing sql t = some row.place
  content : row.messageContent = info.msgContent

/-- The loop ends at the first message that is not stored, or goes on behind its row. -/
theorem records_cons {sql : MySql} {info : MsgInfo} {infos infos' : List MsgInfo}
    {c c' : DbConn} {r : Except Exn Bool}
    (h : createModifyChattingHistoryRecords sql (info :: infos) true c = ((r, infos'), c')) :
    (c'.store.tables = c.store.tables ∧ infos' = info :: infos ∧ r ≠ .ok true) ∨
      ∃ a b thread c₁ infos₁, info.landing sql c.store.tables = some (a, b, thread) ∧
        c₁.store = addMsg thread 0 a b info.msgContent c.store ∧
        createModifyChattingHistoryRecords sql infos true c₁ = ((r, infos₁), c') ∧
        infos' = info.setMsgID (c.store.counters.chatMsgHistoryBank + 1).repr :: infos₁ := by
  have hfalse (c : DbConn) :
      createModifyChattingHistoryRecords sql infos false c = ((.ok false, infos), c) := by
    cases infos <;> rfl
  unfold createModifyChattingHistoryRecords at h
  cases hcall : createModifyChattingHistoryRecord sql info c with
  | mk r₁ c₁ =>
    rw [hcall] at h
    obtain ⟨htables, rfl | ⟨err, rfl⟩⟩ | ⟨a, b, thread, hland, hstore, rfl⟩ :=
      createModifyChattingHistoryRecord_cases hcall
    · simp only [hfalse] at h
      obtain ⟨hr, rfl⟩ := Prod.mk.inj h
      obtain ⟨rfl, rfl⟩ := Prod.mk.inj hr
      exact Or.inl ⟨htables, rfl, by simp⟩
    · obtain ⟨hr, rfl⟩ := Prod.mk.inj h
      obtain ⟨rfl, rfl⟩ := Prod.mk.inj hr
      exact Or.inl ⟨htables, rfl, by simp⟩
    · obtain ⟨hr, rfl⟩ := Prod.mk.inj h
      obtain ⟨rfl, rfl⟩ := Prod.mk.inj hr
      exact Or.inr ⟨a, b, thread, c₁, _, hland, hstore, rfl, rfl⟩

/-- A list of messages adds the rows of its first messages, which have their ids then; of all of
    them, if the call answers true. -/
theorem records_cases {sql : MySql} {infos infos' : List MsgInfo} {c c' : DbConn}
    {r : Except Exn Bool}
    (h : createModifyChattingHistoryRecords sql infos true c = ((r, infos'), c')) :
    ∃ rows, c'.store.tables = { c.store.tables with
        chatMsgHistoryBank := c.store.tables.chatMsgHistoryBank ++ rows } ∧
      List.Forall₂ (MsgInfo.StoredAs sql c.store.tables) (infos.take rows.length) rows ∧
      infos' = List.zipWith (fun info row => info.setMsgID row.messageId.repr) infos rows ++
        infos.drop rows.length ∧
      (r = .ok true → rows.length = infos.length) := by
  have hnone {s s' : DbStore} (htables : s'.tables = s.tables) : s'.tables = { s.tables with
      chatMsgHistoryBank := s.tables.chatMsgHistoryBank ++ [] } := by
    rw [List.append_nil, htables]
  induction infos generalizing c infos' with
  | nil =>
    obtain ⟨hr, rfl⟩ := Prod.mk.inj h
    obtain ⟨-, rfl⟩ := Prod.mk.inj hr
    exact ⟨[], hnone rfl, .nil, rfl, fun _ => rfl⟩
  | cons info infos ih =>
    obtain ⟨htables, rfl, hfail⟩ | ⟨a, b, thread, c₁, infos₁, hland, hstore, hrest, rfl⟩ :=
      records_cons h
    · exact ⟨[], hnone htables, .nil, rfl, fun hok => absurd hok hfail⟩
    · obtain ⟨rows, htables, hrows, rfl, hall⟩ := ih hrest
      let row : ChatMsg :=
        ⟨c.store.counters.chatMsgHistoryBank + 1, thread, 0, a, b, info.msgContent⟩
      refine ⟨row :: rows, ?_, .cons ⟨hland, rfl⟩ ?_, rfl, fun hok => ?_⟩
      · rw [htables, hstore]
        exact congrArg (fun bank => { c.store.tables with chatMsgHistoryBank := bank })
          (List.append_assoc _ [row] rows)
      · -- the landings look at the tables other than that of the messages
        rw [hstore] at hrows
        exact hrows.imp fun _ _ hrow => ⟨hrow.place, hrow.content⟩
      · exact congrArg Nat.succ (hall hok)

/-- What is stored lands where it should. -/
theorem landings_eq_of_storedAs {sql : MySql} {t : Tables} {infos : List MsgInfo}
    {rows : List ChatMsg} (h : List.Forall₂ (MsgInfo.StoredAs sql t) infos rows) :
    landings sql t infos = rows.map ChatMsg.place := by
  induction h with
  | nil => rfl
  | cons hrow _ ih => simp only [landings, hrow.place, ih, List.map_cons]

theorem exists_row_of_storedAs {sql : MySql} {t : Tables} {infos : List MsgInfo}
    {rows : List ChatMsg} (h : List.Forall₂ (MsgInfo.StoredAs sql t) infos rows) {info : MsgInfo}
    (hinfo : info ∈ infos) : ∃ row ∈ rows, info.StoredAs sql t row := by
  induction h with
  | nil => cases hinfo
  | @cons head row _ rows hrow _ ih =>
    rcases List.mem_cons.mp hinfo with rfl | htail
    · exact ⟨row, List.mem_cons_self, hrow⟩
    · obtain ⟨row', hmem, hstored⟩ := ih htail
      exact ⟨row', List.mem_cons_of_mem row hmem, hstored⟩

theorem landings_prefix (sql : MySql) (t : Tables) (infos infos' : List MsgInfo) :
    landings sql t infos <+: landings sql t (infos ++ infos') := by
  induction infos with
  | nil => exact List.nil_prefix
  | cons info infos ih =>
    simp only [List.cons_append, landings]
    split
    · exact List.nil_prefix
    · exact List.cons_prefix_cons.mpr ⟨rfl, ih⟩

/-- A row is where a message lands. -/
theorem mem_landings_of_storedAs {sql : MySql} {t : Tables} {infos : List MsgInfo}
    {rows : List ChatMsg} {n : Nat}
    (h : List.Forall₂ (MsgInfo.StoredAs sql t) (infos.take n) rows) {row : ChatMsg}
    (hrow : row ∈ rows) : row.place ∈ landings sql t infos := by
  have hprefix := landings_prefix sql t (infos.take n) (infos.drop n)
  rw [List.take_append_drop, landings_eq_of_storedAs h] at hprefix
  exact hprefix.subset (List.mem_map_of_mem hrow)

/-- The numbers of a landing are those that its message names. -/
theorem MsgInfo.stoi_of_landing {sql : MySql} {t : Tables} {info : MsgInfo} {x : Nat × Nat × Nat}
    (h : info.landing sql t = some x) :
    Text.stoi info.msgSender = some (x.1 : Int) ∧
      Text.stoi info.msgReceiver = some (x.2.1 : Int) := by
  unfold MsgInfo.landing at h
  split at h
  · cases h
  · split at h
    · rename_i a b ha hb
      split at h
      · rename_i hchecks
        obtain ⟨⟨u, -, rfl⟩, ⟨v, -, rfl⟩, -⟩ := hchecks
        obtain ⟨thread, -, rfl⟩ := Option.map_eq_some_iff.mp h
        exact ⟨ha, hb⟩
      · cases h
    · cases h

/-! ## Acknowledgements -/

/-- The request is read, and its items are reported to be stored. -/
structure Stored (sql : MySql) (body : Option Json) (conn : DbConn) (request : TextChatMsg) :
    Prop where
  read : readTextChatMsg (parseJson body).2 = .ok request
  stored : (createModifyChattingHistoryRecords sql request.infos true conn).1.1 = .ok true

/-- The rows of the items have been added, and the one reply maps the unique id of each item to
    the id of its row. -/
def Acknowledged (sql : MySql) (request : TextChatMsg) (conn : DbConn) (out : TextChatOutcome) :
    Prop :=
  ∃ rows,
    out.conn.store.tables.chatMsgHistoryBank = conn.store.tables.chatMsgHistoryBank ++ rows ∧
    List.Forall₂ (MsgInfo.StoredAs sql conn.store.tables) request.infos rows ∧
    out.replies = [.success request.sender request.receiver
      (List.zipWith (fun item row => ⟨request.threadId, item.uniqueId, row.messageId.repr⟩)
        request.updatedMsg rows)]

/-- Redis names a server for the receiver, who has a session there if it is this one. -/
def Routed (c : Cluster) (sid : SessionId) (get : Bool) (receiver : String) : Prop :=
  ∃ server ∈ c.redis.checkValue receiver get,
    server = (c.session sid).server → (c.getSession server receiver).isSome

instance (c : Cluster) (sid : SessionId) (get : Bool) (receiver : String) :
    Decidable (Routed c sid get receiver) :=
  inferInstanceAs (Decidable (∃ server ∈ _, _ → _))

theorem parseJson_of_read {body : Option Json} {request : TextChatMsg}
    (h : readTextChatMsg (parseJson body).2 = .ok request) : (parseJson body).1 = [] := by
  unfold parseJson at h ⊢
  split at h
  · rfl
  · cases h

/-- All items of a stored request are in the mapping. -/
theorem filterMap_mapping (threadId : String) {items : List TextMsgInfo} {rows : List ChatMsg}
    (h : rows.length = items.length) :
    (List.zipWith (fun item info => { item with info := info }) items
        (List.zipWith (fun info row => MsgInfo.setMsgID info row.messageId.repr)
          (items.map TextMsgInfo.info) rows)).filterMap (TextMsgInfo.mapping threadId) =
      List.zipWith (fun item row => ⟨threadId, item.uniqueId, row.messageId.repr⟩) items rows := by
  induction items generalizing rows with
  | nil => rfl
  | cons item items ih =>
    cases rows with
    | nil => cases h
    | cons row rows => exact congrArg _ (ih (Nat.succ.inj h))

/-- The success is the one reply exactly when the receiver is found. -/
theorem replies_deliverTextChatMsg_iff (c : Cluster) (sid : SessionId) (get : Bool)
    (request : TextChatMsg) (updatedMsg : List TextMsgInfo) :
    (deliverTextChatMsg c sid get request updatedMsg).1 =
        [.success request.sender request.receiver
          (updatedMsg.filterMap (TextMsgInfo.mapping request.threadId))] ↔
      Routed c sid get request.receiver := by
  unfold deliverTextChatMsg Routed
  cases hserver : c.redis.checkValue request.receiver get with
  | none => simp
  | some server =>
    simp only [Option.mem_def, Option.some.injEq, exists_eq_left']
    split
    · rename_i hhere
      rw [imp_iff_right hhere]
      cases c.getSession server request.receiver with
      | none => simp
      | some receiver => simp
    · rename_i hthere
      simp [hthere]

theorem handlingTextChatMsg_of_stored {sql : MySql} {body : Option Json} {conn conn' : DbConn}
    {request : TextChatMsg} {infos : List MsgInfo}
    (hread : readTextChatMsg (parseJson body).2 = .ok request)
    (hcall : createModifyChattingHistoryRecords sql request.infos true conn =
      ((.ok true, infos), conn')) (c : Cluster) (sid : SessionId) (get : Bool) :
    (handlingTextChatMsg sql c sid get body conn).conn = conn' ∧
      (handlingTextChatMsg sql c sid get body conn).replies =
        (deliverTextChatMsg c sid get request
          (List.zipWith (fun item info => { item with info := info })
            request.updatedMsg infos)).1 := by
  simp only [handlingTextChatMsg, storeTextChatMsg, hread, hcall, parseJson_of_read hread,
    List.map_nil, List.nil_append, and_self]

/-- What is forwarded are messages of the request. -/
theorem mem_dataItems {items : List TextMsgInfo} {infos : List MsgInfo} {rows : List ChatMsg}
    (hinfos : infos = List.zipWith (fun info row => MsgInfo.setMsgID info row.messageId.repr)
      (items.map TextMsgInfo.info) rows) {msgStatus : Nat} {m : ChattingHistoryData}
    (h : m ∈ (List.zipWith (fun item info => { item with info := info }) items infos).filterMap
      (TextMsgInfo.dataItem msgStatus)) :
    ∃ item ∈ items, m.msgSender = item.info.msgSender ∧ m.msgReceiver = item.info.msgReceiver := by
  subst hinfos
  induction items generalizing rows with
  | nil => cases h
  | cons item items ih =>
    cases rows with
    | nil => cases h
    | cons row rows =>
      rcases List.mem_cons.mp h with rfl | htail
      · exact ⟨item, List.mem_cons_self, rfl, rfl⟩
      · obtain ⟨item', hitem, hsame⟩ := ih htail
        exact ⟨item', List.mem_cons_of_mem item hitem, hsame⟩

theorem forwards_deliverTextChatMsg {c : Cluster} {sid : SessionId} {get : Bool}
    {request : TextChatMsg} {updatedMsg : List TextMsgInfo} {f : IncomingTexts}
    (h : f ∈ (deliverTextChatMsg c sid get request updatedMsg).2) :
    Routed c sid get request.receiver ∧ f.textSender = request.sender ∧
      f.textReceiver = request.receiver ∧
      ∃ msgStatus, f.textMsg = updatedMsg.filterMap (TextMsgInfo.dataItem msgStatus) := by
  unfold deliverTextChatMsg at h
  unfold Routed
  cases hserver : c.redis.checkValue request.receiver get with
  | none =>
    rw [hserver] at h
    cases h
  | some server =>
    simp only [hserver] at h
    simp only [Option.mem_def, Option.some.injEq, exists_eq_left']
    split at h
    · split at h
      · cases h
      · rename_i receiver hreceiver
        obtain rfl := List.mem_singleton.mp h
        exact ⟨fun _ => by rw [hreceiver]; rfl, rfl, rfl, msgTypeText, rfl⟩
    · rename_i hthere
      obtain rfl := List.mem_singleton.mp h
      exact ⟨fun hhere => absurd hhere hthere, rfl, rfl, 0, rfl⟩

/-- A request that is not read changes nothing. One that is read stores rows of its first messages,
    and forwards nothing unless it stores them all and its receiver is found. -/
theorem handlingTextChatMsg_cases (sql : MySql) (c : Cluster) (sid : SessionId) (get : Bool)
    (body : Option Json) (conn : DbConn) :
    let out := handlingTextChatMsg sql c sid get body conn
    ((readTextChatMsg (parseJson body).2).toOption = none ∧ out.conn = conn ∧
        out.forwards = []) ∨
      ∃ request rows, readTextChatMsg (parseJson body).2 = .ok request ∧
        out.conn.store.tables = { conn.store.tables with
          chatMsgHistoryBank := conn.store.tables.chatMsgHistoryBank ++ rows } ∧
        List.Forall₂ (MsgInfo.StoredAs sql conn.store.tables)
          (request.infos.take rows.length) rows ∧
        ∀ f ∈ out.forwards, rows.length = request.infos.length ∧
          Routed c sid get request.receiver ∧ f.textSender = request.sender ∧
          f.textReceiver = request.receiver ∧ ∀ m ∈ f.textMsg, ∃ item ∈ request.updatedMsg,
            m.msgSender = item.info.msgSender ∧ m.msgReceiver = item.info.msgReceiver := by
  intro out
  cases hread : readTextChatMsg (parseJson body).2 with
  | error refusal =>
    left
    simp only [out, handlingTextChatMsg, hread, Except.toOption, and_self]
  | ok request =>
    right
    cases hcall : createModifyChattingHistoryRecords sql request.infos true conn with
    | mk p conn' =>
      obtain ⟨r, infos'⟩ := p
      obtain ⟨rows, htables, hrows, hinfos, hall⟩ := records_cases hcall
      refine ⟨request, rows, rfl, ?_, hrows, ?_⟩
      · rw [← htables]
        simp only [out, handlingTextChatMsg, storeTextChatMsg, hread, hcall]
        cases r with
        | error err => rfl
        | ok status => cases status <;> rfl
      · intro f hf
        simp only [out, handlingTextChatMsg, storeTextChatMsg, hread, hcall] at hf
        cases r with
        | error err => cases hf
        | ok status =>
          cases status with
          | false => cases hf
          | true =>
            obtain ⟨hrouted, hsender, hreceiver, msgStatus, hmsgs⟩ :=
              forwards_deliverTextChatMsg hf
            have hlength : rows.length = request.infos.length := hall rfl
            rw [hlength, List.drop_length, List.append_nil] at hinfos
            refine ⟨hlength, hrouted, hsender, hreceiver, ?_⟩
            intro m hm
            rw [hmsgs] at hm
            exact mem_dataItems hinfos hm

/-- A stored request is acknowledged, by one reply, exactly when its receiver is found. -/
theorem acknowledged_handlingTextChatMsg_iff {sql : MySql} {body : Option Json} {conn : DbConn}
    {request : TextChatMsg} (h : Stored sql body conn request) (c : Cluster) (sid : SessionId)
    (get : Bool) :
    Acknowledged sql request conn (handlingTextChatMsg sql c sid get body conn) ↔
      Routed c sid get request.receiver := by
  obtain ⟨hread, hstored⟩ := h
  cases hcall : createModifyChattingHistoryRecords sql request.infos true conn with
  | mk p conn' =>
    obtain ⟨r, infos'⟩ := p
    rw [hcall] at hstored
    obtain rfl : r = .ok true := hstored
    obtain ⟨hconn, hreplies⟩ := handlingTextChatMsg_of_stored hread hcall c sid get
    obtain ⟨rows, htables, hrows, hinfos, hall⟩ := records_cases hcall
    have hlength : rows.length = request.infos.length := hall rfl
    rw [hlength, List.take_length] at hrows
    rw [hlength, List.drop_length, List.append_nil] at hinfos
    have hbank : (handlingTextChatMsg sql c sid get body conn).conn.store.tables.chatMsgHistoryBank =
        conn.store.tables.chatMsgHistoryBank ++ rows := by
      rw [hconn, htables]
    have hrouted := replies_deliverTextChatMsg_iff c sid get request
      (List.zipWith (fun item info => { item with info := info }) request.updatedMsg infos')
    have hmapping := filterMap_mapping request.threadId (hlength.trans (List.length_map _))
    rw [← hreplies, hinfos, TextChatMsg.infos, hmapping] at hrouted
    rw [← hrouted]
    constructor
    · intro ⟨rows', hbank', _, hreplies'⟩
      obtain rfl := List.append_cancel_left (hbank'.symm.trans hbank)
      exact hreplies'
    · intro hsuccess
      exact ⟨rows, hbank, hrows, hsuccess⟩

/-- A text of user 1 to user 2. -/
def textToTwo : Json :=
  .object [("text_sender", .string "1"), ("text_receiver", .string "2"), ("thread_id", .string "1"),
    ("text_msg", .array [.object [("unique_id", .string "a"), ("msg_sender", .string "1"),
      ("msg_receiver", .string "2"), ("msg_content", .string "hi")]])]

def textToTwoRead : TextChatMsg :=
  ⟨"1", "1", "2", [⟨"a", ⟨"1", "1", "2", "hi", none⟩⟩]⟩

/-- Users 1 and 2 with their thread. -/
def chatOfTwo : DbConn where
  store := addPrivateChat ⟨1, 1, 2⟩ (registered [1, 2])
  faults := []

/-- User 2 is online on server "B"; the session of user 1 is on server "A". -/
def onlineElsewhere : Cluster :=
  { Cluster.init with
    session := fun _ => .accepted "A"
    redis := { Redis.init with server := fun uuid => if uuid = "2" then some "B" else none } }

theorem stored_textToTwo : Stored (.decimal true) (some textToTwo) chatOfTwo textToTwoRead :=
  ⟨by rfl, by decide⟩

theorem acknowledged_online_elsewhere :
    Stored (.decimal true) (some textToTwo) chatOfTwo textToTwoRead ∧
      (Acknowledged (.decimal true) textToTwoRead chatOfTwo
          (handlingTextChatMsg (.decimal true) onlineElsewhere 0 true (some textToTwo) chatOfTwo) ↔
        Routed onlineElsewhere 0 true "2") :=
  ⟨stored_textToTwo, acknowledged_handlingTextChatMsg_iff stored_textToTwo onlineElsewhere 0 true⟩

/-- User 2 is offline: the text of user 1 is stored, and answered with an error. -/
theorem not_acknowledged_offline :
    Stored (.decimal true) (some textToTwo) chatOfTwo textToTwoRead ∧
      ¬Acknowledged (.decimal true) textToTwoRead chatOfTwo
        (handlingTextChatMsg (.decimal true) .init 0 true (some textToTwo) chatOfTwo) := by
  refine ⟨stored_textToTwo, ?_⟩
  intro ⟨rows, _, _, hreplies⟩
  cases hreplies

end DistributedIM.ChattingServer
