/-
  Messages between users of one server and of two. What a handler of `SyncLogic` sends to a session
  of its own server is a JSON object it writes itself; for a user of another server it fills in a
  protobuf message, and `GrpcDistributedChattingImpl` writes the object there.

  `deliveries_agree_iff` compares the two objects. They are the same for a confirmation; for a
  friend request if the request writes its numbers as the other server prints them; and for texts
  only if there are none, since each item of `text_msg` loses `msg_type` and `msg_status` on the
  way.

  Left out: the answers to the gRPC calls, which are `HandlerEnv.grpc`, and the error a requester
  is sent when the confirmer has no profile.
-/
import DistributedIM.ChattingServer.FriendConfirmation
import DistributedIM.ChattingServer.FriendRequests
import DistributedIM.ChattingServer.TextChatMsg

namespace DistributedIM.ChattingServer

/-! ## What a session is sent -/

/-- The `ServiceType`s of what another user is sent. -/
inductive IncomingType
  | friendReIncomingRequest
  | friendingOnBidirectional
  | textChatMsgIncomingRequest
  deriving DecidableEq, Repr

structure Packet where
  type : IncomingType
  root : Json.Object

/-- The same service id, keys and values. -/
def Packet.Agrees (p q : Packet) : Prop :=
  p.type = q.type ∧ Json.Same (.object p.root) (.object q.root)

/-- `static_cast<uint8_t>(ServiceStatus::SERVICE_SUCCESS)` -/
def serviceSuccess : Json := .number "0"

/-- `static_cast<uint8_t>(m_sex)` -/
def UserNameCard.sexByte (card : UserNameCard) : Nat :=
  card.sex % 2 ^ 8

/-! ## Protobuf messages -/

namespace Message

/-- `message::FriendRequest` -/
structure FriendRequest where
  srcUuid : Int
  dstUuid : Int
  nickName : String
  reqMsg : String
  avatorPath : String
  username : String
  description : String
  sex : Int

/-- `message::AuthoriseMessage` -/
structure AuthoriseMessage where
  msgType : Int
  msgId : String
  msgSender : String
  msgReceiver : String
  helloMsg : String

/-- `message::AuthoriseRequest` -/
structure AuthoriseRequest where
  srcUuid : String
  dstUuid : String
  threadId : String
  userInfo : List FriendRequest
  msgPack : List AuthoriseMessage

/-- `message::ChattingTextMsgRequest` -/
structure ChattingTextMsgRequest where
  srcUuid : String
  dstUuid : String
  lists : List ChattingHistoryData

end Message

/-! ## The service on the other server -/

namespace GrpcDistributedChattingImpl

def friendRequestRoot (request : Message.FriendRequest) : Json.Object :=
  [("error", serviceSuccess), ("src_uuid", .string request.srcUuid.repr),
    ("dst_uuid", .string request.dstUuid.repr), ("src_nickname", .string request.nickName),
    ("src_message", .string request.reqMsg), ("src_avator", .string request.avatorPath),
    ("src_username", .string request.username), ("src_desc", .string request.description),
    ("src_sex", .number request.sex.repr)]

/-- `SendFriendRequest`: what the session is sent, if it is found. -/
def sendFriendRequest (getSession : String → Option SessionId) (request : Message.FriendRequest) :
    Option Packet :=
  (getSession request.dstUuid.repr).map fun _ =>
    ⟨.friendReIncomingRequest, friendRequestRoot request⟩

def allowMsgPacks : Nat := 2

def allowInfoPacks : Nat := 1

/-- An item of `hello_msg`. -/
def helloItem (server : Message.AuthoriseMessage) : Json :=
  .object
    [("msg_sender", .string server.msgSender), ("msg_receiver", .string server.msgReceiver),
      ("msg_id", .string server.msgId), ("msg_content", .string server.helloMsg),
      ("msg_type", .number server.msgType.repr)]

def confirmRoot (request : Message.AuthoriseRequest) (userInfo : Message.FriendRequest) :
    Json.Object :=
  [("error", serviceSuccess), ("chat_type", .string "PRIVATE"),
    ("thread_id", .string request.threadId), ("friend_uuid", .string request.dstUuid),
    ("friend_nickname", .string userInfo.nickName), ("friend_avator", .string userInfo.avatorPath),
    ("friend_username", .string userInfo.username), ("friend_desc", .string userInfo.description),
    ("friend_sex", .number userInfo.sex.repr),
    ("hello_msg", .array (request.msgPack.map helloItem))]

/-- `ConfirmFriendRequest` -/
def confirmFriendRequest (getSession : String → Option SessionId)
    (request : Message.AuthoriseRequest) : Option Packet :=
  if request.msgPack.length ≠ allowMsgPacks ∨ request.userInfo.length ≠ allowInfoPacks then none
  else
    match getSession request.srcUuid, request.userInfo with
    | some _, userInfo :: _ => some ⟨.friendingOnBidirectional, confirmRoot request userInfo⟩
    | _, _ => none

/-- An item of `text_msg`: the type and the status are not read. -/
def textItem (server : ChattingHistoryData) : Json :=
  .object
    [("thread_id", .string server.threadId), ("msg_sender", .string server.msgSender),
      ("msg_receiver", .string server.msgReceiver), ("msg_id", .string server.msgId),
      ("unique_id", .string server.uniqueId), ("msg_content", .string server.msgContent)]

def textRoot (request : Message.ChattingTextMsgRequest) : Json.Object :=
  [("error", serviceSuccess), ("text_sender", .string request.srcUuid),
    ("text_receiver", .string request.dstUuid),
    ("text_msg", .array (request.lists.map textItem))]

/-- `SendChattingTextMsg` -/
def sendChattingTextMsg (getSession : String → Option SessionId)
    (request : Message.ChattingTextMsgRequest) : Option Packet :=
  (getSession request.dstUuid).map fun _ => ⟨.textChatMsgIncomingRequest, textRoot request⟩

end GrpcDistributedChattingImpl

/-! ## What the handlers send -/

/-- An item of `text_msg` for a session here. -/
def ChattingHistoryData.textItem (item : ChattingHistoryData) : Json :=
  .object
    [("msg_type", .number item.msgType.repr), ("msg_status", .number item.msgStatus.repr),
      ("msg_sender", .string item.msgSender), ("msg_receiver", .string item.msgReceiver),
      ("msg_id", .string item.msgId), ("thread_id", .string item.threadId),
      ("unique_id", .string item.uniqueId), ("msg_content", .string item.msgContent)]

def IncomingTexts.dstRoot (f : IncomingTexts) : Json.Object :=
  [("error", serviceSuccess), ("text_sender", .string f.textSender),
    ("text_receiver", .string f.textReceiver),
    ("text_msg", .array (f.textMsg.map ChattingHistoryData.textItem))]

/-- What the receiver's session is sent. -/
def IncomingTexts.packet (c : Cluster) (f : IncomingTexts) : Option Packet :=
  match f.destination with
  | .session _ => some ⟨.textChatMsgIncomingRequest, f.dstRoot⟩
  | .server server =>
    GrpcDistributedChattingImpl.sendChattingTextMsg (c.getSession server)
      ⟨f.textSender, f.textReceiver, f.textMsg⟩

/-- The message for the other server. -/
def FriendRequestMsg.grpcRequest (request : FriendRequestMsg) (srcNamecard : UserNameCard) :
    Message.FriendRequest where
  srcUuid := toInt32 request.srcValue
  dstUuid := toInt32 request.dstValue
  nickName := request.nickname
  reqMsg := request.message
  avatorPath := srcNamecard.avatorPath
  username := srcNamecard.username
  description := srcNamecard.description
  sex := srcNamecard.sexByte

def IncomingFriendRequest.dstRoot (f : IncomingFriendRequest) : Json.Object :=
  [("error", serviceSuccess), ("src_uuid", .string f.srcUuid), ("dst_uuid", .string f.dstUuid),
    ("src_nickname", .string f.nickname), ("src_message", .string f.message),
    ("src_avator", .string f.card.avatorPath), ("src_username", .string f.card.username),
    ("src_desc", .string f.card.description), ("src_sex", .number f.card.sexByte.repr)]

/-- What the session of the user asked is sent. -/
def IncomingFriendRequest.packet (c : Cluster) (request : FriendRequestMsg)
    (f : IncomingFriendRequest) : Option Packet :=
  match f.destination with
  | .session _ => some ⟨.friendReIncomingRequest, f.dstRoot⟩
  | .server server =>
    GrpcDistributedChattingImpl.sendFriendRequest (c.getSession server)
      (request.grpcRequest f.card)

/-- An item of `message_arr`. -/
def FriendingConfirmInfo.helloItem (item : FriendingConfirmInfo) : Json :=
  .object
    [("msg_id", .string item.messageId), ("msg_sender", .string item.msgSender),
      ("msg_receiver", .string item.msgReceiver), ("msg_content", .string item.msgContent),
      ("msg_type", .number msgTypeText.repr)]

/-- `add_msg_pack` -/
def FriendingConfirmInfo.msgPack (item : FriendingConfirmInfo) : Message.AuthoriseMessage where
  msgType := msgTypeText
  msgId := item.messageId
  msgSender := item.msgSender
  msgReceiver := item.msgReceiver
  helloMsg := item.msgContent

/-- `add_user_info` -/
def NewFriend.userInfo (request : FriendConfirmMsg) (f : NewFriend) : Message.FriendRequest where
  srcUuid := request.requesterUuid
  dstUuid := request.confirmerUuid
  nickName := f.card.nickname
  reqMsg := ""
  avatorPath := f.card.avatorPath
  username := f.card.username
  description := f.card.description
  sex := f.card.sexByte

/-- The message for the other server. -/
def NewFriend.grpcRequest (request : FriendConfirmMsg) (f : NewFriend) :
    Message.AuthoriseRequest where
  srcUuid := request.srcUuid
  dstUuid := f.friendUuid
  threadId := f.threadId
  userInfo := [f.userInfo request]
  msgPack := f.helloMsg.map FriendingConfirmInfo.msgPack

/-- `generate_json` -/
def NewFriend.generateJson (f : NewFriend) : Json.Object :=
  [("error", serviceSuccess), ("friend_uuid", .string f.friendUuid),
    ("friend_username", .string f.card.username), ("friend_nickname", .string f.card.nickname),
    ("friend_avator", .string f.card.avatorPath), ("friend_desc", .string f.card.description),
    ("friend_sex", .number f.card.sexByte.repr), ("thread_id", .string f.threadId),
    ("chat_type", .string "PRIVATE"),
    ("hello_msg", .array (f.helloMsg.map FriendingConfirmInfo.helloItem))]

/-- What the requester's session is sent. -/
def NewFriend.packet (c : Cluster) (request : FriendConfirmMsg) (destination : Destination)
    (f : NewFriend) : Option Packet :=
  match destination with
  | .session _ => some ⟨.friendingOnBidirectional, f.generateJson⟩
  | .server server =>
    GrpcDistributedChattingImpl.confirmFriendRequest (c.getSession server)
      (f.grpcRequest request)

/-! ## Deliveries -/

/-- The services that forward to another user. -/
inductive Service
  | textChatMsg
  | friendRequestCreator
  | friendRequestConfirm
  deriving DecidableEq, Repr

/-- The text that names the receiver in a request. -/
def Service.receiver (service : Service) (root : Json.Object) : Option String :=
  match service with
  | .textChatMsg => (root.get "text_receiver").asText
  | .friendRequestCreator => (root.get "dst_uuid").asText
  | .friendRequestConfirm => (root.get "src_uuid").asText

/-- Where something is forwarded, and what the receiver's session is sent. -/
structure Delivery where
  destination : Destination
  packet : Option Packet

/-- Both receivers are sent the same. -/
def Delivery.Agrees (d d' : Delivery) : Prop :=
  ∃ p q, d.packet = some p ∧ d'.packet = some q ∧ p.Agrees q

def FriendConfirmForward.delivery (c : Cluster) (request : FriendConfirmMsg) :
    FriendConfirmForward → Option Delivery
  | .error _ _ => none
  | .newFriend destination friend => some ⟨destination, friend.packet c request destination⟩

/-- What a handler forwards. -/
def Service.deliveries (service : Service) (sql : MySql) (c : Cluster) (sid : SessionId)
    (env : HandlerEnv) (body : Option Json) (conn : DbConn) : List Delivery :=
  match service with
  | .textChatMsg =>
    (handlingTextChatMsg sql c sid env.get body conn).forwards.map fun f =>
      ⟨f.destination, f.packet c⟩
  | .friendRequestCreator =>
    match readFriendRequest (parseJson body).2 with
    | .error _ => []
    | .ok request =>
      (handlingFriendRequestCreator c sid env body conn).forwards.map fun f =>
        ⟨f.destination, f.packet c request⟩
  | .friendRequestConfirm =>
    match readFriendConfirm (parseJson body).2 with
    | .error _ => []
    | .ok request =>
      (handlingFriendRequestConfirm sql c sid env body conn).forwards.filterMap
        (FriendConfirmForward.delivery c request)

/-- A number written as the other server prints it. -/
def Plain (text : String) (value : Nat) : Prop :=
  text = value.repr ∧ value < 2 ^ 31

/-- What a request must be for both deliveries to be the same. -/
def Service.Alike (service : Service) (root : Json.Object) : Prop :=
  match service with
  | .textChatMsg => ∀ m, readTextChatMsg root = .ok m → m.updatedMsg = []
  | .friendRequestCreator => ∀ m, readFriendRequest root = .ok m →
      Plain m.srcUuid m.srcValue ∧ Plain m.dstUuid m.dstValue
  | .friendRequestConfirm => True

open GrpcDistributedChattingImpl (friendRequestRoot sendFriendRequest confirmRoot textRoot
  sendChattingTextMsg)

/-! ## Texts -/

theorem forwards_handlingTextChatMsg {sql : MySql} {c : Cluster} {sid : SessionId} {get : Bool}
    {body : Option Json} {conn : DbConn} {f : IncomingTexts}
    (h : f ∈ (handlingTextChatMsg sql c sid get body conn).forwards) :
    ∃ request infos conn', readTextChatMsg (parseJson body).2 = .ok request ∧
      createModifyChattingHistoryRecords sql request.infos true conn =
        ((.ok true, infos), conn') ∧
      f ∈ (deliverTextChatMsg c sid get request
        (List.zipWith (fun item info => { item with info := info })
          request.updatedMsg infos)).2 := by
  cases hread : readTextChatMsg (parseJson body).2 with
  | error refusal =>
    simp only [handlingTextChatMsg, hread] at h
    cases h
  | ok request =>
    cases hcall : createModifyChattingHistoryRecords sql request.infos true conn with
    | mk p conn' =>
      obtain ⟨r, infos⟩ := p
      simp only [handlingTextChatMsg, storeTextChatMsg, hread, hcall] at h
      obtain err | status := r
      · cases h
      · cases status with
        | false => cases h
        | true => exact ⟨request, infos, conn', rfl, hcall, h⟩

/-- Every item of a stored request is forwarded. -/
theorem filterMap_dataItem_eq_nil {items : List TextMsgInfo} {rows : List ChatMsg}
    (h : rows.length = items.length) (msgStatus : Nat) :
    (List.zipWith (fun item info => { item with info := info }) items
        (List.zipWith (fun info row => MsgInfo.setMsgID info row.messageId.repr)
          (items.map TextMsgInfo.info) rows)).filterMap (TextMsgInfo.dataItem msgStatus) = [] ↔
      items = [] := by
  cases items with
  | nil => simp
  | cons item items =>
    cases rows with
    | nil => cases h
    | cons row rows => simp [TextMsgInfo.dataItem, MsgInfo.setMsgID]

/-- An item is not sent with the same keys. -/
theorem not_same_textItem (item server : ChattingHistoryData) :
    ¬ Json.Same item.textItem (GrpcDistributedChattingImpl.textItem server) := by
  intro h
  have hrel := h.lookup "msg_type"
  simp [List.lookup_cons] at hrel

theorem same_textMsg_iff {items lists : List ChattingHistoryData} (h : items = [] ↔ lists = []) :
    Json.Same (.array (items.map ChattingHistoryData.textItem))
        (.array (lists.map GrpcDistributedChattingImpl.textItem)) ↔ items = [] := by
  constructor
  · intro hsame
    cases items with
    | nil => rfl
    | cons item items =>
      cases lists with
      | nil => cases h.mpr rfl
      | cons server lists =>
        cases hsame.items with
        | cons hhead _ => exact absurd hhead (not_same_textItem item server)
  · intro hnil
    rw [hnil, h.mp hnil]
    exact .array .nil

theorem same_textRoot_iff {sender receiver : String} {xs ys : List Json} :
    Json.Same
        (.object [("error", serviceSuccess), ("text_sender", .string sender),
          ("text_receiver", .string receiver), ("text_msg", .array xs)])
        (.object [("error", serviceSuccess), ("text_sender", .string sender),
          ("text_receiver", .string receiver), ("text_msg", .array ys)]) ↔
      Json.Same (.array xs) (.array ys) := by
  constructor
  · intro h
    simpa [List.lookup_cons] using h.lookup "text_msg"
  · intro h
    apply Json.Same.object_of_keys
    · simp
    · simp [List.lookup_cons, serviceSuccess, h]

theorem textField_eq_ok {root : Json.Object} {key text : String}
    (h : textField root key = .ok text) : (root.get key).asText = some text := by
  unfold textField at h
  split at h
  · cases h
  · rename_i htext
    rw [htext, Except.ok.inj h]

theorem receiver_of_readTextChatMsg {root : Json.Object} {m : TextChatMsg}
    (h : readTextChatMsg root = .ok m) :
    Service.receiver .textChatMsg root = some m.receiver := by
  unfold readTextChatMsg at h
  obtain ⟨_, _, h⟩ := Outcome.bind_eq_ok.mp h
  obtain ⟨threadId, -, h⟩ := Outcome.bind_eq_ok.mp h
  obtain ⟨sender, -, h⟩ := Outcome.bind_eq_ok.mp h
  obtain ⟨receiver, hreceiver, h⟩ := Outcome.bind_eq_ok.mp h
  obtain ⟨_, _, h⟩ := Outcome.bind_eq_ok.mp h
  split at h
  · obtain ⟨items, -, h⟩ := Outcome.bind_eq_ok.mp h
    obtain rfl := Except.ok.inj h
    exact textField_eq_ok hreceiver
  · cases h

theorem Delivery.agrees_iff {destination destination' : Destination} {sent sent' : Option Packet}
    {p q : Packet} (hp : sent = some p) (hq : sent' = some q) :
    Delivery.Agrees ⟨destination, sent⟩ ⟨destination', sent'⟩ ↔ p.Agrees q := by
  subst hp hq
  simp [Delivery.Agrees]

theorem textChatMsg_agrees_iff {sql : MySql} {c c' : Cluster} {sid sid' : SessionId}
    {env env' : HandlerEnv} {body : Option Json} {conn : DbConn} {d d' : Delivery}
    (hd : d ∈ Service.textChatMsg.deliveries sql c sid env body conn)
    (hd' : d' ∈ Service.textChatMsg.deliveries sql c' sid' env' body conn)
    {here : SessionId} (hhere : d.destination = .session here)
    {server : String} (hserver : d'.destination = .server server)
    (hfound : ∀ uuid, Service.textChatMsg.receiver (parseJson body).2 = some uuid →
      (c'.getSession server uuid).isSome) :
    d.Agrees d' ↔ Service.textChatMsg.Alike (parseJson body).2 := by
  obtain ⟨f, hf, rfl⟩ := List.mem_map.mp hd
  obtain ⟨f', hf', rfl⟩ := List.mem_map.mp hd'
  dsimp only at hhere hserver
  obtain ⟨request, infos, conn', hread, hcall, hf⟩ := forwards_handlingTextChatMsg hf
  obtain ⟨_, _, _, hread', hcall', hf'⟩ := forwards_handlingTextChatMsg hf'
  obtain rfl := Except.ok.inj (hread.symm.trans hread')
  obtain ⟨hinfos, -⟩ := Prod.mk.inj (hcall.symm.trans hcall')
  obtain ⟨-, rfl⟩ := Prod.mk.inj hinfos
  obtain ⟨rows, -, -, rfl, hall⟩ := records_cases hcall
  have hlength : rows.length = request.infos.length := hall rfl
  rw [hlength, List.drop_length, List.append_nil] at hf hf'
  obtain ⟨-, hsender, hreceiver, msgStatus, hmsg⟩ := forwards_deliverTextChatMsg hf
  obtain ⟨-, hsender', hreceiver', msgStatus', hmsg'⟩ := forwards_deliverTextChatMsg hf'
  have hrows : rows.length = request.updatedMsg.length := hlength.trans (List.length_map _)
  have hempty := filterMap_dataItem_eq_nil hrows msgStatus
  have hempty' := filterMap_dataItem_eq_nil hrows msgStatus'
  rw [TextChatMsg.infos] at hmsg hmsg'
  rw [← hmsg] at hempty
  rw [← hmsg'] at hempty'
  have hitems := same_textMsg_iff (hempty.trans hempty'.symm)
  have hsession := hfound _ (receiver_of_readTextChatMsg hread)
  obtain ⟨there, hthere⟩ := Option.isSome_iff_exists.mp hsession
  have hpacket : f.packet c = some ⟨.textChatMsgIncomingRequest, f.dstRoot⟩ := by
    rw [IncomingTexts.packet, hhere]
  have hpacket' : f'.packet c' = some ⟨.textChatMsgIncomingRequest,
      textRoot ⟨f'.textSender, f'.textReceiver, f'.textMsg⟩⟩ := by
    rw [IncomingTexts.packet, hserver]
    simp only [sendChattingTextMsg, hreceiver', hthere, Option.map_some]
  rw [Delivery.agrees_iff hpacket hpacket', Packet.Agrees, IncomingTexts.dstRoot,
    textRoot, hsender, hreceiver, hsender', hreceiver',
    same_textRoot_iff, hitems, hempty]
  constructor
  · intro h m hm
    obtain rfl := Except.ok.inj (hread.symm.trans hm)
    exact h.2
  · intro halike
    exact ⟨rfl, halike request hread⟩

/-! ## Friend requests -/

theorem receiver_of_readFriendRequest {root : Json.Object} {m : FriendRequestMsg}
    (h : readFriendRequest root = .ok m) :
    Service.receiver .friendRequestCreator root = some m.dstUuid ∧
      Text.readUInt64 m.srcUuid = some m.srcValue ∧
      Text.readUInt64 m.dstUuid = some m.dstValue := by
  unfold readFriendRequest at h
  obtain ⟨_, _, h⟩ := Outcome.bind_eq_ok.mp h
  obtain ⟨srcUuid, -, h⟩ := Outcome.bind_eq_ok.mp h
  obtain ⟨dstUuid, hdst, h⟩ := Outcome.bind_eq_ok.mp h
  obtain ⟨message, -, h⟩ := Outcome.bind_eq_ok.mp h
  obtain ⟨nickname, -, h⟩ := Outcome.bind_eq_ok.mp h
  split at h
  · cases h
  · split at h
    · rename_i hsrcValue hdstValue
      obtain rfl := Except.ok.inj h
      exact ⟨textField_eq_ok hdst, hsrcValue, hdstValue⟩
    · cases h

/-- What is forwarded is the request, with the card of its sender. -/
theorem forwards_handlingFriendRequestCreator {c : Cluster} {sid : SessionId} {env : HandlerEnv}
    {body : Option Json} {conn : DbConn} {m : FriendRequestMsg} {f : IncomingFriendRequest}
    (hread : readFriendRequest (parseJson body).2 = .ok m)
    (h : f ∈ (handlingFriendRequestCreator c sid env body conn).forwards) :
    env.userBasicInfo m.srcUuid = .found f.card ∧
      ∀ here, f.destination = .session here →
        f = ⟨.session here, m.srcUuid, m.dstUuid, m.nickname, m.message, f.card⟩ := by
  simp only [handlingFriendRequestCreator, hread, HandlerOutcome.after, storeFriendRequest] at h
  split at h
  · cases h
  · cases h
  · unfold forwardFriendRequest at h
    dsimp only at h
    split at h
    · cases h
    · split at h
      · cases h
      · cases h
      · rename_i card hcard
        split at h
        · split at h
          · cases h
          · obtain rfl := List.mem_singleton.mp h
            refine ⟨hcard, ?_⟩
            intro here hhere
            obtain rfl := Destination.session.inj hhere
            rfl
        · split at h
          · obtain rfl := List.mem_singleton.mp h
            exact ⟨hcard, fun here hhere => by cases hhere⟩
          · obtain rfl := List.mem_singleton.mp h
            exact ⟨hcard, fun here hhere => by cases hhere⟩

theorem readUInt64_negSucc (n value : Nat) :
    Text.readUInt64 (Int.negSucc n).repr ≠ some value := by
  have hsign : (Int.negSucc n).repr.toList = '-' :: (n + 1).repr.toList := by
    simp [Int.repr]
  unfold Text.readUInt64
  rw [hsign, if_neg (by simp)]
  simp

/-- The text of a number is what the other server prints exactly if it is plain. -/
theorem eq_repr_toInt32_iff {text : String} {value : Nat}
    (h : Text.readUInt64 text = some value) :
    text = (toInt32 value).repr ↔ Plain text value := by
  constructor
  · intro htext
    have hbound : toInt32 value < 2 ^ 31 := by
      unfold toInt32
      rw [Int.bmod_def]
      omega
    cases hvalue : toInt32 value with
    | ofNat n =>
      rw [hvalue] at hbound
      have hn : n < 2 ^ 31 := by
        have hcast : (n : Int) < 2 ^ 31 := hbound
        omega
      have hprinted : text = n.repr := by
        rw [htext, hvalue]
        rfl
      rw [hprinted, Text.readUInt64_repr (by omega)] at h
      obtain rfl := Option.some.inj h
      exact ⟨hprinted, hn⟩
    | negSucc n =>
      rw [htext, hvalue] at h
      exact absurd h (readUInt64_negSucc n value)
  · intro hplain
    obtain ⟨rfl, hlt⟩ := hplain
    rw [toInt32_of_lt hlt]
    rfl

theorem friendRequest_same_iff {f : IncomingFriendRequest} {m : FriendRequestMsg}
    {here : SessionId} {card : UserNameCard}
    (hf : f = ⟨.session here, m.srcUuid, m.dstUuid, m.nickname, m.message, card⟩) :
    Json.Same (.object f.dstRoot)
        (.object (friendRequestRoot (m.grpcRequest card))) ↔
      m.srcUuid = (toInt32 m.srcValue).repr ∧ m.dstUuid = (toInt32 m.dstValue).repr := by
  subst hf
  constructor
  · intro h
    have hsrc := h.lookup "src_uuid"
    have hdst := h.lookup "dst_uuid"
    simp only [IncomingFriendRequest.dstRoot, friendRequestRoot, FriendRequestMsg.grpcRequest]
      at hsrc hdst
    exact ⟨by simpa [List.lookup_cons] using hsrc, by simpa [List.lookup_cons] using hdst⟩
  · intro ⟨hsrc, hdst⟩
    apply Json.Same.object_of_keys
    · simp [IncomingFriendRequest.dstRoot, friendRequestRoot]
    · simp [List.lookup_cons, IncomingFriendRequest.dstRoot, friendRequestRoot, serviceSuccess,
        FriendRequestMsg.grpcRequest, hsrc, hdst]
      rfl

/-- A request is alike for both if the other server prints its numbers as they are written. -/
theorem alike_friendRequest_iff {root : Json.Object} {m : FriendRequestMsg}
    (hread : readFriendRequest root = .ok m) :
    Service.friendRequestCreator.Alike root ↔
      m.srcUuid = (toInt32 m.srcValue).repr ∧ m.dstUuid = (toInt32 m.dstValue).repr := by
  obtain ⟨-, hsrc, hdst⟩ := receiver_of_readFriendRequest hread
  rw [eq_repr_toInt32_iff hsrc, eq_repr_toInt32_iff hdst]
  constructor
  · intro h
    exact h m hread
  · intro h m' hm'
    obtain rfl := Except.ok.inj (hread.symm.trans hm')
    exact h

/-- The other server looks for the session of the printed number. -/
theorem friendRequest_packet_server {c : Cluster} {m : FriendRequestMsg}
    {f : IncomingFriendRequest} {server : String} (hserver : f.destination = .server server) :
    f.packet c m = (c.getSession server (toInt32 m.dstValue).repr).map fun _ =>
      ⟨.friendReIncomingRequest, friendRequestRoot (m.grpcRequest f.card)⟩ := by
  rw [IncomingFriendRequest.packet, hserver]
  simp only [sendFriendRequest, FriendRequestMsg.grpcRequest]

theorem friendRequest_agrees_iff {sql : MySql} {c c' : Cluster} {sid sid' : SessionId}
    {env env' : HandlerEnv} {body : Option Json} {conn : DbConn} {d d' : Delivery}
    (hinfo : env'.userBasicInfo = env.userBasicInfo)
    (hd : d ∈ Service.friendRequestCreator.deliveries sql c sid env body conn)
    (hd' : d' ∈ Service.friendRequestCreator.deliveries sql c' sid' env' body conn)
    {here : SessionId} (hhere : d.destination = .session here)
    {server : String} (hserver : d'.destination = .server server)
    (hfound : ∀ uuid, Service.friendRequestCreator.receiver (parseJson body).2 = some uuid →
      (c'.getSession server uuid).isSome) :
    d.Agrees d' ↔ Service.friendRequestCreator.Alike (parseJson body).2 := by
  cases hread : readFriendRequest (parseJson body).2 with
  | error refusal =>
    simp only [Service.deliveries, hread] at hd
    cases hd
  | ok m =>
    simp only [Service.deliveries, hread] at hd hd'
    obtain ⟨f, hf, rfl⟩ := List.mem_map.mp hd
    obtain ⟨f', hf', rfl⟩ := List.mem_map.mp hd'
    dsimp only at hhere hserver
    obtain ⟨hcard, hlocal⟩ := forwards_handlingFriendRequestCreator hread hf
    obtain ⟨hcard', -⟩ := forwards_handlingFriendRequestCreator hread hf'
    rw [hinfo, hcard] at hcard'
    have hsame : f.card = f'.card := BasicInfo.found.inj hcard'
    have hpacket : f.packet c m = some ⟨.friendReIncomingRequest, f.dstRoot⟩ := by
      rw [IncomingFriendRequest.packet, hhere]
    have hremote := friendRequest_packet_server (c := c') (m := m) hserver
    rw [← hsame] at hremote
    have hroots := friendRequest_same_iff (hlocal here hhere)
    rw [alike_friendRequest_iff hread, ← hroots]
    constructor
    · intro hagrees
      obtain ⟨p, q, hp, hq, -, hroot⟩ := hagrees
      obtain rfl := Option.some.inj (hpacket.symm.trans hp)
      obtain ⟨_, -, rfl⟩ := Option.map_eq_some_iff.mp (hremote.symm.trans hq)
      exact hroot
    · intro hroot
      obtain ⟨-, htext⟩ := hroots.mp hroot
      obtain ⟨hreceiver, -, -⟩ := receiver_of_readFriendRequest hread
      obtain ⟨there, hthere⟩ := Option.isSome_iff_exists.mp (hfound m.dstUuid hreceiver)
      rw [htext] at hthere
      rw [hthere, Option.map_some] at hremote
      exact (Delivery.agrees_iff hpacket hremote).mpr ⟨rfl, hroot⟩

/-! ## Confirmations -/

theorem receiver_of_readFriendConfirm {root : Json.Object} {m : FriendConfirmMsg}
    (h : readFriendConfirm root = .ok m) :
    Service.receiver .friendRequestConfirm root = some m.srcUuid := by
  unfold readFriendConfirm at h
  obtain ⟨_, _, h⟩ := Outcome.bind_eq_ok.mp h
  obtain ⟨srcUuid, hsrc, h⟩ := Outcome.bind_eq_ok.mp h
  obtain ⟨dstUuid, -, h⟩ := Outcome.bind_eq_ok.mp h
  obtain ⟨_, _, h⟩ := Outcome.bind_eq_ok.mp h
  obtain ⟨_, _, h⟩ := Outcome.bind_eq_ok.mp h
  split at h
  · obtain rfl := Except.ok.inj h
    exact textField_eq_ok hsrc
  · cases h

/-- The friend a requester is told of: the card of the confirmer, and the greetings. -/
def newFriend (m : FriendConfirmMsg) (card : UserNameCard) (infos : List FriendingConfirmInfo) :
    NewFriend :=
  ⟨m.dstUuid, card, (infos.getLast?.map FriendingConfirmInfo.threadId).getD "", infos⟩

theorem eq_newFriend_of_notifyRequester {c : Cluster} {sid : SessionId} {env : HandlerEnv}
    {m : FriendConfirmMsg} {infos : List FriendingConfirmInfo} {destination : Destination}
    {friend : NewFriend}
    (h : .newFriend destination friend ∈
      (notifyRequester c sid env m ((infos.getLast?.map FriendingConfirmInfo.threadId).getD "")
        infos).1) :
    ∃ card, env.userBasicInfo m.dstUuid = .found card ∧ friend = newFriend m card infos := by
  unfold notifyRequester at h
  dsimp only at h
  split at h
  · cases h
  · split at h
    · cases h
    · split at h
      · split at h
        · cases h
        · split at h
          · rename_i card hcard
            obtain ⟨-, rfl⟩ := FriendConfirmForward.newFriend.inj (List.mem_singleton.mp h)
            exact ⟨card, hcard, rfl⟩
          · cases List.mem_singleton.mp h
      · split at h
        · rename_i card hcard
          obtain ⟨-, rfl⟩ := FriendConfirmForward.newFriend.inj (List.mem_singleton.mp h)
          exact ⟨card, hcard, rfl⟩
        · cases h

/-- What is forwarded is about the confirmer, with the two greetings that were stored. -/
theorem forwards_handlingFriendRequestConfirm {sql : MySql} {c : Cluster} {sid : SessionId}
    {env : HandlerEnv} {body : Option Json} {conn : DbConn} {m : FriendConfirmMsg}
    {destination : Destination} {friend : NewFriend}
    (hread : readFriendConfirm (parseJson body).2 = .ok m)
    (h : .newFriend destination friend ∈
      (handlingFriendRequestConfirm sql c sid env body conn).forwards) :
    ∃ card infos conn', env.userBasicInfo m.dstUuid = .found card ∧
      execFriendConfirmationTransaction sql m.requesterUuid m.confirmerUuid conn =
        (.ok (some infos), conn') ∧
      friend = newFriend m card infos := by
  cases hcall : execFriendConfirmationTransaction sql m.requesterUuid m.confirmerUuid conn with
  | mk r conn' =>
    simp only [handlingFriendRequestConfirm, hread, HandlerOutcome.after, storeFriendConfirm,
      hcall] at h
    obtain err | status := r
    · cases h
    · cases status with
      | none => cases h
      | some infos =>
        dsimp only [announceFriendship] at h
        split at h
        · cases h
        · cases h
        · obtain ⟨card, hcard, hfriend⟩ := eq_newFriend_of_notifyRequester h
          exact ⟨card, infos, conn', hcard, rfl, hfriend⟩

/-- A confirmation answers with two greetings, as many as the other server asks for. -/
theorem length_infos {sql : MySql} {requester confirmer : Nat} {conn conn' : DbConn}
    {infos : List FriendingConfirmInfo}
    (h : execFriendConfirmationTransaction sql requester confirmer conn =
      (.ok (some infos), conn')) :
    infos.length = GrpcDistributedChattingImpl.allowMsgPacks := by
  have hatomic := execFriendConfirmationTransaction_atomic sql requester confirmer conn
  rw [h] at hatomic
  obtain ⟨thread, first, second, -, -, -, -, -, rfl⟩ := hatomic.thread
  rfl

theorem same_helloItem (item : FriendingConfirmInfo) :
    Json.Same item.helloItem (GrpcDistributedChattingImpl.helloItem item.msgPack) := by
  apply Json.Same.object_of_keys
  · simp
  · simp [List.lookup_cons, FriendingConfirmInfo.msgPack, msgTypeText, Int.repr]

theorem same_helloMsg (items : List FriendingConfirmInfo) :
    Json.Same (.array (items.map FriendingConfirmInfo.helloItem))
      (.array ((items.map FriendingConfirmInfo.msgPack).map
        GrpcDistributedChattingImpl.helloItem)) := by
  apply Json.Same.array
  rw [List.map_map, List.forall₂_map_left_iff, List.forall₂_map_right_iff, List.forall₂_same]
  exact fun item _ => same_helloItem item

theorem newFriend_same (request : FriendConfirmMsg) (f : NewFriend) :
    Json.Same (.object f.generateJson)
      (.object (confirmRoot (f.grpcRequest request) (f.userInfo request))) := by
  have hhello := same_helloMsg f.helloMsg
  apply Json.Same.object_of_keys
  · simp [NewFriend.generateJson, confirmRoot]
  · rw [List.map_map] at hhello
    simp [List.lookup_cons, NewFriend.generateJson, confirmRoot, NewFriend.grpcRequest,
      NewFriend.userInfo, serviceSuccess, Int.repr, hhello]

theorem mem_deliveries_friendRequestConfirm {sql : MySql} {c : Cluster} {sid : SessionId}
    {env : HandlerEnv} {body : Option Json} {conn : DbConn} {d : Delivery}
    (h : d ∈ Service.friendRequestConfirm.deliveries sql c sid env body conn) :
    ∃ m card infos conn', readFriendConfirm (parseJson body).2 = .ok m ∧
      env.userBasicInfo m.dstUuid = .found card ∧
      execFriendConfirmationTransaction sql m.requesterUuid m.confirmerUuid conn =
        (.ok (some infos), conn') ∧
      d = ⟨d.destination, (newFriend m card infos).packet c m d.destination⟩ := by
  cases hread : readFriendConfirm (parseJson body).2 with
  | error refusal =>
    simp only [Service.deliveries, hread] at h
    cases h
  | ok m =>
    simp only [Service.deliveries, hread] at h
    obtain ⟨f, hf, hd⟩ := List.mem_filterMap.mp h
    cases f with
    | error destination message => cases hd
    | newFriend destination friend =>
      obtain ⟨card, infos, conn', hcard, hcall, rfl⟩ :=
        forwards_handlingFriendRequestConfirm hread hf
      obtain rfl := Option.some.inj hd
      exact ⟨m, card, infos, conn', rfl, hcard, hcall, rfl⟩

theorem confirmFriendRequest_found {getSession : String → Option SessionId}
    {m : FriendConfirmMsg} {f : NewFriend} {there : SessionId}
    (hsession : getSession m.srcUuid = some there)
    (hlength : f.helloMsg.length = GrpcDistributedChattingImpl.allowMsgPacks) :
    GrpcDistributedChattingImpl.confirmFriendRequest getSession (f.grpcRequest m) =
      some ⟨.friendingOnBidirectional, confirmRoot (f.grpcRequest m) (f.userInfo m)⟩ := by
  have hpacks : ¬ ((f.grpcRequest m).msgPack.length ≠ GrpcDistributedChattingImpl.allowMsgPacks ∨
      (f.grpcRequest m).userInfo.length ≠ GrpcDistributedChattingImpl.allowInfoPacks) := by
    simp [NewFriend.grpcRequest, hlength, GrpcDistributedChattingImpl.allowInfoPacks]
  unfold GrpcDistributedChattingImpl.confirmFriendRequest
  rw [if_neg hpacks, show (f.grpcRequest m).srcUuid = m.srcUuid from rfl, hsession]
  rfl

theorem friendConfirm_agrees {sql : MySql} {c c' : Cluster} {sid sid' : SessionId}
    {env env' : HandlerEnv} {body : Option Json} {conn : DbConn} {d d' : Delivery}
    (hinfo : env'.userBasicInfo = env.userBasicInfo)
    (hd : d ∈ Service.friendRequestConfirm.deliveries sql c sid env body conn)
    (hd' : d' ∈ Service.friendRequestConfirm.deliveries sql c' sid' env' body conn)
    {here : SessionId} (hhere : d.destination = .session here)
    {server : String} (hserver : d'.destination = .server server)
    (hfound : ∀ uuid, Service.friendRequestConfirm.receiver (parseJson body).2 = some uuid →
      (c'.getSession server uuid).isSome) :
    d.Agrees d' := by
  obtain ⟨m, card, infos, conn', hread, hcard, hcall, hd⟩ := mem_deliveries_friendRequestConfirm hd
  obtain ⟨_, _, _, _, hread', hcard', hcall', hd'⟩ := mem_deliveries_friendRequestConfirm hd'
  obtain rfl := Except.ok.inj (hread.symm.trans hread')
  rw [hinfo, hcard] at hcard'
  obtain rfl := BasicInfo.found.inj hcard'
  obtain ⟨hinfos, -⟩ := Prod.mk.inj (hcall.symm.trans hcall')
  obtain rfl := Option.some.inj (Except.ok.inj hinfos)
  obtain ⟨there, hthere⟩ :=
    Option.isSome_iff_exists.mp (hfound m.srcUuid (receiver_of_readFriendConfirm hread))
  rw [hhere] at hd
  rw [hserver] at hd'
  rw [hd, hd']
  exact (Delivery.agrees_iff rfl (confirmFriendRequest_found hthere (length_infos hcall))).mpr
    ⟨rfl, newFriend_same m (newFriend m card infos)⟩

/-! ## Both deliveries -/

/-- The same request, handled where the receiver is on the server of the sender and where it is on
    another, where its session is: the receiver is sent the same exactly if the request is alike
    for both. -/
theorem deliveries_agree_iff (service : Service) (sql : MySql) (c c' : Cluster)
    (sid sid' : SessionId) (env env' : HandlerEnv) (body : Option Json) (conn : DbConn)
    (hinfo : env'.userBasicInfo = env.userBasicInfo) (d d' : Delivery)
    (hd : d ∈ service.deliveries sql c sid env body conn)
    (hd' : d' ∈ service.deliveries sql c' sid' env' body conn)
    (here : SessionId) (hhere : d.destination = .session here)
    (server : String) (hserver : d'.destination = .server server)
    (hfound : ∀ uuid, service.receiver (parseJson body).2 = some uuid →
      (c'.getSession server uuid).isSome) :
    d.Agrees d' ↔ service.Alike (parseJson body).2 := by
  cases service with
  | textChatMsg => exact textChatMsg_agrees_iff hd hd' hhere hserver hfound
  | friendRequestCreator => exact friendRequest_agrees_iff hinfo hd hd' hhere hserver hfound
  | friendRequestConfirm =>
    exact iff_of_true (friendConfirm_agrees hinfo hd hd' hhere hserver hfound) trivial

/-- The session of user 1 is on server "A", that of user 2 on the given one. -/
def receiverOn (server : String) : Cluster :=
  { Cluster.init with
    session := fun sid => .accepted (if sid = 0 then "A" else server)
    manager := fun s => { UserManager.init with
      uuid2Session := fun uuid => if s = server ∧ uuid = "2" then some 1 else none }
    redis := { Redis.init with server := fun uuid => if uuid = "2" then some server else none } }

def answering : HandlerEnv where
  get := true
  userBasicInfo uuid := .found ⟨0, uuid, "a.png", "user", "nick", ""⟩
  grpc := true

/-- `textToTwo` as it is forwarded. -/
def forwardedText (destination : Destination) (msgStatus : Nat) : IncomingTexts :=
  ⟨destination, "1", "2", [⟨1, msgStatus, "1", "2", "1", "1", "a", "hi"⟩]⟩

def hereText : Delivery :=
  ⟨.session 1, (forwardedText (.session 1) 1).packet (receiverOn "A")⟩

def thereText : Delivery :=
  ⟨.server "B", (forwardedText (.server "B") 0).packet (receiverOn "B")⟩

theorem mem_hereText : hereText ∈ Service.textChatMsg.deliveries (.decimal true) (receiverOn "A") 0
    answering (some textToTwo) chatOfTwo :=
  List.mem_map_of_mem (by decide : forwardedText (.session 1) 1 ∈ _)

theorem mem_thereText : thereText ∈ Service.textChatMsg.deliveries (.decimal true)
    (receiverOn "B") 0 answering (some textToTwo) chatOfTwo :=
  List.mem_map_of_mem (by decide : forwardedText (.server "B") 0 ∈ _)

theorem receiver_textToTwo : ∀ uuid,
    Service.textChatMsg.receiver (parseJson (some textToTwo)).2 = some uuid →
      ((receiverOn "B").getSession "B" uuid).isSome := by
  intro uuid huuid
  obtain rfl := Option.some.inj ((show _ = some "2" by rfl).symm.trans huuid)
  decide

theorem text_agrees_iff_alike :
    hereText.Agrees thereText ↔ Service.textChatMsg.Alike (parseJson (some textToTwo)).2 :=
  deliveries_agree_iff .textChatMsg (.decimal true) (receiverOn "A") (receiverOn "B") 0 0
    answering answering (some textToTwo) chatOfTwo rfl hereText thereText mem_hereText
    mem_thereText 1 rfl "B" rfl receiver_textToTwo

/-- A text of user 1 to user 2 arrives on server "A" with keys it does not have on "B". -/
theorem text_not_agrees :
    hereText ∈ Service.textChatMsg.deliveries (.decimal true) (receiverOn "A") 0 answering
        (some textToTwo) chatOfTwo ∧
      thereText ∈ Service.textChatMsg.deliveries (.decimal true) (receiverOn "B") 0 answering
        (some textToTwo) chatOfTwo ∧
      ¬ hereText.Agrees thereText := by
  refine ⟨mem_hereText, mem_thereText, ?_⟩
  rw [textChatMsg_agrees_iff mem_hereText mem_thereText rfl rfl receiver_textToTwo]
  intro halike
  cases halike textToTwoRead (by rfl)

end DistributedIM.ChattingServer
