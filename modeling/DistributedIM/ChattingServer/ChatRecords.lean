/-
  The messages of a thread, a page at a time: the statement `GET_USER_CHAT_RECORDS`,
  `MySQLConnection::getChattingHistoryRecord` and `SyncLogic::handlingUserChatMessage`; and the
  request for the thread list as it arrives.

  Two things about Boost.MySQL decide whether a page ever comes: how many rows a `SELECT` counts as
  affected, without which the call answers that there are none, and whether the columns can be read
  as the code reads them, since an accessor throws on a field of another kind. They are a parameter.

  The message id of a `TextMsgInfo` made for a page is never set. Left out: the time stamps.
-/
import DistributedIM.ChattingServer.ChatThreads
import DistributedIM.ChattingServer.MySQLConnection
import DistributedIM.ChattingServer.Requests

namespace DistributedIM.ChattingServer

/-- What Boost.MySQL makes of the queries for pages. -/
structure MySqlDriver where
  /-- `affected_rows()` of a `SELECT`, by the number of its rows -/
  selectAffected : Nat → Nat
  /-- `as_int64` reads the ids of a thread -/
  readsThreads : Bool
  /-- `as_string` reads the ids and the time stamp of a message -/
  readsRecords : Bool

/-! ## Pages of messages -/

def ChatMsg.Before (a b : ChatMsg) : Prop :=
  a.messageId ≤ b.messageId

instance : DecidableRel ChatMsg.Before :=
  fun a b => inferInstanceAs (Decidable (a.messageId ≤ b.messageId))

/-- `GET_USER_CHAT_RECORDS` -/
def getUserChatRecords (t : Tables) (threadId msgId limit : Nat) : List ChatMsg :=
  ((t.chatMsgHistoryBank.filter fun m => m.threadId = threadId ∧ msgId < m.messageId).insertionSort
    ChatMsg.Before).take limit

/-- An element of `chat_messages`. -/
structure RecordInfo where
  msgSender : String
  msgReceiver : String
  msgType : Nat
  threadId : String
  status : Nat
  msgId : String
  msgContent : String
  deriving DecidableEq, Repr

def ChatMsg.toInfo (threadId : String) (m : ChatMsg) : RecordInfo where
  msgSender := m.messageSender.repr
  msgReceiver := m.messageReceiver.repr
  msgType := 1
  threadId := threadId
  status := m.messageStatus
  msgId := ""
  msgContent := m.messageContent

/-- What `getChattingHistoryRecord` returns, with its two output parameters. -/
structure RecordPage where
  records : List ChatMsg
  nextMsgId : String
  isEOF : Bool
  deriving DecidableEq, Repr

/-- The page that is made of some rows. With an interval of at least 1 a row is kept, and the cursor
    is the message id of the last one. -/
def recordsOf (driver : MySqlDriver) (interval : Nat) (rows : List ChatMsg) :
    Except Exn (Option RecordPage) :=
  if driver.selectAffected rows.length = 0 then return none
  else if rows.isEmpty then return none
  else if driver.readsRecords then
    if interval < rows.length then return some ⟨rows.dropLast, "", false⟩
    else return some ⟨rows, "", true⟩
  else throw .badFieldAccess

def getChattingHistoryRecord (driver : MySqlDriver) (t : Tables) (threadId msgId interval : Nat) :
    Except Exn (Option RecordPage) :=
  recordsOf driver interval (getUserChatRecords t threadId msgId (lookAhead interval))

theorem getChattingHistoryRecord_eq (driver : MySqlDriver) (t : Tables) (threadId msgId : Nat)
    {interval : Nat} (hsize : interval + 1 < 2 ^ 64) :
    getChattingHistoryRecord driver t threadId msgId interval =
      recordsOf driver interval (getUserChatRecords t threadId msgId (interval + 1)) := by
  rw [getChattingHistoryRecord, lookAhead_of_lt hsize]

/-! ## Requests -/

/-- A request with two texts, without which there is an error. -/
def readPull (root : Json.Object) (first second : String) (type : ResponseType) :
    Reading (String × String) := do
  requireFields root [first, second] ⟨type, .jsonparseError⟩
  return (← textField root first, ← textField root second)

inductive PullReply
  | error (message : ErrorMessage)
  | threads (reply : ThreadReply)
  | records (threadId : String) (isComplete : Bool) (nextMsgId : String)
      (chatMessages : List RecordInfo)
  deriving DecidableEq, Repr

/-- A request that has been read; a page that cannot be read is not answered. -/
def pullThreads (driver : MySqlDriver) (t : Tables) (uuid threadId : String) : List PullReply :=
  match handlingUserChatTheads t uuid threadId with
  | none => []
  | some (.error status) => [.threads (.error status)]
  | some (.success isComplete next threads) =>
    if driver.readsThreads then [.threads (.success isComplete next threads)] else []

def handlingPullChatThread (driver : MySqlDriver) (t : Tables) (body : Option Json) :
    List PullReply :=
  let (errors, root) := parseJson body
  errors.map .error ++
    match readPull root "uuid" "thread_id" .pullChatThreadResponse with
    | .error refusal => refusal.toList.map .error
    | .ok (uuid, threadId) => pullThreads driver t uuid threadId

/-- A request that has been read. -/
def pullRecords (driver : MySqlDriver) (t : Tables) (threadId msgId : String) : List PullReply :=
  if (Text.readUInt64 threadId).isNone || (Text.readUInt64 msgId).isNone then
    [.error ⟨.pullChatRecordResponse, .jsonparseError⟩]
  else
    match Text.stoi threadId, Text.stoi msgId with
    | some thread, some msg =>
      match getChattingHistoryRecord driver t thread.toNat msg.toNat 10 with
      | .error _ => []
      | .ok none => [.error ⟨.pullChatRecordResponse, .chatrecordNotExist⟩]
      | .ok (some page) =>
        [.records threadId page.isEOF page.nextMsgId (page.records.map (ChatMsg.toInfo threadId))]
    | _, _ => []

def handlingUserChatMessage (driver : MySqlDriver) (t : Tables) (body : Option Json) :
    List PullReply :=
  let (errors, root) := parseJson body
  errors.map .error ++
    match readPull root "thread_id" "msg_id" .pullChatRecordResponse with
    | .error refusal => refusal.toList.map .error
    | .ok (threadId, msgId) => pullRecords driver t threadId msgId

/-! ## Bodies -/

/-- `obj`; the time stamp is left out. -/
def RecordInfo.toJson (r : RecordInfo) : Json :=
  .object
    [("msg_sender", .string r.msgSender), ("msg_receiver", .string r.msgReceiver),
      ("msg_type", .number r.msgType.repr), ("thread_id", .string r.threadId),
      ("status", .number r.status.repr), ("msg_id", .string r.msgId),
      ("msg_content", .string r.msgContent)]

/-- `result_root` -/
def recordsBody (threadId : String) (isComplete : Bool) (nextMsgId : String)
    (chatMessages : List RecordInfo) : Json.Object :=
  [("thread_id", .string threadId), ("is_complete", .bool isComplete),
    ("next_msg_id", .string nextMsgId), ("chat_messages", .array (chatMessages.map (·.toJson)))]

/-- The body of a `SERVICE_PULLCHATRECORDRESPONSE`, if the reply is one. -/
def PullReply.recordsResponse : PullReply → Option Json.Object
  | .error message => if message.type = .pullChatRecordResponse then some message.body else none
  | .records threadId isComplete nextMsgId chatMessages =>
    some (recordsBody threadId isComplete nextMsgId chatMessages)
  | .threads _ => none

end DistributedIM.ChattingServer
