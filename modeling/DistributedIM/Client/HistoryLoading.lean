/-
  How the client loads the messages of its threads: the callback of
  `SERVICE_PULLCHATRECORDRESPONSE`, the slots of `ChattingDlgMainFrame` that ask for one page after
  the other and for one thread after the other, and the live messages that come in between.

  `m_ThreadData` is only filled by `addItem2List` of a `UserChatThread`, which a friend confirmation
  and a click on a contact call; `slot_update_chat_thread` calls the other overload, so a thread
  that the list brings has no data.
-/
import DistributedIM.Client.UserAccountManager
import DistributedIM.Lib.Json

namespace DistributedIM.Client

/-! ## Pages -/

/-- `SERVICE_PULLCHATRECORD` -/
structure RecordRequest where
  threadId : String
  msgId : String
  deriving DecidableEq, Repr

def RecordRequest.body (r : RecordRequest) : Json.Object :=
  [("msg_id", .string r.msgId), ("thread_id", .string r.threadId)]

structure ChatMsgPageResult where
  loadMore : Bool
  threadId : String
  nextMessageId : String
  list : List ChattingRecord
  deriving DecidableEq, Repr

/-- `toInt` of a number that is written in digits. -/
def toInt : Json → Nat
  | .number literal => (Text.leadingDigits literal.toList).getD 0
  | _ => 0

/-- `toBool` -/
def toBool : Json → Bool
  | .bool b => b
  | _ => false

/-- One element of `chat_messages`; `u` is the fresh unique id. -/
def decodeRecord (u : String) : Json → Option ChattingRecord
  | .object fields =>
    let obj : Json.Object := fields
    if toInt (obj.get "msg_type") = 1 then
      some ((chattingTextMsg (obj.text "msg_sender") (obj.text "msg_receiver") (quuid u)
        (obj.text "msg_content")).setMsgID (obj.text "msg_id"))
    else none
  | _ => none

/-- The callback of `SERVICE_PULLCHATRECORDRESPONSE`: the package for the slot, if there is one. -/
def decodeRecordReply (unique : Nat → String) (json : Json.Object) : Option ChatMsgPageResult :=
  if !json.contains "error" then none
  else if toInt (json.get "error") ≠ 0 then none
  else
    match json.get "chat_messages" with
    | .array items =>
      some
        { loadMore := toBool (json.get "is_complete")
          threadId := json.text "thread_id"
          nextMessageId := json.text "next_msg_id"
          list := items.zipIdx.filterMap fun p => decodeRecord (unique p.2) p.1 }
    | _ => none

/-! ## Sessions -/

/-- `UserAccountManager` with the data of the threads. -/
structure HistoryClient where
  account : UserAccountManager
  threadData : String → Option UserChatThread
  currSessionLoadingSeq : Nat

namespace HistoryClient

/-- `_loadSession` -/
def loadSession (c : HistoryClient) (pos : Nat) : Option UserChatThread :=
  match c.account.allChattingSessions[pos]? with
  | none => none
  | some threadId => c.threadData threadId

def getCurThreadSession (c : HistoryClient) : Option UserChatThread :=
  c.loadSession c.currSessionLoadingSeq

def getNextThreadSession (c : HistoryClient) : HistoryClient × Option UserChatThread :=
  let c := { c with currSessionLoadingSeq := c.currSessionLoadingSeq + 1 }
  (c, c.loadSession c.currSessionLoadingSeq)

/-- The request for the messages behind the last one a thread has. -/
def requestFor (session : UserChatThread) : RecordRequest where
  threadId := session.threadId
  msgId := session.lastFetchedMsgId

def loadMoreChattingHistory (c : HistoryClient) : Option RecordRequest :=
  c.getCurThreadSession.map requestFor

def setThread (c : HistoryClient) (threadId : String) (thread : UserChatThread) : HistoryClient :=
  { c with threadData := Function.update c.threadData threadId (some thread) }

/-- `slot_update_chat_msg`: the client afterwards, and the next request if one is sent. -/
def slotUpdateChatMsg (c : HistoryClient) (package : ChatMsgPageResult) :
    HistoryClient × Option RecordRequest :=
  match c.threadData package.threadId with
  | none => (c, none)
  | some thread =>
    let thread := thread.slotUpdateChatMsg package.list package.nextMessageId
    let c := c.setThread package.threadId thread
    if package.loadMore then (c, some ⟨package.threadId, package.nextMessageId⟩)
    else
      let next := c.getNextThreadSession
      (next.1, next.2.map requestFor)

/-- `slot_incoming_msg` -/
def slotIncomingMsg (c : HistoryClient) (type : MsgType) (msg : ChattingRecord) : HistoryClient :=
  match c.account.friendOnThreadsLists msg.senderUuid with
  | none => c
  | some threadId =>
    match c.threadData threadId with
    | none => c
    | some thread => c.setThread threadId (thread.slotIncomingMsg type msg)

end HistoryClient

end DistributedIM.Client
