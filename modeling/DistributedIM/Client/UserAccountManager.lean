/-
  The client's account data, as far as the thread list goes: `UserAccountManager` with its maps
  between threads and friends, the callback that decodes a page of the list, and
  `ChattingDlgMainFrame::slot_update_chat_thread`, which takes it.

  `ChatThreadPageResult` calls its flag `m_load_more`; the callback puts the server's `is_complete`
  into it.

  Left out: the widgets, and `m_last_thread_id`, which is written here and read nowhere.
-/
import Mathlib.Logic.Function.Basic
import DistributedIM.ChattingServer.ChatThreads
import DistributedIM.Client.UserChatThread

namespace DistributedIM.Client

open DistributedIM.ChattingServer (ThreadRow ThreadInfo ThreadReply)

structure ChatThreadMeta where
  threadId : String
  chatType : UserChatType
  userOne : String
  userTwo : String
  deriving DecidableEq, Repr

namespace ChatThreadMeta

def isGroupChat (m : ChatThreadMeta) : Bool :=
  m.chatType = .groupChat

end ChatThreadMeta

structure UserAccountManager where
  /-- `m_info.uuid`, and the uuid of `m_userInfo` -/
  uuid : String
  /-- the keys of `m_auth_friend_list` -/
  authFriendList : List String
  threadDescLists : String → Option ChatThreadMeta
  friendOnThreadsLists : String → Option String
  allChattingSessions : List String

namespace UserAccountManager

/-- Logged in, with the friends known and no thread yet. -/
def login (uuid : String) (friends : List String) : UserAccountManager where
  uuid := uuid
  authFriendList := friends
  threadDescLists _ := none
  friendOnThreadsLists _ := none
  allChattingSessions := []

/-- `addItem2List(friend_uuid, info)`: only if neither the thread nor the friend is known. -/
def addItem2List (u : UserAccountManager) (friendUuid : String) (info : ChatThreadMeta) :
    UserAccountManager :=
  if u.threadDescLists info.threadId = none ∧ u.friendOnThreadsLists friendUuid = none then
    { u with
      threadDescLists := Function.update u.threadDescLists info.threadId (some info)
      friendOnThreadsLists :=
        Function.update u.friendOnThreadsLists friendUuid (some info.threadId)
      allChattingSessions := u.allChattingSessions ++ [info.threadId] }
  else u

end UserAccountManager

/-! ## Pages of the thread list -/

structure ChatThreadPageResult where
  loadMore : Bool
  nextThreadId : String
  lists : List ChatThreadMeta
  deriving DecidableEq, Repr

/-- One element of `threads`; another type than the two is skipped. -/
def decodeThread (info : ThreadInfo) : Option ChatThreadMeta :=
  if info.type = "GROUP" then some ⟨info.threadId, .groupChat, "", ""⟩
  else if info.type = "PRIVATE" then
    some ⟨info.threadId, .privateChat, info.user1Uuid.getD "", info.user2Uuid.getD ""⟩
  else none

/-- The callback of `SERVICE_PULLCHATTHREADRESPONSE`: the package for the slot, if there is one. -/
def decodeThreadReply : ThreadReply → Option ChatThreadPageResult
  | .error _ => none
  | .success isComplete nextThreadId threads =>
    some ⟨isComplete, nextThreadId, threads.filterMap decodeThread⟩

/-- `SERVICE_PULLCHATTHREAD` -/
structure ThreadRequest where
  uuid : String
  threadId : String
  deriving DecidableEq, Repr

namespace UserAccountManager

/-- The loop of the slot over one item. -/
def addThread (u : UserAccountManager) (item : ChatThreadMeta) : UserAccountManager :=
  if item.isGroupChat then u
  else
    let otherUser := if item.userOne = u.uuid then item.userTwo else item.userOne
    if otherUser ∈ u.authFriendList then u.addItem2List otherUser item else u

/-- `slot_update_chat_thread`: the account data afterwards, and the request for the next page
    if one is sent. Without one the client moves on to the history. -/
def slotUpdateChatThread (u : UserAccountManager) (package : ChatThreadPageResult) :
    UserAccountManager × Option ThreadRequest :=
  if package.lists.isEmpty then (u, none)
  else
    let u' := package.lists.foldl addThread u
    (u', if package.loadMore then some ⟨u'.uuid, package.nextThreadId⟩ else none)

end UserAccountManager

/-! ## The server's rows on the client -/

/-- What the client makes of a row. -/
def metaOf (r : ThreadRow) : ChatThreadMeta :=
  match r.users with
  | none => ⟨r.threadId.repr, .groupChat, "", ""⟩
  | some u => ⟨r.threadId.repr, .privateChat, u.1.repr, u.2.repr⟩

theorem decodeThread_toInfo (r : ThreadRow) : decodeThread r.toInfo = some (metaOf r) := by
  obtain ⟨threadId, users⟩ := r
  cases users <;> rfl

theorem filterMap_decodeThread (rows : List ThreadRow) :
    (rows.map ThreadRow.toInfo).filterMap decodeThread = rows.map metaOf := by
  rw [List.filterMap_map, ← List.filterMap_eq_map]
  apply List.filterMap_congr
  intro r _
  exact decodeThread_toInfo r

namespace UserAccountManager

theorem addItem2List_uuid (u : UserAccountManager) (friendUuid : String) (info : ChatThreadMeta) :
    (u.addItem2List friendUuid info).uuid = u.uuid := by
  unfold addItem2List
  split <;> rfl

theorem addThread_uuid (u : UserAccountManager) (item : ChatThreadMeta) :
    (u.addThread item).uuid = u.uuid := by
  unfold addThread
  split
  · rfl
  · dsimp only
    generalize (if item.userOne = u.uuid then item.userTwo else item.userOne) = otherUser
    split
    · exact addItem2List_uuid u otherUser item
    · rfl

theorem foldl_addThread_uuid (u : UserAccountManager) (items : List ChatThreadMeta) :
    (items.foldl addThread u).uuid = u.uuid := by
  induction items generalizing u with
  | nil => rfl
  | cons item items ih => rw [List.foldl_cons, ih, addThread_uuid]

theorem length_addThread_le (u : UserAccountManager) (item : ChatThreadMeta) :
    (u.addThread item).allChattingSessions.length ≤ u.allChattingSessions.length + 1 := by
  have hadd (friendUuid : String) :
      (u.addItem2List friendUuid item).allChattingSessions.length ≤
        u.allChattingSessions.length + 1 := by
    unfold addItem2List
    split
    · exact (List.length_append ..).le
    · exact Nat.le_succ _
  unfold addThread
  split
  · exact Nat.le_succ _
  · dsimp only
    generalize (if item.userOne = u.uuid then item.userTwo else item.userOne) = otherUser
    split
    · exact hadd otherUser
    · exact Nat.le_succ _

theorem length_foldl_addThread_le (u : UserAccountManager) (items : List ChatThreadMeta) :
    (items.foldl addThread u).allChattingSessions.length ≤
      u.allChattingSessions.length + items.length := by
  induction items generalizing u with
  | nil => exact Nat.le_refl _
  | cons item items ih =>
    have hitem := u.length_addThread_le item
    have hitems := ih (u.addThread item)
    rw [List.length_cons, List.foldl_cons]
    omega

/-- A page of the server: the client asks for another one if it was the last. -/
theorem slotUpdateChatThread_rows (u : UserAccountManager) {rows : List ThreadRow}
    (hrows : rows ≠ []) (isComplete : Bool) (next : String) :
    u.slotUpdateChatThread ⟨isComplete, next, rows.map metaOf⟩ =
      ((rows.map metaOf).foldl addThread u,
        if isComplete then some ⟨((rows.map metaOf).foldl addThread u).uuid, next⟩ else none) := by
  unfold slotUpdateChatThread
  rw [if_neg (by simpa using hrows)]

end UserAccountManager

end DistributedIM.Client
