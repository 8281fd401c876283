/-
  The MySQL database of the chatting server: its tables, and the prepared statements of
  `MySQLConnectionPool::registerSQLStatement` that the modelled calls execute, each with the
  constraints of `conf/DistributedIMSystem.sql` that can make it fail.

  `m_sql.insert` keeps the first of two statements under one key, so the second text registered
  for `UPDATE_FRIEND_REQUEST_STATUS`, on a table `Request`, is never executed.

  `MySql` is what the server decides and the sources do not: how a text is converted to a BIGINT
  UNSIGNED column, of which only is known that a printed number is converted to itself, and
  whether `ChatMsgHistoryBank` has the column `message_receiver`, which the statements name and
  the schema file lacks. Texts are taken to fit their columns, and counters not to run out.

  Left out: columns no modelled call reads (time stamps, profiles, names, the role of a group
  member), and the tables of the group chats' names.
-/
import DistributedIM.Lib.Text
import DistributedIM.Lib.Transaction

namespace DistributedIM.ChattingServer

open Transaction (Store)

/-! ## Tables -/

/-- A text column without a value is NULL; a status that is NULL counts as one that is not set. -/
structure FriendRequest where
  id : Nat
  srcUuid : Nat
  dstUuid : Nat
  nickname : Option String
  message : Option String
  status : Bool
  deriving DecidableEq, Repr

structure AuthFriend where
  id : Nat
  selfUuid : Nat
  friendUuid : Nat
  alternativeName : String
  deriving DecidableEq, Repr

structure PrivateChat where
  threadId : Nat
  user1Uuid : Nat
  user2Uuid : Nat
  deriving DecidableEq, Repr

structure GroupMember where
  threadId : Nat
  userUuid : Nat
  deriving DecidableEq, Repr

/-- A row of `ChatMsgHistoryBank`. -/
structure ChatMsg where
  messageId : Nat
  threadId : Nat
  messageStatus : Nat
  messageSender : Nat
  messageReceiver : Nat
  messageContent : String
  deriving DecidableEq, Repr

structure Tables where
  /-- the uuids of `Authentication` -/
  authentication : List Nat
  friendRequest : List FriendRequest
  authFriend : List AuthFriend
  globalThreadIndex : List Nat
  privateChat : List PrivateChat
  groupMember : List GroupMember
  chatMsgHistoryBank : List ChatMsg
  deriving DecidableEq, Repr

/-- The last id each table gave out. -/
structure Counters where
  friendRequest : Nat
  authFriend : Nat
  globalThreadIndex : Nat
  chatMsgHistoryBank : Nat
  deriving DecidableEq, Repr

/-- A database with registered users and nothing else. -/
def registered (users : List Nat) : Store Tables Counters where
  tables :=
    { authentication := users, friendRequest := [], authFriend := [], globalThreadIndex := [],
      privateChat := [], groupMember := [], chatMsgHistoryBank := [] }
  counters :=
    { friendRequest := 0, authFriend := 0, globalThreadIndex := 0, chatMsgHistoryBank := 0 }

structure MySql where
  hasMessageReceiver : Bool
  bigint : String → Option Nat
  bigint_repr : ∀ n : Nat, bigint n.repr = some n

/-- A server that reads decimal texts only. -/
def MySql.decimal (hasMessageReceiver : Bool) : MySql where
  hasMessageReceiver := hasMessageReceiver
  bigint text := Text.leadingDigits text.toList
  bigint_repr n := by
    rw [Nat.toList_repr]
    exact Text.leadingDigits_toDigits n

abbrev DbStore := Store Tables Counters

/-! ## Rows added -/

def addFriendRequest (srcUuid dstUuid : Nat) (nickname message : String) (s : DbStore) :
    DbStore :=
  let id := s.counters.friendRequest + 1
  let row : FriendRequest := ⟨id, srcUuid, dstUuid, some nickname, some message, false⟩
  { tables := { s.tables with friendRequest := s.tables.friendRequest ++ [row] }
    counters := { s.counters with friendRequest := id } }

def setRequestStatus (status : Bool) (srcUuid dstUuid : Nat) (s : DbStore) : DbStore :=
  let rows := s.tables.friendRequest.map fun r =>
    if r.srcUuid = srcUuid ∧ r.dstUuid = dstUuid then { r with status := status } else r
  { s with tables := { s.tables with friendRequest := rows } }

def addAuthFriend (friendUuid selfUuid : Nat) (alternativeName : String) (s : DbStore) :
    DbStore :=
  let id := s.counters.authFriend + 1
  let row : AuthFriend := ⟨id, selfUuid, friendUuid, alternativeName⟩
  { tables := { s.tables with authFriend := s.tables.authFriend ++ [row] }
    counters := { s.counters with authFriend := id } }

def addThread (s : DbStore) : DbStore :=
  let id := s.counters.globalThreadIndex + 1
  { tables := { s.tables with globalThreadIndex := s.tables.globalThreadIndex ++ [id] }
    counters := { s.counters with globalThreadIndex := id } }

def addPrivateChat (row : PrivateChat) (s : DbStore) : DbStore :=
  { s with tables := { s.tables with privateChat := s.tables.privateChat ++ [row] } }

def addMsg (threadId messageStatus messageSender messageReceiver : Nat) (messageContent : String)
    (s : DbStore) : DbStore :=
  let id := s.counters.chatMsgHistoryBank + 1
  let row : ChatMsg :=
    ⟨id, threadId, messageStatus, messageSender, messageReceiver, messageContent⟩
  { tables := { s.tables with chatMsgHistoryBank := s.tables.chatMsgHistoryBank ++ [row] }
    counters := { s.counters with chatMsgHistoryBank := id } }

/-! ## Statements -/

/-- `boost::mysql::results`. -/
structure Results (ρ : Type) where
  rows : List ρ
  affectedRows : Nat
  lastInsertId : Nat

/-- A statement; none: the server reports an error. -/
abbrev Statement (ρ : Type) := DbStore → Option (Results ρ × DbStore)

def Results.ofRows {ρ : Type} (rows : List ρ) : Results ρ where
  rows := rows
  affectedRows := 0
  lastInsertId := 0

def Results.affected (affectedRows lastInsertId : Nat) : Results Empty where
  rows := []
  affectedRows := affectedRows
  lastInsertId := lastInsertId

/-- A `SELECT`. -/
def select {ρ : Type} (rows : Tables → List ρ) : Statement ρ := fun s =>
  some (.ofRows (rows s.tables), s)

/-- `USER_UUID_CHECK` -/
def userUuidCheck (uuid : Int) : Statement Nat :=
  select fun t => t.authentication.filter fun u => (u : Int) = uuid

/-- `CREATE_FRIENDING_REQUEST`: no key of the table but its id is unique, so there is never a
    duplicate key. -/
def createFriendingRequest (srcUuid dstUuid : Nat) (nickname message : String) :
    Statement Empty := fun s =>
  if srcUuid ∈ s.tables.authentication ∧ dstUuid ∈ s.tables.authentication then
    some (.affected 1 (s.counters.friendRequest + 1),
      addFriendRequest srcUuid dstUuid nickname message s)
  else none

/-- `CHECK_FRIEND_REQUEST_LIST_WITH_LOCK` -/
def checkFriendRequestListWithLock (srcUuid dstUuid : Nat) : Statement FriendRequest :=
  select fun t => t.friendRequest.filter fun r => r.srcUuid = srcUuid ∧ r.dstUuid = dstUuid

/-- `UPDATE_FRIEND_REQUEST_STATUS`; the rows whose status changes are affected. -/
def updateFriendRequestStatus (status : Bool) (srcUuid dstUuid : Nat) : Statement Empty := fun s =>
  let changed := s.tables.friendRequest.countP fun r =>
    r.srcUuid = srcUuid ∧ r.dstUuid = dstUuid ∧ r.status ≠ status
  some (.affected changed 0, setRequestStatus status srcUuid dstUuid s)

/-- `CREATE_AUTH_FRIEND_ENTRY`: a row with a known (self, friend), or with a user who does not
    exist, is ignored. -/
def createAuthFriendEntry (friendUuid selfUuid : Nat) (alternativeName : String) :
    Statement Empty := fun s =>
  if (∃ r ∈ s.tables.authFriend, r.selfUuid = selfUuid ∧ r.friendUuid = friendUuid) ∨
      friendUuid ∉ s.tables.authentication ∨ selfUuid ∉ s.tables.authentication then
    some (.affected 0 0, s)
  else
    some (.affected 1 (s.counters.authFriend + 1),
      addAuthFriend friendUuid selfUuid alternativeName s)

/-- `CREATE_PRIVATE_GLOBAL_THREAD_INDEX` -/
def createPrivateGlobalThreadIndex : Statement Empty := fun s =>
  some (.affected 1 (s.counters.globalThreadIndex + 1), addThread s)

/-- `CHECK_PRIVATE_CHAT_WITH_LOCK` -/
def checkPrivateChatWithLock (user1Uuid user2Uuid : Nat) : Statement PrivateChat :=
  select fun t => t.privateChat.filter fun r => r.user1Uuid = user1Uuid ∧ r.user2Uuid = user2Uuid

/-- `CREATE_PRIVATE_CHAT_BY_USER_PAIR`: `thread_id` and the pair are unique. -/
def createPrivateChatByUserPair (sql : MySql) (threadId : String) (user1Uuid user2Uuid : Nat) :
    Statement Empty := fun s =>
  match sql.bigint threadId with
  | none => none
  | some id =>
    if ∃ r ∈ s.tables.privateChat, r.threadId = id ∨
        (r.user1Uuid = user1Uuid ∧ r.user2Uuid = user2Uuid) then none
    else some (.affected 1 0, addPrivateChat ⟨id, user1Uuid, user2Uuid⟩ s)

/-- `CREATE_MSG_HISTORY_BANK_TUPLE` -/
def createMsgHistoryBankTuple (sql : MySql) (threadId : String) (messageStatus : Nat)
    (messageSender messageReceiver : Nat) (messageContent : String) : Statement Empty := fun s =>
  if sql.hasMessageReceiver then
    match sql.bigint threadId with
    | none => none
    | some thread =>
      some (.affected 1 (s.counters.chatMsgHistoryBank + 1),
        addMsg thread messageStatus messageSender messageReceiver messageContent s)
  else none

/-! ## What statements that go through do -/

theorem select_eq_some {ρ : Type} {rows : Tables → List ρ} {s s' : DbStore} {flag : Results ρ}
    (h : select rows s = some (flag, s')) : flag.rows = rows s.tables ∧ s' = s := by
  obtain ⟨rfl, rfl⟩ := Prod.mk.inj (Option.some.inj h)
  exact ⟨rfl, rfl⟩

theorem createFriendingRequest_eq_some {src dst : Nat} {nickname message : String}
    {s s' : DbStore} {flag : Results Empty}
    (h : createFriendingRequest src dst nickname message s = some (flag, s')) :
    (src ∈ s.tables.authentication ∧ dst ∈ s.tables.authentication) ∧
      s' = addFriendRequest src dst nickname message s := by
  unfold createFriendingRequest at h
  split at h
  · rename_i husers
    exact ⟨husers, (Prod.mk.inj (Option.some.inj h)).2.symm⟩
  · cases h

theorem createAuthFriendEntry_eq_some {friendUuid selfUuid : Nat} {alternative : String}
    {s s' : DbStore} {flag : Results Empty}
    (h : createAuthFriendEntry friendUuid selfUuid alternative s = some (flag, s'))
    (hrows : flag.affectedRows ≠ 0) : s' = addAuthFriend friendUuid selfUuid alternative s := by
  unfold createAuthFriendEntry at h
  split at h
  · obtain ⟨rfl, -⟩ := Prod.mk.inj (Option.some.inj h)
    exact absurd rfl hrows
  · exact (Prod.mk.inj (Option.some.inj h)).2.symm

theorem createPrivateChatByUserPair_eq_some {sql : MySql} {id user1 user2 : Nat}
    {s s' : DbStore} {flag : Results Empty}
    (h : createPrivateChatByUserPair sql id.repr user1 user2 s = some (flag, s')) :
    (∀ r ∈ s.tables.privateChat, ¬ (r.user1Uuid = user1 ∧ r.user2Uuid = user2)) ∧
      s' = addPrivateChat ⟨id, user1, user2⟩ s := by
  unfold createPrivateChatByUserPair at h
  rw [sql.bigint_repr] at h
  simp only at h
  split at h
  · cases h
  · rename_i hfree
    refine ⟨fun r hr hpair => hfree ⟨r, hr, Or.inr hpair⟩, ?_⟩
    exact (Prod.mk.inj (Option.some.inj h)).2.symm

theorem createMsgHistoryBankTuple_eq_some {sql : MySql} {threadId content : String}
    {status sender receiver : Nat} {s s' : DbStore} {flag : Results Empty}
    (h : createMsgHistoryBankTuple sql threadId status sender receiver content s =
      some (flag, s')) :
    sql.hasMessageReceiver = true ∧ ∃ thread, sql.bigint threadId = some thread ∧
      flag = .affected 1 (s.counters.chatMsgHistoryBank + 1) ∧
      s' = addMsg thread status sender receiver content s := by
  unfold createMsgHistoryBankTuple at h
  split at h
  · rename_i hcolumn
    split at h
    · cases h
    · rename_i thread hthread
      obtain ⟨hflag, hstore⟩ := Prod.mk.inj (Option.some.inj h)
      exact ⟨hcolumn, thread, hthread, hflag.symm, hstore.symm⟩
  · cases h

end DistributedIM.ChattingServer
