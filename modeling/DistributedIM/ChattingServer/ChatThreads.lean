/-
  The thread list of a user, a page at a time: the statement `GET_USER_CHAT_THREADS`,
  `MySQLConnection::getUserChattingThreadIdx` and `SyncLogic::handlingUserChatTheads`.

  The statement asks for one row more than a page holds; the extra row only tells that the page is
  not the last one. A query without rows is an error for the caller, also behind the last page.

  The columns are taken to be readable as the code reads them. A request is text, as the JSON
  object has it; `none` is a request on which `std::stoi` throws, and nothing is answered.
-/
import Mathlib.Data.List.Pairwise
import Mathlib.Data.List.Sort
import DistributedIM.ChattingServer.Database

namespace DistributedIM.ChattingServer

/-! ## The statement -/

/-- A row of `GET_USER_CHAT_THREADS`; a group has no users. -/
structure ThreadRow where
  threadId : Nat
  users : Option (Nat × Nat)
  deriving DecidableEq, Repr

def PrivateChat.toRow (p : PrivateChat) : ThreadRow where
  threadId := p.threadId
  users := some (p.user1Uuid, p.user2Uuid)

def GroupMember.toRow (g : GroupMember) : ThreadRow where
  threadId := g.threadId
  users := none

/-- The private chats of a user behind a thread id. -/
def privateChatsOf (t : Tables) (selfUuid curThreadId : Nat) : List PrivateChat :=
  t.privateChat.filter fun p =>
    (p.user1Uuid = selfUuid ∨ p.user2Uuid = selfUuid) ∧ curThreadId < p.threadId

def groupsOf (t : Tables) (selfUuid curThreadId : Nat) : List GroupMember :=
  t.groupMember.filter fun g => g.userUuid = selfUuid ∧ curThreadId < g.threadId

/-- `all_threads` -/
def allThreads (t : Tables) (selfUuid curThreadId : Nat) : List ThreadRow :=
  (privateChatsOf t selfUuid curThreadId).map PrivateChat.toRow ++
    (groupsOf t selfUuid curThreadId).map GroupMember.toRow

/-- The order of the rows. -/
def ThreadRow.Before (a b : ThreadRow) : Prop :=
  a.threadId ≤ b.threadId

instance : DecidableRel ThreadRow.Before :=
  fun a b => inferInstanceAs (Decidable (a.threadId ≤ b.threadId))

instance : Std.Total ThreadRow.Before where
  total a b := Nat.le_total a.threadId b.threadId

instance : IsTrans ThreadRow ThreadRow.Before where
  trans _ _ _ := Nat.le_trans

/-- `GET_USER_CHAT_THREADS` -/
def getUserChatThreads (t : Tables) (selfUuid curThreadId limit : Nat) : List ThreadRow :=
  ((allThreads t selfUuid curThreadId).insertionSort ThreadRow.Before).take limit

/-! ## Pages -/

/-- An element of `threads` in the reply; a group comes without users. -/
structure ThreadInfo where
  threadId : String
  type : String
  user1Uuid : Option String
  user2Uuid : Option String
  deriving DecidableEq, Repr

def ThreadRow.toInfo (r : ThreadRow) : ThreadInfo where
  threadId := r.threadId.repr
  type := if r.users.isNone then "GROUP" else "PRIVATE"
  user1Uuid := r.users.map fun u => u.1.repr
  user2Uuid := r.users.map fun u => u.2.repr

/-- `interval + 1` as `std::size_t`: the rows of a page and one to test EOF. -/
def lookAhead (interval : Nat) : Nat :=
  (interval + 1) % 2 ^ 64

/-- What `getUserChattingThreadIdx` returns, with its two output parameters. -/
structure ThreadPage where
  threads : List ThreadInfo
  nextThreadId : String
  isEOF : Bool
  deriving DecidableEq, Repr

/-- The rows of a page; one behind `interval` is dropped. -/
def pageRows (interval : Nat) (rows : List ThreadRow) : List ThreadRow :=
  if interval < rows.length then rows.dropLast else rows

/-- The page that is made of some rows. -/
def pageOf (curThreadId interval : Nat) (rows : List ThreadRow) : ThreadPage :=
  -- before the loop the number is assigned to the string, as one character
  let next := (Char.ofNat (curThreadId % 256)).toString
  { threads := (pageRows interval rows).map ThreadRow.toInfo
    nextThreadId := ((pageRows interval rows).getLast?.map fun r => r.threadId.repr).getD next
    isEOF := !(interval < rows.length) }

def getUserChattingThreadIdx (t : Tables) (selfUuid curThreadId interval : Nat) :
    Option ThreadPage :=
  if selfUuid ∈ t.authentication then
    let rows := getUserChatThreads t selfUuid curThreadId (lookAhead interval)
    if rows.isEmpty then none else some (pageOf curThreadId interval rows)
  else none

/-- The statuses of this service. -/
inductive ServiceStatus
  | jsonParseError
  | chatThreadParseError
  deriving DecidableEq, Repr

/-- `SERVICE_PULLCHATTHREADRESPONSE` -/
inductive ThreadReply
  | error (status : ServiceStatus)
  | success (isComplete : Bool) (nextThreadId : String) (threads : List ThreadInfo)
  deriving DecidableEq, Repr

/-- The reply to a request with the fields `uuid` and `thread_id`. -/
def handlingUserChatTheads (t : Tables) (uuid threadId : String) : Option ThreadReply :=
  if (Text.readUInt64 uuid).isNone || (Text.readUInt64 threadId).isNone then
    some (.error .jsonParseError)
  else
    match Text.stoi uuid, Text.stoi threadId with
    | some self, some cur =>
      match getUserChattingThreadIdx t self.toNat cur.toNat 10 with
      | none => some (.error .chatThreadParseError)
      | some page => some (.success page.isEOF page.nextThreadId page.threads)
    | _, _ => none

/-! ## What a page holds -/

theorem getUserChatThreads_eq_nil_iff {t : Tables} {self cur limit : Nat} (hlimit : 0 < limit) :
    getUserChatThreads t self cur limit = [] ↔ allThreads t self cur = [] := by
  unfold getUserChatThreads
  rw [List.take_eq_nil_iff, or_iff_right (by omega), ← List.length_eq_zero_iff,
    List.length_insertionSort, List.length_eq_zero_iff]

theorem lookAhead_of_lt {interval : Nat} (h : interval + 1 < 2 ^ 64) :
    lookAhead interval = interval + 1 :=
  Nat.mod_eq_of_lt h

theorem getUserChattingThreadIdx_eq (t : Tables) (self cur : Nat) {interval : Nat}
    (hsize : interval + 1 < 2 ^ 64) :
    getUserChattingThreadIdx t self cur interval =
      if self ∈ t.authentication ∧ allThreads t self cur ≠ [] then
        some (pageOf cur interval (getUserChatThreads t self cur (interval + 1)))
      else none := by
  have hnil : getUserChatThreads t self cur (interval + 1) = [] ↔ allThreads t self cur = [] :=
    getUserChatThreads_eq_nil_iff (Nat.succ_pos interval)
  simp only [getUserChattingThreadIdx, lookAhead_of_lt hsize, List.isEmpty_iff, ite_and, ne_eq,
    ite_not, ← hnil]

/-- A page is not empty: the row that is dropped is not the only one. -/
theorem pageRows_ne_nil {interval : Nat} {rows : List ThreadRow} (hinterval : 0 < interval)
    (hrows : rows ≠ []) : pageRows interval rows ≠ [] := by
  intro hnil
  unfold pageRows at hnil
  split at hnil
  · have hlength := congrArg List.length hnil
    rw [List.length_dropLast, List.length_nil] at hlength
    omega
  · exact hrows hnil

theorem length_pageRows_le {interval : Nat} {rows : List ThreadRow}
    (hrows : rows.length ≤ interval + 1) : (pageRows interval rows).length ≤ interval := by
  unfold pageRows
  split
  · rw [List.length_dropLast]
    omega
  · omega

theorem lt_of_mem_allThreads {t : Tables} {self cur : Nat} {r : ThreadRow}
    (h : r ∈ allThreads t self cur) : cur < r.threadId := by
  simp only [allThreads, privateChatsOf, groupsOf, List.mem_append, List.mem_map,
    List.mem_filter, decide_eq_true_eq] at h
  rcases h with ⟨p, hp, rfl⟩ | ⟨g, hg, rfl⟩
  · exact hp.2.2
  · exact hg.2.2

theorem allThreads_subset {t : Tables} {self cur cur' : Nat} (hcur : cur ≤ cur') :
    allThreads t self cur' ⊆ allThreads t self cur := by
  intro r hr
  simp only [allThreads, privateChatsOf, groupsOf, List.mem_append, List.mem_map,
    List.mem_filter, decide_eq_true_eq] at hr ⊢
  rcases hr with ⟨p, hp, rfl⟩ | ⟨g, hg, rfl⟩
  · exact Or.inl ⟨p, ⟨hp.1, hp.2.1, hcur.trans_lt hp.2.2⟩, rfl⟩
  · exact Or.inr ⟨g, ⟨hg.1, hg.2.1, hcur.trans_lt hg.2.2⟩, rfl⟩

/-- A query that is not cut off returns all rows, in order. -/
theorem getUserChatThreads_of_lt {t : Tables} {self cur limit : Nat}
    (h : (getUserChatThreads t self cur limit).length < limit) :
    getUserChatThreads t self cur limit =
      (allThreads t self cur).insertionSort ThreadRow.Before := by
  apply List.take_of_length_le
  rw [getUserChatThreads, List.length_take] at h
  omega

/-- The cursor behind a complete page: no row is left there. -/
theorem nextThreadId_of_isEOF {t : Tables} {self cur interval : Nat} {rows : List ThreadRow}
    (hrows : getUserChatThreads t self cur (interval + 1) = rows) (hne : rows ≠ [])
    (heof : (pageOf cur interval rows).isEOF = true) :
    ∃ last : Nat, (pageOf cur interval rows).nextThreadId = last.repr ∧
      allThreads t self last = [] := by
  have hle : ¬interval < rows.length := by simpa [pageOf] using heof
  have hall : rows = (allThreads t self cur).insertionSort ThreadRow.Before := by
    rw [← hrows]
    apply getUserChatThreads_of_lt
    rw [hrows]
    omega
  have hmem (r : ThreadRow) : r ∈ rows ↔ r ∈ allThreads t self cur := by
    rw [hall, List.mem_insertionSort]
  have hsorted : rows.Pairwise ThreadRow.Before :=
    hall ▸ List.pairwise_insertionSort ThreadRow.Before _
  refine ⟨(rows.getLast hne).threadId, ?_, ?_⟩
  · simp only [pageOf, pageRows, if_neg hle, List.getLast?_eq_getLast_of_ne_nil hne,
      Option.map_some, Option.getD_some]
  · apply List.eq_nil_iff_forall_not_mem.mpr
    intro r hr
    have hcur : cur < (rows.getLast hne).threadId :=
      lt_of_mem_allThreads ((hmem _).mp (List.getLast_mem hne))
    have hlast : (rows.getLast hne).threadId < r.threadId := lt_of_mem_allThreads hr
    have hbefore : r.threadId ≤ (rows.getLast hne).threadId :=
      hsorted.rel_getLast_of_rel_getLast_getLast
        ((hmem r).mpr (allThreads_subset hcur.le hr)) (Nat.le_refl _)
    omega

/-! ## The reply -/

/-- The threads a request for the numbers `user` and `cur` is answered from: none unless the user
    is known and the code can read the numbers. -/
def served (t : Tables) (user cur : Nat) : List ThreadRow :=
  if user ∈ t.authentication ∧ user < 2 ^ 31 ∧ cur < 2 ^ 31 then allThreads t user cur else []

theorem handlingUserChatTheads_repr {t : Tables} {user cur : Nat} (huser : user < 2 ^ 31)
    (hcur : cur < 2 ^ 31) :
    handlingUserChatTheads t user.repr cur.repr =
      match getUserChattingThreadIdx t user cur 10 with
      | none => some (.error .chatThreadParseError)
      | some page => some (.success page.isEOF page.nextThreadId page.threads) := by
  unfold handlingUserChatTheads
  rw [Text.readUInt64_repr (by omega), Text.readUInt64_repr (by omega), Text.stoi_repr huser,
    Text.stoi_repr hcur]
  rfl

theorem handlingUserChatTheads_of_served {t : Tables} {user cur : Nat}
    (h : served t user cur ≠ []) :
    let page := pageOf cur 10 (getUserChatThreads t user cur 11)
    handlingUserChatTheads t user.repr cur.repr =
      some (.success page.isEOF page.nextThreadId page.threads) := by
  intro page
  unfold served at h
  split at h
  · rename_i hread
    rw [handlingUserChatTheads_repr hread.2.1 hread.2.2,
      getUserChattingThreadIdx_eq t user cur (by decide), if_pos ⟨hread.1, h⟩]
  · exact absurd rfl h

/-- Without threads there is an error, or no answer. -/
theorem handlingUserChatTheads_of_not_served {t : Tables} {user cur : Nat}
    (h : served t user cur = []) :
    handlingUserChatTheads t user.repr cur.repr = none ∨
      ∃ status, handlingUserChatTheads t user.repr cur.repr = some (.error status) := by
  by_cases hread : user < 2 ^ 31 ∧ cur < 2 ^ 31
  · right
    use .chatThreadParseError
    have hnot : ¬(user ∈ t.authentication ∧ allThreads t user cur ≠ []) := by
      intro hrows
      apply hrows.2
      rw [← h, served, if_pos ⟨hrows.1, hread⟩]
    rw [handlingUserChatTheads_repr hread.1 hread.2,
      getUserChattingThreadIdx_eq t user cur (by decide), if_neg hnot]
  · have hstoi : Text.stoi user.repr = none ∨ Text.stoi cur.repr = none := by
      rw [not_and_or, Nat.not_lt, Nat.not_lt] at hread
      exact hread.imp Text.stoi_repr_eq_none Text.stoi_repr_eq_none
    unfold handlingUserChatTheads
    split
    · exact Or.inr ⟨_, rfl⟩
    · left
      split
      · rename_i hself hcur
        rw [hself, hcur] at hstoi
        cases hstoi with
        | inl h => cases h
        | inr h => cases h
      · rfl

end DistributedIM.ChattingServer
