/-
  `MySQLConnection::getChattingHistoryRecord` called from message id 0 on, each time with the
  `next_msg_id` of the call before, until `is_EOF`. A call that returns nothing has set `is_EOF`
  too, and ends the reading.

  `ReadsHistory` is what paging is for: every message of the thread once, in ascending order and
  with its own id. No thread with a message is read so (`readsHistory_iff`), whatever the driver
  counts as affected: if a `SELECT` affects no row, nothing comes; otherwise the messages come
  without their ids, and the cursor, taken from the last of them, is no number (`follow_eq`).
-/
import DistributedIM.ChattingServer.ChatRecords
import DistributedIM.Lib.LookAhead

namespace DistributedIM.ChattingServer

open LookAhead

/-! ## Reading a thread -/

/-- The messages of a thread. -/
def messagesOf (t : Tables) (threadId : Nat) : List ChatMsg :=
  t.chatMsgHistoryBank.filter fun m => m.threadId = threadId

/-- A message with its own id. -/
def ChatMsg.whole (m : ChatMsg) : RecordInfo :=
  { m.toInfo m.threadId.repr with msgId := m.messageId.repr }

/-- The items of a page. -/
def RecordPage.items (threadId : Nat) (page : RecordPage) : List RecordInfo :=
  page.records.map (ChatMsg.toInfo threadId.repr)

variable (driver : MySqlDriver) (t : Tables) (threadId interval : Nat)

/-- A call, and the number that its `next_msg_id` is for the next one. -/
def readRecords (msgId : Nat) : Option (Answer RecordPage) :=
  match getChattingHistoryRecord driver t threadId msgId interval with
  | .ok (some page) => some ⟨page, if page.isEOF then none else Text.readUInt64 page.nextMsgId⟩
  | _ => none

/-- Reading from 0 on ends, with every message once, in order and whole, and `is_EOF` at the end
    only. -/
def ReadsHistory : Prop :=
  ∃ fuel pages, follow (readRecords driver t threadId interval) fuel 0 = some pages ∧
    LastOnly RecordPage.isEOF pages ∧
    ∃ rows : List ChatMsg, rows.Perm (messagesOf t threadId) ∧
      rows.Pairwise (fun a b => a.messageId < b.messageId) ∧
      pages.flatMap (RecordPage.items threadId) = rows.map ChatMsg.whole

/-! ## What comes -/

variable {driver t threadId interval}

theorem recordsOf_nextMsgId {rows : List ChatMsg} {page : RecordPage}
    (h : recordsOf driver interval rows = .ok (some page)) : page.nextMsgId = "" := by
  unfold recordsOf at h
  split at h
  · cases h
  split at h
  · cases h
  split at h
  · split at h
    · cases h
      rfl
    · cases h
      rfl
  · cases h

/-- No call says where to go on. -/
theorem readRecords_next {msgId : Nat} {answer : Answer RecordPage}
    (h : readRecords driver t threadId interval msgId = some answer) : answer.next = none := by
  unfold readRecords at h
  split at h
  · rename_i page hpage
    cases h
    rw [recordsOf_nextMsgId hpage]
    exact ite_self none
  · cases h

/-- One call is all. -/
theorem follow_eq (fuel msgId : Nat) :
    follow (readRecords driver t threadId interval) (fuel + 1) msgId =
      some ((readRecords driver t threadId interval msgId).map Answer.page).toList := by
  rw [follow]
  cases hcall : readRecords driver t threadId interval msgId with
  | none => rfl
  | some answer =>
    obtain ⟨page, next⟩ := answer
    obtain rfl : next = none := readRecords_next hcall
    rfl

theorem readRecords_of_nil (h : messagesOf t threadId = []) (msgId : Nat) :
    readRecords driver t threadId interval msgId = none := by
  have hrows (limit : Nat) : getUserChatRecords t threadId msgId limit = [] := by
    have hnone : (t.chatMsgHistoryBank.filter fun m =>
        m.threadId = threadId ∧ msgId < m.messageId) = [] := by
      rw [messagesOf, List.filter_eq_nil_iff] at h
      apply List.filter_eq_nil_iff.mpr
      intro m hm hrow
      apply h m hm
      simp only [decide_eq_true_eq] at hrow ⊢
      exact hrow.1
    rw [getUserChatRecords, hnone]
    exact List.take_nil
  have hpage : getChattingHistoryRecord driver t threadId msgId interval = .ok none := by
    rw [getChattingHistoryRecord, hrows, recordsOf]
    split
    · rfl
    · rfl
  rw [readRecords, hpage]

/-- No item has the id of a message. -/
theorem items_ne_whole {page : RecordPage} {item : RecordInfo} (h : item ∈ page.items threadId)
    (m : ChatMsg) : item ≠ m.whole := by
  obtain ⟨m', -, rfl⟩ := List.mem_map.mp h
  intro heq
  have hid : "" = m.messageId.repr := congrArg RecordInfo.msgId heq
  exact Text.repr_ne_empty m.messageId hid.symm

/-- Only a thread without messages is read. -/
theorem readsHistory_iff (driver : MySqlDriver) (t : Tables) (threadId interval : Nat) :
    ReadsHistory driver t threadId interval ↔ messagesOf t threadId = [] := by
  constructor
  · rintro ⟨fuel, pages, -, -, rows, hperm, -, hitems⟩
    cases rows with
    | nil => exact hperm.symm.eq_nil
    | cons m rows =>
      have hmem : m.whole ∈ pages.flatMap (RecordPage.items threadId) := by
        rw [hitems]
        exact List.mem_cons_self
      obtain ⟨page, -, hitem⟩ := List.mem_flatMap.mp hmem
      exact absurd rfl (items_ne_whole hitem m)
  · intro hnil
    refine ⟨1, [], follow_of_none (readRecords_of_nil hnil 0) 0, lastOnly_nil _, [], ?_,
      List.Pairwise.nil, rfl⟩
    rw [hnil]

/-- One message, sent by user 2 to user 1 in thread 7. -/
def oneMessage : Tables where
  authentication := [1, 2]
  friendRequest := []
  authFriend := []
  globalThreadIndex := [7]
  privateChat := [⟨7, 1, 2⟩]
  groupMember := []
  chatMsgHistoryBank := [⟨1, 7, 0, 2, 1, "a"⟩]

/-- A `SELECT` that affects no row returns no page with the message. -/
theorem not_readsHistory_oneMessage : ¬ReadsHistory ⟨fun _ => 0, true, true⟩ oneMessage 7 10 := by
  rintro ⟨fuel, pages, hpages, -, rows, hperm, -, hitems⟩
  cases fuel with
  | zero => cases hpages
  | succ fuel =>
    rw [follow_eq] at hpages
    obtain rfl : [] = pages := Option.some.inj hpages
    have hrows : rows = [] := List.map_eq_nil_iff.mp hitems.symm
    rw [hrows] at hperm
    exact absurd hperm.symm.eq_nil (by decide)

end DistributedIM.ChattingServer
