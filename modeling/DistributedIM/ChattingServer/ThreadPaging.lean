/-
  `MySQLConnection::getUserChattingThreadIdx` called from thread id 0 on, each time with the
  `next_thread_id` of the call before, until `is_EOF`. A call that returns nothing has set `is_EOF`
  too, and ends the reading.

  `ReadsAll` is what paging is for: every private and group thread of the user once, in ascending
  order, and `is_EOF` on the last page only. The limit of the query is `interval + 1` in a
  `std::size_t`, which is 0 for the largest interval; `readsAll_iff` says that nothing else goes
  wrong, at multiples of the interval neither.
-/
import DistributedIM.ChattingServer.ChatThreads
import DistributedIM.Lib.LookAhead

namespace DistributedIM.ChattingServer

open LookAhead

/-! ## The threads of a user -/

/-- The private and group threads of a user. -/
def threadsOf (t : Tables) (user : Nat) : List ThreadRow :=
  (t.privateChat.filter fun p => p.user1Uuid = user ∨ p.user2Uuid = user).map PrivateChat.toRow ++
    (t.groupMember.filter fun g => g.userUuid = user).map GroupMember.toRow

/-- A registered user whose threads have distinct ids, as `GlobalThreadIndexTable` numbers them: from
    1 on, in a `BIGINT UNSIGNED`. -/
structure UserThreads (t : Tables) (user : Nat) : Prop where
  registered : user ∈ t.authentication
  distinct : ((threadsOf t user).map ThreadRow.threadId).Nodup
  positive : ∀ r ∈ threadsOf t user, 0 < r.threadId
  fits : ∀ r ∈ threadsOf t user, r.threadId < 2 ^ 64

/-! ## Reading them -/

/-- A call, and the number that its `next_thread_id` is for the next one. -/
def readThreads (t : Tables) (selfUuid interval curThreadId : Nat) : Option (Answer ThreadPage) :=
  (getUserChattingThreadIdx t selfUuid curThreadId interval).map fun page =>
    ⟨page, if page.isEOF then none else Text.readUInt64 page.nextThreadId⟩

/-- Reading from 0 on ends, with every thread once and in order, and `is_EOF` at the end only. -/
def ReadsAll (t : Tables) (user interval : Nat) : Prop :=
  ∃ fuel pages, follow (readThreads t user interval) fuel 0 = some pages ∧
    LastOnly ThreadPage.isEOF pages ∧
    ∃ rows : List ThreadRow, rows.Perm (threadsOf t user) ∧
      rows.Pairwise (fun a b => a.threadId < b.threadId) ∧
      pages.flatMap ThreadPage.threads = rows.map ThreadRow.toInfo

/-! ## A call -/

theorem allThreads_eq_filter (t : Tables) (user cur : Nat) :
    allThreads t user cur = (threadsOf t user).filter fun r => cur < r.threadId := by
  unfold allThreads threadsOf privateChatsOf groupsOf
  rw [List.filter_append, List.filter_map, List.filter_map, List.filter_filter,
    List.filter_filter]
  congr 2
  · apply List.filter_congr
    intro p _
    rw [Bool.eq_iff_iff]
    simp only [Function.comp, Bool.and_eq_true, decide_eq_true_eq]
    exact and_comm
  · apply List.filter_congr
    intro g _
    rw [Bool.eq_iff_iff]
    simp only [Function.comp, Bool.and_eq_true, decide_eq_true_eq]
    exact and_comm

theorem getUserChatThreads_eq_page (t : Tables) (user cur limit : Nat) :
    getUserChatThreads t user cur limit =
      Paging.page ThreadRow.threadId (threadsOf t user) limit cur := by
  unfold getUserChatThreads
  rw [allThreads_eq_filter]
  rfl

theorem allThreads_eq_nil_iff {t : Tables} {user cur : Nat} :
    allThreads t user cur = [] ↔ Paging.behind ThreadRow.threadId (threadsOf t user) cur = [] := by
  have hperm : (Paging.behind ThreadRow.threadId (threadsOf t user) cur).Perm _ :=
    Paging.perm_behind (threadsOf t user) cur
  rw [allThreads_eq_filter, ← List.length_eq_zero_iff, ← hperm.length_eq, List.length_eq_zero_iff]

/-- The page of a call is cut from one row more. -/
theorem pageOf_page (t : Tables) (user cur interval : Nat) :
    let rows := Paging.behind ThreadRow.threadId (threadsOf t user) cur
    let page := pageOf cur interval (Paging.page ThreadRow.threadId (threadsOf t user)
      (interval + 1) cur)
    page.threads = (rows.take interval).map ThreadRow.toInfo ∧
      (∀ a, (rows.take interval).getLast? = some a → page.nextThreadId = a.threadId.repr) ∧
      (page.isEOF = true ↔ rows.length ≤ interval) := by
  intro rows page
  have hkept : pageRows interval (rows.take (interval + 1)) = rows.take interval :=
    kept_take interval rows
  refine ⟨congrArg (List.map ThreadRow.toInfo) hkept, ?_, ?_⟩
  · intro a ha
    change ((pageRows interval (rows.take (interval + 1))).getLast?.map _).getD _ = _
    rw [hkept, ha]
    rfl
  · change (!decide (interval < (rows.take (interval + 1)).length)) = true ↔ _
    rw [Bool.not_eq_true', decide_eq_false_iff_not, lt_length_take_iff, Nat.not_lt]

theorem readThreads_eq {t : Tables} {user interval : Nat} (h : UserThreads t user)
    (hsize : interval + 1 < 2 ^ 64) (cur : Nat) :
    readThreads t user interval cur =
      if Paging.behind ThreadRow.threadId (threadsOf t user) cur = [] then none
      else
        let page := pageOf cur interval (Paging.page ThreadRow.threadId (threadsOf t user)
          (interval + 1) cur)
        some ⟨page, if page.isEOF then none else Text.readUInt64 page.nextThreadId⟩ := by
  rw [readThreads, getUserChattingThreadIdx_eq t user cur hsize, getUserChatThreads_eq_page]
  by_cases hnil : Paging.behind ThreadRow.threadId (threadsOf t user) cur = []
  · have hnone : ¬(user ∈ t.authentication ∧ allThreads t user cur ≠ []) := by
      rw [not_and, not_not]
      exact fun _ => allThreads_eq_nil_iff.mpr hnil
    rw [if_neg hnone, if_pos hnil]
    rfl
  · have hsome : user ∈ t.authentication ∧ allThreads t user cur ≠ [] :=
      ⟨h.registered, fun hall => hnil (allThreads_eq_nil_iff.mp hall)⟩
    rw [if_pos hsome, if_neg hnil]
    rfl

/-- The calls serve the threads of the user. -/
theorem serves {t : Tables} {user interval : Nat} (h : UserThreads t user)
    (hsize : interval + 1 < 2 ^ 64) :
    Serves ThreadRow.threadId (threadsOf t user) interval (readThreads t user interval)
      ThreadPage.threads ThreadRow.toInfo ThreadPage.isEOF where
  nothing := by
    intro start hnil
    rw [readThreads_eq h hsize, if_pos hnil]
  last := by
    intro start hne hlast
    obtain ⟨hthreads, -, heof⟩ := pageOf_page t user start interval
    rw [readThreads_eq h hsize, if_neg hne]
    refine ⟨_, ?_, ?_, heof.mpr hlast⟩
    · dsimp only
      rw [if_pos (heof.mpr hlast)]
    · rw [hthreads, List.take_of_length_le hlast]
  more := by
    intro start a hmore hcursor
    obtain ⟨hthreads, hnext, heof⟩ := pageOf_page t user start interval
    have hflag : ¬(pageOf start interval (Paging.page ThreadRow.threadId (threadsOf t user)
        (interval + 1) start)).isEOF = true := by
      rw [heof]
      omega
    have hne : Paging.behind ThreadRow.threadId (threadsOf t user) start ≠ [] := by
      intro hnil
      rw [hnil, List.length_nil] at hmore
      omega
    have hrow : a ∈ threadsOf t user :=
      (Paging.mem_behind.mp (List.mem_of_mem_take (List.mem_of_getLast? hcursor))).1
    rw [readThreads_eq h hsize, if_neg hne]
    refine ⟨_, ?_, hthreads, Bool.not_eq_true _ ▸ hflag⟩
    dsimp only
    rw [if_neg hflag, hnext a hcursor, Text.readUInt64_repr (h.fits a hrow)]

/-! ## All pages -/

theorem behind_zero {t : Tables} {user : Nat} (h : UserThreads t user) :
    (Paging.behind ThreadRow.threadId (threadsOf t user) 0).Perm (threadsOf t user) := by
  have hall : ((threadsOf t user).filter fun r => 0 < r.threadId) = threadsOf t user := by
    apply List.filter_eq_self.mpr
    intro r hr
    exact decide_eq_true (h.positive r hr)
  have hperm : (Paging.behind ThreadRow.threadId (threadsOf t user) 0).Perm _ :=
    Paging.perm_behind (threadsOf t user) 0
  rwa [hall] at hperm

theorem readThreads_of_nil {t : Tables} {user interval cur : Nat}
    (h : getUserChatThreads t user cur (lookAhead interval) = []) :
    readThreads t user interval cur = none := by
  simp [readThreads, getUserChattingThreadIdx, h]

/-- With the largest interval the limit is 0, and nothing comes. -/
theorem follow_of_lookAhead_eq_zero {t : Tables} {user interval : Nat}
    (hzero : lookAhead interval = 0) {fuel cur : Nat} {pages : List ThreadPage}
    (h : follow (readThreads t user interval) fuel cur = some pages) : pages = [] := by
  have hrows : getUserChatThreads t user cur (lookAhead interval) = [] := by
    rw [hzero]
    exact List.take_zero
  cases fuel with
  | zero => cases h
  | succ fuel =>
    rw [follow_of_none (readThreads_of_nil hrows)] at h
    exact (Option.some.inj h).symm

/-- The threads are read unless the limit of the query wraps around, or there are none. -/
theorem readsAll_iff {t : Tables} {user interval : Nat} (h : UserThreads t user)
    (hinterval : 1 ≤ interval) (hsize : interval < 2 ^ 64) :
    ReadsAll t user interval ↔ interval + 1 < 2 ^ 64 ∨ threadsOf t user = [] := by
  constructor
  · rintro ⟨fuel, pages, hpages, -, rows, hperm, -, hitems⟩
    by_cases hwrap : interval + 1 < 2 ^ 64
    · exact Or.inl hwrap
    · right
      have hzero : lookAhead interval = 0 := by
        unfold lookAhead
        omega
      rw [follow_of_lookAhead_eq_zero hzero hpages, List.flatMap_nil] at hitems
      have hrows : rows = [] := List.map_eq_nil_iff.mp hitems.symm
      exact List.Perm.eq_nil (hrows ▸ hperm.symm)
  · rintro (hfits | hnil)
    · obtain ⟨fuel, pages, hpages, hitems, honly⟩ :=
        follow_complete h.distinct hinterval (serves h hfits) 0
      exact ⟨fuel, pages, hpages, honly, _, behind_zero h, strict_behind h.distinct 0, hitems⟩
    · have hrows : getUserChatThreads t user 0 (lookAhead interval) = [] := by
        rw [getUserChatThreads_eq_page, hnil, Paging.page_nil]
      refine ⟨1, [], follow_of_none (readThreads_of_nil hrows) 0, lastOnly_nil _, [], ?_,
        List.Pairwise.nil, rfl⟩
      rw [hnil]

/-- A user with two private threads and two groups. -/
def fourThreads : Tables where
  authentication := [1, 2, 3]
  friendRequest := []
  authFriend := []
  globalThreadIndex := [1, 2, 3, 4]
  privateChat := [⟨3, 1, 2⟩, ⟨1, 3, 1⟩]
  groupMember := [⟨4, 1⟩, ⟨2, 1⟩]
  chatMsgHistoryBank := []

theorem userThreads_fourThreads : UserThreads fourThreads 1 where
  registered := by decide
  distinct := by decide
  positive := by decide
  fits := by decide

theorem readsAll_fourThreads : ReadsAll fourThreads 1 2 :=
  (readsAll_iff userThreads_fourThreads (by decide) (by decide)).mpr (Or.inl (by decide))

/-- The largest interval gets no thread. -/
theorem not_readsAll_largest :
    UserThreads fourThreads 1 ∧ 1 ≤ 2 ^ 64 - 1 ∧ ¬ReadsAll fourThreads 1 (2 ^ 64 - 1) := by
  refine ⟨userThreads_fourThreads, by decide, ?_⟩
  rintro ⟨fuel, pages, hpages, -, rows, hperm, -, hitems⟩
  rw [follow_of_lookAhead_eq_zero (by decide) hpages, List.flatMap_nil] at hitems
  have hrows : rows = [] := List.map_eq_nil_iff.mp hitems.symm
  have hlength : (threadsOf fourThreads 1).length = 0 := by
    rw [← hperm.length_eq, hrows, List.length_nil]
  revert hlength
  decide

end DistributedIM.ChattingServer
