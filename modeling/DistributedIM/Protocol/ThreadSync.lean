/-
  The client pulls its thread list from the chatting server, a page a round.

  Nothing in the client sends the first request, so a run starts with one, for the threads behind
  number 0. A run ends when no request is on its way; the client learns from an error, or from no
  answer at all, nothing.

  `Pulls` is what the exchange is for. The flag `is_complete` of the reply becomes `m_load_more`, so
  every page makes the client do the wrong thing: every run ends, after the first page and perhaps
  a request behind the last row (`run_start`), and `pulls_iff_served_nil` leaves only the users who
  get no page.
-/
import DistributedIM.Lib.Loop
import DistributedIM.Client.UserAccountManager

namespace DistributedIM.Protocol

open DistributedIM.ChattingServer DistributedIM.Client

/-- A page that came: what the server said about it, and whether the client then asked again. -/
structure Round where
  isComplete : Bool
  again : Bool
  deriving DecidableEq, Repr

structure ThreadSync where
  client : UserAccountManager
  request : Option ThreadRequest
  rounds : List Round

namespace ThreadSync

/-- Logged in as `user`, with the first request on its way. -/
def start (user : Nat) (friends : List String) : ThreadSync where
  client := .login user.repr friends
  request := some ⟨user.repr, "0"⟩
  rounds := []

/-- The client takes the reply to its request. -/
def answered (s : ThreadSync) : Option ThreadReply → ThreadSync
  | none => { s with request := none }
  | some (.error _) => { s with request := none }
  | some (.success isComplete next threads) =>
    match decodeThreadReply (.success isComplete next threads) with
    | none => { s with request := none }
    | some package =>
      let r := s.client.slotUpdateChatThread package
      { client := r.1, request := r.2, rounds := s.rounds ++ [⟨isComplete, r.2.isSome⟩] }

def pass (t : Tables) (s : ThreadSync) : Loop.Pass ThreadSync ThreadSync :=
  match s.request with
  | none => .done s
  | some request => .next (s.answered (handlingUserChatTheads t request.uuid request.threadId))

/-- The private chats of a user. -/
def privateThreads (t : Tables) (user : Nat) : List PrivateChat :=
  t.privateChat.filter fun p => p.user1Uuid = user ∨ p.user2Uuid = user

/-- The pull ends, the client then knows every private thread of the user exactly once, and it
    asked again exactly after the pages that were not the last one. -/
def Pulls (t : Tables) (user : Nat) (friends : List String) : Prop :=
  ∃ fuel r, Loop.run (pass t) fuel (start user friends) = some r ∧
    r.client.allChattingSessions.Perm ((privateThreads t user).map fun p => p.threadId.repr) ∧
    ∀ round ∈ r.rounds, round.again = true ↔ round.isComplete = false

/-! ## One round -/

/-- The client after a page made of `rows`: it asks again if that was the last one. -/
def turned (s : ThreadSync) (cur : Nat) (rows : List ThreadRow) : ThreadSync :=
  let page := pageOf cur 10 rows
  let client := ((pageRows 10 rows).map metaOf).foldl UserAccountManager.addThread s.client
  { client := client
    request := if page.isEOF then some ⟨client.uuid, page.nextThreadId⟩ else none
    rounds := s.rounds ++ [⟨page.isEOF, page.isEOF⟩] }

theorem answered_pageOf (s : ThreadSync) {cur : Nat} {rows : List ThreadRow} (hrows : rows ≠ []) :
    s.answered (some (.success (pageOf cur 10 rows).isEOF (pageOf cur 10 rows).nextThreadId
      (pageOf cur 10 rows).threads)) = s.turned cur rows := by
  have hpage : pageRows 10 rows ≠ [] := pageRows_ne_nil (by decide) hrows
  have hslot := s.client.slotUpdateChatThread_rows hpage (pageOf cur 10 rows).isEOF
    (pageOf cur 10 rows).nextThreadId
  have hthreads : (pageOf cur 10 rows).threads.filterMap decodeThread =
      (pageRows 10 rows).map metaOf := filterMap_decodeThread _
  simp only [answered, decodeThreadReply, hthreads, hslot, turned]
  cases (pageOf cur 10 rows).isEOF <;> rfl

/-- What a request for two printed numbers does. -/
theorem answered_repr (t : Tables) (s : ThreadSync) (user cur : Nat) :
    s.answered (handlingUserChatTheads t user.repr cur.repr) =
      if served t user cur = [] then { s with request := none }
      else s.turned cur (getUserChatThreads t user cur 11) := by
  split
  · rename_i hnone
    rcases handlingUserChatTheads_of_not_served hnone with h | ⟨status, h⟩
    · rw [h]
      rfl
    · rw [h]
      rfl
  · rename_i hsome
    have hrows : getUserChatThreads t user cur 11 ≠ [] := by
      intro hnil
      apply hsome
      unfold served
      rw [(getUserChatThreads_eq_nil_iff (by decide)).mp hnil, ite_self]
    rw [handlingUserChatTheads_of_served hsome]
    exact s.answered_pageOf hrows

/-! ## A whole run -/

theorem pass_repr (t : Tables) {s : ThreadSync} {user cur : Nat}
    (hrequest : s.request = some ⟨user.repr, cur.repr⟩) :
    pass t s =
      .next (if served t user cur = [] then { s with request := none }
        else s.turned cur (getUserChatThreads t user cur 11)) := by
  rw [← answered_repr, pass, hrequest]

theorem pass_none (t : Tables) {s : ThreadSync} (hrequest : s.request = none) :
    pass t s = .done s := by
  rw [pass, hrequest]

/-- The state a run ends in: one page, the first, is all the client ever gets. -/
def final (t : Tables) (user : Nat) (friends : List String) : ThreadSync :=
  if served t user 0 = [] then { start user friends with request := none }
  else { (start user friends).turned 0 (getUserChatThreads t user 0 11) with request := none }

theorem served_of_allThreads_eq_nil {t : Tables} {user cur : Nat}
    (h : allThreads t user cur = []) : served t user cur = [] := by
  rw [served, h, ite_self]

/-- A page is not followed by another one: the client asks behind the last page only, and there
    no thread is left. -/
theorem run_turned (t : Tables) (s : ThreadSync) {user : Nat} (huuid : s.client.uuid = user.repr)
    (hserved : served t user 0 ≠ []) (fuel : Nat) :
    Loop.run (pass t) (fuel + 2) (s.turned 0 (getUserChatThreads t user 0 11)) =
      some { s.turned 0 (getUserChatThreads t user 0 11) with request := none } := by
  have hrows : getUserChatThreads t user 0 11 ≠ [] := fun hnil =>
    hserved (served_of_allThreads_eq_nil ((getUserChatThreads_eq_nil_iff (by decide)).mp hnil))
  cases heof : (pageOf 0 10 (getUserChatThreads t user 0 11)).isEOF with
  | false =>
    have hrequest : (s.turned 0 (getUserChatThreads t user 0 11)).request = none := by
      simp only [turned, heof]
      rfl
    rw [Loop.run_succ_of_done (pass_none t hrequest), ← hrequest]
  | true =>
    obtain ⟨last, hnext, hnil⟩ := nextThreadId_of_isEOF rfl hrows heof
    have hrequest : (s.turned 0 (getUserChatThreads t user 0 11)).request =
        some ⟨user.repr, last.repr⟩ := by
      simp only [turned, heof, hnext, UserAccountManager.foldl_addThread_uuid, huuid, if_true]
    have hpass := pass_repr t hrequest
    rw [if_pos (served_of_allThreads_eq_nil hnil)] at hpass
    rw [Loop.run_succ_of_next hpass, Loop.run_succ_of_done (pass_none t rfl)]

theorem run_start (t : Tables) (user : Nat) (friends : List String) :
    Loop.run (pass t) 3 (start user friends) = some (final t user friends) := by
  have hpass := @pass_repr t (start user friends) user 0 rfl
  unfold final
  split
  · rename_i hnone
    rw [if_pos hnone] at hpass
    rw [Loop.run_succ_of_next hpass, Loop.run_succ_of_done (pass_none t rfl)]
  · rename_i hsome
    rw [if_neg hsome] at hpass
    rw [Loop.run_succ_of_next hpass]
    exact run_turned t (start user friends) rfl hsome 0

/-- Every run ends, and in this state. -/
theorem run_eq_some_iff {t : Tables} {user : Nat} {friends : List String} {r : ThreadSync} :
    (∃ fuel, Loop.run (pass t) fuel (start user friends) = some r) ↔ r = final t user friends := by
  constructor
  · intro ⟨fuel, hrun⟩
    exact Loop.run_unique hrun (run_start t user friends)
  · intro hr
    exact ⟨3, hr ▸ run_start t user friends⟩

/-- However many threads a user has, the client learns of ten at most. -/
theorem length_final_le (t : Tables) (user : Nat) (friends : List String) :
    (final t user friends).client.allChattingSessions.length ≤ 10 := by
  unfold final
  split
  · exact Nat.zero_le 10
  · have hrows : (getUserChatThreads t user 0 11).length ≤ 11 := List.length_take_le ..
    have hpage := length_pageRows_le hrows
    have hclient := UserAccountManager.length_foldl_addThread_le (start user friends).client
      ((pageRows 10 (getUserChatThreads t user 0 11)).map metaOf)
    rw [List.length_map] at hclient
    exact hclient.trans (by simpa [start, UserAccountManager.login] using hpage)

theorem not_pulls_of_served {t : Tables} {user : Nat} (friends : List String)
    (h : served t user 0 ≠ []) : ¬Pulls t user friends := by
  intro ⟨fuel, r, hrun, _, hrounds⟩
  have hr : r = final t user friends := run_eq_some_iff.mp ⟨fuel, hrun⟩
  rw [hr, final, if_neg h] at hrounds
  have hround := hrounds _ (List.mem_singleton_self _)
  cases heof : (pageOf 0 10 (getUserChatThreads t user 0 11)).isEOF with
  | false =>
    rw [heof] at hround
    cases hround.mpr rfl
  | true =>
    rw [heof] at hround
    cases hround.mp rfl

/-- The pull works for the users without a private thread whom the server has no page for. -/
theorem pulls_iff_served_nil (t : Tables) (user : Nat) (friends : List String) :
    Pulls t user friends ↔ privateThreads t user = [] ∧ served t user 0 = [] := by
  constructor
  · intro hpulls
    have hserved : served t user 0 = [] := by
      by_contra hsome
      exact not_pulls_of_served friends hsome hpulls
    obtain ⟨fuel, r, hrun, hperm, -⟩ := hpulls
    have hr : r = final t user friends := run_eq_some_iff.mp ⟨fuel, hrun⟩
    rw [hr, final, if_pos hserved] at hperm
    exact ⟨List.map_eq_nil_iff.mp hperm.nil_eq.symm, hserved⟩
  · intro ⟨hprivate, hserved⟩
    refine ⟨3, final t user friends, run_start t user friends, ?_, ?_⟩
    · rw [final, if_pos hserved, hprivate]
      exact List.Perm.refl _
    · intro round hround
      rw [final, if_pos hserved] at hround
      cases hround

/-- User 1 has a private chat with each of the users 2 to 12. -/
def elevenChats : Tables where
  authentication := List.range' 1 12
  friendRequest := []
  authFriend := []
  globalThreadIndex := List.range' 1 11
  privateChat := (List.range' 1 11).map fun n => ⟨n, 1, n + 1⟩
  groupMember := []
  chatMsgHistoryBank := []

/-- With all partners known as friends the first page is not the last one, the client asks for no
    other, and one chat is missing. -/
theorem not_pulls_eleven_chats :
    let friends := (List.range' 2 11).map Nat.repr
    (∀ p ∈ privateThreads elevenChats 1, p.user1Uuid = 1 ∧ p.user2Uuid.repr ∈ friends) ∧
      (final elevenChats 1 friends).rounds = [⟨false, false⟩] ∧
        ¬Pulls elevenChats 1 friends := by
  exact ⟨by decide, by decide, not_pulls_of_served _ (by decide)⟩

end ThreadSync

end DistributedIM.Protocol
