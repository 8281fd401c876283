/-
  What the pull requests of a user tell about others: two databases that agree on what belongs to
  the user, and the replies to the same requests in both.

  The handlers take the user and the thread from the request. `confidential_iff_own`: the replies
  depend on nothing but the user's own exactly when each request that is read asks for the threads
  of the user, or for the messages of a thread of theirs. How Boost.MySQL reads rows does not matter
  for the thread lists: even when a list cannot be read, an error tells the empty one apart.
-/
import Mathlib.Algebra.Ring.Nat
import DistributedIM.Lib.Outcome
import DistributedIM.ChattingServer.ChatRecords

namespace DistributedIM.ChattingServer

/-! ## What belongs to a user -/

def PrivateChat.Has (p : PrivateChat) (u : Nat) : Prop :=
  p.user1Uuid = u ∨ p.user2Uuid = u

instance (p : PrivateChat) (u : Nat) : Decidable (p.Has u) :=
  inferInstanceAs (Decidable (_ ∨ _))

def groupIds (u : Nat) (t : Tables) : List Nat :=
  (t.groupMember.filter fun g => g.userUuid = u).map GroupMember.threadId

/-- The threads a user belongs to. -/
def threadIds (u : Nat) (t : Tables) : List Nat :=
  (t.privateChat.filter fun p => p.Has u).map PrivateChat.threadId ++ groupIds u t

/-- The databases agree on the threads the user belongs to, with all members of the groups, and on
    the messages of these threads. -/
structure AgreeFor (u : Nat) (t t' : Tables) : Prop where
  user : u ∈ t'.authentication ↔ u ∈ t.authentication
  chats : t'.privateChat.filter (fun p => p.Has u) = t.privateChat.filter fun p => p.Has u
  groups : groupIds u t' = groupIds u t
  members : t'.groupMember.filter (fun g => g.threadId ∈ groupIds u t) =
    t.groupMember.filter fun g => g.threadId ∈ groupIds u t
  messages : t'.chatMsgHistoryBank.filter (fun m => m.threadId ∈ threadIds u t) =
    t.chatMsgHistoryBank.filter fun m => m.threadId ∈ threadIds u t

inductive PullRequest
  | chatThread (body : Option Json)
  | chatRecord (body : Option Json)

def pull (driver : MySqlDriver) (t : Tables) : PullRequest → List PullReply
  | .chatThread body => handlingPullChatThread driver t body
  | .chatRecord body => handlingUserChatMessage driver t body

/-- The replies to the requests are the same in every database that agrees with this one on what
    belongs to the user. -/
def Confidential (driver : MySqlDriver) (u : Nat) (t : Tables) (requests : List PullRequest) :
    Prop :=
  ∀ t', AgreeFor u t t' → requests.map (pull driver t') = requests.map (pull driver t)

/-- The texts are numbers to `string_to_value` and to `std::stoi`. -/
def readNumbers (first second : String) : Option (Nat × Nat) :=
  if (Text.readUInt64 first).isNone || (Text.readUInt64 second).isNone then none
  else
    match Text.stoi first, Text.stoi second with
    | some a, some b => some (a.toNat, b.toNat)
    | _, _ => none

/-- A request for numbers asks for the threads of the user, or for the messages of a thread of
    theirs. If `SELECT`s count no affected rows, there are no messages for anybody. -/
def OwnRequest (driver : MySqlDriver) (u : Nat) (t : Tables) : PullRequest → Prop
  | .chatThread body =>
    ∀ texts ∈ (readPull (parseJson body).2 "uuid" "thread_id" .pullChatThreadResponse).toOption,
      ∀ numbers ∈ readNumbers texts.1 texts.2, numbers.1 = u
  | .chatRecord body =>
    ∀ texts ∈ (readPull (parseJson body).2 "thread_id" "msg_id" .pullChatRecordResponse).toOption,
      ∀ numbers ∈ readNumbers texts.1 texts.2,
        numbers.1 ∈ threadIds u t ∨ ∀ n, 0 < n → n ≤ 11 → driver.selectAffected n = 0

theorem readNumbers_eq_some {first second : String} {numbers : Nat × Nat}
    (h : readNumbers first second = some numbers) :
    ((Text.readUInt64 first).isNone || (Text.readUInt64 second).isNone) = false ∧
      ∃ a b, Text.stoi first = some a ∧ Text.stoi second = some b ∧
        numbers = (a.toNat, b.toNat) := by
  unfold readNumbers at h
  split at h
  · cases h
  · rename_i hread
    split at h
    · rename_i a b ha hb
      exact ⟨Bool.eq_false_iff.mpr hread, a, b, ha, hb, (Option.some.inj h).symm⟩
    · cases h

theorem readNumbers_eq_none {first second : String} (h : readNumbers first second = none) :
    ((Text.readUInt64 first).isNone || (Text.readUInt64 second).isNone) = true ∨
      (Text.stoi first = none ∨ Text.stoi second = none) := by
  unfold readNumbers at h
  split at h
  · rename_i hread
    exact Or.inl hread
  · right
    cases ha : Text.stoi first with
    | none => exact Or.inl rfl
    | some a =>
      cases hb : Text.stoi second with
      | none => exact Or.inr rfl
      | some b =>
        rw [ha, hb] at h
        cases h

/-! ## The thread list -/

/-- The reply for a user and a thread id. -/
def threadPage (driver : MySqlDriver) (t : Tables) (self cur : Nat) : List PullReply :=
  if self ∈ t.authentication ∧ allThreads t self cur ≠ [] then
    let page := pageOf cur 10 (getUserChatThreads t self cur 11)
    if driver.readsThreads then
      [.threads (.success page.isEOF page.nextThreadId page.threads)]
    else []
  else [.threads (.error .chatThreadParseError)]

theorem pullThreads_of_some {uuid threadId : String} {numbers : Nat × Nat}
    (h : readNumbers uuid threadId = some numbers) (driver : MySqlDriver) (t : Tables) :
    pullThreads driver t uuid threadId = threadPage driver t numbers.1 numbers.2 := by
  obtain ⟨hread, a, b, ha, hb, rfl⟩ := readNumbers_eq_some h
  unfold pullThreads handlingUserChatTheads threadPage
  rw [hread, ha, hb]
  have hsize : 10 + 1 < 2 ^ 64 := by decide
  simp only [Bool.false_eq_true, if_false, getUserChattingThreadIdx_eq t _ _ hsize]
  by_cases hrows : a.toNat ∈ t.authentication ∧ allThreads t a.toNat b.toNat ≠ []
  · simp only [if_pos hrows]
  · simp only [if_neg hrows]

theorem pullThreads_of_none {uuid threadId : String} (h : readNumbers uuid threadId = none)
    (driver : MySqlDriver) (t t' : Tables) :
    pullThreads driver t' uuid threadId = pullThreads driver t uuid threadId := by
  have hsame : handlingUserChatTheads t' uuid threadId = handlingUserChatTheads t uuid threadId := by
    unfold handlingUserChatTheads
    rcases readNumbers_eq_none h with hread | hstoi | hstoi
    · simp only [hread, if_true]
    · simp only [hstoi]
    · simp only [hstoi]
      cases Text.stoi uuid with
      | none => rfl
      | some a => rfl
  rw [pullThreads, hsame, pullThreads]

/-- The threads of the user are the same. -/
theorem allThreads_of_agreeFor {u : Nat} {t t' : Tables} (h : AgreeFor u t t') (cur : Nat) :
    allThreads t' u cur = allThreads t u cur := by
  have hchats (t : Tables) : privateChatsOf t u cur =
      (t.privateChat.filter fun p => p.Has u).filter fun p => cur < p.threadId := by
    rw [List.filter_filter]
    apply List.filter_congr
    intro p _
    rw [Bool.eq_iff_iff]
    simp only [Bool.and_eq_true, decide_eq_true_eq]
    exact and_comm
  have hgroups (t : Tables) : (groupsOf t u cur).map GroupMember.toRow =
      ((groupIds u t).filter fun id => cur < id).map fun id => ⟨id, none⟩ := by
    unfold groupsOf groupIds
    rw [List.filter_map, List.map_map, List.filter_filter]
    congr 1
    congr 1
    funext g
    simp [Bool.and_comm]
  unfold allThreads
  rw [hchats, hchats, h.chats, hgroups, hgroups, h.groups]

theorem threadPage_of_agreeFor {u : Nat} {t t' : Tables} (h : AgreeFor u t t')
    (driver : MySqlDriver) (cur : Nat) :
    threadPage driver t' u cur = threadPage driver t u cur := by
  unfold threadPage getUserChatThreads
  simp only [h.user, allThreads_of_agreeFor h]

/-- A thread id above a number, and above those of the private chats. -/
def freshThread (t : Tables) (cur : Nat) : Nat :=
  (t.privateChat.map PrivateChat.threadId).sum + cur + 1

/-- A user with a private chat behind the thread id. -/
def withChatOf (v w cur : Nat) (t : Tables) : Tables :=
  { t with
    authentication := v :: t.authentication
    privateChat := t.privateChat ++ [⟨freshThread t cur, v, w⟩] }

/-- A user who is not registered. -/
def withoutUser (v : Nat) (t : Tables) : Tables :=
  { t with authentication := t.authentication.filter fun u => u ≠ v }

theorem agreeFor_withChatOf {u v w : Nat} (hv : v ≠ u) (hw : w ≠ u) (cur : Nat) (t : Tables) :
    AgreeFor u t (withChatOf v w cur t) := by
  have hchats : (withChatOf v w cur t).privateChat.filter (fun p => p.Has u) =
      t.privateChat.filter fun p => p.Has u := by
    simp [withChatOf, PrivateChat.Has, hv, hw]
  exact ⟨by simp [withChatOf, hv.symm], hchats, rfl, rfl, rfl⟩

theorem agreeFor_withoutUser {u v : Nat} (hv : v ≠ u) (t : Tables) :
    AgreeFor u t (withoutUser v t) :=
  ⟨by simp [withoutUser, hv.symm], rfl, rfl, rfl, rfl⟩

/-- What the reply for another user says depends on that user. -/
theorem threadPage_differs (driver : MySqlDriver) (v w cur : Nat) (t : Tables) :
    threadPage driver (withChatOf v w cur t) v cur ≠ threadPage driver (withoutUser v t) v cur := by
  have hchat : (⟨freshThread t cur, v, w⟩ : PrivateChat) ∈
      privateChatsOf (withChatOf v w cur t) v cur := by
    apply List.mem_filter.mpr
    refine ⟨List.mem_append_right _ (List.mem_singleton_self _), ?_⟩
    simp only [freshThread, true_or, true_and, decide_eq_true_eq]
    omega
  have hrow : allThreads (withChatOf v w cur t) v cur ≠ [] :=
    List.ne_nil_of_mem (List.mem_append_left _ (List.mem_map_of_mem hchat))
  have hknown : v ∈ (withChatOf v w cur t).authentication := List.mem_cons_self
  have hunknown : v ∉ (withoutUser v t).authentication := by
    simp [withoutUser]
  have herror : threadPage driver (withoutUser v t) v cur =
      [.threads (.error .chatThreadParseError)] :=
    if_neg fun hboth => hunknown hboth.1
  rw [herror, threadPage, if_pos ⟨hknown, hrow⟩]
  dsimp only
  split
  · simp
  · simp

/-! ## The messages of a thread -/

/-- The reply for a thread and a message id. -/
def recordPage (driver : MySqlDriver) (t : Tables) (threadId : String) (thread msg : Nat) :
    List PullReply :=
  match getChattingHistoryRecord driver t thread msg 10 with
  | .error _ => []
  | .ok none => [.error ⟨.pullChatRecordResponse, .chatrecordNotExist⟩]
  | .ok (some page) =>
    [.records threadId page.isEOF page.nextMsgId (page.records.map (ChatMsg.toInfo threadId))]

theorem pullRecords_of_some {threadId msgId : String} {numbers : Nat × Nat}
    (h : readNumbers threadId msgId = some numbers) (driver : MySqlDriver) (t : Tables) :
    pullRecords driver t threadId msgId = recordPage driver t threadId numbers.1 numbers.2 := by
  obtain ⟨hread, a, b, ha, hb, rfl⟩ := readNumbers_eq_some h
  unfold pullRecords
  rw [hread, ha, hb]
  rfl

theorem pullRecords_of_none {threadId msgId : String} (h : readNumbers threadId msgId = none)
    (driver : MySqlDriver) (t t' : Tables) :
    pullRecords driver t' threadId msgId = pullRecords driver t threadId msgId := by
  unfold pullRecords
  rcases readNumbers_eq_none h with hread | hstoi | hstoi
  · simp only [hread, if_true]
  · simp only [hstoi]
  · simp only [hstoi]
    cases Text.stoi threadId with
    | none => rfl
    | some a => rfl

theorem recordPage_congr {t t' : Tables} {thread msg : Nat}
    (h : getUserChatRecords t' thread msg 11 = getUserChatRecords t thread msg 11)
    (driver : MySqlDriver) (threadId : String) :
    recordPage driver t' threadId thread msg = recordPage driver t threadId thread msg := by
  have hsize : 10 + 1 < 2 ^ 64 := by decide
  unfold recordPage
  rw [getChattingHistoryRecord_eq _ _ _ _ hsize, getChattingHistoryRecord_eq _ _ _ _ hsize, h]

/-- The messages of a thread of the user are the same. -/
theorem getUserChatRecords_of_agreeFor {u : Nat} {t t' : Tables} (h : AgreeFor u t t')
    {thread : Nat} (hthread : thread ∈ threadIds u t) (msg limit : Nat) :
    getUserChatRecords t' thread msg limit = getUserChatRecords t thread msg limit := by
  have hown (t₁ : Tables) :
      (t₁.chatMsgHistoryBank.filter fun m => m.threadId = thread ∧ msg < m.messageId) =
        (t₁.chatMsgHistoryBank.filter fun m => m.threadId ∈ threadIds u t).filter
          fun m => m.threadId = thread ∧ msg < m.messageId := by
    rw [List.filter_filter]
    apply List.filter_congr
    intro m _
    by_cases hm : m.threadId = thread
    · simp [hm, hthread]
    · simp [hm]
  unfold getUserChatRecords
  rw [hown t', hown t, h.messages]

/-- Without affected rows there are no messages. -/
theorem recordPage_of_unaffected {driver : MySqlDriver}
    (h : ∀ n, 0 < n → n ≤ 11 → driver.selectAffected n = 0) (t : Tables) (threadId : String)
    (thread msg : Nat) :
    recordPage driver t threadId thread msg =
      [.error ⟨.pullChatRecordResponse, .chatrecordNotExist⟩] := by
  have hnone : getChattingHistoryRecord driver t thread msg 10 = .ok none := by
    rw [getChattingHistoryRecord_eq _ _ _ _ (by decide), recordsOf]
    cases hrows : getUserChatRecords t thread msg (10 + 1) with
    | nil =>
      split
      · rfl
      · rfl
    | cons row rows =>
      have hle : (row :: rows).length ≤ 11 := by
        rw [← hrows]
        exact List.length_take_le ..
      rw [if_pos (h (row :: rows).length (Nat.succ_pos _) hle)]
      rfl
  rw [recordPage, hnone]

/-- A message id above a number, and above those of the messages. -/
def freshMsg (t : Tables) (msg : Nat) : Nat :=
  (t.chatMsgHistoryBank.map ChatMsg.messageId).sum + msg + 1

/-- Messages of two users other than `u`. -/
def freshMsgs (u thread msg n : Nat) (t : Tables) : List ChatMsg :=
  (List.range n).map fun i => ⟨freshMsg t msg + i, thread, 0, u + 1, u + 2, ""⟩

/-- A thread with `n` messages behind a message id. -/
def withRecords (u thread msg n : Nat) (t : Tables) : Tables :=
  { t with chatMsgHistoryBank :=
      t.chatMsgHistoryBank.filter (fun m => m.threadId ≠ thread) ++ freshMsgs u thread msg n t }

theorem agreeFor_withRecords {u thread : Nat} {t : Tables} (hthread : thread ∉ threadIds u t)
    (msg n : Nat) : AgreeFor u t (withRecords u thread msg n t) := by
  refine ⟨Iff.rfl, rfl, rfl, rfl, ?_⟩
  have hfresh : (freshMsgs u thread msg n t).filter (fun m => m.threadId ∈ threadIds u t) = [] := by
    apply List.filter_eq_nil_iff.mpr
    intro m hm
    obtain ⟨i, -, rfl⟩ := List.mem_map.mp hm
    simpa using hthread
  rw [withRecords, List.filter_append, hfresh, List.append_nil, List.filter_filter]
  apply List.filter_congr
  intro m _
  by_cases hm : m.threadId = thread
  · simp [hm, hthread]
  · simp [hm]

theorem length_getUserChatRecords_withRecords (u thread msg : Nat) {n : Nat} (t : Tables)
    (hn : n ≤ 11) :
    (getUserChatRecords (withRecords u thread msg n t) thread msg 11).length = n := by
  have hold : (t.chatMsgHistoryBank.filter fun m => m.threadId ≠ thread).filter
      (fun m => m.threadId = thread ∧ msg < m.messageId) = [] := by
    apply List.filter_eq_nil_iff.mpr
    intro m hm
    have hne := (List.mem_filter.mp hm).2
    simp only [decide_eq_true_eq] at hne ⊢
    exact fun hboth => hne hboth.1
  have hfresh : (freshMsgs u thread msg n t).filter
      (fun m => m.threadId = thread ∧ msg < m.messageId) = freshMsgs u thread msg n t := by
    apply List.filter_eq_self.mpr
    intro m hm
    obtain ⟨i, -, rfl⟩ := List.mem_map.mp hm
    simp only [freshMsg, true_and, decide_eq_true_eq]
    omega
  have hlength : (freshMsgs u thread msg n t).length = n := by
    rw [freshMsgs, List.length_map, List.length_range]
  rw [getUserChatRecords, List.length_take, List.length_insertionSort, withRecords,
    List.filter_append, hold, hfresh, List.nil_append, hlength]
  omega

theorem recordPage_of_nil {t : Tables} {thread msg : Nat}
    (h : getUserChatRecords t thread msg 11 = []) (driver : MySqlDriver) (threadId : String) :
    recordPage driver t threadId thread msg =
      [.error ⟨.pullChatRecordResponse, .chatrecordNotExist⟩] := by
  have hnone : getChattingHistoryRecord driver t thread msg 10 = .ok none := by
    rw [getChattingHistoryRecord_eq _ _ _ _ (by decide), h, recordsOf]
    split
    · rfl
    · rfl
  rw [recordPage, hnone]

/-- What the reply for another thread says depends on that thread, if rows count as affected. -/
theorem recordPage_differs {driver : MySqlDriver} {n : Nat} (hpos : 0 < n) (hn : n ≤ 11)
    (haffected : driver.selectAffected n ≠ 0) (u thread msg : Nat) (threadId : String)
    (t : Tables) :
    recordPage driver (withRecords u thread msg n t) threadId thread msg ≠
      recordPage driver (withRecords u thread msg 0 t) threadId thread msg := by
  have hzero := length_getUserChatRecords_withRecords u thread msg t (Nat.zero_le 11)
  have hlength := length_getUserChatRecords_withRecords u thread msg t hn
  have hne : getUserChatRecords (withRecords u thread msg n t) thread msg 11 ≠ [] := by
    rw [← List.length_pos_iff, hlength]
    exact hpos
  rw [recordPage_of_nil (List.length_eq_zero_iff.mp hzero)]
  rw [recordPage, getChattingHistoryRecord_eq _ _ _ _ (by decide), recordsOf, hlength,
    if_neg haffected, if_neg (by simpa using hne)]
  cases driver.readsRecords with
  | false => simp [throw, throwThe, MonadExceptOf.throw]
  | true =>
    rw [if_pos rfl]
    split
    · simp
    · rename_i hpage
      split at hpage <;> cases hpage
    · simp

/-! ## Sequences of requests -/

/-- A request for what is the user's own tells nothing else. -/
theorem pull_of_ownRequest {driver : MySqlDriver} {u : Nat} {t t' : Tables} {r : PullRequest}
    (hown : OwnRequest driver u t r) (h : AgreeFor u t t') : pull driver t' r = pull driver t r := by
  cases r with
  | chatThread body =>
    unfold pull handlingPullChatThread
    dsimp only
    cases hread : readPull (parseJson body).2 "uuid" "thread_id" .pullChatThreadResponse with
    | error refusal => rfl
    | ok texts =>
      dsimp only
      cases hnumbers : readNumbers texts.1 texts.2 with
      | none => rw [pullThreads_of_none hnumbers driver t t']
      | some numbers =>
        have hself : numbers.1 = u := hown texts (by rw [hread]; rfl) numbers hnumbers
        rw [pullThreads_of_some hnumbers, pullThreads_of_some hnumbers, hself,
          threadPage_of_agreeFor h]
  | chatRecord body =>
    unfold pull handlingUserChatMessage
    dsimp only
    cases hread : readPull (parseJson body).2 "thread_id" "msg_id" .pullChatRecordResponse with
    | error refusal => rfl
    | ok texts =>
      dsimp only
      cases hnumbers : readNumbers texts.1 texts.2 with
      | none => rw [pullRecords_of_none hnumbers driver t t']
      | some numbers =>
        rw [pullRecords_of_some hnumbers, pullRecords_of_some hnumbers]
        rcases hown texts (by rw [hread]; rfl) numbers hnumbers with hthread | hunaffected
        · rw [recordPage_congr (getUserChatRecords_of_agreeFor h hthread numbers.2 11)]
        · rw [recordPage_of_unaffected hunaffected, recordPage_of_unaffected hunaffected]

/-- Another request is answered differently in two databases that agree for the user. -/
theorem pull_of_not_ownRequest {driver : MySqlDriver} {u : Nat} {t : Tables} {r : PullRequest}
    (hother : ¬OwnRequest driver u t r) :
    ∃ t₁ t₂, AgreeFor u t t₁ ∧ AgreeFor u t t₂ ∧ pull driver t₁ r ≠ pull driver t₂ r := by
  cases r with
  | chatThread body =>
    simp only [OwnRequest, not_forall] at hother
    obtain ⟨texts, htexts, numbers, hnumbers, hv⟩ := hother
    have hread := Outcome.toOption_eq_some.mp htexts
    have hpull (t : Tables) : pull driver t (.chatThread body) =
        (parseJson body).1.map .error ++ threadPage driver t numbers.1 numbers.2 := by
      simp only [pull, handlingPullChatThread, hread, pullThreads_of_some hnumbers]
    refine ⟨withChatOf numbers.1 (u + numbers.1 + 1) numbers.2 t, withoutUser numbers.1 t,
      agreeFor_withChatOf hv (by omega) _ t, agreeFor_withoutUser hv t, ?_⟩
    rw [hpull, hpull]
    exact fun heq => threadPage_differs driver _ _ _ t (List.append_cancel_left heq)
  | chatRecord body =>
    simp only [OwnRequest, not_forall, not_or] at hother
    obtain ⟨texts, htexts, numbers, hnumbers, hthread, n, hpos, hn, haffected⟩ := hother
    have hread := Outcome.toOption_eq_some.mp htexts
    have hpull (t : Tables) : pull driver t (.chatRecord body) =
        (parseJson body).1.map .error ++ recordPage driver t texts.1 numbers.1 numbers.2 := by
      simp only [pull, handlingUserChatMessage, hread, pullRecords_of_some hnumbers]
    refine ⟨withRecords u numbers.1 numbers.2 n t, withRecords u numbers.1 numbers.2 0 t,
      agreeFor_withRecords hthread _ _, agreeFor_withRecords hthread _ _, ?_⟩
    rw [hpull, hpull]
    exact fun heq =>
      recordPage_differs hpos hn haffected u _ _ texts.1 t (List.append_cancel_left heq)

/-- The replies to a user's requests depend only on what belongs to the user exactly when each
    request asks for that. -/
theorem confidential_iff_own (driver : MySqlDriver) (u : Nat) (t : Tables)
    (requests : List PullRequest) :
    Confidential driver u t requests ↔ ∀ r ∈ requests, OwnRequest driver u t r := by
  constructor
  · intro h r hr
    by_contra hother
    obtain ⟨t₁, t₂, h₁, h₂, hne⟩ := pull_of_not_ownRequest hother
    apply hne
    exact (List.map_inj_left.mp (h t₁ h₁) r hr).trans (List.map_inj_left.mp (h t₂ h₂) r hr).symm
  · intro h t' ht'
    exact List.map_congr_left fun r hr => pull_of_ownRequest (h r hr) ht'

/-- Users 2 and 3 have a private chat. -/
def chatOfOthers : Tables :=
  (addPrivateChat ⟨1, 2, 3⟩ (registered [1, 2, 3])).tables

/-- User 1 asks for the threads of user 2. -/
def threadsOfTwo : PullRequest :=
  .chatThread (some (.object [("uuid", .string "2"), ("thread_id", .string "0")]))

theorem agreeFor_chatOfOthers : AgreeFor 1 chatOfOthers (registered [1, 2, 3]).tables :=
  ⟨by decide, by decide, by decide, by decide, by decide⟩

/-- User 1 sees whether users 2 and 3 have a chat, whether or not the list can be read. -/
theorem not_confidential_other_uuid :
    ¬Confidential ⟨fun _ => 0, true, false⟩ 1 chatOfOthers [threadsOfTwo] ∧
      ¬Confidential ⟨fun _ => 0, false, false⟩ 1 chatOfOthers [threadsOfTwo] := by
  constructor
  · intro h
    exact absurd (h _ agreeFor_chatOfOthers) (by decide)
  · intro h
    exact absurd (h _ agreeFor_chatOfOthers) (by decide)

end DistributedIM.ChattingServer
