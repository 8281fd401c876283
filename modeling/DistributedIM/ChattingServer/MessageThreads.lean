/-
  Which thread a stored message belongs to.

  `execFriendConfirmationTransaction` stores its two messages in the thread it has just made for
  the pair. `createModifyChattingHistoryRecord` checks that the pair of sender and receiver has a
  private chat, and then stores the message under the thread id of the request, whatever that is.
  `always_rightThreads_iff_named`: in every state of a run each message is in the thread of its
  pair exactly when every message that passes the checks names that thread.

  The statements of these runs act as their SQL says: none of them fails for want of a connection.
-/
import DistributedIM.ChattingServer.DatabaseRun

namespace DistributedIM.ChattingServer

open Transaction (Store Conn Call Ending)

/-- A call none of whose statements is made to fail. -/
def callStep (sql : MySql) (s : DbStore) (call : DbCall) : Option DbStore :=
  dbStep sql s (call, [])

/-- Sender, receiver and thread of a stored message. -/
def ChatMsg.place (m : ChatMsg) : Nat × Nat × Nat :=
  (m.messageSender, m.messageReceiver, m.threadId)

/-- The thread is that of the private chat of sender and receiver. -/
def InPairThread (chats : List PrivateChat) (x : Nat × Nat × Nat) : Prop :=
  ∃ p ∈ chats, p.IsOf x.1 x.2.1 ∧ p.threadId = x.2.2

def RightThreads (s : DbStore) : Prop :=
  ∀ x ∈ s.tables.chatMsgHistoryBank.map ChatMsg.place, InPairThread s.tables.privateChat x

instance (s : DbStore) : Decidable (RightThreads s) :=
  inferInstanceAs (Decidable (∀ x ∈ _, ∃ p ∈ _, _))

/-- Where the messages of a list are stored, up to the first that does not pass the checks. -/
def landings (sql : MySql) (t : Tables) : List MsgInfo → List (Nat × Nat × Nat)
  | [] => []
  | info :: infos =>
    match info.landing sql t with
    | none => []
    | some x => x :: landings sql t infos

/-- Every message that passes the checks names the thread of its pair. -/
def Named (sql : MySql) (s : DbStore) : DbCall → Prop
  | .createModifyChattingHistoryRecord infos =>
    ∀ x ∈ landings sql s.tables infos, InPairThread s.tables.privateChat x
  | _ => True

/-! ## What a list of messages stores -/

/-- Checks look at users and private chats only. -/
theorem landings_addMsg (sql : MySql) (infos : List MsgInfo) (thread status a b : Nat)
    (content : String) (s : DbStore) :
    landings sql (addMsg thread status a b content s).tables infos =
      landings sql s.tables infos := by
  induction infos with
  | nil => rfl
  | cons info infos ih =>
    have hsame : info.landing sql (addMsg thread status a b content s).tables =
        info.landing sql s.tables := rfl
    unfold landings
    rw [hsame, ih]

theorem records_store (sql : MySql) (infos : List MsgInfo) (s : DbStore) :
    (createModifyChattingHistoryRecords sql infos true ⟨s, []⟩).2.store.tables.privateChat =
        s.tables.privateChat ∧
      (createModifyChattingHistoryRecords sql infos true
          ⟨s, []⟩).2.store.tables.chatMsgHistoryBank.map ChatMsg.place =
        s.tables.chatMsgHistoryBank.map ChatMsg.place ++ landings sql s.tables infos := by
  induction infos generalizing s with
  | nil => exact ⟨rfl, (List.append_nil _).symm⟩
  | cons info infos ih =>
    cases hland : info.landing sql s.tables with
    | none =>
      cases hcall : createModifyChattingHistoryRecord sql info ⟨s, []⟩ with
      | mk r c' =>
        obtain ⟨htables, hr⟩ | ⟨a, b, thread, hsome, -⟩ :=
          createModifyChattingHistoryRecord_cases hcall
        · have hstop : (createModifyChattingHistoryRecords sql (info :: infos) true
              ⟨s, []⟩).2.store.tables = s.tables := by
            simp only [createModifyChattingHistoryRecords, hcall]
            obtain rfl | ⟨e, rfl⟩ := hr
            · cases infos with
              | nil => exact htables
              | cons info' infos => exact htables
            · exact htables
          simp only [hstop, landings, hland, List.append_nil, and_self]
        · cases hland.symm.trans hsome
    | some x =>
      obtain ⟨a, b, thread⟩ := x
      have hcall := createModifyChattingHistoryRecord_landing hland
      obtain ⟨hchats, hplaces⟩ := ih (addMsg thread 0 a b info.msgContent s)
      rw [landings_addMsg] at hplaces
      simp only [createModifyChattingHistoryRecords, hcall, landings, hland]
      refine ⟨hchats, hplaces.trans ?_⟩
      simp [addMsg, ChatMsg.place]

/-! ## Runs -/

/-- A message that was right stays right when private chats are added. -/
theorem InPairThread.mono {chats chats' : List PrivateChat} {x : Nat × Nat × Nat}
    (h : InPairThread chats x) (hsub : ∀ p ∈ chats, p ∈ chats') : InPairThread chats' x := by
  obtain ⟨p, hp, hof⟩ := h
  exact ⟨p, hsub p hp, hof⟩

theorem rightThreads_of_tables {s s' : DbStore} (h : RightThreads s)
    (htables : s'.tables = s.tables) : RightThreads s' := by
  unfold RightThreads
  rw [htables]
  exact h

/-- After a list of messages the threads are right exactly when they were right before and the
    list named the right ones. -/
theorem rightThreads_records_iff {sql : MySql} {s s' : DbStore} {infos : List MsgInfo}
    (h : RightThreads s)
    (hstep : callStep sql s (.createModifyChattingHistoryRecord infos) = some s') :
    RightThreads s' ↔ Named sql s (.createModifyChattingHistoryRecord infos) := by
  obtain rfl := Option.some.inj hstep
  obtain ⟨hchats, hplaces⟩ := records_store sql infos s
  show (∀ x ∈ List.map ChatMsg.place _, InPairThread _ x) ↔ _
  rw [show (DbCall.run sql (.createModifyChattingHistoryRecord infos)
      ⟨s, []⟩).store.tables.privateChat = _ from hchats, show List.map ChatMsg.place
      (DbCall.run sql (.createModifyChattingHistoryRecord infos)
        ⟨s, []⟩).store.tables.chatMsgHistoryBank = _ from hplaces]
  constructor
  · intro hall x hx
    exact hall x (List.mem_append_right _ hx)
  · intro hnamed x hx
    rcases List.mem_append.mp hx with hold | hnew
    · exact h x hold
    · exact hnamed x hnew

theorem rightThreads_withPrivateChat {s : DbStore} {userOne userTwo : Nat}
    (h : RightThreads s) : RightThreads (withPrivateChat userOne userTwo s) := by
  intro x hx
  exact (h x hx).mono fun p hp => List.mem_append_left _ hp

/-- The two messages of a confirmation are in the thread it makes. -/
theorem rightThreads_withConfirmation {s : DbStore} {requester confirmer : Nat}
    {nickname message : String} (h : RightThreads s) :
    RightThreads (withConfirmation requester confirmer nickname message s) := by
  let chat : PrivateChat :=
    ⟨s.counters.globalThreadIndex + 1, min requester confirmer, max requester confirmer⟩
  have hnew : ∀ a b, chat.IsOf a b →
      InPairThread (s.tables.privateChat ++ [chat]) (a, b, chat.threadId) :=
    fun a b hof => ⟨chat, List.mem_append_right _ (List.mem_singleton_self _), hof, rfl⟩
  intro x hx
  obtain ⟨m, hm, rfl⟩ := List.mem_map.mp hx
  rcases List.mem_append.mp hm with hm | hlast
  · rcases List.mem_append.mp hm with hold | hfirst
    · exact (h _ (List.mem_map_of_mem hold)).mono fun p hp => List.mem_append_left _ hp
    · rw [List.mem_singleton.mp hfirst]
      exact hnew requester confirmer ⟨rfl, rfl⟩
  · rw [List.mem_singleton.mp hlast]
    exact hnew confirmer requester (PrivateChat.isOf_comm.mp ⟨rfl, rfl⟩)

theorem rightThreads_step {sql : MySql} {s s' : DbStore} {call : DbCall} (h : RightThreads s)
    (hnamed : Named sql s call) (hstep : callStep sql s call = some s') : RightThreads s' := by
  cases call with
  | createModifyChattingHistoryRecord infos => exact (rightThreads_records_iff h hstep).mpr hnamed
  | createFriendRequest src dst nickname message =>
    obtain rfl := Option.some.inj hstep
    obtain hsame | ⟨-, -, -, hstore⟩ :=
      @createFriendRequest_store src dst nickname message ⟨s, []⟩ _ _ rfl
    · exact rightThreads_of_tables h (congrArg Store.tables hsame)
    · exact hstore ▸ h
  | createNewPrivateChat user1 user2 =>
    obtain rfl := Option.some.inj hstep
    obtain hsame | ⟨-, -, hstore⟩ := @createNewPrivateChat_store sql user1 user2 ⟨s, []⟩ _ _ rfl
    · exact rightThreads_of_tables h hsame
    · exact hstore ▸ rightThreads_withPrivateChat h
  | execFriendConfirmationTransaction requester confirmer =>
    obtain rfl := Option.some.inj hstep
    obtain hsame | ⟨row, nickname, message, hstores⟩ :=
      @execFriendConfirmationTransaction_store sql requester confirmer ⟨s, []⟩ _ _ rfl
    · exact rightThreads_of_tables h hsame
    · exact hstores.stored ▸ rightThreads_withConfirmation h

/-- In every state of a run each stored message is in the thread of its pair exactly when each
    message that passes the checks names that thread. -/
theorem always_rightThreads_iff_named (sql : MySql) (users : List Nat) (calls : List DbCall) :
    Trace.Always (callStep sql) RightThreads (registered users) calls ↔
      Trace.Meets (callStep sql) (Named sql) (registered users) calls := by
  apply Trace.always_iff_meets RightThreads
  · intro s h
    exact h
  · intro s call s' h hnamed hstep
    exact rightThreads_step h hnamed hstep
  · intro s call s' h hwrong hstep
    cases call with
    | createModifyChattingHistoryRecord infos =>
      intro hright
      exact hwrong ((rightThreads_records_iff h hstep).mp hright)
    | createFriendRequest src dst nickname message => exact absurd trivial hwrong
    | createNewPrivateChat user1 user2 => exact absurd trivial hwrong
    | execFriendConfirmationTransaction requester confirmer => exact absurd trivial hwrong
  · intro x hx
    cases hx

/-- Users 1 and 2 have thread 1, and a message between them that names thread 7 is stored there. -/
theorem not_rightThreads_other_thread :
    ¬ Trace.Always (callStep (.decimal true)) RightThreads (registered [1, 2])
      [.createNewPrivateChat 1 2,
        .createModifyChattingHistoryRecord [⟨"7", "1", "2", "hi", none⟩]] := by
  intro h
  have hlast := Trace.exec_of_always h rfl
  exact absurd hlast (by decide)

end DistributedIM.ChattingServer
