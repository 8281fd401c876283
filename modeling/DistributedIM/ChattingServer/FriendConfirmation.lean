/-
  What a friend confirmation does, and when a pending friend request can be confirmed.

  `execFriendConfirmationTransaction_atomic`: all rows and the result about them, or nothing, from
  any database and whichever statement fails.

  `execFriendConfirmationTransaction` always inserts a new private thread for the pair, so it fails
  on the unique key of `PrivateChat` as soon as the pair has one: from `createNewPrivateChat`, or
  from the confirmation of the reverse request. `confirms_iff_noPrivateChat` says that in every
  database a run reaches this is the only obstacle, apart from the column `message_receiver` that
  its statements need and the schema file lacks.
-/
import DistributedIM.ChattingServer.DatabaseRun

namespace DistributedIM.ChattingServer

open Transaction (Store Conn Call Ending)

/-! ## All or nothing -/

/-- The answer about a stored message. -/
def ChatMsg.confirmInfo (m : ChatMsg) : FriendingConfirmInfo where
  threadId := m.threadId.repr
  messageId := m.messageId.repr
  msgSender := m.messageSender.repr
  msgReceiver := m.messageReceiver.repr
  msgContent := m.messageContent

/-- The confirmer has confirmed the requester's request from `t` to `t'`, and `infos` is about the
    two messages it has stored. -/
structure Confirmed (requester confirmer : Nat) (infos : List FriendingConfirmInfo)
    (t t' : Tables) : Prop where
  asked : ∃ r ∈ t.friendRequest, r.srcUuid = requester ∧ r.dstUuid = confirmer
  status : t'.friendRequest = t.friendRequest.map fun r =>
    if r.srcUuid = requester ∧ r.dstUuid = confirmer then { r with status := true } else r
  friends : ∃ f g, t'.authFriend = t.authFriend ++ [f, g] ∧
    (f.friendUuid = requester ∧ f.selfUuid = confirmer) ∧
    (g.friendUuid = confirmer ∧ g.selfUuid = requester)
  thread : ∃ thread first second,
    t'.globalThreadIndex = t.globalThreadIndex ++ [thread] ∧
    t'.privateChat =
      t.privateChat ++ [⟨thread, min requester confirmer, max requester confirmer⟩] ∧
    t'.chatMsgHistoryBank = t.chatMsgHistoryBank ++ [first, second] ∧
    (first.threadId = thread ∧ first.messageSender = requester ∧
      first.messageReceiver = confirmer) ∧
    (second.threadId = thread ∧ second.messageSender = confirmer ∧
      second.messageReceiver = requester) ∧
    infos = [first.confirmInfo, second.confirmInfo]
  users : t'.authentication = t.authentication
  groups : t'.groupMember = t.groupMember

theorem confirmed_withConfirmation {requester confirmer : Nat} (nickname reqMessage : String)
    {s : DbStore}
    (hasked : ∃ r ∈ s.tables.friendRequest, r.srcUuid = requester ∧ r.dstUuid = confirmer) :
    Confirmed requester confirmer (confirmInfos requester confirmer reqMessage s) s.tables
      (withConfirmation requester confirmer nickname reqMessage s).tables where
  asked := hasked
  status := rfl
  friends := ⟨_, _, List.append_assoc .., ⟨rfl, rfl⟩, rfl, rfl⟩
  thread := ⟨_, _, _, rfl, rfl, List.append_assoc .., ⟨rfl, rfl, rfl⟩, ⟨rfl, rfl, rfl⟩, rfl⟩
  users := rfl
  groups := rfl

/-- A confirmation that answers has confirmed, and one that answers with nothing or throws has
    changed no table. -/
theorem execFriendConfirmationTransaction_atomic (sql : MySql) (requester confirmer : Nat)
    (c : DbConn) :
    match execFriendConfirmationTransaction sql requester confirmer c with
    | (.ok (some infos), c') => Confirmed requester confirmer infos c.store.tables c'.store.tables
    | (_, c') => c'.store.tables = c.store.tables := by
  cases hcall : execFriendConfirmationTransaction sql requester confirmer c with
  | mk r c' =>
    obtain ⟨htables, rfl | ⟨err, rfl⟩⟩ |
      ⟨row, nickname, message, hstores, rfl⟩ :=
      execFriendConfirmationTransaction_cases hcall
    · exact htables
    · exact htables
    · show Confirmed requester confirmer _ c.store.tables c'.store.tables
      rw [hstores.stored]
      exact confirmed_withConfirmation nickname _ ⟨row, hstores.asked, hstores.pair⟩

/-! ## Requests that can be confirmed -/

/-- `a` has asked `b`, and the request waits. -/
def Pending (t : Tables) (a b : Nat) : Prop :=
  ∃ r ∈ t.friendRequest, (r.srcUuid = a ∧ r.dstUuid = b) ∧ r.status = false

def AreFriends (t : Tables) (a b : Nat) : Prop :=
  (∃ f ∈ t.authFriend, f.selfUuid = a ∧ f.friendUuid = b) ∧
    ∃ f ∈ t.authFriend, f.selfUuid = b ∧ f.friendUuid = a

def HasPrivateChat (t : Tables) (a b : Nat) : Prop :=
  ∃ p ∈ t.privateChat, p.IsOf a b

instance (t : Tables) (a b : Nat) : Decidable (Pending t a b) :=
  inferInstanceAs (Decidable (∃ r ∈ t.friendRequest, _))

/-- The confirmation of `a`'s request by `b`, on a connection without faults. -/
def confirmation (sql : MySql) (s : DbStore) (a b : Nat) :
    Except Exn (Option (List FriendingConfirmInfo)) × DbConn :=
  execFriendConfirmationTransaction sql a b ⟨s, []⟩

/-- The confirmation commits, and does what it is for. -/
structure Confirms (sql : MySql) (s : DbStore) (a b : Nat) : Prop where
  commits : ∃ infos, (confirmation sql s a b).1 = .ok (some infos)
  friends : AreFriends (confirmation sql s a b).2.store.tables a b
  confirmed : ∀ r ∈ (confirmation sql s a b).2.store.tables.friendRequest,
    r.srcUuid = a ∧ r.dstUuid = b → r.status = true
  oneThread : ((confirmation sql s a b).2.store.tables.privateChat.filter (·.IsOf a b)).length = 1

/-- In a coherent database without a private chat of the pair, nothing is in the way of a pending
    request. -/
theorem confirmable_of_noPrivateChat {sql : MySql} {s : DbStore} {a b : Nat} (h : Coherent s)
    (hpending : Pending s.tables a b) (hcolumn : sql.hasMessageReceiver = true)
    (hchat : ¬ HasPrivateChat s.tables a b) : Confirmable sql a b s.tables := by
  obtain ⟨r, hr, ⟨rfl, rfl⟩, hstatus⟩ := hpending
  obtain ⟨hne, hsrc, hdst⟩ := h.requests r hr
  refine ⟨hcolumn, ⟨hsrc, hdst⟩, hne, ⟨r, hr, ⟨rfl, rfl⟩, hstatus⟩, h.readable,
    fun f hf => ⟨?_, ?_⟩, ?_⟩
  · intro hpair
    obtain ⟨p, hp, hpf⟩ := h.friends f hf
    rw [hpair.1, hpair.2] at hpf
    exact hchat ⟨p, hp, PrivateChat.isOf_comm.mp hpf⟩
  · intro hpair
    obtain ⟨p, hp, hpf⟩ := h.friends f hf
    rw [hpair.1, hpair.2] at hpf
    exact hchat ⟨p, hp, hpf⟩
  · intro p hp hpair
    exact hchat ⟨p, hp, hpair⟩

/-- A confirmation that goes through does what it is for. -/
theorem confirms_of_confirmable {sql : MySql} {s : DbStore} {a b : Nat} (h : Coherent s)
    (hable : Confirmable sql a b s.tables) : Confirms sql s a b := by
  obtain ⟨nickname, message, hrun⟩ := execFriendConfirmationTransaction_commits hable h.threads
  have hresult : confirmation sql s a b = _ := hrun
  refine ⟨?_, ?_, ?_, ?_⟩
  · rw [hresult]
    exact ⟨_, rfl⟩
  · rw [hresult]
    refine ⟨⟨_, List.mem_append_right _ (List.mem_singleton_self _), rfl, rfl⟩, ?_⟩
    exact ⟨_, List.mem_append_left _ (List.mem_append_right _ (List.mem_singleton_self _)),
      rfl, rfl⟩
  · rw [hresult]
    intro r hr hpair
    obtain ⟨r₀, -, rfl⟩ := List.mem_map.mp hr
    split
    · rfl
    · rename_i hother
      rw [if_neg hother] at hpair
      exact absurd hpair hother
  · rw [hresult]
    let isOf : PrivateChat → Bool := fun p => p.IsOf a b
    show ((s.tables.privateChat ++ [_]).filter isOf).length = 1
    have hold : s.tables.privateChat.filter isOf = [] := by
      rw [List.filter_eq_nil_iff]
      intro p hp hof
      exact hable.noChat p hp (of_decide_eq_true hof)
    have hnew : isOf ⟨s.counters.globalThreadIndex + 1, min a b, max a b⟩ = true :=
      decide_eq_true ⟨rfl, rfl⟩
    rw [List.filter_append, hold, List.nil_append, List.filter_cons_of_pos hnew]
    rfl

/-- In every database a run reaches, a pending request can be confirmed exactly when the messages'
    table has its column and the pair has no private chat yet. -/
theorem confirms_iff_noPrivateChat {sql : MySql} {users : List Nat} {s : DbStore}
    (hreach : Trace.Reaches (dbStep sql) (registered users) s) {a b : Nat}
    (hpending : Pending s.tables a b) :
    Confirms sql s a b ↔ sql.hasMessageReceiver = true ∧ ¬ HasPrivateChat s.tables a b := by
  have h := coherent_of_reaches hreach
  constructor
  · intro hconfirms
    obtain hsame | ⟨row, nickname, message, hstores⟩ :=
      @execFriendConfirmationTransaction_store sql a b ⟨s, []⟩ _ _ rfl
    · -- nothing has changed, yet the request is no longer pending
      obtain ⟨r, hr, hpair, hstatus⟩ := hpending
      have htrue := hconfirms.confirmed r (hsame ▸ hr) hpair
      cases hstatus.symm.trans htrue
    · refine ⟨hstores.column, ?_⟩
      intro hchat
      obtain ⟨p, hp, hpair⟩ := hchat
      exact hstores.free p hp hpair
  · intro hable
    exact confirms_of_confirmable h
      (confirmable_of_noPrivateChat h hpending hable.1 hable.2)

/-- A request between two users without a private chat. -/
theorem confirms_first_request :
    Confirms (.decimal true)
      (addFriendRequest 1 2 "b" "hello" (registered [1, 2])) 1 2 := by
  have hreach : Trace.Reaches (dbStep (.decimal true)) (registered [1, 2])
      (addFriendRequest 1 2 "b" "hello" (registered [1, 2])) :=
    ⟨[(.createFriendRequest 1 2 "b" "hello", [])], rfl⟩
  apply (confirms_iff_noPrivateChat hreach (by decide)).mpr
  refine ⟨rfl, ?_⟩
  intro h
  obtain ⟨p, hp, -⟩ := h
  cases hp

/-- A private chat opened before the request is confirmed. -/
theorem not_confirms_private_chat_first :
    ¬ ∀ (users : List Nat) (s : DbStore),
      Trace.Reaches (dbStep (.decimal true)) (registered users) s →
      ∀ a b, Pending s.tables a b → Confirms (.decimal true) s a b := by
  intro h
  have hconfirms := h [1, 2] _
    ⟨[(.createFriendRequest 1 2 "b" "hello", []), (.createNewPrivateChat 1 2, [])], rfl⟩ 1 2
    (by decide)
  obtain ⟨infos, hcommits⟩ := hconfirms.commits
  exact Option.some_ne_none _ (Except.ok.inj (hcommits.symm.trans rfl))

end DistributedIM.ChattingServer
