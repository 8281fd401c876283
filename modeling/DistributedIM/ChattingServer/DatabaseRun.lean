/-
  Runs of the database: any sequence of the modelled calls, from a database with registered users
  and nothing else, where any statement of any call may fail.

  `Coherent` is what every such run keeps of friend requests, friendships and private threads: a
  friendship comes with the private thread of the pair, a pair has at most one, and thread ids are
  behind the counter that gives them out.
-/
import Mathlib.Data.List.Pairwise
import DistributedIM.ChattingServer.MySQLConnection
import DistributedIM.Lib.Trace

namespace DistributedIM.ChattingServer

open Transaction (Store Conn Call Ending)

/-! ## Calls -/

inductive DbCall
  | createFriendRequest (srcUuid dstUuid : Nat) (nickname message : String)
  | createNewPrivateChat (user1Uuid user2Uuid : Nat)
  | execFriendConfirmationTransaction (requesterUuid confirmerUuid : Nat)
  | createModifyChattingHistoryRecord (info : List MsgInfo)
  deriving DecidableEq, Repr

/-- The connection after the call. -/
def DbCall.run (sql : MySql) : DbCall → DbConn → DbConn
  | .createFriendRequest src dst nickname message, c =>
    (ChattingServer.createFriendRequest src dst nickname message c).2
  | .createNewPrivateChat user1 user2, c =>
    (ChattingServer.createNewPrivateChat sql user1 user2 c).2
  | .execFriendConfirmationTransaction requester confirmer, c =>
    (ChattingServer.execFriendConfirmationTransaction sql requester confirmer c).2
  | .createModifyChattingHistoryRecord info, c =>
    (createModifyChattingHistoryRecords sql info true c).2

/-- A call, with the statements of it that fail. -/
def dbStep (sql : MySql) (s : DbStore) (e : DbCall × List Bool) : Option DbStore :=
  some (e.1.run sql ⟨s, e.2⟩).store

/-! ## The counters -/

/-- The counters, compared one by one. -/
def Counters.ids (c : Counters) : (Nat × Nat) × Nat × Nat :=
  ((c.friendRequest, c.authFriend), c.globalThreadIndex, c.chatMsgHistoryBank)

/-- No counter goes back, not even when a transaction is rolled back. -/
def Advances {α : Type} (x : Db α) : Prop :=
  x.Monotone Counters.ids

theorem advances_statement {ρ : Type} {stmt : Statement ρ}
    (h : ∀ s r s', stmt s = some (r, s') → s.counters.ids ≤ s'.counters.ids) :
    Advances (executeCommandOrThrow stmt) :=
  Call.monotone_execute h

theorem ids_addFriendRequest (src dst : Nat) (nickname message : String) (s : DbStore) :
    s.counters.ids ≤ (addFriendRequest src dst nickname message s).counters.ids :=
  ⟨⟨Nat.le_succ _, le_refl _⟩, le_refl _⟩

theorem ids_addAuthFriend (friendUuid selfUuid : Nat) (alternative : String) (s : DbStore) :
    s.counters.ids ≤ (addAuthFriend friendUuid selfUuid alternative s).counters.ids :=
  ⟨⟨le_refl _, Nat.le_succ _⟩, le_refl _⟩

theorem ids_addThread (s : DbStore) : s.counters.ids ≤ (addThread s).counters.ids :=
  ⟨le_refl _, Nat.le_succ _, le_refl _⟩

theorem ids_addMsg (thread status sender receiver : Nat) (content : String) (s : DbStore) :
    s.counters.ids ≤ (addMsg thread status sender receiver content s).counters.ids :=
  ⟨le_refl _, le_refl _, Nat.le_succ _⟩

theorem advances_executeCommand {ρ : Type} {stmt : Statement ρ}
    (h : Advances (executeCommandOrThrow stmt)) : Advances (executeCommand stmt) :=
  Call.monotone_catching (Call.monotone_bind h fun _ => Call.monotone_pure _)

theorem advances_select {ρ : Type} (rows : Tables → List ρ) :
    Advances (executeCommandOrThrow (select rows)) := by
  apply advances_statement
  intro s r s' h
  rw [(select_eq_some h).2]

theorem advances_createFriendingRequest (src dst : Nat) (nickname message : String) :
    Advances (executeCommandOrThrow (createFriendingRequest src dst nickname message)) := by
  apply advances_statement
  intro s r s' h
  rw [(createFriendingRequest_eq_some h).2]
  exact ids_addFriendRequest src dst nickname message s

theorem advances_updateFriendRequestStatus (status : Bool) (src dst : Nat) :
    Advances (executeCommandOrThrow (updateFriendRequestStatus status src dst)) := by
  apply advances_statement
  intro s r s' h
  obtain ⟨-, rfl⟩ := Prod.mk.inj (Option.some.inj h)
  exact le_refl _

theorem advances_createAuthFriendEntry (friendUuid selfUuid : Nat) (alternative : String) :
    Advances (executeCommandOrThrow (createAuthFriendEntry friendUuid selfUuid alternative)) := by
  apply advances_statement
  intro s r s' h
  unfold createAuthFriendEntry at h
  split at h
  · obtain ⟨-, rfl⟩ := Prod.mk.inj (Option.some.inj h)
    exact le_refl _
  · obtain ⟨-, rfl⟩ := Prod.mk.inj (Option.some.inj h)
    exact ids_addAuthFriend friendUuid selfUuid alternative s

theorem advances_createPrivateGlobalThreadIndex :
    Advances (executeCommandOrThrow createPrivateGlobalThreadIndex) := by
  apply advances_statement
  intro s r s' h
  obtain ⟨-, rfl⟩ := Prod.mk.inj (Option.some.inj h)
  exact ids_addThread s

theorem advances_createPrivateChatByUserPair (sql : MySql) (id : Nat) (user1 user2 : Nat) :
    Advances (executeCommandOrThrow (createPrivateChatByUserPair sql id.repr user1 user2)) := by
  apply advances_statement
  intro s r s' h
  rw [(createPrivateChatByUserPair_eq_some h).2]
  exact le_refl _

theorem advances_createMsgHistoryBankTuple (sql : MySql) (threadId content : String)
    (status sender receiver : Nat) :
    Advances (executeCommandOrThrow
      (createMsgHistoryBankTuple sql threadId status sender receiver content)) := by
  apply advances_statement
  intro s r s' h
  obtain ⟨-, thread, -, -, rfl⟩ := createMsgHistoryBankTuple_eq_some h
  exact ids_addMsg thread status sender receiver content s

theorem advances_transaction {α : Type} {onError : α} {body : Db (Ending α)} (h : Advances body) :
    Advances (transaction onError body) :=
  Call.monotone_catching (Call.monotone_guarded h)

theorem advances_checkUUID (uuid : Nat) : Advances (checkUUID uuid) :=
  Call.monotone_bind (advances_executeCommand (advances_select _)) fun _ => Call.monotone_pure _

theorem advances_createFriendRequest (src dst : Nat) (nickname message : String) :
    Advances (createFriendRequest src dst nickname message) := by
  apply Call.monotone_ite (Call.monotone_pure _)
  apply Call.monotone_bind (advances_checkUUID src)
  intro found
  apply Call.monotone_ite
  · apply Call.monotone_bind (advances_checkUUID dst)
    intro found'
    apply Call.monotone_ite
    · apply Call.monotone_bind (advances_executeCommand (advances_createFriendingRequest _ _ _ _))
      intro rows
      exact Call.monotone_pure _
    · exact Call.monotone_pure _
  · exact Call.monotone_pure _

/-- A call that goes on if both of its users are found. -/
theorem advances_bothUsers {α : Type} {user1 user2 : Int} {a : α} {body : Db α}
    (hbody : Advances body) :
    Advances (do
      let res1 ← executeCommand (userUuidCheck user1)
      let res2 ← executeCommand (userUuidCheck user2)
      if res1.isNone || res2.isNone then return a
      body) := by
  apply Call.monotone_bind (advances_executeCommand (advances_select _))
  intro res1
  apply Call.monotone_bind (advances_executeCommand (advances_select _))
  intro res2
  exact Call.monotone_ite (Call.monotone_pure _) hbody

theorem advances_createNewPrivateChat (sql : MySql) (user1 user2 : Nat) :
    Advances (createNewPrivateChat sql user1 user2) := by
  apply advances_bothUsers
  apply advances_transaction
  apply Call.monotone_bind
  · apply Call.monotone_bind (advances_executeCommand (advances_select _))
    intro found
    cases found with
    | none => exact Call.monotone_pure _
    | some rows => exact Call.monotone_throw _
  intro existing
  cases existing with
  | some thread => exact Call.monotone_pure _
  | none =>
    apply Call.monotone_bind advances_createPrivateGlobalThreadIndex
    intro res
    apply Call.monotone_bind (advances_createPrivateChatByUserPair sql _ _ _)
    intro res'
    exact Call.monotone_pure _

/-- A statement whose affected rows are checked. -/
theorem advances_affecting {ρ α : Type} {stmt : Statement ρ} {f g : Results ρ → Db α}
    (h : Advances (executeCommandOrThrow stmt)) (hf : ∀ r, Advances (f r))
    (hg : ∀ r, Advances (g r)) :
    Advances (executeCommandOrThrow stmt >>= fun r => if r.affectedRows = 0 then f r else g r) :=
  Call.monotone_bind h fun r => Call.monotone_ite (hf r) (hg r)

theorem advances_asString (column : Option String) : Advances (asString column) := by
  cases column with
  | none => exact Call.monotone_throw _
  | some text => exact Call.monotone_pure _

theorem advances_execFriendConfirmationTransaction (sql : MySql) (requester confirmer : Nat) :
    Advances (execFriendConfirmationTransaction sql requester confirmer) := by
  apply advances_transaction
  apply Call.monotone_bind (advances_select _)
  intro flag
  cases flag.rows with
  | nil => exact Call.monotone_pure _
  | cons row rest =>
    have hleave : ∀ r : Results Empty,
        Advances (pure (Ending.leave none) : Db (Ending (Option (List FriendingConfirmInfo)))) :=
      fun _ => Call.monotone_pure _
    refine Call.monotone_bind (advances_asString _) fun _ => ?_
    refine Call.monotone_bind (advances_asString _) fun _ => ?_
    refine advances_affecting (advances_updateFriendRequestStatus _ _ _) hleave fun _ => ?_
    refine advances_affecting (advances_createAuthFriendEntry _ _ _) hleave fun _ => ?_
    refine advances_affecting (advances_createAuthFriendEntry _ _ _) hleave fun _ => ?_
    refine advances_affecting advances_createPrivateGlobalThreadIndex hleave fun _ => ?_
    refine advances_affecting (advances_createPrivateChatByUserPair _ _ _ _) hleave fun _ => ?_
    refine advances_affecting (advances_createMsgHistoryBankTuple _ _ _ _ _ _) hleave fun _ => ?_
    refine advances_affecting (advances_createMsgHistoryBankTuple _ _ _ _ _ _) hleave fun _ => ?_
    exact Call.monotone_pure _

theorem advances_createModifyChattingHistoryRecord (sql : MySql) (info : MsgInfo) :
    Advances (createModifyChattingHistoryRecord sql info) := by
  have hstoi : ∀ text, Advances (stoiOrThrow text) := by
    intro text
    unfold stoiOrThrow
    cases Text.stoi text with
    | none => exact Call.monotone_throw _
    | some i => exact Call.monotone_pure _
  apply Call.monotone_ite (Call.monotone_pure _)
  apply Call.monotone_bind (hstoi _)
  intro user1Uuid
  apply Call.monotone_bind (hstoi _)
  intro user2Uuid
  apply advances_bothUsers
  apply advances_transaction
  apply Call.monotone_bind (advances_select _)
  intro flag
  apply Call.monotone_ite (Call.monotone_pure _)
  exact advances_affecting (advances_createMsgHistoryBankTuple _ _ _ _ _ _)
    (fun _ => Call.monotone_pure _) fun _ => Call.monotone_pure _

/-! ## What a call can do -/

/-- Nothing, or the rows of a call that went through; a stored list of messages is several of
    these. -/
inductive DbEffect (s : DbStore) : DbStore → Prop
  | same {s' : DbStore} (tables : s'.tables = s.tables)
      (counters : s.counters.ids ≤ s'.counters.ids) : DbEffect s s'
  | friendRequest {src dst : Nat} (nickname message : String) (differ : src ≠ dst)
      (srcUser : src ∈ s.tables.authentication) (dstUser : dst ∈ s.tables.authentication) :
      DbEffect s (addFriendRequest src dst nickname message s)
  | privateChat {user1 user2 : Nat}
      (users : user1 ∈ s.tables.authentication ∧ user2 ∈ s.tables.authentication)
      (free : ∀ p ∈ s.tables.privateChat,
        ¬ (p.user1Uuid = min user1 user2 ∧ p.user2Uuid = max user1 user2)) :
      DbEffect s (withPrivateChat (min user1 user2) (max user1 user2) s)
  | confirmation {row : FriendRequest} (nickname message : String)
      (asked : row ∈ s.tables.friendRequest)
      (free : ∀ p ∈ s.tables.privateChat, ¬ (p.user1Uuid = min row.srcUuid row.dstUuid ∧
        p.user2Uuid = max row.srcUuid row.dstUuid)) :
      DbEffect s (withConfirmation row.srcUuid row.dstUuid nickname message s)
  | message (thread a b : Nat) (content : String) : DbEffect s (addMsg thread 0 a b content s)

/-- Private chats are not deleted. -/
theorem DbEffect.privateChat_subset {s s' : DbStore} (h : DbEffect s s') {p : PrivateChat}
    (hp : p ∈ s.tables.privateChat) : p ∈ s'.tables.privateChat := by
  cases h with
  | same htables _ => exact htables ▸ hp
  | friendRequest => exact hp
  | privateChat => exact List.mem_append_left _ hp
  | confirmation => exact List.mem_append_left _ hp
  | message => exact hp

theorem effects_records {sql : MySql} (infos : List MsgInfo) (status : Bool) (c : DbConn) :
    Relation.ReflTransGen DbEffect c.store
      (createModifyChattingHistoryRecords sql infos status c).2.store := by
  induction infos generalizing status c with
  | nil => exact .refl
  | cons info infos ih =>
    cases status with
    | false => exact .refl
    | true =>
      unfold createModifyChattingHistoryRecords
      cases hcall : createModifyChattingHistoryRecord sql info c with
      | mk r c' =>
        have heffect : DbEffect c.store c'.store := by
          obtain ⟨htables, -⟩ | ⟨a, b, thread, -, hstore, -⟩ :=
            createModifyChattingHistoryRecord_cases hcall
          · have hadvances := advances_createModifyChattingHistoryRecord sql info c
            rw [hcall] at hadvances
            exact .same htables hadvances
          · rw [hstore]
            exact .message thread a b info.msgContent
        cases r with
        | error err => exact .single heffect
        | ok p => exact .head heffect (ih p.1 c')

theorem effects_step {sql : MySql} {s s' : DbStore} {e : DbCall × List Bool}
    (hstep : dbStep sql s e = some s') : Relation.ReflTransGen DbEffect s s' := by
  obtain rfl := Option.some.inj hstep
  obtain ⟨call, faults⟩ := e
  cases call with
  | createFriendRequest src dst nickname message =>
    obtain hsame | ⟨hne, hsrc, hdst, hstore⟩ :=
      @createFriendRequest_store src dst nickname message ⟨s, faults⟩ _ _ rfl
    · exact .single (.same (congrArg Store.tables hsame)
        (advances_createFriendRequest src dst nickname message ⟨s, faults⟩))
    · exact .single (hstore ▸ .friendRequest nickname message hne hsrc hdst)
  | createNewPrivateChat user1 user2 =>
    obtain hsame | ⟨husers, hfree, hstore⟩ :=
      @createNewPrivateChat_store sql user1 user2 ⟨s, faults⟩ _ _ rfl
    · exact .single (.same hsame (advances_createNewPrivateChat sql user1 user2 ⟨s, faults⟩))
    · exact .single (hstore ▸ .privateChat husers hfree)
  | execFriendConfirmationTransaction requester confirmer =>
    obtain hsame | ⟨row, nickname, message, hstores⟩ :=
      @execFriendConfirmationTransaction_store sql requester confirmer ⟨s, faults⟩ _ _ rfl
    · exact .single (.same hsame
        (advances_execFriendConfirmationTransaction sql requester confirmer ⟨s, faults⟩))
    · obtain ⟨hrow, -, ⟨rfl, rfl⟩, hfree, -, -, hstore⟩ := hstores
      exact .single (hstore ▸ .confirmation nickname _ hrow hfree)
  | createModifyChattingHistoryRecord infos => exact effects_records infos true ⟨s, faults⟩

/-- What every effect keeps, every run keeps. -/
theorem invariant_of_effects {sql : MySql} (Inv : DbStore → Prop)
    (heffect : ∀ s s', Inv s → DbEffect s s' → Inv s') {s s' : DbStore} (hs : Inv s)
    (h : Trace.Reaches (dbStep sql) s s') : Inv s' := by
  have hrun {s s' : DbStore} (hs : Inv s) (heffects : Relation.ReflTransGen DbEffect s s') :
      Inv s' := by
    induction heffects with
    | refl => exact hs
    | tail _ hlast ih => exact heffect _ _ ih hlast
  exact Trace.invariant Inv (fun s e s' hs hstep => hrun hs (effects_step hstep)) hs h

/-! ## What every run keeps -/

/-- The row is that of the private chat of two users. -/
def PrivateChat.IsOf (p : PrivateChat) (a b : Nat) : Prop :=
  p.user1Uuid = min a b ∧ p.user2Uuid = max a b

instance (p : PrivateChat) (a b : Nat) : Decidable (p.IsOf a b) :=
  inferInstanceAs (Decidable (_ ∧ _))

theorem PrivateChat.isOf_comm {p : PrivateChat} {a b : Nat} : p.IsOf a b ↔ p.IsOf b a := by
  unfold PrivateChat.IsOf
  rw [Nat.min_comm, Nat.max_comm]

structure Coherent (s : DbStore) : Prop where
  requests : ∀ r ∈ s.tables.friendRequest, r.srcUuid ≠ r.dstUuid ∧
    r.srcUuid ∈ s.tables.authentication ∧ r.dstUuid ∈ s.tables.authentication
  readable : ∀ r ∈ s.tables.friendRequest, r.nickname.isSome ∧ r.message.isSome
  friends : ∀ f ∈ s.tables.authFriend, ∃ p ∈ s.tables.privateChat, p.IsOf f.selfUuid f.friendUuid
  threads : ∀ p ∈ s.tables.privateChat, p.threadId ≤ s.counters.globalThreadIndex
  pairs : s.tables.privateChat.Pairwise fun p q =>
    ¬ (p.user1Uuid = q.user1Uuid ∧ p.user2Uuid = q.user2Uuid)

theorem coherent_registered (users : List Nat) : Coherent (registered users) where
  requests := fun _ h => by cases h
  readable := fun _ h => by cases h
  friends := fun _ h => by cases h
  threads := fun _ h => by cases h
  pairs := List.Pairwise.nil

/-- A pair of users has one private chat. -/
theorem Coherent.unique {s : DbStore} (h : Coherent s) {p q : PrivateChat} {a b : Nat}
    (hp : p ∈ s.tables.privateChat) (hq : q ∈ s.tables.privateChat) (hpab : p.IsOf a b)
    (hqab : q.IsOf a b) : p = q := by
  apply Classical.byContradiction
  intro hne
  have hsymm : Std.Symm fun p q : PrivateChat =>
      ¬ (p.user1Uuid = q.user1Uuid ∧ p.user2Uuid = q.user2Uuid) :=
    ⟨fun _ _ hpq hqp => hpq ⟨hqp.1.symm, hqp.2.symm⟩⟩
  exact h.pairs.forall hp hq hne ⟨hpab.1.trans hqab.1.symm, hpab.2.trans hqab.2.symm⟩

theorem coherent_of_tables {s s' : DbStore} (h : Coherent s) (htables : s'.tables = s.tables)
    (hcounter : s.counters.globalThreadIndex ≤ s'.counters.globalThreadIndex) : Coherent s' := by
  obtain ⟨requests, readable, friends, threads, pairs⟩ := h
  rw [← htables] at requests readable friends threads pairs
  exact ⟨requests, readable, friends, fun p hp => Nat.le_trans (threads p hp) hcounter, pairs⟩

theorem coherent_addFriendRequest {s : DbStore} {src dst : Nat} {nickname message : String}
    (h : Coherent s) (hne : src ≠ dst) (hsrc : src ∈ s.tables.authentication)
    (hdst : dst ∈ s.tables.authentication) :
    Coherent (addFriendRequest src dst nickname message s) := by
  refine ⟨fun r hr => ?_, fun r hr => ?_, h.friends, h.threads, h.pairs⟩
  · rcases List.mem_append.mp hr with hold | hnew
    · exact h.requests r hold
    · rw [List.mem_singleton.mp hnew]
      exact ⟨hne, hsrc, hdst⟩
  · rcases List.mem_append.mp hr with hold | hnew
    · exact h.readable r hold
    · rw [List.mem_singleton.mp hnew]
      exact ⟨rfl, rfl⟩

theorem coherent_addMsg {s : DbStore} (h : Coherent s) (thread status a b : Nat)
    (content : String) : Coherent (addMsg thread status a b content s) :=
  ⟨h.requests, h.readable, h.friends, h.threads, h.pairs⟩

theorem coherent_withPrivateChat {s : DbStore} {userOne userTwo : Nat} (h : Coherent s)
    (hfree : ∀ p ∈ s.tables.privateChat, ¬ (p.user1Uuid = userOne ∧ p.user2Uuid = userTwo)) :
    Coherent (withPrivateChat userOne userTwo s) := by
  refine ⟨h.requests, h.readable, fun f hf => ?_, fun p hp => ?_, ?_⟩
  · obtain ⟨p, hp, hpair⟩ := h.friends f hf
    exact ⟨p, List.mem_append_left _ hp, hpair⟩
  · rcases List.mem_append.mp hp with hold | hnew
    · exact Nat.le_succ_of_le (h.threads p hold)
    · rw [List.mem_singleton.mp hnew]
      exact Nat.le_refl _
  · apply List.pairwise_append.mpr
    refine ⟨h.pairs, List.pairwise_singleton _ _, fun p hp q hq => ?_⟩
    rw [List.mem_singleton.mp hq]
    exact hfree p hp

theorem coherent_withConfirmation {s : DbStore} {requester confirmer : Nat}
    {nickname message : String} (h : Coherent s)
    (hfree : ∀ p ∈ s.tables.privateChat, ¬ (p.user1Uuid = min requester confirmer ∧
      p.user2Uuid = max requester confirmer)) :
    Coherent (withConfirmation requester confirmer nickname message s) := by
  have hchat := coherent_withPrivateChat h hfree
  refine ⟨fun r hr => ?_, fun r hr => ?_, fun f hf => ?_, hchat.threads, hchat.pairs⟩
  · obtain ⟨r₀, hr₀, rfl⟩ := List.mem_map.mp hr
    split
    · exact h.requests r₀ hr₀
    · exact h.requests r₀ hr₀
  · obtain ⟨r₀, hr₀, rfl⟩ := List.mem_map.mp hr
    split
    · exact h.readable r₀ hr₀
    · exact h.readable r₀ hr₀
  · rcases List.mem_append.mp hf with hf | hnew
    · rcases List.mem_append.mp hf with hold | hnew
      · exact hchat.friends f hold
      · rw [List.mem_singleton.mp hnew]
        exact ⟨_, List.mem_append_right _ (List.mem_singleton_self _),
          PrivateChat.isOf_comm.mp ⟨rfl, rfl⟩⟩
    · rw [List.mem_singleton.mp hnew]
      exact ⟨_, List.mem_append_right _ (List.mem_singleton_self _), rfl, rfl⟩

theorem coherent_effect {s s' : DbStore} (h : Coherent s) (heffect : DbEffect s s') :
    Coherent s' := by
  cases heffect with
  | same htables hcounters => exact coherent_of_tables h htables hcounters.2.1
  | friendRequest nickname message hne hsrc hdst => exact coherent_addFriendRequest h hne hsrc hdst
  | privateChat _ hfree => exact coherent_withPrivateChat h hfree
  | confirmation nickname message _ hfree => exact coherent_withConfirmation h hfree
  | message thread a b content => exact coherent_addMsg h thread 0 a b content

/-- Every database a run reaches is coherent. -/
theorem coherent_of_reaches {sql : MySql} {users : List Nat} {s : DbStore}
    (h : Trace.Reaches (dbStep sql) (registered users) s) : Coherent s :=
  invariant_of_effects Coherent (fun _ _ => coherent_effect) (coherent_registered users) h

end DistributedIM.ChattingServer
