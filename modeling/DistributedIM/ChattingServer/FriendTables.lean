/-
  The tables of friendships, requests and private threads, taken together.

  `execFriendConfirmationTransaction` writes a friendship in both directions with its thread, and
  `createNewPrivateChat` a thread alone. `TablesCoherent` is what the rows then say about each
  other; `tablesCoherent_of_reaches`: in every database a run reaches, whatever the arguments of the
  calls are and whichever of their statements fail.
-/
import DistributedIM.ChattingServer.DatabaseRun

namespace DistributedIM.ChattingServer

open Transaction (Store)

/-- The row is that of the two users, in one order or the other. -/
def PrivateChat.Joins (p : PrivateChat) (a b : Nat) : Prop :=
  (p.user1Uuid = a ∧ p.user2Uuid = b) ∨ (p.user1Uuid = b ∧ p.user2Uuid = a)

instance (p : PrivateChat) (a b : Nat) : Decidable (p.Joins a b) :=
  inferInstanceAs (Decidable (_ ∨ _))

/-- A request between the two users that has been confirmed. -/
def FriendRequest.Accepted (r : FriendRequest) (a b : Nat) : Prop :=
  r.status = true ∧
    ((r.srcUuid = a ∧ r.dstUuid = b) ∨ (r.srcUuid = b ∧ r.dstUuid = a))

structure TablesCoherent (t : Tables) : Prop where
  symmetric : ∀ f ∈ t.authFriend, ∃ g ∈ t.authFriend,
    g.selfUuid = f.friendUuid ∧ g.friendUuid = f.selfUuid
  irreflexive : ∀ f ∈ t.authFriend, f.selfUuid ≠ f.friendUuid
  duplicateFree : (t.authFriend.map fun f => (f.selfUuid, f.friendUuid)).Nodup
  oneChat : ∀ f ∈ t.authFriend,
    (t.privateChat.filter fun p => p.Joins f.selfUuid f.friendUuid).length = 1
  accepted : ∀ f ∈ t.authFriend, ∃ r ∈ t.friendRequest, r.Accepted f.selfUuid f.friendUuid
  onePerPair : ∀ a b, (t.privateChat.filter fun p => p.Joins a b).length ≤ 1
  ordered : ∀ p ∈ t.privateChat, p.user1Uuid ≤ p.user2Uuid
  threads : (t.privateChat.map PrivateChat.threadId).Perm t.globalThreadIndex
  noSharedThread : t.globalThreadIndex.Nodup

/-! ## What every effect keeps -/

/-- `Coherent`, and what the statement about the tables needs besides. -/
structure Linked (s : DbStore) : Prop extends Coherent s where
  symmetric : ∀ f ∈ s.tables.authFriend, ∃ g ∈ s.tables.authFriend,
    g.selfUuid = f.friendUuid ∧ g.friendUuid = f.selfUuid
  irreflexive : ∀ f ∈ s.tables.authFriend, f.selfUuid ≠ f.friendUuid
  friendPairs : s.tables.authFriend.Pairwise fun f g =>
    ¬ (f.selfUuid = g.selfUuid ∧ f.friendUuid = g.friendUuid)
  accepted : ∀ f ∈ s.tables.authFriend,
    ∃ r ∈ s.tables.friendRequest, r.Accepted f.selfUuid f.friendUuid
  ordered : ∀ p ∈ s.tables.privateChat, p.user1Uuid ≤ p.user2Uuid
  threadIds : s.tables.privateChat.map PrivateChat.threadId = s.tables.globalThreadIndex
  threadsNodup : s.tables.globalThreadIndex.Nodup

theorem linked_registered (users : List Nat) : Linked (registered users) where
  toCoherent := coherent_registered users
  symmetric := fun _ h => by cases h
  irreflexive := fun _ h => by cases h
  friendPairs := List.Pairwise.nil
  accepted := fun _ h => by cases h
  ordered := fun _ h => by cases h
  threadIds := rfl
  threadsNodup := List.nodup_nil

theorem linked_of_tables {s s' : DbStore} (h : Linked s) (hcoherent : Coherent s')
    (htables : s'.tables = s.tables) : Linked s' := by
  obtain ⟨-, symmetric, irreflexive, friendPairs, accepted, ordered, threadIds, nodup⟩ := h
  rw [← htables] at symmetric irreflexive friendPairs accepted ordered threadIds nodup
  exact ⟨hcoherent, symmetric, irreflexive, friendPairs, accepted, ordered, threadIds, nodup⟩

/-- A new thread has a number no row has. -/
theorem Linked.fresh {s : DbStore} (h : Linked s) :
    s.counters.globalThreadIndex + 1 ∉ s.tables.globalThreadIndex := by
  rw [← h.threadIds]
  intro hmem
  obtain ⟨p, hp, hid⟩ := List.mem_map.mp hmem
  have hle := h.threads p hp
  omega

theorem Linked.threads_withPrivateChat {s : DbStore} (h : Linked s) (userOne userTwo : Nat) :
    (withPrivateChat userOne userTwo s).tables.privateChat.map PrivateChat.threadId =
        (withPrivateChat userOne userTwo s).tables.globalThreadIndex ∧
      (withPrivateChat userOne userTwo s).tables.globalThreadIndex.Nodup := by
  constructor
  · show (s.tables.privateChat ++ [_]).map _ = s.tables.globalThreadIndex ++ [_]
    rw [List.map_append, h.threadIds]
    rfl
  · apply List.nodup_append.mpr
    refine ⟨h.threadsNodup, List.pairwise_singleton _ _, ?_⟩
    intro id hid id' hid'
    rw [List.mem_singleton.mp hid']
    exact fun heq => h.fresh (heq ▸ hid)

theorem Linked.ordered_withPrivateChat {s : DbStore} (h : Linked s) (a b : Nat) :
    ∀ p ∈ (withPrivateChat (min a b) (max a b) s).tables.privateChat,
      p.user1Uuid ≤ p.user2Uuid := by
  intro p hp
  rcases List.mem_append.mp hp with hold | hnew
  · exact h.ordered p hold
  · rw [List.mem_singleton.mp hnew]
    exact Nat.le_trans (Nat.min_le_left a b) (Nat.le_max_left a b)

theorem linked_withPrivateChat {s : DbStore} {a b : Nat} (h : Linked s)
    (hfree : ∀ p ∈ s.tables.privateChat, ¬ (p.user1Uuid = min a b ∧ p.user2Uuid = max a b)) :
    Linked (withPrivateChat (min a b) (max a b) s) where
  toCoherent := coherent_withPrivateChat h.toCoherent hfree
  symmetric := h.symmetric
  irreflexive := h.irreflexive
  friendPairs := h.friendPairs
  accepted := h.accepted
  ordered := h.ordered_withPrivateChat a b
  threadIds := (h.threads_withPrivateChat _ _).1
  threadsNodup := (h.threads_withPrivateChat _ _).2

theorem linked_addFriendRequest {s : DbStore} {src dst : Nat} {nickname message : String}
    (h : Linked s) (hcoherent : Coherent (addFriendRequest src dst nickname message s)) :
    Linked (addFriendRequest src dst nickname message s) where
  toCoherent := hcoherent
  symmetric := h.symmetric
  irreflexive := h.irreflexive
  friendPairs := h.friendPairs
  accepted := by
    intro f hf
    obtain ⟨r, hr, haccepted⟩ := h.accepted f hf
    exact ⟨r, List.mem_append_left _ hr, haccepted⟩
  ordered := h.ordered
  threadIds := h.threadIds
  threadsNodup := h.threadsNodup

/-! ## A confirmation -/

/-- The request stays accepted, and the one that is confirmed becomes so. -/
theorem accepted_setRequestStatus {s : DbStore} {r : FriendRequest} {src dst a b : Nat}
    (hr : r ∈ s.tables.friendRequest)
    (h : r.Accepted a b ∨ (r.srcUuid = src ∧ r.dstUuid = dst ∧
      ((src = a ∧ dst = b) ∨ (src = b ∧ dst = a)))) :
    ∃ r' ∈ (setRequestStatus true src dst s).tables.friendRequest, r'.Accepted a b := by
  refine ⟨_, List.mem_map_of_mem hr, ?_⟩
  split
  · rcases h with haccepted | ⟨rfl, rfl, hpair⟩
    · exact ⟨rfl, haccepted.2⟩
    · exact ⟨rfl, hpair⟩
  · rename_i hother
    rcases h with haccepted | ⟨hsrc, hdst, -⟩
    · exact haccepted
    · exact absurd ⟨hsrc, hdst⟩ hother

/-- The two rows of a new friendship. -/
def newFriendRows (requester confirmer : Nat) (nickname : String) (s : DbStore) : List AuthFriend :=
  [⟨s.counters.authFriend + 1, confirmer, requester, nickname⟩,
    ⟨s.counters.authFriend + 2, requester, confirmer, ""⟩]

theorem authFriend_withConfirmation (requester confirmer : Nat) (nickname message : String)
    (s : DbStore) :
    (withConfirmation requester confirmer nickname message s).tables.authFriend =
      s.tables.authFriend ++ newFriendRows requester confirmer nickname s :=
  List.append_assoc ..

theorem mem_newFriendRows {requester confirmer : Nat} {nickname : String} {s : DbStore}
    {f : AuthFriend} (h : f ∈ newFriendRows requester confirmer nickname s) :
    (f.selfUuid = confirmer ∧ f.friendUuid = requester) ∨
      (f.selfUuid = requester ∧ f.friendUuid = confirmer) := by
  rcases List.mem_cons.mp h with rfl | h
  · exact Or.inl ⟨rfl, rfl⟩
  · rw [List.mem_singleton.mp h]
    exact Or.inr ⟨rfl, rfl⟩

/-- Users without a private chat are no friends. -/
theorem Linked.strangers {s : DbStore} (h : Linked s) {a b : Nat}
    (hfree : ∀ p ∈ s.tables.privateChat, ¬ (p.user1Uuid = min a b ∧ p.user2Uuid = max a b))
    {f : AuthFriend} (hf : f ∈ s.tables.authFriend) :
    ¬ (f.selfUuid = a ∧ f.friendUuid = b) ∧ ¬ (f.selfUuid = b ∧ f.friendUuid = a) := by
  obtain ⟨p, hp, hof⟩ := h.friends f hf
  constructor
  · rintro ⟨rfl, rfl⟩
    exact hfree p hp hof
  · rintro ⟨rfl, rfl⟩
    exact hfree p hp (PrivateChat.isOf_comm.mp hof)

theorem linked_withConfirmation {s : DbStore} {row : FriendRequest} {nickname message : String}
    (h : Linked s) (hrow : row ∈ s.tables.friendRequest)
    (hfree : ∀ p ∈ s.tables.privateChat, ¬ (p.user1Uuid = min row.srcUuid row.dstUuid ∧
      p.user2Uuid = max row.srcUuid row.dstUuid)) :
    Linked (withConfirmation row.srcUuid row.dstUuid nickname message s) where
  toCoherent := coherent_withConfirmation h.toCoherent hfree
  symmetric := by
    rw [authFriend_withConfirmation]
    intro f hf
    rcases List.mem_append.mp hf with hold | hnew
    · obtain ⟨g, hg, hturned⟩ := h.symmetric f hold
      exact ⟨g, List.mem_append_left _ hg, hturned⟩
    · rcases mem_newFriendRows hnew with ⟨hself, hfriend⟩ | ⟨hself, hfriend⟩
      · exact ⟨_, List.mem_append_right _ (List.mem_cons_of_mem _ List.mem_cons_self),
          hfriend.symm, hself.symm⟩
      · exact ⟨_, List.mem_append_right _ List.mem_cons_self, hfriend.symm, hself.symm⟩
  irreflexive := by
    rw [authFriend_withConfirmation]
    intro f hf
    have hdiffer := (h.requests row hrow).1
    rcases List.mem_append.mp hf with hold | hnew
    · exact h.irreflexive f hold
    · rcases mem_newFriendRows hnew with ⟨hself, hfriend⟩ | ⟨hself, hfriend⟩
      · rw [hself, hfriend]
        exact hdiffer.symm
      · rw [hself, hfriend]
        exact hdiffer
  friendPairs := by
    rw [authFriend_withConfirmation]
    have hdiffer := (h.requests row hrow).1
    refine List.pairwise_append.mpr ⟨h.friendPairs, ?_, ?_⟩
    · exact List.pairwise_pair.mpr fun heq => hdiffer heq.2
    · intro f hf g hg heq
      obtain ⟨hone, htwo⟩ := h.strangers hfree hf
      rcases mem_newFriendRows hg with ⟨hself, hfriend⟩ | ⟨hself, hfriend⟩
      · exact htwo ⟨heq.1.trans hself, heq.2.trans hfriend⟩
      · exact hone ⟨heq.1.trans hself, heq.2.trans hfriend⟩
  accepted := by
    rw [authFriend_withConfirmation]
    intro f hf
    rcases List.mem_append.mp hf with hold | hnew
    · obtain ⟨r, hr, haccepted⟩ := h.accepted f hold
      exact accepted_setRequestStatus hr (Or.inl haccepted)
    · refine accepted_setRequestStatus hrow (Or.inr ⟨rfl, rfl, ?_⟩)
      rcases mem_newFriendRows hnew with ⟨hself, hfriend⟩ | ⟨hself, hfriend⟩
      · exact Or.inr ⟨hfriend.symm, hself.symm⟩
      · exact Or.inl ⟨hself.symm, hfriend.symm⟩
  ordered := h.ordered_withPrivateChat row.srcUuid row.dstUuid
  threadIds := (h.threads_withPrivateChat (min row.srcUuid row.dstUuid) _).1
  threadsNodup :=
    (h.threads_withPrivateChat (min row.srcUuid row.dstUuid) (max row.srcUuid row.dstUuid)).2

theorem linked_effect {s s' : DbStore} (h : Linked s) (heffect : DbEffect s s') : Linked s' := by
  have hcoherent := coherent_effect h.toCoherent heffect
  cases heffect with
  | same htables _ => exact linked_of_tables h hcoherent htables
  | friendRequest => exact linked_addFriendRequest h hcoherent
  | privateChat _ hfree => exact linked_withPrivateChat h hfree
  | confirmation nickname message hrow hfree => exact linked_withConfirmation h hrow hfree
  | message thread a b content => exact ⟨hcoherent, h.symmetric, h.irreflexive, h.friendPairs,
      h.accepted, h.ordered, h.threadIds, h.threadsNodup⟩

/-! ## The tables -/

theorem PrivateChat.joins_iff_isOf {p : PrivateChat} (h : p.user1Uuid ≤ p.user2Uuid)
    (a b : Nat) : p.Joins a b ↔ p.IsOf a b := by
  unfold PrivateChat.Joins PrivateChat.IsOf
  omega

/-- No pair has two rows. -/
theorem Linked.length_joins_le {s : DbStore} (h : Linked s) (a b : Nat) :
    (s.tables.privateChat.filter fun p => p.Joins a b).length ≤ 1 := by
  have hjoins : ∀ p ∈ s.tables.privateChat.filter (fun p => p.Joins a b), p.IsOf a b := by
    intro p hp
    obtain ⟨hmem, hof⟩ := List.mem_filter.mp hp
    exact (PrivateChat.joins_iff_isOf (h.ordered p hmem) a b).mp (of_decide_eq_true hof)
  have hpairs := h.pairs.filter fun p => p.Joins a b
  match hrows : s.tables.privateChat.filter fun p => p.Joins a b with
  | [] => exact hrows ▸ Nat.zero_le 1
  | [p] => exact hrows ▸ Nat.le_refl 1
  | p :: q :: rest =>
    rw [hrows] at hjoins hpairs
    have hp := hjoins p List.mem_cons_self
    have hq := hjoins q (List.mem_cons_of_mem _ List.mem_cons_self)
    have hdiffer := List.rel_of_pairwise_cons hpairs List.mem_cons_self
    exact absurd ⟨hp.1.trans hq.1.symm, hp.2.trans hq.2.symm⟩ hdiffer

theorem Linked.length_joins_eq {s : DbStore} (h : Linked s) {f : AuthFriend}
    (hf : f ∈ s.tables.authFriend) :
    (s.tables.privateChat.filter fun p => p.Joins f.selfUuid f.friendUuid).length = 1 := by
  obtain ⟨p, hp, hof⟩ := h.friends f hf
  have hjoins := (PrivateChat.joins_iff_isOf (h.ordered p hp) _ _).mpr hof
  have hmem : p ∈ s.tables.privateChat.filter fun p => p.Joins f.selfUuid f.friendUuid :=
    List.mem_filter.mpr ⟨hp, decide_eq_true hjoins⟩
  have hpos := List.length_pos_of_mem hmem
  have hle := h.length_joins_le f.selfUuid f.friendUuid
  omega

theorem Linked.tablesCoherent {s : DbStore} (h : Linked s) : TablesCoherent s.tables where
  symmetric := h.symmetric
  irreflexive := h.irreflexive
  duplicateFree := by
    apply List.pairwise_map.mpr
    exact h.friendPairs.imp fun hdiffer heq =>
      hdiffer ⟨congrArg Prod.fst heq, congrArg Prod.snd heq⟩
  oneChat := fun _ => h.length_joins_eq
  accepted := h.accepted
  onePerPair := h.length_joins_le
  ordered := h.ordered
  threads := h.threadIds ▸ List.Perm.refl _
  noSharedThread := h.threadsNodup

/-- In every database a run reaches, the tables are coherent. -/
theorem linked_of_reaches {sql : MySql} {users : List Nat} {s : DbStore}
    (h : Trace.Reaches (dbStep sql) (registered users) s) : Linked s :=
  invariant_of_effects Linked (fun _ _ => linked_effect) (linked_registered users) h

/-- Whatever the calls of a run, their arguments and the statements that fail. -/
theorem tablesCoherent_of_reaches (sql : MySql) (users : List Nat) (s : DbStore)
    (h : Trace.Reaches (dbStep sql) (registered users) s) : TablesCoherent s.tables :=
  (linked_of_reaches h).tablesCoherent

/-- A request that is confirmed, the confirmation once more, a chat that exists, and one of a user
    with itself whose last statement fails. -/
def confirmedTwice : List (DbCall × List Bool) :=
  [(.createFriendRequest 1 2 "b" "hello", []), (.execFriendConfirmationTransaction 1 2, []),
    (.execFriendConfirmationTransaction 1 2, []), (.createNewPrivateChat 2 1, []),
    (.createNewPrivateChat 3 3, [false, false, false, false, false, true])]

theorem tablesCoherent_confirmedTwice :
    ∃ s, Trace.exec (dbStep (.decimal true)) (registered [1, 2, 3]) confirmedTwice = some s ∧
      s.tables.authFriend.length = 2 ∧ s.tables.globalThreadIndex = [1] ∧
      TablesCoherent s.tables :=
  ⟨_, rfl, by decide, by decide,
    tablesCoherent_of_reaches (.decimal true) [1, 2, 3] _ ⟨confirmedTwice, rfl⟩⟩

end DistributedIM.ChattingServer
