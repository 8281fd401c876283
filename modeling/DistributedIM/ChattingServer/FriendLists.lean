/-
  The lists a user is sent at login: `MySQLConnection::getAuthenticFriendsList` and
  `getFriendingRequestList`, with the statements `GET_AUTH_FRIEND_LIST` and
  `GET_FRIEND_REQUEST_LIST`.

  Both statements ask for a status first and for a user second; both calls bind the user first and
  the status second. So the friends come of user 1 only, and only for user 1 (a status is 0 or 1),
  once for every request to user 1 that has been confirmed; and the requests come of user 0, who
  does not exist, since uuids are given out from 1. `friendLists_iff` says when the lists are right
  all the same.

  The profile of a user is a parameter: every user has one, with all its columns.
-/
import Mathlib.Data.List.Dedup
import DistributedIM.Lib.Paging
import DistributedIM.ChattingServer.FriendRequests
import DistributedIM.ChattingServer.FriendTables

namespace DistributedIM.ChattingServer

/-! ## The statements -/

/-- The row of a user in `UserProfile`, and the username. -/
structure UserProfile where
  avatar : String
  username : String
  description : String
  sex : Int
  deriving DecidableEq, Repr

/-- A BOOL column as a number. -/
def FriendRequest.statusValue (r : FriendRequest) : Nat :=
  r.status.toNat

/-- `AuthFriend JOIN FriendRequest ON AF.self_uuid = FR.dst_uuid`, of users that exist. -/
def friendJoin (t : Tables) : List (AuthFriend × FriendRequest) :=
  t.authFriend.flatMap fun af =>
    if af.selfUuid ∈ t.authentication ∧ af.friendUuid ∈ t.authentication then
      (t.friendRequest.filter fun fr => af.selfUuid = fr.dstUuid).map fun fr => (af, fr)
    else []

def authFriendRows (t : Tables) (status selfUuid : Nat) : List (AuthFriend × FriendRequest) :=
  (friendJoin t).filter fun p => p.2.statusValue = status ∧ p.1.selfUuid = selfUuid

/-- `AF.id` -/
def friendId (p : AuthFriend × FriendRequest) : Nat :=
  p.1.id

/-- `GET_AUTH_FRIEND_LIST` -/
def getAuthFriendList (t : Tables) (status selfUuid limit start : Nat) :
    List (AuthFriend × FriendRequest) :=
  Paging.page friendId (authFriendRows t status selfUuid) limit start

def requestRows (t : Tables) (status dstUuid : Nat) : List FriendRequest :=
  t.friendRequest.filter fun fr =>
    (fr.srcUuid ∈ t.authentication ∧ fr.dstUuid ∈ t.authentication) ∧
      fr.statusValue = status ∧ fr.dstUuid = dstUuid

/-- `GET_FRIEND_REQUEST_LIST` -/
def getFriendRequestList (t : Tables) (status dstUuid limit start : Nat) : List FriendRequest :=
  Paging.page FriendRequest.id (requestRows t status dstUuid) limit start

/-! ## The calls -/

/-- `as_string`, which throws on NULL. -/
def columnText (column : Option String) : Except Exn String :=
  column.elim (throw .badFieldAccess) pure

/-- `user::Sex`, which is male if the column is not 0. -/
def sexOf (column : Int) : Nat :=
  if column = 0 then 1 else 0

/-- The card of a friend: its constructor takes the columns for other fields. -/
def friendCard (profile : Nat → UserProfile) (p : AuthFriend × FriendRequest) :
    Except Exn UserNameCard := do
  let user := profile p.1.friendUuid
  let nickname ← columnText p.2.nickname
  return {
    sex := sexOf user.sex
    uuid := p.1.friendUuid.repr
    avatorPath := nickname
    username := user.avatar
    nickname := user.username
    description := user.description }

/-- `user::UserFriendRequest` -/
structure UserFriendRequest where
  senderCard : UserNameCard
  receiverUuid : String
  requestMessage : String
  deriving DecidableEq, Repr

def requestEntry (profile : Nat → UserProfile) (dstUuid : Nat) (r : FriendRequest) :
    Except Exn UserFriendRequest := do
  let user := profile r.srcUuid
  let nickname ← columnText r.nickname
  let message ← columnText r.message
  return {
    senderCard :=
      { sex := sexOf user.sex
        uuid := r.srcUuid.repr
        avatorPath := user.avatar
        username := user.username
        nickname := nickname
        description := user.description }
    receiverUuid := dstUuid.repr
    requestMessage := message }

/-- The rows of a page of friends: the user is bound to the status, and 1 to the user. -/
def friendPage (t : Tables) (selfUuid interval startPos : Nat) :
    List (AuthFriend × FriendRequest) :=
  if selfUuid ∈ t.authentication then getAuthFriendList t selfUuid 1 interval startPos else []

def getAuthenticFriendsList (profile : Nat → UserProfile) (t : Tables)
    (selfUuid startPos interval : Nat) : Except Exn (Option (List UserNameCard)) := do
  let rows := friendPage t selfUuid interval startPos
  if rows.isEmpty then return none
  return some (← rows.mapM (friendCard profile))

/-- The rows of a page of requests: the user is bound to the status, and 0 to the user. -/
def requestPage (t : Tables) (dstUuid interval startPos : Nat) : List FriendRequest :=
  if dstUuid ∈ t.authentication then getFriendRequestList t dstUuid 0 interval startPos else []

def getFriendingRequestList (profile : Nat → UserProfile) (t : Tables)
    (dstUuid startPos interval : Nat) : Except Exn (Option (List UserFriendRequest)) := do
  let rows := requestPage t dstUuid interval startPos
  if rows.isEmpty then return none
  return some (← rows.mapM (requestEntry profile dstUuid))

/-! ## The lists as they should be -/

def friendsOf (t : Tables) (u : Nat) : List Nat :=
  (t.authFriend.filter fun f => f.selfUuid = u).map AuthFriend.friendUuid

/-- The users whose request to `u` waits. -/
def pendingSenders (t : Tables) (u : Nat) : List Nat :=
  ((t.friendRequest.filter fun r => r.dstUuid = u ∧ r.status = false).map
    FriendRequest.srcUuid).dedup

/-- Paging through the friends yields each friend once, whatever the size of a page. -/
def FriendsListed (profile : Nat → UserProfile) (t : Tables) (u : Nat) : Prop :=
  ∀ interval, 0 < interval → ∃ rows cards,
    Paging.Pages friendId (friendPage t u interval) 0 rows ∧
      rows.mapM (friendCard profile) = .ok cards ∧
      (cards.map UserNameCard.uuid).Perm ((friendsOf t u).map Nat.repr)

/-- Paging through the requests yields one entry for each user whose request waits. -/
def RequestsListed (profile : Nat → UserProfile) (t : Tables) (u : Nat) : Prop :=
  ∀ interval, 0 < interval → ∃ rows entries,
    Paging.Pages FriendRequest.id (requestPage t u interval) 0 rows ∧
      rows.mapM (requestEntry profile u) = .ok entries ∧
      (entries.map fun e => e.senderCard.uuid).Perm ((pendingSenders t u).map Nat.repr)

theorem getAuthenticFriendsList_eq (profile : Nat → UserProfile) (t : Tables)
    (selfUuid startPos interval : Nat) :
    getAuthenticFriendsList profile t selfUuid startPos interval =
      Paging.entered (friendCard profile) (friendPage t selfUuid interval startPos) := rfl

theorem getFriendingRequestList_eq (profile : Nat → UserProfile) (t : Tables)
    (dstUuid startPos interval : Nat) :
    getFriendingRequestList profile t dstUuid startPos interval =
      Paging.entered (requestEntry profile dstUuid) (requestPage t dstUuid interval startPos) := rfl

/-- The cards of the rows are what the calls return, page by page. -/
theorem friendsListed_iff_calls {profile : Nat → UserProfile} {t : Tables} {u : Nat} :
    FriendsListed profile t u ↔ ∀ interval, 0 < interval → ∃ cards,
      Paging.Calls friendId (friendPage t u interval)
          (fun start => getAuthenticFriendsList profile t u start interval) 0 cards ∧
        (cards.map UserNameCard.uuid).Perm ((friendsOf t u).map Nat.repr) := by
  refine forall₂_congr fun interval _ => ?_
  exact Paging.exists_calls_iff fun start =>
    getAuthenticFriendsList_eq profile t u start interval

/-- The entries of the rows are what the calls return, page by page. -/
theorem requestsListed_iff_calls {profile : Nat → UserProfile} {t : Tables} {u : Nat} :
    RequestsListed profile t u ↔ ∀ interval, 0 < interval → ∃ entries,
      Paging.Calls FriendRequest.id (requestPage t u interval)
          (fun start => getFriendingRequestList profile t u start interval) 0 entries ∧
        (entries.map fun e => e.senderCard.uuid).Perm ((pendingSenders t u).map Nat.repr) := by
  refine forall₂_congr fun interval _ => ?_
  exact Paging.exists_calls_iff fun start =>
    getFriendingRequestList_eq profile t u start interval

/-- The requests to `u` that have been confirmed. -/
def confirmedRequests (t : Tables) (u : Nat) : List FriendRequest :=
  t.friendRequest.filter fun r => r.dstUuid = u ∧ r.status = true

/-! ## What a run keeps -/

/-- The ids of friendships, and the users of all rows. -/
structure Numbered (users : List Nat) (s : DbStore) : Prop where
  authentication : s.tables.authentication = users
  positive : ∀ f ∈ s.tables.authFriend, 0 < f.id
  behind : ∀ f ∈ s.tables.authFriend, f.id ≤ s.counters.authFriend
  distinct : (s.tables.authFriend.map AuthFriend.id).Nodup

theorem numbered_effect {users : List Nat} {s s' : DbStore} (h : Numbered users s)
    (heffect : DbEffect s s') : Numbered users s' := by
  cases heffect with
  | same htables hcounters =>
    obtain ⟨authentication, positive, behind, distinct⟩ := h
    rw [← htables] at authentication positive behind distinct
    exact ⟨authentication, positive, fun f hf => Nat.le_trans (behind f hf) hcounters.1.2,
      distinct⟩
  | friendRequest => exact ⟨h.authentication, h.positive, h.behind, h.distinct⟩
  | privateChat => exact ⟨h.authentication, h.positive, h.behind, h.distinct⟩
  | message => exact ⟨h.authentication, h.positive, h.behind, h.distinct⟩
  | @confirmation row nickname message _ _ =>
    have hids : ∀ f ∈ newFriendRows row.srcUuid row.dstUuid nickname s,
        s.counters.authFriend < f.id ∧ f.id ≤ s.counters.authFriend + 2 := by
      intro f hf
      rcases List.mem_cons.mp hf with rfl | hf
      · exact ⟨Nat.lt_succ_self _, Nat.le_succ _⟩
      · rw [List.mem_singleton.mp hf]
        exact ⟨Nat.lt_add_of_pos_right (Nat.succ_pos 1), Nat.le_refl _⟩
    refine ⟨h.authentication, ?_, ?_, ?_⟩
    · rw [authFriend_withConfirmation]
      intro f hf
      rcases List.mem_append.mp hf with hold | hnew
      · exact h.positive f hold
      · have hid := (hids f hnew).1
        omega
    · rw [authFriend_withConfirmation]
      intro f hf
      show f.id ≤ s.counters.authFriend + 2
      rcases List.mem_append.mp hf with hold | hnew
      · have hid := h.behind f hold
        omega
      · exact (hids f hnew).2
    · rw [authFriend_withConfirmation, List.map_append]
      refine List.nodup_append.mpr ⟨h.distinct, by simp [newFriendRows], ?_⟩
      intro i hi j hj
      obtain ⟨f, hf, rfl⟩ := List.mem_map.mp hi
      obtain ⟨g, hg, rfl⟩ := List.mem_map.mp hj
      have hold := h.behind f hf
      have hnew := (hids g hg).1
      omega

theorem numbered_of_reaches {sql : MySql} {users : List Nat} {s : DbStore}
    (h : Trace.Reaches (dbStep sql) (registered users) s) : Numbered users s := by
  refine invariant_of_effects (Numbered users) (fun _ _ => numbered_effect) ?_ h
  exact ⟨rfl, fun _ h => (by cases h), fun _ h => (by cases h), List.nodup_nil⟩

/-- Friends are users. -/
theorem Linked.users_of_authFriend {s : DbStore} (h : Linked s) {f : AuthFriend}
    (hf : f ∈ s.tables.authFriend) :
    f.selfUuid ∈ s.tables.authentication ∧ f.friendUuid ∈ s.tables.authentication := by
  obtain ⟨r, hr, -, hpair⟩ := h.accepted f hf
  obtain ⟨-, hsrc, hdst⟩ := h.requests r hr
  rcases hpair with ⟨hself, hfriend⟩ | ⟨hfriend, hself⟩
  · rw [← hself, ← hfriend]
    exact ⟨hsrc, hdst⟩
  · rw [← hself, ← hfriend]
    exact ⟨hdst, hsrc⟩

/-! ## Reading columns -/

theorem uuid_of_friendCard {profile : Nat → UserProfile} {p : AuthFriend × FriendRequest}
    {card : UserNameCard} (h : friendCard profile p = .ok card) :
    card.uuid = p.1.friendUuid.repr := by
  obtain ⟨nickname, -, hcard⟩ := Outcome.bind_eq_ok.mp h
  rw [← Except.ok.inj hcard]

/-- A friend whose request has a nickname has a card. -/
theorem friendCard_of_isSome (profile : Nat → UserProfile) {p : AuthFriend × FriendRequest}
    (h : p.2.nickname.isSome) : ∃ card, friendCard profile p = .ok card := by
  obtain ⟨nickname, hnickname⟩ := Option.isSome_iff_exists.mp h
  unfold friendCard
  rw [hnickname]
  exact ⟨_, rfl⟩

/-! ## What the statements find -/

/-- The friendships of a user. -/
def friendshipsOf (t : Tables) (u : Nat) : List AuthFriend :=
  t.authFriend.filter fun f => f.selfUuid = u

/-- The rows of one friendship. -/
theorem filter_joinRow {t : Tables} {af : AuthFriend} (status selfUuid : Nat) :
    ((t.friendRequest.filter fun fr => af.selfUuid = fr.dstUuid).map fun fr => (af, fr)).filter
        (fun p => p.2.statusValue = status ∧ p.1.selfUuid = selfUuid) =
      if af.selfUuid = selfUuid then
        (t.friendRequest.filter fun fr => fr.dstUuid = selfUuid ∧ fr.statusValue = status).map
          fun fr => (af, fr)
      else [] := by
  rw [List.filter_map, List.filter_filter]
  split
  · rename_i hself
    congr 1
    apply List.filter_congr
    intro fr _
    rw [Bool.eq_iff_iff]
    simp only [Function.comp_apply, Bool.and_eq_true, decide_eq_true_eq]
    omega
  · rename_i hother
    rw [List.map_eq_nil_iff, List.filter_eq_nil_iff]
    intro fr _
    simp [hother]

theorem flatMap_ite {α β : Type} {q : α → Prop} [DecidablePred q] (h : α → List β)
    (l : List α) :
    (l.flatMap fun a => if q a then h a else []) = (l.filter fun a => q a).flatMap h := by
  induction l with
  | nil => rfl
  | cons a l ih =>
    by_cases ha : q a
    · rw [List.filter_cons_of_pos (by simpa using ha), List.flatMap_cons, List.flatMap_cons,
        if_pos ha, ih]
    · rw [List.filter_cons_of_neg (by simpa using ha), List.flatMap_cons, if_neg ha, ih,
        List.nil_append]

/-- Each friendship of the user comes with each request to the user that has the status. -/
theorem authFriendRows_eq {t : Tables} (status selfUuid : Nat)
    (husers : ∀ f ∈ t.authFriend, f.selfUuid ∈ t.authentication ∧
      f.friendUuid ∈ t.authentication) :
    authFriendRows t status selfUuid = (friendshipsOf t selfUuid).flatMap fun af =>
      (t.friendRequest.filter fun fr => fr.dstUuid = selfUuid ∧ fr.statusValue = status).map
        fun fr => (af, fr) := by
  unfold authFriendRows friendJoin friendshipsOf
  rw [List.filter_flatMap, ← flatMap_ite]
  apply List.flatMap_congr
  intro af haf
  rw [if_pos (husers af haf)]
  exact filter_joinRow status selfUuid

/-- Only user 1 has rows, those of the requests that are confirmed. -/
theorem friendPage_eq {t : Tables}
    (husers : ∀ f ∈ t.authFriend, f.selfUuid ∈ t.authentication ∧
      f.friendUuid ∈ t.authentication)
    (hpositive : ∀ v ∈ t.authentication, 0 < v) (u interval startPos : Nat) :
    friendPage t u interval startPos =
      Paging.page friendId
        (if u = 1 then (friendshipsOf t 1).flatMap fun af =>
          (confirmedRequests t 1).map fun fr => (af, fr) else []) interval startPos := by
  unfold friendPage getAuthFriendList
  rw [authFriendRows_eq u 1 husers]
  have hstatus : ∀ fr : FriendRequest, (fr.dstUuid = 1 ∧ fr.statusValue = 1) ↔
      (fr.dstUuid = 1 ∧ fr.status = true) := by
    intro fr
    unfold FriendRequest.statusValue
    cases fr.status <;> simp
  split
  · rename_i hu
    have hzero := hpositive u hu
    split
    · rename_i hone
      subst hone
      simp only [hstatus, confirmedRequests]
    · rename_i hother
      have hnone : ∀ fr : FriendRequest, ¬ (fr.dstUuid = 1 ∧ fr.statusValue = u) := by
        intro fr h
        have hle : fr.statusValue ≤ 1 := by
          unfold FriendRequest.statusValue
          cases fr.status <;> decide
        omega
      have hrows : (friendshipsOf t 1).flatMap (fun af =>
          (t.friendRequest.filter fun fr => fr.dstUuid = 1 ∧ fr.statusValue = u).map
            fun fr => (af, fr)) = [] := by
        simp [hnone]
      rw [hrows]
  · rename_i hu
    have hfriends : u = 1 → friendshipsOf t 1 = [] := by
      rintro rfl
      rw [friendshipsOf, List.filter_eq_nil_iff]
      intro f hf hself
      exact hu (of_decide_eq_true hself ▸ (husers f hf).1)
    split
    · rename_i hone
      rw [hfriends hone, List.flatMap_nil, Paging.page_nil]
    · rw [Paging.page_nil]

/-- No request is to user 0. -/
theorem requestPage_eq {t : Tables} (hpositive : ∀ v ∈ t.authentication, 0 < v)
    (u interval startPos : Nat) : requestPage t u interval startPos = [] := by
  have hrows : requestRows t u 0 = [] := by
    rw [requestRows, List.filter_eq_nil_iff]
    intro fr _ h
    obtain ⟨⟨-, hdst⟩, -, hzero⟩ := of_decide_eq_true h
    have hpos := hpositive _ hdst
    omega
  unfold requestPage getFriendRequestList
  rw [hrows, Paging.page_nil, ite_self]

/-! ## When the lists are right -/

/-- A page of friends does not depend on the size of pages where nobody is found. -/
theorem friendsListed_iff_nil {profile : Nat → UserProfile} {t : Tables} {u : Nat}
    (h : ∀ interval, friendPage t u interval 0 = []) :
    FriendsListed profile t u ↔ friendsOf t u = [] := by
  constructor
  · intro hlisted
    obtain ⟨rows, cards, hpages, hcards, hperm⟩ := hlisted 1 Nat.one_pos
    obtain rfl := hpages.eq_nil (h 1)
    obtain rfl := Except.ok.inj hcards
    exact List.map_eq_nil_iff.mp hperm.nil_eq.symm
  · intro hnil interval _
    refine ⟨[], [], .last (h interval), rfl, ?_⟩
    rw [hnil]
    exact .refl []

theorem requestsListed_iff {profile : Nat → UserProfile} {t : Tables}
    (hpositive : ∀ v ∈ t.authentication, 0 < v) (u : Nat) :
    RequestsListed profile t u ↔ ∀ r ∈ t.friendRequest, r.dstUuid = u → r.status = true := by
  have hempty := requestPage_eq hpositive u
  have hpending : pendingSenders t u = [] ↔
      ∀ r ∈ t.friendRequest, r.dstUuid = u → r.status = true := by
    rw [pendingSenders, List.dedup_eq_nil, List.map_eq_nil_iff, List.filter_eq_nil_iff]
    simp
  rw [← hpending]
  constructor
  · intro hlisted
    obtain ⟨rows, entries, hpages, hentries, hperm⟩ := hlisted 1 Nat.one_pos
    obtain rfl := hpages.eq_nil (hempty 1 0)
    obtain rfl := Except.ok.inj hentries
    exact List.map_eq_nil_iff.mp hperm.nil_eq.symm
  · intro hnil interval _
    refine ⟨[], [], .last (hempty interval 0), rfl, ?_⟩
    rw [hnil]
    exact .refl []

/-- The friends of user 1 come once each if one request to user 1 has been confirmed. -/
theorem friendsListed_of_one {profile : Nat → UserProfile} {t : Tables} {r : FriendRequest}
    (hpages : ∀ interval startPos, friendPage t 1 interval startPos =
      Paging.page friendId ((friendshipsOf t 1).map fun af => (af, r)) interval startPos)
    (hpositive : ∀ f ∈ t.authFriend, 0 < f.id) (hdistinct : (t.authFriend.map AuthFriend.id).Nodup)
    (hreadable : r.nickname.isSome) : FriendsListed profile t 1 := by
  intro interval hinterval
  have hids : (((friendshipsOf t 1).map fun af => (af, r)).map friendId).Nodup := by
    rw [List.map_map]
    exact hdistinct.sublist (List.Sublist.map AuthFriend.id List.filter_sublist)
  obtain ⟨rows, hrows, hperm⟩ := Paging.pages_perm hids hinterval 0
  have hall : ((friendshipsOf t 1).map fun af => (af, r)).filter (fun p => 0 < friendId p) =
      (friendshipsOf t 1).map fun af => (af, r) := by
    rw [List.filter_eq_self]
    intro p hp
    obtain ⟨f, hf, rfl⟩ := List.mem_map.mp hp
    exact decide_eq_true (hpositive f (List.mem_filter.mp hf).1)
  rw [hall] at hperm
  obtain ⟨cards, hcards⟩ : ∃ cards, rows.mapM (friendCard profile) = .ok cards := by
    apply Outcome.exists_mapM
    intro p hp
    obtain ⟨f, -, rfl⟩ := List.mem_map.mp (hperm.mem_iff.mp hp)
    exact friendCard_of_isSome profile hreadable
  refine ⟨rows, cards, ?_, hcards, ?_⟩
  · have hfetch : friendPage t 1 interval =
        Paging.page friendId ((friendshipsOf t 1).map fun af => (af, r)) interval :=
      funext (hpages interval)
    rw [hfetch]
    exact hrows
  · rw [Outcome.map_eq_map_of_mapM hcards fun _ _ => uuid_of_friendCard]
    refine (hperm.map _).trans ?_
    rw [List.map_map, friendsOf, List.map_map]
    exact .refl _

theorem length_flatMap_map {α β : Type} (l : List α) (m : List β) :
    (l.flatMap fun a => m.map fun b => (a, b)).length = l.length * m.length := by
  induction l with
  | nil => simp
  | cons a l ih =>
    rw [List.flatMap_cons, List.length_append, ih, List.length_map, List.length_cons,
      Nat.succ_mul, Nat.add_comm]

/-- With several, some page size shows every friend of user 1 several times. -/
theorem not_friendsListed_of_two {profile : Nat → UserProfile} {t : Tables}
    {requests : List FriendRequest}
    (hpages : ∀ interval startPos, friendPage t 1 interval startPos =
      Paging.page friendId ((friendshipsOf t 1).flatMap fun af => requests.map fun fr => (af, fr))
        interval startPos)
    (hpositive : ∀ f ∈ t.authFriend, 0 < f.id) (htwo : 1 < requests.length)
    (hfriends : friendsOf t 1 ≠ []) : ¬ FriendsListed profile t 1 := by
  intro hlisted
  let all := (friendshipsOf t 1).flatMap fun af => requests.map fun fr => (af, fr)
  have hall : all.filter (fun p => 0 < friendId p) = all := by
    rw [List.filter_eq_self]
    intro p hp
    obtain ⟨f, hf, hp⟩ := List.mem_flatMap.mp hp
    obtain ⟨fr, -, rfl⟩ := List.mem_map.mp hp
    exact decide_eq_true (hpositive f (List.mem_filter.mp hf).1)
  have hbehind : (Paging.behind friendId all 0).length = all.length := by
    rw [(Paging.perm_behind all 0).length_eq, hall]
  -- one page holds all rows
  obtain ⟨rows, cards, hrows, hcards, hperm⟩ := hlisted (all.length + 1) (Nat.succ_pos _)
  have hfetch : friendPage t 1 (all.length + 1) =
      Paging.page friendId all (all.length + 1) := funext (hpages _)
  rw [hfetch] at hrows
  have hone : rows = Paging.behind friendId all 0 :=
    hrows.unique (Paging.pages_of_le (by omega))
  have hcount := hperm.length_eq
  rw [Outcome.map_eq_map_of_mapM hcards fun _ _ => uuid_of_friendCard, List.length_map,
    List.length_map, hone, hbehind, length_flatMap_map, friendsOf, List.length_map] at hcount
  have hpos : 0 < (friendshipsOf t 1).length := by
    rw [List.length_pos_iff]
    intro hnil
    apply hfriends
    unfold friendsOf
    exact List.map_eq_nil_iff.mpr hnil
  have hlt := Nat.mul_lt_mul_of_pos_left htwo hpos
  rw [Nat.mul_one] at hlt
  exact absurd hcount (Nat.ne_of_gt hlt)

theorem friendsListed_iff {profile : Nat → UserProfile} {users : List Nat} {s : DbStore}
    (hlinked : Linked s) (hnumbered : Numbered users s) (hpositive : ∀ v ∈ users, 0 < v)
    (u : Nat) :
    FriendsListed profile s.tables u ↔ friendsOf s.tables u = [] ∨
      (u = 1 ∧ (confirmedRequests s.tables 1).length = 1) := by
  have hpages := friendPage_eq (t := s.tables) (fun _ => hlinked.users_of_authFriend)
    (hnumbered.authentication ▸ hpositive) u
  by_cases hu : u = 1
  · subst hu
    simp only [if_true] at hpages
    rw [eq_self, true_and]
    match hrequests : confirmedRequests s.tables 1 with
    | [] =>
      rw [hrequests] at hpages
      have hrows : ((friendshipsOf s.tables 1).flatMap fun af =>
          ([] : List FriendRequest).map fun fr => (af, fr)) = [] := by
        simp
      have hnone : ∀ interval, friendPage s.tables 1 interval 0 = [] := by
        intro interval
        rw [hpages, hrows, Paging.page_nil]
      rw [friendsListed_iff_nil hnone]
      simp
    | [r] =>
      have hr : r ∈ s.tables.friendRequest := by
        have hmem : r ∈ confirmedRequests s.tables 1 := hrequests ▸ List.mem_singleton_self r
        exact (List.mem_filter.mp hmem).1
      refine iff_of_true ?_ (Or.inr rfl)
      refine friendsListed_of_one (r := r) ?_ hnumbered.positive hnumbered.distinct
        (hlinked.readable r hr).1
      intro interval startPos
      rw [hpages, hrequests]
      congr 1
      exact List.map_eq_flatMap.symm
    | r :: r' :: rest =>
      rw [hrequests] at hpages
      constructor
      · intro hlisted
        left
        apply Classical.byContradiction
        intro hfriends
        exact not_friendsListed_of_two hpages hnumbered.positive (by simp) hfriends hlisted
      · rintro (hnil | htwo)
        · have hnone : ∀ interval, friendPage s.tables 1 interval 0 = [] := by
            intro interval
            have hships : friendshipsOf s.tables 1 = [] := List.map_eq_nil_iff.mp hnil
            rw [hpages, hships, List.flatMap_nil, Paging.page_nil]
          exact (friendsListed_iff_nil hnone).mpr hnil
        · simp at htwo
  · have hnone : ∀ interval, friendPage s.tables u interval 0 = [] := by
      intro interval
      rw [hpages, if_neg hu, Paging.page_nil]
    rw [friendsListed_iff_nil hnone]
    simp [hu]

/-- In every database a run reaches: the friends of `u` are listed exactly if there are none, or
    `u` is user 1 and one request to user 1 has been confirmed; the requests to `u` exactly if
    none waits. -/
theorem friendLists_iff (sql : MySql) (users : List Nat) (s : DbStore)
    (profile : Nat → UserProfile) (hpositive : ∀ v ∈ users, 0 < v)
    (hreach : Trace.Reaches (dbStep sql) (registered users) s) (u : Nat) :
    (FriendsListed profile s.tables u ↔ friendsOf s.tables u = [] ∨
      (u = 1 ∧ (confirmedRequests s.tables 1).length = 1)) ∧
    (RequestsListed profile s.tables u ↔
      ∀ r ∈ s.tables.friendRequest, r.dstUuid = u → r.status = true) := by
  have hnumbered := numbered_of_reaches hreach
  exact ⟨friendsListed_iff (linked_of_reaches hreach) hnumbered hpositive u,
    requestsListed_iff (hnumbered.authentication ▸ hpositive) u⟩

/-- User 2 has confirmed the request of user 1. -/
def oneFriendship : List (DbCall × List Bool) :=
  [(.createFriendRequest 1 2 "b" "hello", []), (.execFriendConfirmationTransaction 1 2, [])]

def someProfile (_ : Nat) : UserProfile :=
  ⟨"a.png", "user", "", 1⟩

theorem friendLists_oneFriendship :
    ∃ s, Trace.exec (dbStep (.decimal true)) (registered [1, 2]) oneFriendship = some s ∧
      (FriendsListed someProfile s.tables 2 ↔ friendsOf s.tables 2 = [] ∨
        (2 = 1 ∧ (confirmedRequests s.tables 1).length = 1)) ∧
      (RequestsListed someProfile s.tables 2 ↔
        ∀ r ∈ s.tables.friendRequest, r.dstUuid = 2 → r.status = true) :=
  ⟨_, rfl, friendLists_iff (.decimal true) [1, 2] _ someProfile (by decide)
    ⟨oneFriendship, rfl⟩ 2⟩

/-- User 1 is a friend of user 2, and the first page of user 2 is empty. -/
theorem not_friendsListed_user_two :
    ∃ s, Trace.exec (dbStep (.decimal true)) (registered [1, 2]) oneFriendship = some s ∧
      friendsOf s.tables 2 = [1] ∧ friendPage s.tables 2 10 0 = [] ∧
      ¬ FriendsListed someProfile s.tables 2 := by
  refine ⟨_, rfl, by decide, by decide, ?_⟩
  intro h
  obtain ⟨rows, cards, hpages, hcards, hperm⟩ := h 10 (by decide)
  obtain rfl := hpages.eq_nil (by decide)
  obtain rfl := Except.ok.inj hcards
  exact absurd hperm.length_eq (by decide)

end DistributedIM.ChattingServer
