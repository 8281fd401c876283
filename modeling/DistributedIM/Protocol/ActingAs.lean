/-
  In whose name the chatting servers act: runs of the cluster together with the database, in which
  any session sends any request that writes, with any faults of statements and calls.

  None of the handlers looks at the user its session is logged in as; each takes the users from the
  request. A deed records what one request made of it. `always_inOwnName_of_namesOwnUser`: in a run
  whose requests name the user of their session wherever they take effect, every deed is done in
  that user's name.

  The greetings that a confirmation stores for both users belong to the confirmation.
-/
import Mathlib.Data.Int.Init
import DistributedIM.ChattingServer.FriendRequests
import DistributedIM.ChattingServer.TextChatMsg
import DistributedIM.Protocol.ClusterRuns

namespace DistributedIM.Protocol

open DistributedIM.ChattingServer

namespace ActingAs

/-! ## Requests -/

/-- The services that write to the database. -/
inductive Service
  | friendRequestSender
  | friendRequestConfirm
  | createNewPrivateChat
  | textChatMsgRequest
  deriving DecidableEq, Repr

/-- What is forwarded to another user. -/
inductive Incoming
  | friendRequest (f : IncomingFriendRequest)
  | friendConfirm (f : FriendConfirmForward)
  | texts (f : IncomingTexts)
  deriving DecidableEq, Repr

/-- What the server did for one request. -/
structure Deed where
  /-- the user its session is logged in as -/
  user : Option Nat
  /-- the call on the database that the handler made -/
  call : Option DbCall
  before : Tables
  after : Tables
  forwards : List Incoming
  deriving DecidableEq, Repr

structure World where
  cluster : Cluster
  store : DbStore
  deeds : List Deed

def start (store : DbStore) : World where
  cluster := .init
  store := store
  deeds := []

inductive ActingEvent
  | cluster (e : ClusterEvent)
  | request (sid : SessionId) (service : Service) (body : Option Json) (env : HandlerEnv)
      (faults : List Bool)

/-- The user of the last login that was answered with success. -/
def sessionUser (s : ChatSession) : Option Nat :=
  (s.loginReplies.filterMap fun r =>
    match r with
    | .error _ => none
    | .success user => some user).getLast?

/-- The call on the database that a request is read as. -/
def readCall (root : Json.Object) : Service → Option DbCall
  | .friendRequestSender =>
    (readFriendRequest root).toOption.map fun m =>
      .createFriendRequest m.srcValue m.dstValue m.nickname m.message
  | .friendRequestConfirm =>
    (readFriendConfirm root).toOption.map fun m =>
      .execFriendConfirmationTransaction m.requesterUuid m.confirmerUuid
  | .createNewPrivateChat =>
    (readPrivateChat root).toOption.map fun m => .createNewPrivateChat m.user1Uuid m.user2Uuid
  | .textChatMsgRequest =>
    (readTextChatMsg root).toOption.map fun m => .createModifyChattingHistoryRecord m.infos

/-- The handler of a service: the connection it leaves, and what it forwards. -/
def handle (sql : MySql) (c : Cluster) (sid : SessionId) (body : Option Json) (env : HandlerEnv)
    (conn : DbConn) : Service → DbConn × List Incoming
  | .friendRequestSender =>
    let out := handlingFriendRequestCreator c sid env body conn
    (out.conn, out.forwards.map .friendRequest)
  | .friendRequestConfirm =>
    let out := handlingFriendRequestConfirm sql c sid env body conn
    (out.conn, out.forwards.map .friendConfirm)
  | .createNewPrivateChat => ((handlingCreateNewPrivateChat sql body conn).conn, [])
  | .textChatMsgRequest =>
    let out := handlingTextChatMsg sql c sid env.get body conn
    (out.conn, out.forwards.map .texts)

def step (sql : MySql) (w : World) : ActingEvent → Option World
  | .cluster e => (ClusterRuns.step w.cluster e).map fun c => { w with cluster := c }
  | .request sid service body env faults =>
    if sid < w.cluster.accepted then
      let (conn, forwards) := handle sql w.cluster sid body env ⟨w.store, faults⟩ service
      let deed : Deed :=
        ⟨sessionUser (w.cluster.session sid), readCall (parseJson body).2 service,
          w.store.tables, conn.store.tables, forwards⟩
      some { w with store := conn.store, deeds := w.deeds ++ [deed] }
    else none

/-! ## In whose name -/

/-- The text is the number of the user. -/
def Names (text : String) (user : Option Nat) : Prop :=
  user.isSome ∧ Text.readUInt64 text = user

instance (text : String) (user : Option Nat) : Decidable (Names text user) :=
  inferInstanceAs (Decidable (_ ∧ _))

/-- Each forwarded text is from the user, and for the one it is forwarded to. -/
def TextsInNameOf (user : Option Nat) (f : IncomingTexts) : Prop :=
  ∀ m ∈ f.textMsg, Names f.textSender user ∧
    Text.stoi m.msgSender = user.map Int.ofNat ∧
    ∃ dst ∈ Text.readUInt64 f.textReceiver, Text.stoi m.msgReceiver = some (dst : Int)

def InNameOf (user : Option Nat) : Incoming → Prop
  | .friendRequest f => Names f.srcUuid user
  | .friendConfirm (.error _ _) => True
  | .friendConfirm (.newFriend _ f) => Names f.friendUuid user
  | .texts f => TextsInNameOf user f

/-- The call is made for the user; of texts, the rows they are stored as are the user's. -/
def CalledInNameOf (d : Deed) : Prop :=
  match d.call with
  | some (.createFriendRequest src _ _ _) => d.user = some src
  | some (.execFriendConfirmationTransaction _ confirmer) => d.user = some confirmer
  | some (.createModifyChattingHistoryRecord _) =>
    ∀ row ∈ d.after.chatMsgHistoryBank.drop d.before.chatMsgHistoryBank.length,
      d.user = some row.messageSender
  | some (.createNewPrivateChat _ _) => True
  | none => True

structure Deed.InOwnName (d : Deed) : Prop where
  called : CalledInNameOf d
  forwarded : ∀ f ∈ d.forwards, InNameOf d.user f
  loggedOut : d.user = none → d.after = d.before

def AllInOwnName (w : World) : Prop :=
  ∀ d ∈ w.deeds, d.InOwnName

/-- Both users exist, and have no private chat. -/
def CreatesChat (t : Tables) (user1 user2 : Nat) : Prop :=
  (user1 ∈ t.authentication ∧ user2 ∈ t.authentication) ∧
    ∀ p ∈ t.privateChat, ¬(p.user1Uuid = min user1 user2 ∧ p.user2Uuid = max user1 user2)

instance (t : Tables) (user1 user2 : Nat) : Decidable (CreatesChat t user1 user2) :=
  inferInstanceAs (Decidable (_ ∧ _))

/-- The texts that will be stored are from the user, and if they are all stored and forwarded, the
    request as a whole is from the user and each text is for its receiver. -/
def OwnTexts (sql : MySql) (t : Tables) (c : Cluster) (sid : SessionId) (get : Bool)
    (request : TextChatMsg) : Prop :=
  let user := sessionUser (c.session sid)
  (∀ x ∈ landings sql t request.infos, user = some x.1) ∧
    (request.updatedMsg ≠ [] → (landings sql t request.infos).length = request.infos.length →
      Routed c sid get request.receiver →
      Names request.sender user ∧ ∀ item ∈ request.updatedMsg,
        ∃ dst ∈ Text.readUInt64 request.receiver, Text.stoi item.info.msgReceiver = some (dst : Int))

instance (sql : MySql) (t : Tables) (c : Cluster) (sid : SessionId) (get : Bool)
    (request : TextChatMsg) : Decidable (OwnTexts sql t c sid get request) :=
  inferInstanceAs (Decidable ((∀ x ∈ _, _) ∧ (_ → _ → _ → _ ∧ ∀ item ∈ _, ∃ dst ∈ _, _)))

/-- A request that is read names the user of its session; a chat that it creates only needs a
    login. -/
def NamesOwnUser (sql : MySql) (w : World) : ActingEvent → Prop
  | .cluster _ => True
  | .request sid .friendRequestSender body _ _ =>
    ∀ m ∈ (readFriendRequest (parseJson body).2).toOption,
      sessionUser (w.cluster.session sid) = some m.srcValue
  | .request sid .friendRequestConfirm body _ _ =>
    ∀ m ∈ (readFriendConfirm (parseJson body).2).toOption,
      sessionUser (w.cluster.session sid) = some m.confirmerUuid
  | .request sid .createNewPrivateChat body _ _ =>
    ∀ m ∈ (readPrivateChat (parseJson body).2).toOption,
      sessionUser (w.cluster.session sid) = none →
        ¬CreatesChat w.store.tables m.user1Uuid m.user2Uuid
  | .request sid .textChatMsgRequest body env _ =>
    ∀ m ∈ (readTextChatMsg (parseJson body).2).toOption,
      OwnTexts sql w.store.tables w.cluster sid env.get m

instance (sql : MySql) (w : World) : ∀ e, Decidable (NamesOwnUser sql w e)
  | .cluster _ => isTrue trivial
  | .request _ .friendRequestSender _ _ _ => inferInstanceAs (Decidable (∀ m ∈ _, _))
  | .request _ .friendRequestConfirm _ _ _ => inferInstanceAs (Decidable (∀ m ∈ _, _))
  | .request _ .createNewPrivateChat _ _ _ => inferInstanceAs (Decidable (∀ m ∈ _, _ → ¬_))
  | .request _ .textChatMsgRequest _ _ _ => inferInstanceAs (Decidable (∀ m ∈ _, _))

/-! ## Who is logged in -/

theorem told_of_sessionUser {s : ChatSession} {user : Nat} (h : sessionUser s = some user) :
    s.Told user := by
  obtain ⟨r, hr, huser⟩ := List.mem_filterMap.mp (List.mem_of_getLast? h)
  cases r with
  | error status => cases huser
  | success u =>
    obtain rfl := Option.some.inj huser
    exact hr

/-- Who is logged in has a number that `std::stoi` reads. -/
def SmallNumbers (c : Cluster) : Prop :=
  ∀ i user, (c.session i).Told user → user < 2 ^ 31

theorem SmallNumbers.windsDown {c c' : Cluster} (h : SmallNumbers c) (hdown : c.WindsDown c') :
    SmallNumbers c' := by
  intro i user htold
  exact h i user ((hdown.told i user).mp htold)

theorem smallNumbers_handlingLogin {c : Cluster} (h : SmallNumbers c) (sid : SessionId)
    (request : AccountRequest) (out : LoginOutcome) :
    SmallNumbers (c.handlingLogin sid request out) := by
  rcases c.handlingLogin_cases sid request out with
    ⟨hdown, -⟩ | ⟨uuid, number, rfl, hnumber, -, -, heq⟩
  · exact h.windsDown hdown
  · rw [heq]
    cases hint : Text.stoi uuid with
    | none =>
      rw [Cluster.loginAccepted, hint]
      exact h
    | some uuidInt =>
      have hlogged : SmallNumbers ((c.updateRedisCache sid uuid uuidInt out).register sid uuid) := by
        intro i user htold
        have hdown := c.windsDown_updateRedisCache sid uuid uuidInt out
        exact h i user ((hdown.told i user).mp ((Cluster.told_register ..).mp htold))
      rw [Cluster.loginAccepted, hint]
      dsimp only
      rcases Cluster.answer_cases _ sid number out with ⟨-, hanswer⟩ | ⟨-, hdown⟩
      · intro i user htold
        rw [hanswer, Cluster.session_modifySession] at htold
        split at htold
        · rcases (ChatSession.told_reply_success ..).mp htold with hold | rfl
          · exact hlogged i user hold
          · have hsmall := Text.lt_of_stoi hint
            rw [Text.stoi_eq_of_readUInt64 hnumber hint] at hsmall
            omega
        · exact hlogged i user htold
      · exact hlogged.windsDown hdown

theorem smallNumbers_step {c c' : Cluster} {e : ClusterEvent} (h : SmallNumbers c)
    (hstep : ClusterRuns.step c e = some c') : SmallNumbers c' := by
  rcases ClusterRuns.step_cases hstep with
    ⟨server, -, rfl⟩ | ⟨sid, request, out, -, -, rfl⟩ | hdown
  · intro i user htold
    by_cases hnew : i = c.accepted
    · subst hnew
      simp [ClusterRuns.acceptSession, ChatSession.accepted, ChatSession.Told] at htold
    · apply h i user
      simpa [ClusterRuns.acceptSession, hnew] using htold
  · exact smallNumbers_handlingLogin h sid request out
  · exact h.windsDown hdown

/-! ## One request -/

/-- The deed of a request whose handler leaves the connection `conn'` and forwards `forwards`. -/
def deedOf (user : Option Nat) (call : Option DbCall) (conn conn' : DbConn)
    (forwards : List Incoming) : Deed :=
  ⟨user, call, conn.store.tables, conn'.store.tables, forwards⟩

/-- A request that is not read is nobody's. -/
theorem inOwnName_of_nothing (user : Option Nat) (conn : DbConn) :
    (deedOf user none conn conn []).InOwnName where
  called := trivial
  forwarded _ hf := by cases hf
  loggedOut _ := rfl

theorem inOwnName_friendRequest {user : Option Nat} (hsmall : ∀ u ∈ user, u < 2 ^ 31)
    {body : Option Json}
    (hown : ∀ m ∈ (readFriendRequest (parseJson body).2).toOption, user = some m.srcValue)
    (c : Cluster) (sid : SessionId) (env : HandlerEnv) (conn : DbConn) :
    let out := handlingFriendRequestCreator c sid env body conn
    (deedOf user (readCall (parseJson body).2 .friendRequestSender) conn out.conn
      (out.forwards.map .friendRequest)).InOwnName := by
  intro out
  obtain ⟨hread, hconn, hforwards⟩ | ⟨m, hread, hforwards⟩ :=
    handlingFriendRequestCreator_cases c sid env body conn
  · rw [readCall, hread, hconn, hforwards]
    exact inOwnName_of_nothing user conn
  · have huser : user = some m.srcValue := hown m (by rw [hread]; rfl)
    rw [readCall, hread]
    constructor
    case called => exact huser
    case forwarded =>
      intro i hi
      obtain ⟨f, hf, rfl⟩ := List.mem_map.mp hi
      refine ⟨Option.isSome_of_eq_some huser, huser ▸ ?_⟩
      rcases hforwards f hf with htext | hnumber
      · rw [htext]
        exact readFriendRequest_eq_ok hread
      · have hlt : m.srcValue < 2 ^ 31 := hsmall m.srcValue huser
        rw [hnumber, toInt32_of_lt hlt]
        exact Text.readUInt64_repr (by omega)
    case loggedOut => exact fun hnone => absurd (hnone.symm.trans huser) nofun

theorem inOwnName_friendConfirm {user : Option Nat} {body : Option Json}
    (hown : ∀ m ∈ (readFriendConfirm (parseJson body).2).toOption, user = some m.confirmerUuid)
    (sql : MySql) (c : Cluster) (sid : SessionId) (env : HandlerEnv) (conn : DbConn) :
    let out := handlingFriendRequestConfirm sql c sid env body conn
    (deedOf user (readCall (parseJson body).2 .friendRequestConfirm) conn out.conn
      (out.forwards.map .friendConfirm)).InOwnName := by
  intro out
  obtain ⟨hread, hconn, hforwards⟩ | ⟨m, hread, hforwards⟩ :=
    handlingFriendRequestConfirm_cases sql c sid env body conn
  · rw [readCall, hread, hconn, hforwards]
    exact inOwnName_of_nothing user conn
  · have huser : user = some m.confirmerUuid := hown m (by rw [hread]; rfl)
    rw [readCall, hread]
    constructor
    case called => exact huser
    case forwarded =>
      intro i hi
      obtain ⟨f, hf, rfl⟩ := List.mem_map.mp hi
      cases f with
      | error destination message => trivial
      | newFriend destination friend =>
        refine ⟨Option.isSome_of_eq_some huser, ?_⟩
        show Text.readUInt64 friend.friendUuid = user
        rw [hforwards destination friend hf, huser]
        exact readFriendConfirm_eq_ok hread
    case loggedOut => exact fun hnone => absurd (hnone.symm.trans huser) nofun

theorem inOwnName_privateChat {user : Option Nat} {body : Option Json} (conn : DbConn)
    (hown : ∀ m ∈ (readPrivateChat (parseJson body).2).toOption,
      user = none → ¬CreatesChat conn.store.tables m.user1Uuid m.user2Uuid) (sql : MySql) :
    (deedOf user (readCall (parseJson body).2 .createNewPrivateChat) conn
      (handlingCreateNewPrivateChat sql body conn).conn []).InOwnName := by
  obtain ⟨hread, hconn⟩ | ⟨m, hread, hconn⟩ := handlingCreateNewPrivateChat_cases sql body conn
  · rw [readCall, hread, hconn]
    exact inOwnName_of_nothing user conn
  · rw [readCall, hread, hconn]
    constructor
    case called => trivial
    case forwarded =>
      intro i hi
      cases hi
    case loggedOut =>
      intro hnone
      have hstore := @createNewPrivateChat_store sql m.user1Uuid m.user2Uuid conn _ _ rfl
      rcases hstore with hsame | ⟨husers, hfree, -⟩
      · exact hsame
      · exact absurd ⟨husers, hfree⟩ (hown m (by rw [hread]; rfl) hnone)

theorem inOwnName_texts {sql : MySql} {c : Cluster} {sid : SessionId} {env : HandlerEnv}
    {body : Option Json} (conn : DbConn)
    (hown : ∀ m ∈ (readTextChatMsg (parseJson body).2).toOption,
      OwnTexts sql conn.store.tables c sid env.get m) :
    let out := handlingTextChatMsg sql c sid env.get body conn
    (deedOf (sessionUser (c.session sid)) (readCall (parseJson body).2 .textChatMsgRequest) conn
      out.conn (out.forwards.map .texts)).InOwnName := by
  intro out
  obtain ⟨hread, hconn, hforwards⟩ | ⟨m, rows, hread, htables, hrows, hforwards⟩ :=
    handlingTextChatMsg_cases sql c sid env.get body conn
  · rw [readCall, hread, hconn, hforwards]
    exact inOwnName_of_nothing _ conn
  · obtain ⟨hsenders, hwhole⟩ := hown m (by rw [hread]; rfl)
    have hrow : ∀ row ∈ rows, sessionUser (c.session sid) = some row.messageSender :=
      fun row hmem => hsenders _ (mem_landings_of_storedAs hrows hmem)
    rw [readCall, hread]
    constructor
    case called =>
      show ∀ row ∈ out.conn.store.tables.chatMsgHistoryBank.drop
        conn.store.tables.chatMsgHistoryBank.length, sessionUser (c.session sid) = _
      rw [htables]
      dsimp only
      rw [List.drop_left]
      exact hrow
    case forwarded =>
      intro i hi
      obtain ⟨f, hf, rfl⟩ := List.mem_map.mp hi
      obtain ⟨hlength, hrouted, hsender, hreceiver, hmsgs⟩ := hforwards f hf
      rw [hlength, List.take_length] at hrows
      have hlanded := landings_eq_of_storedAs hrows
      intro msg hmsg
      obtain ⟨item, hitem, hfrom, hfor⟩ := hmsgs msg hmsg
      obtain ⟨hname, hto⟩ := hwhole (List.ne_nil_of_mem hitem)
        (by rw [hlanded, List.length_map, hlength]) hrouted
      rw [hsender, hreceiver, hfrom, hfor]
      refine ⟨hname, ?_, hto item hitem⟩
      -- the item has been stored as a row, whose sender is the one it names
      obtain ⟨row, hmem, hstored⟩ := exists_row_of_storedAs hrows (List.mem_map_of_mem hitem)
      rw [(MsgInfo.stoi_of_landing hstored.place).1, hrow row hmem]
      rfl
    case loggedOut =>
      intro hnone
      have hnil : rows = [] := by
        apply List.eq_nil_iff_forall_not_mem.mpr
        intro row hmem
        exact absurd (hnone.symm.trans (hrow row hmem)) nofun
      show out.conn.store.tables = conn.store.tables
      rw [htables, hnil, List.append_nil]

/-! ## Runs -/

structure Inv (w : World) : Prop where
  deeds : AllInOwnName w
  numbers : SmallNumbers w.cluster

theorem inv_start (store : DbStore) : Inv (start store) where
  deeds _ hd := by cases hd
  numbers i user htold := by cases htold

/-- The deed that a step on a request adds. -/
theorem inOwnName_handle {sql : MySql} {w : World} {sid : SessionId} {service : Service}
    {body : Option Json} {env : HandlerEnv} {faults : List Bool} (hnumbers : SmallNumbers w.cluster)
    (hown : NamesOwnUser sql w (.request sid service body env faults)) :
    let r := handle sql w.cluster sid body env ⟨w.store, faults⟩ service
    (deedOf (sessionUser (w.cluster.session sid)) (readCall (parseJson body).2 service)
      ⟨w.store, faults⟩ r.1 r.2).InOwnName := by
  cases service with
  | friendRequestSender =>
    apply inOwnName_friendRequest _ hown
    intro user huser
    exact hnumbers sid user (told_of_sessionUser huser)
  | friendRequestConfirm => exact inOwnName_friendConfirm hown ..
  | createNewPrivateChat =>
    exact inOwnName_privateChat ⟨w.store, faults⟩ hown sql
  | textChatMsgRequest => exact inOwnName_texts ⟨w.store, faults⟩ hown

theorem inv_step {sql : MySql} {w w' : World} {e : ActingEvent} (h : Inv w)
    (hown : NamesOwnUser sql w e) (hstep : step sql w e = some w') : Inv w' := by
  cases e with
  | cluster e =>
    obtain ⟨c, hc, rfl⟩ := Option.map_eq_some_iff.mp hstep
    exact ⟨h.deeds, smallNumbers_step h.numbers hc⟩
  | request sid service body env faults =>
    obtain ⟨-, hw⟩ := Option.ite_none_right_eq_some.mp hstep
    cases hw
    refine ⟨?_, h.numbers⟩
    intro d hd
    rcases List.mem_append.mp hd with hold | hnew
    · exact h.deeds d hold
    · rw [List.mem_singleton.mp hnew]
      exact inOwnName_handle h.numbers hown

/-- In a run whose requests name the user of their session wherever they take effect, everything is
    done in the name of the user who is logged in, and nothing for a session without a user. -/
theorem always_inOwnName_of_namesOwnUser {sql : MySql} {store : DbStore} {es : List ActingEvent}
    (h : Trace.Meets (step sql) (NamesOwnUser sql) (start store) es) :
    Trace.Always (step sql) AllInOwnName (start store) es :=
  Trace.always_mono (fun _ hinv => hinv.deeds)
    (Trace.always_of_meets Inv (fun _ _ _ => inv_step) (inv_start store) h)

/-- Everything is answered, and everybody has a profile. -/
def fine : HandlerEnv where
  get := true
  userBasicInfo uuid := .found ⟨0, uuid, "", "", "", ""⟩
  grpc := true

def friendRequestBody (src dst : String) : Option Json :=
  some (.object [("src_uuid", .string src), ("dst_uuid", .string dst), ("message", .string ""),
    ("nickname", .string "Ann")])

def friendConfirmBody (src dst : String) : Option Json :=
  some (.object [("src_uuid", .string src), ("dst_uuid", .string dst),
    ("alternative_name", .string "")])

/-- Users 1 and 2 log in on one server, become friends, and user 1 writes to user 2. -/
def friendship : List ActingEvent :=
  [.cluster (.accept "A"), .cluster (.login 0 (.wellFormed "1") ClusterRuns.smooth),
    .cluster (.accept "A"), .cluster (.login 1 (.wellFormed "2") ClusterRuns.smooth),
    .request 0 .friendRequestSender (friendRequestBody "1" "2") fine [],
    .request 1 .friendRequestConfirm (friendConfirmBody "1" "2") fine [],
    .request 0 .textChatMsgRequest (some textToTwo) fine []]

theorem always_inOwnName_friendship :
    (Trace.exec (step (.decimal true)) (start (registered [1, 2])) friendship).map
        (fun w => w.store.tables.chatMsgHistoryBank.map ChatMsg.messageSender) = some [1, 2, 1] ∧
      Trace.Always (step (.decimal true)) AllInOwnName (start (registered [1, 2])) friendship :=
  ⟨by decide, always_inOwnName_of_namesOwnUser (by decide)⟩

/-- A connection that has never logged in sends a friend request as user 1. -/
theorem not_inOwnName_without_login :
    ¬Trace.Always (step (.decimal true)) AllInOwnName (start (registered [1, 2]))
      [.cluster (.accept "A"),
        .request 0 .friendRequestSender (friendRequestBody "1" "2") fine []] := by
  intro h
  have hlast := Trace.exec_of_always h rfl
  have hcalled : (none : Option Nat) = some 1 := (hlast _ List.mem_cons_self).called
  cases hcalled

end ActingAs

end DistributedIM.Protocol
