/-
  Friend requests, their confirmation, and new private chats: the handlers
  `SyncLogic::handlingFriendRequestCreator`, `handlingFriendRequestConfirm` and
  `handlingCreateNewPrivateChat`.

  Each takes the users it acts for from the request. `getUserBasicInfo` and the answer of the other
  server are the environment's. The messages to the requester are `replies`, those for the other
  user `forwards`.

  Left out: `alternative_name`, which is read and not used; the type of the greetings, always TEXT.
-/
import DistributedIM.Lib.Outcome
import DistributedIM.ChattingServer.MySQLConnection
import DistributedIM.ChattingServer.Requests

namespace DistributedIM.ChattingServer

/-- `user::UserNameCard` -/
structure UserNameCard where
  sex : Nat
  uuid : String
  avatorPath : String
  username : String
  nickname : String
  description : String
  deriving DecidableEq, Repr

/-- How `getUserBasicInfo` ends. -/
inductive BasicInfo
  | throws
  | notFound
  | found (card : UserNameCard)
  deriving DecidableEq, Repr

/-- What the environment decides while a request is handled. -/
structure HandlerEnv where
  /-- the lookup of the other user's server is answered -/
  get : Bool
  userBasicInfo : String → BasicInfo
  /-- the gRPC call is answered with success -/
  grpc : Bool

/-- What a handler does: `undefined` if it dereferences an empty optional. -/
structure HandlerOutcome (ρ φ : Type) where
  conn : DbConn
  replies : List ρ
  forwards : List φ
  undefined : Bool

/-- A request that is not carried out. -/
def HandlerOutcome.refused {ρ φ : Type} (error : ErrorMessage → ρ) (refusal : Refusal)
    (conn : DbConn) : HandlerOutcome ρ φ where
  conn := conn
  replies := refusal.toList.map error
  forwards := []
  undefined := false

/-- What `parseJson` sends comes first. -/
def HandlerOutcome.after {ρ φ : Type} (out : HandlerOutcome ρ φ) (error : ErrorMessage → ρ)
    (errors : List ErrorMessage) : HandlerOutcome ρ φ :=
  { out with replies := errors.map error ++ out.replies }

/-- A number as an `int32` of a protobuf message. -/
def toInt32 (n : Nat) : Int :=
  Int.bmod n (2 ^ 32)

/-! ## A friend request -/

structure FriendRequestMsg where
  srcUuid : String
  dstUuid : String
  message : String
  nickname : String
  srcValue : Nat
  dstValue : Nat
  deriving DecidableEq, Repr

inductive FriendSenderReply
  | error (message : ErrorMessage)
  | success (srcUuid dstUuid : String)
  deriving DecidableEq, Repr

/-- `SERVICE_FRIENDREINCOMINGREQUEST` -/
structure IncomingFriendRequest where
  destination : Destination
  srcUuid : String
  dstUuid : String
  nickname : String
  message : String
  card : UserNameCard
  deriving DecidableEq, Repr

/-- Texts that are no numbers are only logged. -/
def readFriendRequest (root : Json.Object) : Reading FriendRequestMsg := do
  requireFields root ["src_uuid", "dst_uuid"] ⟨.searchUsernameResponse, .loginUnsuccessful⟩
  let srcUuid ← textField root "src_uuid"
  let dstUuid ← textField root "dst_uuid"
  let message ← textField root "message"
  let nickname ← textField root "nickname"
  if srcUuid = dstUuid then throw (some ⟨.friendSenderResponse, .friendingYourself⟩)
  else
    match Text.readUInt64 srcUuid, Text.readUInt64 dstUuid with
    | some srcValue, some dstValue =>
      return ⟨srcUuid, dstUuid, message, nickname, srcValue, dstValue⟩
    | _, _ => throw none

/-- What follows when the request is stored. -/
def forwardFriendRequest (c : Cluster) (sid : SessionId) (env : HandlerEnv)
    (request : FriendRequestMsg) : List FriendSenderReply × List IncomingFriendRequest :=
  let notFound : FriendSenderReply := .error ⟨.friendSenderResponse, .friendingTargetUserNotFound⟩
  let success : FriendSenderReply := .success request.srcUuid request.dstUuid
  match c.redis.checkValue request.dstUuid env.get with
  | none => ([notFound], [])
  | some server =>
    match env.userBasicInfo request.srcUuid with
    | .throws => ([], [])
    | .notFound => ([notFound], [])
    | .found card =>
      if server = (c.session sid).server then
        match c.getSession server request.dstUuid with
        | none => ([notFound], [])
        | some dst =>
          ([success], [⟨.session dst, request.srcUuid, request.dstUuid, request.nickname,
            request.message, card⟩])
      else
        -- the other server prints the numbers of the gRPC request
        let grpcRequest : IncomingFriendRequest :=
          ⟨.server server, (toInt32 request.srcValue).repr, (toInt32 request.dstValue).repr,
            request.nickname, request.message, card⟩
        if env.grpc then ([success], [grpcRequest])
        else ([.error ⟨.friendSenderResponse, .friendingError⟩], [grpcRequest])

def storeFriendRequest (c : Cluster) (sid : SessionId) (env : HandlerEnv)
    (request : FriendRequestMsg) (conn : DbConn) :
    HandlerOutcome FriendSenderReply IncomingFriendRequest :=
  match createFriendRequest request.srcValue request.dstValue request.nickname request.message
    conn with
  | (.error _, conn) => .refused .error none conn
  | (.ok false, conn) => .refused .error (some ⟨.friendSenderResponse, .friendingError⟩) conn
  | (.ok true, conn) =>
    let sent := forwardFriendRequest c sid env request
    ⟨conn, sent.1, sent.2, false⟩

def handlingFriendRequestCreator (c : Cluster) (sid : SessionId) (env : HandlerEnv)
    (body : Option Json) (conn : DbConn) :
    HandlerOutcome FriendSenderReply IncomingFriendRequest :=
  let (errors, root) := parseJson body
  match readFriendRequest root with
  | .error refusal => (HandlerOutcome.refused .error refusal conn).after .error errors
  | .ok request => (storeFriendRequest c sid env request conn).after .error errors

/-! ## A confirmation -/

structure FriendConfirmMsg where
  srcUuid : String
  dstUuid : String
  requesterUuid : Nat
  confirmerUuid : Nat
  deriving DecidableEq, Repr

/-- `SERVICE_FRIENDING_ON_BIDDIRECTIONAL` -/
structure NewFriend where
  friendUuid : String
  card : UserNameCard
  threadId : String
  helloMsg : List FriendingConfirmInfo
  deriving DecidableEq, Repr

inductive FriendConfirmReply
  | error (message : ErrorMessage)
  | success
  | newFriend (friend : NewFriend)
  deriving DecidableEq, Repr

inductive FriendConfirmForward
  | error (destination : Destination) (message : ErrorMessage)
  | newFriend (destination : Destination) (friend : NewFriend)
  deriving DecidableEq, Repr

def readFriendConfirm (root : Json.Object) : Reading FriendConfirmMsg := do
  requireFields root ["src_uuid", "dst_uuid"] ⟨.searchUsernameResponse, .loginUnsuccessful⟩
  let srcUuid ← textField root "src_uuid"
  let dstUuid ← textField root "dst_uuid"
  let _ ← textField root "alternative_name"
  requireNumbers [srcUuid, dstUuid] ⟨.friendConfirmResponse, .friendingError⟩
  match Text.stoi srcUuid, Text.stoi dstUuid with
  | some requester, some confirmer =>
    return ⟨srcUuid, dstUuid, requester.toNat, confirmer.toNat⟩
  | _, _ => throw none

/-- What the requester of the friendship is sent. -/
def notifyRequester (c : Cluster) (sid : SessionId) (env : HandlerEnv) (request : FriendConfirmMsg)
    (threadId : String) (messageArr : List FriendingConfirmInfo) :
    List FriendConfirmForward × Bool :=
  match c.redis.checkValue request.srcUuid env.get with
  | none => ([], false)
  | some server =>
    let dstInfo := env.userBasicInfo request.dstUuid
    if dstInfo = .throws then ([], false)
    else if server = (c.session sid).server then
      match c.getSession server request.srcUuid with
      -- the error is to go to the session that has not been found
      | none => ([], true)
      | some src =>
        match dstInfo with
        | .found card =>
          ([.newFriend (.session src) ⟨request.dstUuid, card, threadId, messageArr⟩], false)
        | _ =>
          ([.error (.session src) ⟨.friendingOnBidirectional, .friendingTargetUserNotFound⟩],
            false)
    else
      match dstInfo with
      | .found card =>
        ([.newFriend (.server server) ⟨request.dstUuid, card, threadId, messageArr⟩], false)
      | _ => ([], false)

/-- What follows when the friendship is stored. -/
def announceFriendship (c : Cluster) (sid : SessionId) (env : HandlerEnv)
    (request : FriendConfirmMsg) (infos : List FriendingConfirmInfo) (conn : DbConn) :
    HandlerOutcome FriendConfirmReply FriendConfirmForward :=
  match env.userBasicInfo request.srcUuid with
  | .throws => ⟨conn, [.success], [], false⟩
  | .notFound =>
    ⟨conn, [.success, .error ⟨.friendingOnBidirectional, .friendingTargetUserNotFound⟩], [], false⟩
  | .found card =>
    let threadId := (infos.getLast?.map FriendingConfirmInfo.threadId).getD ""
    let sent := notifyRequester c sid env request threadId infos
    ⟨conn, [.success, .newFriend ⟨request.srcUuid, card, threadId, infos⟩], sent.1, sent.2⟩

def storeFriendConfirm (sql : MySql) (c : Cluster) (sid : SessionId) (env : HandlerEnv)
    (request : FriendConfirmMsg) (conn : DbConn) :
    HandlerOutcome FriendConfirmReply FriendConfirmForward :=
  match execFriendConfirmationTransaction sql request.requesterUuid request.confirmerUuid conn with
  | (.error _, conn) => .refused .error none conn
  | (.ok none, conn) =>
    ⟨conn, [.error ⟨.friendConfirmResponse, .friendingError⟩,
      .error ⟨.friendingOnBidirectional, .friendingError⟩], [], false⟩
  | (.ok (some infos), conn) => announceFriendship c sid env request infos conn

def handlingFriendRequestConfirm (sql : MySql) (c : Cluster) (sid : SessionId) (env : HandlerEnv)
    (body : Option Json) (conn : DbConn) :
    HandlerOutcome FriendConfirmReply FriendConfirmForward :=
  let (errors, root) := parseJson body
  match readFriendConfirm root with
  | .error refusal => (HandlerOutcome.refused .error refusal conn).after .error errors
  | .ok request => (storeFriendConfirm sql c sid env request conn).after .error errors

/-! ## A private chat -/

structure PrivateChatMsg where
  myUuid : String
  friendUuid : String
  user1Uuid : Nat
  user2Uuid : Nat
  deriving DecidableEq, Repr

inductive PrivateChatReply
  | error (message : ErrorMessage)
  | success (myUuid friendUuid threadId : String)
  deriving DecidableEq, Repr

def readPrivateChat (root : Json.Object) : Reading PrivateChatMsg := do
  requireFields root ["my_uuid", "friend_uuid"] ⟨.createNewPrivateChatResponse, .jsonparseError⟩
  let myUuid ← textField root "my_uuid"
  let friendUuid ← textField root "friend_uuid"
  requireNumbers [myUuid, friendUuid] ⟨.createNewPrivateChatResponse, .jsonparseError⟩
  match Text.stoi myUuid, Text.stoi friendUuid with
  | some user1, some user2 => return ⟨myUuid, friendUuid, user1.toNat, user2.toNat⟩
  | _, _ => throw none

def storePrivateChat (sql : MySql) (request : PrivateChatMsg) (conn : DbConn) :
    HandlerOutcome PrivateChatReply Empty :=
  match createNewPrivateChat sql request.user1Uuid request.user2Uuid conn with
  | (.error _, conn) => .refused .error none conn
  | (.ok none, conn) =>
    .refused .error (some ⟨.createNewPrivateChatResponse, .createPrivateChatFailed⟩) conn
  | (.ok (some threadId), conn) =>
    ⟨conn, [.success request.myUuid request.friendUuid threadId], [], false⟩

def handlingCreateNewPrivateChat (sql : MySql) (body : Option Json) (conn : DbConn) :
    HandlerOutcome PrivateChatReply Empty :=
  let (errors, root) := parseJson body
  match readPrivateChat root with
  | .error refusal => (HandlerOutcome.refused .error refusal conn).after .error errors
  | .ok request => (storePrivateChat sql request conn).after .error errors

/-! ## Whom a request acts for -/

theorem requireNumbers_eq_ok {texts : List String} {error : ErrorMessage} {u : Unit}
    (h : requireNumbers texts error = .ok u) :
    ∀ text ∈ texts, (Text.readUInt64 text).isSome := by
  unfold requireNumbers at h
  split at h
  · rename_i hall
    exact List.all_eq_true.mp hall
  · cases h

theorem readFriendRequest_eq_ok {root : Json.Object} {m : FriendRequestMsg}
    (h : readFriendRequest root = .ok m) : Text.readUInt64 m.srcUuid = some m.srcValue := by
  unfold readFriendRequest at h
  obtain ⟨_, _, h⟩ := Outcome.bind_eq_ok.mp h
  obtain ⟨srcUuid, -, h⟩ := Outcome.bind_eq_ok.mp h
  obtain ⟨dstUuid, -, h⟩ := Outcome.bind_eq_ok.mp h
  obtain ⟨message, -, h⟩ := Outcome.bind_eq_ok.mp h
  obtain ⟨nickname, -, h⟩ := Outcome.bind_eq_ok.mp h
  split at h
  · cases h
  · split at h
    · rename_i hsrc hdst
      obtain rfl := Except.ok.inj h
      exact hsrc
    · cases h

theorem readFriendConfirm_eq_ok {root : Json.Object} {m : FriendConfirmMsg}
    (h : readFriendConfirm root = .ok m) : Text.readUInt64 m.dstUuid = some m.confirmerUuid := by
  unfold readFriendConfirm at h
  obtain ⟨_, _, h⟩ := Outcome.bind_eq_ok.mp h
  obtain ⟨srcUuid, -, h⟩ := Outcome.bind_eq_ok.mp h
  obtain ⟨dstUuid, -, h⟩ := Outcome.bind_eq_ok.mp h
  obtain ⟨_, _, h⟩ := Outcome.bind_eq_ok.mp h
  obtain ⟨_, hnumbers, h⟩ := Outcome.bind_eq_ok.mp h
  split at h
  · rename_i hsrc hdst
    obtain rfl := Except.ok.inj h
    obtain ⟨n, hn⟩ := Option.isSome_iff_exists.mp
      (requireNumbers_eq_ok hnumbers dstUuid (by simp))
    have hsame := Text.stoi_eq_of_readUInt64 hn hdst
    subst hsame
    exact hn
  · cases h

theorem toInt32_of_lt {n : Nat} (h : n < 2 ^ 31) : toInt32 n = n := by
  unfold toInt32
  rw [Int.bmod_def]
  omega

/-- A friend request that is not read changes nothing. One that is read is forwarded with the
    number of its sender. -/
theorem handlingFriendRequestCreator_cases (c : Cluster) (sid : SessionId) (env : HandlerEnv)
    (body : Option Json) (conn : DbConn) :
    let out := handlingFriendRequestCreator c sid env body conn
    ((readFriendRequest (parseJson body).2).toOption = none ∧ out.conn = conn ∧
        out.forwards = []) ∨
      ∃ m, readFriendRequest (parseJson body).2 = .ok m ∧
        ∀ f ∈ out.forwards, f.srcUuid = m.srcUuid ∨ f.srcUuid = (toInt32 m.srcValue).repr := by
  intro out
  cases hread : readFriendRequest (parseJson body).2 with
  | error refusal =>
    left
    simp only [out, handlingFriendRequestCreator, hread, HandlerOutcome.after,
      HandlerOutcome.refused, Except.toOption, and_self]
  | ok m =>
    refine Or.inr ⟨m, rfl, ?_⟩
    intro f hf
    simp only [out, handlingFriendRequestCreator, hread, HandlerOutcome.after,
      storeFriendRequest] at hf
    split at hf
    · cases hf
    · cases hf
    · unfold forwardFriendRequest at hf
      dsimp only at hf
      split at hf
      · cases hf
      · split at hf
        · cases hf
        · cases hf
        · split at hf
          · split at hf
            · cases hf
            · obtain rfl := List.mem_singleton.mp hf
              exact Or.inl rfl
          · split at hf
            · right
              rw [List.mem_singleton.mp hf]
            · right
              rw [List.mem_singleton.mp hf]

theorem newFriend_of_notifyRequester {c : Cluster} {sid : SessionId} {env : HandlerEnv}
    {m : FriendConfirmMsg} {threadId : String} {messageArr : List FriendingConfirmInfo}
    {destination : Destination} {friend : NewFriend}
    (h : .newFriend destination friend ∈ (notifyRequester c sid env m threadId messageArr).1) :
    friend.friendUuid = m.dstUuid := by
  unfold notifyRequester at h
  dsimp only at h
  split at h
  · cases h
  · split at h
    · cases h
    · split at h
      · split at h
        · cases h
        · split at h
          · obtain ⟨-, rfl⟩ := FriendConfirmForward.newFriend.inj (List.mem_singleton.mp h)
            rfl
          · cases List.mem_singleton.mp h
      · split at h
        · obtain ⟨-, rfl⟩ := FriendConfirmForward.newFriend.inj (List.mem_singleton.mp h)
          rfl
        · cases h

/-- A confirmation that is not read changes nothing. One that is read is forwarded as the new
    friend's. -/
theorem handlingFriendRequestConfirm_cases (sql : MySql) (c : Cluster) (sid : SessionId)
    (env : HandlerEnv) (body : Option Json) (conn : DbConn) :
    let out := handlingFriendRequestConfirm sql c sid env body conn
    ((readFriendConfirm (parseJson body).2).toOption = none ∧ out.conn = conn ∧
        out.forwards = []) ∨
      ∃ m, readFriendConfirm (parseJson body).2 = .ok m ∧
        ∀ destination friend, .newFriend destination friend ∈ out.forwards →
          friend.friendUuid = m.dstUuid := by
  intro out
  cases hread : readFriendConfirm (parseJson body).2 with
  | error refusal =>
    left
    simp only [out, handlingFriendRequestConfirm, hread, HandlerOutcome.after,
      HandlerOutcome.refused, Except.toOption, and_self]
  | ok m =>
    refine Or.inr ⟨m, rfl, ?_⟩
    intro destination friend hf
    simp only [out, handlingFriendRequestConfirm, hread, HandlerOutcome.after,
      storeFriendConfirm] at hf
    split at hf
    · cases hf
    · cases hf
    · unfold announceFriendship at hf
      split at hf
      · cases hf
      · cases hf
      · exact newFriend_of_notifyRequester hf

/-- A private chat that is not read changes nothing. One that is read makes its call. -/
theorem handlingCreateNewPrivateChat_cases (sql : MySql) (body : Option Json) (conn : DbConn) :
    let out := handlingCreateNewPrivateChat sql body conn
    ((readPrivateChat (parseJson body).2).toOption = none ∧ out.conn = conn) ∨
      ∃ m, readPrivateChat (parseJson body).2 = .ok m ∧
        out.conn = (createNewPrivateChat sql m.user1Uuid m.user2Uuid conn).2 := by
  intro out
  cases hread : readPrivateChat (parseJson body).2 with
  | error refusal =>
    left
    simp only [out, handlingCreateNewPrivateChat, hread, HandlerOutcome.after,
      HandlerOutcome.refused, Except.toOption, and_self]
  | ok m =>
    refine Or.inr ⟨m, rfl, ?_⟩
    simp only [out, handlingCreateNewPrivateChat, hread, HandlerOutcome.after, storePrivateChat]
    cases hcall : createNewPrivateChat sql m.user1Uuid m.user2Uuid conn with
    | mk r conn' =>
      cases r with
      | error err => rfl
      | ok status => cases status <;> rfl

end DistributedIM.ChattingServer
