/-
  Where the handlers that route to another user read an optional: friend requests, confirmations and
  texts. Redis, the session map of this server and the profiles are asked one after the other, and
  their answers need not fit together.

  The handlers are those of `FriendRequests` and `TextChatMsg` again, with every optional as it is
  tested and then read. That they do the same is `friendRequestCreator_progress`,
  `friendRequestConfirm_progress` and `textChatMsg_progress`; the outcome that is undefined there is
  the empty optional here (`undefined_iff_staleRoute`).

  Nearly every read stands behind a test. When Redis names this server for the requester of a
  friendship and this server has no session of theirs, the error is sent to the session that has
  just been found missing.
-/
import DistributedIM.Lib.Routine
import DistributedIM.ChattingServer.FriendRequests
import DistributedIM.ChattingServer.TextChatMsg

namespace DistributedIM.ChattingServer

open Routine (leave deref Never)

/-- How a handler is left before its last statement. -/
inductive Leaving
  | returned
  | threw
  | emptyOptional
  deriving DecidableEq, Repr

/-- What a handler has done so far. -/
structure Progress (ρ φ : Type) where
  conn : DbConn
  replies : List ρ
  forwards : List φ

abbrev Routing (ρ φ α : Type) := Routine Leaving (Progress ρ φ) α

def Progress.start {ρ φ : Type} (conn : DbConn) : Progress ρ φ := ⟨conn, [], []⟩

namespace Routing

variable {ρ φ α : Type}

def reply (r : ρ) : Routing ρ φ Unit :=
  Routine.modify fun p => { p with replies := p.replies ++ [r] }

def forward (f : φ) : Routing ρ φ Unit :=
  Routine.modify fun p => { p with forwards := p.forwards ++ [f] }

/-- An error message to the requester, and `return`. -/
def refuse (r : ρ) : Routing ρ φ Unit := do
  reply r
  leave .returned

/-- `value()`, `*` and `->` of an optional. -/
def value (o : Option α) : Routing ρ φ α :=
  deref .emptyOptional o

/-- The object `parseJson` leaves. -/
def parsedBody (error : ErrorMessage → ρ) (body : Option Json) : Routing ρ φ Json.Object := fun p =>
  let (errors, root) := parseJson body
  (.ok root, { p with replies := p.replies ++ errors.map error })

def readOrRefuse (error : ErrorMessage → ρ) : Reading α → Routing ρ φ α
  | .ok a => pure a
  | .error none => leave .threw
  | .error (some m) => do
    reply (error m)
    leave .returned

def query (call : Db α) : Routing ρ φ α := fun p =>
  match call p.conn with
  | (.ok a, conn) => (.ok a, { p with conn := conn })
  | (.error _, conn) => (.error .threw, { p with conn := conn })

end Routing

open Routing

/-- The optional that `getUserBasicInfo` returns. -/
def BasicInfo.lookUp {ρ φ : Type} : BasicInfo → Routing ρ φ (Option UserNameCard)
  | .throws => leave .threw
  | .notFound => pure none
  | .found card => pure (some card)

/-! ## The handlers -/

/-- `handlingFriendRequestCreator` from the lookup in Redis on. -/
def routeFriendRequest (c : Cluster) (sid : SessionId) (env : HandlerEnv)
    (srcUuid dstUuid message nickname : String) (srcValue dstValue : Option Nat) :
    Routing FriendSenderReply IncomingFriendRequest Unit := do
  let notFound : FriendSenderReply := .error ⟨.friendSenderResponse, .friendingTargetUserNotFound⟩
  let serverOp := c.redis.checkValue dstUuid env.get
  if serverOp.isNone then refuse notFound
  else do
    let infoStr ← (env.userBasicInfo srcUuid).lookUp
    if infoStr.isNone then refuse notFound
    else do
      let card ← value infoStr
      let server ← value serverOp
      if server = (c.session sid).server then do
        let sessionOp := c.getSession (c.session sid).server dstUuid
        if sessionOp.isNone then refuse notFound
        else do
          let dst ← value sessionOp
          forward ⟨.session dst, srcUuid, dstUuid, nickname, message, card⟩
          reply (.success srcUuid dstUuid)
      else do
        let src ← value srcValue
        let dst ← value dstValue
        forward ⟨.server server, (toInt32 src).repr, (toInt32 dst).repr, nickname, message, card⟩
        if env.grpc then reply (.success srcUuid dstUuid)
        else refuse (.error ⟨.friendSenderResponse, .friendingError⟩)

/-- `handlingFriendRequestCreator` once its texts are read. -/
def createRequest (c : Cluster) (sid : SessionId) (env : HandlerEnv)
    (srcUuid dstUuid message nickname : String) :
    Routing FriendSenderReply IncomingFriendRequest Unit := do
  if srcUuid = dstUuid then refuse (.error ⟨.friendSenderResponse, .friendingYourself⟩)
  else do
    let srcValue := Text.readUInt64 srcUuid
    let dstValue := Text.readUInt64 dstUuid
    if srcValue.isNone || dstValue.isNone then leave .returned
    else do
      let src ← value srcValue
      let dst ← value dstValue
      let created ← query (createFriendRequest src dst nickname message)
      if !created then refuse (.error ⟨.friendSenderResponse, .friendingError⟩)
      else routeFriendRequest c sid env srcUuid dstUuid message nickname srcValue dstValue

def friendRequestCreator (c : Cluster) (sid : SessionId) (env : HandlerEnv) (body : Option Json) :
    Routing FriendSenderReply IncomingFriendRequest Unit := do
  let root ← parsedBody .error body
  readOrRefuse .error (requireFields root ["src_uuid", "dst_uuid"]
    ⟨.searchUsernameResponse, .loginUnsuccessful⟩)
  let srcUuid ← readOrRefuse .error (textField root "src_uuid")
  let dstUuid ← readOrRefuse .error (textField root "dst_uuid")
  let message ← readOrRefuse .error (textField root "message")
  let nickname ← readOrRefuse .error (textField root "nickname")
  createRequest c sid env srcUuid dstUuid message nickname

/-- `handlingFriendRequestConfirm` from the lookup in Redis on. -/
def routeNewFriend (c : Cluster) (sid : SessionId) (env : HandlerEnv) (request : FriendConfirmMsg)
    (threadId : String) (messageArr : List FriendingConfirmInfo) :
    Routing FriendConfirmReply FriendConfirmForward Unit := do
  let serverOp := c.redis.checkValue request.srcUuid env.get
  if serverOp.isNone then leave .returned
  else do
    let dstInfo ← (env.userBasicInfo request.dstUuid).lookUp
    let server ← value serverOp
    if server = (c.session sid).server then do
      let sessionOp := c.getSession (c.session sid).server request.srcUuid
      if sessionOp.isNone then do
        let session ← value sessionOp
        forward (.error (.session session) ⟨.friendingOnBidirectional, .friendingError⟩)
      else if dstInfo.isNone then do
        let session ← value sessionOp
        forward (.error (.session session)
          ⟨.friendingOnBidirectional, .friendingTargetUserNotFound⟩)
      else do
        let card ← value dstInfo
        let session ← value sessionOp
        forward (.newFriend (.session session) ⟨request.dstUuid, card, threadId, messageArr⟩)
    else if dstInfo.isNone then leave .returned
    else do
      let card ← value dstInfo
      forward (.newFriend (.server server) ⟨request.dstUuid, card, threadId, messageArr⟩)

/-- `handlingFriendRequestConfirm` once the request is read. -/
def confirmRequest (sql : MySql) (c : Cluster) (sid : SessionId) (env : HandlerEnv)
    (request : FriendConfirmMsg) : Routing FriendConfirmReply FriendConfirmForward Unit := do
  let status ← query
    (execFriendConfirmationTransaction sql request.requesterUuid request.confirmerUuid)
  if status.isNone then do
    reply (.error ⟨.friendConfirmResponse, .friendingError⟩)
    refuse (.error ⟨.friendingOnBidirectional, .friendingError⟩)
  else do
    reply .success
    let srcInfo ← (env.userBasicInfo request.srcUuid).lookUp
    if srcInfo.isNone then
      refuse (.error ⟨.friendingOnBidirectional, .friendingTargetUserNotFound⟩)
    else do
      let infos ← value status
      let threadId := (infos.getLast?.map FriendingConfirmInfo.threadId).getD ""
      let card ← value srcInfo
      reply (.newFriend ⟨request.srcUuid, card, threadId, infos⟩)
      routeNewFriend c sid env request threadId infos

def friendRequestConfirm (sql : MySql) (c : Cluster) (sid : SessionId) (env : HandlerEnv)
    (body : Option Json) : Routing FriendConfirmReply FriendConfirmForward Unit := do
  let root ← parsedBody .error body
  let request ← readOrRefuse .error (readFriendConfirm root)
  confirmRequest sql c sid env request

/-- `createModifyChattingHistoryRecord` for the texts of a request. -/
def queryRecords (sql : MySql) (infos : List MsgInfo) :
    Routing TextChatReply IncomingTexts (Bool × List MsgInfo) := fun p =>
  match createModifyChattingHistoryRecords sql infos true p.conn with
  | ((.ok created, infos), conn) => (.ok (created, infos), { p with conn := conn })
  | ((.error _, _), conn) => (.error .threw, { p with conn := conn })

/-- `handlingTextChatMsg` from the lookup in Redis on. -/
def routeTexts (c : Cluster) (sid : SessionId) (env : HandlerEnv) (request : TextChatMsg)
    (updatedMsg : List TextMsgInfo) : Routing TextChatReply IncomingTexts Unit := do
  let serverOp := c.redis.checkValue request.receiver env.get
  if serverOp.isNone then refuse (.error ⟨.textChatMsgResponse, .redisUnkownError⟩)
  else do
    reply (.success request.sender request.receiver
      (updatedMsg.filterMap (TextMsgInfo.mapping request.threadId)))
    let server ← value serverOp
    if server = (c.session sid).server then do
      let receiverSession := c.getSession (c.session sid).server request.receiver
      if receiverSession.isNone then
        refuse (.error ⟨.friendSenderResponse, .friendingTargetUserNotFound⟩)
      else do
        let receiver ← value receiverSession
        forward ⟨.session receiver, request.sender, request.receiver,
          updatedMsg.filterMap (TextMsgInfo.dataItem msgTypeText)⟩
    else
      forward ⟨.server server, request.sender, request.receiver,
        updatedMsg.filterMap (TextMsgInfo.dataItem 0)⟩

/-- `handlingTextChatMsg` once the request is read. -/
def storeTexts (sql : MySql) (c : Cluster) (sid : SessionId) (env : HandlerEnv)
    (request : TextChatMsg) : Routing TextChatReply IncomingTexts Unit := do
  let (created, infos) ← queryRecords sql request.infos
  if !created then refuse (.error ⟨.textChatMsgResponse, .mysqlInternalError⟩)
  else do
    let updatedMsg := List.zipWith (fun (item : TextMsgInfo) info => { item with info := info })
      request.updatedMsg infos
    routeTexts c sid env request updatedMsg

def textChatMsg (sql : MySql) (c : Cluster) (sid : SessionId) (env : HandlerEnv)
    (body : Option Json) : Routing TextChatReply IncomingTexts Unit := do
  let root ← parsedBody .error body
  let request ← readOrRefuse .error (readTextChatMsg root)
  storeTexts sql c sid env request

/-! ## What is never left by an empty optional -/

section

variable {ρ φ α : Type}

theorem never_reply (r : ρ) : Never .emptyOptional (reply r : Routing ρ φ Unit) :=
  Routine.never_modify _

theorem never_forward (f : φ) : Never .emptyOptional (forward f : Routing ρ φ Unit) :=
  Routine.never_modify _

theorem never_returned : Never .emptyOptional (leave .returned : Routing ρ φ α) :=
  Routine.never_leave (by decide)

theorem never_refuse (r : ρ) : Never .emptyOptional (refuse r : Routing ρ φ Unit) :=
  Routine.never_bind (never_reply r) fun _ => never_returned

theorem never_value {o : Option α} (ho : o.isSome) :
    Never .emptyOptional (value o : Routing ρ φ α) :=
  Routine.never_deref ho

theorem never_parsedBody (error : ErrorMessage → ρ) (body : Option Json) :
    Never .emptyOptional (parsedBody error body : Routing ρ φ Json.Object) := by
  intro p h
  cases h

theorem never_readOrRefuse (error : ErrorMessage → ρ) (x : Reading α) :
    Never .emptyOptional (readOrRefuse error x : Routing ρ φ α) := by
  rcases x with (_ | m) | a
  · exact Routine.never_leave (by decide)
  · exact Routine.never_bind (never_reply _) fun _ => never_returned
  · exact Routine.never_pure a

theorem never_query (call : Db α) : Never .emptyOptional (query call : Routing ρ φ α) := by
  intro p h
  unfold query at h
  split at h
  · cases h
  · cases h

theorem never_lookUp (info : BasicInfo) :
    Never .emptyOptional (info.lookUp : Routing ρ φ (Option UserNameCard)) := by
  cases info with
  | throws => exact Routine.never_leave (by decide)
  | notFound => exact Routine.never_pure none
  | found card => exact Routine.never_pure (some card)

end

theorem never_queryRecords (sql : MySql) (infos : List MsgInfo) :
    Never .emptyOptional (queryRecords sql infos) := by
  intro p h
  unfold queryRecords at h
  split at h
  · cases h
  · cases h

theorem isSome_of_not_isNone {α : Type} {o : Option α} (h : ¬o.isNone = true) : o.isSome :=
  Option.isNone_eq_false_iff.mp (eq_false_of_ne_true h)

/-- The numbers of the request are read on the way to another server only. -/
theorem never_routeFriendRequest (c : Cluster) (sid : SessionId) (env : HandlerEnv)
    (srcUuid dstUuid message nickname : String) {srcValue dstValue : Option Nat}
    (hsrc : srcValue.isSome) (hdst : dstValue.isSome) :
    Never .emptyOptional
      (routeFriendRequest c sid env srcUuid dstUuid message nickname srcValue dstValue) := by
  unfold routeFriendRequest
  refine Routine.never_ite (fun _ => never_refuse _) fun hserver => ?_
  refine Routine.never_bind (never_lookUp _) fun infoStr => ?_
  refine Routine.never_ite (fun _ => never_refuse _) fun hinfo => ?_
  refine Routine.never_bind (never_value (isSome_of_not_isNone hinfo)) fun card => ?_
  refine Routine.never_bind (never_value (isSome_of_not_isNone hserver)) fun server => ?_
  refine Routine.never_ite (fun _ => ?_) fun _ => ?_
  · refine Routine.never_ite (fun _ => never_refuse _) fun hsession => ?_
    refine Routine.never_bind (never_value (isSome_of_not_isNone hsession)) fun dst => ?_
    exact Routine.never_bind (never_forward _) fun _ => never_reply _
  · refine Routine.never_bind (never_value hsrc) fun src => ?_
    refine Routine.never_bind (never_value hdst) fun dst => ?_
    refine Routine.never_bind (never_forward _) fun _ => ?_
    exact Routine.never_ite (fun _ => never_reply _) fun _ => never_refuse _

theorem never_createRequest (c : Cluster) (sid : SessionId) (env : HandlerEnv)
    (srcUuid dstUuid message nickname : String) :
    Never .emptyOptional (createRequest c sid env srcUuid dstUuid message nickname) := by
  unfold createRequest
  refine Routine.never_ite (fun _ => never_refuse _) fun _ => ?_
  refine Routine.never_ite (fun _ => never_returned) fun hnumbers => ?_
  obtain ⟨hsrc, hdst⟩ := not_or.mp fun h => hnumbers (Bool.or_eq_true _ _ ▸ h)
  have hsrc := isSome_of_not_isNone hsrc
  have hdst := isSome_of_not_isNone hdst
  refine Routine.never_bind (never_value hsrc) fun src => ?_
  refine Routine.never_bind (never_value hdst) fun dst => ?_
  refine Routine.never_bind (never_query _) fun created => ?_
  exact Routine.never_ite (fun _ => never_refuse _) fun _ =>
    never_routeFriendRequest c sid env srcUuid dstUuid message nickname hsrc hdst

theorem never_friendRequestCreator (c : Cluster) (sid : SessionId) (env : HandlerEnv)
    (body : Option Json) : Never .emptyOptional (friendRequestCreator c sid env body) := by
  unfold friendRequestCreator
  refine Routine.never_bind (never_parsedBody _ _) fun root => ?_
  refine Routine.never_bind (never_readOrRefuse _ _) fun _ => ?_
  refine Routine.never_bind (never_readOrRefuse _ _) fun srcUuid => ?_
  refine Routine.never_bind (never_readOrRefuse _ _) fun dstUuid => ?_
  refine Routine.never_bind (never_readOrRefuse _ _) fun message => ?_
  refine Routine.never_bind (never_readOrRefuse _ _) fun nickname => ?_
  exact never_createRequest c sid env srcUuid dstUuid message nickname

theorem never_routeTexts (c : Cluster) (sid : SessionId) (env : HandlerEnv)
    (request : TextChatMsg) (updatedMsg : List TextMsgInfo) :
    Never .emptyOptional (routeTexts c sid env request updatedMsg) := by
  unfold routeTexts
  refine Routine.never_ite (fun _ => never_refuse _) fun hserver => ?_
  refine Routine.never_bind (never_reply _) fun _ => ?_
  refine Routine.never_bind (never_value (isSome_of_not_isNone hserver)) fun server => ?_
  refine Routine.never_ite (fun _ => ?_) fun _ => never_forward _
  refine Routine.never_ite (fun _ => never_refuse _) fun hsession => ?_
  exact Routine.never_bind (never_value (isSome_of_not_isNone hsession)) fun _ => never_forward _

theorem never_storeTexts (sql : MySql) (c : Cluster) (sid : SessionId) (env : HandlerEnv)
    (request : TextChatMsg) : Never .emptyOptional (storeTexts sql c sid env request) := by
  unfold storeTexts
  refine Routine.never_bind (never_queryRecords _ _) fun records => ?_
  exact Routine.never_ite (fun _ => never_refuse _) fun _ => never_routeTexts c sid env request _

theorem never_textChatMsg (sql : MySql) (c : Cluster) (sid : SessionId) (env : HandlerEnv)
    (body : Option Json) : Never .emptyOptional (textChatMsg sql c sid env body) := by
  unfold textChatMsg
  refine Routine.never_bind (never_parsedBody _ _) fun root => ?_
  exact Routine.never_bind (never_readOrRefuse _ _) fun request =>
    never_storeTexts sql c sid env request

/-! ## Confirmations -/

/-- Redis names this server for the requester, who has no session here. -/
theorem routeNewFriend_empty_iff (c : Cluster) (sid : SessionId) (env : HandlerEnv)
    (request : FriendConfirmMsg) (threadId : String) (messageArr : List FriendingConfirmInfo)
    (p : Progress FriendConfirmReply FriendConfirmForward) :
    (routeNewFriend c sid env request threadId messageArr p).1 = .error .emptyOptional ↔
      env.userBasicInfo request.dstUuid ≠ .throws ∧
        c.redis.checkValue request.srcUuid env.get = some (c.session sid).server ∧
        c.getSession (c.session sid).server request.srcUuid = none := by
  unfold routeNewFriend
  cases hserver : c.redis.checkValue request.srcUuid env.get with
  | none => simp
  | some server =>
    cases hinfo : env.userBasicInfo request.dstUuid with
    | throws => simp [BasicInfo.lookUp]
    | notFound =>
      by_cases hhere : server = (c.session sid).server
      · cases hsession : c.getSession (c.session sid).server request.srcUuid with
        | none => simp [BasicInfo.lookUp, value, hhere]
        | some session => simp [BasicInfo.lookUp, value, forward, hhere]
      · simp [BasicInfo.lookUp, value, hhere]
    | found card =>
      by_cases hhere : server = (c.session sid).server
      · cases hsession : c.getSession (c.session sid).server request.srcUuid with
        | none => simp [BasicInfo.lookUp, value, hhere]
        | some session => simp [BasicInfo.lookUp, value, forward, hhere]
      · simp [BasicInfo.lookUp, value, forward, hhere]

/-- The confirmation is carried out, and Redis names this server for a requester who has no session
    here. -/
def StaleRoute (sql : MySql) (c : Cluster) (sid : SessionId) (env : HandlerEnv)
    (body : Option Json) (conn : DbConn) : Prop :=
  ∃ request infos card, readFriendConfirm (parseJson body).2 = .ok request ∧
    (execFriendConfirmationTransaction sql request.requesterUuid request.confirmerUuid conn).1 =
      .ok (some infos) ∧
    env.userBasicInfo request.srcUuid = .found card ∧
    env.userBasicInfo request.dstUuid ≠ .throws ∧
    c.redis.checkValue request.srcUuid env.get = some (c.session sid).server ∧
    c.getSession (c.session sid).server request.srcUuid = none

theorem query_apply_ok {ρ φ α : Type} {call : Db α} {p : Progress ρ φ} {a : α} {conn : DbConn}
    (h : call p.conn = (.ok a, conn)) : query call p = (.ok a, { p with conn := conn }) := by
  unfold query
  rw [h]

theorem query_apply_error {ρ φ α : Type} {call : Db α} {p : Progress ρ φ} {err : Exn}
    {conn : DbConn} (h : call p.conn = (.error err, conn)) :
    query call p = (.error .threw, { p with conn := conn }) := by
  unfold query
  rw [h]

theorem confirmRequest_empty_iff (sql : MySql) (c : Cluster) (sid : SessionId) (env : HandlerEnv)
    (request : FriendConfirmMsg) (p : Progress FriendConfirmReply FriendConfirmForward) :
    (confirmRequest sql c sid env request p).1 = .error .emptyOptional ↔
      ∃ infos card, (execFriendConfirmationTransaction sql request.requesterUuid
          request.confirmerUuid p.conn).1 = .ok (some infos) ∧
        env.userBasicInfo request.srcUuid = .found card ∧
        env.userBasicInfo request.dstUuid ≠ .throws ∧
        c.redis.checkValue request.srcUuid env.get = some (c.session sid).server ∧
        c.getSession (c.session sid).server request.srcUuid = none := by
  unfold confirmRequest
  cases hcall : execFriendConfirmationTransaction sql request.requesterUuid
      request.confirmerUuid p.conn with
  | mk status conn =>
    rcases status with err | _ | infos
    · simp [Routine.bind_apply_error (query_apply_error hcall)]
    · simp [Routine.bind_apply_ok (query_apply_ok hcall), reply, refuse]
    · rw [Routine.bind_apply_ok (query_apply_ok hcall)]
      cases hinfo : env.userBasicInfo request.srcUuid with
      | throws => simp [BasicInfo.lookUp, reply]
      | notFound => simp [BasicInfo.lookUp, reply, refuse]
      | found card => simp [BasicInfo.lookUp, reply, value, routeNewFriend_empty_iff]

theorem friendRequestConfirm_empty_iff (sql : MySql) (c : Cluster) (sid : SessionId)
    (env : HandlerEnv) (body : Option Json) (conn : DbConn) :
    (friendRequestConfirm sql c sid env body (.start conn)).1 = .error .emptyOptional ↔
      StaleRoute sql c sid env body conn := by
  let p : Progress FriendConfirmReply FriendConfirmForward :=
    ⟨conn, (parseJson body).1.map .error, []⟩
  have hparsed : friendRequestConfirm sql c sid env body (.start conn) =
      (readOrRefuse .error (readFriendConfirm (parseJson body).2) >>=
        confirmRequest sql c sid env) p := rfl
  rw [hparsed]
  unfold StaleRoute
  rcases hread : readFriendConfirm (parseJson body).2 with (_ | m) | request
  · simp [readOrRefuse]
  · simp [readOrRefuse, reply]
  · simp [readOrRefuse, confirmRequest_empty_iff, p]

/-! ## The handlers, and what they send -/

/-- What a handler has done when it ends. -/
def HandlerOutcome.progress {ρ φ : Type} (out : HandlerOutcome ρ φ) : Progress ρ φ :=
  ⟨out.conn, out.replies, out.forwards⟩

theorem routeFriendRequest_progress (c : Cluster) (sid : SessionId) (env : HandlerEnv)
    (request : FriendRequestMsg) (p : Progress FriendSenderReply IncomingFriendRequest) :
    (routeFriendRequest c sid env request.srcUuid request.dstUuid request.message request.nickname
        (some request.srcValue) (some request.dstValue) p).2 =
      ⟨p.conn, p.replies ++ (forwardFriendRequest c sid env request).1,
        p.forwards ++ (forwardFriendRequest c sid env request).2⟩ := by
  unfold routeFriendRequest forwardFriendRequest
  cases hserver : c.redis.checkValue request.dstUuid env.get with
  | none => simp [refuse, reply]
  | some server =>
    cases hinfo : env.userBasicInfo request.srcUuid with
    | throws => simp [BasicInfo.lookUp]
    | notFound => simp [BasicInfo.lookUp, refuse, reply]
    | found card =>
      by_cases hhere : server = (c.session sid).server
      · subst hhere
        cases hsession : c.getSession (c.session sid).server request.dstUuid with
        | none => simp [BasicInfo.lookUp, value, refuse, reply, hsession]
        | some dst => simp [BasicInfo.lookUp, value, forward, reply, hsession]
      · cases hgrpc : env.grpc with
        | true => simp [BasicInfo.lookUp, value, forward, reply, hhere]
        | false => simp [BasicInfo.lookUp, value, forward, refuse, reply, hhere]

/-- What `out` adds to what has been done before. -/
def Progress.followedBy {ρ φ : Type} (p : Progress ρ φ) (out : HandlerOutcome ρ φ) :
    Progress ρ φ :=
  ⟨out.conn, p.replies ++ out.replies, p.forwards ++ out.forwards⟩

/-- A request that has been read is carried out by `k`. -/
def Progress.carryOut {ρ φ α : Type} (p : Progress ρ φ) (error : ErrorMessage → ρ)
    (k : α → DbConn → HandlerOutcome ρ φ) : Reading α → Progress ρ φ
  | .error refusal => p.followedBy (.refused error refusal p.conn)
  | .ok request => p.followedBy (k request p.conn)

theorem Progress.carryOut_none {ρ φ α : Type} (p : Progress ρ φ) (error : ErrorMessage → ρ)
    (k : α → DbConn → HandlerOutcome ρ φ) : p.carryOut error k (throw none) = p := by
  show p.followedBy (.refused error none p.conn) = p
  simp [Progress.followedBy, HandlerOutcome.refused]

/-- A routine that reads one field after the other is followed through by its fields. -/
theorem readOrRefuse_bind_progress {ρ φ α β : Type} {error : ErrorMessage → ρ}
    {k : α → DbConn → HandlerOutcome ρ φ} {x : Reading β} {f : β → Routing ρ φ Unit}
    {g : β → Reading α} {p : Progress ρ φ} (h : ∀ b, (f b p).2 = p.carryOut error k (g b)) :
    ((readOrRefuse error x >>= f) p).2 = p.carryOut error k (x >>= g) := by
  rcases x with (_ | m) | b
  · exact (p.carryOut_none error k).symm
  · show ((readOrRefuse error (.error (some m)) >>= f) p).2 =
      p.followedBy (.refused error (some m) p.conn)
    simp [readOrRefuse, reply, Progress.followedBy, HandlerOutcome.refused]
  · exact h b

theorem createRequest_progress (c : Cluster) (sid : SessionId) (env : HandlerEnv)
    (request : FriendRequestMsg) (hself : request.srcUuid ≠ request.dstUuid)
    (hsrc : Text.readUInt64 request.srcUuid = some request.srcValue)
    (hdst : Text.readUInt64 request.dstUuid = some request.dstValue)
    (p : Progress FriendSenderReply IncomingFriendRequest) :
    (createRequest c sid env request.srcUuid request.dstUuid request.message request.nickname
        p).2 = p.followedBy (storeFriendRequest c sid env request p.conn) := by
  unfold createRequest storeFriendRequest Progress.followedBy
  rw [if_neg hself, hsrc, hdst]
  cases hcall : createFriendRequest request.srcValue request.dstValue request.nickname
      request.message p.conn with
  | mk created conn =>
    rcases created with err | _ | _
    · simp [value, Routine.bind_apply_error (query_apply_error hcall), HandlerOutcome.refused]
    · simp [value, Routine.bind_apply_ok (query_apply_ok hcall), HandlerOutcome.refused, refuse,
        reply]
    · simp [value, Routine.bind_apply_ok (query_apply_ok hcall), routeFriendRequest_progress]

theorem friendRequestCreator_progress (c : Cluster) (sid : SessionId) (env : HandlerEnv)
    (body : Option Json) (conn : DbConn) :
    (friendRequestCreator c sid env body (.start conn)).2 =
      (handlingFriendRequestCreator c sid env body conn).progress := by
  let p : Progress FriendSenderReply IncomingFriendRequest :=
    ⟨conn, (parseJson body).1.map .error, []⟩
  have hhandler : (handlingFriendRequestCreator c sid env body conn).progress =
      p.carryOut .error (storeFriendRequest c sid env) (readFriendRequest (parseJson body).2) := by
    unfold handlingFriendRequestCreator
    cases hread : readFriendRequest (parseJson body).2 with
    | error refusal =>
      simp [hread]
      rfl
    | ok request =>
      simp [hread]
      rfl
  rw [hhandler]
  refine readOrRefuse_bind_progress fun _ => ?_
  refine readOrRefuse_bind_progress fun srcUuid => ?_
  refine readOrRefuse_bind_progress fun dstUuid => ?_
  refine readOrRefuse_bind_progress fun message => ?_
  refine readOrRefuse_bind_progress fun nickname => ?_
  by_cases hself : srcUuid = dstUuid
  · rw [createRequest, if_pos hself, if_pos hself]
    rfl
  · rw [if_neg hself]
    cases hsrc : Text.readUInt64 srcUuid with
    | none =>
      rw [Progress.carryOut_none]
      simp [createRequest, hself, hsrc]
    | some srcValue =>
      cases hdst : Text.readUInt64 dstUuid with
      | none =>
        rw [Progress.carryOut_none]
        simp [createRequest, hself, hsrc, hdst]
      | some dstValue =>
        exact createRequest_progress c sid env
          ⟨srcUuid, dstUuid, message, nickname, srcValue, dstValue⟩ hself hsrc hdst p

theorem routeNewFriend_progress (c : Cluster) (sid : SessionId) (env : HandlerEnv)
    (request : FriendConfirmMsg) (threadId : String) (messageArr : List FriendingConfirmInfo)
    (p : Progress FriendConfirmReply FriendConfirmForward) :
    (routeNewFriend c sid env request threadId messageArr p).2 =
      { p with
        forwards := p.forwards ++ (notifyRequester c sid env request threadId messageArr).1 } := by
  unfold routeNewFriend notifyRequester
  cases hserver : c.redis.checkValue request.srcUuid env.get with
  | none => simp
  | some server =>
    by_cases hhere : server = (c.session sid).server
    · subst hhere
      cases hinfo : env.userBasicInfo request.dstUuid with
      | throws => simp [BasicInfo.lookUp]
      | notFound =>
        cases hsession : c.getSession (c.session sid).server request.srcUuid with
        | none => simp [BasicInfo.lookUp, value, hsession]
        | some session => simp [BasicInfo.lookUp, value, forward, hsession]
      | found card =>
        cases hsession : c.getSession (c.session sid).server request.srcUuid with
        | none => simp [BasicInfo.lookUp, value, hsession]
        | some session => simp [BasicInfo.lookUp, value, forward, hsession]
    · cases hinfo : env.userBasicInfo request.dstUuid with
      | throws => simp [BasicInfo.lookUp]
      | notFound => simp [BasicInfo.lookUp, value, hhere]
      | found card => simp [BasicInfo.lookUp, value, forward, hhere]

theorem confirmRequest_progress (sql : MySql) (c : Cluster) (sid : SessionId) (env : HandlerEnv)
    (request : FriendConfirmMsg) (p : Progress FriendConfirmReply FriendConfirmForward) :
    (confirmRequest sql c sid env request p).2 =
      p.followedBy (storeFriendConfirm sql c sid env request p.conn) := by
  unfold confirmRequest storeFriendConfirm Progress.followedBy
  cases hcall : execFriendConfirmationTransaction sql request.requesterUuid
      request.confirmerUuid p.conn with
  | mk status conn =>
    rcases status with err | _ | infos
    · simp [Routine.bind_apply_error (query_apply_error hcall), HandlerOutcome.refused]
    · simp [Routine.bind_apply_ok (query_apply_ok hcall), reply, refuse]
    · rw [Routine.bind_apply_ok (query_apply_ok hcall)]
      unfold announceFriendship
      cases hinfo : env.userBasicInfo request.srcUuid with
      | throws => simp [BasicInfo.lookUp, reply]
      | notFound => simp [BasicInfo.lookUp, reply, refuse]
      | found card => simp [BasicInfo.lookUp, reply, value, routeNewFriend_progress]

theorem friendRequestConfirm_progress (sql : MySql) (c : Cluster) (sid : SessionId)
    (env : HandlerEnv) (body : Option Json) (conn : DbConn) :
    (friendRequestConfirm sql c sid env body (.start conn)).2 =
      (handlingFriendRequestConfirm sql c sid env body conn).progress := by
  let p : Progress FriendConfirmReply FriendConfirmForward :=
    ⟨conn, (parseJson body).1.map .error, []⟩
  have hhandler : (handlingFriendRequestConfirm sql c sid env body conn).progress =
      p.carryOut .error (storeFriendConfirm sql c sid env)
        (readFriendConfirm (parseJson body).2 >>= pure) := by
    rw [bind_pure]
    unfold handlingFriendRequestConfirm
    cases hread : readFriendConfirm (parseJson body).2 with
    | error refusal =>
      simp [hread]
      rfl
    | ok request =>
      simp [hread]
      rfl
  rw [hhandler]
  exact readOrRefuse_bind_progress fun request =>
    confirmRequest_progress sql c sid env request p

/-- What a handler of texts does; it has no undefined behaviour. -/
def TextChatOutcome.handlerOutcome (out : TextChatOutcome) :
    HandlerOutcome TextChatReply IncomingTexts :=
  ⟨out.conn, out.replies, out.forwards, false⟩

theorem routeTexts_progress (c : Cluster) (sid : SessionId) (env : HandlerEnv)
    (request : TextChatMsg) (updatedMsg : List TextMsgInfo)
    (p : Progress TextChatReply IncomingTexts) :
    (routeTexts c sid env request updatedMsg p).2 =
      ⟨p.conn, p.replies ++ (deliverTextChatMsg c sid env.get request updatedMsg).1,
        p.forwards ++ (deliverTextChatMsg c sid env.get request updatedMsg).2⟩ := by
  unfold routeTexts deliverTextChatMsg
  cases hserver : c.redis.checkValue request.receiver env.get with
  | none => simp [refuse, reply]
  | some server =>
    by_cases hhere : server = (c.session sid).server
    · subst hhere
      cases hsession : c.getSession (c.session sid).server request.receiver with
      | none => simp [value, refuse, reply, hsession]
      | some receiver => simp [value, forward, reply, hsession]
    · simp [value, forward, reply, hhere]

theorem storeTexts_progress (sql : MySql) (c : Cluster) (sid : SessionId) (env : HandlerEnv)
    (request : TextChatMsg) (p : Progress TextChatReply IncomingTexts) :
    (storeTexts sql c sid env request p).2 =
      p.followedBy (storeTextChatMsg sql c sid env.get request p.conn).handlerOutcome := by
  unfold storeTexts storeTextChatMsg Progress.followedBy
  cases hcall : createModifyChattingHistoryRecords sql request.infos true p.conn with
  | mk records conn =>
    rcases records with ⟨err | _ | _, infos⟩
    · have hquery : queryRecords sql request.infos p =
          (.error .threw, { p with conn := conn }) := by
        rw [queryRecords, hcall]
      simp [Routine.bind_apply_error hquery, TextChatOutcome.handlerOutcome]
    · have hquery : queryRecords sql request.infos p =
          (.ok (false, infos), { p with conn := conn }) := by
        rw [queryRecords, hcall]
      simp [Routine.bind_apply_ok hquery, TextChatOutcome.handlerOutcome, refuse, reply]
    · have hquery : queryRecords sql request.infos p =
          (.ok (true, infos), { p with conn := conn }) := by
        rw [queryRecords, hcall]
      simp [Routine.bind_apply_ok hquery, TextChatOutcome.handlerOutcome, routeTexts_progress]

theorem textChatMsg_progress (sql : MySql) (c : Cluster) (sid : SessionId) (env : HandlerEnv)
    (body : Option Json) (conn : DbConn) :
    (textChatMsg sql c sid env body (.start conn)).2 =
      (handlingTextChatMsg sql c sid env.get body conn).handlerOutcome.progress := by
  let p : Progress TextChatReply IncomingTexts := ⟨conn, (parseJson body).1.map .error, []⟩
  have hhandler : (handlingTextChatMsg sql c sid env.get body conn).handlerOutcome.progress =
      p.carryOut .error
        (fun request conn => (storeTextChatMsg sql c sid env.get request conn).handlerOutcome)
        (readTextChatMsg (parseJson body).2 >>= pure) := by
    rw [bind_pure]
    unfold handlingTextChatMsg
    cases hread : readTextChatMsg (parseJson body).2 with
    | error refusal =>
      simp [hread, Progress.carryOut, Progress.followedBy, HandlerOutcome.progress,
        TextChatOutcome.handlerOutcome, HandlerOutcome.refused, p]
    | ok request =>
      simp [hread]
      rfl
  rw [hhandler]
  exact readOrRefuse_bind_progress fun request => storeTexts_progress sql c sid env request p

theorem notifyRequester_undefined_iff (c : Cluster) (sid : SessionId) (env : HandlerEnv)
    (request : FriendConfirmMsg) (threadId : String) (messageArr : List FriendingConfirmInfo) :
    (notifyRequester c sid env request threadId messageArr).2 = true ↔
      env.userBasicInfo request.dstUuid ≠ .throws ∧
        c.redis.checkValue request.srcUuid env.get = some (c.session sid).server ∧
        c.getSession (c.session sid).server request.srcUuid = none := by
  unfold notifyRequester
  cases hserver : c.redis.checkValue request.srcUuid env.get with
  | none => simp
  | some server =>
    by_cases hhere : server = (c.session sid).server
    · subst hhere
      cases hsession : c.getSession (c.session sid).server request.srcUuid with
      | none => cases hinfo : env.userBasicInfo request.dstUuid <;> simp [hsession]
      | some src => cases hinfo : env.userBasicInfo request.dstUuid <;> simp [hsession]
    · cases hinfo : env.userBasicInfo request.dstUuid <;> simp [hhere]

/-- A confirmation is undefined exactly if an empty optional is read. -/
theorem undefined_iff_staleRoute (sql : MySql) (c : Cluster) (sid : SessionId) (env : HandlerEnv)
    (body : Option Json) (conn : DbConn) :
    (handlingFriendRequestConfirm sql c sid env body conn).undefined = true ↔
      StaleRoute sql c sid env body conn := by
  unfold StaleRoute handlingFriendRequestConfirm
  cases hread : readFriendConfirm (parseJson body).2 with
  | error refusal => simp [hread, HandlerOutcome.after, HandlerOutcome.refused]
  | ok request =>
    simp only [hread, HandlerOutcome.after, storeFriendConfirm]
    rcases hcall : execFriendConfirmationTransaction sql request.requesterUuid
        request.confirmerUuid conn with ⟨err | _ | infos, conn'⟩
    · simp [hcall, HandlerOutcome.refused]
    · simp [hcall]
    · cases hinfo : env.userBasicInfo request.srcUuid with
      | throws => simp [hinfo, announceFriendship]
      | notFound => simp [hinfo, announceFriendship]
      | found card =>
        simp [hcall, hinfo, announceFriendship, notifyRequester_undefined_iff]

/-! ## Every request that is routed -/

/-- The handlers that route to another user. -/
inductive Router
  | friendRequestCreator
  | friendRequestConfirm
  | textChatMsg
  deriving DecidableEq, Repr

/-- A handler dereferences an empty optional. -/
def Router.DereferencesEmpty (sql : MySql) (c : Cluster) (sid : SessionId) (env : HandlerEnv)
    (body : Option Json) (conn : DbConn) : Router → Prop
  | .friendRequestCreator =>
    (ChattingServer.friendRequestCreator c sid env body (.start conn)).1 = .error .emptyOptional
  | .friendRequestConfirm =>
    (ChattingServer.friendRequestConfirm sql c sid env body (.start conn)).1 =
      .error .emptyOptional
  | .textChatMsg =>
    (ChattingServer.textChatMsg sql c sid env body (.start conn)).1 = .error .emptyOptional

theorem not_dereferencesEmpty_iff (sql : MySql) (c : Cluster) (sid : SessionId) (env : HandlerEnv)
    (body : Option Json) (conn : DbConn) (router : Router) :
    ¬router.DereferencesEmpty sql c sid env body conn ↔
      ¬(router = .friendRequestConfirm ∧ StaleRoute sql c sid env body conn) := by
  cases router with
  | friendRequestCreator =>
    have hnever := never_friendRequestCreator c sid env body (.start conn)
    simp [Router.DereferencesEmpty, hnever]
  | friendRequestConfirm =>
    simp [Router.DereferencesEmpty, friendRequestConfirm_empty_iff]
  | textChatMsg =>
    have hnever := never_textChatMsg sql c sid env body (.start conn)
    simp [Router.DereferencesEmpty, hnever]

/-- The confirmer 2 is on the server `im1`, for which the key of the requester 1 was left behind. -/
def leftBehind : Cluster where
  accepted := 1
  session _ := .accepted "im1"
  manager _ := .init
  redis := { server := Function.update (fun _ => none) "1" (some "im1"), session := fun _ => none }

theorem not_forall_not_dereferencesEmpty :
    ¬∀ (router : Router) (sql : MySql) (c : Cluster) (sid : SessionId) (env : HandlerEnv)
      (body : Option Json) (conn : DbConn), ¬router.DereferencesEmpty sql c sid env body conn := by
  intro h
  let card : UserNameCard := ⟨0, "1", "", "a", "b", ""⟩
  let store := addFriendRequest 1 2 "b" "hello" (registered [1, 2])
  let root : Json.Object :=
    [("src_uuid", .string "1"), ("dst_uuid", .string "2"), ("alternative_name", .string "")]
  refine h .friendRequestConfirm (.decimal true) leftBehind 0 ⟨true, fun _ => .found card, true⟩
    (some (.object root)) ⟨store, []⟩ ((friendRequestConfirm_empty_iff ..).mpr ?_)
  let infos : List FriendingConfirmInfo :=
    [⟨"1", "1", "1", "2", "hello"⟩, ⟨"1", "2", "2", "1", confirmMessage⟩]
  have hconfirmed : (execFriendConfirmationTransaction (.decimal true) 1 2 ⟨store, []⟩).1 =
      .ok (some infos) := by decide
  exact ⟨⟨"1", "2", 1, 2⟩, infos, card, by decide, hconfirmed, rfl, by simp, by decide, rfl⟩

end DistributedIM.ChattingServer
