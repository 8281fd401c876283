/-
  Logging in and out: `SyncLogic::handlingLogin` with `updateRedisCache`, the remote kick
  `ForceTerminateLoginedUser`, `handlingLogout`, the purge of a connection and the heartbeat purge.

  What the environment decides is an argument: whether the balance server accepts the token, whether
  a distributed lock is acquired, how the gRPC call ends, which Redis commands of the two labels
  succeed, how reading the profile ends. The handlers are functions here; where the handlers of
  several servers meet, a login goes step by step (`Protocol.SingleLogin`).

  The remote kick looks for the session in the termination zone without moving it there first.

  Left out: the friend lists and the profile in the reply, the connection counter, and the replies
  to a logout.
-/
import DistributedIM.Lib.Text
import DistributedIM.ChattingServer.UserManager

namespace DistributedIM.ChattingServer

/-- How the gRPC call of the remote kick ends. -/
inductive KickOutcome
  /-- the server or a stub is not found, or the call fails before it is executed -/
  | notDelivered
  /-- it is executed, but its status does not come back -/
  | noStatus
  | answered
  deriving DecidableEq, Repr

/-- How `getUserBasicInfo`, `getFriendRequestInfo` and `getAuthFriendsInfo` end. -/
inductive ProfileOutcome
  /-- the user is found, and the lists of friends are read -/
  | found
  /-- `getUserBasicInfo` returns nothing -/
  | notFound
  /-- one of the three throws, and `execute` logs it -/
  | throws
  deriving DecidableEq, Repr

/-- What the environment decides during a login. -/
structure LoginOutcome where
  /-- `userLoginToServer` succeeds -/
  token : Bool
  /-- `updateRedisCache` acquires the lock -/
  lock : Bool
  kick : KickOutcome
  delServer : Bool
  setServer : Bool
  delSession : Bool
  setSession : Bool
  profile : ProfileOutcome
  /-- `removeRedisCache` acquires the lock, should the session be kicked -/
  kickLock : Bool
  deriving DecidableEq, Repr

/-- A request with the fields `uuid` and `token`; the token counts in the outcome only. -/
inductive AccountRequest
  /-- a field is missing -/
  | incomplete
  /-- a field is no text: reading it throws -/
  | illTyped
  | wellFormed (uuid : String)
  deriving DecidableEq, Repr

namespace Cluster

/-! ## Kicks -/

/-- The branch of `updateRedisCache` for a user on this server. -/
def kickHere (c : Cluster) (server uuid : String) : Cluster :=
  match c.getSession server uuid with
  | none => c
  | some old =>
    let oldUuid := (c.session old).uuid
    (c.moveUserToTerminationZone server oldUuid).removeUsrSessionId server oldUuid old

/-- `GrpcDistributedChattingImpl::ForceTerminateLoginedUser`, on the server with the name. -/
def forceTerminateLoginedUser (c : Cluster) (server : String) (kickUuid : Int) : Cluster :=
  match c.getSession server kickUuid.repr with
  | none => c
  | some old => c.removeUsrSessionId server kickUuid.repr old

/-! ## Login -/

/-- `labelCurrentUser` and `labelUserSessionID`; the second runs if the first succeeded. -/
def label (c : Cluster) (sid : SessionId) (uuid : String) (out : LoginOutcome) : Cluster :=
  let current := relabel c.redis.server uuid (c.session sid).server out.delServer out.setServer
  let session :=
    if current.2 then (relabel c.redis.session uuid sid out.delSession out.setSession).1
    else c.redis.session
  { c with redis := { server := current.1, session := session } }

def updateRedisCache (c : Cluster) (sid : SessionId) (uuid : String) (uuidInt : Int)
    (out : LoginOutcome) : Cluster :=
  if out.lock then
    match c.redis.checkCurrentUser uuid with
    | none => c.label sid uuid out
    | some current =>
      if current = (c.session sid).server then (c.kickHere current uuid).label sid uuid out
      else
        match out.kick with
        | .notDelivered => c.modifySession sid fun s => s.reply (.error .loginUnsuccessful)
        | .noStatus =>
          (c.forceTerminateLoginedUser current uuidInt).modifySession sid fun s =>
            s.reply (.error .loginUnsuccessful)
        | .answered => (c.forceTerminateLoginedUser current uuidInt).label sid uuid out
  else c

/-- `setUUID` and `createUserSession` -/
def register (c : Cluster) (sid : SessionId) (uuid : String) : Cluster :=
  (c.modifySession sid fun s => s.setUUID uuid).modifyManager (c.session sid).server fun m =>
    m.createUserSession uuid sid

/-- The end of `handlingLogin`; without a profile the session is kicked again. -/
def answer (c : Cluster) (sid : SessionId) (number : Nat) (out : LoginOutcome) : Cluster :=
  match out.profile with
  | .found => c.modifySession sid fun s => s.reply (.success number)
  | .notFound =>
    (c.modifySession sid fun s => s.reply (.error .loginInfoError)).kickSession sid out.kickLock
  | .throws => c

/-- `handlingLogin` once the token is accepted; the number comes from `string_to_value`. -/
def loginAccepted (c : Cluster) (sid : SessionId) (uuid : String) (number : Nat)
    (out : LoginOutcome) : Cluster :=
  match Text.stoi uuid with
  -- `std::stoi` throws, and `execute` logs it
  | none => c
  | some uuidInt =>
    ((c.updateRedisCache sid uuid uuidInt out).register sid uuid).answer sid number out

def handlingLogin (c : Cluster) (sid : SessionId) (request : AccountRequest) (out : LoginOutcome) :
    Cluster :=
  let fail := c.modifySession sid fun s => s.reply (.error .loginUnsuccessful)
  if request = .incomplete then fail
  else if (c.getSession (c.session sid).server (c.session sid).uuid).isSome then
    -- `check_and_kick_existing_session`
    c.kickSession sid out.kickLock
  else
    match request with
    | .incomplete | .illTyped => c
    | .wellFormed uuid =>
      match Text.readUInt64 uuid with
      | none => fail
      | some number => if out.token then c.loginAccepted sid uuid number out else fail

/-! ## Logout and purges -/

def handlingLogout (c : Cluster) (sid : SessionId) (request : AccountRequest) (token : Bool) :
    Cluster :=
  match request with
  | .incomplete | .illTyped => c
  | .wellFormed uuid =>
    if (Text.readUInt64 uuid).isSome ∧ token then
      let server := (c.session sid).server
      (c.moveUserToTerminationZone server uuid).removeUsrSessionId server uuid sid
    else c

/-- `Session::purgeRemoveConnection`, after the connection has failed (`ended`) or sent a malformed
    frame. -/
def purgeRemoveConnection (c : Cluster) (sid : SessionId) (ended lock : Bool) : Cluster :=
  let c := c.modifySession sid fun s => s.ended ended
  (c.removeRedisCache sid lock).removeUsrSession (c.session sid).server (c.session sid).uuid

/-- `AsyncServer::heartBeatEvent`: the keys whose sessions are found timed out, each with the
    outcome of its lock. -/
def heartBeatEvent (c : Cluster) (server : String) (expired : List (String × Bool)) : Cluster :=
  let examined := expired.foldl
    (fun c e =>
      match c.getSession server e.1 with
      | none => c
      | some i => c.removeRedisCache i e.2)
    c
  let timedOut := expired.filter fun e => (c.getSession server e.1).isSome
  timedOut.foldl
    (fun c e => (c.moveUserToTerminationZone server e.1).removeUsrSession server e.1) examined

/-- `checkDeferredTermination` of a marked session: the final handler closes the socket and erases
    the termination zone's entry under the key it was made for. -/
def checkDeferredTermination (c : Cluster) (sid : SessionId) : Cluster :=
  if (c.session sid).state.isTerminating then
    match (c.session sid).finalSendCompleteHandler with
    | none => c
    | some uuid =>
      (c.modifySession sid fun s => s.terminated).modifyManager (c.session sid).server fun m =>
        m.eraseWaitingSession uuid
  else c

/-! ## Handlers that log nobody in -/

theorem windsDown_kickHere (c : Cluster) (server uuid : String) :
    WindsDown c (c.kickHere server uuid) := by
  unfold kickHere
  split
  · exact .refl c
  · exact (c.windsDown_moveUserToTerminationZone ..).trans (windsDown_removeUsrSessionId ..)

theorem windsDown_forceTerminateLoginedUser (c : Cluster) (server : String) (kickUuid : Int) :
    WindsDown c (c.forceTerminateLoginedUser server kickUuid) := by
  unfold forceTerminateLoginedUser
  split
  · exact .refl c
  · exact c.windsDown_removeUsrSessionId ..

theorem windsDown_updateRedisCache (c : Cluster) (sid : SessionId) (uuid : String) (uuidInt : Int)
    (out : LoginOutcome) : WindsDown c (c.updateRedisCache sid uuid uuidInt out) := by
  unfold updateRedisCache
  split
  · split
    · exact c.windsDown_redis _
    · split
      · exact (windsDown_kickHere ..).trans (windsDown_redis ..)
      · split
        · exact c.windsDown_reply_error ..
        · exact (windsDown_forceTerminateLoginedUser ..).trans (windsDown_reply_error ..)
        · exact (windsDown_forceTerminateLoginedUser ..).trans (windsDown_redis ..)
  · exact .refl c

theorem windsDown_handlingLogout (c : Cluster) (sid : SessionId) (request : AccountRequest)
    (token : Bool) : WindsDown c (c.handlingLogout sid request token) := by
  unfold handlingLogout
  split
  · exact .refl c
  · exact .refl c
  · split
    · exact (c.windsDown_moveUserToTerminationZone ..).trans (windsDown_removeUsrSessionId ..)
    · exact .refl c

theorem windsDown_ended (c : Cluster) (sid : SessionId) (ended : Bool) :
    WindsDown c (c.modifySession sid fun s => s.ended ended) := by
  apply c.windsDown_modifySession sid
  · exact fun _ => rfl
  · exact fun _ => rfl
  · intro s hs
    exact ⟨(Bool.and_eq_true_iff.mp hs.1).1, hs.2⟩
  · exact fun _ _ => Iff.rfl

theorem windsDown_purgeRemoveConnection (c : Cluster) (sid : SessionId) (ended lock : Bool) :
    WindsDown c (c.purgeRemoveConnection sid ended lock) :=
  ((c.windsDown_ended sid ended).trans (windsDown_removeRedisCache ..)).trans
    (windsDown_removeUsrSession ..)

theorem windsDown_heartBeatEvent (c : Cluster) (server : String)
    (expired : List (String × Bool)) : WindsDown c (c.heartBeatEvent server expired) := by
  unfold heartBeatEvent
  refine (WindsDown.foldl ?_ c expired).trans (WindsDown.foldl ?_ _ _)
  · intro c e
    split
    · exact .refl c
    · exact c.windsDown_removeRedisCache ..
  · intro c e
    exact (c.windsDown_moveUserToTerminationZone ..).trans (windsDown_removeUsrSession ..)

theorem windsDown_checkDeferredTermination (c : Cluster) (sid : SessionId) :
    WindsDown c (c.checkDeferredTermination sid) := by
  unfold checkDeferredTermination
  split
  · split
    · exact .refl c
    · have hend : WindsDown c (c.modifySession sid fun s => s.terminated) :=
        c.windsDown_modifySession sid (fun _ => rfl) (fun _ => rfl)
          (fun s hs => absurd hs s.not_live_terminated) fun _ _ => Iff.rfl
      exact hend.trans (windsDown_modifyManager _ _ fun _ _ _ hi => hi)
  · exact .refl c

/-! ## Registered sessions -/

/-- Who is registered has that key as its uuid, and belongs to that server. -/
def Registered (c : Cluster) : Prop :=
  ∀ server uuid i, c.getSession server uuid = some i →
    (c.session i).uuid = uuid ∧ (c.session i).server = server ∧ i < c.accepted

theorem Registered.windsDown {c c' : Cluster} (h : Registered c) (hdown : WindsDown c c') :
    Registered c' := by
  intro server uuid i hi
  have hreg := h server uuid i (hdown.registered server uuid i hi)
  rw [hdown.uuid, hdown.server, hdown.accepted]
  exact hreg

/-- A session whose last uuid is nobody's key is registered nowhere. -/
theorem Registered.ne_of_self {c : Cluster} (h : Registered c) {sid : SessionId}
    (hself : c.getSession (c.session sid).server (c.session sid).uuid = none)
    {server key : String} : c.getSession server key ≠ some sid := by
  intro hsid
  obtain ⟨huuid, hserver, -⟩ := h server key sid hsid
  rw [huuid, hserver, hsid] at hself
  cases hself

theorem session_register (c : Cluster) (sid : SessionId) (uuid : String) (i : SessionId) :
    (c.register sid uuid).session i =
      if i = sid then (c.session i).setUUID uuid else c.session i :=
  c.session_modifySession sid (fun s => s.setUUID uuid) i

/-- The registration adds nobody but the session itself. -/
theorem getSession_register_eq_some {c : Cluster} {sid : SessionId} {uuid server key : String}
    {i : SessionId} (h : (c.register sid uuid).getSession server key = some i) :
    c.getSession server key = some i ∨
      server = (c.session sid).server ∧ key = uuid ∧ i = sid := by
  by_cases hserver : server = (c.session sid).server
  · subst hserver
    have hcreate : (((c.manager (c.session sid).server).createUserSession uuid sid).uuid2Session
        key) = some i := by
      simpa [register, modifyManager, getSession, UserManager.getSession, modifySession] using h
    rcases UserManager.createUserSession_eq_some hcreate with hold | hnew
    · exact Or.inl hold
    · exact Or.inr ⟨rfl, hnew⟩
  · left
    simpa [register, modifyManager, getSession, UserManager.getSession, modifySession, hserver]
      using h

theorem registered_register {c : Cluster} (hreg : Registered c) {sid : SessionId}
    (haccepted : sid < c.accepted) (uuid : String)
    (hnot : ∀ server key, c.getSession server key ≠ some sid) :
    Registered (c.register sid uuid) := by
  intro server key i hi
  rw [session_register]
  rcases getSession_register_eq_some hi with hold | ⟨rfl, rfl, rfl⟩
  · rw [if_neg]
    · exact hreg server key i hold
    · rintro rfl
      exact hnot server key hold
  · rw [if_pos rfl]
    exact ⟨rfl, rfl, haccepted⟩

theorem live_register (c : Cluster) (sid : SessionId) (uuid : String) (i : SessionId) :
    ((c.register sid uuid).session i).Live ↔ (c.session i).Live := by
  rw [session_register]
  split <;> rfl

theorem server_register (c : Cluster) (sid : SessionId) (uuid : String) (i : SessionId) :
    ((c.register sid uuid).session i).server = (c.session i).server := by
  rw [session_register]
  split <;> rfl

theorem told_register (c : Cluster) (sid : SessionId) (uuid : String) (i : SessionId)
    (user : Nat) : ((c.register sid uuid).session i).Told user ↔ (c.session i).Told user := by
  rw [session_register]
  split <;> rfl

/-- The answer is a success, or it logs nobody in. -/
theorem answer_cases (c : Cluster) (sid : SessionId) (number : Nat) (out : LoginOutcome) :
    (out.profile = .found ∧
      c.answer sid number out = c.modifySession sid fun s => s.reply (.success number)) ∨
    (out.profile ≠ .found ∧ WindsDown c (c.answer sid number out)) := by
  unfold answer
  cases out.profile with
  | found => exact Or.inl ⟨rfl, rfl⟩
  | notFound =>
    exact Or.inr ⟨by simp, (c.windsDown_reply_error ..).trans (windsDown_kickSession ..)⟩
  | throws => exact Or.inr ⟨by simp, .refl c⟩

theorem registered_reply {c : Cluster} (hreg : Registered c) (sid : SessionId) (r : LoginReply) :
    Registered (c.modifySession sid fun s => s.reply r) := by
  intro server uuid i hi
  rw [session_modifySession]
  split
  · exact hreg server uuid i hi
  · exact hreg server uuid i hi

end Cluster

end DistributedIM.ChattingServer
