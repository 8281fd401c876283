/-
  Who is logged in where: the sessions of a cluster of chatting servers, the two maps of each
  server's `UserManager`, and the keys `uuid_<uuid>` and `session_<uuid>` of the Redis all servers
  share.

  A session id is a random UUID in the source; here it is the number of the accepted connection. A
  map key is the uuid text as the client sent it, so two texts of one number are two keys.

  Each operation is one step here. Whether a distributed lock was acquired is an argument of the
  operations that ask for one.
-/
import Mathlib.Logic.Function.Basic
import DistributedIM.Lib.Exclusive
import DistributedIM.ChattingServer.Session

namespace DistributedIM.ChattingServer

abbrev SessionId := Nat

/-! ## Sessions -/

/-- The statuses `SERVICE_LOGINRESPONSE` reports errors with. -/
inductive LoginStatus
  | loginUnsuccessful
  | loginInfoError
  deriving DecidableEq, Repr

/-- `SERVICE_LOGINRESPONSE`; the number is the one the uuid text converts to. -/
inductive LoginReply
  | error (status : LoginStatus)
  | success (user : Nat)
  deriving DecidableEq, Repr

/-- What the login logic knows of a `Session`. -/
structure ChatSession where
  /-- the server that accepted the connection -/
  server : String
  /-- `s_uuid` -/
  uuid : String
  state : SessionState
  /-- the key the final handler erases from the termination zone -/
  finalSendCompleteHandler : Option String
  /-- the connection has not ended -/
  isOpen : Bool
  loginReplies : List LoginReply
  deriving DecidableEq, Repr

namespace ChatSession

/-- A connection that has just been accepted. -/
def accepted (server : String) : ChatSession where
  server := server
  uuid := ""
  state := .alive
  finalSendCompleteHandler := none
  isOpen := true
  loginReplies := []

/-- Open, and neither waiting for its termination nor terminated. -/
def Live (s : ChatSession) : Prop :=
  s.isOpen = true ∧ s.state = .alive

instance (s : ChatSession) : Decidable s.Live :=
  inferInstanceAs (Decidable (_ ∧ _))

/-- The client has been told that `user` is logged in. -/
def Told (s : ChatSession) (user : Nat) : Prop :=
  .success user ∈ s.loginReplies

instance (s : ChatSession) (user : Nat) : Decidable (s.Told user) :=
  inferInstanceAs (Decidable (_ ∈ _))

def setUUID (s : ChatSession) (uuid : String) : ChatSession :=
  { s with uuid := uuid }

/-- `markAsDeferredTerminated` with the handler `removeUsrSession` gives it. -/
def markAsDeferredTerminated (s : ChatSession) (uuid : String) : ChatSession :=
  { s with state := .logoutPending, finalSendCompleteHandler := some uuid }

def reply (s : ChatSession) (r : LoginReply) : ChatSession :=
  { s with loginReplies := s.loginReplies ++ [r] }

/-- The connection ends, or (`false`) goes on. -/
def ended (s : ChatSession) (ended : Bool) : ChatSession :=
  { s with isOpen := s.isOpen && !ended }

/-- The part of `checkDeferredTermination` before the handler erases its key. -/
def terminated (s : ChatSession) : ChatSession :=
  { s with state := .terminated, finalSendCompleteHandler := none, isOpen := false }

theorem not_live_markAsDeferredTerminated (s : ChatSession) (uuid : String) :
    ¬(s.markAsDeferredTerminated uuid).Live := by
  intro h
  cases h.2

theorem not_live_terminated (s : ChatSession) : ¬s.terminated.Live := by
  intro h
  cases h.1

theorem told_reply_error (s : ChatSession) (status : LoginStatus) (user : Nat) :
    (s.reply (.error status)).Told user ↔ s.Told user := by
  simp only [Told, reply, List.mem_append, List.mem_singleton, reduceCtorEq, or_false]

theorem told_reply_success (s : ChatSession) (user user' : Nat) :
    (s.reply (.success user)).Told user' ↔ s.Told user' ∨ user' = user := by
  simp only [Told, reply, List.mem_append, List.mem_singleton, LoginReply.success.injEq]

end ChatSession

/-! ## The maps of one server -/

structure UserManager where
  uuid2Session : String → Option SessionId
  waitingToBeClosed : String → Option SessionId

namespace UserManager

def init : UserManager where
  uuid2Session _ := none
  waitingToBeClosed _ := none

def getSession (m : UserManager) (uuid : String) : Option SessionId :=
  m.uuid2Session uuid

/-- `insert` does not replace an entry. -/
def createUserSession (m : UserManager) (uuid : String) (sid : SessionId) : UserManager :=
  if (m.uuid2Session uuid).isSome then m
  else { m with uuid2Session := Function.update m.uuid2Session uuid (some sid) }

def moveUserToTerminationZone (m : UserManager) (uuid : String) : UserManager :=
  match m.uuid2Session uuid with
  | none => m
  | some sid =>
    { uuid2Session := Function.update m.uuid2Session uuid none
      waitingToBeClosed := Function.update m.waitingToBeClosed uuid (some sid) }

def eraseWaitingSession (m : UserManager) (uuid : String) : UserManager :=
  { m with waitingToBeClosed := Function.update m.waitingToBeClosed uuid none }

theorem createUserSession_eq_some {m : UserManager} {uuid key : String} {sid i : SessionId}
    (h : (m.createUserSession uuid sid).uuid2Session key = some i) :
    m.uuid2Session key = some i ∨ key = uuid ∧ i = sid := by
  unfold createUserSession at h
  split at h
  · exact Or.inl h
  · dsimp only at h
    rw [Function.update_apply] at h
    split at h
    · rename_i hkey
      exact Or.inr ⟨hkey, (Option.some.inj h).symm⟩
    · exact Or.inl h

theorem getSession_createUserSession (m : UserManager) (uuid : String) (sid : SessionId) :
    (m.createUserSession uuid sid).getSession uuid = some ((m.getSession uuid).getD sid) := by
  unfold createUserSession getSession
  split
  · rename_i hsome
    obtain ⟨i, hi⟩ := Option.isSome_iff_exists.mp hsome
    rw [hi, Option.getD_some]
  · rename_i hnone
    rw [Option.not_isSome_iff_eq_none.mp hnone, Option.getD_none]
    exact Function.update_self ..

theorem waiting_createUserSession (m : UserManager) (uuid : String) (sid : SessionId) :
    (m.createUserSession uuid sid).waitingToBeClosed = m.waitingToBeClosed := by
  unfold createUserSession
  split <;> rfl

theorem uuid2Session_moveUserToTerminationZone (m : UserManager) (uuid key : String) :
    (m.moveUserToTerminationZone uuid).uuid2Session key =
      if key = uuid then none else m.uuid2Session key := by
  unfold moveUserToTerminationZone
  split
  · rename_i hnone
    split
    · rename_i hkey
      rw [hkey, hnone]
    · rfl
  · exact Function.update_apply ..

theorem waiting_moveUserToTerminationZone (m : UserManager) (uuid key : String) :
    (m.moveUserToTerminationZone uuid).waitingToBeClosed key =
      if key = uuid ∧ (m.uuid2Session uuid).isSome then m.uuid2Session uuid
      else m.waitingToBeClosed key := by
  unfold moveUserToTerminationZone
  split
  · rename_i hnone
    simp [hnone]
  · rename_i sid hsid
    by_cases hkey : key = uuid
    · simp [hkey, hsid]
    · simp [hkey]

theorem moveUserToTerminationZone_eq_some {m : UserManager} {uuid key : String} {i : SessionId}
    (h : (m.moveUserToTerminationZone uuid).uuid2Session key = some i) :
    m.uuid2Session key = some i := by
  unfold moveUserToTerminationZone at h
  split at h
  · exact h
  · dsimp only at h
    rw [Function.update_apply] at h
    split at h
    · cases h
    · exact h

theorem waitingToBeClosed_moveUserToTerminationZone {m : UserManager} {uuid : String}
    {i : SessionId} (h : m.uuid2Session uuid = some i) :
    (m.moveUserToTerminationZone uuid).waitingToBeClosed uuid = some i := by
  simp only [moveUserToTerminationZone, h]
  exact Function.update_self ..

end UserManager

/-! ## Redis -/

/-- The routing keys: `uuid_<uuid>` holds the name of a server, `session_<uuid>` a session id. -/
structure Redis where
  server : String → Option String
  session : String → Option SessionId

/-- `delPair(key) && setValue(key, value)`; each command may fail. -/
def relabel {α : Type} (keys : String → Option α) (key : String) (value : α) (del set : Bool) :
    (String → Option α) × Bool :=
  if del then
    if set then (Function.update keys key (some value), true)
    else (Function.update keys key none, false)
  else (keys, false)

namespace Redis

def init : Redis where
  server _ := none
  session _ := none

def checkCurrentUser (r : Redis) (uuid : String) : Option String :=
  r.server uuid

/-- The body of `Session::removeRedisCache` under the lock. -/
def removeRedisCache (r : Redis) (uuid : String) (sid : SessionId) : Redis :=
  if (r.server uuid).isSome ∧ r.session uuid = some sid then
    { server := Function.update r.server uuid none
      session := Function.update r.session uuid none }
  else r

end Redis

/-! ## The cluster -/

structure Cluster where
  /-- how many connections have been accepted -/
  accepted : Nat
  session : SessionId → ChatSession
  /-- the `UserManager` of the server with a name -/
  manager : String → UserManager
  redis : Redis

namespace Cluster

def init : Cluster where
  accepted := 0
  session _ := { ChatSession.accepted "" with isOpen := false }
  manager _ := .init
  redis := .init

def modifySession (c : Cluster) (sid : SessionId) (f : ChatSession → ChatSession) : Cluster :=
  { c with session := Function.update c.session sid (f (c.session sid)) }

def modifyManager (c : Cluster) (server : String) (f : UserManager → UserManager) : Cluster :=
  { c with manager := Function.update c.manager server (f (c.manager server)) }

/-- The session is live, and its client has been told that `user` is logged in. -/
def Holds (c : Cluster) (sid : SessionId) (user : Nat) : Prop :=
  (c.session sid).Live ∧ (c.session sid).Told user

instance (c : Cluster) (sid : SessionId) (user : Nat) : Decidable (c.Holds sid user) :=
  inferInstanceAs (Decidable (_ ∧ _))

def getSession (c : Cluster) (server uuid : String) : Option SessionId :=
  (c.manager server).getSession uuid

def moveUserToTerminationZone (c : Cluster) (server uuid : String) : Cluster :=
  c.modifyManager server fun m => m.moveUserToTerminationZone uuid

/-- `removeUsrSession(uuid)` -/
def removeUsrSession (c : Cluster) (server uuid : String) : Cluster :=
  match (c.manager server).waitingToBeClosed uuid with
  | none => c
  | some i => c.modifySession i fun s => s.markAsDeferredTerminated uuid

/-- `removeUsrSession(uuid, session_id)` -/
def removeUsrSessionId (c : Cluster) (server uuid : String) (sid : SessionId) : Cluster :=
  match (c.manager server).waitingToBeClosed uuid with
  | none => c
  | some i => if i = sid then c.modifySession i fun s => s.markAsDeferredTerminated uuid else c

/-- `Session::removeRedisCache`, for the uuid and the id of a session. -/
def removeRedisCache (c : Cluster) (sid : SessionId) (lock : Bool) : Cluster :=
  if lock then { c with redis := c.redis.removeRedisCache (c.session sid).uuid sid } else c

/-- `SyncLogic::kick_session` -/
def kickSession (c : Cluster) (sid : SessionId) (lock : Bool) : Cluster :=
  let server := (c.session sid).server
  let uuid := (c.session sid).uuid
  ((c.removeRedisCache sid lock).moveUserToTerminationZone server uuid).removeUsrSession server uuid

/-! ## The maps after an operation -/

theorem getSession_eraseWaitingSession (c : Cluster) (server key server' key' : String) :
    (c.modifyManager server fun m => m.eraseWaitingSession key).getSession server' key' =
      c.getSession server' key' := by
  by_cases hserver : server' = server
  · subst hserver
    simp [getSession, UserManager.getSession, modifyManager, UserManager.eraseWaitingSession]
  · simp [getSession, modifyManager, hserver]

theorem waiting_eraseWaitingSession (c : Cluster) (server key server' key' : String) :
    ((c.modifyManager server fun m => m.eraseWaitingSession key).manager
        server').waitingToBeClosed key' =
      if server' = server ∧ key' = key then none
      else (c.manager server').waitingToBeClosed key' := by
  by_cases hserver : server' = server
  · subst hserver
    by_cases hkey : key' = key
    · simp [modifyManager, UserManager.eraseWaitingSession, hkey]
    · simp [modifyManager, UserManager.eraseWaitingSession, hkey]
  · simp [modifyManager, hserver]

theorem getSession_moveUserToTerminationZone (c : Cluster) (server uuid server' key : String) :
    (c.moveUserToTerminationZone server uuid).getSession server' key =
      if server' = server ∧ key = uuid then none else c.getSession server' key := by
  unfold moveUserToTerminationZone getSession UserManager.getSession modifyManager
  by_cases hserver : server' = server
  · subst hserver
    simp [UserManager.uuid2Session_moveUserToTerminationZone]
  · simp [hserver]

theorem waiting_moveUserToTerminationZone (c : Cluster) (server uuid server' key : String) :
    ((c.moveUserToTerminationZone server uuid).manager server').waitingToBeClosed key =
      if server' = server ∧ key = uuid ∧ (c.getSession server uuid).isSome then
        c.getSession server uuid
      else (c.manager server').waitingToBeClosed key := by
  unfold moveUserToTerminationZone getSession UserManager.getSession modifyManager
  by_cases hserver : server' = server
  · subst hserver
    simp [UserManager.waiting_moveUserToTerminationZone]
  · simp [hserver]

/-! ## Operations that log nobody in -/

/-- Nobody is logged in by the way from `c` to `c'`: some sessions end or are about to, and some
    registrations are taken back. -/
structure WindsDown (c c' : Cluster) : Prop where
  accepted : c'.accepted = c.accepted
  server : ∀ i, (c'.session i).server = (c.session i).server
  uuid : ∀ i, (c'.session i).uuid = (c.session i).uuid
  live : ∀ i, (c'.session i).Live → (c.session i).Live
  told : ∀ i user, (c'.session i).Told user ↔ (c.session i).Told user
  registered : ∀ server uuid i, (c'.manager server).uuid2Session uuid = some i →
    (c.manager server).uuid2Session uuid = some i

namespace WindsDown

theorem refl (c : Cluster) : WindsDown c c where
  accepted := rfl
  server _ := rfl
  uuid _ := rfl
  live _ h := h
  told _ _ := Iff.rfl
  registered _ _ _ h := h

theorem trans {c c' c'' : Cluster} (h : WindsDown c c') (h' : WindsDown c' c'') :
    WindsDown c c'' where
  accepted := h'.accepted.trans h.accepted
  server i := (h'.server i).trans (h.server i)
  uuid i := (h'.uuid i).trans (h.uuid i)
  live i hi := h.live i (h'.live i hi)
  told i user := (h'.told i user).trans (h.told i user)
  registered server uuid i hi := h.registered server uuid i (h'.registered server uuid i hi)

theorem foldl {α : Type} {f : Cluster → α → Cluster} (hf : ∀ c a, WindsDown c (f c a))
    (c : Cluster) (as : List α) : WindsDown c (as.foldl f c) := by
  induction as generalizing c with
  | nil => exact refl c
  | cons a as ih => exact (hf c a).trans (ih (f c a))

end WindsDown

theorem windsDown_redis (c : Cluster) (r : Redis) : WindsDown c { c with redis := r } where
  accepted := rfl
  server _ := rfl
  uuid _ := rfl
  live _ h := h
  told _ _ := Iff.rfl
  registered _ _ _ h := h

theorem windsDown_modifyManager (c : Cluster) (server : String) {f : UserManager → UserManager}
    (hf : ∀ m uuid i, (f m).uuid2Session uuid = some i → m.uuid2Session uuid = some i) :
    WindsDown c (c.modifyManager server f) where
  accepted := rfl
  server _ := rfl
  uuid _ := rfl
  live _ h := h
  told _ _ := Iff.rfl
  registered server' uuid i h := by
    by_cases hserver : server' = server
    · subst hserver
      apply hf
      simpa [modifyManager] using h
    · simpa [modifyManager, hserver] using h

theorem session_modifySession (c : Cluster) (sid : SessionId) (f : ChatSession → ChatSession)
    (i : SessionId) :
    (c.modifySession sid f).session i = if i = sid then f (c.session i) else c.session i := by
  show Function.update c.session sid (f (c.session sid)) i = _
  rw [Function.update_apply]
  split
  · rename_i hi
    rw [hi]
  · rfl

theorem windsDown_modifySession (c : Cluster) (sid : SessionId) {f : ChatSession → ChatSession}
    (hserver : ∀ s, (f s).server = s.server) (huuid : ∀ s, (f s).uuid = s.uuid)
    (hlive : ∀ s, (f s).Live → s.Live) (htold : ∀ s user, (f s).Told user ↔ s.Told user) :
    WindsDown c (c.modifySession sid f) := by
  constructor
  case accepted => rfl
  case server =>
    intro i
    rw [session_modifySession]
    split
    · exact hserver _
    · rfl
  case uuid =>
    intro i
    rw [session_modifySession]
    split
    · exact huuid _
    · rfl
  case live =>
    intro i
    rw [session_modifySession]
    split
    · exact hlive _
    · exact id
  case told =>
    intro i user
    rw [session_modifySession]
    split
    · exact htold _ user
    · exact Iff.rfl
  case registered => exact fun _ _ _ h => h

theorem windsDown_moveUserToTerminationZone (c : Cluster) (server uuid : String) :
    WindsDown c (c.moveUserToTerminationZone server uuid) :=
  c.windsDown_modifyManager server fun _ _ _ h => UserManager.moveUserToTerminationZone_eq_some h

theorem windsDown_markAsDeferredTerminated (c : Cluster) (sid : SessionId) (uuid : String) :
    WindsDown c (c.modifySession sid fun s => s.markAsDeferredTerminated uuid) :=
  c.windsDown_modifySession sid (fun _ => rfl) (fun _ => rfl)
    (fun s h => absurd h (s.not_live_markAsDeferredTerminated uuid)) fun _ _ => Iff.rfl

theorem windsDown_removeUsrSession (c : Cluster) (server uuid : String) :
    WindsDown c (c.removeUsrSession server uuid) := by
  unfold removeUsrSession
  split
  · exact .refl c
  · exact c.windsDown_markAsDeferredTerminated _ uuid

theorem windsDown_removeUsrSessionId (c : Cluster) (server uuid : String) (sid : SessionId) :
    WindsDown c (c.removeUsrSessionId server uuid sid) := by
  unfold removeUsrSessionId
  split
  · exact .refl c
  · split
    · exact c.windsDown_markAsDeferredTerminated _ uuid
    · exact .refl c

theorem windsDown_removeRedisCache (c : Cluster) (sid : SessionId) (lock : Bool) :
    WindsDown c (c.removeRedisCache sid lock) := by
  unfold removeRedisCache
  split
  · exact c.windsDown_redis _
  · exact .refl c

theorem windsDown_kickSession (c : Cluster) (sid : SessionId) (lock : Bool) :
    WindsDown c (c.kickSession sid lock) :=
  ((c.windsDown_removeRedisCache sid lock).trans
    (windsDown_moveUserToTerminationZone ..)).trans (windsDown_removeUsrSession ..)

theorem windsDown_reply_error (c : Cluster) (sid : SessionId) (status : LoginStatus) :
    WindsDown c (c.modifySession sid fun s => s.reply (.error status)) :=
  c.windsDown_modifySession sid (fun _ => rfl) (fun _ => rfl) (fun _ h => h) fun s user =>
    s.told_reply_error status user

/-- A mark takes its session out of the live ones, and no other. -/
theorem live_markAsDeferredTerminated (c : Cluster) (sid : SessionId) (uuid : String)
    (i : SessionId) :
    ((c.modifySession sid fun s => s.markAsDeferredTerminated uuid).session i).Live ↔
      (c.session i).Live ∧ ¬i = sid := by
  rw [session_modifySession]
  split
  · rename_i hi
    simp [hi, ChatSession.not_live_markAsDeferredTerminated]
  · rename_i hi
    simp [hi]

theorem live_removeUsrSessionId (c : Cluster) (server uuid : String) (sid i : SessionId) :
    ((c.removeUsrSessionId server uuid sid).session i).Live ↔
      (c.session i).Live ∧ ¬((c.manager server).waitingToBeClosed uuid = some i ∧ i = sid) := by
  unfold removeUsrSessionId
  split
  · rename_i hnone
    simp [hnone]
  · rename_i j hj
    split
    · rename_i heq
      rw [live_markAsDeferredTerminated, hj, heq, Option.some.injEq, eq_comm (a := sid),
        and_self]
    · rename_i hne
      have hno : ¬(some j = some i ∧ i = sid) := by
        intro h
        exact hne ((Option.some.inj h.1).trans h.2)
      rw [hj, and_iff_left hno]

theorem live_reply (c : Cluster) (sid : SessionId) (r : LoginReply) (i : SessionId) :
    ((c.modifySession sid fun s => s.reply r).session i).Live ↔ (c.session i).Live := by
  rw [session_modifySession]
  split <;> rfl

end Cluster

end DistributedIM.ChattingServer
