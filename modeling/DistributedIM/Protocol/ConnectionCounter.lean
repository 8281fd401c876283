/-
  The connection counter: the entries of the hash `redis_server`, by which the balance server picks
  a chatting server, along runs of the cluster in which reads and writes may fail.

  `incrementConnection` is the end of `handlingLogin`; `decrementConnection` is the end of
  `purgeRemoveConnection`, whoever the connection belonged to. A session reads all the time until
  its read fails, and a write that failed is its last one.

  `main` sets the entry of a server to 0 before it accepts connections. The lock of the counter is
  always acquired here.
-/
import DistributedIM.Lib.Count
import DistributedIM.Protocol.ClusterRuns

namespace DistributedIM.Protocol

open DistributedIM.ChattingServer

namespace ConnectionCounter

inductive WriteSide
  | idle
  /-- an `async_write` has not completed -/
  | writing
  | failed
  deriving DecidableEq, Repr

structure Counted where
  cluster : Cluster
  /-- the hash `redis_server` -/
  redisServer : String → Nat
  /-- an `async_read` has not completed -/
  reading : SessionId → Bool
  writeSide : SessionId → WriteSide

def init : Counted where
  cluster := .init
  redisServer _ := 0
  reading _ := false
  writeSide _ := .idle

inductive CounterEvent
  | accept (server : String)
  | login (sid : SessionId) (request : AccountRequest) (out : LoginOutcome)
  | logout (sid : SessionId) (request : AccountRequest) (token : Bool)
  | heartBeat (server : String) (expired : List (String × Bool))
  | finalHandler (sid : SessionId)
  | startWrite (sid : SessionId)
  | written (sid : SessionId)
  | readFails (sid : SessionId)
  | writeFails (sid : SessionId)
  deriving DecidableEq, Repr

namespace Counted

def incrementConnection (s : Counted) (server : String) : Counted :=
  { s with redisServer := Function.update s.redisServer server (s.redisServer server + 1) }

def decrementConnection (s : Counted) (server : String) : Counted :=
  if s.redisServer server > 0 then
    { s with redisServer := Function.update s.redisServer server (s.redisServer server - 1) }
  else s

def handlingLogin (s : Counted) (sid : SessionId) (request : AccountRequest)
    (out : LoginOutcome) : Counted :=
  let answered := { s with cluster := s.cluster.handlingLogin sid request out }
  if s.cluster.completes sid out request then
    answered.incrementConnection (s.cluster.session sid).server
  else answered

def purgeRemoveConnection (s : Counted) (sid : SessionId) : Counted :=
  { s with cluster := s.cluster.purgeRemoveConnection sid true true }.decrementConnection
    (s.cluster.session sid).server

/-- A read or a write of the session has failed. -/
def failed (s : Counted) (sid : SessionId) : Bool :=
  !s.reading sid || s.writeSide sid = .failed

end Counted

def step (s : Counted) : CounterEvent → Option Counted
  | .accept server =>
    some { s with
      cluster := ClusterRuns.acceptSession s.cluster server
      -- `startSession`
      reading := Function.update s.reading s.cluster.accepted true
      writeSide := Function.update s.writeSide s.cluster.accepted .idle }
  | .login sid request out =>
    if sid < s.cluster.accepted then some (s.handlingLogin sid request out) else none
  | .logout sid request token =>
    if sid < s.cluster.accepted then
      some { s with cluster := s.cluster.handlingLogout sid request token }
    else none
  | .heartBeat server expired =>
    some { s with cluster := s.cluster.heartBeatEvent server expired }
  | .finalHandler sid => some { s with cluster := s.cluster.checkDeferredTermination sid }
  | .startWrite sid =>
    if sid < s.cluster.accepted ∧ s.writeSide sid = .idle then
      some { s with writeSide := Function.update s.writeSide sid .writing }
    else none
  | .written sid =>
    if s.writeSide sid = .writing then
      some { s with writeSide := Function.update s.writeSide sid .idle }
    else none
  | .readFails sid =>
    if sid < s.cluster.accepted ∧ s.reading sid = true then
      some ({ s with reading := Function.update s.reading sid false }.purgeRemoveConnection sid)
    else none
  | .writeFails sid =>
    if sid < s.cluster.accepted ∧ s.writeSide sid = .writing then
      some ({ s with writeSide := Function.update s.writeSide sid .failed }.purgeRemoveConnection
        sid)
    else none

/-! ## What the entry is to count -/

/-- The session was answered with success. -/
def completedLogin (s : ChatSession) : Bool :=
  s.loginReplies.any fun r =>
    match r with
    | .success _ => true
    | .error _ => false

/-- The session completed its login on the server, and its connection has not ended. -/
def Connected (s : Counted) (server : String) (i : SessionId) : Prop :=
  (s.cluster.session i).server = server ∧ completedLogin (s.cluster.session i) = true ∧
    (s.cluster.session i).isOpen = true

instance (s : Counted) (server : String) : DecidablePred (Connected s server) := fun _ =>
  inferInstanceAs (Decidable (_ ∧ _))

/-- Every entry is the number of the server's sessions that completed their login and whose
    connection has not ended. -/
def Accurate (s : Counted) : Prop :=
  ∀ server, s.redisServer server = Nat.count (Connected s server) s.cluster.accepted

/-- Where a connection has ended, its read and its write have completed with an error. -/
def Quiescent (s : Counted) : Prop :=
  ∀ i, i < s.cluster.accepted → (s.cluster.session i).isOpen = false →
    s.reading i = false ∧ s.writeSide i ≠ .writing

instance (s : Counted) : Decidable (Quiescent s) :=
  inferInstanceAs (Decidable (∀ i, i < _ → _ → _))

/-- The session completed its login, and neither its read nor its write has failed. -/
def Tallied (s : Counted) (server : String) (i : SessionId) : Prop :=
  (s.cluster.session i).server = server ∧ completedLogin (s.cluster.session i) = true ∧
    s.failed i = false

instance (s : Counted) (server : String) : DecidablePred (Tallied s server) := fun _ =>
  inferInstanceAs (Decidable (_ ∧ _))

/-- In every state, not only the quiescent ones. -/
def InTally (s : Counted) : Prop :=
  ∀ server, s.redisServer server = Nat.count (Tallied s server) s.cluster.accepted

/-- The login is the first one its session completes, on a connection that has not failed; the
    failure is the first one of a session that completed a login, or there is nothing to take
    away. -/
def CountsOnce (s : Counted) : CounterEvent → Prop
  | .login sid request out =>
    s.cluster.completes sid out request = true →
      completedLogin (s.cluster.session sid) = false ∧ s.failed sid = false
  | .readFails sid | .writeFails sid =>
    completedLogin (s.cluster.session sid) = true ∧ s.failed sid = false ∨
      s.redisServer (s.cluster.session sid).server = 0
  | _ => True

instance (s : Counted) : ∀ e, Decidable (CountsOnce s e)
  | .login .. => inferInstanceAs (Decidable (_ → _))
  | .readFails _ | .writeFails _ => inferInstanceAs (Decidable (_ ∨ _))
  | .accept _ | .logout .. | .heartBeat .. | .finalHandler _ | .startWrite _ | .written _ =>
    isTrue trivial

structure Inv (s : Counted) : Prop where
  tally : InTally s
  closed : ∀ i, s.failed i = true → (s.cluster.session i).isOpen = false

theorem completedLogin_iff (s : ChatSession) :
    completedLogin s = true ↔ ∃ user, s.Told user := by
  unfold completedLogin ChatSession.Told
  rw [List.any_eq_true]
  constructor
  · intro ⟨r, hr, hsuccess⟩
    cases r with
    | success user => exact ⟨user, hr⟩
    | error status => cases hsuccess
  · intro ⟨user, huser⟩
    exact ⟨_, huser, rfl⟩

/-- In a quiescent state the connections that have ended are those that failed. -/
theorem accurate_of_inv {s : Counted} (h : Inv s) (hquiet : Quiescent s) : Accurate s := by
  intro server
  rw [h.tally server]
  apply Count.count_congr
  intro i hi
  refine and_congr_right fun _ => and_congr_right fun _ => ?_
  constructor
  · intro hfailed
    by_contra hopen
    have hread := (hquiet i hi (Bool.eq_false_iff.mpr hopen)).1
    simp [Counted.failed, hread] at hfailed
  · intro hopen
    by_contra hfailed
    have hclosed := h.closed i (Bool.not_eq_false _ ▸ hfailed)
    rw [hopen] at hclosed
    cases hclosed

/-! ## Steps of the cluster that complete no login -/

structure Keeps (c c' : Cluster) : Prop where
  accepted : c'.accepted = c.accepted
  server : ∀ i, (c'.session i).server = (c.session i).server
  completed : ∀ i, completedLogin (c'.session i) = completedLogin (c.session i)
  closed : ∀ i, (c.session i).isOpen = false → (c'.session i).isOpen = false

theorem keeps_refl (c : Cluster) : Keeps c c :=
  ⟨rfl, fun _ => rfl, fun _ => rfl, fun _ h => h⟩

theorem keeps_of_windsDown {c c' : Cluster} (hdown : c.WindsDown c')
    (hclosed : ∀ i, (c.session i).isOpen = false → (c'.session i).isOpen = false) : Keeps c c' where
  accepted := hdown.accepted
  server := hdown.server
  completed i := by
    rw [Bool.eq_iff_iff, completedLogin_iff, completedLogin_iff]
    exact exists_congr fun user => hdown.told i user
  closed := hclosed

theorem closed_of_sameOf {c c' : Cluster} (h : Cluster.SameOf ChatSession.isOpen c c')
    (i : SessionId) (hi : (c.session i).isOpen = false) : (c'.session i).isOpen = false :=
  (h i).trans hi

theorem keeps_handlingLogout (c : Cluster) (sid : SessionId) (request : AccountRequest)
    (token : Bool) : Keeps c (c.handlingLogout sid request token) :=
  keeps_of_windsDown (c.windsDown_handlingLogout ..)
    (closed_of_sameOf (Cluster.sameOf_handlingLogout (fun _ _ => rfl) c sid request token))

theorem keeps_heartBeatEvent (c : Cluster) (server : String) (expired : List (String × Bool)) :
    Keeps c (c.heartBeatEvent server expired) :=
  keeps_of_windsDown (c.windsDown_heartBeatEvent ..)
    (closed_of_sameOf (Cluster.sameOf_heartBeatEvent (fun _ _ => rfl) c server expired))

theorem keeps_checkDeferredTermination (c : Cluster) (sid : SessionId) :
    Keeps c (c.checkDeferredTermination sid) := by
  apply keeps_of_windsDown (c.windsDown_checkDeferredTermination sid)
  intro i hi
  unfold Cluster.checkDeferredTermination
  split
  · split
    · exact hi
    · show ((c.modifySession sid fun s => s.terminated).session i).isOpen = false
      rw [Cluster.session_modifySession]
      split
      · rfl
      · exact hi
  · exact hi

theorem isOpen_purgeRemoveConnection (c : Cluster) (sid i : SessionId) :
    ((c.purgeRemoveConnection sid true true).session i).isOpen =
      ((c.session i).isOpen && decide (i ≠ sid)) := by
  unfold Cluster.purgeRemoveConnection
  rw [Cluster.sameOf_removeUsrSession (g := ChatSession.isOpen) (fun _ _ => rfl)]
  show ((c.modifySession sid fun s => s.ended true).session i).isOpen = _
  rw [Cluster.session_modifySession]
  split
  · rename_i hi
    simp [ChatSession.ended, hi]
  · rename_i hi
    simp [hi]

theorem keeps_purgeRemoveConnection (c : Cluster) (sid : SessionId) :
    Keeps c (c.purgeRemoveConnection sid true true) := by
  apply keeps_of_windsDown (c.windsDown_purgeRemoveConnection ..)
  intro i hi
  rw [isOpen_purgeRemoveConnection, hi]
  rfl

/-! ## Logins -/

theorem completedLogin_reply_success (s : ChatSession) (user : Nat) :
    completedLogin (s.reply (.success user)) = true :=
  (completedLogin_iff _).mpr ⟨user, (s.told_reply_success user user).mpr (Or.inr rfl)⟩

/-- Up to the registration nobody completes a login. -/
theorem keeps_updateRedisCache_register (c : Cluster) (sid : SessionId) (uuid : String)
    (uuidInt : Int) (out : LoginOutcome) :
    Keeps c ((c.updateRedisCache sid uuid uuidInt out).register sid uuid) := by
  have hdown := c.windsDown_updateRedisCache sid uuid uuidInt out
  have hopen := Cluster.sameOf_updateRedisCache (g := ChatSession.isOpen) (fun _ _ => rfl)
    (fun _ _ => rfl) c sid uuid uuidInt out
  constructor
  case accepted => exact hdown.accepted
  case server =>
    intro i
    rw [Cluster.session_register]
    split <;> exact hdown.server i
  case completed =>
    intro i
    rw [Bool.eq_iff_iff, completedLogin_iff, completedLogin_iff]
    refine exists_congr fun user => ?_
    rw [Cluster.told_register, hdown.told]
  case closed =>
    intro i hi
    rw [Cluster.session_register]
    split <;> exact (hopen i).trans hi

theorem keeps_trans {c c' c'' : Cluster} (h : Keeps c c') (h' : Keeps c' c'') : Keeps c c'' where
  accepted := h'.accepted.trans h.accepted
  server i := (h'.server i).trans (h.server i)
  completed i := (h'.completed i).trans (h.completed i)
  closed i hi := h'.closed i (h.closed i hi)

/-- A login that does not run to its end completes nobody's login. -/
theorem keeps_handlingLogin {c : Cluster} {sid : SessionId} {request : AccountRequest}
    {out : LoginOutcome} (hno : c.completes sid out request = false) :
    Keeps c (c.handlingLogin sid request out) := by
  have hopen := Cluster.sameOf_handlingLogin (g := ChatSession.isOpen) (fun _ _ => rfl)
    (fun _ _ => rfl) (fun _ _ => rfl) c sid request out
  rcases c.handlingLogin_cases sid request out with
    ⟨hdown, -⟩ | ⟨uuid, number, rfl, -, hself, hcompletes, heq⟩
  · exact keeps_of_windsDown hdown (closed_of_sameOf hopen)
  · rw [heq, Cluster.loginAccepted]
    rw [hno] at hcompletes
    cases hint : Text.stoi uuid with
    | none => exact keeps_refl c
    | some uuidInt =>
      rw [hint, Option.isSome_some, Bool.true_and] at hcompletes
      apply keeps_trans (keeps_updateRedisCache_register c sid uuid uuidInt out)
      rcases Cluster.answer_cases _ sid number out with ⟨hfound, -⟩ | ⟨-, hdown⟩
      · rw [hfound] at hcompletes
        cases hcompletes
      · exact keeps_of_windsDown hdown (closed_of_sameOf
          (Cluster.sameOf_answer (fun _ _ => rfl) (fun _ _ => rfl) _ sid number out))

/-- A login that runs to its end completes the login of its session. -/
theorem handlingLogin_of_completes {c : Cluster} {sid : SessionId} {request : AccountRequest}
    {out : LoginOutcome} (hcompletes : c.completes sid out request = true) :
    ∃ c' number, Keeps c c' ∧
      c.handlingLogin sid request out = c'.modifySession sid fun s => s.reply (.success number) := by
  rcases c.handlingLogin_cases sid request out with
    ⟨-, hno⟩ | ⟨uuid, number, rfl, -, hself, hend, heq⟩
  · rw [hno] at hcompletes
    cases hcompletes
  · rw [hcompletes] at hend
    obtain ⟨hint, hprofile⟩ := Bool.and_eq_true_iff.mp hend.symm
    obtain ⟨uuidInt, hint⟩ := Option.isSome_iff_exists.mp hint
    refine ⟨_, number, keeps_updateRedisCache_register c sid uuid uuidInt out, ?_⟩
    rw [heq, Cluster.loginAccepted, hint]
    dsimp only
    rw [Cluster.answer, of_decide_eq_true hprofile]

/-! ## One step -/

theorem tallied_iff_of_keeps {s s' : Counted} (hkeeps : Keeps s.cluster s'.cluster) {i : SessionId}
    (hfailed : s'.failed i = s.failed i) (server : String) :
    Tallied s' server i ↔ Tallied s server i := by
  unfold Tallied
  rw [hkeeps.server, hkeeps.completed, hfailed]

theorem inv_of_keeps {s s' : Counted} (h : Inv s) (hkeeps : Keeps s.cluster s'.cluster)
    (hserver : s'.redisServer = s.redisServer) (hfailed : ∀ i, s'.failed i = s.failed i) :
    Inv s' where
  tally server := by
    rw [hserver, h.tally server, hkeeps.accepted]
    exact Count.count_congr fun i _ => (tallied_iff_of_keeps hkeeps (hfailed i) server).symm
  closed i hi := hkeeps.closed i (h.closed i ((hfailed i).symm.trans hi))

/-- A login that runs to its end increments the entry of its server, and its session is tallied
    from then on unless its connection has failed. -/
structure LoginCounted (s s' : Counted) (sid : SessionId) : Prop where
  accepted : s'.cluster.accepted = s.cluster.accepted
  entry : ∀ server, s'.redisServer server =
    if server = (s.cluster.session sid).server then s.redisServer server + 1
    else s.redisServer server
  self : ∀ server, Tallied s' server sid ↔
    (s.cluster.session sid).server = server ∧ s.failed sid = false
  others : ∀ i, i ≠ sid → ∀ server, Tallied s' server i ↔ Tallied s server i
  failed : ∀ i, s'.failed i = s.failed i
  closed : ∀ i, (s.cluster.session i).isOpen = false → (s'.cluster.session i).isOpen = false

theorem loginCounted_handlingLogin {s : Counted} {sid : SessionId} {request : AccountRequest}
    {out : LoginOutcome} (hcompletes : s.cluster.completes sid out request = true) :
    LoginCounted s (s.handlingLogin sid request out) sid := by
  obtain ⟨c', number, hkeeps, heq⟩ := handlingLogin_of_completes hcompletes
  let reply (t : ChatSession) := t.reply (.success number)
  have hs' : s.handlingLogin sid request out =
      { s with cluster := c'.modifySession sid reply }.incrementConnection
        (s.cluster.session sid).server := by
    rw [Counted.handlingLogin, if_pos hcompletes, heq]
  rw [hs']
  constructor
  case accepted => exact hkeeps.accepted
  case entry =>
    intro server
    show Function.update s.redisServer _ _ server = _
    rw [Function.update_apply]
    split
    · rename_i hserver
      rw [hserver]
    · rfl
  case self =>
    intro server
    unfold Tallied
    show ((c'.modifySession sid reply).session sid).server = server ∧
      completedLogin ((c'.modifySession sid reply).session sid) = true ∧ s.failed sid = false ↔ _
    rw [Cluster.session_modifySession, if_pos rfl, completedLogin_reply_success,
      ← hkeeps.server sid, eq_self, true_and]
    exact Iff.rfl
  case others =>
    intro i hi server
    unfold Tallied
    show ((c'.modifySession sid reply).session i).server = server ∧
      completedLogin ((c'.modifySession sid reply).session i) = true ∧ s.failed i = false ↔ _
    rw [Cluster.session_modifySession, if_neg hi, hkeeps.server, hkeeps.completed]
  case failed => exact fun _ => rfl
  case closed =>
    intro i hi
    show ((c'.modifySession sid reply).session i).isOpen = false
    rw [Cluster.session_modifySession]
    split <;> exact hkeeps.closed i hi

theorem inv_of_loginCounted {s s' : Counted} {sid : SessionId} (h : Inv s)
    (hlogin : LoginCounted s s' sid) (haccepted : sid < s.cluster.accepted)
    (hfirst : completedLogin (s.cluster.session sid) = false) (hworks : s.failed sid = false) :
    Inv s' where
  tally server := by
    rw [hlogin.entry, hlogin.accepted]
    split
    · rename_i hserver
      rw [h.tally server]
      symm
      apply Count.count_gain haccepted
      · intro htallied
        exact absurd (hfirst.symm.trans htallied.2.1) (by simp)
      · exact (hlogin.self server).mpr ⟨hserver.symm, hworks⟩
      · exact fun i hi => (hlogin.others i hi server).symm
    · rename_i hserver
      rw [h.tally server]
      apply Count.count_congr
      intro i _
      by_cases hi : i = sid
      · subst hi
        rw [hlogin.self]
        constructor
        · intro htallied
          exact absurd htallied.1.symm hserver
        · intro hself
          exact absurd hself.1.symm hserver
      · exact (hlogin.others i hi server).symm
  closed i hi := hlogin.closed i (h.closed i ((hlogin.failed i).symm.trans hi))

/-- A session that was tallied before, or whose connection has failed, is counted once too often. -/
theorem not_inTally_of_loginCounted {s s' : Counted} {sid : SessionId} (h : Inv s)
    (hlogin : LoginCounted s s' sid)
    (hagain : ¬(completedLogin (s.cluster.session sid) = false ∧ s.failed sid = false)) :
    ¬InTally s' := by
  intro htally
  have hentry := htally (s.cluster.session sid).server
  have hcount : Nat.count (Tallied s (s.cluster.session sid).server) s.cluster.accepted =
      Nat.count (Tallied s' (s.cluster.session sid).server) s.cluster.accepted := by
    apply Count.count_congr
    intro i _
    by_cases hi : i = sid
    · subst hi
      rw [hlogin.self]
      refine and_congr_right fun _ => and_iff_right_of_imp fun hworks => ?_
      by_contra hfirst
      exact hagain ⟨Bool.eq_false_iff.mpr hfirst, hworks⟩
    · exact (hlogin.others i hi _).symm
  rw [hlogin.entry, if_pos rfl, hlogin.accepted, h.tally, hcount] at hentry
  omega

/-- A failure of the session: it is not tallied from then on, and the entry of its server is
    decremented unless it is 0. -/
structure FailureCounted (s s' : Counted) (sid : SessionId) : Prop where
  accepted : s'.cluster.accepted = s.cluster.accepted
  entry : ∀ server, s'.redisServer server =
    if server = (s.cluster.session sid).server then s.redisServer server - 1
    else s.redisServer server
  self : ∀ server, ¬Tallied s' server sid
  others : ∀ i, i ≠ sid → ∀ server, Tallied s' server i ↔ Tallied s server i
  failed : ∀ i, i ≠ sid → s'.failed i = s.failed i
  selfClosed : (s'.cluster.session sid).isOpen = false
  closed : ∀ i, (s.cluster.session i).isOpen = false → (s'.cluster.session i).isOpen = false

/-- A read or a write fails: the flags of the session change from `s` to `s'`, and it is purged. -/
theorem failureCounted_purgeRemoveConnection {s s' : Counted} {sid : SessionId}
    (hcluster : s'.cluster = s.cluster) (hredis : s'.redisServer = s.redisServer)
    (hself : s'.failed sid = true) (hothers : ∀ i, i ≠ sid → s'.failed i = s.failed i) :
    FailureCounted s (s'.purgeRemoveConnection sid) sid := by
  have hkeeps := keeps_purgeRemoveConnection s.cluster sid
  have hnewCluster : (s'.purgeRemoveConnection sid).cluster =
      s.cluster.purgeRemoveConnection sid true true := by
    unfold Counted.purgeRemoveConnection Counted.decrementConnection
    rw [hcluster]
    split <;> rfl
  have hnewFailed (i : SessionId) : (s'.purgeRemoveConnection sid).failed i = s'.failed i := by
    unfold Counted.purgeRemoveConnection Counted.decrementConnection
    split <;> rfl
  constructor
  case accepted => rw [hnewCluster, hkeeps.accepted]
  case entry =>
    intro server
    unfold Counted.purgeRemoveConnection Counted.decrementConnection
    dsimp only
    rw [hcluster, hredis]
    split
    · show Function.update s.redisServer _ _ server = _
      rw [Function.update_apply]
      split
      · rename_i hserver
        rw [hserver]
      · rfl
    · rename_i hzero
      split
      · rename_i hserver
        have hentry : s.redisServer (s.cluster.session sid).server = 0 :=
          Nat.eq_zero_of_not_pos hzero
        rw [hserver, hentry]
      · rfl
  case self =>
    intro server htallied
    have hworks := htallied.2.2
    rw [hnewFailed, hself] at hworks
    cases hworks
  case others =>
    intro i hi server
    unfold Tallied
    rw [hnewFailed, hothers i hi, hnewCluster, hkeeps.server, hkeeps.completed]
  case failed =>
    intro i hi
    rw [hnewFailed, hothers i hi]
  case selfClosed =>
    rw [hnewCluster, isOpen_purgeRemoveConnection]
    simp
  case closed =>
    intro i hi
    rw [hnewCluster]
    exact hkeeps.closed i hi

theorem tallied_congr_of_failureCounted {s s' : Counted} {sid : SessionId}
    (hfailure : FailureCounted s s' sid) {server : String} (hnot : ¬Tallied s server sid)
    (i : SessionId) : Tallied s server i ↔ Tallied s' server i := by
  by_cases hi : i = sid
  · subst hi
    exact iff_of_false hnot (hfailure.self server)
  · exact (hfailure.others i hi server).symm

theorem inv_of_failureCounted {s s' : Counted} {sid : SessionId} (h : Inv s)
    (hfailure : FailureCounted s s' sid) (haccepted : sid < s.cluster.accepted)
    (honce : completedLogin (s.cluster.session sid) = true ∧ s.failed sid = false ∨
      s.redisServer (s.cluster.session sid).server = 0) : Inv s' where
  tally server := by
    rw [hfailure.entry, hfailure.accepted]
    by_cases htallied : Tallied s server sid
    · rw [if_pos htallied.1.symm, h.tally server]
      have hgain : Nat.count (Tallied s server) s.cluster.accepted =
          Nat.count (Tallied s' server) s.cluster.accepted + 1 :=
        Count.count_gain haccepted (hfailure.self server) htallied
          fun i hi => hfailure.others i hi server
      omega
    · have hsame : Nat.count (Tallied s server) s.cluster.accepted =
          Nat.count (Tallied s' server) s.cluster.accepted :=
        Count.count_congr fun i _ => tallied_congr_of_failureCounted hfailure htallied i
      rw [← hsame, ← h.tally server]
      split
      · rename_i hserver
        rcases honce with hfirst | hzero
        · exact absurd ⟨hserver.symm, hfirst⟩ htallied
        · rw [hserver, hzero]
      · rfl
  closed i hi := by
    by_cases hsid : i = sid
    · rw [hsid]
      exact hfailure.selfClosed
    · rw [hfailure.failed i hsid] at hi
      exact hfailure.closed i (h.closed i hi)

/-- Something is taken away for a session that was not tallied. -/
theorem not_inTally_of_failureCounted {s s' : Counted} {sid : SessionId} (h : Inv s)
    (hfailure : FailureCounted s s' sid)
    (hagain : ¬(completedLogin (s.cluster.session sid) = true ∧ s.failed sid = false ∨
      s.redisServer (s.cluster.session sid).server = 0)) : ¬InTally s' := by
  intro htally
  rw [not_or] at hagain
  have hentry := htally (s.cluster.session sid).server
  have hnot : ¬Tallied s (s.cluster.session sid).server sid := fun htallied =>
    hagain.1 htallied.2
  have hsame : Nat.count (Tallied s _) s.cluster.accepted =
      Nat.count (Tallied s' _) s.cluster.accepted :=
    Count.count_congr fun i _ => tallied_congr_of_failureCounted hfailure hnot i
  rw [hfailure.entry, if_pos rfl, hfailure.accepted, ← hsame, ← h.tally] at hentry
  have hpositive := hagain.2
  omega

theorem inv_accept {s s' : Counted} {server : String} (h : Inv s)
    (hstep : step s (.accept server) = some s') : Inv s' := by
  obtain rfl := Option.some.inj hstep
  have hsession (i : SessionId) (hi : i ≠ s.cluster.accepted) :
      (ClusterRuns.acceptSession s.cluster server).session i = s.cluster.session i :=
    Function.update_of_ne hi ..
  have hnew : (ClusterRuns.acceptSession s.cluster server).session s.cluster.accepted =
      .accepted server :=
    Function.update_self ..
  constructor
  case tally =>
    intro server'
    show s.redisServer server' = Nat.count _ (s.cluster.accepted + 1)
    rw [Nat.count_succ, h.tally server', if_neg]
    · apply Count.count_congr
      intro i hi
      have hne : i ≠ s.cluster.accepted := Nat.ne_of_lt hi
      simp only [Tallied, Counted.failed, hsession i hne, Function.update_of_ne hne]
    · intro htallied
      have hlogin : completedLogin ((ClusterRuns.acceptSession s.cluster server).session
          s.cluster.accepted) = true := htallied.2.1
      rw [hnew] at hlogin
      cases hlogin
  case closed =>
    intro i hi
    by_cases hne : i = s.cluster.accepted
    · subst hne
      simp [Counted.failed] at hi
    · show ((ClusterRuns.acceptSession s.cluster server).session i).isOpen = false
      rw [hsession i hne]
      apply h.closed
      simpa only [Counted.failed, Function.update_of_ne hne] using hi

theorem failed_update_writeSide {s : Counted} {sid : SessionId} {w : WriteSide}
    (hold : s.writeSide sid ≠ .failed) (hw : w ≠ .failed) (i : SessionId) :
    Counted.failed { s with writeSide := Function.update s.writeSide sid w } i = s.failed i := by
  unfold Counted.failed
  by_cases hi : i = sid
  · subst hi
    simp [hold, hw]
  · simp [hi]

/-- A failure counts, whichever side of the connection it is on. -/
theorem failureCounted_of_fails {s s' : Counted} {e : CounterEvent} {sid : SessionId}
    (he : e = .readFails sid ∨ e = .writeFails sid) (hstep : step s e = some s') :
    FailureCounted s s' sid ∧ sid < s.cluster.accepted := by
  rcases he with rfl | rfl
  all_goals
    obtain ⟨⟨haccepted, -⟩, hs'⟩ := Option.ite_none_right_eq_some.mp hstep
    obtain rfl := Option.some.inj hs'
    refine ⟨failureCounted_purgeRemoveConnection rfl rfl ?_ ?_, haccepted⟩
    · simp [Counted.failed]
    · intro i hi
      simp [Counted.failed, hi]

theorem inv_step {s s' : Counted} {e : CounterEvent} (h : Inv s) (honce : CountsOnce s e)
    (hstep : step s e = some s') : Inv s' := by
  cases e with
  | accept server => exact inv_accept h hstep
  | login sid request out =>
    obtain ⟨haccepted, hs'⟩ := Option.ite_none_right_eq_some.mp hstep
    obtain rfl := Option.some.inj hs'
    cases hcompletes : s.cluster.completes sid out request with
    | true =>
      obtain ⟨hfirst, hworks⟩ := honce hcompletes
      exact inv_of_loginCounted h (loginCounted_handlingLogin hcompletes) haccepted hfirst hworks
    | false =>
      rw [Counted.handlingLogin, if_neg (by simp [hcompletes])]
      exact inv_of_keeps h (keeps_handlingLogin hcompletes) rfl fun _ => rfl
  | logout sid request token =>
    obtain ⟨-, hs'⟩ := Option.ite_none_right_eq_some.mp hstep
    obtain rfl := Option.some.inj hs'
    exact inv_of_keeps h (keeps_handlingLogout ..) rfl fun _ => rfl
  | heartBeat server expired =>
    obtain rfl := Option.some.inj hstep
    exact inv_of_keeps h (keeps_heartBeatEvent ..) rfl fun _ => rfl
  | finalHandler sid =>
    obtain rfl := Option.some.inj hstep
    exact inv_of_keeps h (keeps_checkDeferredTermination ..) rfl fun _ => rfl
  | startWrite sid =>
    obtain ⟨⟨-, hidle⟩, hs'⟩ := Option.ite_none_right_eq_some.mp hstep
    obtain rfl := Option.some.inj hs'
    exact inv_of_keeps h (keeps_refl _) rfl
      (failed_update_writeSide (by simp [hidle]) (by simp))
  | written sid =>
    obtain ⟨hwriting, hs'⟩ := Option.ite_none_right_eq_some.mp hstep
    obtain rfl := Option.some.inj hs'
    exact inv_of_keeps h (keeps_refl _) rfl
      (failed_update_writeSide (by simp [hwriting]) (by simp))
  | readFails sid =>
    obtain ⟨hfailure, haccepted⟩ := failureCounted_of_fails (Or.inl rfl) hstep
    exact inv_of_failureCounted h hfailure haccepted honce
  | writeFails sid =>
    obtain ⟨hfailure, haccepted⟩ := failureCounted_of_fails (Or.inr rfl) hstep
    exact inv_of_failureCounted h hfailure haccepted honce

theorem not_inTally_step {s s' : Counted} {e : CounterEvent} (h : Inv s)
    (hagain : ¬CountsOnce s e) (hstep : step s e = some s') : ¬InTally s' := by
  cases e with
  | login sid request out =>
    obtain ⟨-, hs'⟩ := Option.ite_none_right_eq_some.mp hstep
    obtain rfl := Option.some.inj hs'
    obtain ⟨hcompletes, hnot⟩ := Classical.not_imp.mp hagain
    exact not_inTally_of_loginCounted h (loginCounted_handlingLogin hcompletes) hnot
  | readFails sid =>
    exact not_inTally_of_failureCounted h (failureCounted_of_fails (Or.inl rfl) hstep).1 hagain
  | writeFails sid =>
    exact not_inTally_of_failureCounted h (failureCounted_of_fails (Or.inr rfl) hstep).1 hagain
  | accept server => exact absurd trivial hagain
  | logout sid request token => exact absurd trivial hagain
  | heartBeat server expired => exact absurd trivial hagain
  | finalHandler sid => exact absurd trivial hagain
  | startWrite sid => exact absurd trivial hagain
  | written sid => exact absurd trivial hagain

theorem inv_init : Inv init where
  tally _ := rfl
  closed _ _ := rfl

/-! ## Runs -/

/-- Along a run every entry is the number of the tallied sessions in every state exactly when every
    login that completes, and every failure, counts once. -/
theorem always_inTally_iff (es : List CounterEvent) :
    Trace.Always step InTally init es ↔ Trace.Meets step CountsOnce init es := by
  apply Trace.always_iff_meets Inv
  · intro s h
    exact h.tally
  · intro s e s' h honce hstep
    exact inv_step h honce hstep
  · intro s e s' h hagain hstep
    exact not_inTally_step h hagain hstep
  · exact inv_init

/-- If every login that completes, and every failure, counts once, the entries are right in every
    quiescent state of the run. -/
theorem always_accurate_of_countsOnce (es : List CounterEvent)
    (hmeets : Trace.Meets step CountsOnce init es) :
    Trace.Always step (fun s => Quiescent s → Accurate s) init es := by
  have hinv : Trace.Always step Inv init es :=
    Trace.always_of_meets Inv (fun _ _ _ => inv_step) inv_init hmeets
  exact Trace.always_mono (fun _ => accurate_of_inv) hinv

/-- A login, and a second connection that ends without one. -/
theorem not_accurate_without_login :
    ¬Trace.Always step (fun s => Quiescent s → Accurate s) init
      [.accept "A", .accept "A", .login 0 (.wellFormed "7") ClusterRuns.smooth, .readFails 1] := by
  intro h
  have hlast := Trace.exec_of_always h rfl
  have hquiet := hlast (by decide)
  exact absurd (hquiet "A") (by decide)

/-- User 7 logs in and disconnects. -/
theorem always_accurate_login_disconnect :
    Trace.Always step (fun s => Quiescent s → Accurate s) init
      [.accept "A", .login 0 (.wellFormed "7") ClusterRuns.smooth, .startWrite 0, .written 0,
        .readFails 0] := by
  apply always_accurate_of_countsOnce
  decide

end ConnectionCounter

end DistributedIM.Protocol
