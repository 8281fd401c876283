/-
  One login per user over the whole cluster: any order of connections, logins, logouts, failing
  connections, heartbeat purges and final handlers on any number of servers, whose workers run at
  the same time.

  A login is not one step. The lock of `updateRedisCache` has a lifetime of 10 ms, and is released
  before `createUserSession` and the answer; at any point of a login the other workers, the timers
  and the gRPC calls go on. So the looks at the maps and the writes to them are steps of their own
  here (`work`), two logins may both believe that they have the lock, and what logs nobody in may
  go on call by call (`ManagerCall`).

  `Single` asks that no user number has two live sessions that were told of their login.
  `always_single_iff_grantsAlone`: only an answer can break it, and does where another session of
  the number is live. What keeps it is `DisplacesOthers`: the kick of a login marks every live
  session of its number, and no other login of the number is then between its kick and its answer.
  The kick misses them in more cases than it meets them: it needs the lock and the route of the same
  text, and finds on another server only who is already in the termination zone.
-/
import DistributedIM.Protocol.ClusterRuns

namespace DistributedIM.Protocol

open DistributedIM.ChattingServer

namespace SingleLogin

/-! ## Logins step by step -/

/-- What is next in a login. -/
inductive LoginStage
  /-- `acquire`, and under the lock `checkCurrentUser` -/
  | acquire
  /-- the kick, if there is a route: `getSession` on the server that it names -/
  | kick (current : Option String)
  /-- `moveUserToTerminationZone`, for a session of this server -/
  | move (old : SessionId)
  /-- `removeUsrSession` on the server of the route -/
  | remove (current : String) (old : SessionId)
  /-- `labelCurrentUser`, `labelUserSessionID` and the release of the lock -/
  | label
  /-- `setUUID` and `createUserSession` -/
  | register
  /-- the profile, and the answer -/
  | answer
  deriving DecidableEq, Repr

/-- A login whose token has been accepted, in the hands of its worker. -/
structure PendingLogin where
  sid : SessionId
  uuid : String
  /-- from `string_to_value` -/
  number : Nat
  /-- from `std::stoi` -/
  uuidInt : Int
  out : LoginOutcome
  stage : LoginStage
  deriving DecidableEq, Repr

def PendingLogin.withStage (p : PendingLogin) (stage : LoginStage) : PendingLogin :=
  { p with stage := stage }

/-- `handlingLogin` up to `updateRedisCache`. -/
def startLogin (c : Cluster) (sid : SessionId) (request : AccountRequest) (out : LoginOutcome) :
    Cluster × Option PendingLogin :=
  let fail := c.modifySession sid fun s => s.reply (.error .loginUnsuccessful)
  if request = .incomplete then (fail, none)
  else if (c.getSession (c.session sid).server (c.session sid).uuid).isSome then
    (c.kickSession sid out.kickLock, none)
  else
    match request with
    | .incomplete | .illTyped => (c, none)
    | .wellFormed uuid =>
      match Text.readUInt64 uuid with
      | none => (fail, none)
      | some number =>
        if out.token then
          -- the first line of `updateRedisCache` may throw
          (c, (Text.stoi uuid).map fun uuidInt => ⟨sid, uuid, number, uuidInt, out, .acquire⟩)
        else (fail, none)

/-- The remote kick is over; where it fails there are no labels. -/
def kickAnswered (c : Cluster) (p : PendingLogin) : Cluster × LoginStage :=
  match p.out.kick with
  | .answered => (c, .label)
  | .notDelivered | .noStatus =>
    (c.modifySession p.sid fun s => s.reply (.error .loginUnsuccessful), .register)

/-- The kick begins, here or in `ForceTerminateLoginedUser`. -/
def kickCurrent (c : Cluster) (p : PendingLogin) (current : String) : Cluster × LoginStage :=
  if current = (c.session p.sid).server then
    match c.getSession current p.uuid with
    | none => (c, .label)
    | some old => (c, .move old)
  else if p.out.kick = .notDelivered then kickAnswered c p
  else
    match c.getSession current p.uuidInt.repr with
    | none => kickAnswered c p
    | some old => (c, .remove current old)

/-- The uuid that `removeUsrSession` is given. -/
def kickKey (c : Cluster) (p : PendingLogin) (current : String) (old : SessionId) : String :=
  if current = (c.session p.sid).server then (c.session old).uuid else p.uuidInt.repr

def kickRemove (c : Cluster) (p : PendingLogin) (current : String) (old : SessionId) :
    Cluster × LoginStage :=
  let removed := c.removeUsrSessionId current (kickKey c p current old) old
  if current = (c.session p.sid).server then (removed, .label) else kickAnswered removed p

/-- One step of a login, and what is next. -/
def work (c : Cluster) (p : PendingLogin) : Cluster × Option LoginStage :=
  match p.stage with
  | .acquire =>
    (c, some (if p.out.lock then .kick (c.redis.checkCurrentUser p.uuid) else .register))
  | .kick none => (c, some .label)
  | .kick (some current) => ((kickCurrent c p current).1, some (kickCurrent c p current).2)
  | .move old =>
    let server := (c.session p.sid).server
    (c.moveUserToTerminationZone server (c.session old).uuid, some (.remove server old))
  | .remove current old =>
    ((kickRemove c p current old).1, some (kickRemove c p current old).2)
  | .label => (c.label p.sid p.uuid p.out, some .register)
  | .register => (c.register p.sid p.uuid, some .answer)
  | .answer => (c.answer p.sid p.number p.out, none)

/-- A call of what logs nobody in: a logout, a purge, a heartbeat, a final handler or a kick that
    its caller has given up. -/
inductive ManagerCall
  /-- the read or write that fails, before its purge -/
  | ended (sid : SessionId)
  | removeRedisCache (sid : SessionId) (lock : Bool)
  | moveUserToTerminationZone (server uuid : String)
  | removeUsrSession (server uuid : String)
  | removeUsrSessionId (server uuid : String) (sid : SessionId)
  /-- the first part of a final handler -/
  | terminated (sid : SessionId)
  | eraseWaitingSession (server uuid : String)
  deriving DecidableEq, Repr

def ManagerCall.run (c : Cluster) : ManagerCall → Cluster
  | .ended sid => c.modifySession sid fun s => s.ended true
  | .removeRedisCache sid lock => c.removeRedisCache sid lock
  | .moveUserToTerminationZone server uuid => c.moveUserToTerminationZone server uuid
  | .removeUsrSession server uuid => c.removeUsrSession server uuid
  | .removeUsrSessionId server uuid sid => c.removeUsrSessionId server uuid sid
  | .terminated sid => c.modifySession sid fun s => s.terminated
  | .eraseWaitingSession server uuid =>
    c.modifyManager server fun m => m.eraseWaitingSession uuid

structure Servers where
  cluster : Cluster
  /-- the login that the worker of a server is at -/
  worker : String → Option PendingLogin

/-- No worker is at a login. -/
def Servers.idle (c : Cluster) : Servers where
  cluster := c
  worker _ := none

def init : Servers :=
  .idle .init

inductive Event
  /-- a handler or a callback runs, a login up to `updateRedisCache` -/
  | handler (e : ClusterEvent)
  /-- a call of one that goes on beside the others -/
  | call (call : ManagerCall)
  /-- the worker of a server goes on with its login -/
  | work (server : String)
  deriving DecidableEq, Repr

/-- Requests are handled by the worker of the server, one after the other. -/
def Servers.isFree (s : Servers) : ClusterEvent → Bool
  | .login sid _ _ | .logout sid _ _ => (s.worker (s.cluster.session sid).server).isNone
  | _ => true

def Servers.startLogin (s : Servers) (sid : SessionId) (request : AccountRequest)
    (out : LoginOutcome) : Servers where
  cluster := (SingleLogin.startLogin s.cluster sid request out).1
  worker := Function.update s.worker (s.cluster.session sid).server
    (SingleLogin.startLogin s.cluster sid request out).2

def Servers.work (s : Servers) (server : String) (p : PendingLogin) : Servers where
  cluster := (SingleLogin.work s.cluster p).1
  worker := Function.update s.worker server ((SingleLogin.work s.cluster p).2.map p.withStage)

def step (s : Servers) : Event → Option Servers
  | .handler e =>
    if s.isFree e then
      match e with
      | .login sid request out =>
        if sid < s.cluster.accepted then some (s.startLogin sid request out) else none
      | e => (ClusterRuns.step s.cluster e).map fun c => { s with cluster := c }
    else none
  | .call call => some { s with cluster := call.run s.cluster }
  | .work server => (s.worker server).map fun p => s.work server p

/-- No user number has two live sessions that were told of their login. -/
def Single (s : Servers) : Prop :=
  Exclusive s.cluster.Holds

/-! ## What an answer needs, and what a kick does for it -/

/-- Where a live session is about to be answered with success, no other session of the number is
    live. -/
def GrantsAlone (s : Servers) : Event → Prop
  | .work server => ∀ p, s.worker server = some p → p.stage = .answer → p.out.profile = .found →
      (s.cluster.session p.sid).Live → ∀ i, i ≠ p.sid → ¬s.cluster.Holds i p.number
  | _ => True

/-- The login is between its kick and its answer. -/
def PendingLogin.Kicked (p : PendingLogin) : Prop :=
  p.stage = .label ∨ p.stage = .register ∨ p.stage = .answer

/-- This step is the last one of the kick, or leaves it out. -/
def PendingLogin.Kicks (c : Cluster) (p : PendingLogin) : Prop :=
  ¬p.Kicked ∧ ∃ stage, (work c p).2 = some stage ∧ (p.withStage stage).Kicked

/-- The login is of a live session, and is to be answered with success. -/
def PendingLogin.LetsIn (c : Cluster) (p : PendingLogin) : Prop :=
  (c.session p.sid).Live ∧ p.out.profile = .found

/-- This step marks session `i`. -/
def Displaces (c : Cluster) (p : PendingLogin) (i : SessionId) : Prop :=
  ∃ current, p.stage = .remove current i ∧
    (c.manager current).waitingToBeClosed (kickKey c p current i) = some i

/-- The kick of a login that lets a session in displaces every other session of its number, and no
    other such login of the number has kicked and not answered yet. -/
def DisplacesOthers (s : Servers) : Event → Prop
  | .work server => ∀ p, s.worker server = some p → p.Kicks s.cluster → p.LetsIn s.cluster →
      (∀ i, i ≠ p.sid → s.cluster.Holds i p.number → Displaces s.cluster p i) ∧
        ∀ server' q, s.worker server' = some q → q.Kicked → q.LetsIn s.cluster →
          q.number ≠ p.number
  | _ => True

/-! ## One step -/

theorem windsDown_startLogin (c : Cluster) (sid : SessionId) (request : AccountRequest)
    (out : LoginOutcome) : c.WindsDown (startLogin c sid request out).1 := by
  have hfail := c.windsDown_reply_error sid .loginUnsuccessful
  unfold startLogin
  dsimp only
  split
  · exact hfail
  · split
    · exact c.windsDown_kickSession ..
    · split
      · exact .refl c
      · exact .refl c
      · split
        · exact hfail
        · split
          · exact .refl c
          · exact hfail

theorem startLogin_eq_some {c : Cluster} {sid : SessionId} {request : AccountRequest}
    {out : LoginOutcome} {p : PendingLogin} (h : (startLogin c sid request out).2 = some p) :
    p.sid = sid ∧ p.stage = .acquire ∧
      c.getSession (c.session sid).server (c.session sid).uuid = none ∧
      (startLogin c sid request out).1 = c := by
  unfold startLogin at h ⊢
  dsimp only at h ⊢
  split at h
  · cases h
  · rename_i hcomplete
    split at h
    · cases h
    · rename_i hself
      rw [if_neg hcomplete, if_neg hself]
      split at h
      · cases h
      · cases h
      · split at h
        · cases h
        · split at h
          · rename_i htoken
            obtain ⟨uuidInt, -, rfl⟩ := Option.map_eq_some_iff.mp h
            rw [if_pos htoken]
            exact ⟨rfl, rfl, by simpa using hself, rfl⟩
          · cases h

/-- What is left of the handler after its start. -/
theorem handlingLogin_eq (c : Cluster) (sid : SessionId) (request : AccountRequest)
    (out : LoginOutcome) :
    c.handlingLogin sid request out =
      match (startLogin c sid request out).2 with
      | none => (startLogin c sid request out).1
      | some p =>
        (((startLogin c sid request out).1.updateRedisCache p.sid p.uuid p.uuidInt p.out).register
          p.sid p.uuid).answer p.sid p.number p.out := by
  unfold Cluster.handlingLogin startLogin Cluster.loginAccepted
  dsimp only
  by_cases hcomplete : request = .incomplete
  · simp only [if_pos hcomplete]
  · simp only [if_neg hcomplete]
    by_cases hself : (c.getSession (c.session sid).server (c.session sid).uuid).isSome
    · simp only [if_pos hself]
    · simp only [if_neg hself]
      cases request with
      | incomplete => rfl
      | illTyped => rfl
      | wellFormed uuid =>
        dsimp only
        cases Text.readUInt64 uuid with
        | none => rfl
        | some number =>
          cases out.token with
          | false => rfl
          | true => cases Text.stoi uuid <;> rfl

theorem windsDown_kickAnswered (c : Cluster) (p : PendingLogin) :
    c.WindsDown (kickAnswered c p).1 := by
  unfold kickAnswered
  split
  · exact .refl c
  · exact c.windsDown_reply_error ..
  · exact c.windsDown_reply_error ..

theorem windsDown_kickCurrent (c : Cluster) (p : PendingLogin) (current : String) :
    c.WindsDown (kickCurrent c p current).1 := by
  unfold kickCurrent
  split
  · split <;> exact .refl c
  · split
    · exact windsDown_kickAnswered c p
    · split
      · exact windsDown_kickAnswered c p
      · exact .refl c

theorem windsDown_kickRemove (c : Cluster) (p : PendingLogin) (current : String)
    (old : SessionId) : c.WindsDown (kickRemove c p current old).1 := by
  unfold kickRemove
  dsimp only
  split
  · exact c.windsDown_removeUsrSessionId ..
  · exact (c.windsDown_removeUsrSessionId ..).trans (windsDown_kickAnswered ..)

theorem windsDown_call (c : Cluster) (call : ManagerCall) : c.WindsDown (call.run c) := by
  cases call with
  | ended sid => exact c.windsDown_ended ..
  | removeRedisCache sid lock => exact c.windsDown_removeRedisCache ..
  | moveUserToTerminationZone server uuid => exact c.windsDown_moveUserToTerminationZone ..
  | removeUsrSession server uuid => exact c.windsDown_removeUsrSession ..
  | removeUsrSessionId server uuid sid => exact c.windsDown_removeUsrSessionId ..
  | terminated sid =>
    exact c.windsDown_modifySession sid (fun _ => rfl) (fun _ => rfl)
      (fun s hs => absurd hs s.not_live_terminated) fun _ _ => Iff.rfl
  | eraseWaitingSession server uuid =>
    show c.WindsDown (c.modifyManager server fun m => m.eraseWaitingSession uuid)
    exact c.windsDown_modifyManager server fun _ _ _ hi => hi

/-- A step of a login registers its session, answers it, or logs nobody in. -/
theorem work_cases (c : Cluster) (p : PendingLogin) :
    (p.stage = .register ∧ work c p = (c.register p.sid p.uuid, some .answer)) ∨
      (p.stage = .answer ∧ work c p = (c.answer p.sid p.number p.out, none)) ∨
      (p.stage ≠ .answer ∧ c.WindsDown (work c p).1 ∧ ∃ stage, (work c p).2 = some stage) := by
  unfold work
  cases hstage : p.stage with
  | acquire => exact Or.inr (Or.inr ⟨by simp, .refl c, _, rfl⟩)
  | kick current =>
    cases current with
    | none => exact Or.inr (Or.inr ⟨by simp, .refl c, _, rfl⟩)
    | some current => exact Or.inr (Or.inr ⟨by simp, windsDown_kickCurrent c p current, _, rfl⟩)
  | move old =>
    exact Or.inr (Or.inr ⟨by simp, c.windsDown_moveUserToTerminationZone .., _, rfl⟩)
  | remove current old =>
    exact Or.inr (Or.inr ⟨by simp, windsDown_kickRemove c p current old, _, rfl⟩)
  | label => exact Or.inr (Or.inr ⟨by simp, c.windsDown_redis _, _, rfl⟩)
  | register => exact Or.inl ⟨rfl, rfl⟩
  | answer => exact Or.inr (Or.inl ⟨rfl, rfl⟩)

/-- What a step does: a connection is accepted, a login starts or goes on, or sessions wind down
    while the workers stay where they are. -/
theorem step_cases {s s' : Servers} {e : Event} (hstep : step s e = some s') :
    (∃ server, e = .handler (.accept server) ∧
      s' = { s with cluster := ClusterRuns.acceptSession s.cluster server }) ∨
    (∃ sid request out, e = .handler (.login sid request out) ∧ sid < s.cluster.accepted ∧
      s.worker (s.cluster.session sid).server = none ∧ s' = s.startLogin sid request out) ∨
    (∃ server p, e = .work server ∧ s.worker server = some p ∧ s' = s.work server p) ∨
    ((∀ server, e ≠ .work server) ∧ s.cluster.WindsDown s'.cluster ∧ s'.worker = s.worker) := by
  cases e with
  | work server =>
    obtain ⟨p, hp, rfl⟩ := Option.map_eq_some_iff.mp hstep
    exact Or.inr (Or.inr (Or.inl ⟨server, p, rfl, hp, rfl⟩))
  | call call =>
    obtain rfl := Option.some.inj hstep
    exact Or.inr (Or.inr (Or.inr ⟨by simp, windsDown_call s.cluster call, rfl⟩))
  | handler e =>
    obtain ⟨hfree, hstep⟩ := Option.ite_none_right_eq_some.mp hstep
    cases e with
    | login sid request out =>
      obtain ⟨haccepted, hs'⟩ := Option.ite_none_right_eq_some.mp hstep
      exact Or.inr (Or.inl ⟨sid, request, out, rfl, haccepted, Option.isNone_iff_eq_none.mp hfree,
        (Option.some.inj hs').symm⟩)
    | _ =>
      obtain ⟨c, hc, rfl⟩ := Option.map_eq_some_iff.mp hstep
      rcases ClusterRuns.step_cases hc with ⟨server, he, rfl⟩ | ⟨_, _, _, he, -⟩ | hdown
      · exact Or.inl ⟨server, by rw [he], rfl⟩
      · cases he
      · exact Or.inr (Or.inr (Or.inr ⟨by simp, hdown, rfl⟩))

/-! ## Who holds a number after a step -/

theorem holds_of_windsDown {c c' : Cluster} (hdown : c.WindsDown c') {i : SessionId} {user : Nat}
    (h : c'.Holds i user) : c.Holds i user :=
  ⟨hdown.live i h.1, (hdown.told i user).mp h.2⟩

theorem holds_of_acceptSession {c : Cluster} {server : String} {i : SessionId} {user : Nat}
    (h : (ClusterRuns.acceptSession c server).Holds i user) : c.Holds i user := by
  by_cases hnew : i = c.accepted
  · subst hnew
    have htold := h.2
    simp [ClusterRuns.acceptSession, ChatSession.accepted, ChatSession.Told] at htold
  · simpa [Cluster.Holds, ClusterRuns.acceptSession, hnew] using h

theorem live_of_work {c : Cluster} {p : PendingLogin} {i : SessionId}
    (h : ((work c p).1.session i).Live) : (c.session i).Live := by
  rcases work_cases c p with ⟨-, hwork⟩ | ⟨-, hwork⟩ | ⟨-, hdown, -⟩
  · rw [hwork] at h
    exact (Cluster.live_register ..).mp h
  · rw [hwork] at h
    rcases c.answer_cases p.sid p.number p.out with ⟨-, hanswer⟩ | ⟨-, hdown⟩
    · dsimp only at h
      rw [hanswer] at h
      exact (Cluster.live_reply ..).mp h
    · exact hdown.live i h
  · exact hdown.live i h

/-- Only an answer with success lets a session hold a number. -/
theorem holds_of_work {c : Cluster} {p : PendingLogin}
    (hnot : p.stage = .answer → p.out.profile ≠ .found) {i : SessionId} {user : Nat}
    (h : (work c p).1.Holds i user) : c.Holds i user := by
  rcases work_cases c p with ⟨-, hwork⟩ | ⟨hstage, hwork⟩ | ⟨-, hdown, -⟩
  · rw [hwork] at h
    exact ⟨(Cluster.live_register ..).mp h.1, (Cluster.told_register ..).mp h.2⟩
  · rw [hwork] at h
    rcases c.answer_cases p.sid p.number p.out with ⟨hfound, -⟩ | ⟨-, hdown⟩
    · exact absurd hfound (hnot hstage)
    · exact holds_of_windsDown hdown h
  · exact holds_of_windsDown hdown h

theorem work_answer {c : Cluster} {p : PendingLogin} (hstage : p.stage = .answer)
    (hfound : p.out.profile = .found) :
    (work c p).1 = c.modifySession p.sid fun s => s.reply (.success p.number) := by
  unfold work Cluster.answer
  rw [hstage, hfound]

theorem holds_reply_self (c : Cluster) (sid : SessionId) (number user : Nat) :
    (c.modifySession sid fun s => s.reply (.success number)).Holds sid user ↔
      (c.session sid).Live ∧ ((c.session sid).Told user ∨ user = number) := by
  unfold Cluster.Holds
  rw [Cluster.session_modifySession, if_pos rfl, ChatSession.told_reply_success]
  exact Iff.rfl

theorem holds_reply_other (c : Cluster) {sid i : SessionId} (hi : i ≠ sid) (number user : Nat) :
    (c.modifySession sid fun s => s.reply (.success number)).Holds i user ↔ c.Holds i user := by
  unfold Cluster.Holds
  rw [Cluster.session_modifySession, if_neg hi]

theorem single_reply_iff {c : Cluster} (h : Exclusive c.Holds) (sid : SessionId) (number : Nat) :
    Exclusive (c.modifySession sid fun s => s.reply (.success number)).Holds ↔
      ((c.session sid).Live → ∀ i, i ≠ sid → ¬c.Holds i number) := by
  by_cases hlive : (c.session sid).Live
  · rw [imp_iff_right hlive]
    apply exclusive_grant_iff h
    · intro user
      rw [holds_reply_self, Cluster.Holds, and_iff_right hlive, and_iff_right hlive]
    · intro i hi user
      rw [holds_reply_other c hi, not_false_eq_true, and_true]
  · apply iff_of_true
    · apply h.mono
      intro i user hi
      by_cases heq : i = sid
      · subst heq
        exact absurd ((holds_reply_self ..).mp hi).1 hlive
      · exact (holds_reply_other c heq number user).mp hi
    · exact fun hl => absurd hl hlive

theorem single_step {s s' : Servers} {e : Event} (h : Single s) (halone : GrantsAlone s e)
    (hstep : step s e = some s') : Single s' := by
  rcases step_cases hstep with ⟨server, -, rfl⟩ | ⟨sid, request, out, -, -, -, rfl⟩ |
    ⟨server, p, rfl, hp, rfl⟩ | ⟨-, hdown, -⟩
  · exact h.mono fun _ _ => holds_of_acceptSession
  · exact h.mono fun _ _ => holds_of_windsDown (windsDown_startLogin ..)
  · by_cases hgrant : p.stage = .answer ∧ p.out.profile = .found
    · show Exclusive (work s.cluster p).1.Holds
      rw [work_answer hgrant.1 hgrant.2]
      exact (single_reply_iff h ..).mpr (halone p hp hgrant.1 hgrant.2)
    · exact h.mono fun _ _ => holds_of_work fun hstage hfound => hgrant ⟨hstage, hfound⟩
  · exact h.mono fun _ _ => holds_of_windsDown hdown

theorem not_single_step {s s' : Servers} {e : Event} (h : Single s) (halone : ¬GrantsAlone s e)
    (hstep : step s e = some s') : ¬Single s' := by
  intro hsingle
  apply halone
  cases e with
  | handler e => trivial
  | call call => trivial
  | work server =>
    intro p hp hstage hfound
    obtain ⟨p', hp', rfl⟩ := Option.map_eq_some_iff.mp hstep
    obtain rfl := Option.some.inj (hp.symm.trans hp')
    change Exclusive (work s.cluster p).1.Holds at hsingle
    rw [work_answer hstage hfound] at hsingle
    exact (single_reply_iff h ..).mp hsingle

theorem single_init : Single init := by
  intro user i j hi
  cases hi.1.1

/-! ## The workers -/

structure Inv (s : Servers) : Prop where
  registered : s.cluster.Registered
  accepted : ∀ server p, s.worker server = some p → p.sid < s.cluster.accepted
  server : ∀ server p, s.worker server = some p → (s.cluster.session p.sid).server = server
  unregistered : ∀ server p, s.worker server = some p → p.stage ≠ .answer →
    ∀ server' key, s.cluster.getSession server' key ≠ some p.sid

theorem inv_windsDown {s : Servers} {c : Cluster} (h : Inv s) (hdown : s.cluster.WindsDown c) :
    Inv { s with cluster := c } where
  registered := h.registered.windsDown hdown
  accepted server p hp := by
    show p.sid < c.accepted
    rw [hdown.accepted]
    exact h.accepted server p hp
  server server p hp := (hdown.server p.sid).trans (h.server server p hp)
  unregistered server p hp hstage server' key hkey :=
    h.unregistered server p hp hstage server' key (hdown.registered server' key _ hkey)

/-- The worker of a server is given another login, or none. -/
theorem inv_setWorker {s : Servers} (h : Inv s) (server : String) (next : Option PendingLogin)
    (hnext : ∀ p, next = some p → p.sid < s.cluster.accepted ∧
      (s.cluster.session p.sid).server = server ∧
        (p.stage ≠ .answer → ∀ server' key, s.cluster.getSession server' key ≠ some p.sid)) :
    Inv { s with worker := Function.update s.worker server next } := by
  have hcases {server' : String} {p : PendingLogin}
      (hp : Function.update s.worker server next server' = some p) :
      server' = server ∧ next = some p ∨ s.worker server' = some p := by
    rw [Function.update_apply] at hp
    split at hp
    · rename_i heq
      exact Or.inl ⟨heq, hp⟩
    · exact Or.inr hp
  constructor
  case registered => exact h.registered
  case accepted =>
    intro server' p hp
    rcases hcases hp with ⟨-, hnew⟩ | hold
    · exact (hnext p hnew).1
    · exact h.accepted server' p hold
  case server =>
    intro server' p hp
    rcases hcases hp with ⟨rfl, hnew⟩ | hold
    · exact (hnext p hnew).2.1
    · exact h.server server' p hold
  case unregistered =>
    intro server' p hp
    rcases hcases hp with ⟨-, hnew⟩ | hold
    · exact (hnext p hnew).2.2
    · exact h.unregistered server' p hold

theorem inv_acceptSession {s : Servers} (h : Inv s) (server : String) :
    Inv { s with cluster := ClusterRuns.acceptSession s.cluster server } where
  registered := ClusterRuns.registered_acceptSession h.registered server
  accepted server' p hp := Nat.lt_succ_of_lt (h.accepted server' p hp)
  server server' p hp := by
    have hne : p.sid ≠ s.cluster.accepted := Nat.ne_of_lt (h.accepted server' p hp)
    show (Function.update s.cluster.session _ _ p.sid).server = server'
    rw [Function.update_of_ne hne]
    exact h.server server' p hp
  unregistered := h.unregistered

theorem inv_startLogin {s : Servers} (h : Inv s) {sid : SessionId}
    (haccepted : sid < s.cluster.accepted) (request : AccountRequest) (out : LoginOutcome) :
    Inv (s.startLogin sid request out) := by
  have hdown := windsDown_startLogin s.cluster sid request out
  apply inv_setWorker (inv_windsDown h hdown)
  intro p hp
  obtain ⟨rfl, -, hself, hsame⟩ := startLogin_eq_some hp
  show p.sid < (startLogin s.cluster p.sid request out).1.accepted ∧ _
  rw [hsame]
  exact ⟨haccepted, rfl, fun _ _ _ => h.registered.ne_of_self hself⟩

/-- Two workers are not at the same session. -/
theorem sid_ne {s : Servers} (h : Inv s) {server server' : String} {p q : PendingLogin}
    (hp : s.worker server = some p) (hq : s.worker server' = some q) (hne : server' ≠ server) :
    q.sid ≠ p.sid := by
  intro heq
  apply hne
  rw [← h.server server p hp, ← h.server server' q hq, heq]

/-- Which login is in the hands of a worker after a step of one. -/
theorem worker_work {s : Servers} {server server' : String} {p q : PendingLogin}
    (hq : (s.work server p).worker server' = some q) :
    (server' = server ∧ ∃ stage, (work s.cluster p).2 = some stage ∧ q = p.withStage stage) ∨
      (server' ≠ server ∧ s.worker server' = some q) := by
  unfold Servers.work at hq
  dsimp only at hq
  rw [Function.update_apply] at hq
  split at hq
  · rename_i heq
    obtain ⟨stage, hstage, rfl⟩ := Option.map_eq_some_iff.mp hq
    exact Or.inl ⟨heq, stage, hstage, rfl⟩
  · rename_i hne
    exact Or.inr ⟨hne, hq⟩

theorem inv_work_register {s : Servers} (h : Inv s) {server : String} {p : PendingLogin}
    (hp : s.worker server = some p) (hstage : p.stage = .register)
    (hwork : work s.cluster p = (s.cluster.register p.sid p.uuid, some .answer)) :
    Inv (s.work server p) := by
  have hcluster : (s.work server p).cluster = s.cluster.register p.sid p.uuid :=
    congrArg Prod.fst hwork
  have hnot := h.unregistered server p hp (by simp [hstage])
  constructor
  case registered =>
    rw [hcluster]
    exact Cluster.registered_register h.registered (h.accepted server p hp) p.uuid hnot
  case accepted =>
    intro server' q hq
    rw [hcluster]
    rcases worker_work hq with ⟨-, stage, -, rfl⟩ | ⟨-, hold⟩
    · exact h.accepted server p hp
    · exact h.accepted server' q hold
  case server =>
    intro server' q hq
    rw [hcluster, Cluster.server_register]
    rcases worker_work hq with ⟨rfl, stage, -, rfl⟩ | ⟨-, hold⟩
    · exact h.server server' p hp
    · exact h.server server' q hold
  case unregistered =>
    intro server' q hq hqstage server'' key hkey
    rw [hcluster] at hkey
    rcases worker_work hq with ⟨-, stage, hnext, rfl⟩ | ⟨hne, hold⟩
    · rw [hwork] at hnext
      exact hqstage (Option.some.inj hnext).symm
    · rcases Cluster.getSession_register_eq_some hkey with hbefore | ⟨-, -, heq⟩
      · exact h.unregistered server' q hold hqstage server'' key hbefore
      · exact sid_ne h hp hold hne heq

theorem inv_work {s : Servers} (h : Inv s) {server : String} {p : PendingLogin}
    (hp : s.worker server = some p) : Inv (s.work server p) := by
  rcases work_cases s.cluster p with ⟨hstage, hwork⟩ | ⟨-, hwork⟩ | ⟨hstage, hdown, next, hnext⟩
  · exact inv_work_register h hp hstage hwork
  · unfold Servers.work
    rw [hwork]
    have hanswered : Inv { s with cluster := s.cluster.answer p.sid p.number p.out } := by
      rcases s.cluster.answer_cases p.sid p.number p.out with ⟨-, hanswer⟩ | ⟨-, hdown⟩
      · rw [hanswer]
        constructor
        case registered => exact Cluster.registered_reply h.registered _ _
        case accepted => exact h.accepted
        case server =>
          intro server' q hq
          rw [Cluster.session_modifySession]
          split <;> exact h.server server' q hq
        case unregistered => exact h.unregistered
      · exact inv_windsDown h hdown
    exact inv_setWorker hanswered server none (by simp)
  · unfold Servers.work
    rw [hnext]
    apply inv_setWorker (inv_windsDown h hdown)
    intro q hq
    obtain rfl := Option.some.inj hq
    refine ⟨?_, (hdown.server p.sid).trans (h.server server p hp), fun _ server' key hkey => ?_⟩
    · show p.sid < (work s.cluster p).1.accepted
      rw [hdown.accepted]
      exact h.accepted server p hp
    · exact h.unregistered server p hp hstage server' key (hdown.registered server' key _ hkey)

theorem inv_step {s s' : Servers} {e : Event} (h : Inv s) (hstep : step s e = some s') :
    Inv s' := by
  rcases step_cases hstep with ⟨server, -, rfl⟩ | ⟨sid, request, out, -, haccepted, -, rfl⟩ |
    ⟨server, p, -, hp, rfl⟩ | ⟨-, hdown, hworker⟩
  · exact inv_acceptSession h server
  · exact inv_startLogin h haccepted request out
  · exact inv_work h hp
  · obtain ⟨c, worker⟩ := s'
    obtain rfl : worker = s.worker := hworker
    exact inv_windsDown h hdown

theorem inv_init : Inv init where
  registered := by
    intro server uuid i hi
    cases hi
  accepted := by
    intro server p hp
    cases hp
  server := by
    intro server p hp
    cases hp
  unregistered := by
    intro server p hp
    cases hp

/-! ## What the kicks have to do -/

theorem live_kickAnswered (c : Cluster) (p : PendingLogin) (i : SessionId) :
    ((kickAnswered c p).1.session i).Live ↔ (c.session i).Live := by
  unfold kickAnswered
  split
  · exact Iff.rfl
  · exact Cluster.live_reply ..
  · exact Cluster.live_reply ..

/-- Who the kick displaces is not live any more. -/
theorem not_live_of_displaces {c : Cluster} {p : PendingLogin} {i : SessionId}
    (hi : Displaces c p i) : ¬((work c p).1.session i).Live := by
  obtain ⟨current, hstage, hwaiting⟩ := hi
  have hgone : ¬((c.removeUsrSessionId current (kickKey c p current i) i).session i).Live :=
    fun hlive => ((Cluster.live_removeUsrSessionId ..).mp hlive).2 ⟨hwaiting, rfl⟩
  unfold work
  rw [hstage]
  dsimp only
  unfold kickRemove
  dsimp only
  split
  · exact hgone
  · exact fun hlive => hgone ((live_kickAnswered ..).mp hlive)

/-- Logins that have kicked are alone with their numbers. -/
structure Settled (s : Servers) : Prop where
  inv : Inv s
  single : Single s
  alone : ∀ server p, s.worker server = some p → p.Kicked → p.LetsIn s.cluster →
    ∀ i, i ≠ p.sid → ¬s.cluster.Holds i p.number
  distinct : ∀ server server' p q, s.worker server = some p → s.worker server' = some q →
    p.Kicked → q.Kicked → p.LetsIn s.cluster → q.LetsIn s.cluster → p.number = q.number →
      server = server'

/-- Nobody gets a number, and no login gets past its kick. -/
theorem settled_mono {s s' : Servers} (h : Settled s) (hinv : Inv s')
    (hholds : ∀ i user, s'.cluster.Holds i user → s.cluster.Holds i user)
    (hlive : ∀ i, i < s.cluster.accepted → (s'.cluster.session i).Live →
      (s.cluster.session i).Live)
    (hworker : ∀ server q, s'.worker server = some q → q.Kicked →
      ∃ p, s.worker server = some p ∧ p.Kicked ∧ q = p.withStage q.stage) : Settled s' where
  inv := hinv
  single := h.single.mono hholds
  alone := by
    intro server q hq hkicked hletsIn i hi hnumber
    obtain ⟨p, hp, hpkicked, heq⟩ := hworker server q hq hkicked
    rw [heq] at hletsIn hi hnumber
    have hl := hlive p.sid (h.inv.accepted server p hp) hletsIn.1
    exact h.alone server p hp hpkicked ⟨hl, hletsIn.2⟩ i hi (hholds i _ hnumber)
  distinct := by
    intro server server' q r hq hr hqkicked hrkicked hqletsIn hrletsIn hnumber
    obtain ⟨p, hp, hpkicked, heq⟩ := hworker server q hq hqkicked
    obtain ⟨p', hp', hpkicked', heq'⟩ := hworker server' r hr hrkicked
    rw [heq] at hqletsIn hnumber
    rw [heq'] at hrletsIn hnumber
    have hl := hlive p.sid (h.inv.accepted server p hp) hqletsIn.1
    have hl' := hlive p'.sid (h.inv.accepted server' p' hp') hrletsIn.1
    exact h.distinct server server' p p' hp hp' hpkicked hpkicked' ⟨hl, hqletsIn.2⟩
      ⟨hl', hrletsIn.2⟩ hnumber

/-- The step of the kick. -/
theorem settled_kick {s : Servers} (h : Settled s) {server : String} {p : PendingLogin}
    (hp : s.worker server = some p) (hkicks : p.Kicks s.cluster)
    (hothers : DisplacesOthers s (.work server)) : Settled (s.work server p) := by
  have hnot : p.stage = .answer → p.out.profile ≠ .found :=
    fun hstage => absurd (Or.inr (Or.inr hstage)) hkicks.1
  have hlive {q : PendingLogin} (hq : q.LetsIn (s.work server p).cluster) :
      q.LetsIn s.cluster :=
    ⟨live_of_work hq.1, hq.2⟩
  constructor
  case inv => exact inv_work h.inv hp
  case single => exact h.single.mono fun _ _ => holds_of_work hnot
  case alone =>
    intro server' q hq hqkicked hqletsIn i hi hnumber
    rcases worker_work hq with ⟨-, stage, -, rfl⟩ | ⟨-, hold⟩
    · have hletsIn : p.LetsIn s.cluster := hlive hqletsIn
      have hdisplaced := (hothers p hp hkicks hletsIn).1 i hi (holds_of_work hnot hnumber)
      exact not_live_of_displaces hdisplaced hnumber.1
    · exact h.alone server' q hold hqkicked (hlive hqletsIn) i hi (holds_of_work hnot hnumber)
  case distinct =>
    intro server₁ server₂ q r hq hr hqkicked hrkicked hqletsIn hrletsIn hnumber
    rcases worker_work hq with ⟨heq₁, stage, -, rfl⟩ | ⟨-, hqold⟩
    · rcases worker_work hr with ⟨heq₂, -⟩ | ⟨-, hrold⟩
      · rw [heq₁, heq₂]
      · have hletsIn : p.LetsIn s.cluster := hlive hqletsIn
        exact absurd hnumber.symm
          ((hothers p hp hkicks hletsIn).2 server₂ r hrold hrkicked (hlive hrletsIn))
    · rcases worker_work hr with ⟨-, stage, -, rfl⟩ | ⟨-, hrold⟩
      · have hletsIn : p.LetsIn s.cluster := hlive hrletsIn
        exact absurd hnumber
          ((hothers p hp hkicks hletsIn).2 server₁ q hqold hqkicked (hlive hqletsIn))
      · exact h.distinct server₁ server₂ q r hqold hrold hqkicked hrkicked (hlive hqletsIn)
          (hlive hrletsIn) hnumber

/-- An answer with success. -/
theorem settled_answer {s : Servers} (h : Settled s) {server : String} {p : PendingLogin}
    (hp : s.worker server = some p) (hstage : p.stage = .answer)
    (hfound : p.out.profile = .found) : Settled (s.work server p) := by
  have hkicked : p.Kicked := Or.inr (Or.inr hstage)
  have hcluster : (s.work server p).cluster =
      s.cluster.modifySession p.sid fun s => s.reply (.success p.number) :=
    work_answer hstage hfound
  have hold {server' : String} {q : PendingLogin}
      (hq : (s.work server p).worker server' = some q) :
      server' ≠ server ∧ s.worker server' = some q := by
    rcases worker_work hq with ⟨-, stage, hnext, -⟩ | hold
    · unfold work at hnext
      rw [hstage] at hnext
      cases hnext
    · exact hold
  have hlive {q : PendingLogin} (hq : q.LetsIn (s.work server p).cluster) :
      q.LetsIn s.cluster :=
    ⟨live_of_work hq.1, hq.2⟩
  constructor
  case inv => exact inv_work h.inv hp
  case single =>
    show Exclusive (s.work server p).cluster.Holds
    rw [hcluster, single_reply_iff h.single]
    exact fun hl => h.alone server p hp hkicked ⟨hl, hfound⟩
  case alone =>
    intro server' q hq hqkicked hqletsIn i hi hnumber
    obtain ⟨hne, hq⟩ := hold hq
    rw [hcluster] at hnumber
    by_cases heq : i = p.sid
    · subst heq
      obtain ⟨hl, htold | hsame⟩ := (holds_reply_self ..).mp hnumber
      · exact h.alone server' q hq hqkicked (hlive hqletsIn) p.sid hi ⟨hl, htold⟩
      · exact hne (h.distinct server' server q p hq hp hqkicked hkicked (hlive hqletsIn)
          ⟨hl, hfound⟩ hsame)
    · exact h.alone server' q hq hqkicked (hlive hqletsIn) i hi
        ((holds_reply_other _ heq ..).mp hnumber)
  case distinct =>
    intro server₁ server₂ q r hq hr hqkicked hrkicked hqletsIn hrletsIn
    exact h.distinct server₁ server₂ q r (hold hq).2 (hold hr).2 hqkicked hrkicked
      (hlive hqletsIn) (hlive hrletsIn)

theorem settled_work {s : Servers} (h : Settled s) {server : String} {p : PendingLogin}
    (hp : s.worker server = some p) (hothers : DisplacesOthers s (.work server)) :
    Settled (s.work server p) := by
  by_cases hkicks : p.Kicks s.cluster
  · exact settled_kick h hp hkicks hothers
  by_cases hgrant : p.stage = .answer ∧ p.out.profile = .found
  · exact settled_answer h hp hgrant.1 hgrant.2
  have hnot : p.stage = .answer → p.out.profile ≠ .found := fun hstage hfound =>
    hgrant ⟨hstage, hfound⟩
  apply settled_mono h (inv_work h.inv hp)
  · exact fun _ _ => holds_of_work hnot
  · exact fun _ _ => live_of_work
  · intro server' q hq hqkicked
    rcases worker_work hq with ⟨rfl, stage, hnext, rfl⟩ | ⟨-, hq⟩
    · refine ⟨p, hp, ?_, rfl⟩
      by_contra hbefore
      exact hkicks ⟨hbefore, stage, hnext, hqkicked⟩
    · exact ⟨q, hq, hqkicked, rfl⟩

theorem settled_startLogin {s : Servers} (h : Settled s) {sid : SessionId}
    (haccepted : sid < s.cluster.accepted) (request : AccountRequest) (out : LoginOutcome) :
    Settled (s.startLogin sid request out) := by
  have hdown := windsDown_startLogin s.cluster sid request out
  apply settled_mono h (inv_startLogin h.inv haccepted request out)
  · exact fun _ _ => holds_of_windsDown hdown
  · exact fun i _ => hdown.live i
  · intro server q hq hqkicked
    unfold Servers.startLogin at hq
    dsimp only at hq
    rw [Function.update_apply] at hq
    split at hq
    · have hstage := (startLogin_eq_some hq).2.1
      unfold PendingLogin.Kicked at hqkicked
      rw [hstage] at hqkicked
      rcases hqkicked with hnext | hnext | hnext <;> cases hnext
    · exact ⟨q, hq, hqkicked, rfl⟩

theorem settled_step {s s' : Servers} {e : Event} (h : Settled s) (hothers : DisplacesOthers s e)
    (hstep : step s e = some s') : Settled s' := by
  have hinv := inv_step h.inv hstep
  rcases step_cases hstep with ⟨server, -, rfl⟩ | ⟨sid, request, out, -, haccepted, -, rfl⟩ |
    ⟨server, p, rfl, hp, rfl⟩ | ⟨-, hdown, hworker⟩
  · apply settled_mono h hinv
    · exact fun _ _ => holds_of_acceptSession
    · intro i hi hlive
      change (Function.update s.cluster.session _ _ i).Live at hlive
      rwa [Function.update_of_ne (Nat.ne_of_lt hi)] at hlive
    · exact fun server q hq hqkicked => ⟨q, hq, hqkicked, rfl⟩
  · exact settled_startLogin h haccepted request out
  · exact settled_work h hp hothers
  · apply settled_mono h hinv
    · exact fun _ _ => holds_of_windsDown hdown
    · exact fun i _ => hdown.live i
    · intro server q hq hqkicked
      rw [hworker] at hq
      exact ⟨q, hq, hqkicked, rfl⟩

theorem settled_init : Settled init where
  inv := inv_init
  single := single_init
  alone := by
    intro server p hp
    cases hp
  distinct := by
    intro server server' p q hp
    cases hp

/-! ## Runs -/

/-- Along a run no user number ever has two live sessions exactly when every answer with success
    finds no other live session of its number, as it does where every login displaces the others. -/
theorem always_single_iff_grantsAlone (es : List Event) :
    (Trace.Always step Single init es ↔ Trace.Meets step GrantsAlone init es) ∧
      (Trace.Meets step DisplacesOthers init es → Trace.Always step Single init es) := by
  constructor
  · apply Trace.always_iff_meets Single
    · exact fun _ h => h
    · exact fun _ _ _ h halone hstep => single_step h halone hstep
    · exact fun _ _ _ h halone hstep => not_single_step h halone hstep
    · exact single_init
  · intro hmeets
    have hsettled : Trace.Always step Settled init es :=
      Trace.always_of_meets Settled (fun _ _ _ h hothers hstep => settled_step h hothers hstep)
        settled_init hmeets
    exact Trace.always_mono (fun _ h => h.single) hsettled

/-- A whole login on a server, where nobody is to be kicked. -/
def wholeLogin (sid : SessionId) (server : String) : List Event :=
  [.handler (.login sid (.wellFormed "7") ClusterRuns.smooth), .work server, .work server,
    .work server, .work server, .work server]

/-- User 7 logs in on one server, then on another one, which kicks the first session in vain. -/
theorem not_single_two_servers :
    ¬Trace.Always step Single init
      (.handler (.accept "A") :: wholeLogin 0 "A" ++ .handler (.accept "B") ::
        wholeLogin 1 "B" ++ [.work "B"]) := by
  intro h
  have hlast := Trace.exec_of_always h rfl
  exact absurd (hlast 7 0 1 (by decide) (by decide)) (by decide)

/-! ## Handlers one at a time -/

/-- The worker of the server is given the login, or none. -/
def Servers.give (s : Servers) (server : String) (c : Cluster) (next : Option PendingLogin) :
    Servers :=
  ⟨c, Function.update s.worker server next⟩

/-- A login goes on in the state after its next step. -/
theorem reaches_of_work {s : Servers} {server : String} {c : Cluster} {p : PendingLogin}
    {s' : Servers}
    (h : Trace.Reaches step (s.give server (work c p).1 ((work c p).2.map p.withStage)) s') :
    Trace.Reaches step (s.give server c (some p)) s' := by
  obtain ⟨es, hes⟩ := h
  have hworker : (s.give server c (some p)).worker server = some p := Function.update_self ..
  have hstep : step (s.give server c (some p)) (.work server) =
      some (s.give server (work c p).1 ((work c p).2.map p.withStage)) := by
    show ((s.give server c (some p)).worker server).map _ = _
    rw [hworker, Option.map_some, Servers.work, Servers.give, Servers.give, Function.update_idem]
  exact ⟨.work server :: es, by rw [Trace.exec_cons, hstep, Option.bind_some, hes]⟩

theorem kickRemove_here {c : Cluster} {p : PendingLogin} {current : String}
    (hhere : current = (c.session p.sid).server) (old : SessionId) :
    kickRemove c p current old =
      (c.removeUsrSessionId current (c.session old).uuid old, .label) := by
  unfold kickRemove kickKey
  dsimp only
  rw [if_pos hhere, if_pos hhere]

theorem kickRemove_there {c : Cluster} {p : PendingLogin} {current : String}
    (hthere : current ≠ (c.session p.sid).server) (old : SessionId) :
    kickRemove c p current old =
      kickAnswered (c.removeUsrSessionId current p.uuidInt.repr old) p := by
  unfold kickRemove kickKey
  dsimp only
  rw [if_neg hthere, if_neg hthere]

theorem reaches_of_remove {s : Servers} {server : String} {c : Cluster} {p : PendingLogin}
    {current : String} {old : SessionId} {r : Cluster × LoginStage} {s' : Servers}
    (hremove : kickRemove c p current old = r)
    (h : Trace.Reaches step (s.give server r.1 (some (p.withStage r.2))) s') :
    Trace.Reaches step (s.give server c (some (p.withStage (.remove current old)))) s' := by
  subst hremove
  exact reaches_of_work h

/-- A kick on this server that nothing comes between does what `kickHere` does. -/
theorem reaches_kick_here {s : Servers} {server : String} {c : Cluster} {p : PendingLogin}
    {current : String} {s' : Servers} (hhere : current = (c.session p.sid).server)
    (h : Trace.Reaches step
      (s.give server (c.kickHere current p.uuid) (some (p.withStage .label))) s') :
    Trace.Reaches step (s.give server c (some (p.withStage (.kick (some current))))) s' := by
  apply reaches_of_work
  show Trace.Reaches step (s.give server (kickCurrent c p current).1
    (some (p.withStage (kickCurrent c p current).2))) s'
  unfold kickCurrent
  unfold Cluster.kickHere at h
  rw [if_pos hhere]
  cases hold : c.getSession current p.uuid with
  | none => simpa only [hold] using h
  | some old =>
    simp only [hold] at h
    subst hhere
    apply reaches_of_work
    -- the move leaves the sessions as they are
    exact reaches_of_remove (kickRemove_here rfl old) h

/-- A remote kick that nothing comes between does what `forceTerminateLoginedUser` does. -/
theorem reaches_kick_there {s : Servers} {server : String} {c : Cluster} {p : PendingLogin}
    {current : String} {s' : Servers} (hthere : current ≠ (c.session p.sid).server)
    (h : let kicked := if p.out.kick = .notDelivered then c
        else c.forceTerminateLoginedUser current p.uuidInt
      Trace.Reaches step (s.give server (kickAnswered kicked p).1
        (some (p.withStage (kickAnswered kicked p).2))) s') :
    Trace.Reaches step (s.give server c (some (p.withStage (.kick (some current))))) s' := by
  apply reaches_of_work
  show Trace.Reaches step (s.give server (kickCurrent c p current).1
    (some (p.withStage (kickCurrent c p current).2))) s'
  dsimp only at h
  unfold kickCurrent
  rw [if_neg hthere]
  by_cases hdelivered : p.out.kick = .notDelivered
  · rw [if_pos hdelivered] at h ⊢
    exact h
  · rw [if_neg hdelivered] at h ⊢
    unfold Cluster.forceTerminateLoginedUser at h
    cases hold : c.getSession current p.uuidInt.repr with
    | none => simpa only [hold] using h
    | some old =>
      simp only [hold] at h
      exact reaches_of_remove (kickRemove_there hthere old) h

/-- A login that nothing comes between does what `handlingLogin` does. -/
theorem reaches_answer (s : Servers) (server : String) (c : Cluster) (p : PendingLogin)
    (hstage : p.stage = .acquire) :
    Trace.Reaches step (s.give server c (some p)) (s.give server
      (((c.updateRedisCache p.sid p.uuid p.uuidInt p.out).register p.sid p.uuid).answer p.sid
        p.number p.out) none) := by
  have hregister (c : Cluster) : Trace.Reaches step
      (s.give server c (some (p.withStage .register)))
      (s.give server ((c.register p.sid p.uuid).answer p.sid p.number p.out) none) :=
    reaches_of_work (reaches_of_work ⟨[], rfl⟩)
  have hlabel (c : Cluster) : Trace.Reaches step (s.give server c (some (p.withStage .label)))
      (s.give server (((c.label p.sid p.uuid p.out).register p.sid p.uuid).answer p.sid p.number
        p.out) none) :=
    reaches_of_work (hregister _)
  have hwork : work c p =
      (c, some (if p.out.lock then .kick (c.redis.checkCurrentUser p.uuid) else .register)) := by
    unfold work
    rw [hstage]
  apply reaches_of_work
  rw [hwork]
  unfold Cluster.updateRedisCache
  cases p.out.lock with
  | false => exact hregister c
  | true =>
    rw [if_pos rfl, if_pos rfl]
    cases c.redis.checkCurrentUser p.uuid with
    | none => exact reaches_of_work (hlabel c)
    | some current =>
      dsimp only
      by_cases hhere : current = (c.session p.sid).server
      · rw [if_pos hhere]
        exact reaches_kick_here hhere (hlabel _)
      · rw [if_neg hhere]
        apply reaches_kick_there hhere
        dsimp only
        unfold kickAnswered
        cases p.out.kick with
        | notDelivered => exact hregister _
        | noStatus => exact hregister _
        | answered => exact hlabel _

theorem step_handler {c : Cluster} {e : ClusterEvent}
    (hother : ∀ sid request out, e ≠ .login sid request out) :
    step (.idle c) (.handler e) = (ClusterRuns.step c e).map .idle := by
  cases e with
  | login sid request out => exact absurd rfl (hother sid request out)
  | _ => rfl

/-- A step of the cluster is a run of its servers. -/
theorem reaches_of_step {c c' : Cluster} {e : ClusterEvent}
    (hstep : ClusterRuns.step c e = some c') : Trace.Reaches step (.idle c) (.idle c') := by
  by_cases hlogin : ∃ sid request out, e = .login sid request out
  · obtain ⟨sid, request, out, rfl⟩ := hlogin
    obtain ⟨haccepted, hc⟩ := Option.ite_none_right_eq_some.mp hstep
    obtain rfl := Option.some.inj hc
    let server := (c.session sid).server
    have hstart : step (.idle c) (.handler (.login sid request out)) =
        some ((Servers.idle c).give server (startLogin c sid request out).1
          (startLogin c sid request out).2) :=
      if_pos haccepted
    have hidle (c' : Cluster) : (Servers.idle c).give server c' none = .idle c' := by
      have hnone : Function.update (Servers.idle c).worker server none = (Servers.idle c).worker :=
        Function.update_eq_self server _
      rw [Servers.give, hnone]
      rfl
    have hrest : Trace.Reaches step
        ((Servers.idle c).give server (startLogin c sid request out).1
          (startLogin c sid request out).2) (.idle (c.handlingLogin sid request out)) := by
      rw [handlingLogin_eq]
      cases hp : (startLogin c sid request out).2 with
      | none =>
        rw [hidle]
        exact ⟨[], rfl⟩
      | some p =>
        have hanswer := reaches_answer (.idle c) server (startLogin c sid request out).1 p
          (startLogin_eq_some hp).2.1
        rw [hidle] at hanswer
        exact hanswer
    obtain ⟨es, hes⟩ := hrest
    exact ⟨_ :: es, by rw [Trace.exec_cons, hstart, Option.bind_some, hes]⟩
  · push Not at hlogin
    refine ⟨[.handler e], ?_⟩
    rw [Trace.exec_singleton, step_handler hlogin, hstep, Option.map_some]

/-- Every run of the cluster whose handlers are not interrupted is one of its servers. -/
theorem reaches_of_reaches {c : Cluster} (h : Trace.Reaches ClusterRuns.step .init c) :
    Trace.Reaches step init (.idle c) :=
  h.refines Servers.idle fun _ _ _ => reaches_of_step

end SingleLogin

end DistributedIM.Protocol
