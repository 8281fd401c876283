/-
  The keys `uuid_<uuid>` of a Redis that the chatting servers share with the resources server.

  A chatting login writes the name of its server there, and messages to the user are routed by it.
  A login to the resources server overwrites the same key with its own name, which is the name of no
  chatting server, and its logout deletes the key of the empty uuid. `Origin` says whose login set
  the value of a key.

  `routed_iff`: along a run every route is that of a chatting login exactly if no resources login
  sets its key; and a logout leaves none of the keys of its session exactly if others have replaced
  or deleted them before.

  Every handler runs as one step.
-/
import DistributedIM.Protocol.ClusterRuns
import DistributedIM.ResourcesServer.Login

namespace DistributedIM.Protocol

open DistributedIM.ChattingServer
open DistributedIM.ResourcesServer (LoginServer UuidKeys RedisIo)

namespace SharedRouting

/-- Whose login set the value of a key. -/
inductive Origin
  | chatting (server : String)
  | resources (sid : Nat)
  deriving DecidableEq, Repr

structure Shared where
  cluster : Cluster
  resources : LoginServer
  /-- for the keys that have a value -/
  origin : String → Option Origin
  /-- the sessions of the resources server that have logged out since their last login -/
  departed : Nat → Bool

def Shared.keys (s : Shared) : UuidKeys :=
  s.cluster.redis.server

def Shared.withKeys (c : Cluster) (keys : UuidKeys) : Cluster :=
  { c with redis := { c.redis with server := keys } }

def init (name : String) : Shared where
  cluster := .init
  resources := .start name
  origin _ := none
  departed _ := false

inductive Event
  | chatting (e : ClusterEvent)
  /-- the resources server accepts a connection -/
  | accept
  | login (sid : Nat) (body : Option Json) (io : RedisIo)
  | logout (sid : Nat) (io : RedisIo)

/-! ## What a chatting login writes -/

/-- `labelCurrentUser` runs: nobody else holds the route, or the kick is answered. -/
def reachesLabel (c : Cluster) (sid : SessionId) (uuid : String) (out : LoginOutcome) : Bool :=
  out.lock &&
    match c.redis.checkCurrentUser uuid with
    | none => true
    | some current => current == (c.session sid).server || out.kick == .answered

/-- The server whose name the step writes into the key of the uuid. -/
def labelled (c : Cluster) : ClusterEvent → String → Option String
  | .login sid (.wellFormed uuid) out, key =>
    if key = uuid ∧ (c.getSession (c.session sid).server (c.session sid).uuid).isNone ∧
        (Text.readUInt64 uuid).isSome ∧ out.token = true ∧ (Text.stoi uuid).isSome ∧
        reachesLabel c sid uuid out = true ∧ out.delServer = true ∧ out.setServer = true then
      some (c.session sid).server
    else none
  | _, _ => none

def step (s : Shared) : Event → Option Shared
  | .chatting e =>
    (ClusterRuns.step s.cluster e).map fun c =>
      { s with
        cluster := c
        origin := fun key => ((labelled s.cluster e key).map .chatting).or (s.origin key) }
  | .accept => some { s with resources := s.resources.accept }
  | .login sid body io =>
    if sid < s.resources.accepted then
      let (resources, keys) := s.resources.handlingLogin s.keys sid body io
      some
        { cluster := Shared.withKeys s.cluster keys
          resources := resources
          origin :=
            match s.resources.storedKey body io with
            | none => s.origin
            | some uuid => Function.update s.origin uuid (some (.resources sid))
          departed :=
            match s.resources.storedKey body io with
            | none => s.departed
            | some _ => Function.update s.departed sid false }
    else none
  | .logout sid io =>
    if sid < s.resources.accepted then
      let (resources, keys) := s.resources.handlingLogout s.keys sid io
      some
        { s with
          cluster := Shared.withKeys s.cluster keys
          resources := resources
          departed := Function.update s.departed sid true }
    else none

/-! ## What is to hold -/

/-- Every route is the name of a chatting server that its login of the user has set. -/
def Routed (s : Shared) : Prop :=
  ∀ uuid server, s.keys uuid = some server → s.origin uuid = some (.chatting server)

/-- No key has a value that a login of the session has set. -/
def Cleared (s : Shared) (sid : Nat) : Prop :=
  ∀ uuid, (s.keys uuid).isSome → s.origin uuid ≠ some (.resources sid)

/-- The keys of a session that has logged out are gone. -/
def Removed (s : Shared) : Prop :=
  ∀ sid, s.departed sid = true → Cleared s sid

/-- A login to the resources server sets no key. -/
def SetsNothing (s : Shared) : Event → Prop
  | .login _ body io => s.resources.storedKey body io = none
  | _ => True

/-- The keys of a session that logs out are gone already. -/
def LeavesNothing (s : Shared) : Event → Prop
  | .logout sid _ => Cleared s sid
  | _ => True

/-! ## The keys after a chatting step -/

/-- Keys are deleted, and no more. -/
def Drops (keys keys' : UuidKeys) : Prop :=
  ∀ uuid, keys' uuid = none ∨ keys' uuid = keys uuid

theorem Drops.refl (keys : UuidKeys) : Drops keys keys := fun _ => Or.inr rfl

theorem Drops.trans {keys keys' keys'' : UuidKeys} (h : Drops keys keys')
    (h' : Drops keys' keys'') : Drops keys keys'' := by
  intro uuid
  rcases h' uuid with h' | h'
  · exact Or.inl h'
  · rw [h']
    exact h uuid

theorem drops_removeRedisCache (c : Cluster) (sid : SessionId) (lock : Bool) :
    Drops c.redis.server (c.removeRedisCache sid lock).redis.server := by
  intro uuid
  unfold Cluster.removeRedisCache Redis.removeRedisCache
  split
  · dsimp only
    split
    · by_cases huuid : uuid = (c.session sid).uuid
      · left
        simp [huuid]
      · right
        simp [huuid]
    · exact Or.inr rfl
  · exact Or.inr rfl

theorem redis_removeUsrSession (c : Cluster) (server uuid : String) :
    (c.removeUsrSession server uuid).redis = c.redis := by
  unfold Cluster.removeUsrSession
  split
  · rfl
  · rfl

theorem drops_kickSession (c : Cluster) (sid : SessionId) (lock : Bool) :
    Drops c.redis.server (c.kickSession sid lock).redis.server := by
  unfold Cluster.kickSession
  rw [redis_removeUsrSession]
  exact drops_removeRedisCache c sid lock

theorem drops_foldl {β : Type} {f : Cluster → β → Cluster}
    (hf : ∀ c b, Drops c.redis.server (f c b).redis.server) (c : Cluster) (bs : List β) :
    Drops c.redis.server (bs.foldl f c).redis.server := by
  induction bs generalizing c with
  | nil => exact .refl _
  | cons b bs ih => exact (hf c b).trans (ih (f c b))

theorem drops_heartBeatEvent (c : Cluster) (server : String) (expired : List (String × Bool)) :
    Drops c.redis.server (c.heartBeatEvent server expired).redis.server := by
  unfold Cluster.heartBeatEvent
  refine (drops_foldl ?_ c expired).trans (drops_foldl ?_ _ _)
  · intro c e
    split
    · exact .refl _
    · exact drops_removeRedisCache _ _ _
  · intro c e
    rw [redis_removeUsrSession]
    exact .refl _

theorem drops_purgeRemoveConnection (c : Cluster) (sid : SessionId) (ended lock : Bool) :
    Drops c.redis.server (c.purgeRemoveConnection sid ended lock).redis.server := by
  unfold Cluster.purgeRemoveConnection
  rw [redis_removeUsrSession]
  exact drops_removeRedisCache (c.modifySession sid fun s => s.ended ended) sid lock

theorem redis_handlingLogout (c : Cluster) (sid : SessionId) (request : AccountRequest)
    (token : Bool) : (c.handlingLogout sid request token).redis = c.redis := by
  unfold Cluster.handlingLogout
  split
  · rfl
  · rfl
  · split
    · exact Cluster.redis_removeUsrSessionId ..
    · rfl

theorem redis_checkDeferredTermination (c : Cluster) (sid : SessionId) :
    (c.checkDeferredTermination sid).redis = c.redis := by
  unfold Cluster.checkDeferredTermination
  split
  · split <;> rfl
  · rfl

/-- A key after a step that may have written the value and may have deleted keys. -/
def Follows (written old new : Option String) : Prop :=
  new = none ∨ new = written.or old

theorem relabel_follows (keys : UuidKeys) (uuid value : String) (del set : Bool) (key : String) :
    Follows (if key = uuid ∧ del = true ∧ set = true then some value else none) (keys key)
      ((relabel keys uuid value del set).1 key) := by
  unfold Follows relabel
  cases del with
  | false => simp
  | true =>
    by_cases hkey : key = uuid
    · subst hkey
      cases set <;> simp
    · cases set <;> simp [hkey]

theorem updateRedisCache_follows (c : Cluster) (sid : SessionId) (uuid : String) (uuidInt : Int)
    (out : LoginOutcome) (key : String) :
    Follows
      (if key = uuid ∧ reachesLabel c sid uuid out = true ∧ out.delServer = true ∧
        out.setServer = true then some (c.session sid).server else none)
      (c.redis.server key) ((c.updateRedisCache sid uuid uuidInt out).redis.server key) := by
  have hlabel {c' : Cluster} (hredis : c'.redis = c.redis)
      (hserver : (c'.session sid).server = (c.session sid).server) :
      Follows (if key = uuid ∧ out.delServer = true ∧ out.setServer = true then
          some (c.session sid).server else none)
        (c.redis.server key) ((c'.label sid uuid out).redis.server key) := by
    rw [← hserver, ← hredis]
    exact relabel_follows c'.redis.server uuid (c'.session sid).server out.delServer
      out.setServer key
  have hkept (c' : Cluster) (hredis : c'.redis = c.redis) :
      Follows none (c.redis.server key) (c'.redis.server key) := by
    rw [hredis]
    exact Or.inr rfl
  unfold Cluster.updateRedisCache reachesLabel
  cases out.lock with
  | false => simpa using hkept c rfl
  | true =>
    cases hcurrent : c.redis.checkCurrentUser uuid with
    | none => simpa using hlabel rfl rfl
    | some current =>
      by_cases hhere : current = (c.session sid).server
      · have hkick := hlabel (Cluster.redis_kickHere c current uuid)
          ((c.windsDown_kickHere current uuid).server sid)
        simpa [hhere] using hkick
      · have hterminate := Cluster.redis_forceTerminateLoginedUser c current uuidInt
        cases hkick : out.kick with
        | notDelivered => simpa [hhere] using hkept (c.modifySession sid _) rfl
        | noStatus =>
          let terminated := c.forceTerminateLoginedUser current uuidInt
          simpa [hhere] using hkept (terminated.modifySession sid _) hterminate
        | answered =>
          have hserver := (c.windsDown_forceTerminateLoginedUser current uuidInt).server sid
          simpa [hhere] using hlabel hterminate hserver

theorem Drops.follows {keys keys' : UuidKeys} (h : Drops keys keys') (key : String) :
    Follows none (keys key) (keys' key) :=
  h key

theorem Follows.drops {written old : Option String} {keys keys' : UuidKeys} {key : String}
    (h : Follows written old (keys key)) (hdrops : Drops keys keys') :
    Follows written old (keys' key) := by
  rcases hdrops key with hnone | hsame
  · exact Or.inl hnone
  · rw [Follows, hsame]
    exact h

theorem loginAccepted_follows (c : Cluster) (sid : SessionId) (uuid : String) (number : Nat)
    (out : LoginOutcome) (key : String) :
    Follows
      (if key = uuid ∧ (Text.stoi uuid).isSome ∧ reachesLabel c sid uuid out = true ∧
        out.delServer = true ∧ out.setServer = true then some (c.session sid).server else none)
      (c.redis.server key) ((c.loginAccepted sid uuid number out).redis.server key) := by
  unfold Cluster.loginAccepted
  cases Text.stoi uuid with
  | none => simp [Follows]
  | some uuidInt =>
    have hupdate := updateRedisCache_follows c sid uuid uuidInt out key
    simp only [Option.isSome_some, true_and]
    unfold Cluster.answer
    cases out.profile with
    | found => exact hupdate
    | notFound =>
      -- the session is kicked again
      let registered := (c.updateRedisCache sid uuid uuidInt out).register sid uuid
      exact hupdate.drops (drops_kickSession
        (registered.modifySession sid fun s => s.reply (.error .loginInfoError)) sid out.kickLock)
    | throws => exact hupdate

theorem handlingLogin_follows (c : Cluster) (sid : SessionId) (request : AccountRequest)
    (out : LoginOutcome) (key : String) :
    Follows (labelled c (.login sid request out) key) (c.redis.server key)
      ((c.handlingLogin sid request out).redis.server key) := by
  have hkept : Follows none (c.redis.server key) (c.redis.server key) := Or.inr rfl
  have hfail : Follows none (c.redis.server key)
      ((c.modifySession sid fun s => s.reply (.error .loginUnsuccessful)).redis.server key) :=
    hkept
  have hkick := (drops_kickSession c sid out.kickLock).follows key
  cases request with
  | incomplete => exact hkept
  | illTyped =>
    unfold Cluster.handlingLogin
    simp only [reduceCtorEq, if_false]
    split
    · exact hkick
    · exact hkept
  | wellFormed uuid =>
    unfold Cluster.handlingLogin labelled
    simp only [reduceCtorEq, if_false]
    cases hself : c.getSession (c.session sid).server (c.session sid).uuid with
    | some i => simpa using hkick
    | none =>
      cases hnumber : Text.readUInt64 uuid with
      | none => simpa using hfail
      | some number =>
        cases htoken : out.token with
        | false => simpa using hfail
        | true => simpa using loginAccepted_follows c sid uuid number out key

/-- A chatting step writes the name that is noted for the key, or at most deletes it. -/
theorem step_follows {c c' : Cluster} {e : ClusterEvent} (hstep : ClusterRuns.step c e = some c')
    (key : String) : Follows (labelled c e key) (c.redis.server key) (c'.redis.server key) := by
  have hkept {c' : Cluster} (hredis : c'.redis = c.redis) :
      Follows none (c.redis.server key) (c'.redis.server key) := by
    rw [hredis]
    exact Or.inr rfl
  cases e with
  | accept server =>
    obtain rfl := Option.some.inj hstep
    exact hkept rfl
  | login sid request out =>
    obtain ⟨-, heq⟩ := Option.ite_none_right_eq_some.mp hstep
    obtain rfl := Option.some.inj heq
    exact handlingLogin_follows c sid request out key
  | logout sid request token =>
    obtain ⟨-, heq⟩ := Option.ite_none_right_eq_some.mp hstep
    obtain rfl := Option.some.inj heq
    exact hkept (redis_handlingLogout c sid request token)
  | purge sid ended lock =>
    obtain ⟨-, heq⟩ := Option.ite_none_right_eq_some.mp hstep
    obtain rfl := Option.some.inj heq
    exact (drops_purgeRemoveConnection c sid ended lock).follows key
  | heartBeat server expired =>
    obtain rfl := Option.some.inj hstep
    exact (drops_heartBeatEvent c server expired).follows key
  | finalHandler sid =>
    obtain rfl := Option.some.inj hstep
    exact hkept (redis_checkDeferredTermination c sid)

/-! ## Steps -/

variable {s s' : Shared}

/-- What each step does to the keys and their origins. -/
theorem step_cases {e : Event} (hstep : step s e = some s') :
    (∃ ce c, e = .chatting ce ∧ ClusterRuns.step s.cluster ce = some c ∧
      s' = { s with
        cluster := c
        origin := fun key => ((labelled s.cluster ce key).map .chatting).or (s.origin key) }) ∨
    (e = .accept ∧ s' = { s with resources := s.resources.accept }) ∨
    (∃ sid body io, e = .login sid body io ∧
      s'.resources = (s.resources.handlingLogin s.keys sid body io).1 ∧
      (s.resources.storedKey body io = none ∧ s'.keys = s.keys ∧ s'.origin = s.origin ∧
          s'.departed = s.departed ∨
        ∃ uuid, s.resources.storedKey body io = some uuid ∧
          s'.keys = Function.update s.keys uuid (some s.resources.name) ∧
          s'.origin = Function.update s.origin uuid (some (.resources sid)) ∧
          s'.departed = Function.update s.departed sid false)) ∨
    ∃ sid io, e = .logout sid io ∧
      s'.resources = (s.resources.handlingLogout s.keys sid io).1 ∧
      s'.keys = (s.resources.handlingLogout s.keys sid io).2 ∧ s'.origin = s.origin ∧
      s'.departed = Function.update s.departed sid true := by
  cases e with
  | chatting ce =>
    obtain ⟨c, hc, rfl⟩ := Option.map_eq_some_iff.mp hstep
    exact Or.inl ⟨ce, c, rfl, hc, rfl⟩
  | accept => exact Or.inr (Or.inl ⟨rfl, (Option.some.inj hstep).symm⟩)
  | login sid body io =>
    obtain ⟨-, heq⟩ := Option.ite_none_right_eq_some.mp hstep
    obtain rfl := Option.some.inj heq
    have hkeys := s.resources.handlingLogin_keys s.keys sid body io
    refine Or.inr (Or.inr (Or.inl ⟨sid, body, io, rfl, rfl, ?_⟩))
    cases hstored : s.resources.storedKey body io with
    | none =>
      rw [hstored] at hkeys
      exact Or.inl ⟨rfl, hkeys, rfl, rfl⟩
    | some uuid =>
      rw [hstored] at hkeys
      exact Or.inr ⟨uuid, rfl, hkeys, rfl, rfl⟩
  | logout sid io =>
    obtain ⟨-, heq⟩ := Option.ite_none_right_eq_some.mp hstep
    obtain rfl := Option.some.inj heq
    exact Or.inr (Or.inr (Or.inr ⟨sid, io, rfl, rfl, rfl, rfl, rfl⟩))

theorem routed_chatting {ce : ClusterEvent} {c : Cluster} (h : Routed s)
    (hstep : ClusterRuns.step s.cluster ce = some c) :
    Routed { s with
      cluster := c
      origin := fun key => ((labelled s.cluster ce key).map .chatting).or (s.origin key) } := by
  intro uuid server hserver
  change c.redis.server uuid = some server at hserver
  rcases step_follows hstep uuid with hnone | hfollows
  · rw [hnone] at hserver
    cases hserver
  · rw [hserver] at hfollows
    dsimp only
    cases hlabelled : labelled s.cluster ce uuid with
    | none =>
      rw [hlabelled] at hfollows
      exact h uuid server hfollows.symm
    | some name =>
      rw [hlabelled] at hfollows
      obtain rfl := Option.some.inj hfollows
      rfl

theorem routed_step {e : Event} (h : Routed s) (hnothing : SetsNothing s e)
    (hstep : step s e = some s') : Routed s' := by
  rcases step_cases hstep with ⟨ce, c, rfl, hc, rfl⟩ | ⟨rfl, rfl⟩ |
    ⟨sid, body, io, rfl, -, hlogin⟩ | ⟨sid, io, rfl, -, hkeys, horigin, -⟩
  · exact routed_chatting h hc
  · exact h
  · rcases hlogin with ⟨-, hkeys, horigin, -⟩ | ⟨uuid, hstored, -⟩
    · intro uuid server hserver
      rw [horigin]
      exact h uuid server (hkeys ▸ hserver)
    · rw [SetsNothing, hstored] at hnothing
      cases hnothing
  · intro uuid server hserver
    rw [horigin]
    rw [hkeys] at hserver
    rcases s.resources.handlingLogout_eq_none_or s.keys sid io uuid with hnone | hsame
    · rw [hnone] at hserver
      cases hserver
    · exact h uuid server (hsame ▸ hserver)

/-- The name of the resources server is no route. -/
theorem not_routed_step {e : Event} (hsets : ¬SetsNothing s e) (hstep : step s e = some s') :
    ¬Routed s' := by
  intro h
  rcases step_cases hstep with ⟨ce, c, rfl, -⟩ | ⟨rfl, -⟩ |
    ⟨sid, body, io, rfl, -, hlogin⟩ | ⟨sid, io, rfl, -⟩
  · exact hsets trivial
  · exact hsets trivial
  · rcases hlogin with ⟨hstored, -⟩ | ⟨uuid, -, hkeys, horigin, -⟩
    · exact hsets hstored
    · have hrouted := h uuid s.resources.name (by rw [hkeys, Function.update_self])
      rw [horigin, Function.update_self] at hrouted
      cases hrouted
  · exact hsets trivial

/-- No session of the resources server has a uuid, and none has set the key of the empty one. -/
structure RemovedInv (s : Shared) : Prop where
  removed : Removed s
  unnamed : s.resources.Unnamed
  nonempty : ∀ sid, s.origin "" ≠ some (.resources sid)

theorem removedInv_chatting {ce : ClusterEvent} {c : Cluster} (h : RemovedInv s)
    (hstep : ClusterRuns.step s.cluster ce = some c) :
    RemovedInv { s with
      cluster := c
      origin := fun key => ((labelled s.cluster ce key).map .chatting).or (s.origin key) } := by
  have horigin {key : String} {sid : Nat}
      (h : ((labelled s.cluster ce key).map Origin.chatting).or (s.origin key) =
        some (.resources sid)) :
      labelled s.cluster ce key = none ∧ s.origin key = some (.resources sid) := by
    cases hlabelled : labelled s.cluster ce key with
    | none =>
      rw [hlabelled] at h
      exact ⟨rfl, h⟩
    | some name =>
      rw [hlabelled] at h
      cases h
  constructor
  · intro sid hdeparted uuid hvalue hset
    obtain ⟨hlabelled, hset⟩ := horigin hset
    refine h.removed sid hdeparted uuid ?_ hset
    change (c.redis.server uuid).isSome at hvalue
    rcases step_follows hstep uuid with hnone | hfollows
    · rw [hnone] at hvalue
      cases hvalue
    · rw [hlabelled] at hfollows
      rw [hfollows] at hvalue
      exact hvalue
  · exact h.unnamed
  · intro sid hset
    exact h.nonempty sid (horigin hset).2

theorem removedInv_login {sid : Nat} {uuid name : String} (h : RemovedInv s)
    (hresources : s'.resources.Unnamed) (huuid : uuid ≠ "")
    (hkeys : s'.keys = Function.update s.keys uuid (some name))
    (horigin : s'.origin = Function.update s.origin uuid (some (.resources sid)))
    (hdeparted : s'.departed = Function.update s.departed sid false) : RemovedInv s' := by
  constructor
  · intro i hi key hvalue
    have hne : i ≠ sid := by
      rintro rfl
      rw [hdeparted, Function.update_self] at hi
      cases hi
    rw [hdeparted, Function.update_of_ne hne] at hi
    rw [horigin]
    by_cases hkey : key = uuid
    · rw [hkey, Function.update_self]
      intro hset
      exact hne (Origin.resources.inj (Option.some.inj hset)).symm
    · rw [Function.update_of_ne hkey]
      rw [hkeys, Function.update_of_ne hkey] at hvalue
      exact h.removed i hi key hvalue
  · exact hresources
  · intro i
    rw [horigin, Function.update_of_ne huuid.symm]
    exact h.nonempty i

theorem removedInv_step {e : Event} (h : RemovedInv s) (hleaves : LeavesNothing s e)
    (hstep : step s e = some s') : RemovedInv s' := by
  rcases step_cases hstep with ⟨ce, c, rfl, hc, rfl⟩ | ⟨rfl, rfl⟩ |
    ⟨sid, body, io, rfl, hresources, hlogin⟩ | ⟨sid, io, rfl, hresources, hkeys, horigin, hdeparted⟩
  · exact removedInv_chatting h hc
  · exact ⟨h.removed, h.unnamed, h.nonempty⟩
  · have hunnamed : s'.resources.Unnamed := hresources ▸
      LoginServer.unnamed_of_sameSessions h.unnamed (LoginServer.sameSessions_handlingLogin ..)
    rcases hlogin with ⟨-, hkeys, horigin, hdeparted⟩ | ⟨uuid, hstored, hkeys, horigin, hdeparted⟩
    · refine ⟨?_, hunnamed, ?_⟩
      · unfold Removed Cleared
        rw [hkeys, horigin, hdeparted]
        exact h.removed
      · rw [horigin]
        exact h.nonempty
    · exact removedInv_login h hunnamed (LoginServer.storedKey_ne_empty hstored) hkeys horigin
        hdeparted
  · refine ⟨?_, ?_, ?_⟩
    · intro i hi key hvalue
      have hold : (s.keys key).isSome := by
        rw [hkeys] at hvalue
        rcases s.resources.handlingLogout_eq_none_or s.keys sid io key with hnone | hsame
        · rw [hnone] at hvalue
          cases hvalue
        · exact hsame ▸ hvalue
      rw [horigin]
      by_cases hsid : i = sid
      · rw [hsid]
        exact hleaves key hold
      · rw [hdeparted, Function.update_of_ne hsid] at hi
        exact h.removed i hi key hold
    · exact hresources ▸ LoginServer.unnamed_of_sameSessions h.unnamed
        (LoginServer.sameSessions_handlingLogout ..)
    · rw [horigin]
      exact h.nonempty

/-- The logout deletes none of the keys. -/
theorem not_removed_step {e : Event} (h : RemovedInv s) (hleaves : ¬LeavesNothing s e)
    (hstep : step s e = some s') : ¬Removed s' := by
  intro hremoved
  rcases step_cases hstep with ⟨ce, c, rfl, -⟩ | ⟨rfl, -⟩ | ⟨sid, body, io, rfl, -⟩ |
    ⟨sid, io, rfl, -, hkeys, horigin, hdeparted⟩
  · exact hleaves trivial
  · exact hleaves trivial
  · exact hleaves trivial
  · simp only [LeavesNothing, Cleared, not_forall, not_not] at hleaves
    obtain ⟨uuid, hvalue, hset⟩ := hleaves
    have huuid : uuid ≠ "" := by
      rintro rfl
      exact h.nonempty sid hset
    have hleft : (s'.keys uuid).isSome := by
      rw [hkeys, s.resources.handlingLogout_keys h.unnamed s.keys sid io huuid]
      exact hvalue
    refine hremoved sid ?_ uuid hleft ?_
    · rw [hdeparted, Function.update_self]
    · rw [horigin]
      exact hset

/-! ## Runs -/

theorem routed_init (name : String) : Routed (init name) := by
  intro uuid server hserver
  cases hserver

theorem removedInv_init (name : String) : RemovedInv (init name) where
  removed sid hdeparted := by cases hdeparted
  unnamed _ := rfl
  nonempty sid hset := by cases hset

/-- The routes of a run are those of chatting logins exactly if no resources login sets a key; and
    its logouts leave no key of their sessions exactly if there is none left before. -/
theorem routed_iff (name : String) (es : List Event) :
    (Trace.Always step Routed (init name) es ↔ Trace.Meets step SetsNothing (init name) es) ∧
      (Trace.Always step Removed (init name) es ↔
        Trace.Meets step LeavesNothing (init name) es) :=
  ⟨Trace.always_iff_meets Routed (fun _ h => h) (fun _ _ _ => routed_step)
      (fun _ _ _ _ => not_routed_step) (routed_init name) es,
    Trace.always_iff_meets RemovedInv (fun _ h => h.removed) (fun _ _ _ => removedInv_step)
      (fun _ _ _ => not_removed_step) (removedInv_init name) es⟩

/-- User 7 logs in to the server `im1`, then to the resources server, and out of it again. -/
def loginTwice : List Event :=
  let body : Json := .object [("uuid", .string "7"), ("token", .string "t")]
  let out : LoginOutcome :=
    { token := true, lock := true, kick := .answered, delServer := true, setServer := true,
      delSession := true, setSession := true, profile := .found, kickLock := true }
  [.chatting (.accept "im1"), .chatting (.login 0 (.wellFormed "7") out), .accept,
    .login 0 (some body) ⟨true, true, true, true⟩, .logout 0 ⟨true, true, true, true⟩]

/-- Texts to user 7 are then routed to a server that is no chatting server, for good. -/
theorem not_routed_loginTwice :
    ¬Trace.Always step Routed (init "resources") loginTwice ∧
      ¬Trace.Always step Removed (init "resources") loginTwice := by
  obtain ⟨s, hs, hvalue, horigin, hdeparted⟩ : ∃ s,
      Trace.exec step (init "resources") loginTwice = some s ∧ s.keys "7" = some "resources" ∧
        s.origin "7" = some (.resources 0) ∧ s.departed 0 = true :=
    ⟨_, rfl, rfl, rfl, rfl⟩
  constructor
  · intro h
    have hrouted := Trace.exec_of_always h hs "7" "resources" hvalue
    rw [horigin] at hrouted
    cases hrouted
  · intro h
    refine Trace.exec_of_always h hs 0 hdeparted "7" ?_ horigin
    rw [hvalue]
    rfl

end SharedRouting

end DistributedIM.Protocol
