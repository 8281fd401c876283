/-
  The routing keys of a user, `uuid_<uuid>` and `session_<uuid>`, while a newer session of the user
  logs in and an older one is removed: `SyncLogic::updateRedisCache` and
  `Session::removeRedisCache`, each command one atomic step of Redis, in any order. Both take the
  lock of the user, whose key may expire at any moment; neither looks at the lock again.

  `named_iff_undisturbed`: once both have finished, the keys name the newer session exactly if the
  update got its lock and its kick succeeded, and the removal deleted neither key after the update
  had set it. `undisturbed_of_punctual`: while no lock expires inside the part it guards, the last
  of these holds by itself.

  The commands succeed here. The kick touches no key: on the server itself it works on the maps of
  `UserManager`, on another one `ForceTerminateLoginedUser` marks the session.
-/
import DistributedIM.Lib.Lease
import DistributedIM.Lib.Trace

namespace DistributedIM.Protocol

namespace RoutingKeys

inductive Party
  | removal
  | update
  deriving DecidableEq, Repr

/-- The next step of `removeRedisCache`. -/
inductive RemovalPc
  | acquire
  | getServer
  | getSession (redisUserId : Option String)
  | delServer
  | delSession
  | release
  | returned
  deriving DecidableEq, Repr

/-- The next step of `updateRedisCache`. -/
inductive UpdatePc
  | acquire
  | checkCurrentUser
  /-- `forceTerminateLoginedUser` on the server `current` -/
  | kick (current : String)
  | delServer
  | setServer
  | delSession
  | setSession
  | release (labelled : Bool)
  | returned (labelled : Bool)
  deriving DecidableEq, Repr

/-- The older session, and the newer one with its server. -/
structure Sessions where
  oldId : String
  newServer : String
  newId : String
  deriving DecidableEq, Repr

structure Keys where
  /-- `uuid_<uuid>` -/
  server : Option String
  /-- `session_<uuid>` -/
  session : Option String
  lock : Option Party
  removal : RemovalPc
  update : UpdatePc
  deriving DecidableEq, Repr

def init (server session : Option String) : Keys where
  server := server
  session := session
  lock := none
  removal := .acquire
  update := .acquire

/-- `RedisContext::checkValue`: an empty value is no value. -/
def checkValue (value : Option String) : Option String :=
  value.filter (· ≠ "")

/-- One step of `removeRedisCache(uuid, oldId)`. -/
def removeRedisCache (c : Sessions) (s : Keys) : Option Keys :=
  match s.removal with
  | .acquire =>
    if s.lock = none then some { s with lock := Lease.take s.lock .removal, removal := .getServer }
    else some s
  | .getServer => some { s with removal := .getSession (checkValue s.server) }
  | .getSession redisUserId =>
    let redisSessionId := checkValue s.session
    if redisUserId.isSome ∧ redisSessionId = some c.oldId then
      some { s with removal := .delServer }
    else some { s with removal := .release }
  | .delServer => some { s with server := none, removal := .delSession }
  | .delSession => some { s with session := none, removal := .release }
  | .release => some { s with lock := Lease.give s.lock .removal, removal := .returned }
  | .returned => none

/-- One step of `updateRedisCache` for the newer session; `kicked`: the answer to the kick. -/
def updateRedisCache (c : Sessions) (s : Keys) (kicked : Bool) : Option Keys :=
  match s.update with
  | .acquire =>
    if s.lock = none then
      some { s with lock := Lease.take s.lock .update, update := .checkCurrentUser }
    else some s
  | .checkCurrentUser =>
    match checkValue s.server with
    | none => some { s with update := .delServer }
    | some current =>
      -- on the server itself the old session is kicked at once
      if current = c.newServer then some { s with update := .delServer }
      else some { s with update := .kick current }
  | .kick _ => some { s with update := if kicked then .delServer else .release false }
  | .delServer => some { s with server := none, update := .setServer }
  | .setServer => some { s with server := some c.newServer, update := .delSession }
  | .delSession => some { s with session := none, update := .setSession }
  | .setSession => some { s with session := some c.newId, update := .release true }
  | .release labelled =>
    some { s with lock := Lease.give s.lock .update, update := .returned labelled }
  | .returned _ => none

inductive Event
  | removeRedisCache
  /-- the removal does not get the lock in time -/
  | removalGivesUp
  | updateRedisCache (kicked : Bool)
  | updateGivesUp
  /-- the lock key expires -/
  | expire
  deriving DecidableEq, Repr

def step (c : Sessions) (s : Keys) : Event → Option Keys
  | .removeRedisCache => removeRedisCache c s
  | .removalGivesUp =>
    if s.removal = .acquire then some { s with removal := .returned } else none
  | .updateRedisCache kicked => updateRedisCache c s kicked
  | .updateGivesUp =>
    if s.update = .acquire then some { s with update := .returned false } else none
  | .expire => some { s with lock := none }

/-! ## What the keys are to say -/

def UpdatePc.isReturned : UpdatePc → Bool
  | .returned _ => true
  | _ => false

def Finished (s : Keys) : Prop :=
  s.removal = .returned ∧ s.update.isReturned = true

/-- The keys name the newer session and its server. -/
def NamesNewer (c : Sessions) (s : Keys) : Prop :=
  s.server = some c.newServer ∧ s.session = some c.newId

/-- The update has set `uuid_<uuid>`. -/
def UpdatePc.hasSetServer : UpdatePc → Bool
  | .delSession | .setSession | .release true | .returned true => true
  | _ => false

/-- The update has set `session_<uuid>`. -/
def UpdatePc.hasSetSession : UpdatePc → Bool
  | .release true | .returned true => true
  | _ => false

/-- The update ends without setting the keys. -/
def UpdatePc.unlabelled : UpdatePc → Bool
  | .release false | .returned false => true
  | _ => false

/-- The update does not end without setting the keys, and the removal deletes no key that the
    update has set. -/
def Undisturbed (s : Keys) : Event → Prop
  | .removeRedisCache =>
    (s.removal = .delServer → s.update.hasSetServer = false) ∧
      (s.removal = .delSession → s.update.hasSetSession = false)
  | .removalGivesUp => True
  | .updateRedisCache kicked => ∀ current, s.update = .kick current → kicked = true
  | .updateGivesUp => False
  | .expire => True

/-! ## Good runs and damaged keys -/

/-- What the update has set is there, and what it has not set is not. -/
structure Inv (c : Sessions) (s : Keys) : Prop where
  labelled : s.update.unlabelled = false
  server : s.update.hasSetServer = true → s.server = some c.newServer
  session : s.update.hasSetSession = true → s.session = some c.newId
  unset : s.update.hasSetSession = false → s.session ≠ some c.newId

/-- A key that the update does not set any more is not what it should be. -/
def Damaged (c : Sessions) (s : Keys) : Prop :=
  s.update.unlabelled = true ∧ s.session ≠ some c.newId ∨
    s.update.hasSetServer = true ∧ s.server = none ∨
      s.update.hasSetSession = true ∧ s.session = none

variable {c : Sessions}

/-- The removal changes no key but by deleting it. -/
theorem removeRedisCache_cases {s s' : Keys} (h : removeRedisCache c s = some s') :
    s'.update = s.update ∧
      (s'.server = s.server ∧ s.removal ≠ .delServer ∨
        s'.server = none ∧ s.removal = .delServer) ∧
      (s'.session = s.session ∧ s.removal ≠ .delSession ∨
        s'.session = none ∧ s.removal = .delSession) := by
  unfold removeRedisCache at h
  split at h
  · rename_i hpc
    split at h <;>
    · obtain rfl := Option.some.inj h
      simp [hpc]
  · rename_i hpc
    obtain rfl := Option.some.inj h
    simp [hpc]
  · rename_i hpc
    dsimp only at h
    split at h <;>
    · obtain rfl := Option.some.inj h
      simp [hpc]
  · rename_i hpc
    obtain rfl := Option.some.inj h
    simp [hpc]
  · rename_i hpc
    obtain rfl := Option.some.inj h
    simp [hpc]
  · rename_i hpc
    obtain rfl := Option.some.inj h
    simp [hpc]
  · cases h

theorem inv_removeRedisCache {s s' : Keys} (h : Inv c s) (hclean : Undisturbed s .removeRedisCache)
    (hstep : removeRedisCache c s = some s') : Inv c s' := by
  obtain ⟨hupdate, hserver, hsession⟩ := removeRedisCache_cases hstep
  constructor
  all_goals rw [hupdate]
  · exact h.labelled
  · intro hset
    rcases hserver with ⟨heq, -⟩ | ⟨-, hdel⟩
    · rw [heq]
      exact h.server hset
    · rw [hclean.1 hdel] at hset
      cases hset
  · intro hset
    rcases hsession with ⟨heq, -⟩ | ⟨-, hdel⟩
    · rw [heq]
      exact h.session hset
    · rw [hclean.2 hdel] at hset
      cases hset
  · intro hset
    rcases hsession with ⟨heq, -⟩ | ⟨hnone, -⟩
    · rw [heq]
      exact h.unset hset
    · rw [hnone]
      exact fun hsome => by cases hsome

/-- Before the update has set anything. -/
theorem inv_of_unset {s : Keys} (hlabelled : s.update.unlabelled = false)
    (hserver : s.update.hasSetServer = false) (hsession : s.update.hasSetSession = false)
    (hfresh : s.session ≠ some c.newId) : Inv c s where
  labelled := hlabelled
  server h := by
    rw [hserver] at h
    cases h
  session h := by
    rw [hsession] at h
    cases h
  unset _ := hfresh

theorem inv_updateRedisCache {s s' : Keys} {kicked : Bool} (h : Inv c s)
    (hclean : Undisturbed s (.updateRedisCache kicked))
    (hstep : updateRedisCache c s kicked = some s') : Inv c s' := by
  have hsetServer := h.server
  have hsetSession := h.session
  have hunset := h.unset
  unfold updateRedisCache at hstep
  split at hstep
  all_goals rename_i hpc
  all_goals try rw [hpc] at hsetServer hsetSession hunset
  · split at hstep
    · obtain rfl := Option.some.inj hstep
      exact inv_of_unset rfl rfl rfl (hunset rfl)
    · obtain rfl := Option.some.inj hstep
      exact h
  · split at hstep
    · obtain rfl := Option.some.inj hstep
      exact inv_of_unset rfl rfl rfl (hunset rfl)
    · split at hstep <;>
      · obtain rfl := Option.some.inj hstep
        exact inv_of_unset rfl rfl rfl (hunset rfl)
  · rw [hclean _ hpc] at hstep
    obtain rfl := Option.some.inj hstep
    exact inv_of_unset rfl rfl rfl (hunset rfl)
  · obtain rfl := Option.some.inj hstep
    exact inv_of_unset rfl rfl rfl (hunset rfl)
  · obtain rfl := Option.some.inj hstep
    exact ⟨rfl, fun _ => rfl, fun hset => absurd hset Bool.false_ne_true, fun _ => hunset rfl⟩
  · obtain rfl := Option.some.inj hstep
    exact ⟨rfl, fun _ => hsetServer rfl, fun hset => absurd hset Bool.false_ne_true,
      fun _ hsome => by cases hsome⟩
  · obtain rfl := Option.some.inj hstep
    exact ⟨rfl, fun _ => hsetServer rfl, fun _ => rfl,
      fun hset => absurd hset.symm Bool.false_ne_true⟩
  · rename_i labelled
    obtain rfl := Option.some.inj hstep
    have hlabelled := h.labelled
    rw [hpc] at hlabelled
    cases labelled with
    | false => cases hlabelled
    | true =>
      exact ⟨rfl, fun _ => hsetServer rfl, fun _ => hsetSession rfl,
        fun hset => absurd hset.symm Bool.false_ne_true⟩
  · cases hstep

theorem inv_step {s s' : Keys} {e : Event} (h : Inv c s) (hclean : Undisturbed s e)
    (hstep : step c s e = some s') : Inv c s' := by
  cases e with
  | removeRedisCache => exact inv_removeRedisCache h hclean hstep
  | updateRedisCache kicked => exact inv_updateRedisCache h hclean hstep
  | removalGivesUp =>
    obtain ⟨-, heq⟩ := Option.ite_none_right_eq_some.mp hstep
    obtain rfl := Option.some.inj heq
    exact ⟨h.labelled, h.server, h.session, h.unset⟩
  | updateGivesUp => cases hclean
  | expire =>
    obtain rfl := Option.some.inj hstep
    exact ⟨h.labelled, h.server, h.session, h.unset⟩

/-- A step that disturbs does damage. -/
theorem damaged_step {s s' : Keys} {e : Event} (h : Inv c s) (hdisturbs : ¬ Undisturbed s e)
    (hstep : step c s e = some s') : Damaged c s' := by
  cases e with
  | removeRedisCache =>
    obtain ⟨hupdate, hserver, hsession⟩ := removeRedisCache_cases hstep
    unfold Damaged
    rw [hupdate]
    simp only [Undisturbed, Classical.not_and_iff_not_or_not, Classical.not_imp,
      Bool.not_eq_false] at hdisturbs
    rcases hdisturbs with ⟨hdel, hset⟩ | ⟨hdel, hset⟩
    · rcases hserver with ⟨-, hnot⟩ | ⟨hnone, -⟩
      · exact absurd hdel hnot
      · exact Or.inr (Or.inl ⟨hset, hnone⟩)
    · rcases hsession with ⟨-, hnot⟩ | ⟨hnone, -⟩
      · exact absurd hdel hnot
      · exact Or.inr (Or.inr ⟨hset, hnone⟩)
  | updateRedisCache kicked =>
    simp only [Undisturbed, Classical.not_forall, exists_prop] at hdisturbs
    obtain ⟨current, hkick, hrefused⟩ := hdisturbs
    simp only [step, updateRedisCache, hkick, if_neg hrefused] at hstep
    obtain rfl := Option.some.inj hstep
    exact Or.inl ⟨rfl, h.unset (by rw [hkick]; rfl)⟩
  | updateGivesUp =>
    obtain ⟨hacquire, heq⟩ := Option.ite_none_right_eq_some.mp hstep
    obtain rfl := Option.some.inj heq
    exact Or.inl ⟨rfl, h.unset (by rw [hacquire]; rfl)⟩
  | removalGivesUp => exact absurd trivial hdisturbs
  | expire => exact absurd trivial hdisturbs

/-- A key that the update does not set any more is left alone by it. -/
theorem updateRedisCache_late {s s' : Keys} {kicked : Bool}
    (h : updateRedisCache c s kicked = some s') :
    (s.update.unlabelled = true → s'.update.unlabelled = true ∧ s'.session = s.session) ∧
      (s.update.hasSetServer = true → s'.update.hasSetServer = true ∧ s'.server = s.server) ∧
      (s.update.hasSetSession = true →
        s'.update.hasSetSession = true ∧ s'.session = s.session) := by
  match hpc : s.update with
  | .acquire | .checkCurrentUser | .kick _ | .delServer | .setServer =>
    exact ⟨fun hset => absurd hset Bool.false_ne_true, fun hset => absurd hset Bool.false_ne_true,
      fun hset => absurd hset Bool.false_ne_true⟩
  | .delSession | .setSession =>
    simp only [updateRedisCache, hpc] at h
    obtain rfl := Option.some.inj h
    exact ⟨fun hset => absurd hset Bool.false_ne_true, fun _ => ⟨rfl, rfl⟩,
      fun hset => absurd hset Bool.false_ne_true⟩
  | .release labelled =>
    simp only [updateRedisCache, hpc] at h
    obtain rfl := Option.some.inj h
    cases labelled with
    | false =>
      exact ⟨fun _ => ⟨rfl, rfl⟩, fun hset => absurd hset Bool.false_ne_true,
        fun hset => absurd hset Bool.false_ne_true⟩
    | true =>
      exact ⟨fun hset => absurd hset Bool.false_ne_true, fun _ => ⟨rfl, rfl⟩,
        fun _ => ⟨rfl, rfl⟩⟩
  | .returned _ =>
    simp only [updateRedisCache, hpc] at h
    cases h

theorem damaged_stays {s s' : Keys} {e : Event} (h : Damaged c s) (hstep : step c s e = some s') :
    Damaged c s' := by
  cases e with
  | removeRedisCache =>
    obtain ⟨hupdate, hserver, hsession⟩ := removeRedisCache_cases hstep
    unfold Damaged at h ⊢
    rw [hupdate]
    rcases h with ⟨hun, hold⟩ | ⟨hset, hnone⟩ | ⟨hset, hnone⟩
    · refine Or.inl ⟨hun, ?_⟩
      rcases hsession with ⟨heq, -⟩ | ⟨hdel, -⟩
      · rw [heq]
        exact hold
      · rw [hdel]
        exact fun hsome => by cases hsome
    · refine Or.inr (Or.inl ⟨hset, ?_⟩)
      rcases hserver with ⟨heq, -⟩ | ⟨hdel, -⟩
      · rw [heq, hnone]
      · exact hdel
    · refine Or.inr (Or.inr ⟨hset, ?_⟩)
      rcases hsession with ⟨heq, -⟩ | ⟨hdel, -⟩
      · rw [heq, hnone]
      · exact hdel
  | updateRedisCache kicked =>
    obtain ⟨hunlabelled, hserver, hsession⟩ := updateRedisCache_late hstep
    rcases h with ⟨hun, hold⟩ | ⟨hset, hnone⟩ | ⟨hset, hnone⟩
    · exact Or.inl ⟨(hunlabelled hun).1, (hunlabelled hun).2 ▸ hold⟩
    · exact Or.inr (Or.inl ⟨(hserver hset).1, (hserver hset).2.trans hnone⟩)
    · exact Or.inr (Or.inr ⟨(hsession hset).1, (hsession hset).2.trans hnone⟩)
  | removalGivesUp =>
    obtain ⟨-, heq⟩ := Option.ite_none_right_eq_some.mp hstep
    obtain rfl := Option.some.inj heq
    exact h
  | updateGivesUp =>
    -- nothing is damaged before the update has its lock
    obtain ⟨hacquire, -⟩ := Option.ite_none_right_eq_some.mp hstep
    unfold Damaged at h
    rw [hacquire] at h
    rcases h with ⟨hset, -⟩ | ⟨hset, -⟩ | ⟨hset, -⟩ <;> cases hset
  | expire =>
    obtain rfl := Option.some.inj hstep
    exact h

theorem inv_init {server session : Option String} (hfresh : session ≠ some c.newId) :
    Inv c (init server session) :=
  inv_of_unset rfl rfl rfl hfresh

theorem namesNewer_of_inv {s : Keys} (h : Inv c s) (hfinished : Finished s) : NamesNewer c s := by
  have hlabelled := h.labelled
  match hpc : s.update with
  | .returned true => exact ⟨h.server (by rw [hpc]; rfl), h.session (by rw [hpc]; rfl)⟩
  | .returned false =>
    rw [hpc] at hlabelled
    cases hlabelled
  | .acquire | .checkCurrentUser | .kick _ | .delServer | .setServer | .delSession | .setSession
  | .release _ =>
    have hreturned := hfinished.2
    rw [hpc] at hreturned
    cases hreturned

theorem not_namesNewer_of_damaged {s : Keys} (h : Damaged c s) : ¬ NamesNewer c s := by
  intro ⟨hserver, hsession⟩
  rcases h with ⟨-, hold⟩ | ⟨-, hnone⟩ | ⟨-, hnone⟩
  · exact hold hsession
  · cases hnone.symm.trans hserver
  · cases hnone.symm.trans hsession

/-- When both calls have finished, the keys name the newer session exactly if nothing has disturbed
    its update. -/
theorem named_iff_undisturbed (c : Sessions) {server session : Option String} {es : List Event}
    {s : Keys} (hfresh : session ≠ some c.newId)
    (hrun : Trace.exec (step c) (init server session) es = some s) (hfinished : Finished s) :
    NamesNewer c s ↔ Trace.Meets (step c) Undisturbed (init server session) es := by
  rcases Trace.meets_or_damaged (Inv c) (Damaged c) (fun s e s' => inv_step)
    (fun s e s' => damaged_step) (fun s e s' => damaged_stays) (inv_init hfresh) hrun with
    ⟨hmeets, hinv⟩ | ⟨hfails, hdamaged⟩
  · exact iff_of_true (namesNewer_of_inv hinv hfinished) hmeets
  · exact iff_of_false (not_namesNewer_of_damaged hdamaged) hfails

/-- The old session is on server A, the newer one logs in on server B. -/
def moved : Sessions where
  oldId := "old"
  newServer := "B"
  newId := "new"

/-- The removal comes after the update. -/
def oneAfterTheOther : List Event :=
  List.replicate 8 (.updateRedisCache true) ++ List.replicate 4 .removeRedisCache

theorem named_oneAfterTheOther :
    ∃ s, Trace.exec (step moved) (init (some "A") (some "old")) oneAfterTheOther = some s ∧
      (NamesNewer moved s ↔
        Trace.Meets (step moved) Undisturbed (init (some "A") (some "old")) oneAfterTheOther) :=
  ⟨_, rfl, named_iff_undisturbed moved (by decide) rfl ⟨rfl, rfl⟩⟩

/-- The lock of the removal expires when it has found the old session; the update runs, and then
    the removal deletes both keys. -/
def expiresBeforeDel : List Event :=
  List.replicate 3 .removeRedisCache ++ [.expire] ++ List.replicate 8 (.updateRedisCache true) ++
    List.replicate 3 .removeRedisCache

theorem not_named_expiresBeforeDel :
    ∃ s, Trace.exec (step moved) (init (some "A") (some "old")) expiresBeforeDel = some s ∧
      Finished s ∧ s.server = none ∧ s.session = none ∧ ¬ NamesNewer moved s := by
  refine ⟨_, rfl, ⟨rfl, rfl⟩, rfl, rfl, ?_⟩
  intro h
  cases h.1

/-! ## Locks that do not expire early -/

/-- The removal is between its acquire and its last deletion. -/
def RemovalPc.guarded : RemovalPc → Bool
  | .getServer | .getSession _ | .delServer | .delSession => true
  | _ => false

/-- The update is between its acquire and its last command on a key. -/
def UpdatePc.guarded : UpdatePc → Bool
  | .checkCurrentUser | .kick _ | .delServer | .setServer | .delSession | .setSession => true
  | _ => false

/-- The removal has decided to delete the keys. -/
def RemovalPc.deletes : RemovalPc → Bool
  | .delServer | .delSession => true
  | _ => false

/-- The update gets its lock and its kick succeeds, and no lock expires inside the part it
    guards. -/
def Punctual (s : Keys) : Event → Prop
  | .updateRedisCache kicked => ∀ current, s.update = .kick current → kicked = true
  | .updateGivesUp => False
  | .expire =>
    (s.lock = some .removal → s.removal.guarded = false) ∧
      (s.lock = some .update → s.update.guarded = false)
  | .removeRedisCache | .removalGivesUp => True

/-- Who is in the guarded part has the lock, and the removal decides to delete only before the
    update. -/
structure Guarded (c : Sessions) (s : Keys) : Prop where
  inv : Inv c s
  removal : s.removal.guarded = true → s.lock = some .removal
  update : s.update.guarded = true → s.lock = some .update
  early : s.removal.deletes = true → s.update = .acquire

theorem guarded_of_deletes {pc : RemovalPc} (h : pc.deletes = true) : pc.guarded = true := by
  cases pc with
  | delServer => rfl
  | delSession => rfl
  | _ => cases h

/-- With the removal outside its guarded part there is only the update to look at. -/
theorem guarded_of_outside {s : Keys} (hinv : Inv c s) (hremoval : s.removal.guarded = false)
    (hupdate : s.update.guarded = true → s.lock = some .update) : Guarded c s where
  inv := hinv
  removal h := by
    rw [hremoval] at h
    cases h
  update := hupdate
  early h := by
    rw [guarded_of_deletes h] at hremoval
    cases hremoval

theorem undisturbed_removeRedisCache {s : Keys} (h : Guarded c s) :
    Undisturbed s .removeRedisCache := by
  refine ⟨fun hdel => ?_, fun hdel => ?_⟩ <;>
  · rw [h.early (by rw [hdel]; rfl)]
    rfl

/-- When the removal finds the old session in the keys, the update has not begun. -/
theorem acquire_of_found {s : Keys} (h : Guarded c s) (hdistinct : c.newId ≠ c.oldId)
    (hguarded : s.removal.guarded = true) (hfound : checkValue s.session = some c.oldId) :
    s.update = .acquire := by
  have hold : s.session = some c.oldId := (Option.filter_eq_some_iff.mp hfound).1
  have hlock := h.removal hguarded
  have hout : s.update.guarded = true → False := by
    intro hin
    cases hlock.symm.trans (h.update hin)
  have hunset : s.update.hasSetSession = true → False := by
    intro hset
    exact hdistinct (Option.some.inj ((h.inv.session hset).symm.trans hold))
  have hlabelled := h.inv.labelled
  match hpc : s.update with
  | .acquire => rfl
  | .checkCurrentUser | .kick _ | .delServer | .setServer | .delSession | .setSession =>
    rw [hpc] at hout
    exact (hout rfl).elim
  | .release true | .returned true =>
    rw [hpc] at hunset
    exact (hunset rfl).elim
  | .release false | .returned false =>
    rw [hpc] at hlabelled
    cases hlabelled

theorem guarded_removeRedisCache {s s' : Keys} (h : Guarded c s) (hdistinct : c.newId ≠ c.oldId)
    (hstep : removeRedisCache c s = some s') : Guarded c s' := by
  have hinv := inv_removeRedisCache h.inv (undisturbed_removeRedisCache h) hstep
  have hremoval := h.removal
  have hearly := h.early
  match hpc : s.removal with
  | .acquire =>
    simp only [removeRedisCache, hpc] at hstep
    split at hstep
    · rename_i hfree
      obtain rfl := Option.some.inj hstep
      refine ⟨hinv, fun _ => by rw [hfree]; rfl, fun hin => ?_,
        fun hdel => absurd hdel Bool.false_ne_true⟩
      cases hfree.symm.trans (h.update hin)
    · obtain rfl := Option.some.inj hstep
      exact h
  | .getServer =>
    simp only [removeRedisCache, hpc] at hstep hremoval
    obtain rfl := Option.some.inj hstep
    exact ⟨hinv, fun _ => hremoval rfl, h.update, fun hdel => absurd hdel Bool.false_ne_true⟩
  | .getSession redisUserId =>
    simp only [removeRedisCache, hpc] at hstep hremoval
    split at hstep
    · rename_i hfound
      have hacquire := acquire_of_found h hdistinct (by rw [hpc]; rfl) hfound.2
      obtain rfl := Option.some.inj hstep
      exact ⟨hinv, fun _ => hremoval rfl, h.update, fun _ => hacquire⟩
    · obtain rfl := Option.some.inj hstep
      exact guarded_of_outside hinv rfl h.update
  | .delServer =>
    simp only [removeRedisCache, hpc] at hstep hremoval hearly
    obtain rfl := Option.some.inj hstep
    exact ⟨hinv, fun _ => hremoval rfl, h.update, fun _ => hearly rfl⟩
  | .delSession =>
    simp only [removeRedisCache, hpc] at hstep
    obtain rfl := Option.some.inj hstep
    exact guarded_of_outside hinv rfl h.update
  | .release =>
    simp only [removeRedisCache, hpc] at hstep
    obtain rfl := Option.some.inj hstep
    refine guarded_of_outside hinv rfl fun hin => ?_
    exact Lease.give_eq_some.mpr ⟨h.update hin, by decide⟩
  | .returned =>
    simp only [removeRedisCache, hpc] at hstep
    cases hstep

/-- The lock after a step of the update that has begun. -/
theorem lock_updateRedisCache {s s' : Keys} {kicked : Bool}
    (hbegun : s.update ≠ .acquire) (h : updateRedisCache c s kicked = some s') :
    s'.removal = s.removal ∧ (s'.lock = s.lock ∧ s.update.guarded = true ∨
      s'.lock = Lease.give s.lock .update ∧ s'.update.guarded = false) := by
  match hpc : s.update with
  | .acquire => exact absurd hpc hbegun
  | .checkCurrentUser =>
    simp only [updateRedisCache, hpc] at h
    split at h
    · obtain rfl := Option.some.inj h
      exact ⟨rfl, Or.inl ⟨rfl, rfl⟩⟩
    · split at h <;>
      · obtain rfl := Option.some.inj h
        exact ⟨rfl, Or.inl ⟨rfl, rfl⟩⟩
  | .kick _ | .delServer | .setServer | .delSession | .setSession =>
    simp only [updateRedisCache, hpc] at h
    obtain rfl := Option.some.inj h
    exact ⟨rfl, Or.inl ⟨rfl, rfl⟩⟩
  | .release _ =>
    simp only [updateRedisCache, hpc] at h
    obtain rfl := Option.some.inj h
    exact ⟨rfl, Or.inr ⟨rfl, rfl⟩⟩
  | .returned _ =>
    simp only [updateRedisCache, hpc] at h
    cases h

theorem guarded_updateRedisCache {s s' : Keys} {kicked : Bool} (h : Guarded c s)
    (hpunctual : Punctual s (.updateRedisCache kicked))
    (hstep : updateRedisCache c s kicked = some s') : Guarded c s' := by
  have hinv := inv_updateRedisCache h.inv hpunctual hstep
  by_cases hbegun : s.update = .acquire
  · simp only [updateRedisCache, hbegun] at hstep
    split at hstep
    · rename_i hfree
      obtain rfl := Option.some.inj hstep
      have hout : s.removal.guarded = true → False := by
        intro hin
        cases hfree.symm.trans (h.removal hin)
      exact ⟨hinv, fun hin => (hout hin).elim, fun _ => by rw [hfree]; rfl,
        fun hdel => (hout (guarded_of_deletes hdel)).elim⟩
    · obtain rfl := Option.some.inj hstep
      exact h
  · obtain ⟨hremoval, hlock⟩ := lock_updateRedisCache hbegun hstep
    refine ⟨hinv, fun hin => ?_, fun hin => ?_, fun hdel => ?_⟩
    · rw [hremoval] at hin
      rcases hlock with ⟨heq, -⟩ | ⟨heq, -⟩
      · rw [heq]
        exact h.removal hin
      · rw [heq]
        exact Lease.give_eq_some.mpr ⟨h.removal hin, by decide⟩
    · rcases hlock with ⟨heq, hguarded⟩ | ⟨-, hout⟩
      · rw [heq]
        exact h.update hguarded
      · rw [hout] at hin
        cases hin
    · rw [hremoval] at hdel
      exact absurd (h.early hdel) hbegun

/-- While no lock expires too early, the removal does not disturb the update. -/
theorem undisturbed_of_punctual {server session : Option String} {es : List Event}
    (hdistinct : c.newId ≠ c.oldId) (hfresh : session ≠ some c.newId)
    (h : Trace.Meets (step c) Punctual (init server session) es) :
    Trace.Meets (step c) Undisturbed (init server session) es := by
  refine Trace.meets_mono (Guarded c) ?_ ?_ h
  · intro s e s' hguarded hpunctual hstep
    cases e with
    | removeRedisCache =>
      exact ⟨undisturbed_removeRedisCache hguarded,
        guarded_removeRedisCache hguarded hdistinct hstep⟩
    | updateRedisCache kicked =>
      exact ⟨hpunctual, guarded_updateRedisCache hguarded hpunctual hstep⟩
    | updateGivesUp => cases hpunctual
    | removalGivesUp =>
      obtain ⟨-, heq⟩ := Option.ite_none_right_eq_some.mp hstep
      obtain rfl := Option.some.inj heq
      have hinv := inv_step (e := .removalGivesUp) hguarded.inv trivial hstep
      exact ⟨trivial, guarded_of_outside hinv rfl hguarded.update⟩
    | expire =>
      obtain rfl := Option.some.inj hstep
      have hinv := inv_step (e := .expire) hguarded.inv trivial hstep
      refine ⟨trivial, hinv, fun hin => ?_, fun hin => ?_, hguarded.early⟩
      · rw [hpunctual.1 (hguarded.removal hin)] at hin
        cases hin
      · rw [hpunctual.2 (hguarded.update hin)] at hin
        cases hin
  · exact guarded_of_outside (inv_init hfresh) rfl fun hin => absurd hin Bool.false_ne_true

end RoutingKeys

end DistributedIM.Protocol
