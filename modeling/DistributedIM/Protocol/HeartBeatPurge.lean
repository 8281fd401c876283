/-
  The heartbeat purge of one chatting server, `AsyncServer::heartBeatEvent`, step by step, while
  logins, logouts, kicks and final handlers change the maps of `UserManager` between its steps.

  The first loop looks at sessions and remembers uuids, the second one moves and marks whoever is
  found under a remembered uuid. The history says which sessions were reported timed out, and which
  were registered under a uuid after its examination. `always_onlyTimedOut_iff`: the purge goes
  wrong in one way only, when it acts on a uuid and finds such a later session (or the same one,
  registered again). `onlyTimedOut_of_noLogin`: without logins under the reported uuids it never
  does.

  An entry of the map is examined as it is at that moment, in any order; `client` does not dangle
  here. What `removeRedisCache` does to the keys, and marks made by others, leave the maps alone.
-/
import DistributedIM.Lib.Trace
import DistributedIM.ChattingServer.UserManager

namespace DistributedIM.Protocol

open DistributedIM.ChattingServer

namespace HeartBeatPurge

/-- The next step of `heartBeatEvent`. -/
inductive Pc
  /-- the first loop, between two entries -/
  | scan
  | sendOfflineMessage (uuid : String) (sid : SessionId)
  | removeRedisCache (uuid : String) (sid : SessionId)
  | collect (uuid : String)
  /-- the second loop, before the head of the list -/
  | moveUserToTerminationZone (toBeTerminated : List String)
  | removeUsrSession (uuid : String) (toBeTerminated : List String)
  | done
  deriving DecidableEq, Repr

/-- The purge sends a session its notice, moves it or marks it. -/
structure Touch where
  session : SessionId
  /-- it has been reported timed out -/
  reported : Bool
  /-- it has been registered under the uuid after that was examined -/
  late : Bool
  deriving DecidableEq, Repr

structure Purge where
  manager : UserManager
  lastHeartbeat : SessionId → Int
  pc : Pc
  toBeTerminated : List String
  reported : List SessionId
  /-- the uuids whose session was reported -/
  examined : List String
  late : List (String × SessionId)
  touched : List Touch

/-- The time of the purge and `heart_beat_timeout`, in seconds. -/
structure Clock where
  now : Int
  heartBeatTimeout : Nat
  deriving DecidableEq, Repr

def init (lastHeartbeat : SessionId → Int) : Purge where
  manager := .init
  lastHeartbeat := lastHeartbeat
  pc := .scan
  toBeTerminated := []
  reported := []
  examined := []
  late := []
  touched := []

inductive Event
  /-- the first loop comes to the entry -/
  | examine (uuid : String)
  /-- any other step of the purge -/
  | purge
  /-- a login registers its session -/
  | createUserSession (uuid : String) (sid : SessionId)
  /-- a login kicks, or a user logs out -/
  | moveUserToTerminationZone (uuid : String)
  /-- a final handler runs -/
  | eraseWaitingSession (uuid : String)
  /-- a client sends its heartbeat -/
  | updateLastHeartBeat (sid : SessionId) (time : Int)
  deriving DecidableEq, Repr

def isSessionTimeout (c : Clock) (lastHeartbeat : Int) : Bool :=
  c.now - lastHeartbeat > c.heartBeatTimeout

namespace Purge

/-- The history of an action on whom the purge has found under the uuid. -/
def touch (s : Purge) (uuid : String) : Option SessionId → List Touch
  | none => s.touched
  | some sid =>
    s.touched ++ [⟨sid, decide (sid ∈ s.reported), decide ((uuid, sid) ∈ s.late)⟩]

/-- One step of `heartBeatEvent`, after the entry of the first loop has been examined. -/
def advance (s : Purge) : Option Purge :=
  match s.pc with
  | .scan => some { s with pc := .moveUserToTerminationZone s.toBeTerminated }
  | .sendOfflineMessage uuid sid =>
    some { s with touched := s.touch uuid (some sid), pc := .removeRedisCache uuid sid }
  | .removeRedisCache uuid _ => some { s with pc := .collect uuid }
  | .collect uuid => some { s with toBeTerminated := s.toBeTerminated ++ [uuid], pc := .scan }
  | .moveUserToTerminationZone [] => some { s with pc := .done }
  | .moveUserToTerminationZone (uuid :: rest) =>
    some { s with
      touched := s.touch uuid (s.manager.uuid2Session uuid)
      manager := s.manager.moveUserToTerminationZone uuid
      pc := .removeUsrSession uuid rest }
  | .removeUsrSession uuid rest =>
    some { s with
      touched := s.touch uuid (s.manager.waitingToBeClosed uuid)
      pc := .moveUserToTerminationZone rest }
  | .done => none

/-- The history of a login that registers its session. -/
def noteRegistration (s : Purge) (uuid : String) (sid : SessionId) : List (String × SessionId) :=
  if (s.manager.uuid2Session uuid).isNone ∧ uuid ∈ s.examined then (uuid, sid) :: s.late
  else s.late

end Purge

def step (c : Clock) (s : Purge) : Event → Option Purge
  | .examine uuid =>
    match s.pc, s.manager.uuid2Session uuid with
    | .scan, some sid =>
      if isSessionTimeout c (s.lastHeartbeat sid) then
        some { s with
          pc := .sendOfflineMessage uuid sid
          reported := sid :: s.reported
          examined := uuid :: s.examined
          late := s.late.filter (· ≠ (uuid, sid)) }
      else some s
    | _, _ => none
  | .purge => s.advance
  | .createUserSession uuid sid =>
    some { s with
      manager := s.manager.createUserSession uuid sid
      late := s.noteRegistration uuid sid }
  | .moveUserToTerminationZone uuid =>
    some { s with manager := s.manager.moveUserToTerminationZone uuid }
  | .eraseWaitingSession uuid => some { s with manager := s.manager.eraseWaitingSession uuid }
  | .updateLastHeartBeat sid time =>
    some { s with lastHeartbeat := Function.update s.lastHeartbeat sid time }

/-- Whom the purge touches has been reported timed out, and was not registered after that. -/
def OnlyTimedOut (s : Purge) : Prop :=
  ∀ t ∈ s.touched, t.reported = true ∧ t.late = false

/-- Where the purge comes to act on a uuid, it does not find a session that was registered there
    after the examination. -/
def FindsNoLater (s : Purge) : Event → Prop
  | .purge =>
    match s.pc with
    | .sendOfflineMessage uuid sid => (uuid, sid) ∉ s.late
    | .moveUserToTerminationZone (uuid :: _) =>
      ∀ sid, s.manager.uuid2Session uuid = some sid → (uuid, sid) ∉ s.late
    | .removeUsrSession uuid _ =>
      ∀ sid, s.manager.waitingToBeClosed uuid = some sid → (uuid, sid) ∉ s.late
    | _ => True
  | _ => True

/-! ## The invariant -/

/-- The uuids that the purge has still to act on. -/
def Purge.pending (s : Purge) : List String :=
  s.toBeTerminated ++
    match s.pc with
    | .sendOfflineMessage uuid _ => [uuid]
    | .removeRedisCache uuid _ => [uuid]
    | .collect uuid => [uuid]
    | .moveUserToTerminationZone uuids => uuids
    | .removeUsrSession uuid uuids => uuid :: uuids
    | _ => []

/-- What the history says about the maps: under an examined uuid they have reported sessions and
    later ones only. Of the termination zone this is known once the reported session is moved. -/
structure Known (m : UserManager) (examined : List String) (reported : List SessionId)
    (late : List (String × SessionId)) : Prop where
  registered : ∀ uuid ∈ examined, ∀ sid, m.uuid2Session uuid = some sid →
    sid ∈ reported ∨ (uuid, sid) ∈ late
  waiting : ∀ uuid ∈ examined, (∀ sid, m.uuid2Session uuid = some sid → (uuid, sid) ∈ late) →
    ∀ sid, m.waitingToBeClosed uuid = some sid → sid ∈ reported ∨ (uuid, sid) ∈ late

/-- What holds before the notice, and between the move and the mark of a uuid. -/
def Purge.AtPc (s : Purge) : Prop :=
  match s.pc with
  | .sendOfflineMessage _ sid => sid ∈ s.reported
  | .removeUsrSession uuid _ => ∀ sid, s.manager.uuid2Session uuid = some sid → (uuid, sid) ∈ s.late
  | _ => True

structure Inv (s : Purge) : Prop where
  onlyTimedOut : OnlyTimedOut s
  pending : ∀ uuid ∈ s.pending, uuid ∈ s.examined
  known : Known s.manager s.examined s.reported s.late
  atPc : s.AtPc

/-! ## What the maps are known to have -/

variable {m : UserManager} {examined : List String} {reported : List SessionId}
  {late : List (String × SessionId)}

theorem known_moveUserToTerminationZone (h : Known m examined reported late) (uuid : String) :
    Known (m.moveUserToTerminationZone uuid) examined reported late where
  registered key hkey sid hsid := by
    rw [UserManager.uuid2Session_moveUserToTerminationZone] at hsid
    split at hsid
    · cases hsid
    · exact h.registered key hkey sid hsid
  waiting key hkey hlate sid hsid := by
    rw [UserManager.waiting_moveUserToTerminationZone] at hsid
    split at hsid
    · rename_i hmoved
      exact h.registered key hkey sid (hmoved.1 ▸ hsid)
    · rename_i hkept
      refine h.waiting key hkey (fun i hi => ?_) sid hsid
      apply hlate
      rw [UserManager.uuid2Session_moveUserToTerminationZone, if_neg, hi]
      intro heq
      subst heq
      exact hkept ⟨rfl, by rw [hi]; rfl⟩

theorem known_eraseWaitingSession (h : Known m examined reported late) (uuid : String) :
    Known (m.eraseWaitingSession uuid) examined reported late where
  registered := h.registered
  waiting key hkey hlate sid hsid := by
    refine h.waiting key hkey hlate sid ?_
    simp only [UserManager.eraseWaitingSession, Function.update_apply] at hsid
    split at hsid
    · cases hsid
    · exact hsid

/-- A reported session is registered, and not a later one any more. -/
theorem known_report (h : Known m examined reported late) {uuid : String} {sid : SessionId}
    (hsid : m.uuid2Session uuid = some sid) :
    Known m (uuid :: examined) (sid :: reported) (late.filter (· ≠ (uuid, sid))) := by
  have hold : ∀ key i, i ∈ reported ∨ (key, i) ∈ late →
      i ∈ sid :: reported ∨ (key, i) ∈ late.filter (· ≠ (uuid, sid)) := by
    intro key i hi
    by_cases heq : i = sid
    · exact Or.inl (heq ▸ List.mem_cons_self ..)
    · refine hi.imp (List.mem_cons_of_mem sid) fun hlate => ?_
      simp [hlate, heq]
  constructor
  · intro key hkey i hi
    rcases List.mem_cons.mp hkey with rfl | hkey
    · rw [hsid] at hi
      exact Or.inl (Option.some.inj hi ▸ List.mem_cons_self ..)
    · exact hold key i (h.registered key hkey i hi)
  · intro key hkey hlate i hi
    have hne : key ≠ uuid := by
      intro heq
      have hmem := hlate sid (heq ▸ hsid)
      simp [heq] at hmem
    rcases List.mem_cons.mp hkey with rfl | hkey
    · exact absurd rfl hne
    · refine hold key i (h.waiting key hkey (fun j hj => ?_) i hi)
      exact (List.mem_filter.mp (hlate j hj)).1

/-- Whom a login registers is in the history as a later session. -/
theorem mem_noteRegistration {s : Purge} {uuid key : String} {sid i : SessionId}
    (hkey : key ∈ s.examined)
    (hi : (s.manager.createUserSession uuid sid).uuid2Session key = some i) :
    s.manager.uuid2Session key = some i ∨ (key, i) ∈ s.noteRegistration uuid sid := by
  unfold UserManager.createUserSession at hi
  split at hi
  · exact Or.inl hi
  · rename_i hnone
    simp only [Function.update_apply] at hi
    split at hi
    · rename_i heq
      subst heq
      right
      rw [Purge.noteRegistration, if_pos ⟨by simpa using hnone, hkey⟩, Option.some.inj hi]
      exact List.mem_cons_self ..
    · exact Or.inl hi

theorem late_subset_noteRegistration (s : Purge) (uuid : String) (sid : SessionId) :
    s.late ⊆ s.noteRegistration uuid sid := by
  unfold Purge.noteRegistration
  split
  · exact List.subset_cons_self ..
  · exact List.Subset.refl _

theorem uuid2Session_createUserSession_of_some {key : String} {i : SessionId} (uuid : String)
    (sid : SessionId) (h : m.uuid2Session key = some i) :
    (m.createUserSession uuid sid).uuid2Session key = some i := by
  unfold UserManager.createUserSession
  split
  · exact h
  · rename_i hnone
    simp only [Function.update_apply]
    split
    · rename_i heq
      rw [← heq, h] at hnone
      exact absurd rfl hnone
    · exact h

/-- Where somebody is registered already, a login is no later registration. -/
theorem mem_late_of_mem_noteRegistration {s : Purge} {uuid key : String} {sid i : SessionId}
    (hi : s.manager.uuid2Session key = some i) (h : (key, i) ∈ s.noteRegistration uuid sid) :
    (key, i) ∈ s.late := by
  unfold Purge.noteRegistration at h
  split at h
  · rename_i hnew
    rcases List.mem_cons.mp h with heq | hlate
    · rw [(Prod.mk.inj heq).1] at hi
      rw [hi] at hnew
      exact absurd hnew.1 Bool.false_ne_true
    · exact hlate
  · exact h

theorem known_createUserSession {s : Purge} (h : Known s.manager s.examined s.reported s.late)
    (uuid : String) (sid : SessionId) :
    Known (s.manager.createUserSession uuid sid) s.examined s.reported
      (s.noteRegistration uuid sid) where
  registered key hkey i hi := by
    rcases mem_noteRegistration hkey hi with hold | hlate
    · exact (h.registered key hkey i hold).imp id fun h => late_subset_noteRegistration s uuid sid h
    · exact Or.inr hlate
  waiting key hkey hlate i hi := by
    rw [UserManager.waiting_createUserSession] at hi
    have hold : ∀ j, s.manager.uuid2Session key = some j → (key, j) ∈ s.late := fun j hj =>
      mem_late_of_mem_noteRegistration hj
        (hlate j (uuid2Session_createUserSession_of_some uuid sid hj))
    refine (h.waiting key hkey hold i hi).imp id fun h => ?_
    exact late_subset_noteRegistration s uuid sid h

/-! ## One step -/

theorem timedOut_touch {s : Purge} (h : OnlyTimedOut s) (uuid : String) (found : Option SessionId)
    (hfound : ∀ sid, found = some sid → sid ∈ s.reported ∧ (uuid, sid) ∉ s.late) :
    ∀ t ∈ s.touch uuid found, t.reported = true ∧ t.late = false := by
  intro t ht
  cases found with
  | none => exact h t ht
  | some sid =>
    obtain ⟨hreported, hlate⟩ := hfound sid rfl
    rcases List.mem_append.mp ht with ht | ht
    · exact h t ht
    · rw [List.mem_singleton.mp ht]
      exact ⟨decide_eq_true hreported, decide_eq_false hlate⟩

/-- The purge acts on a later session. -/
theorem late_mem_touch {s : Purge} {uuid : String} {sid : SessionId}
    (hlate : (uuid, sid) ∈ s.late) : ∃ t ∈ s.touch uuid (some sid), t.late = true :=
  ⟨_, List.mem_append_right _ (List.mem_singleton_self _), decide_eq_true hlate⟩

/-- A step of the purge; its actions are the notice, the move and the mark. -/
theorem inv_advance {s s' : Purge} (h : Inv s) (hc : FindsNoLater s .purge)
    (hs : s.advance = some s') : Inv s' := by
  obtain ⟨honly, hpending, hknown, hat⟩ := h
  unfold Purge.advance at hs
  unfold FindsNoLater at hc
  unfold Purge.pending at hpending
  unfold Purge.AtPc at hat
  split at hs
  case h_1 hpc =>
    obtain rfl := Option.some.inj hs
    refine ⟨honly, ?_, hknown, trivial⟩
    intro uuid huuid
    have hmem : uuid ∈ s.toBeTerminated := by simpa [Purge.pending] using huuid
    exact hpending uuid (List.mem_append_left _ hmem)
  case h_2 uuid sid hpc =>
    obtain rfl := Option.some.inj hs
    rw [hpc] at hc hpending hat
    refine ⟨?_, hpending, hknown, trivial⟩
    refine timedOut_touch honly uuid (some sid) fun i hi => ?_
    obtain rfl := Option.some.inj hi
    exact ⟨hat, hc⟩
  case h_3 uuid sid hpc =>
    obtain rfl := Option.some.inj hs
    rw [hpc] at hpending
    exact ⟨honly, hpending, hknown, trivial⟩
  case h_4 uuid hpc =>
    obtain rfl := Option.some.inj hs
    rw [hpc] at hpending
    refine ⟨honly, ?_, hknown, trivial⟩
    simpa [Purge.pending] using hpending
  case h_5 hpc =>
    obtain rfl := Option.some.inj hs
    rw [hpc] at hpending
    exact ⟨honly, hpending, hknown, trivial⟩
  case h_6 uuid rest hpc =>
    obtain rfl := Option.some.inj hs
    rw [hpc] at hc hpending
    have huuid : uuid ∈ s.examined :=
      hpending uuid (List.mem_append_right _ (List.mem_cons_self ..))
    refine ⟨?_, hpending, known_moveUserToTerminationZone hknown uuid, ?_⟩
    · refine timedOut_touch honly uuid _ fun i hi => ⟨?_, hc i hi⟩
      exact (hknown.registered uuid huuid i hi).resolve_right (hc i hi)
    · -- nobody is registered under the uuid just moved
      intro i hi
      rw [UserManager.uuid2Session_moveUserToTerminationZone, if_pos rfl] at hi
      cases hi
  case h_7 uuid rest hpc =>
    obtain rfl := Option.some.inj hs
    rw [hpc] at hc hpending hat
    have huuid : uuid ∈ s.examined :=
      hpending uuid (List.mem_append_right _ (List.mem_cons_self ..))
    refine ⟨?_, ?_, hknown, trivial⟩
    · refine timedOut_touch honly uuid _ fun i hi => ⟨?_, hc i hi⟩
      exact (hknown.waiting uuid huuid hat i hi).resolve_right (hc i hi)
    · intro key hkey
      refine hpending key ?_
      rcases List.mem_append.mp hkey with hkey | hkey
      · exact List.mem_append_left _ hkey
      · exact List.mem_append_right _ (List.mem_cons_of_mem uuid hkey)
  case h_8 hpc => cases hs

theorem not_onlyTimedOut_advance {s s' : Purge} (hc : ¬FindsNoLater s .purge)
    (hs : s.advance = some s') : ¬OnlyTimedOut s' := by
  suffices h : ∃ t ∈ s'.touched, t.late = true by
    obtain ⟨t, ht, hlate⟩ := h
    intro honly
    exact Bool.false_ne_true ((honly t ht).2.symm.trans hlate)
  unfold FindsNoLater at hc
  unfold Purge.advance at hs
  split at hs
  case h_2 uuid sid hpc =>
    obtain rfl := Option.some.inj hs
    rw [hpc] at hc
    exact late_mem_touch (not_not.mp hc)
  case h_6 uuid rest hpc =>
    obtain rfl := Option.some.inj hs
    rw [hpc] at hc
    push Not at hc
    obtain ⟨sid, hsid, hlate⟩ := hc
    rw [hsid]
    exact late_mem_touch hlate
  case h_7 uuid rest hpc =>
    obtain rfl := Option.some.inj hs
    rw [hpc] at hc
    push Not at hc
    obtain ⟨sid, hsid, hlate⟩ := hc
    rw [hsid]
    exact late_mem_touch hlate
  all_goals
    rename_i hpc
    rw [hpc] at hc
    exact absurd trivial hc

/-- A step of the others keeps the invariant if it keeps what the maps are known to have. -/
theorem inv_of_known {s s' : Purge} (h : Inv s) (hpc : s'.pc = s.pc)
    (htouched : s'.touched = s.touched) (hcollected : s'.toBeTerminated = s.toBeTerminated)
    (hexamined : s'.examined = s.examined) (hreported : s'.reported = s.reported)
    (hknown : Known s'.manager s'.examined s'.reported s'.late)
    (hmoved : ∀ uuid ∈ s.examined,
      (∀ sid, s.manager.uuid2Session uuid = some sid → (uuid, sid) ∈ s.late) →
      ∀ sid, s'.manager.uuid2Session uuid = some sid → (uuid, sid) ∈ s'.late) : Inv s' where
  onlyTimedOut := by
    unfold OnlyTimedOut
    rw [htouched]
    exact h.onlyTimedOut
  pending := by
    unfold Purge.pending
    rw [hpc, hcollected, hexamined]
    exact h.pending
  known := hknown
  atPc := by
    have hat := h.atPc
    have hpending := h.pending
    unfold Purge.pending at hpending
    unfold Purge.AtPc at hat ⊢
    rw [hpc, hreported]
    split
    · rename_i huuid
      rw [huuid] at hat
      exact hat
    · rename_i uuid _ huuid
      rw [huuid] at hat hpending
      exact hmoved uuid (hpending uuid (List.mem_append_right _ (List.mem_cons_self ..))) hat
    · trivial

theorem inv_examine {c : Clock} {s s' : Purge} {uuid : String} (h : Inv s)
    (hs : step c s (.examine uuid) = some s') : Inv s' := by
  simp only [step] at hs
  split at hs
  · rename_i sid hpc hsid
    split at hs
    · obtain rfl := Option.some.inj hs
      refine ⟨h.onlyTimedOut, ?_, known_report h.known hsid, List.mem_cons_self ..⟩
      have hpending := h.pending
      unfold Purge.pending at hpending
      rw [hpc] at hpending
      intro key hkey
      rcases List.mem_append.mp hkey with hkey | hkey
      · exact List.mem_cons_of_mem uuid (hpending key (List.mem_append_left _ hkey))
      · rw [List.mem_singleton.mp hkey]
        exact List.mem_cons_self ..
    · obtain rfl := Option.some.inj hs
      exact h
  · cases hs

theorem inv_step {c : Clock} {s : Purge} {e : Event} {s' : Purge} (h : Inv s)
    (hc : FindsNoLater s e) (hs : step c s e = some s') : Inv s' := by
  cases e with
  | examine uuid => exact inv_examine h hs
  | purge => exact inv_advance h hc hs
  | createUserSession uuid sid =>
    obtain rfl := Option.some.inj hs
    refine inv_of_known h rfl rfl rfl rfl rfl (known_createUserSession h.known uuid sid) ?_
    intro key hkey hlate i hi
    rcases mem_noteRegistration hkey hi with hold | hnew
    · exact late_subset_noteRegistration s uuid sid (hlate i hold)
    · exact hnew
  | moveUserToTerminationZone uuid =>
    obtain rfl := Option.some.inj hs
    refine inv_of_known h rfl rfl rfl rfl rfl (known_moveUserToTerminationZone h.known uuid) ?_
    intro key _ hlate sid hsid
    exact hlate sid (UserManager.moveUserToTerminationZone_eq_some hsid)
  | eraseWaitingSession uuid =>
    obtain rfl := Option.some.inj hs
    exact inv_of_known h rfl rfl rfl rfl rfl (known_eraseWaitingSession h.known uuid)
      fun _ _ hlate => hlate
  | updateLastHeartBeat sid time =>
    obtain rfl := Option.some.inj hs
    exact inv_of_known h rfl rfl rfl rfl rfl h.known fun _ _ hlate => hlate

theorem inv_init (lastHeartbeat : SessionId → Int) : Inv (init lastHeartbeat) where
  onlyTimedOut t ht := by cases ht
  pending uuid huuid := by cases huuid
  known :=
    { registered uuid huuid := by cases huuid
      waiting uuid huuid := by cases huuid }
  atPc := trivial

theorem findsNoLater_of_others {s : Purge} {e : Event} (h : e ≠ .purge) : FindsNoLater s e := by
  unfold FindsNoLater
  split
  · exact absurd rfl h
  · trivial

/-! ## The runs -/

/-- The purge touches only sessions that it had reported timed out, and none that was registered
    later, exactly if it never finds a later one when it comes to act on a uuid. -/
theorem always_onlyTimedOut_iff (c : Clock) (lastHeartbeat : SessionId → Int) (es : List Event) :
    Trace.Always (step c) OnlyTimedOut (init lastHeartbeat) es ↔
      Trace.Meets (step c) FindsNoLater (init lastHeartbeat) es := by
  refine Trace.always_iff_meets Inv (fun s h => h.onlyTimedOut) (fun s e s' => inv_step) ?_
    (inv_init lastHeartbeat) es
  intro s e s' _ hc hs
  by_cases he : e = .purge
  · subst he
    exact not_onlyTimedOut_advance hc hs
  · exact absurd (findsNoLater_of_others he) hc

/-- User 7 logs in again between the two loops: the new session is moved and marked. -/
def loginBetweenTheLoops : List Event :=
  [.createUserSession "7" 0, .examine "7"] ++ List.replicate 4 .purge ++
    [.moveUserToTerminationZone "7", .createUserSession "7" 1, .updateLastHeartBeat 1 100] ++
    List.replicate 3 .purge

theorem not_onlyTimedOut_loginBetweenTheLoops :
    ∃ s, Trace.exec (step ⟨100, 60⟩) (init fun _ => 0) loginBetweenTheLoops = some s ∧
      s.pc = .done ∧ s.lastHeartbeat 1 = 100 ∧ s.manager.uuid2Session "7" = none ∧
      s.touched = [⟨0, true, false⟩, ⟨1, false, true⟩, ⟨1, false, true⟩] ∧ ¬OnlyTimedOut s := by
  refine ⟨_, rfl, rfl, rfl, rfl, rfl, ?_⟩
  intro h
  have hnew := (h ⟨1, false, true⟩ (by decide)).1
  cases hnew

/-! ## Purges that no login interferes with -/

/-- No login registers a session under a uuid that the purge has reported. -/
def NoLogin (s : Purge) : Event → Prop
  | .createUserSession uuid _ => uuid ∉ s.examined
  | _ => True

theorem late_advance {s s' : Purge} (hs : s.advance = some s') : s'.late = s.late := by
  unfold Purge.advance at hs
  split at hs
  case h_8 => cases hs
  all_goals
    obtain rfl := Option.some.inj hs
    rfl

theorem late_of_noLogin {c : Clock} {s s' : Purge} {e : Event} (hlate : s.late = [])
    (hc : NoLogin s e) (hs : step c s e = some s') : s'.late = [] := by
  cases e with
  | examine uuid =>
    simp only [step] at hs
    split at hs
    · split at hs
      · obtain rfl := Option.some.inj hs
        simp [hlate]
      · obtain rfl := Option.some.inj hs
        exact hlate
    · cases hs
  | purge => rw [late_advance hs, hlate]
  | createUserSession uuid sid =>
    obtain rfl := Option.some.inj hs
    show s.noteRegistration uuid sid = []
    rw [Purge.noteRegistration, if_neg fun h => hc h.2, hlate]
  | moveUserToTerminationZone uuid =>
    obtain rfl := Option.some.inj hs
    exact hlate
  | eraseWaitingSession uuid =>
    obtain rfl := Option.some.inj hs
    exact hlate
  | updateLastHeartBeat sid time =>
    obtain rfl := Option.some.inj hs
    exact hlate

/-- Where nobody is registered later, the purge finds nobody. -/
theorem findsNoLater_of_late {s : Purge} (hlate : s.late = []) (e : Event) : FindsNoLater s e := by
  have hno : ∀ uuid sid, (uuid, sid) ∉ s.late := by simp [hlate]
  unfold FindsNoLater
  split
  · split
    · exact hno _ _
    · exact fun sid _ => hno _ sid
    · exact fun sid _ => hno _ sid
    · trivial
  · trivial

/-- While no login registers a session under a uuid that it has reported, the purge touches only
    timed-out sessions. -/
theorem onlyTimedOut_of_noLogin {c : Clock} {lastHeartbeat : SessionId → Int} {es : List Event}
    (h : Trace.Meets (step c) NoLogin (init lastHeartbeat) es) :
    Trace.Always (step c) OnlyTimedOut (init lastHeartbeat) es := by
  refine Trace.always_mono (fun s hs => hs.1.onlyTimedOut)
    (Trace.always_of_meets (fun s => Inv s ∧ s.late = []) ?_ ⟨inv_init lastHeartbeat, rfl⟩ h)
  intro s e s' hinv hc hs
  exact ⟨inv_step hinv.1 (findsNoLater_of_late hinv.2 e) hs, late_of_noLogin hinv.2 hc hs⟩

end HeartBeatPurge

end DistributedIM.Protocol
