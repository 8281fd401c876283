/-
  The termination zone of one chatting server: `createUserSession`, `moveUserToTerminationZone`,
  both `removeUsrSession` and the final handlers they give to sessions, in any order.

  The zone has one place for each uuid. The history says who has been placed there and has not run
  its final handler yet, and whose entry each final handler found to erase. `always_zoneKept_iff`:
  the zone keeps its sessions along a run exactly if nobody is moved to a place that is taken, no
  session is registered while it waits, and none is moved that is registered twice.

  A final handler is the key it erases; it is installed together with `LogoutPending`, and
  `checkDeferredTermination` runs it and takes it out in one step.
-/
import DistributedIM.Lib.Trace
import DistributedIM.ChattingServer.UserManager

namespace DistributedIM.ChattingServer

namespace TerminationZone

/-- What a final handler erased. -/
structure HandlerRun where
  session : SessionId
  erased : Option SessionId
  deriving DecidableEq, Repr

structure Zone where
  manager : UserManager
  /-- the key the final handler of a session erases -/
  finalSendCompleteHandler : SessionId → Option String
  /-- who has been placed in the zone, and has not run its final handler since -/
  placed : List (String × SessionId)
  handlerRuns : List HandlerRun

def init : Zone where
  manager := .init
  finalSendCompleteHandler _ := none
  placed := []
  handlerRuns := []

inductive Event
  | createUserSession (uuid : String) (sid : SessionId)
  | moveUserToTerminationZone (uuid : String)
  | removeUsrSession (uuid : String)
  /-- the overload with a session id -/
  | removeUsrSessionId (uuid : String) (sid : SessionId)
  /-- `checkDeferredTermination` of a marked session -/
  | finalHandler (sid : SessionId)
  deriving DecidableEq, Repr

namespace Zone

/-- `markAsDeferredTerminated` -/
def markAsDeferredTerminated (s : Zone) (sid : SessionId) (uuid : String) : Zone :=
  { s with finalSendCompleteHandler :=
      Function.update s.finalSendCompleteHandler sid (some uuid) }

/-- The history of a move. -/
def notePlaced (s : Zone) (uuid : String) : List (String × SessionId) :=
  match s.manager.uuid2Session uuid with
  | none => s.placed
  | some sid => (uuid, sid) :: s.placed

end Zone

def step (s : Zone) : Event → Option Zone
  | .createUserSession uuid sid =>
    some { s with manager := s.manager.createUserSession uuid sid }
  | .moveUserToTerminationZone uuid =>
    some { s with
      manager := s.manager.moveUserToTerminationZone uuid
      placed := s.notePlaced uuid }
  | .removeUsrSession uuid =>
    match s.manager.waitingToBeClosed uuid with
    | none => some s
    | some i => some (s.markAsDeferredTerminated i uuid)
  | .removeUsrSessionId uuid sid =>
    match s.manager.waitingToBeClosed uuid with
    | none => some s
    | some i => some (if i = sid then s.markAsDeferredTerminated i uuid else s)
  | .finalHandler sid =>
    match s.finalSendCompleteHandler sid with
    | none => none
    | some uuid =>
      some
        { manager := s.manager.eraseWaitingSession uuid
          finalSendCompleteHandler := Function.update s.finalSendCompleteHandler sid none
          placed := s.placed.filter fun p => p.2 ≠ sid
          handlerRuns := s.handlerRuns ++ [⟨sid, s.manager.waitingToBeClosed uuid⟩] }

/-- What the zone is for: whoever has been placed there stays until its own final handler has run,
    which erases its own entry, and nobody is both registered and in the zone. -/
structure ZoneKept (s : Zone) : Prop where
  stays : ∀ p ∈ s.placed, s.manager.waitingToBeClosed p.1 = some p.2
  ownEntry : ∀ r ∈ s.handlerRuns, r.erased = some r.session
  separate : ∀ uuid key i, s.manager.uuid2Session uuid = some i →
    s.manager.waitingToBeClosed key ≠ some i

/-- A session is registered only while it does not wait in the zone, and moved only to a free
    place and if it is not registered under another uuid too. -/
def Orderly (s : Zone) : Event → Prop
  | .createUserSession uuid sid => s.manager.uuid2Session uuid = none →
      ∀ key, s.manager.waitingToBeClosed key ≠ some sid
  | .moveUserToTerminationZone uuid => ∀ sid, s.manager.uuid2Session uuid = some sid →
      s.manager.waitingToBeClosed uuid = none ∧
        ∀ key, s.manager.uuid2Session key = some sid → key = uuid
  | _ => True

/-- The entries of the zone are the sessions placed there, each at one place, and handlers are
    those of entries. -/
structure Inv (s : Zone) : Prop extends ZoneKept s where
  mem_placed : ∀ key i, s.manager.waitingToBeClosed key = some i → (key, i) ∈ s.placed
  onePlace : ∀ key key' i, s.manager.waitingToBeClosed key = some i →
    s.manager.waitingToBeClosed key' = some i → key' = key
  handler : ∀ i key, s.finalSendCompleteHandler i = some key →
    s.manager.waitingToBeClosed key = some i

/-! ## One operation -/

theorem inv_markAsDeferredTerminated {s : Zone} (h : Inv s) {uuid : String} {sid : SessionId}
    (hwaits : s.manager.waitingToBeClosed uuid = some sid) :
    Inv (s.markAsDeferredTerminated sid uuid) where
  stays := h.stays
  ownEntry := h.ownEntry
  separate := h.separate
  mem_placed := h.mem_placed
  onePlace := h.onePlace
  handler i key hi := by
    simp only [Zone.markAsDeferredTerminated, Function.update_apply] at hi
    split at hi
    · rename_i heq
      rw [heq, ← Option.some.inj hi]
      exact hwaits
    · exact h.handler i key hi

theorem inv_createUserSession {s : Zone} (h : Inv s) {uuid : String} {sid : SessionId}
    (horderly : Orderly s (.createUserSession uuid sid)) :
    Inv { s with manager := s.manager.createUserSession uuid sid } := by
  have hzone := s.manager.waiting_createUserSession uuid sid
  constructor
  case toZoneKept =>
    refine ⟨by rw [hzone]; exact h.stays, h.ownEntry, ?_⟩
    rw [hzone]
    intro key key' i hi
    by_cases hfree : s.manager.uuid2Session uuid = none
    · rcases UserManager.createUserSession_eq_some hi with hold | ⟨-, rfl⟩
      · exact h.separate key key' i hold
      · exact horderly hfree key'
    · rw [UserManager.createUserSession, if_pos (Option.isSome_iff_ne_none.mpr hfree)] at hi
      exact h.separate key key' i hi
  case mem_placed => rw [hzone]; exact h.mem_placed
  case onePlace => rw [hzone]; exact h.onePlace
  case handler => rw [hzone]; exact h.handler

theorem waiting_moveToFree {m : UserManager} {uuid : String} {sid : SessionId}
    (hsid : m.uuid2Session uuid = some sid) (hfree : m.waitingToBeClosed uuid = none)
    (key : String) (i : SessionId) :
    (m.moveUserToTerminationZone uuid).waitingToBeClosed key = some i ↔
      m.waitingToBeClosed key = some i ∨ key = uuid ∧ i = sid := by
  rw [UserManager.waiting_moveUserToTerminationZone, hsid]
  by_cases hkey : key = uuid
  · simp [hkey, hfree, eq_comm]
  · simp [hkey]

/-- The session goes to a place that nobody has. -/
theorem inv_moveUserToTerminationZone {s : Zone} (h : Inv s) {uuid : String}
    (horderly : Orderly s (.moveUserToTerminationZone uuid)) :
    Inv { s with
      manager := s.manager.moveUserToTerminationZone uuid
      placed := s.notePlaced uuid } := by
  cases hsid : s.manager.uuid2Session uuid with
  | none =>
    simp only [UserManager.moveUserToTerminationZone, Zone.notePlaced, hsid]
    exact h
  | some sid =>
    obtain ⟨hfree, honly⟩ := horderly sid hsid
    have hzone := waiting_moveToFree hsid hfree
    constructor
    case toZoneKept =>
      refine ⟨?_, h.ownEntry, ?_⟩
      · intro p hp
        simp only [Zone.notePlaced, hsid] at hp
        rw [hzone]
        rcases List.mem_cons.mp hp with rfl | hold
        · exact Or.inr ⟨rfl, rfl⟩
        · exact Or.inl (h.stays p hold)
      · intro key key' i hi hwaits
        rw [UserManager.uuid2Session_moveUserToTerminationZone] at hi
        split at hi
        · cases hi
        · rename_i hkey
          rcases (hzone key' i).mp hwaits with hold | ⟨-, rfl⟩
          · exact h.separate key key' i hi hold
          · exact hkey (honly key hi)
    case mem_placed =>
      intro key i hi
      simp only [Zone.notePlaced, hsid]
      rcases (hzone key i).mp hi with hold | ⟨rfl, rfl⟩
      · exact List.mem_cons_of_mem _ (h.mem_placed key i hold)
      · exact List.mem_cons_self ..
    case onePlace =>
      intro key key' i hi hi'
      rcases (hzone key i).mp hi with hold | ⟨hkey, rfl⟩
      · rcases (hzone key' i).mp hi' with hold' | ⟨-, rfl⟩
        · exact h.onePlace key key' i hold hold'
        · exact absurd hold (h.separate uuid key i hsid)
      · rcases (hzone key' i).mp hi' with hold' | ⟨hkey', -⟩
        · exact absurd hold' (h.separate uuid key' i hsid)
        · rw [hkey, hkey']
    case handler =>
      intro i key hi
      exact (hzone key i).mpr (Or.inl (h.handler i key hi))

/-- An entry is the only one of its session. -/
theorem Inv.waiting_eraseWaitingSession {s : Zone} (h : Inv s) {uuid : String} {sid : SessionId}
    (hown : s.manager.waitingToBeClosed uuid = some sid) (key : String) (i : SessionId) :
    (s.manager.eraseWaitingSession uuid).waitingToBeClosed key = some i ↔
      s.manager.waitingToBeClosed key = some i ∧ i ≠ sid := by
  simp only [UserManager.eraseWaitingSession, Function.update_apply]
  constructor
  · intro hi
    split at hi
    · cases hi
    · rename_i hkey
      refine ⟨hi, ?_⟩
      rintro rfl
      exact hkey (h.onePlace uuid key i hown hi)
  · rintro ⟨hi, hother⟩
    rw [if_neg]
    · exact hi
    · rintro rfl
      exact hother (Option.some.inj (hi.symm.trans hown))

/-- The handler finds the entry of its session. -/
theorem inv_finalHandler {s s' : Zone} {sid : SessionId} (h : Inv s)
    (hstep : step s (.finalHandler sid) = some s') : Inv s' := by
  simp only [step] at hstep
  split at hstep
  · cases hstep
  · rename_i uuid huuid
    obtain rfl := Option.some.inj hstep
    have hown := h.handler sid uuid huuid
    have hzone := h.waiting_eraseWaitingSession hown
    constructor
    case toZoneKept =>
      refine ⟨?_, ?_, ?_⟩
      · intro p hp
        obtain ⟨hplaced, hother⟩ := List.mem_filter.mp hp
        exact (hzone p.1 p.2).mpr ⟨h.stays p hplaced, by simpa using hother⟩
      · intro r hr
        rcases List.mem_append.mp hr with hold | hnew
        · exact h.ownEntry r hold
        · rw [List.mem_singleton.mp hnew]
          exact hown
      · intro key key' i hi hwaits
        exact h.separate key key' i hi ((hzone key' i).mp hwaits).1
    case mem_placed =>
      intro key i hi
      obtain ⟨hwaits, hother⟩ := (hzone key i).mp hi
      exact List.mem_filter.mpr ⟨h.mem_placed key i hwaits, by simpa using hother⟩
    case onePlace =>
      intro key key' i hi hi'
      exact h.onePlace key key' i ((hzone key i).mp hi).1 ((hzone key' i).mp hi').1
    case handler =>
      intro i key hi
      simp only [Function.update_apply] at hi
      split at hi
      · cases hi
      · rename_i hother
        exact (hzone key i).mpr ⟨h.handler i key hi, hother⟩

/-! ## One step -/

theorem inv_step {s : Zone} {e : Event} {s' : Zone} (h : Inv s) (horderly : Orderly s e)
    (hstep : step s e = some s') : Inv s' := by
  cases e with
  | createUserSession uuid sid =>
    obtain rfl := Option.some.inj hstep
    exact inv_createUserSession h horderly
  | moveUserToTerminationZone uuid =>
    obtain rfl := Option.some.inj hstep
    exact inv_moveUserToTerminationZone h horderly
  | removeUsrSession uuid =>
    simp only [step] at hstep
    split at hstep
    · obtain rfl := Option.some.inj hstep
      exact h
    · rename_i hwaits
      obtain rfl := Option.some.inj hstep
      exact inv_markAsDeferredTerminated h hwaits
  | removeUsrSessionId uuid sid =>
    simp only [step] at hstep
    split at hstep
    · obtain rfl := Option.some.inj hstep
      exact h
    · rename_i hwaits
      obtain rfl := Option.some.inj hstep
      split
      · exact inv_markAsDeferredTerminated h hwaits
      · exact h
  | finalHandler sid => exact inv_finalHandler h hstep

/-- A step out of order takes somebody's place, or leaves a session both registered and waiting. -/
theorem not_zoneKept_step {s : Zone} {e : Event} {s' : Zone} (h : Inv s)
    (hdisorder : ¬Orderly s e) (hstep : step s e = some s') : ¬ZoneKept s' := by
  intro hkept
  apply hdisorder
  cases e with
  | createUserSession uuid sid =>
    obtain rfl := Option.some.inj hstep
    intro hfree key hwaits
    refine hkept.separate uuid key sid ?_ ?_
    · show (s.manager.createUserSession uuid sid).getSession uuid = some sid
      rw [UserManager.getSession_createUserSession, UserManager.getSession, hfree, Option.getD_none]
    · rw [UserManager.waiting_createUserSession]
      exact hwaits
  | moveUserToTerminationZone uuid =>
    obtain rfl := Option.some.inj hstep
    intro sid hsid
    have hmoved : (s.manager.moveUserToTerminationZone uuid).waitingToBeClosed uuid = some sid :=
      UserManager.waitingToBeClosed_moveUserToTerminationZone hsid
    constructor
    · -- who waited there is not there any more, though it is placed there
      cases hwaits : s.manager.waitingToBeClosed uuid with
      | none => rfl
      | some i =>
        have hplaced : (uuid, i) ∈ s.notePlaced uuid := by
          simp only [Zone.notePlaced, hsid]
          exact List.mem_cons_of_mem _ (h.mem_placed uuid i hwaits)
        have hsame : i = sid := Option.some.inj ((hkept.stays _ hplaced).symm.trans hmoved)
        rw [hsame] at hwaits
        exact absurd hwaits (h.separate uuid uuid sid hsid)
    · intro key hkey
      by_cases heq : key = uuid
      · exact heq
      · refine absurd hmoved (hkept.separate key uuid sid ?_)
        rw [UserManager.uuid2Session_moveUserToTerminationZone, if_neg heq]
        exact hkey
  | removeUsrSession uuid => trivial
  | removeUsrSessionId uuid sid => trivial
  | finalHandler sid => trivial

theorem inv_init : Inv init where
  stays p hp := by cases hp
  ownEntry r hr := by cases hr
  separate uuid key i hi := by cases hi
  mem_placed key i hi := by cases hi
  onePlace key key' i hi := by cases hi
  handler i key hi := by cases hi

/-! ## The runs -/

/-- The zone keeps its sessions along a run exactly if every step is in order: a registered
    session does not wait in the zone, and a moved one has the place and its registration for
    itself. -/
theorem always_zoneKept_iff (es : List Event) :
    Trace.Always step ZoneKept init es ↔ Trace.Meets step Orderly init es := by
  apply Trace.always_iff_meets Inv
  · intro s h
    exact h.toZoneKept
  · intro s e s' h horderly hstep
    exact inv_step h horderly hstep
  · intro s e s' h hdisorder hstep
    exact not_zoneKept_step h hdisorder hstep
  · exact inv_init

/-- User 7 is kicked, logs in again and is kicked again; then the first session runs its handler. -/
def kickedTwice : List Event :=
  [.createUserSession "7" 0, .moveUserToTerminationZone "7", .removeUsrSessionId "7" 0,
    .createUserSession "7" 1, .moveUserToTerminationZone "7", .removeUsrSessionId "7" 1,
    .finalHandler 0]

/-- The first session lost its place to the second, and erases the entry of the second. -/
theorem not_zoneKept_kickedTwice :
    ∃ s, Trace.exec step init kickedTwice = some s ∧ s.placed = [("7", 1)] ∧
      s.finalSendCompleteHandler 1 = some "7" ∧ s.manager.waitingToBeClosed "7" = none ∧
      s.handlerRuns = [⟨0, some 1⟩] ∧ ¬ZoneKept s := by
  refine ⟨_, rfl, rfl, rfl, rfl, rfl, ?_⟩
  intro h
  have hown := h.ownEntry ⟨0, some 1⟩ (by decide)
  exact absurd hown (by decide)

end TerminationZone

end DistributedIM.ChattingServer
