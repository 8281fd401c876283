/-
  Whom a logout touches. `handlingLogout` moves whoever is registered under the uuid of the request
  into the termination zone, and only then does `removeUsrSession(uuid, session_id)` compare session
  ids.

  The handler answers with one message to the requester. If the write side pops a message while the
  requester waits for its termination, the requester's final handler runs at that point.
-/
import DistributedIM.ChattingServer.Login

namespace DistributedIM.ChattingServer

namespace Cluster

/-! ## The sessions other than one -/

/-- The sessions other than `sid` are as they were: their own state, the keys they are registered
    under, and their places in the termination zones. -/
structure OthersUntouched (sid : SessionId) (c c' : Cluster) : Prop where
  session : ∀ i, i ≠ sid → c'.session i = c.session i
  registered : ∀ i, i ≠ sid → ∀ server uuid,
    c'.getSession server uuid = some i ↔ c.getSession server uuid = some i
  waiting : ∀ i, i ≠ sid → ∀ server uuid,
    (c'.manager server).waitingToBeClosed uuid = some i ↔
      (c.manager server).waitingToBeClosed uuid = some i

namespace OthersUntouched

variable {sid : SessionId} {c c' c'' : Cluster}

theorem refl (sid : SessionId) (c : Cluster) : OthersUntouched sid c c where
  session _ _ := rfl
  registered _ _ _ _ := Iff.rfl
  waiting _ _ _ _ := Iff.rfl

theorem symm (h : OthersUntouched sid c c') : OthersUntouched sid c' c where
  session i hi := (h.session i hi).symm
  registered i hi server uuid := (h.registered i hi server uuid).symm
  waiting i hi server uuid := (h.waiting i hi server uuid).symm

theorem trans (h : OthersUntouched sid c c') (h' : OthersUntouched sid c' c'') :
    OthersUntouched sid c c'' where
  session i hi := (h'.session i hi).trans (h.session i hi)
  registered i hi server uuid :=
    (h'.registered i hi server uuid).trans (h.registered i hi server uuid)
  waiting i hi server uuid := (h'.waiting i hi server uuid).trans (h.waiting i hi server uuid)

theorem trans_iff (h : OthersUntouched sid c c') :
    OthersUntouched sid c c'' ↔ OthersUntouched sid c' c'' :=
  ⟨h.symm.trans, h.trans⟩

theorem iff_trans (h : OthersUntouched sid c' c'') :
    OthersUntouched sid c c'' ↔ OthersUntouched sid c c' :=
  ⟨fun hall => hall.trans h.symm, fun hfirst => hfirst.trans h⟩

end OthersUntouched

theorem othersUntouched_modifySession (c : Cluster) (sid : SessionId)
    (f : ChatSession → ChatSession) : OthersUntouched sid c (c.modifySession sid f) where
  session i hi := by rw [session_modifySession, if_neg hi]
  registered _ _ _ _ := Iff.rfl
  waiting _ _ _ _ := Iff.rfl

theorem othersUntouched_removeUsrSessionId (c : Cluster) (server uuid : String)
    (sid : SessionId) : OthersUntouched sid c (c.removeUsrSessionId server uuid sid) := by
  unfold removeUsrSessionId
  split
  · exact .refl sid c
  · split
    · rename_i hi
      subst hi
      exact c.othersUntouched_modifySession ..
    · exact .refl sid c

theorem othersUntouched_eraseWaitingSession_iff (c : Cluster) (sid : SessionId)
    (server key : String) :
    OthersUntouched sid c (c.modifyManager server fun m => m.eraseWaitingSession key) ↔
      ∀ i, (c.manager server).waitingToBeClosed key = some i → i = sid := by
  constructor
  · intro h i hi
    by_contra hne
    have hgone := (h.waiting i hne server key).mpr hi
    rw [waiting_eraseWaitingSession, if_pos ⟨rfl, rfl⟩] at hgone
    cases hgone
  · intro h
    constructor
    case session => exact fun _ _ => rfl
    case registered =>
      intro i _ server' key'
      rw [getSession_eraseWaitingSession]
    case waiting =>
      intro i hne server' key'
      rw [waiting_eraseWaitingSession]
      split
      · rename_i hkey
        obtain ⟨rfl, rfl⟩ := hkey
        constructor
        · intro hi
          cases hi
        · intro hi
          exact absurd (h i hi) hne
      · exact Iff.rfl

/-- The move touches nobody else exactly when the session it moves, if any, is `sid`, and no other
    session loses its place in the termination zone to it. -/
theorem othersUntouched_moveUserToTerminationZone_iff (c : Cluster) (sid : SessionId)
    (server uuid : String) :
    OthersUntouched sid c (c.moveUserToTerminationZone server uuid) ↔
      ∀ i, c.getSession server uuid = some i →
        i = sid ∧ ∀ j, (c.manager server).waitingToBeClosed uuid = some j → j = sid := by
  constructor
  · intro h i hi
    have hisid : i = sid := by
      by_contra hne
      have hgone := (h.registered i hne server uuid).mpr hi
      rw [getSession_moveUserToTerminationZone, if_pos ⟨rfl, rfl⟩] at hgone
      cases hgone
    refine ⟨hisid, fun j hj => ?_⟩
    by_contra hne
    have hkept := (h.waiting j hne server uuid).mpr hj
    rw [waiting_moveUserToTerminationZone, if_pos ⟨rfl, rfl, by rw [hi]; rfl⟩, hi] at hkept
    exact hne ((Option.some.inj hkept).symm.trans hisid)
  · intro h
    constructor
    case session => exact fun _ _ => rfl
    case registered =>
      intro i hne server' key
      rw [getSession_moveUserToTerminationZone]
      split
      · rename_i hkey
        obtain ⟨rfl, rfl⟩ := hkey
        constructor
        · intro hi
          cases hi
        · intro hi
          exact absurd (h i hi).1 hne
      · exact Iff.rfl
    case waiting =>
      intro j hne server' key
      rw [waiting_moveUserToTerminationZone]
      split
      · rename_i hkey
        obtain ⟨rfl, rfl, hsome⟩ := hkey
        obtain ⟨i, hi⟩ := Option.isSome_iff_exists.mp hsome
        obtain ⟨rfl, hwaiting⟩ := h i hi
        rw [hi, Option.some.injEq]
        constructor
        · intro hij
          exact absurd hij.symm hne
        · intro hj
          exact absurd (hwaiting j hj) hne
      · exact Iff.rfl

/-! ## The whole request -/

/-- What `Session::sendMessage` does besides queueing: a popped message (`pops`) makes
    `checkDeferredTermination` run. -/
def sendMessage (c : Cluster) (sid : SessionId) (pops : Bool) : Cluster :=
  if pops then c.checkDeferredTermination sid else c

/-- `handlingLogout` with the message it sends first: the offline message, or an error. A request
    that cannot be read throws before anything is sent. -/
def logoutRequest (c : Cluster) (sid : SessionId) (request : AccountRequest) (token pops : Bool) :
    Cluster :=
  if request = .illTyped then c
  else (c.sendMessage sid pops).handlingLogout sid request token

/-- The requester's final handler, if the reply makes it run, erases no other session's place in
    the termination zone. -/
def ErasesItself (c : Cluster) (sid : SessionId) (pops : Bool) : Prop :=
  pops = true → (c.session sid).state.isTerminating = true →
    ∀ key ∈ (c.session sid).finalSendCompleteHandler, ∀ j,
      (c.manager (c.session sid).server).waitingToBeClosed key = some j → j = sid

/-- An accepted request names a uuid under which only the requester is registered or waiting for
    its termination, or nobody is registered. -/
def NamesItself (c : Cluster) (sid : SessionId) : AccountRequest → Bool → Prop
  | .wellFormed uuid, true =>
    (Text.readUInt64 uuid).isSome → ∀ i, c.getSession (c.session sid).server uuid = some i →
      i = sid ∧
        ∀ j, (c.manager (c.session sid).server).waitingToBeClosed uuid = some j → j = sid
  | _, _ => True

theorem getSession_checkDeferredTermination (c : Cluster) (sid : SessionId) (server key : String) :
    (c.checkDeferredTermination sid).getSession server key = c.getSession server key := by
  unfold checkDeferredTermination
  split
  · split
    · rfl
    · exact getSession_eraseWaitingSession ..
  · rfl

theorem getSession_sendMessage (c : Cluster) (sid : SessionId) (pops : Bool)
    (server key : String) :
    (c.sendMessage sid pops).getSession server key = c.getSession server key := by
  unfold sendMessage
  split
  · exact c.getSession_checkDeferredTermination ..
  · rfl

theorem server_sendMessage (c : Cluster) (sid : SessionId) (pops : Bool) (i : SessionId) :
    ((c.sendMessage sid pops).session i).server = (c.session i).server := by
  unfold sendMessage
  split
  · exact (c.windsDown_checkDeferredTermination sid).server i
  · rfl

theorem othersUntouched_sendMessage_iff (c : Cluster) (sid : SessionId) (pops : Bool) :
    OthersUntouched sid c (c.sendMessage sid pops) ↔ c.ErasesItself sid pops := by
  unfold sendMessage ErasesItself checkDeferredTermination
  cases pops with
  | false => simp [OthersUntouched.refl]
  | true =>
    simp only [if_true, true_imp_iff]
    split
    · rename_i hterminating
      rw [imp_iff_right hterminating]
      split
      · rename_i hnone
        simp [hnone, OthersUntouched.refl]
      · rename_i key hkey
        have hend := c.othersUntouched_modifySession sid fun s => s.terminated
        rw [hend.trans_iff, othersUntouched_eraseWaitingSession_iff, hkey]
        simp only [Option.mem_some_iff, forall_eq']
        exact Iff.rfl
    · rename_i halive
      simp [halive, OthersUntouched.refl]

theorem waiting_sendMessage {c : Cluster} {sid : SessionId} {key : String}
    (hterminating : (c.session sid).state.isTerminating = true)
    (hkey : (c.session sid).finalSendCompleteHandler = some key) :
    ((c.sendMessage sid true).manager (c.session sid).server).waitingToBeClosed key = none := by
  unfold sendMessage checkDeferredTermination
  rw [if_pos rfl, if_pos hterminating, hkey]
  exact (waiting_eraseWaitingSession ..).trans (if_pos ⟨rfl, rfl⟩)

theorem namesItself_sendMessage_iff {c : Cluster} {sid : SessionId} {pops : Bool}
    (h : OthersUntouched sid c (c.sendMessage sid pops)) (request : AccountRequest)
    (token : Bool) :
    (c.sendMessage sid pops).NamesItself sid request token ↔ c.NamesItself sid request token := by
  have hwaiting (server uuid : String) :
      (∀ j, ((c.sendMessage sid pops).manager server).waitingToBeClosed uuid = some j → j = sid) ↔
        ∀ j, (c.manager server).waitingToBeClosed uuid = some j → j = sid := by
    refine forall_congr' fun j => ?_
    by_cases hj : j = sid
    · simp [hj]
    · rw [h.waiting j hj server uuid]
  unfold NamesItself
  simp only [getSession_sendMessage, server_sendMessage, hwaiting]

theorem othersUntouched_handlingLogout_iff (c : Cluster) (sid : SessionId)
    (request : AccountRequest) (token : Bool) :
    OthersUntouched sid c (c.handlingLogout sid request token) ↔
      c.NamesItself sid request token := by
  unfold handlingLogout NamesItself
  cases request with
  | incomplete => simp [OthersUntouched.refl]
  | illTyped => simp [OthersUntouched.refl]
  | wellFormed uuid =>
    cases token with
    | false => simp [OthersUntouched.refl]
    | true =>
      dsimp only
      split
      · rename_i haccepted
        rw [imp_iff_right haccepted.1, (othersUntouched_removeUsrSessionId ..).iff_trans,
          othersUntouched_moveUserToTerminationZone_iff]
      · rename_i hrejected
        simp only [and_true] at hrejected
        simp [hrejected, OthersUntouched.refl]

/-- Who waits after a logout has waited before, or has just been unregistered. -/
theorem waiting_handlingLogout {c : Cluster} {sid : SessionId} {request : AccountRequest}
    {token : Bool} {server key : String} {j : SessionId}
    (h : ((c.handlingLogout sid request token).manager server).waitingToBeClosed key = some j) :
    (c.manager server).waitingToBeClosed key = some j ∨
      c.getSession server key = some j ∧
        (c.handlingLogout sid request token).getSession server key = none := by
  have hmark (c : Cluster) (server uuid : String) :
      (c.removeUsrSessionId server uuid sid).manager = c.manager := by
    unfold removeUsrSessionId
    split
    · rfl
    · split <;> rfl
  unfold handlingLogout at h ⊢
  split at h
  · exact Or.inl h
  · exact Or.inl h
  · rename_i uuid
    split at h
    · rename_i haccepted
      rw [if_pos haccepted]
      simp only [hmark, getSession] at h ⊢
      rw [waiting_moveUserToTerminationZone] at h
      split at h
      · rename_i hkey
        obtain ⟨rfl, rfl, -⟩ := hkey
        refine Or.inr ⟨h, ?_⟩
        exact (getSession_moveUserToTerminationZone ..).trans (if_pos ⟨rfl, rfl⟩)
      · exact Or.inl h
    · exact Or.inl h

/-- A logout request leaves every other session as it was exactly when neither the reply's final
    handler nor the uuid it names reaches one. -/
theorem othersUntouched_logoutRequest_iff (c : Cluster) (sid : SessionId)
    (request : AccountRequest) (token pops : Bool) :
    OthersUntouched sid c (c.logoutRequest sid request token pops) ↔
      request = .illTyped ∨ c.ErasesItself sid pops ∧ c.NamesItself sid request token := by
  unfold logoutRequest
  split
  · rename_i hthrows
    simp [hthrows, OthersUntouched.refl]
  · rename_i hread
    have hlogout := othersUntouched_handlingLogout_iff (c.sendMessage sid pops) sid request token
    rw [or_iff_right hread]
    have herases (h : OthersUntouched sid c ((c.sendMessage sid pops).handlingLogout sid request
        token)) : c.ErasesItself sid pops := by
      intro hpops hterminating key hkey j hj
      by_contra hne
      have hwaits := (h.waiting j hne _ key).mpr hj
      rcases waiting_handlingLogout hwaits with hstill | ⟨hwas, hgone⟩
      · subst hpops
        rw [waiting_sendMessage hterminating hkey] at hstill
        cases hstill
      · rw [getSession_sendMessage] at hwas
        have hnow := (h.registered j hne _ key).mpr hwas
        rw [hgone] at hnow
        cases hnow
    constructor
    · intro h
      have hsend := (c.othersUntouched_sendMessage_iff sid pops).mpr (herases h)
      rw [hsend.trans_iff, hlogout, namesItself_sendMessage_iff hsend] at h
      exact ⟨(c.othersUntouched_sendMessage_iff sid pops).mp hsend, h⟩
    · intro ⟨hself, hnames⟩
      have hsend := (c.othersUntouched_sendMessage_iff sid pops).mpr hself
      rw [hsend.trans_iff, hlogout, namesItself_sendMessage_iff hsend]
      exact hnames

/-- Two connections on one server log in as user 7; the second login kicks the first session. -/
def loggedInTwice : Cluster :=
  let out : LoginOutcome := ⟨true, true, .answered, true, true, true, true, .found, true⟩
  let c := { init with accepted := 2, session := fun _ => .accepted "A" }
  (c.handlingLogin 0 (.wellFormed "7") out).handlingLogin 1 (.wellFormed "7") out

/-- The kicked session logs out, and the second session is no longer registered. -/
theorem not_othersUntouched_kicked :
    ¬OthersUntouched 0 loggedInTwice
      (loggedInTwice.logoutRequest 0 (.wellFormed "7") true false) := by
  intro h
  have hregistered : loggedInTwice.getSession "A" "7" = some 1 := by decide
  have hgone := (h.registered 1 (by decide) "A" "7").mpr hregistered
  exact absurd hgone (by decide)

end Cluster

end DistributedIM.ChattingServer
