/-
  What a login is answered with, and what it leaves installed. `handlingLogin` goes on after
  `updateRedisCache`, a void function: whether the lock was not acquired, the remote kick failed
  (an error has been sent then) or a label was not written, the session is registered and answered,
  unless reading the profile throws. `insert` keeps the session that is already registered under the
  uuid.
-/
import DistributedIM.ChattingServer.Login

namespace DistributedIM.ChattingServer

namespace Cluster

/-! ## What stays as it is in every session -/

/-- `g` reads the same of each session in `c'` as in `c`. -/
def SameOf {α : Type} (g : ChatSession → α) (c c' : Cluster) : Prop :=
  ∀ i, g (c'.session i) = g (c.session i)

section

variable {α : Type} {g : ChatSession → α}

theorem SameOf.refl (g : ChatSession → α) (c : Cluster) : SameOf g c c := fun _ => rfl

theorem SameOf.trans {c c' c'' : Cluster} (h : SameOf g c c') (h' : SameOf g c' c'') :
    SameOf g c c'' := fun i => (h' i).trans (h i)

theorem sameOf_modifySession (c : Cluster) (sid : SessionId) {f : ChatSession → ChatSession}
    (hf : ∀ s, g (f s) = g s) : SameOf g c (c.modifySession sid f) := by
  intro i
  rw [session_modifySession]
  split
  · exact hf _
  · rfl

theorem sameOf_foldl {β : Type} {f : Cluster → β → Cluster} (hf : ∀ c b, SameOf g c (f c b))
    (c : Cluster) (bs : List β) : SameOf g c (bs.foldl f c) := by
  induction bs generalizing c with
  | nil => exact .refl g c
  | cons b bs ih => exact (hf c b).trans (ih (f c b))

variable (hmark : ∀ s uuid, g (ChatSession.markAsDeferredTerminated s uuid) = g s)

include hmark

theorem sameOf_removeUsrSession (c : Cluster) (server uuid : String) :
    SameOf g c (c.removeUsrSession server uuid) := by
  unfold removeUsrSession
  split
  · exact .refl g c
  · exact c.sameOf_modifySession _ fun s => hmark s uuid

theorem sameOf_removeUsrSessionId (c : Cluster) (server uuid : String) (sid : SessionId) :
    SameOf g c (c.removeUsrSessionId server uuid sid) := by
  unfold removeUsrSessionId
  split
  · exact .refl g c
  · split
    · exact c.sameOf_modifySession _ fun s => hmark s uuid
    · exact .refl g c

theorem sameOf_kickSession (c : Cluster) (sid : SessionId) (lock : Bool) :
    SameOf g c (c.kickSession sid lock) := by
  have hcache : SameOf g c (c.removeRedisCache sid lock) := by
    unfold removeRedisCache
    split
    · exact fun _ => rfl
    · exact .refl g c
  exact hcache.trans (sameOf_removeUsrSession hmark _ _ _)

theorem sameOf_kickHere (c : Cluster) (server uuid : String) :
    SameOf g c (c.kickHere server uuid) := by
  unfold kickHere
  split
  · exact .refl g c
  · exact sameOf_removeUsrSessionId hmark _ _ _ _

theorem sameOf_forceTerminateLoginedUser (c : Cluster) (server : String) (kickUuid : Int) :
    SameOf g c (c.forceTerminateLoginedUser server kickUuid) := by
  unfold forceTerminateLoginedUser
  split
  · exact .refl g c
  · exact sameOf_removeUsrSessionId hmark _ _ _ _

theorem sameOf_handlingLogout (c : Cluster) (sid : SessionId) (request : AccountRequest)
    (token : Bool) : SameOf g c (c.handlingLogout sid request token) := by
  unfold handlingLogout
  split
  · exact .refl g c
  · exact .refl g c
  · split
    · exact sameOf_removeUsrSessionId hmark _ _ _ _
    · exact .refl g c

theorem sameOf_heartBeatEvent (c : Cluster) (server : String) (expired : List (String × Bool)) :
    SameOf g c (c.heartBeatEvent server expired) := by
  unfold heartBeatEvent
  refine (sameOf_foldl ?_ c expired).trans (sameOf_foldl ?_ _ _)
  · intro c e
    split
    · exact .refl g c
    · unfold removeRedisCache
      split
      · exact fun _ => rfl
      · exact .refl g c
  · intro c e
    exact sameOf_removeUsrSession hmark _ _ _

variable (huuid : ∀ s uuid, g (ChatSession.setUUID s uuid) = g s)
  (hreply : ∀ s r, g (ChatSession.reply s r) = g s)

include hreply in
theorem sameOf_updateRedisCache (c : Cluster) (sid : SessionId) (uuid : String) (uuidInt : Int)
    (out : LoginOutcome) : SameOf g c (c.updateRedisCache sid uuid uuidInt out) := by
  unfold updateRedisCache
  split
  · split
    · exact .refl g c
    · split
      · exact sameOf_kickHere hmark c _ _
      · split
        · exact c.sameOf_modifySession sid fun s => hreply s _
        · exact (sameOf_forceTerminateLoginedUser hmark c _ _).trans
            (sameOf_modifySession _ sid fun s => hreply s _)
        · exact sameOf_forceTerminateLoginedUser hmark c _ _
  · exact .refl g c

include hreply in
theorem sameOf_answer (c : Cluster) (sid : SessionId) (number : Nat) (out : LoginOutcome) :
    SameOf g c (c.answer sid number out) := by
  unfold answer
  split
  · exact c.sameOf_modifySession sid fun s => hreply s _
  · exact (c.sameOf_modifySession sid fun s => hreply s _).trans (sameOf_kickSession hmark _ sid _)
  · exact .refl g c

include huuid hreply in
theorem sameOf_handlingLogin (c : Cluster) (sid : SessionId) (request : AccountRequest)
    (out : LoginOutcome) : SameOf g c (c.handlingLogin sid request out) := by
  have hfail : SameOf g c (c.modifySession sid fun s => s.reply (.error .loginUnsuccessful)) :=
    c.sameOf_modifySession sid fun s => hreply s _
  have haccepted (uuid : String) (number : Nat) :
      SameOf g c (c.loginAccepted sid uuid number out) := by
    unfold loginAccepted
    split
    · exact .refl g c
    · have hregister := (sameOf_updateRedisCache hmark hreply c sid uuid ‹_› out).trans
        (sameOf_modifySession _ sid (f := fun s => s.setUUID uuid) fun s => huuid s uuid)
      exact hregister.trans (sameOf_answer hmark hreply _ sid number out)
  unfold handlingLogin
  dsimp only
  split
  · exact hfail
  · split
    · exact sameOf_kickSession hmark c sid _
    · split
      · exact .refl g c
      · exact .refl g c
      · split
        · exact hfail
        · split
          · exact haccepted _ _
          · exact hfail

end

/-! ## The replies -/

theorem redis_removeUsrSessionId (c : Cluster) (server uuid : String) (sid : SessionId) :
    (c.removeUsrSessionId server uuid sid).redis = c.redis := by
  unfold removeUsrSessionId
  split
  · rfl
  · split <;> rfl

theorem redis_kickHere (c : Cluster) (server uuid : String) :
    (c.kickHere server uuid).redis = c.redis := by
  unfold kickHere
  split
  · rfl
  · exact redis_removeUsrSessionId ..

theorem redis_forceTerminateLoginedUser (c : Cluster) (server : String) (kickUuid : Int) :
    (c.forceTerminateLoginedUser server kickUuid).redis = c.redis := by
  unfold forceTerminateLoginedUser
  split
  · rfl
  · exact redis_removeUsrSessionId ..

theorem getSession_register (c : Cluster) (sid : SessionId) (uuid : String) :
    (c.register sid uuid).getSession (c.session sid).server uuid =
      some ((c.getSession (c.session sid).server uuid).getD sid) := by
  simp only [register, getSession, modifyManager, Function.update_self]
  exact UserManager.getSession_createUserSession ..

/-- The handler runs to its end: it answers with success, and increments the connection counter. -/
def completes (c : Cluster) (sid : SessionId) (out : LoginOutcome) : AccountRequest → Bool
  | .incomplete | .illTyped => false
  | .wellFormed uuid =>
    (c.getSession (c.session sid).server (c.session sid).uuid).isNone &&
      (Text.readUInt64 uuid).isSome && out.token && (Text.stoi uuid).isSome &&
      decide (out.profile = .found)

/-- A login either registers nobody and tells nobody of a success, or its token is accepted. -/
theorem handlingLogin_cases (c : Cluster) (sid : SessionId) (request : AccountRequest)
    (out : LoginOutcome) :
    WindsDown c (c.handlingLogin sid request out) ∧ c.completes sid out request = false ∨
      ∃ uuid number, request = .wellFormed uuid ∧ Text.readUInt64 uuid = some number ∧
        c.getSession (c.session sid).server (c.session sid).uuid = none ∧
        c.completes sid out request = ((Text.stoi uuid).isSome && decide (out.profile = .found)) ∧
        c.handlingLogin sid request out = c.loginAccepted sid uuid number out := by
  cases request with
  | incomplete => exact Or.inl ⟨c.windsDown_reply_error .., rfl⟩
  | illTyped =>
    refine Or.inl ⟨?_, rfl⟩
    unfold handlingLogin
    dsimp only
    rw [if_neg (by simp)]
    split
    · exact c.windsDown_kickSession ..
    · exact .refl c
  | wellFormed uuid =>
    unfold handlingLogin completes
    dsimp only
    rw [if_neg (by simp)]
    cases hself : c.getSession (c.session sid).server (c.session sid).uuid with
    | some i => exact Or.inl ⟨c.windsDown_kickSession .., rfl⟩
    | none =>
      cases hnumber : Text.readUInt64 uuid with
      | none => exact Or.inl ⟨c.windsDown_reply_error .., rfl⟩
      | some number =>
        cases htoken : out.token with
        | false => exact Or.inl ⟨c.windsDown_reply_error .., rfl⟩
        | true => exact Or.inr ⟨uuid, number, rfl, hnumber, rfl, rfl, rfl⟩

end Cluster

end DistributedIM.ChattingServer
