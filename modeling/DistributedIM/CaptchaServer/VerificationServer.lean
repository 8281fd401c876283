/-
  The verification server: `GetVerificationCode` and `generateEmail` with `checkKey`,
  `setValueExpiracy` and `sendMail`, any number of requests at a time.

  A request that finds a code for its email is never answered. Otherwise a code is made, the SET is
  sent and the mail is handed to the transport, and when the SET is answered the EXPIRE is sent. A
  `checkKey` that fails finds nothing, and what `setValueExpiracy` returns is not waited for.

  `always_mortal_iff` says exactly when no code stays for good: a SET and its EXPIRE are two
  commands, and a code outlives its three minutes if the second gets lost and no other request for
  the email makes up for it. `HandedOver` is for those who read the codes: a mail with a code in Redis
  was handed over, to its key.

  The server has the keys of Redis to itself in its runs. A code is the first four characters of a
  UUID. Whether a mail that is handed over arrives is not modelled. One that fails throws from its
  callback (`error` has no value there) and ends the process, and so `crash` may come at any time.
-/
import DistributedIM.BalanceServer.UserTokens

namespace DistributedIM.CaptchaServer

open ChattingServer.RedisLock (RedisReply Delivery Store redisCommand)
open BalanceServer.UserTokens (set)

/-! ## `redis.js` -/

/-- `EXISTS key` -/
def existsKey (key : String) (store : Store) : RedisReply × Store :=
  (.integer (if (store key).isSome then 1 else 0), store)

/-- `res != null`: an error gives `undefined`. -/
def checkKey (delivery : Delivery) (store : Store) (key : String) : Bool :=
  match (redisCommand delivery store (existsKey key)).1 with
  | .integer n => n ≠ 0
  | _ => false

/-! ## Requests -/

/-- `id.substring(0, 4)` -/
abbrev Code := { text : String // text.length = 4 }

inductive Stage
  /-- EXISTS is on its way -/
  | checkKey
  /-- SET is on its way, and the transport has the mail with the code -/
  | setValue (code : Code)
  /-- EXPIRE is on its way -/
  | expire
  | ended
  deriving DecidableEq, Repr

structure Request where
  email : String
  stage : Stage
  deriving DecidableEq, Repr

namespace Request

/-- The next command of a request; `code` is the code, should there be one to make. -/
def run (delivery : Delivery) (code : Code) (store : Store) (r : Request) :
    Option (Store × Request) :=
  match r.stage with
  | .checkKey =>
    some (store, { r with
      stage := if CaptchaServer.checkKey delivery store r.email then .ended else .setValue code })
  | .setValue code =>
    some ((redisCommand delivery store (set r.email code.val)).2,
      { r with stage := if delivery = .answered then .expire else .ended })
  | .expire => some (store, { r with stage := .ended })
  | .ended => none

/-- The mail that the transport gets at this step. -/
def sendMail (r : Request) (after : Request) : List (String × String) :=
  match r.stage, after.stage with
  | .checkKey, .setValue code => [(r.email, code.val)]
  | _, _ => []

/-- Whether a key has a time to live after the command: a SET takes it away, an EXPIRE gives one. -/
def timeToLive (delivery : Delivery) (mortal : String → Bool) (r : Request) : String → Bool :=
  match r.stage with
  | .setValue _ => if delivery = .notExecuted then mortal else Function.update mortal r.email false
  | .expire => if delivery = .notExecuted then mortal else Function.update mortal r.email true
  | _ => mortal

end Request

structure VerificationServer where
  store : Store
  /-- the keys that have a time to live -/
  mortal : String → Bool
  requests : List Request
  /-- the mails that the transport has got, sent or not: to whom, and the code -/
  mails : List (String × String)

namespace VerificationServer

def init : VerificationServer where
  store _ := none
  mortal _ := false
  requests := []
  mails := []

inductive Event
  | getVerificationCode (email : String)
  /-- the next command of request `i` -/
  | run (i : Nat) (delivery : Delivery) (code : Code)
  /-- a key comes to the end of its time -/
  | lapse (key : String)
  | crash
  deriving DecidableEq, Repr

def run (s : VerificationServer) (i : Nat) (delivery : Delivery) (code : Code) :
    Option VerificationServer :=
  s.requests[i]?.bind fun r =>
    (r.run delivery code s.store).map fun next =>
      { store := next.1
        mortal := r.timeToLive delivery s.mortal
        requests := s.requests.set i next.2
        mails := s.mails ++ r.sendMail next.2 }

def step (s : VerificationServer) : Event → Option VerificationServer
  | .getVerificationCode email => some { s with requests := s.requests ++ [⟨email, .checkKey⟩] }
  | .run i delivery code => s.run i delivery code
  | .lapse key =>
    if s.mortal key then some { s with store := Function.update s.store key none } else none
  | .crash => some { s with requests := [] }

/-! ## What a step does -/

variable {s s' : VerificationServer}

theorem run_eq_some {i : Nat} {delivery : Delivery} {code : Code}
    (h : s.run i delivery code = some s') :
    ∃ r next, s.requests[i]? = some r ∧ r.run delivery code s.store = some next ∧
      s' = { store := next.1
             mortal := r.timeToLive delivery s.mortal
             requests := s.requests.set i next.2
             mails := s.mails ++ r.sendMail next.2 } := by
  obtain ⟨r, hr, hmap⟩ := Option.bind_eq_some_iff.mp h
  obtain ⟨next, hnext, rfl⟩ := Option.map_eq_some_iff.mp hmap
  exact ⟨r, next, hr, hnext, rfl⟩

theorem store_set (delivery : Delivery) (store : Store) (key code : String) :
    (redisCommand delivery store (set key code)).2 =
      if delivery = .notExecuted then store else Function.update store key (some code) := by
  cases delivery <;> rfl

/-! ## Codes and mails -/

/-- A mail with a code in Redis, or on its way there, was handed over to its key; some keys are of
    others. -/
structure HandedOver (others : String → Prop) (s : VerificationServer) : Prop where
  store : ∀ key code, s.store key = some code → (key, code) ∈ s.mails ∨ others key
  requests : ∀ r ∈ s.requests, ∀ code, r.stage = .setValue code → (r.email, code.val) ∈ s.mails

/-- The next command of a request keeps what is in Redis, or sets the code of the request. -/
theorem store_run {delivery : Delivery} {code : Code} {store store' : Store} {r r' : Request}
    (h : r.run delivery code store = some (store', r')) :
    store' = store ∨ delivery ≠ .notExecuted ∧ ∃ code, r.stage = .setValue code ∧
      store' = Function.update store r.email (some code.val) := by
  unfold Request.run at h
  split at h
  · exact .inl (Prod.mk.inj (Option.some.inj h)).1.symm
  · rename_i code hstage
    obtain ⟨rfl, -⟩ := Prod.mk.inj (Option.some.inj h)
    rw [store_set]
    split
    · exact .inl rfl
    · rename_i hexecuted
      exact .inr ⟨hexecuted, code, hstage, rfl⟩
  · exact .inl (Prod.mk.inj (Option.some.inj h)).1.symm
  · cases h

/-- A code that is about to be set is in a mail that is handed over. -/
theorem sendMail_run {delivery : Delivery} {code : Code} {store store' : Store} {r r' : Request}
    (h : r.run delivery code store = some (store', r')) {value : Code}
    (hstage : r'.stage = .setValue value) : r.sendMail r' = [(r'.email, value.val)] := by
  unfold Request.run at h
  split at h
  · rename_i hcheck
    obtain ⟨-, rfl⟩ := Prod.mk.inj (Option.some.inj h)
    unfold Request.sendMail
    rw [hcheck, hstage]
  · obtain ⟨-, rfl⟩ := Prod.mk.inj (Option.some.inj h)
    dsimp only at hstage
    split at hstage <;> cases hstage
  · obtain ⟨-, rfl⟩ := Prod.mk.inj (Option.some.inj h)
    cases hstage
  · cases h

variable {others : String → Prop}

theorem handedOver_step {e : Event} (h : HandedOver others s) (hstep : s.step e = some s') :
    HandedOver others s' := by
  cases e with
  | getVerificationCode email =>
    obtain rfl := Option.some.inj hstep
    refine ⟨h.store, fun r hr code hcode => ?_⟩
    rcases List.mem_append.mp hr with hold | hnew
    · exact h.requests r hold code hcode
    · rw [List.mem_singleton.mp hnew] at hcode
      cases hcode
  | run i delivery code =>
    obtain ⟨r, ⟨store', r'⟩, hr, hrun, rfl⟩ := run_eq_some hstep
    have hr := List.mem_of_getElem? hr
    refine ⟨fun key value hvalue => Or.imp_left (List.mem_append_left _) ?_,
      fun r'' hr'' value hvalue => ?_⟩
    · dsimp only at hvalue
      rcases store_run hrun with rfl | ⟨-, code, hstage, rfl⟩
      · exact h.store key value hvalue
      · by_cases hkey : key = r.email
        · rw [hkey, Function.update_self] at hvalue
          rw [hkey, ← Option.some.inj hvalue]
          exact .inl (h.requests r hr code hstage)
        · rw [Function.update_of_ne hkey] at hvalue
          exact h.store key value hvalue
    · rcases List.mem_or_eq_of_mem_set hr'' with hold | rfl
      · exact List.mem_append_left _ (h.requests r'' hold value hvalue)
      · refine List.mem_append_right _ ?_
        dsimp only at hvalue ⊢
        rw [sendMail_run hrun hvalue]
        exact List.mem_singleton_self _
  | lapse key =>
    obtain ⟨-, hs'⟩ := Option.ite_none_right_eq_some.mp hstep
    obtain rfl := Option.some.inj hs'
    refine ⟨fun key' value hvalue => ?_, h.requests⟩
    dsimp only at hvalue
    by_cases hkey : key' = key
    · rw [hkey, Function.update_self] at hvalue
      cases hvalue
    · rw [Function.update_of_ne hkey] at hvalue
      exact h.store key' value hvalue
  | crash =>
    obtain rfl := Option.some.inj hstep
    exact ⟨h.store, fun r hr => by cases hr⟩

theorem mails_step {e : Event} (hstep : s.step e = some s') {mail : String × String}
    (h : mail ∈ s.mails) : mail ∈ s'.mails := by
  cases e with
  | getVerificationCode email =>
    obtain rfl := Option.some.inj hstep
    exact h
  | run i delivery code =>
    obtain ⟨r, next, -, -, rfl⟩ := run_eq_some hstep
    exact List.mem_append_left _ h
  | lapse key =>
    obtain ⟨-, hs'⟩ := Option.ite_none_right_eq_some.mp hstep
    obtain rfl := Option.some.inj hs'
    exact h
  | crash =>
    obtain rfl := Option.some.inj hstep
    exact h

/-! ## Codes that come to an end -/

/-- An EXPIRE for the key is still to come. -/
def Pending (s : VerificationServer) (key : String) : Prop :=
  ∃ r ∈ s.requests, r.email = key ∧ r.stage = .expire

/-- It is to come from another request than `i`. -/
def OtherPending (s : VerificationServer) (i : Nat) (key : String) : Prop :=
  ∃ (j : Nat) (r : Request), j ≠ i ∧ s.requests[j]? = some r ∧ r.email = key ∧ r.stage = .expire

/-- Every code has a time to live, or is about to be given one. -/
def Mortal (s : VerificationServer) : Prop :=
  ∀ key, (s.store key).isSome → s.mortal key = true ∨ s.Pending key

/-- The step does not lose the only EXPIRE that a code would have had. -/
def KeepsExpiring (s : VerificationServer) : Event → Prop
  | .run i delivery _ => ∀ r, s.requests[i]? = some r →
    match r.stage with
    | .setValue _ => delivery = .replyLost → s.OtherPending i r.email
    | .expire => delivery = .notExecuted → (s.store r.email).isSome →
        s.mortal r.email = true ∨ s.OtherPending i r.email
    | _ => True
  | .crash => ∀ r ∈ s.requests, r.stage = .expire → (s.store r.email).isSome →
      s.mortal r.email = true
  | _ => True

theorem pending_set {i : Nat} {r r' : Request} (hr : s.requests[i]? = some r) (store : Store)
    (mortal : String → Bool) (mails : List (String × String)) (key : String) :
    Pending ⟨store, mortal, s.requests.set i r', mails⟩ key ↔
      s.OtherPending i key ∨ r'.email = key ∧ r'.stage = .expire := by
  obtain ⟨hi, -⟩ := List.getElem?_eq_some_iff.mp hr
  constructor
  · rintro ⟨r'', hr'', hemail, hstage⟩
    obtain ⟨j, hj⟩ := List.mem_iff_getElem?.mp hr''
    by_cases hij : j = i
    · subst hij
      rw [List.getElem?_set_self hi] at hj
      obtain rfl := Option.some.inj hj
      exact .inr ⟨hemail, hstage⟩
    · rw [List.getElem?_set_ne (Ne.symm hij)] at hj
      exact .inl ⟨j, r'', hij, hj, hemail, hstage⟩
  · rintro (⟨j, r'', hij, hj, hemail, hstage⟩ | ⟨hemail, hstage⟩)
    · refine ⟨r'', ?_, hemail, hstage⟩
      rw [← List.getElem?_set_ne (Ne.symm hij)] at hj
      exact List.mem_of_getElem? hj
    · exact ⟨r', List.mem_set hi r', hemail, hstage⟩

/-- A request that is not waiting to send its EXPIRE is not the one that is waited for. -/
theorem otherPending_of_pending {i : Nat} {r : Request} (hr : s.requests[i]? = some r)
    {key : String} (h : s.Pending key) (hne : r.email ≠ key ∨ r.stage ≠ .expire) :
    s.OtherPending i key := by
  obtain ⟨r', hr', hemail, hstage⟩ := h
  obtain ⟨j, hj⟩ := List.mem_iff_getElem?.mp hr'
  refine ⟨j, r', ?_, hj, hemail, hstage⟩
  rintro rfl
  obtain rfl := Option.some.inj (hr.symm.trans hj)
  rcases hne with hne | hne
  · exact hne hemail
  · exact hne hstage

/-- What holds of a key that request `i` does not wait for goes on to hold. -/
theorem mortal_other {i : Nat} {r : Request} (hr : s.requests[i]? = some r) (h : Mortal s)
    {key : String} (hne : r.email ≠ key ∨ r.stage ≠ .expire) (hsome : (s.store key).isSome) :
    s.mortal key = true ∨ s.OtherPending i key :=
  (h key hsome).imp_right fun hpending => otherPending_of_pending hr hpending hne

/-- A SET: the key has no time to live, and its EXPIRE is next if the answer comes. -/
theorem mortal_setValue_iff {i : Nat} {delivery : Delivery} {code : Code} {r : Request}
    (hr : s.requests[i]? = some r) (hstage : r.stage = .setValue code) (h : Mortal s)
    (mails : List (String × String)) :
    Mortal ⟨(redisCommand delivery s.store (set r.email code.val)).2,
        r.timeToLive delivery s.mortal,
        s.requests.set i { r with stage := if delivery = .answered then .expire else .ended },
        mails⟩ ↔
      (delivery = .replyLost → s.OtherPending i r.email) := by
  have hne : r.stage ≠ .expire := by
    rw [hstage]
    exact Stage.noConfusion
  unfold Mortal Request.timeToLive
  simp only [pending_set hr, store_set, hstage]
  cases delivery with
  | notExecuted =>
    refine iff_of_true (fun key hsome => ?_) (fun hlost => by cases hlost)
    exact (mortal_other hr h (.inr hne) hsome).imp_right .inl
  | answered =>
    refine iff_of_true (fun key hsome => ?_) (fun hlost => by cases hlost)
    by_cases hkey : key = r.email
    · exact .inr (.inr ⟨hkey.symm, rfl⟩)
    · rw [if_neg (by decide), Function.update_of_ne hkey] at hsome
      rw [if_neg (by decide), Function.update_of_ne hkey]
      exact (mortal_other hr h (.inr hne) hsome).imp_right .inl
  | replyLost =>
    constructor
    · intro hmortal _
      have hemail := hmortal r.email (by rw [if_neg (by decide), Function.update_self]; rfl)
      rw [if_neg (by decide), Function.update_self] at hemail
      rcases hemail with hfalse | hother | ⟨-, hexpire⟩
      · cases hfalse
      · exact hother
      · rw [if_neg (by decide)] at hexpire
        cases hexpire
    · intro hother key hsome
      by_cases hkey : key = r.email
      · rw [hkey]
        exact .inr (.inl (hother rfl))
      · rw [if_neg (by decide), Function.update_of_ne hkey] at hsome
        rw [if_neg (by decide), Function.update_of_ne hkey]
        exact (mortal_other hr h (.inr hne) hsome).imp_right .inl

/-- An EXPIRE, executed or not. -/
theorem mortal_expire_iff {i : Nat} {delivery : Delivery} {r : Request}
    (hr : s.requests[i]? = some r) (hstage : r.stage = .expire) (h : Mortal s)
    (mails : List (String × String)) :
    Mortal ⟨s.store, r.timeToLive delivery s.mortal, s.requests.set i { r with stage := .ended },
        mails⟩ ↔
      (delivery = .notExecuted → (s.store r.email).isSome →
        s.mortal r.email = true ∨ s.OtherPending i r.email) := by
  unfold Mortal Request.timeToLive
  simp only [pending_set hr, hstage, reduceCtorEq, and_false, or_false]
  by_cases hdelivery : delivery = .notExecuted
  · rw [if_pos hdelivery]
    constructor
    · intro hmortal _
      exact hmortal r.email
    · intro hemail key hsome
      by_cases hkey : r.email = key
      · rw [← hkey] at hsome ⊢
        exact hemail hdelivery hsome
      · exact mortal_other hr h (.inl hkey) hsome
  · rw [if_neg hdelivery]
    refine iff_of_true (fun key hsome => ?_) (fun hnot => absurd hnot hdelivery)
    by_cases hkey : key = r.email
    · rw [hkey, Function.update_self]
      exact .inl rfl
    · rw [Function.update_of_ne hkey]
      exact mortal_other hr h (.inl (Ne.symm hkey)) hsome

/-- An EXISTS. -/
theorem mortal_checkKey {i : Nat} {r : Request} {stage : Stage} (hr : s.requests[i]? = some r)
    (hstage : r.stage = .checkKey) (h : Mortal s) (mails : List (String × String)) :
    Mortal ⟨s.store, s.mortal, s.requests.set i { r with stage := stage }, mails⟩ := by
  intro key hsome
  rw [pending_set hr]
  refine (mortal_other hr h (.inr ?_) hsome).imp_right .inl
  rw [hstage]
  exact Stage.noConfusion

/-- After a step every code has its end in sight exactly if the step keeps it so. -/
theorem mortal_step_iff {e : Event} (h : Mortal s) (hstep : s.step e = some s') :
    Mortal s' ↔ s.KeepsExpiring e := by
  cases e with
  | getVerificationCode email =>
    obtain rfl := Option.some.inj hstep
    refine iff_of_true (fun key hsome => ?_) trivial
    refine (h key hsome).imp_right ?_
    rintro ⟨r, hr, hrest⟩
    exact ⟨r, List.mem_append_left _ hr, hrest⟩
  | lapse key =>
    obtain ⟨-, hs'⟩ := Option.ite_none_right_eq_some.mp hstep
    obtain rfl := Option.some.inj hs'
    refine iff_of_true (fun key' hsome => ?_) trivial
    by_cases hkey : key' = key
    · rw [hkey] at hsome
      dsimp only at hsome
      rw [Function.update_self] at hsome
      cases hsome
    · dsimp only at hsome
      rw [Function.update_of_ne hkey] at hsome
      exact h key' hsome
  | crash =>
    obtain rfl := Option.some.inj hstep
    constructor
    · intro hmortal r hr hstage hsome
      refine (hmortal r.email hsome).resolve_right ?_
      rintro ⟨r', hr', -⟩
      cases hr'
    · intro hkeeps key hsome
      rcases h key hsome with hmortal | ⟨r, hr, rfl, hstage⟩
      · exact .inl hmortal
      · exact .inl (hkeeps r hr hstage hsome)
  | run i delivery code =>
    obtain ⟨r, ⟨store', r'⟩, hr, hrun, rfl⟩ := run_eq_some hstep
    have hkeeps : s.KeepsExpiring (.run i delivery code) ↔
        match r.stage with
        | .setValue _ => delivery = .replyLost → s.OtherPending i r.email
        | .expire => delivery = .notExecuted → (s.store r.email).isSome →
            s.mortal r.email = true ∨ s.OtherPending i r.email
        | _ => True := by
      constructor
      · intro hall
        exact hall r hr
      · intro hone r'' hr''
        obtain rfl := Option.some.inj (hr.symm.trans hr'')
        exact hone
    rw [hkeeps]
    unfold Request.run at hrun
    split at hrun
    · rename_i hstage
      obtain ⟨rfl, rfl⟩ := Prod.mk.inj (Option.some.inj hrun)
      simp only [hstage, iff_true]
      have htime : r.timeToLive delivery s.mortal = s.mortal := by
        unfold Request.timeToLive
        rw [hstage]
      rw [htime]
      exact mortal_checkKey hr hstage h _
    · rename_i value hstage
      obtain ⟨rfl, rfl⟩ := Prod.mk.inj (Option.some.inj hrun)
      simp only [hstage]
      exact mortal_setValue_iff hr hstage h _
    · rename_i hstage
      obtain ⟨rfl, rfl⟩ := Prod.mk.inj (Option.some.inj hrun)
      simp only [hstage]
      exact mortal_expire_iff hr hstage h _
    · cases hrun

theorem mortal_init : Mortal init := by
  intro key hsome
  cases hsome

/-- In every state of a run every code has a time to live or is about to be given one, exactly if no
    step of the run loses the only EXPIRE that a code would have had. -/
theorem always_mortal_iff (es : List Event) :
    Trace.Always step Mortal init es ↔ Trace.Meets step KeepsExpiring init es :=
  Trace.always_iff_meets Mortal (fun _ h => h)
    (fun _ _ _ h hkeeps hstep => (mortal_step_iff h hstep).mpr hkeeps)
    (fun _ _ _ h hloses hstep hmortal => hloses ((mortal_step_iff h hstep).mp hmortal))
    mortal_init es

end VerificationServer

end DistributedIM.CaptchaServer
