/-
  The connection counter of the resources server over whole sequences of logins and logouts, in the
  handlers of `SyncLogic` and in those of `RequestHandlerNode`.

  A login adds one whoever sends it, also when the session is logged in; a logout takes one away
  from whatever is stored, also from 0, where the `std::size_t` wraps. `counts_iff`: the counter is
  the number of sessions logged in exactly if no session logs in twice in a row and none logs out
  that is not logged in.

  The two implementations answer a body that cannot be parsed in different ways and do the same to
  the counter (`requestHandlerNode_login`, `requestHandlerNode_logout`). Redis executes every
  command here.
-/
import DistributedIM.Lib.Count
import DistributedIM.Lib.Trace
import DistributedIM.ResourcesServer.Login

namespace DistributedIM.ResourcesServer

namespace RequestHandlerNode

/-- The answer of `parseJson` is not looked at: the handler goes on with an empty object. -/
def handlingLogin (r : LoginServer) (keys : UuidKeys) (sid : Nat) (body : Option Json)
    (io : RedisIo) : LoginServer × UuidKeys :=
  match body with
  | some (.object src) => r.loginParsed keys sid src io
  | _ => (r.reply sid .jsonparseError).loginParsed keys sid [] io

def handlingLogout (r : LoginServer) (keys : UuidKeys) (sid : Nat) (body : Option Json)
    (io : RedisIo) : LoginServer × UuidKeys :=
  match body with
  | some (.object _) => r.handlingLogout keys sid io
  | _ => (r.reply sid .jsonparseError).handlingLogout keys sid io

end RequestHandlerNode

namespace LoginCounter

/-- Every command is executed. -/
def allExecuted : RedisIo := ⟨true, true, true, true⟩

/-- Which implementation handles the message. -/
inductive Handler
  | syncLogic
  | requestHandlerNode
  deriving DecidableEq, Repr

structure Tally where
  server : LoginServer
  keys : UuidKeys
  /-- the sessions that have logged in and not logged out since -/
  loggedIn : Nat → Bool
  /-- the login messages received -/
  logins : Nat

def start (name : String) : Tally where
  server := .start name
  keys _ := none
  loggedIn _ := false
  logins := 0

inductive Event
  | accept
  | login (handler : Handler) (sid : Nat) (body : Option Json)
  | logout (handler : Handler) (sid : Nat) (body : Option Json)

/-- The login is answered with success. -/
def goesThrough : Option Json → Bool
  | some (.object src) => (LoginServer.requestedUuid src).isSome
  | _ => false

def handlingLogin (r : LoginServer) (keys : UuidKeys) (sid : Nat) (body : Option Json) :
    Handler → LoginServer × UuidKeys
  | .syncLogic => r.handlingLogin keys sid body allExecuted
  | .requestHandlerNode => RequestHandlerNode.handlingLogin r keys sid body allExecuted

def handlingLogout (r : LoginServer) (keys : UuidKeys) (sid : Nat) (body : Option Json) :
    Handler → LoginServer × UuidKeys
  | .syncLogic => r.handlingLogout keys sid allExecuted
  | .requestHandlerNode => RequestHandlerNode.handlingLogout r keys sid body allExecuted

def step (s : Tally) : Event → Option Tally
  | .accept => some { s with server := s.server.accept }
  | .login handler sid body =>
    if sid < s.server.accepted then
      let r := handlingLogin s.server s.keys sid body handler
      some {
        server := r.1
        keys := r.2
        loggedIn := if goesThrough body then Function.update s.loggedIn sid true else s.loggedIn
        logins := s.logins + 1 }
    else none
  | .logout handler sid body =>
    if sid < s.server.accepted then
      let r := handlingLogout s.server s.keys sid body handler
      some { s with
        server := r.1
        keys := r.2
        loggedIn := Function.update s.loggedIn sid false }
    else none

/-! ## What a message does to the counter -/

variable {r : LoginServer} {n : Nat}

theorem readCounter_repr (hcounter : r.counter = some n.repr) (hn : n < 2 ^ 64) :
    r.readCounter allExecuted = some n := by
  unfold LoginServer.readCounter
  rw [hcounter]
  exact Text.readUInt64_repr hn

theorem loginParsed_counter (hcounter : r.counter = some n.repr) (hn : n < 2 ^ 64)
    (keys : UuidKeys) (sid : Nat) (src : Json.Object) :
    (r.loginParsed keys sid src allExecuted).1.counter =
      some (if (LoginServer.requestedUuid src).isSome then (n + 1) % 2 ^ 64 else n).repr := by
  unfold LoginServer.loginParsed
  cases huuid : (src.get "uuid").asText with
  | none =>
    have hrequested : LoginServer.requestedUuid src = none := by
      unfold LoginServer.requestedUuid
      rw [huuid]
    rw [hrequested]
    split <;> exact hcounter
  | some uuid =>
    cases htoken : (src.get "token").asText with
    | none =>
      have hrequested : LoginServer.requestedUuid src = none := by
        unfold LoginServer.requestedUuid
        rw [huuid, htoken]
      rw [hrequested]
      split <;> exact hcounter
    | some token =>
      simp only [Json.Object.contains_of_text huuid, Json.Object.contains_of_text htoken,
        LoginServer.requestedUuid_of_texts huuid htoken, Bool.and_self, Bool.not_true,
        Bool.false_eq_true, if_false]
      cases hnumber : Text.readUInt64 uuid with
      | none => exact hcounter
      | some number =>
        rw [LoginServer.incrementConnection, readCounter_repr hcounter hn]
        rfl

/-- The two implementations count a login alike, -/
theorem requestHandlerNode_login (r : LoginServer) (keys : UuidKeys) (sid : Nat)
    (body : Option Json) (io : RedisIo) :
    (RequestHandlerNode.handlingLogin r keys sid body io).1.counter =
        (r.handlingLogin keys sid body io).1.counter ∧
      (RequestHandlerNode.handlingLogin r keys sid body io).1.accepted =
        (r.handlingLogin keys sid body io).1.accepted := by
  cases body with
  | none => exact ⟨rfl, rfl⟩
  | some json => cases json <;> exact ⟨rfl, rfl⟩

/-- and a logout. -/
theorem requestHandlerNode_logout (r : LoginServer) (keys : UuidKeys) (sid : Nat)
    (body : Option Json) (io : RedisIo) :
    (RequestHandlerNode.handlingLogout r keys sid body io).1.counter =
        (r.handlingLogout keys sid io).1.counter ∧
      (RequestHandlerNode.handlingLogout r keys sid body io).1.accepted =
        (r.handlingLogout keys sid io).1.accepted := by
  unfold RequestHandlerNode.handlingLogout
  split
  · exact ⟨rfl, rfl⟩
  · unfold LoginServer.handlingLogout LoginServer.decrementConnection
    have hread : (r.reply sid .jsonparseError).readCounter io = r.readCounter io := rfl
    rw [hread]
    cases r.readCounter io with
    | none => exact ⟨rfl, rfl⟩
    | some n =>
      simp only [Option.map_some, LoginServer.writeCounter]
      split <;> exact ⟨rfl, rfl⟩

theorem handlingLogin_counter (hcounter : r.counter = some n.repr) (hn : n < 2 ^ 64)
    (keys : UuidKeys) (sid : Nat) (body : Option Json) (handler : Handler) :
    (handlingLogin r keys sid body handler).1.counter =
        some (if goesThrough body then (n + 1) % 2 ^ 64 else n).repr ∧
      (handlingLogin r keys sid body handler).1.accepted = r.accepted := by
  have hsync : (r.handlingLogin keys sid body allExecuted).1.counter =
      some (if goesThrough body then (n + 1) % 2 ^ 64 else n).repr := by
    cases body with
    | none => exact hcounter
    | some json =>
      cases json with
      | object src => exact loginParsed_counter hcounter hn keys sid src
      | _ => exact hcounter
  have haccepted := (LoginServer.sameSessions_handlingLogin r keys sid body allExecuted).accepted
  cases handler with
  | syncLogic => exact ⟨hsync, haccepted⟩
  | requestHandlerNode =>
    obtain ⟨hsame, hsame'⟩ := requestHandlerNode_login r keys sid body allExecuted
    exact ⟨hsame.trans hsync, hsame'.trans haccepted⟩

theorem handlingLogout_counter (hcounter : r.counter = some n.repr) (hn : n < 2 ^ 64)
    (keys : UuidKeys) (sid : Nat) (body : Option Json) (handler : Handler) :
    (handlingLogout r keys sid body handler).1.counter =
        some ((n + 2 ^ 64 - 1) % 2 ^ 64).repr ∧
      (handlingLogout r keys sid body handler).1.accepted = r.accepted := by
  have hsync : (r.handlingLogout keys sid allExecuted).1.counter =
      some ((n + 2 ^ 64 - 1) % 2 ^ 64).repr := by
    rw [LoginServer.handlingLogout, LoginServer.decrementConnection,
      readCounter_repr hcounter hn]
    rfl
  have haccepted := (LoginServer.sameSessions_handlingLogout r keys sid allExecuted).accepted
  cases handler with
  | syncLogic => exact ⟨hsync, haccepted⟩
  | requestHandlerNode =>
    obtain ⟨hsame, hsame'⟩ := requestHandlerNode_logout r keys sid body allExecuted
    exact ⟨hsame.trans hsync, hsame'.trans haccepted⟩

/-! ## What the counter is to say -/

/-- How many sessions are logged in. -/
def active (s : Tally) : Nat :=
  Nat.count (fun sid => s.loggedIn sid = true) s.server.accepted

/-- The counter is the number of sessions logged in, and no more than the logins received. -/
structure Counts (s : Tally) : Prop where
  stored : s.server.counter = some (active s).repr
  bounded : ∀ n, s.server.counter = some (Nat.repr n) → n ≤ s.logins

/-- Who logs in is not logged in, and who logs out is. -/
def Orderly (s : Tally) : Event → Prop
  | .accept => True
  | .login _ sid body =>
    goesThrough body = true → s.loggedIn sid = false ∧ active s + 1 < 2 ^ 64
  | .logout _ sid _ => s.loggedIn sid = true

/-! ## Along a run -/

structure Inv (s : Tally) : Prop where
  stored : s.server.counter = some (active s).repr
  fits : active s < 2 ^ 64
  le : active s ≤ s.logins
  inside : ∀ sid, s.loggedIn sid = true → sid < s.server.accepted

theorem counts_of_inv {s : Tally} (h : Inv s) : Counts s where
  stored := h.stored
  bounded n hn := by
    obtain rfl : n = active s := Text.repr_injective (Option.some.inj (hn.symm.trans h.stored))
    exact h.le

theorem active_start (name : String) : active (start name) = 0 :=
  Nat.count_zero _

theorem inv_start (name : String) : Inv (start name) where
  stored := by
    rw [active_start]
    rfl
  fits := by
    rw [active_start]
    decide
  le := by
    rw [active_start]
    exact Nat.zero_le _
  inside _ h := absurd h Bool.false_ne_true

/-- A new session is not logged in. -/
theorem inv_accept {s : Tally} (h : Inv s) : Inv { s with server := s.server.accept } := by
  have hsame : active { s with server := s.server.accept } = active s := by
    show Nat.count _ (s.server.accepted + 1) = _
    rw [Nat.count_succ, if_neg, Nat.add_zero]
    · rfl
    · intro hnew
      exact Nat.lt_irrefl _ (h.inside _ hnew)
  refine ⟨?_, ?_, ?_, fun sid hsid => Nat.lt_succ_of_lt (h.inside sid hsid)⟩
  · rw [hsame]
    exact h.stored
  · rw [hsame]
    exact h.fits
  · rw [hsame]
    exact h.le

/-- What a message of a session does: its flag is set to `value`, and the counter says `n`. -/
structure Handled (s s' : Tally) (sid : Nat) (value : Bool) (n : Nat) : Prop where
  inside : sid < s.server.accepted
  loggedIn : s'.loggedIn = Function.update s.loggedIn sid value
  accepted : s'.server.accepted = s.server.accepted
  counter : s'.server.counter = some n.repr

theorem handled_login {s s' : Tally} {handler : Handler} {sid : Nat} {body : Option Json}
    (h : Inv s) (hstep : step s (.login handler sid body) = some s') :
    Handled s s' sid (goesThrough body || s.loggedIn sid)
        (if goesThrough body then (active s + 1) % 2 ^ 64 else active s) ∧
      s'.logins = s.logins + 1 := by
  simp only [step] at hstep
  split at hstep
  · rename_i hsid
    obtain rfl := Option.some.inj hstep
    obtain ⟨hcounter, haccepted⟩ := handlingLogin_counter h.stored h.fits s.keys sid body handler
    refine ⟨⟨hsid, ?_, haccepted, hcounter⟩, rfl⟩
    cases hbody : goesThrough body with
    | true => rfl
    | false => exact (Function.update_eq_self sid s.loggedIn).symm
  · cases hstep

theorem handled_logout {s s' : Tally} {handler : Handler} {sid : Nat} {body : Option Json}
    (h : Inv s) (hstep : step s (.logout handler sid body) = some s') :
    Handled s s' sid false ((active s + 2 ^ 64 - 1) % 2 ^ 64) ∧ s'.logins = s.logins := by
  simp only [step] at hstep
  split at hstep
  · rename_i hsid
    obtain rfl := Option.some.inj hstep
    obtain ⟨hcounter, haccepted⟩ :=
      handlingLogout_counter h.stored h.fits s.keys sid body handler
    exact ⟨⟨hsid, rfl, haccepted, hcounter⟩, rfl⟩
  · cases hstep

section Handled

variable {s s' : Tally} {sid n : Nat} {value : Bool}

/-- The flag of one session has changed. -/
theorem Handled.active (h : Handled s s' sid value n) :
    active s' + (s.loggedIn sid).toNat = active s + value.toNat := by
  have hcount := Count.count_update s.loggedIn h.inside value
  unfold LoginCounter.active
  rw [h.accepted, h.loggedIn]
  exact hcount

/-- The counter is what the sessions logged in have become. -/
theorem Handled.inv (hhandled : Handled s s' sid value n) (h : Inv s) (hfits : n < 2 ^ 64)
    (hn : n + (s.loggedIn sid).toNat = LoginCounter.active s + value.toNat)
    (hle : n ≤ s'.logins) : Inv s' := by
  have hactive : LoginCounter.active s' = n :=
    Nat.add_right_cancel (hhandled.active.trans hn.symm)
  refine ⟨?_, ?_, ?_, ?_⟩
  · rw [hactive]
    exact hhandled.counter
  · rw [hactive]
    exact hfits
  · rw [hactive]
    exact hle
  · intro i hi
    rw [hhandled.accepted]
    rw [hhandled.loggedIn] at hi
    by_cases heq : i = sid
    · rw [heq]
      exact hhandled.inside
    · rw [Function.update_of_ne heq] at hi
      exact h.inside i hi

/-- The counter is not what the sessions logged in have become. -/
theorem Handled.not_counts (hhandled : Handled s s' sid value n)
    (hn : n + (s.loggedIn sid).toNat ≠ LoginCounter.active s + value.toNat) : ¬ Counts s' := by
  intro hcounts
  have heq : n = LoginCounter.active s' :=
    Text.repr_injective (Option.some.inj (hhandled.counter.symm.trans hcounts.stored))
  rw [heq] at hn
  exact hn hhandled.active

end Handled

theorem inv_step {s s' : Tally} {e : Event} (h : Inv s) (horderly : Orderly s e)
    (hstep : step s e = some s') : Inv s' := by
  have hfits := h.fits
  have hle := h.le
  cases e with
  | accept =>
    obtain rfl := Option.some.inj hstep
    exact inv_accept h
  | login handler sid body =>
    obtain ⟨hhandled, hlogins⟩ := handled_login h hstep
    cases hbody : goesThrough body with
    | true =>
      obtain ⟨hnew, hroom⟩ := horderly hbody
      rw [hbody, if_pos rfl, Nat.mod_eq_of_lt hroom, Bool.true_or] at hhandled
      refine hhandled.inv h hroom ?_ ?_
      · rw [hnew]
        rfl
      · rw [hlogins]
        exact Nat.succ_le_succ hle
    | false =>
      rw [hbody, if_neg Bool.false_ne_true, Bool.false_or] at hhandled
      refine hhandled.inv h hfits rfl ?_
      rw [hlogins]
      exact Nat.le_succ_of_le hle
  | logout handler sid body =>
    obtain ⟨hhandled, hlogins⟩ := handled_logout h hstep
    have hlogged : s.loggedIn sid = true := horderly
    have hactive := hhandled.active
    rw [hlogged, Bool.toNat_true, Bool.toNat_false] at hactive
    have hless : (active s + 2 ^ 64 - 1) % 2 ^ 64 = active s - 1 := by omega
    rw [hless] at hhandled
    refine hhandled.inv h (by omega) ?_ ?_
    · rw [hlogged, Bool.toNat_true, Bool.toNat_false]
      omega
    · rw [hlogins]
      omega

theorem not_counts_of_disorderly {s s' : Tally} {e : Event} (h : Inv s)
    (hdisorderly : ¬ Orderly s e) (hstep : step s e = some s') : ¬ Counts s' := by
  have hfits := h.fits
  cases e with
  | accept => exact absurd trivial hdisorderly
  | login handler sid body =>
    obtain ⟨hbody, hbad⟩ := Classical.not_imp.mp hdisorderly
    obtain ⟨hhandled, -⟩ := handled_login h hstep
    rw [hbody, if_pos rfl, Bool.true_or] at hhandled
    refine hhandled.not_counts ?_
    cases hlogged : s.loggedIn sid with
    | true =>
      rw [Bool.toNat_true]
      omega
    | false =>
      have hfull : ¬ active s + 1 < 2 ^ 64 := fun hroom => hbad ⟨hlogged, hroom⟩
      rw [Bool.toNat_true, Bool.toNat_false]
      omega
  | logout handler sid body =>
    obtain ⟨hhandled, -⟩ := handled_logout h hstep
    have hlogged : s.loggedIn sid = false := Bool.eq_false_iff.mpr hdisorderly
    refine hhandled.not_counts ?_
    rw [hlogged, Bool.toNat_false]
    omega

/-- The counter is the number of sessions logged in exactly if no session logs in that is logged in
    and none logs out that is not, in either implementation. -/
theorem counts_iff (name : String) (es : List Event) :
    Trace.Always step Counts (start name) es ↔ Trace.Meets step Orderly (start name) es := by
  apply Trace.always_iff_meets Inv
  · intro s h
    exact counts_of_inv h
  · intro s e s' h horderly hstep
    exact inv_step h horderly hstep
  · intro s e s' h hdisorderly hstep
    exact not_counts_of_disorderly h hdisorderly hstep
  · exact inv_start name

/-- A logout without a login leaves the largest `std::size_t`. -/
theorem not_counts_logoutFirst :
    ¬ ∀ name es, Trace.Always step Counts (start name) es := by
  intro h
  have hcounts := Trace.exec_of_always (h "res" [.accept, .logout .syncLogic 0 none]) rfl
  have hlargest := hcounts.bounded (2 ^ 64 - 1) (by decide)
  exact absurd hlargest (by decide)

end LoginCounter

end DistributedIM.ResourcesServer
