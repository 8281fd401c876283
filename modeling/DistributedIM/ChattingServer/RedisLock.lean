/-
  The distributed lock of `RedisContext`: `acquire` with its retries, `acquireLock`, `release` and
  `releaseLock` with the Lua script, for any number of clients and any lock names.

  A client is one call of `acquire`. Each command is one atomic step of Redis; its reply may be
  lost on the way, and the command may never reach Redis. A key may expire at any moment. What a
  client holds is kept as the status of its call, set by the events that the client's lock has seen
  since `acquire` returned.

  `Inv`: a lock that is held is in Redis with the holder's identifier. `lockSafety`: `release`
  deletes at most the key of its lock name, and only with its own identifier in it; no lock name
  has two holders.

  Names reach Redis as C strings. Times are left out: a call may give up at any moment.
-/
import DistributedIM.Lib.Exclusive
import DistributedIM.Lib.Lease
import DistributedIM.Lib.Trace
import DistributedIM.ChattingServer.FriendRequests

namespace DistributedIM.ChattingServer

namespace RedisLock

/-! ## Replies -/

/-- `redisReply`; null: no reply. -/
inductive RedisReply
  | null
  | integer (n : Int)
  | status (str : String)
  | array (elements : Nat)
  | string (str : String)
  | nil
  | error
  deriving DecidableEq, Repr

def RedisReply.isSuccessful : RedisReply → Bool
  | .null => false
  | .integer n => 0 ≤ n
  | .status str => str == "OK" || str == "ok"
  | .array elements => 0 < elements
  | .string str => str != ""
  | .nil => false
  | .error => false

/-- What becomes of a command. -/
inductive Delivery
  | answered
  /-- Redis executes the command, and the reply does not come back -/
  | replyLost
  | notExecuted
  deriving DecidableEq, Repr

abbrev Store := String → Option String

/-- The command on its way to Redis and back. -/
def redisCommand (delivery : Delivery) (store : Store) (command : Store → RedisReply × Store) :
    RedisReply × Store :=
  match delivery with
  | .answered => command store
  | .replyLost => (.null, (command store).2)
  | .notExecuted => (.null, store)

/-- `SET key value NX PX ttl`, or with `EX` -/
def setNx (key value : String) (ttl : Int) (store : Store) : RedisReply × Store :=
  if ttl ≤ 0 then (.error, store)
  else
    match store key with
    | none => (.status "OK", Function.update store key (Lease.take (store key) value))
    | some _ => (.nil, store)

/-- `EVAL release_lock_lua_script 1 key value` -/
def evalReleaseLock (key value : String) (store : Store) : RedisReply × Store :=
  if store key = some value then
    (.integer 1, Function.update store key (Lease.give (store key) value))
  else (.integer 0, store)

/-! ## `RedisContext` -/

/-- What `c_str()` leaves of a string. -/
def cString (s : String) : String :=
  String.ofList (s.toList.takeWhile (· ≠ '\x00'))

def acquireLock (delivery : Delivery) (store : Store) (lockName identifer : String)
    (expx : Nat) : Bool × Store :=
  if lockName = "" ∨ identifer = "" then (false, store)
  else
    let r := redisCommand delivery store (setNx (cString lockName) (cString identifer)
      (toInt32 expx))
    (r.1.isSuccessful, r.2)

def releaseLock (delivery : Delivery) (store : Store) (lockName identifer : String) :
    Bool × Store :=
  let r := redisCommand delivery store (evalReleaseLock (cString lockName) (cString identifer))
  (r.1.isSuccessful, r.2)

def fullLockName (lockName : String) : String :=
  "lock:" ++ lockName

def release (delivery : Delivery) (store : Store) (lockName identifer : String) : Bool × Store :=
  if lockName = "" ∨ identifer = "" then (false, store)
  else releaseLock delivery store (fullLockName lockName) identifer

/-- The key of a lock in Redis. -/
def lockKey (lockName : String) : String :=
  cString (fullLockName lockName)

/-! ## Clients -/

/-- `tools::userTokenGenerator`: distinct texts without null characters. -/
structure TokenGenerator where
  generate : Nat → String
  distinct : Function.Injective generate
  text : ∀ n, cString (generate n) = generate n

inductive Status
  /-- in the loop of `acquire` -/
  | trying
  /-- `acquire` returned `std::nullopt` -/
  | gaveUp
  /-- `acquire` returned the identifier, and the lock has neither expired nor been released -/
  | holds
  | expired
  | released
  deriving DecidableEq, Repr

/-- A call of `acquire`. -/
structure Client where
  lockName : String
  expx : Nat
  status : Status
  deriving DecidableEq, Repr

structure System where
  store : Store
  /-- calls made so far; call `n` has the identifier `generate n` -/
  calls : Nat
  client : Nat → Client

def init : System where
  store _ := none
  calls := 0
  client _ := ⟨"", 0, .gaveUp⟩

inductive Event
  /-- a thread calls `acquire` -/
  | acquire (lockName : String) (expx : Nat)
  /-- one round of the loop of a call -/
  | tryLock (n : Nat) (delivery : Delivery)
  /-- the waiting time of a call is over -/
  | giveUp (n : Nat)
  /-- the key expires -/
  | expire (key : String)
  /-- a client calls `release` with its identifier, for any lock name -/
  | release (n : Nat) (lockName : String) (delivery : Delivery)
  deriving DecidableEq, Repr

namespace System

def setStatus (s : System) (n : Nat) (status : Status) : System :=
  { s with client := Function.update s.client n { s.client n with status := status } }

/-- Who holds the lock of the key by the identifier `value` does so no more. -/
def endHold (s : System) (tokens : TokenGenerator) (key : String) (value : Option String)
    (ended : Status) : System :=
  { s with client := fun n =>
      if (s.client n).status = .holds ∧ lockKey (s.client n).lockName = key ∧
          value = some (tokens.generate n) then
        { s.client n with status := ended }
      else s.client n }

end System

def step (tokens : TokenGenerator) (s : System) : Event → Option System
  | .acquire lockName expx =>
    -- `acquire` returns at once for the empty name
    if lockName = "" then some s
    else some { s with
      calls := s.calls + 1
      client := Function.update s.client s.calls ⟨lockName, expx, .trying⟩ }
  | .tryLock n delivery =>
    if n < s.calls ∧ (s.client n).status = .trying then
      let r := acquireLock delivery s.store (fullLockName (s.client n).lockName)
        (tokens.generate n) (s.client n).expx
      let s := { s with store := r.2 }
      some (if r.1 then s.setStatus n .holds else s)
    else none
  | .giveUp n =>
    if n < s.calls ∧ (s.client n).status = .trying then some (s.setStatus n .gaveUp) else none
  | .expire key =>
    some { s.endHold tokens key (s.store key) .expired with
      store := Function.update s.store key none }
  | .release n lockName delivery =>
    if n < s.calls then
      let r := RedisLock.release delivery s.store lockName (tokens.generate n)
      let s := { s with store := r.2 }
      some (if delivery = .notExecuted ∨ lockName = "" then s
        else s.endHold tokens (lockKey lockName) (some (tokens.generate n)) .released)
    else none

/-- The client holds the unexpired lock of the name. -/
def Holds (s : System) (n : Nat) (lockName : String) : Prop :=
  n < s.calls ∧ (s.client n).lockName = lockName ∧ (s.client n).status = .holds

instance (s : System) (n : Nat) (lockName : String) : Decidable (Holds s n lockName) :=
  inferInstanceAs (Decidable (_ ∧ _))

/-! ## One command -/

theorem setNx_cases (key value : String) (ttl : Int) (store : Store) :
    (setNx key value ttl store).1.isSuccessful = false ∧ (setNx key value ttl store).2 = store ∨
      store key = none ∧
        (setNx key value ttl store).2 = Function.update store key (some value) := by
  unfold setNx
  split
  · exact Or.inl ⟨rfl, rfl⟩
  · split
    · rename_i hnone
      exact Or.inr ⟨hnone, by rw [hnone, Lease.take_none]⟩
    · exact Or.inl ⟨rfl, rfl⟩

/-- A `SET` leaves Redis as it is, or puts the value under a key that was not there; only then
    can its reply be a success. -/
theorem redisCommand_setNx_cases (delivery : Delivery) (store : Store) (key value : String)
    (ttl : Int) :
    (redisCommand delivery store (setNx key value ttl)).1.isSuccessful = false ∧
        (redisCommand delivery store (setNx key value ttl)).2 = store ∨
      store key = none ∧ (redisCommand delivery store (setNx key value ttl)).2 =
        Function.update store key (some value) := by
  have hset := setNx_cases key value ttl store
  cases delivery with
  | notExecuted => exact Or.inl ⟨rfl, rfl⟩
  | answered => exact hset
  | replyLost => exact hset.imp_left fun h => ⟨rfl, h.2⟩

theorem acquireLock_cases (delivery : Delivery) (store : Store) (lockName identifer : String)
    (expx : Nat) :
    acquireLock delivery store lockName identifer expx = (false, store) ∨
      store (cString lockName) = none ∧
        (acquireLock delivery store lockName identifer expx).2 =
          Function.update store (cString lockName) (some (cString identifer)) := by
  have hset := redisCommand_setNx_cases delivery store (cString lockName) (cString identifer)
    (toInt32 expx)
  unfold acquireLock
  split
  · exact Or.inl rfl
  · dsimp only
    rcases hset with ⟨hfailed, hsame⟩ | hset
    · left
      rw [hfailed, hsame]
    · exact Or.inr hset

/-- The script leaves Redis as it is, or deletes the key of the lock, which has the identifier. -/
theorem release_cases (delivery : Delivery) (store : Store) (lockName identifer : String) :
    (release delivery store lockName identifer).2 = store ∨
      store (lockKey lockName) = some (cString identifer) ∧
        delivery ≠ .notExecuted ∧ lockName ≠ "" ∧
          (release delivery store lockName identifer).2 =
            Function.update store (lockKey lockName) none := by
  unfold release
  split
  · exact Or.inl rfl
  · rename_i hnames
    rw [not_or] at hnames
    cases hdelivery : delivery with
    | notExecuted => exact Or.inl rfl
    | _ =>
      by_cases hheld : store (cString (fullLockName lockName)) = some (cString identifer)
      · right
        refine ⟨hheld, by simp, hnames.1, ?_⟩
        simp [releaseLock, redisCommand, evalReleaseLock, hheld, lockKey]
      · left
        simp [releaseLock, redisCommand, evalReleaseLock, hheld]

/-! ## The invariant -/

/-- A lock that is held is in Redis with the holder's identifier. -/
def Inv (tokens : TokenGenerator) (s : System) : Prop :=
  ∀ n lockName, Holds s n lockName → s.store (lockKey lockName) = some (tokens.generate n)

variable {tokens : TokenGenerator}

/-- Fewer holders over the same store keep the invariant. -/
theorem inv_of_holds {s s' : System} (h : Inv tokens s) (hstore : s'.store = s.store)
    (hholds : ∀ n lockName, Holds s' n lockName → Holds s n lockName) : Inv tokens s' := by
  intro n lockName hn
  rw [hstore]
  exact h n lockName (hholds n lockName hn)

theorem holds_of_setStatus {s : System} {n m : Nat} {status : Status} {lockName : String}
    (h : Holds (s.setStatus n status) m lockName) (hm : m = n → status ≠ .holds) :
    Holds s m lockName := by
  by_cases heq : m = n
  · subst heq
    have hstatus := h.2.2
    simp only [System.setStatus, Function.update_self] at hstatus
    exact absurd hstatus (hm rfl)
  · have hclient : (s.setStatus n status).client m = s.client m := Function.update_of_ne heq ..
    unfold Holds at h
    rwa [hclient] at h

/-- Who still holds a lock after `endHold` held it before, and not with that identifier. -/
theorem holds_of_endHold {s : System} {key : String} {value : Option String} {ended : Status}
    (hended : ended ≠ .holds) {n : Nat} {lockName : String}
    (h : Holds (s.endHold tokens key value ended) n lockName) :
    Holds s n lockName ∧ ¬ (lockKey lockName = key ∧ value = some (tokens.generate n)) := by
  obtain ⟨hcalls, hname, hstatus⟩ := h
  simp only [System.endHold] at hcalls hname hstatus
  split at hstatus
  · exact absurd hstatus hended
  · rename_i hkept
    rw [if_neg hkept] at hname
    refine ⟨⟨hcalls, hname, hstatus⟩, fun hlost => hkept ⟨hstatus, ?_⟩⟩
    rw [hname]
    exact hlost

theorem inv_tryLock {s s' : System} {n : Nat} {delivery : Delivery} (h : Inv tokens s)
    (hstep : step tokens s (.tryLock n delivery) = some s') : Inv tokens s' := by
  have hreply := acquireLock_cases delivery s.store (fullLockName (s.client n).lockName)
    (tokens.generate n) (s.client n).expx
  simp only [step] at hstep
  generalize acquireLock delivery s.store _ _ _ = reply at hreply hstep
  split at hstep
  · obtain rfl := Option.some.inj hstep
    rcases hreply with rfl | ⟨hnone, hset⟩
    · exact h
    · rw [← lockKey] at hnone hset
      -- nobody held the lock of this key
      have hfree : ∀ m lockName, Holds s m lockName →
          lockKey lockName ≠ lockKey (s.client n).lockName := by
        intro m lockName hm hkey
        have hheld := h m lockName hm
        rw [hkey] at hheld
        cases hnone.symm.trans hheld
      have hothers : ∀ m lockName, Holds s m lockName →
          reply.2 (lockKey lockName) = some (tokens.generate m) := by
        intro m lockName hm
        rw [hset, Function.update_of_ne (hfree m lockName hm)]
        exact h m lockName hm
      split
      · intro m lockName hm
        by_cases heq : m = n
        · subst heq
          have hname := hm.2.1
          simp only [System.setStatus, Function.update_self] at hname
          simp only [System.setStatus]
          rw [hset, ← hname, Function.update_self, tokens.text]
        · have hheld : Holds { s with store := reply.2 } m lockName :=
            holds_of_setStatus hm fun h => absurd h heq
          exact hothers m lockName hheld
      · exact hothers
  · cases hstep

theorem inv_acquire {s s' : System} {lockName : String} {expx : Nat} (h : Inv tokens s)
    (hstep : step tokens s (.acquire lockName expx) = some s') : Inv tokens s' := by
  simp only [step] at hstep
  split at hstep
  · obtain rfl := Option.some.inj hstep
    exact h
  · obtain rfl := Option.some.inj hstep
    refine inv_of_holds h ?_ ?_
    · rfl
    intro n l hn
    obtain ⟨hcalls, hname, hstatus⟩ := hn
    by_cases heq : n = s.calls
    · subst heq
      simp only [Function.update_self] at hstatus
      cases hstatus
    · simp only [Function.update_of_ne heq] at hname hstatus
      have hlt : n < s.calls + 1 := hcalls
      exact ⟨by omega, hname, hstatus⟩

/-- The lock of the key is held no more, and its key is gone. -/
theorem inv_expire {s s' : System} {key : String} (h : Inv tokens s)
    (hstep : step tokens s (.expire key) = some s') : Inv tokens s' := by
  obtain rfl := Option.some.inj hstep
  intro n l hn
  have hended : Holds (s.endHold tokens key (s.store key) .expired) n l := hn
  obtain ⟨hheld, hkept⟩ := holds_of_endHold (by decide) hended
  have hvalue := h n l hheld
  have hne : lockKey l ≠ key := by
    intro hkey
    exact hkept ⟨hkey, hkey ▸ hvalue⟩
  dsimp only
  rw [Function.update_of_ne hne]
  exact hvalue

theorem inv_release {s s' : System} {n : Nat} {lockName : String} {delivery : Delivery}
    (h : Inv tokens s) (hstep : step tokens s (.release n lockName delivery) = some s') :
    Inv tokens s' := by
  have hreply := release_cases delivery s.store lockName (tokens.generate n)
  simp only [step] at hstep
  generalize RedisLock.release delivery s.store _ _ = reply at hreply hstep
  split at hstep
  · obtain rfl := Option.some.inj hstep
    rcases hreply with hsame | ⟨hheld, hexecuted, hname, hdeleted⟩
    · rw [hsame]
      split
      · exact h
      · refine inv_of_holds h ?_ ?_
        · rfl
        intro m l hm
        exact (holds_of_endHold (by decide) hm).1
    · rw [if_neg (by simp [hexecuted, hname])]
      intro m l hm
      obtain ⟨hm, hkept⟩ := holds_of_endHold (by decide) hm
      have hvalue := h m l hm
      have hne : lockKey l ≠ lockKey lockName := by
        intro hkey
        apply hkept
        refine ⟨hkey, ?_⟩
        rw [tokens.text, ← hkey] at hheld
        exact hheld.symm.trans hvalue
      simp only [System.endHold]
      rw [hdeleted, Function.update_of_ne hne]
      exact hvalue
  · cases hstep

theorem inv_step {s s' : System} {e : Event} (h : Inv tokens s)
    (hstep : step tokens s e = some s') : Inv tokens s' := by
  cases e with
  | acquire lockName expx => exact inv_acquire h hstep
  | tryLock n delivery => exact inv_tryLock h hstep
  | giveUp n =>
    simp only [step] at hstep
    split at hstep
    · obtain rfl := Option.some.inj hstep
      refine inv_of_holds h ?_ ?_
      · rfl
      intro m l hm
      exact holds_of_setStatus hm fun _ => by decide
    · cases hstep
  | expire key => exact inv_expire h hstep
  | release n lockName delivery => exact inv_release h hstep

theorem inv_of_reaches {s : System} (h : Trace.Reaches (step tokens) init s) : Inv tokens s := by
  refine Trace.invariant (Inv tokens) (fun s e s' => inv_step) ?_ h
  intro n lockName hn
  exact absurd hn.1 (Nat.not_lt_zero n)

/-- In every run: `release` deletes at most the key of its lock, and only with the identifier of
    the client in it; no lock name has two holders. -/
theorem lockSafety (tokens : TokenGenerator) {s : System}
    (h : Trace.Reaches (step tokens) init s) :
    (∀ n lockName delivery s', step tokens s (.release n lockName delivery) = some s' →
      ∀ key, s'.store key ≠ s.store key →
        key = lockKey lockName ∧ s.store key = some (tokens.generate n) ∧ s'.store key = none) ∧
      Exclusive (Holds s) := by
  constructor
  · intro n lockName delivery s' hstep key hchanged
    simp only [step] at hstep
    split at hstep
    · obtain rfl := Option.some.inj hstep
      have hstore : ∀ {t : System} {c : Prop} [Decidable c] {v : Option String} {k : String},
          (if c then t else t.endHold tokens k v .released).store = t.store := by
        intros
        split <;> rfl
      rw [hstore] at hchanged ⊢
      rcases release_cases delivery s.store lockName (tokens.generate n) with
        hsame | ⟨hheld, -, -, hdeleted⟩
      · rw [hsame] at hchanged
        exact absurd rfl hchanged
      · rw [hdeleted] at hchanged ⊢
        dsimp only at hchanged ⊢
        by_cases hkey : key = lockKey lockName
        · subst hkey
          rw [Function.update_self]
          exact ⟨rfl, tokens.text n ▸ hheld, rfl⟩
        · rw [Function.update_of_ne hkey] at hchanged
          exact absurd rfl hchanged
    · cases hstep
  · intro lockName n m hn hm
    have hinv := inv_of_reaches h
    have heq := (hinv n lockName hn).symm.trans (hinv m lockName hm)
    exact tokens.distinct (Option.some.inj heq)

/-- Distinct texts. -/
def someTokens : TokenGenerator where
  generate n := String.ofList (List.replicate (n + 1) 'a')
  distinct := by
    intro n m h
    have hlength := congrArg List.length (String.ofList_inj.mp h)
    simpa using hlength
  text n := by
    have hall : (List.replicate (n + 1) 'a').takeWhile (· ≠ '\x00') =
        List.replicate (n + 1) 'a' := by
      rw [List.takeWhile_eq_self_iff]
      intro c hc
      rw [List.eq_of_mem_replicate hc]
      decide
    unfold cString
    rw [String.toList_ofList, hall]

/-- Client 0 releases the lock after it has expired and client 1 has it. -/
def lateRelease : List Event :=
  [.acquire "7" 10, .tryLock 0 .answered, .expire "lock:7", .acquire "7" 10, .tryLock 1 .answered,
    .release 0 "7" .answered]

theorem lockSafety_lateRelease :
    ∃ s, Trace.exec (step someTokens) init lateRelease = some s ∧ Holds s 1 "7" ∧
      (∀ n lockName delivery s', step someTokens s (.release n lockName delivery) = some s' →
        ∀ key, s'.store key ≠ s.store key →
          key = lockKey lockName ∧ s.store key = some (someTokens.generate n) ∧
            s'.store key = none) ∧
      Exclusive (Holds s) := by
  refine ⟨_, rfl, ?_, lockSafety someTokens ⟨lateRelease, rfl⟩⟩
  decide

end RedisLock

end DistributedIM.ChattingServer
