/-
  The health check of the connection pools: `RedisConnectionPool::roundRobinChecking` and
  `MySQLConnectionPool::roundRobinCheckLowGranularity`, on a pool that nobody else is using. Each
  round of the loop takes a stub with a `ConnectionRAII`, whose destructor brings it back unless it
  was invalidated; then as many connections are made as have failed.

  `Covers` is what the check is for. The loop runs while `!expectedStubs && currentStubs <
  expectedStubs`, which never holds, so `covers_iff`: the check covers the pool exactly if there is
  nothing in it. The rounds are not to blame: as many of them as there are stubs cover any pool
  (`covers_everyRound`).

  Times are nanoseconds of `steady_clock`. What a heartbeat does on the connection, and whether a
  connection can be made, are parameters.
-/
import DistributedIM.ChattingServer.ConnectionPool

namespace DistributedIM.ChattingServer

/-! ## The check -/

/-- What the pool and its stubs are, and what a check has done so far. -/
structure Check where
  pool : ConnectionPool
  /-- `last_operation_time` of each stub -/
  lastOperationTime : Nat → Int
  examined : List (Option Nat)
  failCount : Nat

/-- `duration_cast<seconds>` -/
def secondsBetween (last now : Int) : Int :=
  (now - last).tdiv 1000000000

namespace Check

/-- How a pool asks a stub: with its `last_operation_time`; none: it throws. -/
abbrev HeartBeat := Int → Nat → Option Bool

variable (now : Int) (heartBeat : HeartBeat)

/-- The stub has been used in the last five seconds, or answers. -/
def passes (lastOperationTime : Nat → Int) (stub : Nat) : Bool :=
  secondsBetween (lastOperationTime stub) now < 5 ||
    heartBeat (lastOperationTime stub) stub == some true

/-- One round: `instance` is the guard, which ends with the round. -/
def examine (s : Check) (stub : Nat) : Option Check :=
  let inst := s.pool.guards.length
  (s.pool.step .construct).bind fun acquired =>
    let s := { s with examined := s.examined ++ [some stub] }
    if secondsBetween (s.lastOperationTime stub) now < 5 then
      (acquired.step (.destroy inst)).map fun pool => { s with pool := pool }
    else if heartBeat (s.lastOperationTime stub) stub = some true then
      (acquired.step (.destroy inst)).map fun pool =>
        { s with
          pool := pool
          lastOperationTime := Function.update s.lastOperationTime stub now }
    else
      ((acquired.step (.invalidate inst)).bind fun pool => pool.step (.destroy inst)).map
        fun pool => { s with pool := pool, failCount := s.failCount + 1 }

/-- The `for` loop; `enter` is what its condition says about `expectedStubs` alone. -/
def rounds (enter : Nat → Bool) (expectedStubs currentStubs : Nat) (s : Check) : Check :=
  if _h : enter expectedStubs = true ∧ currentStubs < expectedStubs then
    match s.pool.stubQueue with
    | some stub :: _ =>
      match s.examine now heartBeat stub with
      | some s' => rounds enter expectedStubs (currentStubs + 1) s'
      | none => s
    | _ => s
  else s
termination_by expectedStubs - currentStubs

/-- The `while` loop: `connects` says whether the next `connector` succeeds. -/
def reconnect (connects : Nat → Bool) : Nat → Check → Check
  | 0, s => s
  | failCount + 1, s =>
    if connects failCount then
      reconnect connects failCount
        { s with
          pool := s.pool.connector
          lastOperationTime := Function.update s.lastOperationTime s.pool.created now
          failCount := failCount }
    else s

/-- `roundRobinChecking` with a loop that is entered as `enter` says. -/
def run (enter : Nat → Bool) (connects : Nat → Bool) (stop : Bool) (pool : ConnectionPool)
    (lastOperationTime : Nat → Int) : Check :=
  let s : Check :=
    { pool := pool, lastOperationTime := lastOperationTime, examined := [], failCount := 0 }
  if stop then s
  else
    let s := s.rounds now heartBeat enter pool.stubQueue.length 0
    s.reconnect now connects s.failCount

/-- Every stub in the queue is examined once, the queue loses those that fail and no others, and if
    every connection can be made it has as many stubs as before. -/
structure Covers (connects : Nat → Bool) (pool : ConnectionPool) (lastOperationTime : Nat → Int)
    (after : Check) : Prop where
  examined : after.examined.Perm pool.stubQueue
  kept : ∀ stub, some stub ∈ pool.stubQueue →
    (some stub ∈ after.pool.stubQueue ↔ passes now heartBeat lastOperationTime stub = true)
  restored : (∀ k, connects k = true) → after.pool.stubQueue.length = pool.stubQueue.length

/-- `!expectedStubs` -/
def notExpected (expectedStubs : Nat) : Bool := expectedStubs == 0

end Check

/-- `RedisConnectionPool::roundRobinChecking` -/
def redisRoundRobinChecking (now : Int) (heartBeat : Nat → Option Bool) (connects : Nat → Bool)
    (stop : Bool) (pool : ConnectionPool) (lastOperationTime : Nat → Int) : Check :=
  Check.run now (fun _ stub => heartBeat stub) Check.notExpected connects stop pool
    lastOperationTime

/-- `MySQLConnection::checkTimeout` -/
def checkTimeout (sendHeartBeat : Nat → Option Bool) (now : Int) (timeout : Nat) (last : Int)
    (stub : Nat) : Option Bool :=
  if (timeout : Int) < secondsBetween last now then sendHeartBeat stub else some true

/-- `MySQLConnectionPool::roundRobinCheckLowGranularity` -/
def mysqlRoundRobinCheckLowGranularity (now : Int) (timeout : Nat)
    (sendHeartBeat : Nat → Option Bool) (connects : Nat → Bool) (stop : Bool)
    (pool : ConnectionPool) (lastOperationTime : Nat → Int) : Check :=
  Check.run now (checkTimeout sendHeartBeat now timeout) Check.notExpected connects stop pool
    lastOperationTime

namespace Check

variable {now : Int} {heartBeat : HeartBeat}

/-! ## The loop that is not entered -/

theorem rounds_notExpected (s : Check) (expectedStubs currentStubs : Nat) :
    s.rounds now heartBeat notExpected expectedStubs currentStubs = s := by
  rw [rounds, dif_neg]
  intro h
  obtain ⟨hzero, hlt⟩ := h
  have : expectedStubs = 0 := by simpa [notExpected] using hzero
  omega

/-- The check changes nothing. -/
theorem run_notExpected (connects : Nat → Bool) (stop : Bool) (pool : ConnectionPool)
    (lastOperationTime : Nat → Int) :
    run now heartBeat notExpected connects stop pool lastOperationTime =
      { pool := pool, lastOperationTime := lastOperationTime, examined := [], failCount := 0 } := by
  cases stop with
  | true => rfl
  | false =>
    show reconnect now connects _ (rounds _ _ _ _ _ _) = _
    rw [rounds_notExpected]
    rfl

theorem covers_notExpected_iff (connects : Nat → Bool) (stop : Bool) (pool : ConnectionPool)
    (lastOperationTime : Nat → Int) :
    Covers now heartBeat connects pool lastOperationTime
        (run now heartBeat notExpected connects stop pool lastOperationTime) ↔
      pool.stubQueue = [] := by
  rw [run_notExpected]
  constructor
  · intro h
    exact (List.Perm.nil_eq h.examined).symm
  · intro hempty
    refine ⟨?_, fun stub hstub => ?_, fun _ => rfl⟩
    · rw [hempty]
    · rw [hempty] at hstub
      cases hstub

/-! ## A round for every stub -/

/-- The pool while the guard of a round has the first stub. -/
def acquired (pool : ConnectionPool) (stub : Nat) (rest : List (Option Nat)) : ConnectionPool :=
  { pool with stubQueue := rest, guards := pool.guards ++ [some ⟨true, some stub⟩] }

theorem step_construct {pool : ConnectionPool} {stub : Nat} {rest : List (Option Nat)}
    (hqueue : pool.stubQueue = some stub :: rest) :
    pool.step .construct = some (acquired pool stub rest) := by
  simp [ConnectionPool.step, ConnectionPool.construct, hqueue, acquired]

theorem live_acquired (pool : ConnectionPool) (stub : Nat) (rest : List (Option Nat)) :
    (acquired pool stub rest).live pool.guards.length = some ⟨true, some stub⟩ := by
  simp [ConnectionPool.live, acquired]

/-- A guard that ends brings its stub back. -/
theorem step_destroy (pool : ConnectionPool) (stub : Nat) (rest : List (Option Nat)) :
    ∃ pool', (acquired pool stub rest).step (.destroy pool.guards.length) = some pool' ∧
      pool'.stubQueue = rest ++ [some stub] ∧ pool'.created = pool.created := by
  refine ⟨(acquired pool stub rest).destroy pool.guards.length ⟨true, some stub⟩, ?_, rfl, rfl⟩
  rw [ConnectionPool.step, live_acquired, Option.map_some]

/-- A guard that was invalidated does not. -/
theorem step_invalidate_destroy (pool : ConnectionPool) (stub : Nat) (rest : List (Option Nat)) :
    ∃ pool', (((acquired pool stub rest).step (.invalidate pool.guards.length)).bind fun p =>
        p.step (.destroy pool.guards.length)) = some pool' ∧
      pool'.stubQueue = rest ∧ pool'.created = pool.created := by
  have hlive : ((acquired pool stub rest).invalidate pool.guards.length ⟨true, some stub⟩).live
      pool.guards.length = some ⟨false, some stub⟩ := by
    simp [ConnectionPool.live, ConnectionPool.invalidate, acquired, ConnectionRAII.invalidate]
  refine ⟨((acquired pool stub rest).invalidate pool.guards.length ⟨true, some stub⟩).destroy
    pool.guards.length ⟨false, some stub⟩, ?_, rfl, rfl⟩
  rw [ConnectionPool.step, live_acquired, Option.map_some, Option.bind_some,
    ConnectionPool.step, hlive, Option.map_some]

variable (now heartBeat)

/-- What a round on the first stub does. -/
theorem examine_eq {s : Check} {stub : Nat} {rest : List (Option Nat)}
    (hqueue : s.pool.stubQueue = some stub :: rest) :
    ∃ s', s.examine now heartBeat stub = some s' ∧
      s'.pool.stubQueue =
        rest ++ (if passes now heartBeat s.lastOperationTime stub then [some stub] else []) ∧
      s'.examined = s.examined ++ [some stub] ∧
      s'.failCount =
        s.failCount + (if passes now heartBeat s.lastOperationTime stub then 0 else 1) ∧
      s'.pool.created = s.pool.created ∧
      ∀ other, other ≠ stub → s'.lastOperationTime other = s.lastOperationTime other := by
  unfold examine
  rw [step_construct hqueue, Option.bind_some]
  by_cases hrecent : secondsBetween (s.lastOperationTime stub) now < 5
  · have hpasses : passes now heartBeat s.lastOperationTime stub = true := by
      simp [passes, hrecent]
    obtain ⟨pool', hdestroy, hqueue', hcreated⟩ := step_destroy s.pool stub rest
    refine ⟨{ s with pool := pool', examined := s.examined ++ [some stub] }, ?_, ?_, rfl, ?_,
      hcreated, fun _ _ => rfl⟩
    · simp only [if_pos hrecent, hdestroy, Option.map_some]
    · rw [hpasses]
      exact hqueue'
    · rw [hpasses]
      rfl
  · by_cases halive : heartBeat (s.lastOperationTime stub) stub = some true
    · have hpasses : passes now heartBeat s.lastOperationTime stub = true := by
        simp [passes, halive]
      obtain ⟨pool', hdestroy, hqueue', hcreated⟩ := step_destroy s.pool stub rest
      refine ⟨{ s with
          pool := pool', examined := s.examined ++ [some stub],
          lastOperationTime := Function.update s.lastOperationTime stub now }, ?_, ?_, rfl, ?_,
        hcreated, fun other hne => Function.update_of_ne hne _ _⟩
      · simp only [if_neg hrecent, if_pos halive, hdestroy, Option.map_some]
      · rw [hpasses]
        exact hqueue'
      · rw [hpasses]
        rfl
    · have hpasses : passes now heartBeat s.lastOperationTime stub = false := by
        simp [passes, hrecent, halive]
      obtain ⟨pool', hdestroy, hqueue', hcreated⟩ := step_invalidate_destroy s.pool stub rest
      refine ⟨{ s with
          pool := pool', examined := s.examined ++ [some stub],
          failCount := s.failCount + 1 }, ?_, ?_, rfl, ?_, hcreated, fun _ _ => rfl⟩
      · simp only [if_neg hrecent, if_neg halive, hdestroy, Option.map_some]
      · rw [hpasses]
        exact hqueue'.trans (List.append_nil rest).symm
      · rw [hpasses]
        rfl

/-- The rounds turn the queue: after them the stubs that pass stand in it again. -/
theorem rounds_eq {todo : List Nat} {done : List (Option Nat)} {s : Check} (current : Nat)
    (hnodup : todo.Nodup) (hqueue : s.pool.stubQueue = todo.map some ++ done) :
    let s' := s.rounds now heartBeat (fun _ => true) (current + todo.length) current
    s'.pool.stubQueue =
        done ++ (todo.filter (passes now heartBeat s.lastOperationTime)).map some ∧
      s'.examined = s.examined ++ todo.map some ∧
      s'.failCount =
        s.failCount + todo.countP (fun stub => !passes now heartBeat s.lastOperationTime stub) ∧
      s'.pool.created = s.pool.created := by
  induction todo generalizing s done current with
  | nil =>
    intro s'
    have hsame : s' = s := by
      show rounds _ _ _ _ _ _ = _
      rw [rounds, dif_neg (by simp)]
    rw [hsame]
    simp [hqueue]
  | cons stub todo ih =>
    intro s'
    obtain ⟨hnew, hnodup⟩ := List.nodup_cons.mp hnodup
    have hfront : s.pool.stubQueue = some stub :: (todo.map some ++ done) := hqueue
    obtain ⟨t, hexamine, hqueue', hexamined, hfailed, hcreated, hlast⟩ :=
      examine_eq now heartBeat hfront
    have hs' : s' = t.rounds now heartBeat (fun _ => true) (current + 1 + todo.length)
        (current + 1) := by
      have hlength : current + (stub :: todo).length = current + 1 + todo.length := by
        rw [List.length_cons]
        omega
      show rounds _ _ _ _ _ _ = _
      rw [hlength, rounds, dif_pos ⟨rfl, by omega⟩]
      simp only [hfront, hexamine]
    have hsame : ∀ other ∈ todo, passes now heartBeat t.lastOperationTime other =
        passes now heartBeat s.lastOperationTime other := by
      intro other hother
      have hne : other ≠ stub := fun heq => hnew (heq ▸ hother)
      rw [passes, passes, hlast other hne]
    rw [List.append_assoc] at hqueue'
    obtain ⟨hq, he, hf, hc⟩ := ih (current + 1) hnodup hqueue'
    have hcount : todo.countP (fun stub => !passes now heartBeat t.lastOperationTime stub) =
        todo.countP (fun stub => !passes now heartBeat s.lastOperationTime stub) :=
      List.countP_congr fun other hother => by rw [hsame other hother]
    rw [hs', hq, he, hf, hc, List.filter_congr hsame, hcount, hexamined, hfailed, hcreated]
    cases hpasses : passes now heartBeat s.lastOperationTime stub with
    | true => simp [hpasses]
    | false => simp [hpasses, Nat.add_comm, Nat.add_assoc]

/-- The connections that are made anew come to the end of the queue. -/
theorem reconnect_eq (connects : Nat → Bool) (n : Nat) (s : Check) :
    (s.reconnect now connects n).examined = s.examined ∧
      (∀ stub, stub < s.pool.created →
        (some stub ∈ (s.reconnect now connects n).pool.stubQueue ↔ some stub ∈ s.pool.stubQueue)) ∧
      ((∀ k, connects k = true) →
        (s.reconnect now connects n).pool.stubQueue.length = s.pool.stubQueue.length + n) := by
  induction n generalizing s with
  | zero => exact ⟨rfl, fun _ _ => Iff.rfl, fun _ => rfl⟩
  | succ n ih =>
    rw [reconnect]
    split
    · obtain ⟨hexamined, hold, hlength⟩ := ih
        { s with
          pool := s.pool.connector
          lastOperationTime := Function.update s.lastOperationTime s.pool.created now
          failCount := n }
      refine ⟨hexamined, fun stub hlt => ?_, fun hall => ?_⟩
      · rw [hold stub (Nat.lt_succ_of_lt hlt)]
        simp [ConnectionPool.connector, hlt.ne]
      · rw [hlength hall]
        simp only [ConnectionPool.connector, List.length_append, List.length_singleton]
        omega
    · rename_i hfails
      exact ⟨rfl, fun _ _ => Iff.rfl, fun hall => absurd (hall n) hfails⟩

theorem eq_map_some {queue : List (Option Nat)} (hnull : none ∉ queue) :
    queue = (queue.filterMap id).map some := by
  induction queue with
  | nil => rfl
  | cons first rest ih =>
    have hrest : none ∉ rest := fun hmem => hnull (List.mem_cons_of_mem _ hmem)
    cases first with
    | none => exact absurd List.mem_cons_self hnull
    | some stub => exact congrArg (some stub :: ·) (ih hrest)

/-- The stubs in the queue of a pool: different ones, made before. -/
theorem exists_stubs {pool : ConnectionPool} (h : pool.Inv) :
    ∃ stubs : List Nat, pool.stubQueue = stubs.map some ∧ stubs.Nodup ∧
      ∀ stub ∈ stubs, stub < pool.created := by
  have hle : pool.queued ≤ Multiset.range pool.created := by
    rw [← h.account, add_assoc]
    exact Multiset.le_add_right _ _
  refine ⟨pool.stubQueue.filterMap id, eq_map_some h.noNull, ?_, fun stub hstub => ?_⟩
  · exact Multiset.coe_nodup.mp (Multiset.nodup_of_le hle (Multiset.nodup_range _))
  · exact Multiset.mem_range.mp (Multiset.mem_of_le hle hstub)

/-- With a round for every stub a check covers any pool. -/
theorem covers_everyRound {pool : ConnectionPool} (h : pool.Inv) (connects : Nat → Bool)
    (lastOperationTime : Nat → Int) :
    Covers now heartBeat connects pool lastOperationTime
      (run now heartBeat (fun _ => true) connects false pool lastOperationTime) := by
  obtain ⟨stubs, hqueue, hnodup, hlt⟩ := exists_stubs h
  let s : Check :=
    { pool := pool, lastOperationTime := lastOperationTime, examined := [], failCount := 0 }
  obtain ⟨hturned, hexamined, hfailed, hcreated⟩ := rounds_eq now heartBeat (s := s) 0
    hnodup (hqueue.trans (List.append_nil _).symm)
  rw [Nat.zero_add] at hturned hexamined hfailed hcreated
  have hrun : run now heartBeat (fun _ => true) connects false pool lastOperationTime =
      (s.rounds now heartBeat (fun _ => true) stubs.length 0).reconnect now connects
        (stubs.countP fun stub => !passes now heartBeat lastOperationTime stub) := by
    have hlength : pool.stubQueue.length = stubs.length := by
      rw [hqueue, List.length_map]
    rw [run, if_neg Bool.false_ne_true, hlength]
    show reconnect _ _ _ _ = _
    rw [hfailed, Nat.zero_add]
  obtain ⟨hsame, hold, hrestored⟩ := reconnect_eq now connects
    (stubs.countP fun stub => !passes now heartBeat lastOperationTime stub)
    (s.rounds now heartBeat (fun _ => true) stubs.length 0)
  rw [hrun]
  refine ⟨?_, fun stub hstub => ?_, fun hall => ?_⟩
  · rw [hsame, hexamined, hqueue]
    exact List.Perm.refl _
  · have hmem : stub ∈ stubs := by simpa [hqueue] using hstub
    rw [hold stub (hcreated ▸ hlt stub hmem), hturned]
    simp [hmem, s]
  · rw [hrestored hall, hturned, hqueue]
    have hcount := List.length_eq_countP_add_countP (l := stubs)
      (passes now heartBeat lastOperationTime)
    simp only [List.nil_append, List.length_map, ← List.countP_eq_length_filter]
    simp only [Bool.not_eq_true, Bool.decide_eq_false] at hcount
    exact hcount.symm

end Check

/-- On a pool nobody else is using, a check covers the stubs exactly if there are none. -/
theorem covers_iff (now : Int) (timeout : Nat) (answers : Nat → Option Bool)
    (connects : Nat → Bool) (stop : Bool) (pool : ConnectionPool) (last : Nat → Int) :
    (Check.Covers now (fun _ stub => answers stub) connects pool last
        (redisRoundRobinChecking now answers connects stop pool last) ↔ pool.stubQueue = []) ∧
      (Check.Covers now (checkTimeout answers now timeout) connects pool last
        (mysqlRoundRobinCheckLowGranularity now timeout answers connects stop pool last) ↔
          pool.stubQueue = []) :=
  ⟨Check.covers_notExpected_iff connects stop pool last,
    Check.covers_notExpected_iff connects stop pool last⟩

/-- A pool with one stub, which nobody has used for ten seconds and which does not answer. -/
theorem not_covers_oneStub :
    ¬ ∀ now answers connects pool last,
      Check.Covers now (fun _ stub => answers stub) connects pool last
        (redisRoundRobinChecking now answers connects false pool last) := by
  intro h
  have hcovers := h 10000000000 (fun _ => some false) (fun _ => true)
    ConnectionPool.empty.connector (fun _ => 0)
  have hgone := (hcovers.kept 0 (List.mem_singleton_self _)).mp (by
    show some 0 ∈ (Check.run _ _ Check.notExpected _ _ _ _).pool.stubQueue
    rw [Check.run_notExpected]
    exact List.mem_singleton_self _)
  exact absurd hgone (by decide)

end DistributedIM.ChattingServer
