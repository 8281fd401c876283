/-
  `chattingInstanceLoadBalancer` of `GrpcDataLayer`: the chatting server with the fewest
  connections, by the counters in Redis.

  The registry is walked in the order of its iterators. Each entry's connections are overwritten
  with what Redis has, and `min_server` moves to an entry that has fewer. The counter of the first
  entry is read before the loop, which passes over the entry `min_server` stands on.

  `chattingInstanceLoadBalancer_minimal`: the answer is a registered server that no registered
  server has fewer connections than.
-/
import Mathlib.Data.List.FinRange
import Mathlib.Logic.Function.Basic
import DistributedIM.BalanceServer.ServerRegistry
import DistributedIM.Lib.Text

namespace DistributedIM.BalanceServer

/-! ## The registry -/

/-- `ServerInstanceConf` with the connections last read. -/
structure ServerInstanceConf extends ServerConf where
  connections : Nat
  deriving DecidableEq, Repr

/-- `m_chattingServerInstances`: its entries in the order of iteration, under distinct keys. -/
structure Instances (n : Nat) where
  key : Fin n → String
  conf : Fin n → ServerInstanceConf
  distinct : Function.Injective key

def Instances.setConnections {n : Nat} (servers : Instances n) (server : Fin n)
    (connections : Nat) : Instances n :=
  { servers with
    conf := Function.update servers.conf server
      { servers.conf server with connections := connections } }

/-! ## Redis -/

/-- What Redis answers during the call. -/
structure Redis where
  /-- `acquire`: the identifier of the lock -/
  acquire : String → Option String
  /-- `HGET redis_server` -/
  counter : String → Option String

def sizeMax : Nat := 2 ^ 64 - 1

/-- The conversion of an `int` to `std::size_t`. -/
def sizeOfInt (i : Int) : Nat :=
  (i % 2 ^ 64).toNat

inductive Answer
  | nullopt
  | server (conf : ServerConf)
  /-- an exception of `std::stoi` -/
  | thrown
  deriving DecidableEq, Repr

/-- The new connections of the server, read under its lock; or the answer the call ends with. -/
def readConnections (redis : Redis) (name : String) : Except Answer Nat :=
  match redis.acquire name with
  | none => .error .nullopt
  | some _ =>
    match redis.counter name with
    | none => .ok sizeMax
    | some text =>
      match Text.stoi text with
      | none => .error .thrown
      | some i => .ok (sizeOfInt i)

/-! ## The call -/

variable {n : Nat}

/-- The loop over the entries that are left. -/
def walk (redis : Redis) (servers : Instances n) (minServer : Fin n) :
    List (Fin n) → Answer × Instances n
  | [] => (.server (servers.conf minServer).toServerConf, servers)
  | server :: rest =>
    -- ignore current
    if servers.key server = servers.key minServer then walk redis servers minServer rest
    else
      match readConnections redis (servers.key server) with
      | .error answer => (answer, servers)
      | .ok connections =>
        let servers := servers.setConnections server connections
        if (servers.conf server).connections < (servers.conf minServer).connections then
          walk redis servers server rest
        else walk redis servers minServer rest

def chattingInstanceLoadBalancer (redis : Redis) : {n : Nat} → Instances n → Answer × Instances n
  | 0, servers => (.nullopt, servers)
  | n + 1, servers =>
    let minServer : Fin (n + 1) := 0
    match readConnections redis (servers.key minServer) with
    | .error answer => (answer, servers)
    | .ok connections =>
      walk redis (servers.setConnections minServer connections) minServer (List.finRange (n + 1))

/-! ## Counters -/

/-- The counter of a server; a missing one counts as the maximum. -/
def connectionsOf (redis : Redis) (name : String) : Nat :=
  match redis.counter name with
  | none => sizeMax
  | some text => sizeOfInt ((Text.stoi text).getD 0)

/-- All locks are acquired and all counters parse. -/
structure Answers (redis : Redis) (servers : Instances n) : Prop where
  acquired : ∀ i, (redis.acquire (servers.key i)).isSome
  parses : ∀ i text, redis.counter (servers.key i) = some text → (Text.stoi text).isSome

theorem Answers.readConnections {redis : Redis} {servers : Instances n} (h : Answers redis servers)
    (i : Fin n) :
    readConnections redis (servers.key i) = .ok (connectionsOf redis (servers.key i)) := by
  obtain ⟨identifier, hacquire⟩ := Option.isSome_iff_exists.mp (h.acquired i)
  have hparses := h.parses i
  unfold BalanceServer.readConnections connectionsOf
  rw [hacquire]
  cases hcounter : redis.counter (servers.key i) with
  | none => rfl
  | some text =>
    obtain ⟨c, hc⟩ := Option.isSome_iff_exists.mp (hparses text hcounter)
    simp only [hc, Option.getD_some]

/-! ## Entries -/

@[simp] theorem setConnections_key (servers : Instances n) (server : Fin n) (connections : Nat) :
    (servers.setConnections server connections).key = servers.key := rfl

theorem setConnections_self (servers : Instances n) (server : Fin n) (connections : Nat) :
    ((servers.setConnections server connections).conf server).connections = connections := by
  simp only [Instances.setConnections, Function.update_self]

theorem setConnections_of_ne (servers : Instances n) {server i : Fin n} (connections : Nat)
    (h : i ≠ server) : (servers.setConnections server connections).conf i = servers.conf i := by
  simp only [Instances.setConnections, Function.update_of_ne h]

/-- Host, port and name stay. -/
@[simp] theorem setConnections_conf (servers : Instances n) (server i : Fin n)
    (connections : Nat) :
    ((servers.setConnections server connections).conf i).toServerConf =
      (servers.conf i).toServerConf := by
  by_cases h : i = server
  · subst h
    simp only [Instances.setConnections, Function.update_self]
  · rw [setConnections_of_ne servers connections h]

theorem Answers.setConnections {redis : Redis} {servers : Instances n} (h : Answers redis servers)
    (server : Fin n) (connections : Nat) :
    Answers redis (servers.setConnections server connections) :=
  ⟨h.acquired, h.parses⟩

/-! ## The loop -/

/-- Before the entries `rest` are visited: the others have their counters, and none of them has
    fewer connections than `minServer`, which is one of them or the first. -/
structure Walked (redis : Redis) (servers : Instances n) (minServer : Fin n)
    (rest : List (Fin n)) : Prop where
  minimum : (servers.conf minServer).connections = connectionsOf redis (servers.key minServer)
  read : ∀ i, i ∉ rest → (servers.conf i).connections = connectionsOf redis (servers.key i)
  least : ∀ i, i ∉ rest →
    connectionsOf redis (servers.key minServer) ≤ connectionsOf redis (servers.key i)

/-- The entry `min_server` stands on is passed over. -/
theorem Walked.skip {redis : Redis} {servers : Instances n} {server minServer : Fin n}
    {rest : List (Fin n)} (h : Walked redis servers minServer (server :: rest))
    (heq : server = minServer) : Walked redis servers minServer rest := by
  subst heq
  refine ⟨h.minimum, ?_, ?_⟩
  · intro i hi
    by_cases hserver : i = server
    · rw [hserver]
      exact h.minimum
    · exact h.read i (by simp [hserver, hi])
  · intro i hi
    by_cases hserver : i = server
    · rw [hserver]
    · exact h.least i (by simp [hserver, hi])

/-- An entry is read, and `min_server` stays or moves to it, whichever has fewer connections. -/
theorem Walked.visit {redis : Redis} {servers : Instances n} {server minServer next : Fin n}
    {rest : List (Fin n)} (h : Walked redis servers minServer (server :: rest))
    (hne : server ≠ minServer) (hnext : next = server ∨ next = minServer)
    (hmin : connectionsOf redis (servers.key next) ≤ connectionsOf redis (servers.key minServer))
    (hserver : connectionsOf redis (servers.key next) ≤ connectionsOf redis (servers.key server)) :
    Walked redis (servers.setConnections server (connectionsOf redis (servers.key server))) next
      rest := by
  have hread (i : Fin n) (hi : i = server ∨ (servers.conf i).connections =
      connectionsOf redis (servers.key i)) :
      ((servers.setConnections server (connectionsOf redis (servers.key server))).conf
        i).connections = connectionsOf redis (servers.key i) := by
    by_cases heq : i = server
    · subst heq
      exact setConnections_self servers i _
    · rw [setConnections_of_ne servers _ heq]
      exact hi.resolve_left heq
  refine ⟨?_, ?_, ?_⟩
  · refine hread next ?_
    rcases hnext with rfl | rfl
    · exact Or.inl rfl
    · exact Or.inr h.minimum
  · intro i hi
    refine hread i ?_
    by_cases heq : i = server
    · exact Or.inl heq
    · exact Or.inr (h.read i (by simp [heq, hi]))
  · intro i hi
    by_cases heq : i = server
    · rw [heq]
      exact hserver
    · exact Nat.le_trans hmin (h.least i (by simp [heq, hi]))

/-- The loop ends on an entry with the fewest connections, and has read all of them. -/
theorem walk_minimal {redis : Redis} {servers : Instances n} {minServer : Fin n}
    {rest : List (Fin n)} (hanswers : Answers redis servers)
    (h : Walked redis servers minServer rest) :
    ∃ i, (walk redis servers minServer rest).1 = .server (servers.conf i).toServerConf ∧
      (∀ j, connectionsOf redis (servers.key i) ≤ connectionsOf redis (servers.key j)) ∧
      ∀ j, ((walk redis servers minServer rest).2.conf j).connections =
        connectionsOf redis (servers.key j) := by
  induction rest generalizing servers minServer with
  | nil =>
    exact ⟨minServer, rfl, fun j => h.least j List.not_mem_nil,
      fun j => h.read j List.not_mem_nil⟩
  | cons server rest ih =>
    unfold walk
    by_cases hkey : servers.key server = servers.key minServer
    · rw [if_pos hkey]
      exact ih hanswers (h.skip (servers.distinct hkey))
    · have hne : server ≠ minServer := fun heq => hkey (congrArg servers.key heq)
      have hfewer : ((servers.setConnections server
          (connectionsOf redis (servers.key server))).conf minServer).connections =
            connectionsOf redis (servers.key minServer) := by
        rw [setConnections_of_ne servers _ hne.symm]
        exact h.minimum
      have hanswers' := hanswers.setConnections server (connectionsOf redis (servers.key server))
      rw [if_neg hkey, hanswers.readConnections server]
      dsimp only
      rw [setConnections_self, hfewer]
      split
      · rename_i hlt
        simpa using ih hanswers' (h.visit hne (Or.inl rfl) (Nat.le_of_lt hlt) (Nat.le_refl _))
      · rename_i hge
        simpa using ih hanswers' (h.visit hne (Or.inr rfl) (Nat.le_refl _) (Nat.not_lt.mp hge))

/-! ## The answer -/

/-- Without a chatting server there is no answer; else the answer is a registered one with the
    fewest connections. -/
theorem chattingInstanceLoadBalancer_minimal (redis : Redis) (servers : Instances n)
    (hanswers : Answers redis servers) :
    (n = 0 → (chattingInstanceLoadBalancer redis servers).1 = .nullopt) ∧
      (n ≠ 0 → ∃ i,
        (chattingInstanceLoadBalancer redis servers).1 = .server (servers.conf i).toServerConf ∧
        ∀ j, connectionsOf redis (servers.key i) ≤ connectionsOf redis (servers.key j)) := by
  cases n with
  | zero => exact ⟨fun _ => rfl, fun h => absurd rfl h⟩
  | succ n =>
    have hfirst : Walked redis (servers.setConnections 0 (connectionsOf redis (servers.key 0))) 0
        (List.finRange (n + 1)) :=
      { minimum := setConnections_self servers 0 _
        read := fun i hi => absurd (List.mem_finRange i) hi
        least := fun i hi => absurd (List.mem_finRange i) hi }
    obtain ⟨i, hwalk, hleast, -⟩ := walk_minimal (hanswers.setConnections 0 _) hfirst
    refine ⟨fun h => absurd h (Nat.succ_ne_zero n), fun _ => ⟨i, ?_, hleast⟩⟩
    rw [setConnections_conf] at hwalk
    unfold chattingInstanceLoadBalancer
    dsimp only
    rw [hanswers.readConnections 0]
    exact hwalk

/-- Two servers, of which the second has the fewer connections. -/
def twoServers : Instances 2 where
  key i := if i = 0 then "im1" else "im2"
  conf i := if i = 0 then ⟨⟨"10.0.0.1", "8090", "im1"⟩, 0⟩ else ⟨⟨"10.0.0.2", "8090", "im2"⟩, 0⟩
  distinct := by
    unfold Function.Injective
    decide

def twoCounters : Redis where
  acquire _ := some "id"
  counter name := if name = "im1" then some (7).repr else some (3).repr

theorem chattingInstanceLoadBalancer_two :
    ∃ i, (chattingInstanceLoadBalancer twoCounters twoServers).1 =
        .server (twoServers.conf i).toServerConf ∧
      ∀ j, connectionsOf twoCounters (twoServers.key i) ≤
        connectionsOf twoCounters (twoServers.key j) := by
  have hanswers : Answers twoCounters twoServers := by
    refine ⟨fun _ => rfl, fun i text htext => ?_⟩
    unfold twoCounters at htext
    dsimp only at htext
    split at htext
    · rw [← Option.some.inj htext, Text.stoi_repr (by decide)]
      rfl
    · rw [← Option.some.inj htext, Text.stoi_repr (by decide)]
      rfl
  exact (chattingInstanceLoadBalancer_minimal twoCounters twoServers hanswers).2 (by decide)

end DistributedIM.BalanceServer
