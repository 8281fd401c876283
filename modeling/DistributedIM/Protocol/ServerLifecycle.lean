/-
  The chatting servers from the start of `main` to its end, any number of them, with the lists of
  the balance server and the hash `redis_server` in Redis. A register call is two steps of the
  balance server, which goes on with it when nobody waits any more.

  `always_accurate_iff`: in every state of a run each entry of the lists has exactly one server that
  is past its registration and not yet past its shutdown, exactly if no step of the run leaves an
  entry behind or registers a name twice. What leaves one behind is in `GoesOn` and `Orderly`: the
  second registration is refused, a lock is not acquired, a shutdown call is lost, the process dies.
  A shutdown call that nobody waits for any more may still be executed.

  `staysBehind_of_exits`: if that happens first to a server that has not come to its shutdown calls,
  and no other one of its name is between look and entry or on its way out, no server with the name
  ever runs again; the entry and the counter stay, and the load balancer answers with nobody who has
  more connections than the counter says.

  Left out: the release of the locks, the servers of resources, what clients do but for the counter.
-/
import DistributedIM.BalanceServer.LoadBalancer

namespace DistributedIM.Protocol.ServerLifecycle

open BalanceServer (ServerType ServerInfo ServerConf Key GrpcDataLayer)

/-! ## `main` -/

/-- What `main` reads of `ServerConfig`. -/
structure ServerConfig where
  grpcServerName : String
  grpcServerHost : String
  chattingServerPort : Nat
  grpcServerPort : Nat
  deriving DecidableEq, Repr

def ServerConfig.info (c : ServerConfig) : ServerType → ServerInfo
  | .chattingServerInstance => ⟨c.grpcServerName, c.grpcServerHost, c.chattingServerPort.repr⟩
  | .chattingGrpcServer => ⟨c.grpcServerName, c.grpcServerHost, c.grpcServerPort.repr⟩

/-- Where `main` is. -/
inductive Stage
  | checkPorts
  /-- waits for the answer to a register call, which has come this far -/
  | registering (type : ServerType) (call : BalanceServer.Stage)
  | acquireAtStartup
  | setConnections
  | running
  | acquireAtShutdown
  | delConnections
  | shuttingDown (type : ServerType)
  | exited
  deriving DecidableEq, Repr

/-- The sessions of the server are there, and the thread of its requests. -/
def Stage.counts : Stage → Bool
  | .running | .acquireAtShutdown | .delConnections | .shuttingDown _ => true
  | _ => false

structure Server where
  config : ServerConfig
  stage : Stage
  deriving DecidableEq, Repr

def Server.name (p : Server) : String :=
  p.config.grpcServerName

/-- The register call of the server. -/
def Server.call (p : Server) (type : ServerType) (stage : BalanceServer.Stage) :
    BalanceServer.Call :=
  ⟨type, p.config.info type, stage⟩

structure Shared where
  /-- the lists of the balance server -/
  layer : GrpcDataLayer
  /-- the fields of `redis_server` -/
  connections : String → Option String
  /-- register calls that nobody waits for -/
  left : List BalanceServer.Call
  /-- shutdown calls that nobody waits for -/
  leftShutdowns : List Key

/-- The next step of `main`: `ok` if the lock is acquired, the command reaches Redis, or the call
    reaches the balance server. -/
def run (ok : Bool) (s : Shared) (p : Server) : Option (Shared × Server) :=
  match p.stage with
  | .checkPorts =>
    if p.config.grpcServerPort = p.config.chattingServerPort then
      some (s, { p with stage := .exited })
    else some (s, { p with stage := .registering .chattingServerInstance .find })
  | .registering type (.returned error) =>
    if error = .serviceSuccess then
      match type with
      | .chattingServerInstance =>
        some (s, { p with stage := .registering .chattingGrpcServer .find })
      | .chattingGrpcServer => some (s, { p with stage := .acquireAtStartup })
    else some (s, { p with stage := .exited })
  | .registering _ _ => none
  | .acquireAtStartup => some (s, { p with stage := if ok then .setConnections else .exited })
  | .setConnections =>
    let connections :=
      if ok then Function.update s.connections p.name (some "0") else s.connections
    some ({ s with connections := connections }, { p with stage := .running })
  | .running => some (s, { p with stage := .acquireAtShutdown })
  | .acquireAtShutdown => some (s, { p with stage := if ok then .delConnections else .exited })
  | .delConnections =>
    let connections := if ok then Function.update s.connections p.name none else s.connections
    some ({ s with connections := connections },
      { p with stage := .shuttingDown .chattingServerInstance })
  | .shuttingDown type =>
    let s := if ok then { s with layer := (BalanceServer.shutdownOf type s.layer p.name).2 }
      else { s with leftShutdowns := s.leftShutdowns ++ [(type, p.name)] }
    match type with
    | .chattingServerInstance => some (s, { p with stage := .shuttingDown .chattingGrpcServer })
    | .chattingGrpcServer => some (s, { p with stage := .exited })
  | .exited => none

/-- The balance server takes the next step of the server's register call. -/
def handle (s : Shared) (p : Server) : Option (Shared × Server) :=
  match p.stage with
  | .registering type call =>
    (BalanceServer.advance s.layer (p.call type call)).map fun r =>
      ({ s with layer := r.1 }, { p with stage := .registering type r.2.stage })
  | _ => none

/-- The process is killed, or its register call fails and it aborts. -/
def die (s : Shared) (p : Server) : Option (Shared × Server) :=
  match p.stage with
  | .exited => none
  | .registering type call =>
    some ({ s with left := s.left ++ [p.call type call] }, { p with stage := .exited })
  | .shuttingDown type =>
    some ({ s with leftShutdowns := s.leftShutdowns ++ [(type, p.name)] },
      { p with stage := .exited })
  | _ => some (s, { p with stage := .exited })

/-- A request writes the counter of the server. -/
def count (text : String) (s : Shared) (p : Server) : Option (Shared × Server) :=
  if p.stage.counts then
    some ({ s with connections := Function.update s.connections p.name (some text) }, p)
  else none

/-! ## All of them -/

abbrev System := Pool Shared Server

def init : System where
  shared := ⟨fun _ => none, fun _ => none, [], []⟩
  procs := []

inductive Event
  | start (config : ServerConfig)
  | run (i : Nat) (ok : Bool)
  | handle (i : Nat)
  /-- the next step of a register call that nobody waits for -/
  | handleLeft (j : Nat)
  /-- a shutdown call that nobody waits for is executed -/
  | handleLeftShutdown (j : Nat)
  | die (i : Nat)
  | count (i : Nat) (text : String)
  deriving DecidableEq, Repr

def step (s : System) : Event → Option System
  | .start config => some (s.spawn ⟨config, .checkPorts⟩)
  | .run i ok => s.runProc (run ok) i
  | .handle i => s.runProc handle i
  | .handleLeft j => do
    let c ← s.shared.left[j]?
    let r ← BalanceServer.advance s.shared.layer c
    some { s with shared := { s.shared with layer := r.1, left := s.shared.left.set j r.2 } }
  | .handleLeftShutdown j => do
    let key ← s.shared.leftShutdowns[j]?
    some { s with shared := { s.shared with
      layer := (BalanceServer.shutdownOf key.1 s.shared.layer key.2).2
      leftShutdowns := s.shared.leftShutdowns.eraseIdx j } }
  | .die i => s.runProc die i
  | .count i text => s.runProc (count text) i

/-! ## Who is in the lists -/

/-- The server is past its registration of the type, and its shutdown has not come to it. -/
def Stage.lists : Stage → ServerType → Bool
  | .registering .chattingServerInstance call, .chattingServerInstance =>
    call == .returned .serviceSuccess
  | .registering .chattingServerInstance _, .chattingGrpcServer => false
  | .registering .chattingGrpcServer _, .chattingServerInstance => true
  | .registering .chattingGrpcServer call, .chattingGrpcServer => call == .returned .serviceSuccess
  | .acquireAtStartup, _ | .setConnections, _ | .running, _ | .acquireAtShutdown, _
  | .delConnections, _ => true
  | .shuttingDown .chattingServerInstance, _ => true
  | .shuttingDown .chattingGrpcServer, type => type == .chattingGrpcServer
  | .checkPorts, _ | .exited, _ => false

def Server.lists (key : Key) (p : Server) : Bool :=
  p.name == key.2 && p.stage.lists key.1

/-- Each entry of the lists has one server, and there is no other. -/
def Accurate (s : System) : Prop :=
  ∀ key, s.count (Server.lists key) = (s.shared.layer key).isSome.toNat

/-- `main` does not exit while it is in the lists, and its shutdown calls arrive. -/
def Stage.GoesOn (ok : Bool) : Stage → Prop
  | .registering .chattingGrpcServer (.returned error) => error = .serviceSuccess
  | .acquireAtStartup | .acquireAtShutdown | .shuttingDown _ => ok = true
  | _ => True

/-- The step leaves no entry behind, and registers no name twice. -/
def Orderly (s : System) : Event → Prop
  | .run i ok => ∀ p, s.procs[i]? = some p → p.stage.GoesOn ok
  | .handle i => ∀ p, s.procs[i]? = some p → ∀ type, p.stage = .registering type .insert →
      s.shared.layer (type, p.name) = none
  | .handleLeft j => ∀ c, s.shared.left[j]? = some c → c.stage = .insert →
      s.shared.layer c.key ≠ none
  | .handleLeftShutdown j => ∀ key, s.shared.leftShutdowns[j]? = some key →
      s.shared.layer key = none
  | .die i => ∀ p, s.procs[i]? = some p → ∀ type, p.stage.lists type = false
  | _ => True

variable {s s' : System} {sh sh' : Shared} {p p' : Server} {ok : Bool} {i : Nat}

/-! ## Steps of a server -/

/-- What a step of `main` does to the lists and to the server's place in them. -/
inductive Ran (ok : Bool) (layer : GrpcDataLayer) (p : Server) : GrpcDataLayer → Stage → Prop
  | stays (stage : Stage) (hgoes : p.stage.GoesOn ok) (hlists : stage.lists = p.stage.lists) :
      Ran ok layer p layer stage
  | leaves (type : ServerType) (stage : Stage) (hgoes : p.stage.GoesOn ok)
      (hlisted : p.stage.lists type = true)
      (hlists : stage.lists = Function.update p.stage.lists type false) :
      Ran ok layer p (Function.update layer (type, p.name) none) stage
  | drops (type : ServerType) (stage : Stage) (hgoes : ¬p.stage.GoesOn ok)
      (hlisted : p.stage.lists type = true) (hlists : stage.lists type = false) :
      Ran ok layer p layer stage

theorem lists_ext {f g : ServerType → Bool}
    (hinstance : f .chattingServerInstance = g .chattingServerInstance)
    (hgrpc : f .chattingGrpcServer = g .chattingGrpcServer) : f = g := by
  funext type
  cases type with
  | chattingServerInstance => exact hinstance
  | chattingGrpcServer => exact hgrpc

theorem run_spec (h : run ok sh p = some (sh', p')) :
    p'.config = p.config ∧ Ran ok sh.layer p sh'.layer p'.stage := by
  obtain ⟨config, stage⟩ := p
  cases stage with
  | checkPorts =>
    unfold run at h
    dsimp only at h
    split at h
    · obtain ⟨rfl, rfl⟩ := Prod.mk.inj (Option.some.inj h)
      exact ⟨rfl, .stays _ trivial (lists_ext rfl rfl)⟩
    · obtain ⟨rfl, rfl⟩ := Prod.mk.inj (Option.some.inj h)
      exact ⟨rfl, .stays _ trivial (lists_ext rfl rfl)⟩
  | registering type call =>
    cases call with
    | find | insert | shutDown => cases h
    | returned error =>
      unfold run at h
      dsimp only at h
      split at h
      · rename_i hsuccess
        subst hsuccess
        cases type with
        | chattingServerInstance | chattingGrpcServer =>
          obtain ⟨rfl, rfl⟩ := Prod.mk.inj (Option.some.inj h)
          exact ⟨rfl, .stays _ (by trivial) (lists_ext rfl rfl)⟩
      · rename_i herror
        obtain ⟨rfl, rfl⟩ := Prod.mk.inj (Option.some.inj h)
        cases type with
        | chattingServerInstance =>
          refine ⟨rfl, .stays _ trivial (lists_ext ?_ rfl)⟩
          exact (beq_eq_false_iff_ne.mpr fun heq => herror (by cases heq; rfl)).symm
        | chattingGrpcServer => exact ⟨rfl, .drops .chattingServerInstance _ herror rfl rfl⟩
  | acquireAtStartup | acquireAtShutdown =>
    obtain ⟨rfl, rfl⟩ := Prod.mk.inj (Option.some.inj h)
    cases ok with
    | true => exact ⟨rfl, .stays _ rfl (lists_ext rfl rfl)⟩
    | false => exact ⟨rfl, .drops .chattingServerInstance _ Bool.false_ne_true rfl rfl⟩
  | setConnections | running | delConnections =>
    obtain ⟨rfl, rfl⟩ := Prod.mk.inj (Option.some.inj h)
    exact ⟨rfl, .stays _ trivial (lists_ext rfl rfl)⟩
  | shuttingDown type =>
    cases ok with
    | true =>
      cases type with
      | chattingServerInstance | chattingGrpcServer =>
        obtain ⟨rfl, rfl⟩ := Prod.mk.inj (Option.some.inj h)
        refine ⟨rfl, ?_⟩
        rw [if_pos rfl, BalanceServer.shutdownOf_layer]
        exact .leaves _ _ rfl rfl (lists_ext rfl rfl)
    | false =>
      cases type with
      | chattingServerInstance =>
        obtain ⟨rfl, rfl⟩ := Prod.mk.inj (Option.some.inj h)
        exact ⟨rfl, .drops .chattingServerInstance _ Bool.false_ne_true rfl rfl⟩
      | chattingGrpcServer =>
        obtain ⟨rfl, rfl⟩ := Prod.mk.inj (Option.some.inj h)
        exact ⟨rfl, .drops .chattingGrpcServer _ Bool.false_ne_true rfl rfl⟩
  | exited => cases h

/-- The record of a server that is registered. -/
def Server.conf (p : Server) (type : ServerType) : ServerConf :=
  ⟨(p.config.info type).host, (p.config.info type).port, p.name⟩

@[simp] theorem key_call (p : Server) (type : ServerType) (call : BalanceServer.Stage) :
    (p.call type call).key = (type, p.name) := by
  cases type <;> rfl

@[simp] theorem conf_call (p : Server) (type : ServerType) (call : BalanceServer.Stage) :
    (p.call type call).conf = p.conf type := by
  cases type <;> rfl

/-- What a step of the balance server does. -/
inductive Handled (layer : GrpcDataLayer) (p : Server) : GrpcDataLayer → Stage → Prop
  | found (type : ServerType) (stage : BalanceServer.Stage)
      (hstage : p.stage = .registering type .find)
      (hfound : stage = .insert ∨ stage = .returned type.alreadyExists) :
      Handled layer p layer (.registering type stage)
  | inserted (type : ServerType) (hstage : p.stage = .registering type .insert) :
      Handled layer p (BalanceServer.insertItem layer type (p.conf type))
        (.registering type (.returned .serviceSuccess))

theorem handle_spec (h : handle sh p = some (sh', p')) :
    p'.config = p.config ∧ Handled sh.layer p sh'.layer p'.stage := by
  unfold handle at h
  split at h
  · rename_i type call hstage
    obtain ⟨r, hr, heq⟩ := Option.map_eq_some_iff.mp h
    obtain ⟨rfl, rfl⟩ := Prod.mk.inj heq
    refine ⟨rfl, ?_⟩
    rcases BalanceServer.advance_eq_some hr with ⟨hfind, stage, hfound, rfl⟩ | ⟨hinsert, rfl⟩
    · obtain rfl : call = .find := hfind
      exact .found type stage hstage hfound
    · obtain rfl : call = .insert := hinsert
      have hinserted : Handled sh.layer p (BalanceServer.insertItem sh.layer type (p.conf type))
          (.registering type (.returned .serviceSuccess)) := .inserted type hstage
      rw [← conf_call p type .insert] at hinserted
      exact hinserted
  · cases h

/-! ## Entries and servers -/

/-- A step of one server changes its place in the lists as it changes the lists. -/
def Balanced (layer layer' : GrpcDataLayer) (p p' : Server) : Prop :=
  ∀ key, (layer' key).isSome.toNat + (p.lists key).toNat =
    (layer key).isSome.toNat + (p'.lists key).toNat

theorem accurate_set_iff (h : Accurate s) (hp : s.procs[i]? = some p) (sh : Shared)
    (p' : Server) :
    Accurate ⟨sh, s.procs.set i p'⟩ ↔ Balanced s.shared.layer sh.layer p p' := by
  refine forall_congr' fun key => ?_
  have hcount := Pool.count_set hp sh p' (Server.lists key)
  have hkey := h key
  show Pool.count _ _ = (sh.layer key).isSome.toNat ↔ _
  omega

theorem isSome_of_lists (h : Accurate s) (hp : s.procs[i]? = some p) {key : Key}
    (hlists : p.lists key = true) : (s.shared.layer key).isSome = true := by
  have hcount := Pool.one_le_count hp hlists
  rw [h key] at hcount
  by_contra hnone
  rw [Bool.not_eq_true] at hnone
  rw [hnone] at hcount
  exact absurd hcount (by decide)

theorem lists_self (p : Server) (type : ServerType) :
    p.lists (type, p.name) = p.stage.lists type := by
  unfold Server.lists
  rw [beq_self_eq_true, Bool.true_and]

theorem lists_of_name_ne {key : Key} (h : key.2 ≠ p.name) : p.lists key = false := by
  unfold Server.lists
  rw [beq_eq_false_iff_ne.mpr (Ne.symm h), Bool.false_and]

theorem name_of_config (h : p'.config = p.config) : p'.name = p.name := by
  unfold Server.name
  rw [h]

theorem balanced_ran_iff (h : Accurate s) (hp : s.procs[i]? = some p)
    (hconfig : p'.config = p.config) (hran : Ran ok s.shared.layer p sh.layer p'.stage) :
    Balanced s.shared.layer sh.layer p p' ↔ p.stage.GoesOn ok := by
  have hname := name_of_config hconfig
  generalize hlayer : sh.layer = layer at hran ⊢
  generalize hstage : p'.stage = stage at hran
  cases hran with
  | stays _ hgoes hlists =>
    refine ⟨fun _ => hgoes, fun _ key => ?_⟩
    unfold Server.lists
    rw [hname, hstage, hlists]
  | leaves type _ hgoes hlisted hlists =>
    refine ⟨fun _ => hgoes, fun _ key => ?_⟩
    by_cases hkey : key = (type, p.name)
    · subst hkey
      have hsome : (s.shared.layer (type, p.name)).isSome = true :=
        isSome_of_lists h hp (by rw [lists_self, hlisted])
      rw [Function.update_self, lists_self, hlisted, hsome, ← hname, lists_self, hstage, hlists,
        Function.update_self]
      rfl
    · rw [Function.update_of_ne hkey]
      by_cases hother : key.2 = p.name
      · have htype : key.1 ≠ type := fun heq => hkey (Prod.ext heq hother)
        unfold Server.lists
        rw [hname, hstage, hlists, Function.update_of_ne htype]
      · rw [lists_of_name_ne hother, lists_of_name_ne (by rw [hname]; exact hother)]
  | drops type _ hgoes hlisted hlists =>
    refine ⟨fun hbalanced => ?_, fun hgoes' => absurd hgoes' hgoes⟩
    have hkey := hbalanced (type, p.name)
    rw [lists_self, hlisted, ← hname, lists_self, hstage, hlists] at hkey
    exact absurd hkey (by simp)

/-- An entry stays as it is. -/
theorem insertItem_of_some {layer : GrpcDataLayer} {type : ServerType} {conf : ServerConf}
    (h : layer (type, conf.name) ≠ none) : BalanceServer.insertItem layer type conf = layer := by
  obtain ⟨conf', hconf'⟩ := Option.ne_none_iff_exists'.mp h
  unfold BalanceServer.insertItem
  rw [hconf']

theorem insertItem_of_none {layer : GrpcDataLayer} {type : ServerType} {conf : ServerConf}
    (h : layer (type, conf.name) = none) :
    BalanceServer.insertItem layer type conf =
      Function.update layer (type, conf.name) (some conf) := by
  unfold BalanceServer.insertItem
  rw [h]

/-- What is in the list stays there. -/
theorem insertItem_frame {layer : GrpcDataLayer} {key : Key} (h : layer key ≠ none)
    {type : ServerType} {conf : ServerConf} :
    BalanceServer.insertItem layer type conf key = layer key := by
  cases hfree : layer (type, conf.name) with
  | some _ => rw [insertItem_of_some (by rw [hfree]; exact Option.some_ne_none _)]
  | none =>
    rw [insertItem_of_none hfree]
    refine Function.update_of_ne ?_ ..
    rintro rfl
    exact h hfree

theorem lists_registering (type : ServerType) (call : BalanceServer.Stage) :
    (Stage.registering type call).lists type = (call == .returned .serviceSuccess) := by
  cases type <;> rfl

theorem lists_registering_of_ne {type type' : ServerType} (h : type' ≠ type)
    (call call' : BalanceServer.Stage) :
    (Stage.registering type call).lists type' = (Stage.registering type call').lists type' := by
  cases type <;> cases type' <;> first | rfl | exact absurd rfl h

theorem balanced_handled_iff (hconfig : p'.config = p.config)
    (hhandled : Handled s.shared.layer p sh.layer p'.stage) :
    Balanced s.shared.layer sh.layer p p' ↔ ∀ type, p.stage = .registering type .insert →
      s.shared.layer (type, p.name) = none := by
  have hname := name_of_config hconfig
  generalize hlayer : sh.layer = layer at hhandled ⊢
  generalize hstage' : p'.stage = stage' at hhandled
  cases hhandled with
  | found type call hstage hfound =>
    refine ⟨fun _ type' heq => ?_, fun _ key => ?_⟩
    · rw [hstage] at heq
      cases heq
    · have hlists : p'.stage.lists = p.stage.lists := by
        rw [hstage', hstage]
        have hcall : (call == .returned .serviceSuccess) = false := by
          rcases hfound with rfl | rfl
          · rfl
          · exact beq_eq_false_iff_ne.mpr fun heq =>
              BalanceServer.alreadyExists_ne type (BalanceServer.Stage.returned.inj heq)
        funext type'
        by_cases htype : type' = type
        · rw [htype, lists_registering, lists_registering, hcall]
          rfl
        · exact lists_registering_of_ne htype ..
      unfold Server.lists
      rw [hname, hlists]
  | inserted type hstage =>
    have hbefore : p.stage.lists type = false := by rw [hstage, lists_registering]; rfl
    have hafter : p'.stage.lists type = true := by rw [hstage', lists_registering]; rfl
    constructor
    · intro hbalanced type' heq
      obtain ⟨rfl, -⟩ := Stage.registering.inj (hstage.symm.trans heq)
      by_contra hsome
      have hkey := hbalanced (type, p.name)
      rw [insertItem_of_some hsome, lists_self, hbefore, ← hname, lists_self, hafter] at hkey
      exact absurd hkey (by simp)
    · intro hfree key
      have hnone := hfree type hstage
      rw [insertItem_of_none hnone, show (p.conf type).name = p.name from rfl]
      by_cases hkey : key = (type, p.name)
      · rw [hkey, lists_self, hbefore, hnone, Function.update_self, ← hname, lists_self, hafter]
        rfl
      · have hlists : p.lists key = p'.lists key := by
          unfold Server.lists
          by_cases hother : key.2 = p.name
          · have htype : key.1 ≠ type := fun heq => hkey (Prod.ext heq hother)
            rw [hname, hstage, hstage', lists_registering_of_ne htype]
          · rw [hname, beq_eq_false_iff_ne.mpr (Ne.symm hother), Bool.false_and, Bool.false_and]
        rw [hlists, Function.update_of_ne hkey]

theorem die_spec (h : die sh p = some (sh', p')) :
    p'.config = p.config ∧ sh'.layer = sh.layer ∧ sh'.connections = sh.connections ∧
      p'.stage = .exited := by
  unfold die at h
  split at h
  · cases h
  all_goals
    obtain ⟨rfl, rfl⟩ := Prod.mk.inj (Option.some.inj h)
    exact ⟨rfl, rfl, rfl, rfl⟩

theorem balanced_die_iff (h : die sh p = some (sh', p')) :
    Balanced sh.layer sh'.layer p p' ↔ ∀ type, p.stage.lists type = false := by
  obtain ⟨hconfig, hlayer, -, hstage⟩ := die_spec h
  have hexited (key : Key) : p'.lists key = false := by
    unfold Server.lists
    rw [hstage]
    exact Bool.and_false _
  unfold Balanced
  rw [hlayer]
  constructor
  · intro hbalanced type
    have hkey := hbalanced (type, p.name)
    rw [hexited, lists_self] at hkey
    by_contra hlists
    rw [Bool.not_eq_false] at hlists
    rw [hlists] at hkey
    exact absurd hkey (by simp)
  · intro hlists key
    have hbefore : p.lists key = false := by
      unfold Server.lists
      rw [hlists]
      exact Bool.and_false _
    rw [hexited, hbefore]

theorem count_spec {text : String} (h : count text sh p = some (sh', p')) :
    p.stage.counts = true ∧ p' = p ∧ sh'.layer = sh.layer ∧ sh'.leftShutdowns = sh.leftShutdowns ∧
      sh'.connections = Function.update sh.connections p.name (some text) := by
  obtain ⟨hstage, heq⟩ := Option.ite_none_right_eq_some.mp h
  obtain ⟨rfl, rfl⟩ := Prod.mk.inj (Option.some.inj heq)
  exact ⟨hstage, rfl, rfl, rfl, rfl⟩

/-- The step of a call that nobody waits for. -/
theorem handleLeft_spec {j : Nat} (h : step s (.handleLeft j) = some s') :
    ∃ c, s.shared.left[j]? = some c ∧ s'.procs = s.procs ∧
      s'.shared.connections = s.shared.connections ∧
      s'.shared.leftShutdowns = s.shared.leftShutdowns ∧
      (c.stage = .find ∧ s'.shared.layer = s.shared.layer ∨
        c.stage = .insert ∧
          s'.shared.layer = BalanceServer.insertItem s.shared.layer c.type c.conf) := by
  obtain ⟨c, hc, h⟩ := Option.bind_eq_some_iff.mp h
  obtain ⟨r, hr, h⟩ := Option.bind_eq_some_iff.mp h
  obtain rfl := Option.some.inj h
  refine ⟨c, hc, rfl, rfl, rfl, ?_⟩
  rcases BalanceServer.advance_eq_some hr with ⟨hfind, stage, -, rfl⟩ | ⟨hinsert, rfl⟩
  · exact .inl ⟨hfind, rfl⟩
  · exact .inr ⟨hinsert, rfl⟩

theorem handleLeftShutdown_spec {j : Nat} (h : step s (.handleLeftShutdown j) = some s') :
    ∃ key, s.shared.leftShutdowns[j]? = some key ∧ s'.procs = s.procs ∧
      s'.shared.connections = s.shared.connections ∧
      s'.shared.leftShutdowns = s.shared.leftShutdowns.eraseIdx j ∧
      s'.shared.layer = Function.update s.shared.layer key none := by
  obtain ⟨key, hkey, h⟩ := Option.bind_eq_some_iff.mp h
  obtain rfl := Option.some.inj h
  exact ⟨key, hkey, rfl, rfl, rfl, BalanceServer.shutdownOf_layer ..⟩

theorem forall_getElem?_iff {α : Type} {l : List α} {a : α} (ha : l[i]? = some a)
    {Q : α → Prop} : (∀ b, l[i]? = some b → Q b) ↔ Q a := by
  rw [ha]
  simp

theorem accurate_step_iff {e : Event} (h : Accurate s) (hstep : step s e = some s') :
    Accurate s' ↔ Orderly s e := by
  cases e with
  | start config =>
    obtain rfl := Option.some.inj hstep
    refine ⟨fun _ => trivial, fun _ key => ?_⟩
    have hnew : Server.lists key ⟨config, .checkPorts⟩ = false := Bool.and_false _
    rw [Pool.count_spawn, h key, hnew]
    rfl
  | run i ok =>
    obtain ⟨p, ⟨sh, p'⟩, hp, hrun, rfl⟩ := Pool.runProc_eq_some.mp hstep
    obtain ⟨hconfig, hran⟩ := run_spec hrun
    rw [accurate_set_iff h hp, balanced_ran_iff h hp hconfig hran]
    exact (forall_getElem?_iff (Q := fun p => p.stage.GoesOn ok) hp).symm
  | handle i =>
    obtain ⟨p, ⟨sh, p'⟩, hp, hhandle, rfl⟩ := Pool.runProc_eq_some.mp hstep
    obtain ⟨hconfig, hhandled⟩ := handle_spec hhandle
    rw [accurate_set_iff h hp, balanced_handled_iff hconfig hhandled]
    exact (forall_getElem?_iff (Q := fun p => ∀ type, p.stage = .registering type .insert →
      s.shared.layer (type, p.name) = none) hp).symm
  | handleLeft j =>
    obtain ⟨c, hc, hprocs, -, -, hlayer⟩ := handleLeft_spec hstep
    have hcount (key : Key) : s'.count (Server.lists key) = (s.shared.layer key).isSome.toNat := by
      rw [← h key]
      unfold Pool.count
      rw [hprocs]
    refine Iff.trans ?_ (forall_getElem?_iff hc).symm
    unfold Accurate
    simp only [hcount]
    rcases hlayer with ⟨hfind, hlayer⟩ | ⟨hinsert, hlayer⟩
    · rw [hlayer, hfind]
      exact ⟨fun _ hstage => (by cases hstage), fun _ _ => rfl⟩
    · rw [hlayer]
      constructor
      · intro hall _ hfree
        have hkey := hall c.key
        rw [BalanceServer.insertItem_of_free hfree, Function.update_self, hfree] at hkey
        exact absurd hkey (by simp)
      · intro htaken key
        rw [insertItem_of_some (htaken hinsert)]
  | handleLeftShutdown j =>
    obtain ⟨key, hkey, hprocs, -, -, hlayer⟩ := handleLeftShutdown_spec hstep
    have hcount (key : Key) : s'.count (Server.lists key) = (s.shared.layer key).isSome.toNat := by
      rw [← h key]
      unfold Pool.count
      rw [hprocs]
    refine Iff.trans ?_ (forall_getElem?_iff hkey).symm
    unfold Accurate
    simp only [hcount, hlayer]
    constructor
    · intro hall
      have hself := hall key
      rw [Function.update_self] at hself
      by_contra hsome
      rw [Option.isSome_iff_ne_none.mpr hsome] at hself
      exact absurd hself (by decide)
    · intro hnone key'
      rw [Function.update_eq_self_iff.mpr hnone.symm]
  | die i =>
    obtain ⟨p, ⟨sh, p'⟩, hp, hdie, rfl⟩ := Pool.runProc_eq_some.mp hstep
    rw [accurate_set_iff h hp, balanced_die_iff hdie]
    exact (forall_getElem?_iff (Q := fun p => ∀ type, p.stage.lists type = false) hp).symm
  | count i text =>
    obtain ⟨p, ⟨sh, p'⟩, hp, hcount, rfl⟩ := Pool.runProc_eq_some.mp hstep
    obtain ⟨-, rfl, hlayer, -, -⟩ := count_spec hcount
    rw [accurate_set_iff h hp]
    refine ⟨fun _ => trivial, fun _ key => ?_⟩
    rw [hlayer]

theorem accurate_init : Accurate init :=
  fun _ => rfl

/-- In every state of a run each entry of the lists has one server, exactly if no step leaves an
    entry behind or registers a name twice. -/
theorem always_accurate_iff (es : List Event) :
    Trace.Always step Accurate init es ↔ Trace.Meets step Orderly init es :=
  Trace.always_iff_meets Accurate (fun _ h => h)
    (fun _ _ _ h horderly hstep => (accurate_step_iff h hstep).mpr horderly)
    (fun _ _ _ h hnot hstep haccurate => hnot ((accurate_step_iff h hstep).mp haccurate))
    accurate_init es

/-! ## After a server has left its entry behind -/

/-- A server that is not in the list of the chatting servers and is not about to be, and has no
    requests. -/
structure Stage.Harmless (stage : Stage) : Prop where
  unlisted : stage.lists .chattingServerInstance = false
  insert : stage ≠ .registering .chattingServerInstance .insert
  counts : stage.counts = false

/-- The name has an entry and a counter, no server, and no shutdown call on its way. -/
structure Abandoned (name : String) (conf : ServerConf) (counter : Option String) (s : System) :
    Prop where
  entry : s.shared.layer (.chattingServerInstance, name) = some conf
  counter : s.shared.connections name = counter
  harmless : ∀ p ∈ s.procs, p.name = name → p.stage.Harmless
  calls : (.chattingServerInstance, name) ∉ s.shared.leftShutdowns

/-- `main` writes the counter at two places, and leaves a call only where its shutdown fails. -/
theorem run_rest (h : run ok sh p = some (sh', p')) :
    (sh'.connections = sh.connections ∨ (p.stage = .setConnections ∨ p.stage = .delConnections) ∧
      ∃ text, sh'.connections = Function.update sh.connections p.name text) ∧
    (sh'.leftShutdowns = sh.leftShutdowns ∨ ∃ type, p.stage = .shuttingDown type ∧ ok = false ∧
      sh'.leftShutdowns = sh.leftShutdowns ++ [(type, p.name)]) := by
  obtain ⟨config, stage⟩ := p
  cases stage with
  | checkPorts =>
    unfold run at h
    dsimp only at h
    split at h <;>
    · obtain ⟨rfl, -⟩ := Prod.mk.inj (Option.some.inj h)
      exact ⟨.inl rfl, .inl rfl⟩
  | registering type call =>
    cases call with
    | find | insert | shutDown => cases h
    | returned error =>
      unfold run at h
      dsimp only at h
      split at h
      · cases type with
        | chattingServerInstance | chattingGrpcServer =>
          obtain ⟨rfl, -⟩ := Prod.mk.inj (Option.some.inj h)
          exact ⟨.inl rfl, .inl rfl⟩
      · obtain ⟨rfl, -⟩ := Prod.mk.inj (Option.some.inj h)
        exact ⟨.inl rfl, .inl rfl⟩
  | acquireAtStartup | running | acquireAtShutdown =>
    obtain ⟨rfl, -⟩ := Prod.mk.inj (Option.some.inj h)
    exact ⟨.inl rfl, .inl rfl⟩
  | setConnections =>
    obtain ⟨rfl, -⟩ := Prod.mk.inj (Option.some.inj h)
    cases ok with
    | true => exact ⟨.inr ⟨.inl rfl, some "0", rfl⟩, .inl rfl⟩
    | false => exact ⟨.inl rfl, .inl rfl⟩
  | delConnections =>
    obtain ⟨rfl, -⟩ := Prod.mk.inj (Option.some.inj h)
    cases ok with
    | true => exact ⟨.inr ⟨.inr rfl, none, rfl⟩, .inl rfl⟩
    | false => exact ⟨.inl rfl, .inl rfl⟩
  | shuttingDown type =>
    cases type with
    | chattingServerInstance | chattingGrpcServer =>
      obtain ⟨rfl, -⟩ := Prod.mk.inj (Option.some.inj h)
      cases ok with
      | true => exact ⟨.inl rfl, .inl rfl⟩
      | false => exact ⟨.inl rfl, .inr ⟨_, rfl, rfl, rfl⟩⟩
  | exited => cases h

/-- A shutdown call is left only by a server that has come to it. -/
theorem run_leftShutdowns (h : run ok sh p = some (sh', p')) :
    sh'.leftShutdowns = sh.leftShutdowns ∨ ∃ type, p.stage = .shuttingDown type ∧
      sh'.leftShutdowns = sh.leftShutdowns ++ [(type, p.name)] := by
  rcases (run_rest h).2 with hsame | ⟨type, hstage, -, hmore⟩
  · exact .inl hsame
  · exact .inr ⟨type, hstage, hmore⟩

theorem die_leftShutdowns (h : die sh p = some (sh', p')) :
    sh'.leftShutdowns = sh.leftShutdowns ∨ ∃ type, p.stage = .shuttingDown type ∧
      sh'.leftShutdowns = sh.leftShutdowns ++ [(type, p.name)] := by
  unfold die at h
  split at h
  · cases h
  · obtain ⟨rfl, -⟩ := Prod.mk.inj (Option.some.inj h)
    exact .inl rfl
  · rename_i type hstage
    obtain ⟨rfl, -⟩ := Prod.mk.inj (Option.some.inj h)
    exact .inr ⟨type, hstage, rfl⟩
  · obtain ⟨rfl, -⟩ := Prod.mk.inj (Option.some.inj h)
    exact .inl rfl

/-- The balance server changes nothing but its lists. -/
theorem handle_rest (h : handle sh p = some (sh', p')) :
    sh'.connections = sh.connections ∧ sh'.leftShutdowns = sh.leftShutdowns := by
  unfold handle at h
  split at h
  · obtain ⟨r, -, heq⟩ := Option.map_eq_some_iff.mp h
    obtain ⟨rfl, -⟩ := Prod.mk.inj heq
    exact ⟨rfl, rfl⟩
  · cases h

theorem run_leftShutdowns_of_goesOn (hgoes : p.stage.GoesOn ok)
    (h : run ok sh p = some (sh', p')) : sh'.leftShutdowns = sh.leftShutdowns := by
  rcases (run_rest h).2 with hsame | ⟨type, hstage, hfails, -⟩
  · exact hsame
  · rw [hstage, hfails] at hgoes
    cases hgoes

/-- In an orderly run every shutdown call has been waited for. -/
theorem leftShutdowns_step {e : Event} (hnone : s.shared.leftShutdowns = [])
    (horderly : Orderly s e) (hstep : step s e = some s') : s'.shared.leftShutdowns = [] := by
  cases e with
  | start config =>
    obtain rfl := Option.some.inj hstep
    exact hnone
  | run i ok =>
    obtain ⟨p, ⟨sh, p'⟩, hp, hrun, rfl⟩ := Pool.runProc_eq_some.mp hstep
    exact (run_leftShutdowns_of_goesOn (horderly p hp) hrun).trans hnone
  | handle i =>
    obtain ⟨p, ⟨sh, p'⟩, -, hhandle, rfl⟩ := Pool.runProc_eq_some.mp hstep
    exact (handle_rest hhandle).2.trans hnone
  | handleLeft j =>
    obtain ⟨c, -, -, -, hleft, -⟩ := handleLeft_spec hstep
    exact hleft.trans hnone
  | handleLeftShutdown j =>
    obtain ⟨key, hkey, -⟩ := handleLeftShutdown_spec hstep
    rw [hnone] at hkey
    cases hkey
  | die i =>
    obtain ⟨p, ⟨sh, p'⟩, hp, hdie, rfl⟩ := Pool.runProc_eq_some.mp hstep
    rcases die_leftShutdowns hdie with hsame | ⟨type, hstage, -⟩
    · exact hsame.trans hnone
    · have hunlisted := horderly p hp type
      rw [hstage] at hunlisted
      cases type <;> cases hunlisted
  | count i text =>
    obtain ⟨p, ⟨sh, p'⟩, -, hcount, rfl⟩ := Pool.runProc_eq_some.mp hstep
    obtain ⟨-, -, -, hleft, -⟩ := count_spec hcount
    exact hleft.trans hnone

/-- A step of `main` is only about its own name. -/
theorem run_frame (h : run ok sh p = some (sh', p')) {name : String} (hname : name ≠ p.name) :
    (∀ type, sh'.layer (type, name) = sh.layer (type, name)) ∧
      sh'.connections name = sh.connections name := by
  constructor
  · intro type
    obtain ⟨-, hran⟩ := run_spec h
    generalize sh'.layer = layer at hran ⊢
    cases hran with
    | stays _ _ _ | drops _ _ _ _ _ => rfl
    | leaves type' _ _ _ _ =>
      exact Function.update_of_ne (fun heq => hname (Prod.mk.inj heq).2) ..
  · rcases (run_rest h).1 with heq | ⟨-, text, heq⟩
    · rw [heq]
    · rw [heq, Function.update_of_ne hname]

theorem harmless_exited : Stage.exited.Harmless :=
  ⟨rfl, by simp, rfl⟩

theorem harmless_run (hharmless : p.stage.Harmless) (h : run ok sh p = some (sh', p')) :
    sh'.layer (.chattingServerInstance, p.name) = sh.layer (.chattingServerInstance, p.name) ∧
      sh'.connections = sh.connections ∧ p'.stage.Harmless := by
  obtain ⟨config, stage⟩ := p
  obtain ⟨hunlisted, -, hcounts⟩ := hharmless
  cases stage with
  | checkPorts =>
    unfold run at h
    dsimp only at h
    split at h
    · obtain ⟨rfl, rfl⟩ := Prod.mk.inj (Option.some.inj h)
      exact ⟨rfl, rfl, harmless_exited⟩
    · obtain ⟨rfl, rfl⟩ := Prod.mk.inj (Option.some.inj h)
      exact ⟨rfl, rfl, rfl, by simp, rfl⟩
  | registering type call =>
    cases type with
    | chattingGrpcServer => cases hunlisted
    | chattingServerInstance =>
      cases call with
      | find | insert | shutDown => cases h
      | returned error =>
        have herror : error ≠ .serviceSuccess := by
          rintro rfl
          cases hunlisted
        unfold run at h
        dsimp only at h
        rw [if_neg herror] at h
        obtain ⟨rfl, rfl⟩ := Prod.mk.inj (Option.some.inj h)
        exact ⟨rfl, rfl, harmless_exited⟩
  | shuttingDown type => cases hcounts
  | acquireAtStartup | setConnections | running | acquireAtShutdown | delConnections =>
    cases hunlisted
  | exited => cases h

theorem advance_taken {layer : GrpcDataLayer} {c : BalanceServer.Call} (hfind : c.stage = .find)
    (htaken : layer c.key ≠ none) :
    BalanceServer.advance layer c =
      some (layer, { c with stage := .returned c.type.alreadyExists }) := by
  rw [BalanceServer.advance_eq_register]
  unfold BalanceServer.register
  rw [hfind]
  exact if_pos (Option.isSome_iff_ne_none.mpr htaken)

/-- The name is taken: its server is refused. -/
theorem harmless_handle (hharmless : p.stage.Harmless)
    (htaken : sh.layer (.chattingServerInstance, p.name) ≠ none)
    (h : handle sh p = some (sh', p')) : sh' = sh ∧ p'.stage.Harmless := by
  obtain ⟨config, stage⟩ := p
  obtain ⟨hunlisted, hinsert, -⟩ := hharmless
  cases stage with
  | registering type call =>
    cases type with
    | chattingGrpcServer => cases hunlisted
    | chattingServerInstance =>
      cases call with
      | find =>
        obtain ⟨r, hr, heq⟩ := Option.map_eq_some_iff.mp h
        rw [advance_taken rfl (by rw [key_call]; exact htaken)] at hr
        obtain rfl := Option.some.inj hr
        obtain ⟨rfl, rfl⟩ := Prod.mk.inj heq
        exact ⟨rfl, rfl, by simp, rfl⟩
      | insert => exact absurd rfl hinsert
      | returned error | shutDown => cases h
  | _ => cases h

theorem handle_frame (h : handle sh p = some (sh', p')) {key : Key} (hkey : sh.layer key ≠ none) :
    sh'.layer key = sh.layer key ∧ sh'.connections = sh.connections ∧
      sh'.leftShutdowns = sh.leftShutdowns := by
  refine ⟨?_, handle_rest h⟩
  obtain ⟨-, hhandled⟩ := handle_spec h
  generalize sh'.layer = layer at hhandled ⊢
  generalize p'.stage = stage at hhandled
  cases hhandled with
  | found _ _ _ _ => rfl
  | inserted type _ => exact insertItem_frame hkey

theorem abandoned_set {name : String} {conf : ServerConf} {counter : Option String}
    (h : Abandoned name conf counter s) (i : Nat)
    (hentry : sh.layer (.chattingServerInstance, name) =
      s.shared.layer (.chattingServerInstance, name))
    (hcounter : sh.connections name = s.shared.connections name)
    (hharmless : p'.name = name → p'.stage.Harmless)
    (hcalls : (.chattingServerInstance, name) ∉ sh.leftShutdowns) :
    Abandoned name conf counter ⟨sh, s.procs.set i p'⟩ := by
  refine ⟨hentry.trans h.entry, hcounter.trans h.counter, fun q hq hname => ?_, hcalls⟩
  rcases List.mem_or_eq_of_mem_set hq with hq | rfl
  · exact h.harmless q hq hname
  · exact hharmless hname

/-- No server of the name is at its shutdown calls, so none is left. -/
theorem Abandoned.calls_of_left {name : String} {conf : ServerConf} {counter : Option String}
    (h : Abandoned name conf counter s) (hp : p ∈ s.procs)
    (hleft : sh.leftShutdowns = s.shared.leftShutdowns ∨ ∃ type, p.stage = .shuttingDown type ∧
      sh.leftShutdowns = s.shared.leftShutdowns ++ [(type, p.name)]) :
    (.chattingServerInstance, name) ∉ sh.leftShutdowns := by
  rcases hleft with hsame | ⟨type, hstage, hmore⟩
  · rw [hsame]
    exact h.calls
  · rw [hmore, List.mem_append, List.mem_singleton, not_or]
    refine ⟨h.calls, fun heq => ?_⟩
    have hcounts := (h.harmless p hp (Prod.mk.inj heq).2.symm).counts
    rw [hstage] at hcounts
    cases hcounts

theorem abandoned_step {name : String} {conf : ServerConf} {counter : Option String} {e : Event}
    (h : Abandoned name conf counter s) (hstep : step s e = some s') :
    Abandoned name conf counter s' := by
  have htaken : s.shared.layer (.chattingServerInstance, name) ≠ none := by
    rw [h.entry]
    exact Option.some_ne_none _
  cases e with
  | start config =>
    obtain rfl := Option.some.inj hstep
    refine ⟨h.entry, h.counter, fun q hq hname => ?_, h.calls⟩
    rcases List.mem_append.mp hq with hq | hq
    · exact h.harmless q hq hname
    · obtain rfl := List.mem_singleton.mp hq
      exact ⟨rfl, by simp, rfl⟩
  | run i ok =>
    obtain ⟨p, ⟨sh, p'⟩, hp, hrun, rfl⟩ := Pool.runProc_eq_some.mp hstep
    have hconfig := name_of_config (run_spec hrun).1
    have hcalls := h.calls_of_left (List.mem_of_getElem? hp) (run_leftShutdowns hrun)
    by_cases hname : p.name = name
    · subst hname
      obtain ⟨hentry, hconnections, hharmless⟩ :=
        harmless_run (h.harmless p (List.mem_of_getElem? hp) rfl) hrun
      exact abandoned_set h i hentry (congrFun hconnections _) (fun _ => hharmless) hcalls
    · obtain ⟨hlayer, hconnections⟩ := run_frame hrun (Ne.symm hname)
      exact abandoned_set h i (hlayer _) hconnections
        (fun heq => absurd (hconfig.symm.trans heq) hname) hcalls
  | handle i =>
    obtain ⟨p, ⟨sh, p'⟩, hp, hhandle, rfl⟩ := Pool.runProc_eq_some.mp hstep
    have hconfig := name_of_config (handle_spec hhandle).1
    obtain ⟨hentry, hconnections, hleft⟩ := handle_frame hhandle htaken
    refine abandoned_set h i hentry (congrFun hconnections _) (fun hname => ?_) (hleft ▸ h.calls)
    have hpname := hconfig.symm.trans hname
    rw [← hpname] at htaken
    exact (harmless_handle (h.harmless p (List.mem_of_getElem? hp) hpname) htaken hhandle).2
  | handleLeft j =>
    obtain ⟨c, -, hprocs, hconnections, hleft, hlayer⟩ := handleLeft_spec hstep
    refine ⟨?_, (congrFun hconnections _).trans h.counter, by rw [hprocs]; exact h.harmless,
      hleft ▸ h.calls⟩
    rcases hlayer with ⟨-, hlayer⟩ | ⟨-, hlayer⟩
    · rw [hlayer, h.entry]
    · rw [hlayer, insertItem_frame htaken, h.entry]
  | handleLeftShutdown j =>
    obtain ⟨key, hkey, hprocs, hconnections, hleft, hlayer⟩ := handleLeftShutdown_spec hstep
    have hne : (ServerType.chattingServerInstance, name) ≠ key := by
      rintro rfl
      exact h.calls (List.mem_of_getElem? hkey)
    refine ⟨?_, (congrFun hconnections _).trans h.counter, by rw [hprocs]; exact h.harmless, ?_⟩
    · rw [hlayer, Function.update_of_ne hne, h.entry]
    · rw [hleft]
      exact fun hmem => h.calls (List.mem_of_mem_eraseIdx hmem)
  | die i =>
    obtain ⟨p, ⟨sh, p'⟩, hp, hdie, rfl⟩ := Pool.runProc_eq_some.mp hstep
    obtain ⟨-, hlayer, hconnections, hexited⟩ := die_spec hdie
    refine abandoned_set h i (congrFun hlayer _) (congrFun hconnections _) (fun _ => ?_)
      (h.calls_of_left (List.mem_of_getElem? hp) (die_leftShutdowns hdie))
    rw [hexited]
    exact harmless_exited
  | count i text =>
    obtain ⟨p, ⟨sh, p'⟩, hp, hcount, rfl⟩ := Pool.runProc_eq_some.mp hstep
    obtain ⟨hcounts, rfl, hlayer, hleft, hconnections⟩ := count_spec hcount
    have hname : name ≠ p'.name := by
      rintro rfl
      have hharmless := (h.harmless p' (List.mem_of_getElem? hp) rfl).counts
      exact absurd (hcounts.symm.trans hharmless) (by decide)
    refine abandoned_set h i (congrFun hlayer _) ?_ (fun heq => absurd heq.symm hname)
      (hleft ▸ h.calls)
    show sh.connections name = s.shared.connections name
    rw [hconnections, Function.update_of_ne hname]

/-- Server `i` exits while it is in the list of the chatting servers, and before it calls for its
    shutdown. -/
structure ExitsListed (s : System) (i : Nat) (p : Server) (m : System) : Prop where
  server : s.procs[i]? = some p
  listed : p.stage.lists .chattingServerInstance = true
  uncalled : p.stage ≠ .shuttingDown .chattingServerInstance
  exits : step s (.die i) = some m ∨ ∃ ok, step s (.run i ok) = some m
  exited : ∀ p', m.procs[i]? = some p' → p'.stage = .exited

/-- The server is not between the look at the list and the entry in it, and not on its way out. -/
structure Stage.Settled (stage : Stage) : Prop where
  insert : stage ≠ .registering .chattingServerInstance .insert
  shuttingDown : stage ≠ .shuttingDown .chattingGrpcServer

theorem Stage.Settled.harmless {stage : Stage} (h : stage.Settled)
    (hunlisted : stage.lists .chattingServerInstance = false) : stage.Harmless := by
  refine ⟨hunlisted, h.insert, ?_⟩
  cases stage with
  | checkPorts | registering _ _ | acquireAtStartup | setConnections | exited => rfl
  | running | acquireAtShutdown | delConnections => cases hunlisted
  | shuttingDown type =>
    cases type with
    | chattingServerInstance => cases hunlisted
    | chattingGrpcServer => exact absurd rfl h.shuttingDown

/-- `main` that exits while it is in the list does nothing else. -/
theorem shared_of_exits (hlisted : p.stage.lists .chattingServerInstance = true)
    (h : run ok sh p = some (sh', p')) (hexited : p'.stage = .exited) : sh' = sh := by
  obtain ⟨config, stage⟩ := p
  cases stage with
  | checkPorts | exited => cases hlisted
  | registering type call =>
    cases call with
    | find | insert | shutDown => cases h
    | returned error =>
      unfold run at h
      dsimp only at h
      split at h
      · cases type with
        | chattingServerInstance | chattingGrpcServer =>
          obtain ⟨rfl, rfl⟩ := Prod.mk.inj (Option.some.inj h)
          cases hexited
      · obtain ⟨rfl, -⟩ := Prod.mk.inj (Option.some.inj h)
        rfl
  | acquireAtStartup | acquireAtShutdown =>
    obtain ⟨rfl, -⟩ := Prod.mk.inj (Option.some.inj h)
    rfl
  | setConnections | running | delConnections =>
    obtain ⟨rfl, rfl⟩ := Prod.mk.inj (Option.some.inj h)
    cases hexited
  | shuttingDown type =>
    cases type with
    | chattingGrpcServer => cases hlisted
    | chattingServerInstance =>
      obtain ⟨rfl, rfl⟩ := Prod.mk.inj (Option.some.inj h)
      cases hexited

theorem abandoned_of_exits {m : System} (h : Accurate s) (hnone : s.shared.leftShutdowns = [])
    (hexits : ExitsListed s i p m)
    (halone : ∀ q ∈ s.procs, q.name = p.name → q.stage.Settled) :
    ∃ conf, Abandoned p.name conf (m.shared.connections p.name) m := by
  obtain ⟨hp, hlisted, huncalled, hstep, hexited⟩ := hexits
  have hlength := (List.getElem?_eq_some_iff.mp hp).1
  obtain ⟨sh, p', hlayer, hleft, hname, rfl⟩ : ∃ sh p', sh.layer = s.shared.layer ∧
      sh.leftShutdowns = [] ∧ p'.name = p.name ∧ m = ⟨sh, s.procs.set i p'⟩ := by
    rcases hstep with hstep | ⟨ok, hstep⟩
    · obtain ⟨q, ⟨sh, p'⟩, hq, hdie, rfl⟩ := Pool.runProc_eq_some.mp hstep
      obtain rfl := Option.some.inj (hp.symm.trans hq)
      obtain ⟨hconfig, hlayer, -, -⟩ := die_spec hdie
      refine ⟨sh, p', hlayer, ?_, name_of_config hconfig, rfl⟩
      rcases die_leftShutdowns hdie with hsame | ⟨type, hstage, -⟩
      · exact hsame.trans hnone
      · cases type with
        | chattingServerInstance => exact absurd hstage huncalled
        | chattingGrpcServer =>
          rw [hstage] at hlisted
          cases hlisted
    · obtain ⟨q, ⟨sh, p'⟩, hq, hrun, rfl⟩ := Pool.runProc_eq_some.mp hstep
      obtain rfl := Option.some.inj (hp.symm.trans hq)
      have hexited' := hexited p' (List.getElem?_set_self hlength)
      obtain rfl := shared_of_exits hlisted hrun hexited'
      exact ⟨_, p', rfl, hnone, name_of_config (run_spec hrun).1, rfl⟩
  have hstage := hexited p' (List.getElem?_set_self hlength)
  have hself : p.lists (.chattingServerInstance, p.name) = true := by rw [lists_self, hlisted]
  have hafter : p'.lists (.chattingServerInstance, p.name) = false := by
    unfold Server.lists
    rw [hstage]
    exact Bool.and_false _
  have hsome := isSome_of_lists h hp hself
  obtain ⟨conf, hconf⟩ := Option.isSome_iff_exists.mp hsome
  refine ⟨conf, (congrFun hlayer _).trans hconf, rfl, fun q hq hqname => ?_, by simp [hleft]⟩
  have hcount := Pool.count_set hp sh p' (Server.lists (.chattingServerInstance, p.name))
  rw [h, hsome, hself, hafter] at hcount
  have hnobody : q.lists (.chattingServerInstance, p.name) = false := by
    have hzero : Pool.count ⟨sh, s.procs.set i p'⟩
        (Server.lists (.chattingServerInstance, p.name)) = 0 := by simpa using hcount
    have hnot := List.countP_eq_zero.mp hzero q hq
    rwa [Bool.not_eq_true] at hnot
  rcases List.mem_or_eq_of_mem_set hq with hq | rfl
  · rw [← hqname, lists_self] at hnobody
    exact (halone q hq hqname).harmless hnobody
  · rw [hstage]
    exact harmless_exited

/-! ## The load balancer -/

section LoadBalancer

open BalanceServer (Redis Instances Answers connectionsOf chattingInstanceLoadBalancer)

variable {n : Nat} {redis : Redis} {servers : Instances n}

/-- The answer is an entry that no entry has fewer connections than. -/
theorem answer_least (hanswers : Answers redis servers) {conf : ServerConf}
    (h : (chattingInstanceLoadBalancer redis servers).1 = .server conf) :
    ∃ i, conf = (servers.conf i).toServerConf ∧
      ∀ j, connectionsOf redis (servers.key i) ≤ connectionsOf redis (servers.key j) := by
  cases n with
  | zero => cases h
  | succ n =>
    have hfirst : BalanceServer.Walked redis
        (servers.setConnections 0 (connectionsOf redis (servers.key 0))) 0
        (List.finRange (n + 1)) :=
      { minimum := BalanceServer.setConnections_self servers 0 _
        read := fun i hi => absurd (List.mem_finRange i) hi
        least := fun i hi => absurd (List.mem_finRange i) hi }
    obtain ⟨i, hwalk, hleast, -⟩ :=
      BalanceServer.walk_minimal (hanswers.setConnections 0 _) hfirst
    unfold chattingInstanceLoadBalancer at h
    dsimp only at h
    rw [hanswers.readConnections 0] at h
    dsimp only at h
    rw [hwalk, BalanceServer.setConnections_conf] at h
    exact ⟨i, (BalanceServer.Answer.server.inj h).symm, hleast⟩

/-- `servers` has every entry of the list. -/
def Covers (servers : Instances n) (layer : GrpcDataLayer) : Prop :=
  ∀ name, layer (.chattingServerInstance, name) ≠ none → ∃ i, servers.key i = name

/-- The entry of the name stays with nobody behind it; a server with more connections than its
    counter says gets no client. -/
structure StaysBehind (name : String) (connections : String → Option String) (s : System) :
    Prop where
  entry : s.shared.layer (.chattingServerInstance, name) ≠ none
  counter : s.shared.connections name = connections name
  nobody : ∀ p ∈ s.procs, p.name = name → p.stage.Harmless
  balancer : ∀ {n : Nat} (servers : Instances n) (redis : Redis), Covers servers s.shared.layer →
    redis.counter = s.shared.connections → Answers redis servers → ∀ conf,
      (chattingInstanceLoadBalancer redis servers).1 = .server conf →
        ∃ i, conf = (servers.conf i).toServerConf ∧
          connectionsOf redis (servers.key i) ≤ connectionsOf ⟨redis.acquire, connections⟩ name

theorem Abandoned.staysBehind {name : String} {conf : ServerConf}
    {connections : String → Option String} (h : Abandoned name conf (connections name) s) :
    StaysBehind name connections s := by
  have hentry : s.shared.layer (.chattingServerInstance, name) ≠ none := by
    rw [h.entry]
    exact Option.some_ne_none _
  refine ⟨hentry, h.counter, h.harmless, ?_⟩
  intro n servers redis hcovers hcounter hanswers conf' hanswer
  obtain ⟨i, rfl, hleast⟩ := answer_least hanswers hanswer
  obtain ⟨k, hk⟩ := hcovers name hentry
  have hle := hleast k
  have hsame : connectionsOf redis name = connectionsOf ⟨redis.acquire, connections⟩ name := by
    unfold connectionsOf
    rw [hcounter, h.counter]
  rw [hk, hsame] at hle
  exact ⟨i, rfl, hle⟩

/-- A server that exits while it is in the list, before its shutdown calls, leaves its entry behind
    for good: no server with its name ever runs again. The run has been orderly until then, and no
    server of that name is between look and entry or on its way out. -/
theorem staysBehind_of_exits {es : List Event} {m : System}
    (horderly : Trace.Meets step Orderly init es) (hs : Trace.exec step init es = some s)
    (hexits : ExitsListed s i p m)
    (halone : ∀ q ∈ s.procs, q.name = p.name → q.stage.Settled)
    (hlater : Trace.Reaches step m s') : StaysBehind p.name m.shared.connections s' := by
  have hstep : ∀ s e s', Accurate s ∧ s.shared.leftShutdowns = [] → Orderly s e →
      step s e = some s' → Accurate s' ∧ s'.shared.leftShutdowns = [] :=
    fun _ _ _ h horderly hstep => ⟨(accurate_step_iff h.1 hstep).mpr horderly,
      leftShutdowns_step h.2 horderly hstep⟩
  have halways : Trace.Always step (fun s => Accurate s ∧ s.shared.leftShutdowns = []) init es :=
    Trace.always_of_meets _ hstep ⟨accurate_init, rfl⟩ horderly
  obtain ⟨haccurate, hnone⟩ := Trace.exec_of_always halways hs
  obtain ⟨conf, habandoned⟩ := abandoned_of_exits haccurate hnone hexits halone
  exact (Trace.invariant (Abandoned p.name conf (m.shared.connections p.name))
    (fun _ _ _ => abandoned_step) habandoned hlater).staysBehind

/-- The configuration of one server. -/
def oneServer : ServerConfig :=
  ⟨"ChattingServer1", "localhost", 8090, 50051⟩

/-- One server, whose name is in the list of the chatting servers. -/
def oneListed (left : List BalanceServer.Call) (stage : Stage) : System where
  shared := ⟨BalanceServer.insertItem (fun _ => none) .chattingServerInstance
    ⟨"localhost", "8090", "ChattingServer1"⟩, fun _ => none, left, []⟩
  procs := [⟨oneServer, stage⟩]

/-- The answer to its first register call. -/
def oneReturned : BalanceServer.Stage :=
  .returned .serviceSuccess

def oneCall : BalanceServer.Call :=
  ⟨.chattingServerInstance, oneServer.info .chattingServerInstance, oneReturned⟩

/-- The server is registered as an instance and killed, then started again and refused. -/
theorem staysBehind_of_exits_killed :
    step (oneListed [] (.registering .chattingServerInstance oneReturned)) (.die 0) =
        some (oneListed [oneCall] .exited) ∧
      Trace.Reaches step (oneListed [oneCall] .exited)
        ⟨(oneListed [oneCall] .exited).shared,
          [⟨oneServer, .exited⟩, ⟨oneServer, .exited⟩]⟩ ∧
      StaysBehind "ChattingServer1" (fun _ => none)
        ⟨(oneListed [oneCall] .exited).shared,
          [⟨oneServer, .exited⟩, ⟨oneServer, .exited⟩]⟩ := by
  have horderly : Trace.Meets step Orderly init
      [.start oneServer, .run 0 true, .handle 0, .handle 0] := by
    refine (Trace.meets_cons_of_some step rfl).mpr ⟨trivial, ?_⟩
    refine (Trace.meets_cons_of_some step rfl).mpr ⟨fun p hp => ?_, ?_⟩
    · obtain rfl := Option.some.inj hp
      trivial
    refine (Trace.meets_cons_of_some step rfl).mpr ⟨fun p hp type htype => ?_, ?_⟩
    · obtain rfl := Option.some.inj hp
      cases htype
    refine (Trace.meets_cons_of_some step rfl).mpr ⟨fun p hp type htype => ?_, trivial⟩
    obtain rfl := Option.some.inj hp
    rfl
  have hexits : ExitsListed
      (oneListed [] (.registering .chattingServerInstance oneReturned)) 0
      ⟨oneServer, .registering .chattingServerInstance oneReturned⟩
      (oneListed [oneCall] .exited) := by
    refine ⟨rfl, rfl, by simp, .inl rfl, fun p' hp' => ?_⟩
    obtain rfl := Option.some.inj hp'
    rfl
  have hlater : Trace.Reaches step (oneListed [oneCall] .exited)
      ⟨(oneListed [oneCall] .exited).shared,
        [⟨oneServer, .exited⟩, ⟨oneServer, .exited⟩]⟩ :=
    ⟨[.start oneServer, .run 1 true, .handle 1, .run 1 true], rfl⟩
  refine ⟨rfl, hlater, staysBehind_of_exits horderly rfl hexits (fun q hq _ => ?_) hlater⟩
  obtain rfl := List.mem_singleton.mp hq
  exact ⟨by simp, by simp⟩

end LoadBalancer

end DistributedIM.Protocol.ServerLifecycle
