/-
  Registration of the chatting servers on the balance server: the maps of `GrpcDataLayer`, and
  `RegisterInstance`, `RegisterGrpc`, `ShutdownInstance` and `ShutdownGrpc` of `GrpcChattingImpl`.

  A register call looks for the name and then inserts, each as one atomic step of the map, and other
  calls may run in between. The insertion does not replace an entry, and what it returns is not
  looked at.

  `exclusivelyRegistered_iff`: along a run each name has at most one registered server, and its
  record, exactly if no call inserts a name that is taken.
-/
import Mathlib.Logic.Function.Basic
import DistributedIM.Lib.Exclusive
import DistributedIM.Lib.Interleave
import DistributedIM.Lib.Trace

namespace DistributedIM.BalanceServer

/-! ## The maps -/

/-- `SERVER_TYPE` of the chatting servers. -/
inductive ServerType
  | chattingServerInstance
  | chattingGrpcServer
  deriving DecidableEq, Repr

/-- The `ServiceStatus`es of the responses. -/
inductive ServiceStatus
  | serviceSuccess
  | grpcServerNotExists
  | grpcServerAlreadyExists
  | chattingServerNotExists
  | chattingServerAlreadyExists
  deriving DecidableEq, Repr

/-- `ServerInstanceConf`, `GRPCServerConf` -/
structure ServerConf where
  host : String
  port : String
  name : String
  deriving DecidableEq, Repr

/-- `message::ServerInfo` -/
structure ServerInfo where
  name : String
  host : String
  port : String
  deriving DecidableEq, Repr

abbrev Key := ServerType × String

/-- A map from server names for each type. -/
abbrev GrpcDataLayer := Key → Option ServerConf

def findItemFromServer (layer : GrpcDataLayer) (serverName : String) (type : ServerType) : Bool :=
  (layer (type, serverName)).isSome

def removeItemFromServer (layer : GrpcDataLayer) (serverName : String) (type : ServerType) :
    Bool × GrpcDataLayer :=
  if (layer (type, serverName)).isSome then
    (true, Function.update layer (type, serverName) none)
  else (false, layer)

/-- `insert` of the map of the type: an entry stays as it is. -/
def insertItem (layer : GrpcDataLayer) (type : ServerType) (conf : ServerConf) : GrpcDataLayer :=
  match layer (type, conf.name) with
  | some _ => layer
  | none => Function.update layer (type, conf.name) (some conf)

/-! ## The calls -/

/-- Where a register call is. -/
inductive Stage
  | find
  | insert
  | returned (error : ServiceStatus)
  /-- returned without an error, and the server has been shut down since -/
  | shutDown
  deriving DecidableEq, Repr

structure Call where
  type : ServerType
  info : ServerInfo
  stage : Stage
  deriving DecidableEq, Repr

def Call.key (c : Call) : Key :=
  (c.type, c.info.name)

def Call.conf (c : Call) : ServerConf :=
  ⟨c.info.host, c.info.port, c.info.name⟩

/-- The next step of a register call. The error of a new response is 0. -/
def register (type : ServerType) (alreadyExists : ServiceStatus) (layer : GrpcDataLayer)
    (c : Call) : Option (GrpcDataLayer × Call) :=
  match c.stage with
  | .find =>
    if findItemFromServer layer c.info.name type then
      some (layer, { c with stage := .returned alreadyExists })
    else some (layer, { c with stage := .insert })
  | .insert => some (insertItem layer type c.conf, { c with stage := .returned .serviceSuccess })
  | _ => none

def registerInstance : GrpcDataLayer → Call → Option (GrpcDataLayer × Call) :=
  register .chattingServerInstance .chattingServerAlreadyExists

def registerGrpc : GrpcDataLayer → Call → Option (GrpcDataLayer × Call) :=
  register .chattingGrpcServer .grpcServerAlreadyExists

def advance (layer : GrpcDataLayer) (c : Call) : Option (GrpcDataLayer × Call) :=
  match c.type with
  | .chattingServerInstance => registerInstance layer c
  | .chattingGrpcServer => registerGrpc layer c

/-- A shutdown call, with its response. -/
def shutdown (type : ServerType) (notExists : ServiceStatus) (layer : GrpcDataLayer)
    (curServer : String) : ServiceStatus × GrpcDataLayer :=
  let (status, layer) := removeItemFromServer layer curServer type
  (if status then .serviceSuccess else notExists, layer)

def shutdownInstance : GrpcDataLayer → String → ServiceStatus × GrpcDataLayer :=
  shutdown .chattingServerInstance .chattingServerNotExists

def shutdownGrpc : GrpcDataLayer → String → ServiceStatus × GrpcDataLayer :=
  shutdown .chattingGrpcServer .grpcServerNotExists

/-- The shutdown of the type. -/
def shutdownOf : ServerType → GrpcDataLayer → String → ServiceStatus × GrpcDataLayer
  | .chattingServerInstance => shutdownInstance
  | .chattingGrpcServer => shutdownGrpc

/-- The server that the call has registered is shut down. -/
def Call.endRegistration (key : Key) (c : Call) : Call :=
  if c.key = key ∧ c.stage = .returned .serviceSuccess then { c with stage := .shutDown } else c

/-- The maps and the register calls. -/
abbrev Registry := Pool GrpcDataLayer Call

def init : Registry where
  shared _ := none
  procs := []

inductive Event
  | register (type : ServerType) (info : ServerInfo)
  /-- a register call takes its next step -/
  | run (i : Nat)
  | shutdown (type : ServerType) (curServer : String)
  deriving DecidableEq, Repr

def step (s : Registry) : Event → Option Registry
  | .register type info => some (s.spawn ⟨type, info, .find⟩)
  | .run i => s.runProc advance i
  | .shutdown type curServer =>
    some
      { shared := (shutdownOf type s.shared curServer).2
        procs := s.procs.map (Call.endRegistration (type, curServer)) }

/-! ## Exclusive registration -/

/-- Call `i` has registered the key, with a response that says no error. -/
def Holds (s : Registry) (i : Nat) (key : Key) : Prop :=
  ∃ c, s.procs[i]? = some c ∧ c.stage = .returned .serviceSuccess ∧ c.key = key

/-- Each key has at most one registered call, and the record under it is that call's. -/
structure ExclusivelyRegistered (s : Registry) : Prop where
  exclusive : Exclusive (Holds s)
  record : ∀ c ∈ s.procs, c.stage = .returned .serviceSuccess →
    ∃ conf, s.shared c.key = some conf ∧ conf.host = c.info.host ∧ conf.port = c.info.port

/-- A call that inserts finds its name free. -/
def InsertsFree (s : Registry) : Event → Prop
  | .run i => ∀ c, s.procs[i]? = some c → c.stage = .insert → s.shared c.key = none
  | _ => True

/-! ## Steps -/

variable {s s' : Registry}

@[simp] theorem conf_name (c : Call) : c.conf.name = c.info.name := rfl

theorem insertItem_of_free {layer : GrpcDataLayer} {c : Call} (h : layer c.key = none) :
    insertItem layer c.type c.conf = Function.update layer c.key (some c.conf) := by
  unfold Call.key at h
  simp only [insertItem, conf_name, h]
  rfl

theorem shutdownOf_layer (type : ServerType) (layer : GrpcDataLayer) (curServer : String) :
    (shutdownOf type layer curServer).2 = Function.update layer (type, curServer) none := by
  have hremove : (removeItemFromServer layer curServer type).2 =
      Function.update layer (type, curServer) none := by
    unfold removeItemFromServer
    split
    · rfl
    · rename_i hnone
      rw [Option.not_isSome_iff_eq_none] at hnone
      rw [← hnone, Function.update_eq_self]
  cases type with
  | chattingServerInstance => exact hremove
  | chattingGrpcServer => exact hremove

/-- The error of a name that is taken. -/
def ServerType.alreadyExists : ServerType → ServiceStatus
  | .chattingServerInstance => .chattingServerAlreadyExists
  | .chattingGrpcServer => .grpcServerAlreadyExists

theorem alreadyExists_ne (type : ServerType) : type.alreadyExists ≠ .serviceSuccess := by
  cases type <;> decide

/-- The calls of both types run the same steps. -/
theorem advance_eq_register (layer : GrpcDataLayer) (c : Call) :
    advance layer c = register c.type c.type.alreadyExists layer c := by
  unfold advance
  cases c.type with
  | chattingServerInstance => rfl
  | chattingGrpcServer => rfl

theorem advance_eq_some {layer : GrpcDataLayer} {c : Call} {r : GrpcDataLayer × Call}
    (h : advance layer c = some r) :
    (c.stage = .find ∧ ∃ stage, (stage = .insert ∨ stage = .returned c.type.alreadyExists) ∧
      r = (layer, { c with stage := stage })) ∨
    (c.stage = .insert ∧
      r = (insertItem layer c.type c.conf, { c with stage := .returned .serviceSuccess })) := by
  rw [advance_eq_register] at h
  unfold register at h
  split at h
  · rename_i hfind
    refine Or.inl ⟨hfind, ?_⟩
    split at h
    · exact ⟨.returned c.type.alreadyExists, Or.inr rfl, (Option.some.inj h).symm⟩
    · exact ⟨.insert, Or.inl rfl, (Option.some.inj h).symm⟩
  · rename_i hinsert
    exact Or.inr ⟨hinsert, (Option.some.inj h).symm⟩
  · cases h

/-- Every step but an insertion leaves the records it does not remove, and registers nobody. -/
theorem step_cases {e : Event} (hstep : step s e = some s') :
    (∃ type info, e = .register type info ∧ s' = s.spawn ⟨type, info, .find⟩) ∨
    (∃ i c stage, e = .run i ∧ s.procs[i]? = some c ∧ c.stage = .find ∧
      (stage = .insert ∨ stage = .returned c.type.alreadyExists) ∧
      s' = ⟨s.shared, s.procs.set i { c with stage := stage }⟩) ∨
    (∃ i c, e = .run i ∧ s.procs[i]? = some c ∧ c.stage = .insert ∧
      s' = ⟨insertItem s.shared c.type c.conf,
        s.procs.set i { c with stage := .returned .serviceSuccess }⟩) ∨
    ∃ key, e = .shutdown key.1 key.2 ∧
      s' = ⟨Function.update s.shared key none, s.procs.map (Call.endRegistration key)⟩ := by
  cases e with
  | register type info => exact Or.inl ⟨type, info, rfl, (Option.some.inj hstep).symm⟩
  | run i =>
    obtain ⟨c, r, hc, hr, rfl⟩ := Pool.runProc_eq_some.mp hstep
    rcases advance_eq_some hr with ⟨hfind, stage, hstage, rfl⟩ | ⟨hinsert, rfl⟩
    · exact Or.inr (Or.inl ⟨i, c, stage, rfl, hc, hfind, hstage, rfl⟩)
    · exact Or.inr (Or.inr (Or.inl ⟨i, c, rfl, hc, hinsert, rfl⟩))
  | shutdown type curServer =>
    obtain rfl := Option.some.inj hstep
    refine Or.inr (Or.inr (Or.inr ⟨(type, curServer), rfl, ?_⟩))
    rw [shutdownOf_layer]

/-! ## Who is registered -/

theorem holds_spawn (type : ServerType) (info : ServerInfo) (i : Nat) (key : Key) :
    Holds (s.spawn ⟨type, info, .find⟩) i key ↔ Holds s i key := by
  simp only [Holds, Pool.spawn, List.getElem?_append]
  split
  · exact Iff.rfl
  · rename_i hi
    rw [List.getElem?_eq_none (Nat.not_lt.mp hi), List.getElem?_singleton]
    constructor
    · rintro ⟨c, hc, hstage, -⟩
      obtain ⟨-, heq⟩ := Option.ite_none_right_eq_some.mp hc
      obtain rfl := Option.some.inj heq
      cases hstage
    · rintro ⟨c, hc, -⟩
      cases hc

/-- After call `i`, which was not registered, has changed its stage. -/
theorem holds_set (layer : GrpcDataLayer) {i : Nat} {c : Call} (hc : s.procs[i]? = some c)
    (hbefore : c.stage ≠ .returned .serviceSuccess) (stage : Stage) (j : Nat) (key : Key) :
    Holds ⟨layer, s.procs.set i { c with stage := stage }⟩ j key ↔
      Holds s j key ∨ stage = .returned .serviceSuccess ∧ j = i ∧ key = c.key := by
  obtain ⟨hi, -⟩ := List.getElem?_eq_some_iff.mp hc
  unfold Holds
  by_cases hj : i = j
  · subst hj
    simp only [List.getElem?_set_self hi, hc, Option.some.injEq, exists_eq_left']
    simp [hbefore, Call.key, eq_comm]
  · simp [List.getElem?_set_ne hj, Ne.symm hj]

theorem endRegistration_stage {key : Key} {c : Call} :
    (c.endRegistration key).stage = .returned .serviceSuccess ↔
      c.stage = .returned .serviceSuccess ∧ c.key ≠ key := by
  unfold Call.endRegistration
  split
  · rename_i h
    simp [h.1]
  · rename_i h
    constructor
    · intro hstage
      exact ⟨hstage, fun hkey => h ⟨hkey, hstage⟩⟩
    · intro hstage
      exact hstage.1

@[simp] theorem endRegistration_info (key : Key) (c : Call) :
    (c.endRegistration key).info = c.info := by
  unfold Call.endRegistration
  split <;> rfl

@[simp] theorem endRegistration_key (key : Key) (c : Call) :
    (c.endRegistration key).key = c.key := by
  unfold Call.endRegistration
  split <;> rfl

theorem holds_shutdown (layer : GrpcDataLayer) (key : Key) (i : Nat) (k : Key) :
    Holds ⟨layer, s.procs.map (Call.endRegistration key)⟩ i k ↔ Holds s i k ∧ k ≠ key := by
  simp only [Holds, List.getElem?_map, Option.map_eq_some_iff]
  constructor
  · rintro ⟨-, ⟨c, hc, rfl⟩, hstage, hkey⟩
    obtain ⟨hstage, hne⟩ := endRegistration_stage.mp hstage
    rw [endRegistration_key] at hkey
    exact ⟨⟨c, hc, hstage, hkey⟩, hkey ▸ hne⟩
  · rintro ⟨⟨c, hc, hstage, hkey⟩, hne⟩
    refine ⟨c.endRegistration key, ⟨c, hc, rfl⟩, ?_, ?_⟩
    · exact endRegistration_stage.mpr ⟨hstage, hkey ▸ hne⟩
    · rw [endRegistration_key, hkey]

/-! ## The invariant -/

/-- Registration is exclusive, and each record is that of a registered call. -/
structure Inv (s : Registry) : Prop where
  exclusivelyRegistered : ExclusivelyRegistered s
  registered : ∀ key, s.shared key ≠ none → ∃ i, Holds s i key

theorem inv_init : Inv init where
  exclusivelyRegistered :=
    { exclusive := by
        rintro key i j ⟨c, hc, -⟩
        cases hc
      record := fun c hc => absurd hc List.not_mem_nil }
  registered _ h := absurd rfl h

/-- A registered call has a record. -/
theorem Inv.taken (h : Inv s) {i : Nat} {key : Key} (hi : Holds s i key) : s.shared key ≠ none := by
  obtain ⟨c, hc, hstage, rfl⟩ := hi
  obtain ⟨conf, hconf, -⟩ := h.exclusivelyRegistered.record c (List.mem_of_getElem? hc) hstage
  rw [hconf]
  exact Option.some_ne_none conf

/-- A step that changes neither the records nor who is registered. -/
theorem Inv.keep (h : Inv s) (hshared : s'.shared = s.shared)
    (hholds : ∀ i key, Holds s' i key ↔ Holds s i key)
    (hprocs : ∀ c ∈ s'.procs, c.stage = .returned .serviceSuccess → c ∈ s.procs) : Inv s' where
  exclusivelyRegistered :=
    { exclusive := h.exclusivelyRegistered.exclusive.mono fun i key => (hholds i key).mp
      record := by
        intro c hc hstage
        rw [hshared]
        exact h.exclusivelyRegistered.record c (hprocs c hc hstage) hstage }
  registered := by
    intro key hkey
    rw [hshared] at hkey
    obtain ⟨i, hi⟩ := h.registered key hkey
    exact ⟨i, (hholds i key).mpr hi⟩

theorem Inv.shutdown (h : Inv s) (key : Key) :
    Inv ⟨Function.update s.shared key none, s.procs.map (Call.endRegistration key)⟩ where
  exclusivelyRegistered :=
    { exclusive := h.exclusivelyRegistered.exclusive.mono fun i k hi =>
        ((holds_shutdown _ key i k).mp hi).1
      record := by
        intro c hc hstage
        obtain ⟨c, hold, rfl⟩ := List.mem_map.mp hc
        obtain ⟨hstage, hne⟩ := endRegistration_stage.mp hstage
        simp only [endRegistration_key, endRegistration_info, Function.update_of_ne hne]
        exact h.exclusivelyRegistered.record c hold hstage }
  registered := by
    intro k hk
    by_cases heq : k = key
    · subst heq
      exact absurd (Function.update_self ..) hk
    · simp only [Function.update_of_ne heq] at hk
      obtain ⟨i, hi⟩ := h.registered k hk
      exact ⟨i, (holds_shutdown _ key i k).mpr ⟨hi, heq⟩⟩

/-- Call `i` has inserted its record. -/
theorem Inv.insert (h : Inv s) {i : Nat} {c : Call} (hc : s.procs[i]? = some c)
    (hinsert : c.stage = .insert) (hfree : s.shared c.key = none) :
    Inv ⟨insertItem s.shared c.type c.conf,
      s.procs.set i { c with stage := .returned .serviceSuccess }⟩ := by
  have hstage : c.stage ≠ .returned .serviceSuccess := by
    rw [hinsert]
    exact Stage.noConfusion
  have hholds := holds_set (Function.update s.shared c.key (some c.conf)) hc hstage
    (.returned .serviceSuccess)
  rw [insertItem_of_free hfree]
  constructor
  · constructor
    · intro key j k hj hk
      rcases (hholds j key).mp hj with hj | ⟨-, rfl, hkeyj⟩
      · rcases (hholds k key).mp hk with hk | ⟨-, -, hkeyk⟩
        · exact h.exclusivelyRegistered.exclusive key j k hj hk
        · exact absurd hfree (hkeyk ▸ h.taken hj)
      · rcases (hholds k key).mp hk with hk | ⟨-, rfl, -⟩
        · exact absurd hfree (hkeyj ▸ h.taken hk)
        · rfl
    · intro c' hc' hstage'
      rcases List.mem_or_eq_of_mem_set hc' with hold | rfl
      · obtain ⟨j, hj⟩ := List.getElem?_of_mem hold
        have hne : c'.key ≠ c.key := fun heq => h.taken ⟨c', hj, hstage', rfl⟩ (heq ▸ hfree)
        simp only [Function.update_of_ne hne]
        exact h.exclusivelyRegistered.record c' hold hstage'
      · exact ⟨c.conf, Function.update_self .., rfl, rfl⟩
  · intro key hkey
    by_cases heq : key = c.key
    · exact ⟨i, (hholds i key).mpr (Or.inr ⟨rfl, rfl, heq⟩)⟩
    · simp only [Function.update_of_ne heq] at hkey
      obtain ⟨j, hj⟩ := h.registered key hkey
      exact ⟨j, (hholds j key).mpr (Or.inl hj)⟩

theorem inv_step {e : Event} (h : Inv s) (hfree : InsertsFree s e) (hstep : step s e = some s') :
    Inv s' := by
  rcases step_cases hstep with ⟨type, info, -, rfl⟩ | ⟨i, c, stage, -, hc, hfind, hstage, rfl⟩ |
    ⟨i, c, rfl, hc, hinsert, rfl⟩ | ⟨key, -, rfl⟩
  · refine h.keep rfl (holds_spawn type info) ?_
    intro c hc hstage
    rcases List.mem_append.mp hc with hold | hnew
    · exact hold
    · rw [List.mem_singleton.mp hnew] at hstage
      cases hstage
  · have hbefore : c.stage ≠ .returned .serviceSuccess := by
      rw [hfind]
      exact Stage.noConfusion
    have hstage : stage ≠ .returned .serviceSuccess := by
      rcases hstage with rfl | rfl
      · exact Stage.noConfusion
      · exact fun heq => alreadyExists_ne c.type (Stage.returned.inj heq)
    refine h.keep rfl (fun j key => ?_) ?_
    · rw [holds_set _ hc hbefore]
      simp [hstage]
    · intro c' hc' hstage'
      rcases List.mem_or_eq_of_mem_set hc' with hold | rfl
      · exact hold
      · exact absurd hstage' hstage
  · exact h.insert hc hinsert (hfree c hc hinsert)
  · exact h.shutdown key

/-- The second insertion of a name registers a second server. -/
theorem not_exclusivelyRegistered_of_taken {e : Event} (h : Inv s) (htaken : ¬InsertsFree s e)
    (hstep : step s e = some s') : ¬ExclusivelyRegistered s' := by
  rcases step_cases hstep with ⟨type, info, rfl, -⟩ | ⟨i, c, stage, rfl, hc, hfind, -, -⟩ |
    ⟨i, c, rfl, hc, hinsert, rfl⟩ | ⟨key, rfl, -⟩
  · exact absurd trivial htaken
  · refine absurd (fun c' hc' hinsert => ?_) htaken
    obtain rfl := Option.some.inj (hc.symm.trans hc')
    rw [hfind] at hinsert
    cases hinsert
  · have hkey : s.shared c.key ≠ none := by
      intro hfree
      refine htaken fun c' hc' _ => ?_
      obtain rfl := Option.some.inj (hc.symm.trans hc')
      exact hfree
    have hstage : c.stage ≠ .returned .serviceSuccess := by
      rw [hinsert]
      exact Stage.noConfusion
    obtain ⟨j, hj⟩ := h.registered c.key hkey
    have hholds := holds_set (insertItem s.shared c.type c.conf) hc hstage
      (.returned .serviceSuccess)
    intro hexclusive
    obtain rfl := hexclusive.exclusive c.key i j ((hholds i c.key).mpr (Or.inr ⟨rfl, rfl, rfl⟩))
      ((hholds j c.key).mpr (Or.inl hj))
    obtain ⟨c', hc', hstage', -⟩ := hj
    obtain rfl := Option.some.inj (hc.symm.trans hc')
    exact hstage hstage'
  · exact absurd trivial htaken

/-! ## The runs -/

/-- Registration is exclusive in every state of a run exactly if every insertion of the run finds
    its name free. -/
theorem exclusivelyRegistered_iff (es : List Event) :
    Trace.Always step ExclusivelyRegistered init es ↔ Trace.Meets step InsertsFree init es :=
  Trace.always_iff_meets Inv (fun _ h => h.exclusivelyRegistered)
    (fun _ _ _ h hfree hstep => inv_step h hfree hstep)
    (fun _ _ _ h htaken hstep => not_exclusivelyRegistered_of_taken h htaken hstep) inv_init es

/-- Two servers of one name that both look for it before either inserts. -/
def race : List Event :=
  [.register .chattingServerInstance ⟨"im1", "10.0.0.1", "8090"⟩,
    .register .chattingServerInstance ⟨"im1", "10.0.0.2", "8090"⟩,
    .run 0, .run 1, .run 0, .run 1]

/-- Both are told that they are registered. -/
theorem not_exclusivelyRegistered_race :
    ¬∀ es, Trace.Always step ExclusivelyRegistered init es := by
  intro h
  have hrace : Trace.exec step init race = some
      ⟨insertItem (insertItem init.shared .chattingServerInstance ⟨"10.0.0.1", "8090", "im1"⟩)
          .chattingServerInstance ⟨"10.0.0.2", "8090", "im1"⟩,
        [⟨.chattingServerInstance, ⟨"im1", "10.0.0.1", "8090"⟩, .returned .serviceSuccess⟩,
          ⟨.chattingServerInstance, ⟨"im1", "10.0.0.2", "8090"⟩, .returned .serviceSuccess⟩]⟩ := rfl
  have hexclusive := (Trace.exec_of_always (h race) hrace).exclusive
  have heq : 0 = 1 := hexclusive (.chattingServerInstance, "im1") 0 1
    ⟨_, rfl, rfl, rfl⟩ ⟨_, rfl, rfl, rfl⟩
  cases heq

end DistributedIM.BalanceServer
