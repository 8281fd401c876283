/-
  The descriptors of the gateway server. A connection whose response has been written has its timer
  cancelled, and with it goes the only thing that would close the socket: the session stays in the
  map, for `terminateSession` is called for sessions that are not there.

  `sessions_kept`: no session leaves the map. `acceptsAgain_iff`: the server is able to accept one
  more connection, at some time, exactly if fewer timers have been cancelled than it has
  descriptors for.
-/
import DistributedIM.GatewayServer.HttpServer
import DistributedIM.Lib.Interleave
import Mathlib.Data.List.Nodup

namespace DistributedIM.GatewayServer.HttpServer

variable {sql : Collation} {boost : Boost} {limit : Nat} {t : Authentication sql}
  {s s' : GateServer sql}

/-! ## What is counted -/

/-- The handler of the timer is not going to run. -/
def isCancelled (c : Connection) : Bool :=
  c.timer = .cancelled

def isWaiting (c : Connection) : Bool :=
  c.timer = .waiting

def isHandling (c : Connection) : Bool :=
  c.stage.isHandling

/-- How many timers have been cancelled. -/
def cancelled (s : GateServer sql) : Nat :=
  s.connections.countP isCancelled

/-- The uuid of the session that `handleAccept` is busy with. -/
def HandleAccept.uuids : HandleAccept → List Nat
  | .checkTimeout uuid _ | .insert uuid _ => [uuid]
  | _ => []

/-- How much of `handleAccept` is left. -/
def HandleAccept.rest : HandleAccept → Nat
  | .idle => 0
  | .serverStart => 1
  | .insert _ _ => 2
  | .checkTimeout _ _ => 3

/-- The uuids that the generator has given, as far as sessions have them. -/
def uuids (s : GateServer sql) : List Nat :=
  s.accepting ++ (s.handler.uuids ++ s.sessions.map Prod.fst)

/-- Connection `i` has its session in the map, or `handleAccept` holds it. -/
def Owned (s : GateServer sql) (i : Nat) : Prop :=
  (∃ uuid, (uuid, i) ∈ s.sessions) ∨ ∃ uuid, s.handler = .checkTimeout uuid i ∨
    s.handler = .insert uuid i

namespace Descriptors

structure Inv (s : GateServer sql) : Prop where
  /-- only the timer closes a socket -/
  sockets : ∀ c ∈ s.connections, c.isOpen = true ↔ c.timer ≠ .fired
  unset : ∀ i c, s.connections[i]? = some c →
    (c.timer = .unset ↔ ∃ uuid, s.handler = .checkTimeout uuid i)
  accepting : s.handler = .idle → s.accepting ≠ []
  nodup : (uuids s).Nodup
  fresh : ∀ uuid ∈ uuids s, uuid < s.nextUuid
  owned : ∀ i < s.connections.length, Owned s i
  returns : ∀ callback ∈ s.gateway.callbacks, throws callback = false

theorem inv_start (t : Authentication sql) : Inv (start t) where
  sockets := fun c hc => absurd hc List.not_mem_nil
  unset := fun i c hi => by simp [start] at hi
  accepting := fun _ => List.cons_ne_nil 0 [1]
  nodup := by
    show [0, 1].Nodup
    decide
  fresh := by
    show ∀ uuid ∈ [0, 1], uuid < 2
    decide
  owned := fun i hi => absurd hi (Nat.not_lt_zero i)
  returns := fun c hc => absurd hc List.not_mem_nil

/-- A session that is not in the map is not terminated. -/
theorem terminateSession_eq {uuid : Nat} (h : uuid ∉ s.sessions.map Prod.fst) :
    s.terminateSession uuid = s := by
  unfold GateServer.terminateSession
  split
  · rename_i i hfind
    have hmem := List.mem_of_find?_eq_some hfind
    have heq := List.find?_some hfind
    rw [decide_eq_true_eq] at heq
    exact absurd (List.mem_map.mpr ⟨_, hmem, heq⟩) h
  · rfl

/-- The uuid of an accept is not in the map yet. -/
theorem terminateSession_accepting (h : Inv s) {uuid : Nat} {accepting : List Nat}
    (haccepting : s.accepting = uuid :: accepting) : s.terminateSession uuid = s := by
  have hnodup := h.nodup
  unfold uuids at hnodup
  rw [haccepting] at hnodup
  obtain ⟨huuid, -⟩ := List.nodup_cons.mp hnodup
  exact terminateSession_eq fun hmem =>
    huuid (List.mem_append_right _ (List.mem_append_right _ hmem))

theorem uuids_of_handler {handler : HandleAccept} (hhandler : s.handler = handler) :
    uuids s = s.accepting ++ (handler.uuids ++ s.sessions.map Prod.fst) := by
  unfold uuids
  rw [hhandler]

/-- `handleAccept` holds no connection: all of them have their sessions in the map. -/
theorem exists_session (h : Inv s) (hnone : s.handler.uuids = []) {i : Nat}
    (hi : i < s.connections.length) : ∃ uuid, (uuid, i) ∈ s.sessions := by
  rcases h.owned i hi with hmap | ⟨uuid, hhandler | hhandler⟩
  · exact hmap
  · rw [hhandler] at hnone
    cases hnone
  · rw [hhandler] at hnone
    cases hnone

/-- `handleAccept` is not about to set a timer: all of them are set. -/
theorem timer_ne_unset (h : Inv s) (hset : ∀ uuid i, s.handler ≠ .checkTimeout uuid i) {i : Nat}
    {c : Connection} (hi : s.connections[i]? = some c) : c.timer ≠ .unset := by
  intro hunset
  obtain ⟨uuid, hhandler⟩ := (h.unset i c hi).mp hunset
  exact hset uuid i hhandler

theorem idle_of_free (h : s.busy 0 = false) : s.handler = .idle := by
  unfold GateServer.busy at h
  simp only [decide_true, Bool.true_and, Bool.or_eq_false_iff, decide_eq_false_iff_not,
    not_not] at h
  exact h.1

/-- A connection changes whose socket is still what its timer says. -/
theorem inv_setConnection (h : Inv s) {i : Nat} {c c' : Connection}
    (hi : s.connections[i]? = some c) (hsocket : c'.isOpen = true ↔ c'.timer ≠ .fired)
    (hunset : c'.timer = .unset ↔ c.timer = .unset) : Inv (s.setConnection i c') where
  sockets := by
    intro d hd
    rcases List.mem_or_eq_of_mem_set hd with hold | rfl
    · exact h.sockets d hold
    · exact hsocket
  unset := by
    intro j d hj
    change (s.connections.set i c')[j]? = some d at hj
    by_cases hij : i = j
    · subst hij
      rw [List.getElem?_set_self (List.getElem?_eq_some_iff.mp hi).1] at hj
      obtain rfl := Option.some.inj hj
      exact hunset.trans (h.unset i c hi)
    · rw [List.getElem?_set_ne hij] at hj
      exact h.unset j d hj
  accepting := h.accepting
  nodup := h.nodup
  fresh := h.fresh
  owned := fun j hj => h.owned j (by simpa [GateServer.setConnection] using hj)
  returns := h.returns

theorem inv_gateway (h : Inv s) {g : Gateway sql}
    (hreturns : ∀ callback ∈ g.callbacks, throws callback = false) :
    Inv { s with gateway := g } :=
  ⟨h.sockets, h.unset, h.accepting, h.nodup, h.fresh, h.owned, hreturns⟩

/-- No callback throws later on. -/
theorem run_returns {statement : Statement} {table table' : Authentication sql}
    {callback callback' : Callback} {request : Option MySQLRequestStruct}
    (hrun : callback.run statement table = some (table', callback', request)) :
    throws callback' = false := by
  unfold Callback.run at hrun
  split at hrun <;> simp only [Option.some.injEq, Prod.mk.injEq, reduceCtorEq] at hrun <;>
    obtain ⟨-, rfl, -⟩ := hrun
  · split <;> rfl
  · rfl
  · split <;> rfl
  · split <;> rfl
  · split <;> rfl
  · rfl
  · split <;> rfl
  · split <;> rfl

theorem gateway_run_returns {g g' : Gateway sql} {j : Nat} {statement : Statement}
    (h : ∀ callback ∈ g.callbacks, throws callback = false)
    (hrun : g.run j statement = some g') : ∀ callback ∈ g'.callbacks, throws callback = false := by
  obtain ⟨callback, hj, hmap⟩ := Option.bind_eq_some_iff.mp hrun
  obtain ⟨⟨table, callback', request⟩, hcallback, rfl⟩ := Option.map_eq_some_iff.mp hmap
  intro found hfound
  rcases List.mem_or_eq_of_mem_set hfound with hold | rfl
  · exact h found hold
  · exact run_returns hcallback

theorem inv_processed (h : Inv s) {i : Nat} {c c' : Connection} {request : HttpRequest}
    {checkValue : String → Option String} (hi : s.connections[i]? = some c)
    (htimer : c'.timer = c.timer) (hopen : c'.isOpen = c.isOpen)
    (hprocessed : Processed boost s i c' request checkValue s') : Inv s' := by
  have hsocket : c'.isOpen = true ↔ c'.timer ≠ .fired := by
    rw [hopen, htimer]
    exact h.sockets c (List.mem_of_getElem? hi)
  have hunset : c'.timer = .unset ↔ c.timer = .unset := by rw [htimer]
  cases hprocessed with
  | notFound => exact inv_setConnection h hi hsocket hunset
  | refused code => exact inv_setConnection h hi hsocket hunset
  | verifying email => exact inv_setConnection h hi hsocket hunset
  | handling callback hfound hreturns =>
    have hset : Inv (s.setConnection i { c' with stage := .handling s.gateway.callbacks.length }) :=
      inv_setConnection h hi hsocket hunset
    refine inv_gateway hset fun found hmem => ?_
    rcases List.mem_append.mp hmem with hold | hnew
    · exact h.returns found hold
    · rw [List.mem_singleton.mp hnew]
      exact hreturns
  | terminated =>
    exact ⟨h.sockets, h.unset, h.accepting, h.nodup, h.fresh, h.owned, h.returns⟩

theorem inv_accept (h : Inv s) {context uuid : Nat} {accepting : List Nat}
    (haccepting : s.accepting = uuid :: accepting) (hidle : s.handler = .idle) :
    Inv { s with
      connections := s.connections ++ [⟨context, none, .reading, .unset, true⟩]
      accepting := accepting
      handler := .checkTimeout uuid s.connections.length } where
  sockets := by
    intro c hc
    rcases List.mem_append.mp hc with hold | hnew
    · exact h.sockets c hold
    · rw [List.mem_singleton.mp hnew]
      simp
  unset := by
    intro i c hi
    by_cases hlt : i < s.connections.length
    · rw [List.getElem?_append_left hlt] at hi
      have hne := timer_ne_unset h (by simp [hidle]) hi
      simp [hne, Nat.ne_of_gt hlt]
    · obtain rfl : i = s.connections.length := by
        have hbound := (List.getElem?_eq_some_iff.mp hi).1
        simp only [List.length_append, List.length_singleton] at hbound
        omega
      rw [List.getElem?_concat_length] at hi
      obtain rfl := Option.some.inj hi
      simp
  accepting := fun hcontra => by cases hcontra
  nodup := by
    have hnodup := h.nodup
    rw [uuids_of_handler hidle, haccepting] at hnodup
    exact List.nodup_middle.mpr hnodup
  fresh := by
    intro u hu
    refine h.fresh u ?_
    rw [uuids_of_handler hidle, haccepting]
    exact List.perm_middle.mem_iff.mp hu
  owned := by
    intro i hi
    simp only [List.length_append, List.length_singleton] at hi
    by_cases hlt : i < s.connections.length
    · exact .inl (exists_session h (by rw [hidle]; rfl) hlt)
    · obtain rfl : i = s.connections.length := by omega
      exact .inr ⟨uuid, .inl rfl⟩
  returns := h.returns

theorem inv_checkTimeout (h : Inv s) {uuid i : Nat} (hhandler : s.handler = .checkTimeout uuid i) :
    Inv { s with
      connections := s.connections.modify i fun c => { c with timer := .waiting }
      handler := .insert uuid i } where
  sockets := by
    intro c hc
    obtain ⟨j, hj⟩ := List.mem_iff_getElem?.mp hc
    rw [List.getElem?_modify] at hj
    obtain ⟨d, hd, rfl⟩ := Option.map_eq_some_iff.mp hj
    have hsocket := h.sockets d (List.mem_of_getElem? hd)
    split
    · rename_i hij
      subst hij
      have hunset := (h.unset i d hd).mpr ⟨uuid, hhandler⟩
      rw [hunset] at hsocket
      simpa using hsocket
    · exact hsocket
  unset := by
    intro j c hj
    change (s.connections.modify i _)[j]? = some c at hj
    rw [List.getElem?_modify] at hj
    obtain ⟨d, hd, rfl⟩ := Option.map_eq_some_iff.mp hj
    split
    · simp
    · rename_i hij
      have hunset := h.unset j d hd
      rw [hhandler] at hunset
      simpa [hij] using hunset
  accepting := fun hcontra => by cases hcontra
  nodup := by
    have hnodup := h.nodup
    rw [uuids_of_handler hhandler] at hnodup
    exact hnodup
  fresh := by
    intro u hu
    refine h.fresh u ?_
    rw [uuids_of_handler hhandler]
    exact hu
  owned := by
    intro j hj
    have hbound : j < s.connections.length := by simpa using hj
    rcases h.owned j hbound with hmap | ⟨u, hu⟩
    · exact .inl hmap
    · rw [hhandler] at hu
      rcases hu with hu | hu <;> cases hu
      exact .inr ⟨uuid, .inr rfl⟩
  returns := h.returns

theorem inv_acceptFails (h : Inv s) {uuid : Nat} {accepting : List Nat}
    (haccepting : s.accepting = uuid :: accepting) (hidle : s.handler = .idle) :
    Inv { s with accepting := accepting, handler := .serverStart } where
  sockets := h.sockets
  unset := by
    intro i c hi
    have hne := timer_ne_unset h (by simp [hidle]) hi
    simp [hne]
  accepting := fun hcontra => by cases hcontra
  nodup := by
    have hnodup := h.nodup
    rw [uuids_of_handler hidle, haccepting] at hnodup
    exact (List.nodup_cons.mp hnodup).2
  fresh := by
    intro u hu
    refine h.fresh u ?_
    rw [uuids_of_handler hidle, haccepting]
    exact List.mem_cons_of_mem _ hu
  owned := fun _ hi => .inl (exists_session h (by rw [hidle]; rfl) hi)
  returns := h.returns

/-- The session goes from `handleAccept` to the map. -/
theorem inv_insert (h : Inv s) {uuid i : Nat} (hhandler : s.handler = .insert uuid i) :
    Inv { s with sessions := (uuid, i) :: s.sessions, handler := .serverStart } where
  sockets := h.sockets
  unset := by
    intro j c hj
    have hne := timer_ne_unset h (by simp [hhandler]) hj
    simp [hne]
  accepting := fun hcontra => by cases hcontra
  nodup := by
    have hnodup := h.nodup
    rw [uuids_of_handler hhandler] at hnodup
    exact hnodup
  fresh := by
    intro u hu
    refine h.fresh u ?_
    rw [uuids_of_handler hhandler]
    exact hu
  owned := by
    intro j hj
    rcases h.owned j hj with ⟨u, hu⟩ | ⟨u, hu⟩
    · exact .inl ⟨u, List.mem_cons_of_mem _ hu⟩
    · rw [hhandler] at hu
      rcases hu with hu | hu <;> cases hu
      exact .inl ⟨uuid, List.mem_cons_self ..⟩
  returns := h.returns

/-- The generator has not given the next uuid yet. -/
theorem inv_serverStart (h : Inv s) (hhandler : s.handler = .serverStart) :
    Inv { s with
      accepting := s.accepting ++ [s.nextUuid]
      nextUuid := s.nextUuid + 1
      handler := .idle } where
  sockets := h.sockets
  unset := by
    intro i c hi
    have hne := timer_ne_unset h (by simp [hhandler]) hi
    simp [hne]
  accepting := fun _ => by simp
  nodup := by
    have hnodup := h.nodup
    have hnext : s.nextUuid ∉ uuids s := fun hmem => Nat.lt_irrefl _ (h.fresh _ hmem)
    rw [uuids_of_handler hhandler] at hnodup hnext
    show ((s.accepting ++ [s.nextUuid]) ++ ([] ++ s.sessions.map Prod.fst)).Nodup
    rw [List.append_assoc, List.singleton_append]
    exact List.nodup_middle.mpr (List.nodup_cons.mpr ⟨hnext, hnodup⟩)
  fresh := by
    intro u hu
    have hfresh := h.fresh
    rw [uuids_of_handler hhandler] at hfresh
    change u ∈ (s.accepting ++ [s.nextUuid]) ++ ([] ++ s.sessions.map Prod.fst) at hu
    rw [List.append_assoc, List.singleton_append, List.perm_middle.mem_iff, List.mem_cons] at hu
    rcases hu with rfl | hold
    · exact Nat.lt_succ_self _
    · exact Nat.lt_succ_of_lt (hfresh u hold)
  owned := fun _ hi => .inl (exists_session h (by rw [hhandler]; rfl) hi)
  returns := h.returns

theorem inv_step {e : Event} (h : Inv s) (hstep : step boost limit s e = some s') : Inv s' := by
  obtain ⟨-, hsteps⟩ := steps_of_step hstep
  cases hsteps with
  | accept context uuid accepting haccepting hfree hlimit =>
    exact inv_accept h haccepting (idle_of_free hfree)
  | acceptFails uuid accepting haccepting hfree =>
    rw [terminateSession_accepting h haccepting]
    exact inv_acceptFails h haccepting (idle_of_free hfree)
  | checkTimeout uuid i hhandler => exact inv_checkTimeout h hhandler
  | insert uuid i hhandler => exact inv_insert h hhandler
  | serverStart hhandler => exact inv_serverStart h hhandler
  | read i request checkValue c hi hstage hfree =>
    have hprocessed : Processed boost s i { c with request := some request } request checkValue _ :=
      processed_processRequest i _ request checkValue
    refine inv_processed h hi ?_ ?_ hprocessed
    · rfl
    · rfl
  | readFails i c hi hstage hfree =>
    exact inv_setConnection h hi (h.sockets c (List.mem_of_getElem? hi)) Iff.rfl
  | callback i statement c j g hi hstage hrun =>
    exact inv_gateway h (gateway_run_returns h.returns hrun)
  | answer i grpc c j a body hi hstage hj hbody =>
    exact inv_setConnection h hi (h.sockets c (List.mem_of_getElem? hi)) Iff.rfl
  | verificationCode i error c email hi hstage =>
    exact inv_setConnection h hi (h.sockets c (List.mem_of_getElem? hi)) Iff.rfl
  | written i expired c response hi hstage hfree =>
    have hsocket := h.sockets c (List.mem_of_getElem? hi)
    refine inv_setConnection h hi ?_ ?_
    · dsimp only
      split
      · rename_i hcancel
        simp only [Bool.and_eq_true, decide_eq_true_eq] at hcancel
        simpa [hcancel.1] using hsocket
      · exact hsocket
    · dsimp only
      split
      · rename_i hcancel
        simp only [Bool.and_eq_true, decide_eq_true_eq] at hcancel
        simp [hcancel.1]
      · exact Iff.rfl
  | timeout i c hi htimer hfree =>
    exact inv_setConnection h hi (by simp) (by simp [htimer])

theorem inv_of_reaches (h : Trace.Reaches (step boost limit) (start t) s) : Inv s :=
  Trace.invariant Inv (fun _ _ _ => inv_step) (inv_start t) h

end Descriptors

/-! ## Timers that have been cancelled -/

namespace Descriptors

/-- What a count of connections becomes when one of them changes. -/
theorem countP_setConnection {i : Nat} {c : Connection} (hi : s.connections[i]? = some c)
    (c' : Connection) (f : Connection → Bool) :
    (s.setConnection i c').connections.countP f + (f c).toNat =
      s.connections.countP f + (f c').toNat :=
  Pool.count_set (p := ⟨(), s.connections⟩) hi () c' f

theorem countP_setConnection_eq {i : Nat} {c c' : Connection} {f : Connection → Bool}
    (hi : s.connections[i]? = some c) (h : f c' = f c) :
    (s.setConnection i c').connections.countP f = s.connections.countP f := by
  have hcount := countP_setConnection hi c' f
  rw [h] at hcount
  exact Nat.add_right_cancel hcount

theorem countP_setConnection_lt {i : Nat} {c c' : Connection} {f : Connection → Bool}
    (hi : s.connections[i]? = some c) (hc : f c = true) (hc' : f c' = false) :
    (s.setConnection i c').connections.countP f < s.connections.countP f := by
  have hcount := countP_setConnection hi c' f
  rw [hc, hc', Bool.toNat_true, Bool.toNat_false] at hcount
  omega

theorem cancelled_le_openSockets (h : Inv s) : cancelled s ≤ s.openSockets := by
  refine List.countP_mono_left fun c hc hcancelled => (h.sockets c hc).mpr ?_
  unfold isCancelled at hcancelled
  rw [decide_eq_true_eq] at hcancelled
  simp [hcancelled]

theorem cancelled_setConnection_le {i : Nat} {c c' : Connection}
    (hi : s.connections[i]? = some c) (h : isCancelled c = true → isCancelled c' = true) :
    cancelled s ≤ cancelled (s.setConnection i c') := by
  have hcount := countP_setConnection hi c' isCancelled
  unfold cancelled
  cases hc : isCancelled c with
  | false =>
    rw [hc, Bool.toNat_false] at hcount
    omega
  | true =>
    rw [hc, h hc] at hcount
    omega

theorem length_setConnection (i : Nat) (c : Connection) :
    (s.setConnection i c).connections.length = s.connections.length :=
  List.length_set

/-- A request does nothing to the timers. -/
theorem cancelled_processed {i : Nat} {c c' : Connection} {request : HttpRequest}
    {checkValue : String → Option String} (hi : s.connections[i]? = some c)
    (htimer : c'.timer = c.timer) (hprocessed : Processed boost s i c' request checkValue s') :
    cancelled s ≤ cancelled s' ∧ s'.connections.length = s.connections.length := by
  have hsame (c'' : Connection) (h : c''.timer = c.timer) :
      cancelled s ≤ cancelled (s.setConnection i c'') := by
    refine cancelled_setConnection_le hi fun hc => ?_
    unfold isCancelled at hc ⊢
    rw [h]
    exact hc
  cases hprocessed with
  | notFound => exact ⟨hsame _ htimer, length_setConnection i _⟩
  | refused code => exact ⟨hsame _ htimer, length_setConnection i _⟩
  | verifying email => exact ⟨hsame _ htimer, length_setConnection i _⟩
  | handling callback hfound hreturns => exact ⟨hsame _ htimer, length_setConnection i _⟩
  | terminated => exact ⟨Nat.le_refl _, rfl⟩

/-- `async_wait` sets a timer that has not been set. -/
theorem cancelled_modify (h : Inv s) {uuid i : Nat} (hhandler : s.handler = .checkTimeout uuid i) :
    (s.connections.modify i fun c => { c with timer := .waiting }).countP isCancelled =
      cancelled s := by
  cases hi : s.connections[i]? with
  | none =>
    rw [List.modify_eq_self (List.getElem?_eq_none_iff.mp hi)]
    rfl
  | some c =>
    have hunset := (h.unset i c hi).mpr ⟨uuid, hhandler⟩
    have hsame : cancelled (s.setConnection i { c with timer := .waiting }) = cancelled s := by
      refine countP_setConnection_eq hi ?_
      unfold isCancelled
      rw [hunset]
      rfl
    rw [List.modify_eq_set_getElem?, hi]
    exact hsame

/-- A cancelled timer stays cancelled, and there is no accept without a descriptor. -/
theorem step_cancelled {e : Event} (h : Inv s) (hstep : step boost limit s e = some s') :
    cancelled s ≤ cancelled s' ∧
      (s.connections.length < s'.connections.length → cancelled s < limit) := by
  obtain ⟨-, hsteps⟩ := steps_of_step hstep
  have hkept {s' : GateServer sql} (hle : cancelled s ≤ cancelled s')
      (hlength : s'.connections.length = s.connections.length) :
      cancelled s ≤ cancelled s' ∧
        (s.connections.length < s'.connections.length → cancelled s < limit) :=
    ⟨hle, fun hlt => absurd hlt (by rw [hlength]; exact Nat.lt_irrefl _)⟩
  cases hsteps with
  | accept context uuid accepting haccepting hfree hlimit =>
    refine ⟨?_, fun _ => Nat.lt_of_le_of_lt (cancelled_le_openSockets h) hlimit⟩
    unfold cancelled
    rw [List.countP_append]
    exact Nat.le_add_right _ _
  | acceptFails uuid accepting haccepting hfree =>
    rw [terminateSession_accepting h haccepting]
    exact hkept (Nat.le_refl _) rfl
  | checkTimeout uuid i hhandler =>
    exact hkept (Nat.le_of_eq (cancelled_modify h hhandler).symm) (List.length_modify ..)
  | insert uuid i hhandler => exact hkept (Nat.le_refl _) rfl
  | serverStart hhandler => exact hkept (Nat.le_refl _) rfl
  | read i request checkValue c hi hstage hfree =>
    have hprocessed : Processed boost s i { c with request := some request } request checkValue _ :=
      processed_processRequest i _ request checkValue
    have hboth := cancelled_processed hi (by rfl) hprocessed
    exact hkept hboth.1 hboth.2
  | readFails i c hi hstage hfree =>
    exact hkept (cancelled_setConnection_le hi id) (length_setConnection i _)
  | callback i statement c j g hi hstage hrun => exact hkept (Nat.le_refl _) rfl
  | answer i grpc c j a body hi hstage hj hbody =>
    exact hkept (cancelled_setConnection_le hi id) (length_setConnection i _)
  | verificationCode i error c email hi hstage =>
    exact hkept (cancelled_setConnection_le hi id) (length_setConnection i _)
  | written i expired c response hi hstage hfree =>
    refine hkept (cancelled_setConnection_le hi fun hc => ?_) (length_setConnection i _)
    unfold isCancelled at hc ⊢
    dsimp only
    split
    · rfl
    · exact hc
  | timeout i c hi htimer hfree =>
    refine hkept (cancelled_setConnection_le hi fun hc => ?_) (length_setConnection i _)
    unfold isCancelled at hc
    rw [htimer] at hc
    cases hc

/-- No run accepts where all descriptors are held by answered connections. -/
theorem cancelled_lt_of_accepts {es : List Event} (h : Inv s)
    (hexec : Trace.exec (step boost limit) s es = some s')
    (hlt : s.connections.length < s'.connections.length) : cancelled s < limit := by
  induction es generalizing s with
  | nil =>
    obtain rfl := Option.some.inj hexec
    exact absurd hlt (Nat.lt_irrefl _)
  | cons e es ih =>
    obtain ⟨m, hm, hes⟩ := (Trace.exec_cons_some _).mp hexec
    obtain ⟨hle, haccepts⟩ := step_cancelled h hm
    by_cases hnow : s.connections.length < m.connections.length
    · exact haccepts hnow
    · exact Nat.lt_of_le_of_lt hle (ih (inv_step h hm) hes (by omega))

/-! ## The way to a free descriptor -/

/-- How many statements a callback has left, if they fail. -/
def rest : Callback → Nat
  | .findNew _ => 3
  | .createNewUser _ => 2
  | .answered _ => 0
  | _ => 1

theorem run_failed (callback : Callback) (table : Authentication sql) (h : rest callback ≠ 0) :
    ∃ r, callback.run .failed table = some r ∧ rest r.2.1 < rest callback := by
  cases callback with
  | answered a => exact absurd rfl h
  | findNew request => exact ⟨_, rfl, Nat.lt_succ_self 2⟩
  | createNewUser request => exact ⟨_, rfl, Nat.lt_succ_self 1⟩
  | getNewUuid _ | findAccount _ _ | findReset _ | updateUserPasswd _ | userLoginCheck _ _
  | getUserUuid _ _ => exact ⟨_, rfl, Nat.lt_succ_self 0⟩

theorem step_eq_next (halive : s.alive = true) (e : Event) :
    step boost limit s e = s.next boost limit e :=
  if_pos halive

theorem reaches_single {e : Event} (h : step boost limit s e = some s') :
    Trace.Reaches (step boost limit) s s' :=
  ⟨[e], (Trace.exec_singleton _ _ _).trans h⟩

/-- A callback comes to its end. -/
theorem reaches_answered (halive : s.alive = true) {i j : Nat} {c : Connection}
    (hi : s.connections[i]? = some c) (hstage : c.stage = .handling j) {callback : Callback}
    (hj : s.gateway.callbacks[j]? = some callback) :
    ∃ g a, Trace.Reaches (step boost limit) s { s with gateway := g } ∧
      g.callbacks[j]? = some (.answered a) := by
  induction hn : rest callback using Nat.strongRecOn generalizing s callback with
  | _ n ih =>
    by_cases hzero : rest callback = 0
    · cases callback with
      | answered a => exact ⟨s.gateway, a, ⟨[], rfl⟩, hj⟩
      | _ => cases hzero
    · obtain ⟨r, hrun, hless⟩ := run_failed callback s.gateway.table hzero
      have hgateway : ∃ g, s.gateway.run j .failed = some g ∧
          g.callbacks[j]? = some r.2.1 := by
        unfold Gateway.run
        rw [hj, Option.bind_some, hrun, Option.map_some]
        exact ⟨_, rfl, List.getElem?_set_self (List.getElem?_eq_some_iff.mp hj).1⟩
      obtain ⟨g, hg, hnext⟩ := hgateway
      have hstep : step boost limit s (.callback i .failed) = some { s with gateway := g } := by
        rw [step_eq_next halive]
        show s.connections[i]?.bind _ = _
        rw [hi, Option.bind_some]
        unfold GateServer.callback
        rw [hstage]
        show (s.gateway.run j .failed).map _ = _
        rw [hg, Option.map_some]
      obtain ⟨g', a, ⟨es, hes⟩, hanswered⟩ :=
        ih (rest r.2.1) (hn ▸ hless) (s := { s with gateway := g }) halive hi hnext rfl
      exact ⟨g', a, (reaches_single hstep).exec _ hes, hanswered⟩

/-- A live server with the invariants, so many cancelled timers and so many connections. -/
structure Calm (boost : Boost) (t : Authentication sql) (n k : Nat) (s : GateServer sql) :
    Prop where
  alive : s.alive = true
  inv : Inv s
  answers : HttpServer.Inv boost t s
  cancelled : HttpServer.cancelled s = n
  length : s.connections.length = k

variable {n k : Nat}

theorem calm_of_reaches (h : Calm boost t n k s) (hreaches : Trace.Reaches (step boost limit) s s')
    (halive : s'.alive = true) (hcancelled : HttpServer.cancelled s' = HttpServer.cancelled s)
    (hlength : s'.connections.length = s.connections.length) : Calm boost t n k s' where
  alive := halive
  inv := Trace.invariant Inv (fun _ _ _ => inv_step) h.inv hreaches
  answers := Trace.invariant (HttpServer.Inv boost t) (fun _ _ _ => HttpServer.inv_step) h.answers
    hreaches
  cancelled := hcancelled.trans h.cancelled
  length := hlength.trans h.length

/-- `handleAccept` comes to its end. -/
theorem reaches_idle (h : Calm boost t n k s) :
    ∃ s', Trace.Reaches (step boost limit) s s' ∧ Calm boost t n k s' ∧ s'.handler.rest = 0 := by
  refine Trace.reaches_of_progress (Calm boost t n k) (fun s => s.handler.rest)
    (fun s h hrest => ?_) h
  have hnext : step boost limit s .handleAccept = s.handleAccept := step_eq_next h.alive _
  unfold GateServer.handleAccept at hnext
  cases hhandler : s.handler with
  | idle =>
    rw [hhandler] at hrest
    exact absurd rfl hrest
  | checkTimeout uuid i =>
    rw [hhandler] at hnext
    exact ⟨_, reaches_single hnext, calm_of_reaches h (reaches_single hnext) h.alive
      (cancelled_modify h.inv hhandler) (List.length_modify ..), Nat.lt_succ_self 2⟩
  | insert uuid i =>
    rw [hhandler] at hnext
    exact ⟨_, reaches_single hnext, calm_of_reaches h (reaches_single hnext) h.alive rfl rfl,
      Nat.lt_succ_self 1⟩
  | serverStart =>
    rw [hhandler] at hnext
    exact ⟨_, reaches_single hnext, calm_of_reaches h (reaches_single hnext) h.alive rfl rfl,
      Nat.lt_succ_self 0⟩

/-- One connection changes, whose timer is as cancelled as before. -/
theorem calm_setConnection {e : Event} {i : Nat} {c c' : Connection} {s m : GateServer sql}
    (h : Calm boost t n k s) (hm : Trace.Reaches (step boost limit) s m)
    (hconnections : m.connections = s.connections) (hi : s.connections[i]? = some c)
    (hstep : step boost limit m e = some (m.setConnection i c')) (halive : m.alive = true)
    (hsame : isCancelled c' = isCancelled c) :
    Trace.Reaches (step boost limit) s (m.setConnection i c') ∧
      Calm boost t n k (m.setConnection i c') := by
  have hreaches := hm.exec _ ((Trace.exec_singleton _ _ _).trans hstep)
  have him : m.connections[i]? = some c := hconnections ▸ hi
  refine ⟨hreaches, calm_of_reaches h hreaches halive ?_ ?_⟩
  · unfold HttpServer.cancelled
    rw [countP_setConnection_eq him hsame, hconnections]
  · rw [length_setConnection, hconnections]

theorem exists_answerBody {a : Answer} (h : throws (.answered a) = false) (grpc : GrpcResponse) :
    ∃ body, answerBody grpc a = some body := by
  cases a with
  | refused refusal =>
    cases refusal with
    | none => cases h
    | some status => exact ⟨_, rfl⟩
  | accountNotExists | missingInfo | loginInfoError | passwordReset | found _ _ | registered _
  | allocated _ _ _ => exact ⟨_, rfl⟩

/-- The callbacks come to their ends. -/
theorem reaches_unhandled (h : Calm boost t n k s) (hidle : s.handler = .idle) :
    ∃ s', Trace.Reaches (step boost limit) s s' ∧
      (Calm boost t n k s' ∧ s'.handler = .idle) ∧ s'.connections.countP isHandling = 0 := by
  refine Trace.reaches_of_progress (fun s => Calm boost t n k s ∧ s.handler = .idle)
    (fun s => s.connections.countP isHandling) (fun s h hhandling => ?_) ⟨h, hidle⟩
  obtain ⟨h, hidle⟩ := h
  obtain ⟨c, hc, hchandling⟩ := List.countP_pos_iff.mp (Nat.pos_of_ne_zero hhandling)
  obtain ⟨i, hi⟩ := List.mem_iff_getElem?.mp hc
  have hless {m : GateServer sql} (hconnections : m.connections = s.connections)
      (response : HttpResponse) :
      (m.setConnection i { c with stage := .writing response }).connections.countP isHandling <
        s.connections.countP isHandling := by
    rw [← hconnections] at hi ⊢
    exact countP_setConnection_lt hi hchandling rfl
  cases hstage : c.stage with
  | verifying email =>
    have hstep : step boost limit s (.verificationCode i 0) = some (s.setConnection i
        { c with stage := .writing (.ok (.object [("error", .number (Nat.repr 0)),
          ("email", .string email)])) }) := by
      rw [step_eq_next h.alive]
      show s.connections[i]?.bind _ = _
      rw [hi, Option.bind_some]
      unfold GateServer.verificationCode
      rw [hstage]
      rfl
    obtain ⟨hreaches, hcalm⟩ := calm_setConnection h ⟨[], rfl⟩ rfl hi hstep h.alive rfl
    exact ⟨_, hreaches, ⟨hcalm, hidle⟩, hless rfl _⟩
  | handling j =>
    have hstands := h.answers.stands c hc
    unfold Stands at hstands
    rw [hstage] at hstands
    obtain ⟨request, callback, -, hj, -⟩ := hstands
    obtain ⟨g, a, hreaches, hanswered⟩ : ∃ g a,
        Trace.Reaches (step boost limit) s { s with gateway := g } ∧
          g.callbacks[j]? = some (.answered a) := reaches_answered h.alive hi hstage hj
    have hcalm := calm_of_reaches h hreaches h.alive rfl rfl
    obtain ⟨body, hbody⟩ := exists_answerBody
      (hcalm.inv.returns _ (List.mem_of_getElem? hanswered)) ⟨0, "", "", ""⟩
    have hstep : step boost limit { s with gateway := g } (.answer i ⟨0, "", "", ""⟩) =
        some ((GateServer.setConnection { s with gateway := g } i
          { c with stage := .writing (.ok body) })) := by
      rw [step_eq_next (s := { s with gateway := g }) h.alive]
      show s.connections[i]?.bind _ = _
      rw [hi, Option.bind_some]
      unfold GateServer.answer
      rw [hstage]
      dsimp only
      rw [hanswered]
      dsimp only
      rw [hbody, Option.map_some]
      rfl
    obtain ⟨hreaches', hcalm'⟩ := calm_setConnection h hreaches rfl hi hstep h.alive rfl
    exact ⟨_, hreaches', ⟨hcalm', hidle⟩, hless rfl _⟩
  | _ =>
    unfold isHandling at hchandling
    rw [hstage] at hchandling
    cases hchandling

theorem free_of_idle (hidle : s.handler = .idle) (hnone : s.connections.countP isHandling = 0)
    (context : Nat) : s.busy context = false := by
  unfold GateServer.busy
  rw [hidle, Bool.or_eq_false_iff]
  refine ⟨by simp, List.any_eq_false.mpr fun c hc => ?_⟩
  have hnot := List.countP_eq_zero.mp hnone c hc
  unfold isHandling at hnot
  simp [hnot]

/-- The timers fire that have not been cancelled. -/
theorem reaches_fired (h : Calm boost t n k s) (hidle : s.handler = .idle)
    (hnone : s.connections.countP isHandling = 0) :
    ∃ s', Trace.Reaches (step boost limit) s s' ∧
      (Calm boost t n k s' ∧ s'.handler = .idle ∧ s'.connections.countP isHandling = 0) ∧
        s'.connections.countP isWaiting = 0 := by
  refine Trace.reaches_of_progress
    (fun s => Calm boost t n k s ∧ s.handler = .idle ∧ s.connections.countP isHandling = 0)
    (fun s => s.connections.countP isWaiting) (fun s h hwaiting => ?_) ⟨h, hidle, hnone⟩
  obtain ⟨h, hidle, hnone⟩ := h
  obtain ⟨c, hc, hcwaiting⟩ := List.countP_pos_iff.mp (Nat.pos_of_ne_zero hwaiting)
  obtain ⟨i, hi⟩ := List.mem_iff_getElem?.mp hc
  have htimer : c.timer = .waiting := of_decide_eq_true hcwaiting
  have hstep : step boost limit s (.timeout i) =
      some (s.setConnection i { c with timer := .fired, isOpen := false }) := by
    rw [step_eq_next h.alive]
    show s.connections[i]?.bind _ = _
    rw [hi, Option.bind_some]
    unfold GateServer.timeout
    rw [free_of_idle hidle hnone, htimer]
    rfl
  have hsame : isCancelled { c with timer := .fired, isOpen := false } = isCancelled c := by
    unfold isCancelled
    rw [htimer]
    rfl
  obtain ⟨hreaches, hcalm⟩ := calm_setConnection h ⟨[], rfl⟩ rfl hi hstep h.alive hsame
  have hunhandled : (s.setConnection i
      { c with timer := .fired, isOpen := false }).connections.countP isHandling = 0 := by
    rw [countP_setConnection_eq hi]
    · exact hnone
    · rfl
  exact ⟨_, hreaches, ⟨hcalm, hidle, hunhandled⟩, countP_setConnection_lt hi hcwaiting rfl⟩

/-- Only the sockets are left whose timers have been cancelled. -/
theorem openSockets_eq (h : Inv s) (hidle : s.handler = .idle)
    (hwaiting : s.connections.countP isWaiting = 0) : s.openSockets = cancelled s := by
  refine List.countP_congr fun c hc => ?_
  obtain ⟨i, hi⟩ := List.mem_iff_getElem?.mp hc
  have hunset := h.unset i c hi
  rw [hidle] at hunset
  have hnot := List.countP_eq_zero.mp hwaiting c hc
  rw [h.sockets c hc]
  unfold isWaiting at hnot
  unfold isCancelled
  cases htimer : c.timer <;> simp_all

theorem accept_of_lt (h : Inv s) (hidle : s.handler = .idle)
    (hnone : s.connections.countP isHandling = 0) (hlt : s.openSockets < limit) :
    ∃ s', s.accept limit 1 = some s' ∧ s.connections.length < s'.connections.length := by
  obtain ⟨uuid, accepting, haccepting⟩ := List.exists_cons_of_ne_nil (h.accepting hidle)
  unfold GateServer.accept
  rw [haccepting, free_of_idle hidle hnone]
  simp only [Bool.false_eq_true, if_false, hlt, if_true]
  exact ⟨_, rfl, by simp⟩

end Descriptors

/-- In every run each connection has its session in the map, or `handleAccept` is about to put it
    there: the sockets that the handlers refer to exist. -/
theorem sessions_kept (h : Trace.Reaches (step boost limit) (start t) s) (i : Nat)
    (hi : i < s.connections.length) : Owned s i :=
  (Descriptors.inv_of_reaches h).owned i hi

/-- One client, who is answered. -/
def oneAnswered : List Event :=
  [.accept 1, .handleAccept, .handleAccept, .handleAccept, .read 0 ⟨.other, "/", ""⟩ fun _ => none,
    .written 0 false]

theorem exec_oneAnswered :
    ∃ s, Trace.exec (step loginBoost 1) (start oneAccount) oneAnswered = some s ∧
      s.alive = true ∧ cancelled s = 1 :=
  ⟨_, rfl, rfl, rfl⟩

/-- From a state of a run, the server is able to accept a connection more, in the end and whatever
    it takes, exactly if it has a descriptor beside those of the timers that have been cancelled:
    each connection that has been answered in time takes one for good. -/
theorem acceptsAgain_iff (h : Trace.Reaches (step boost limit) (start t) s)
    (halive : s.alive = true) :
    (∃ es s', Trace.exec (step boost limit) s es = some s' ∧
      s.connections.length < s'.connections.length) ↔ cancelled s < limit := by
  have hinv := Descriptors.inv_of_reaches h
  constructor
  · rintro ⟨es, s', hexec, hlt⟩
    exact Descriptors.cancelled_lt_of_accepts hinv hexec hlt
  · intro hlt
    have hcalm : Descriptors.Calm boost t (cancelled s) s.connections.length s :=
      ⟨halive, hinv, inv_of_reaches h, rfl, rfl⟩
    obtain ⟨s₁, ⟨es₁, hexec₁⟩, hcalm₁, hrest⟩ := Descriptors.reaches_idle hcalm
    have hidle₁ : s₁.handler = .idle := by
      cases hhandler : s₁.handler <;> rw [hhandler] at hrest <;> first | rfl | cases hrest
    obtain ⟨s₂, ⟨es₂, hexec₂⟩, ⟨hcalm₂, hidle₂⟩, hnone₂⟩ :=
      Descriptors.reaches_unhandled hcalm₁ hidle₁
    obtain ⟨s₃, ⟨es₃, hexec₃⟩, ⟨hcalm₃, hidle₃, hnone₃⟩, hwaiting₃⟩ :=
      Descriptors.reaches_fired hcalm₂ hidle₂ hnone₂
    have hopen : s₃.openSockets < limit := by
      rw [Descriptors.openSockets_eq hcalm₃.inv hidle₃ hwaiting₃, hcalm₃.cancelled]
      exact hlt
    obtain ⟨s', haccept, hlength⟩ := Descriptors.accept_of_lt hcalm₃.inv hidle₃ hnone₃ hopen
    have hstep : step boost limit s₃ (.accept 1) = some s' :=
      (Descriptors.step_eq_next hcalm₃.alive _).trans haccept
    refine ⟨es₁ ++ (es₂ ++ (es₃ ++ [.accept 1])), s', ?_, ?_⟩
    · rw [Trace.exec_append, hexec₁, Option.bind_some, Trace.exec_append, hexec₂,
        Option.bind_some, Trace.exec_append, hexec₃, Option.bind_some, Trace.exec_singleton]
      exact hstep
    · rw [hcalm₃.length] at hlength
      exact hlength

theorem acceptsAgain_iff_oneAnswered :
    ∃ s, Trace.exec (step loginBoost 1) (start oneAccount) oneAnswered = some s ∧
      ¬∃ es s', Trace.exec (step loginBoost 1) s es = some s' ∧
        s.connections.length < s'.connections.length := by
  obtain ⟨s, hs, halive, hcancelled⟩ := exec_oneAnswered
  refine ⟨s, hs, fun h => ?_⟩
  have hlt := (acceptsAgain_iff ⟨_, hs⟩ halive).mp h
  rw [hcancelled] at hlt
  exact Nat.lt_irrefl 1 hlt

end DistributedIM.GatewayServer.HttpServer
