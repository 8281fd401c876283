/-
  The cluster as a transition system: connections, logins, logouts, failing connections, heartbeat
  purges and final handlers on any number of servers, in any order.

  Each handler is one step here. `Protocol.SingleLogin` takes a login apart, and has these runs
  among its own.
-/
import DistributedIM.Lib.Trace
import DistributedIM.ChattingServer.LoginReply

namespace DistributedIM.Protocol

open DistributedIM.ChattingServer

inductive ClusterEvent
  /-- a server accepts a connection -/
  | accept (server : String)
  | login (sid : SessionId) (request : AccountRequest) (out : LoginOutcome)
  | logout (sid : SessionId) (request : AccountRequest) (token : Bool)
  /-- a read or a write ends with an error (`ended`), or a frame is malformed -/
  | purge (sid : SessionId) (ended lock : Bool)
  | heartBeat (server : String) (expired : List (String × Bool))
  /-- the final handler of a marked session runs -/
  | finalHandler (sid : SessionId)
  deriving DecidableEq, Repr

namespace ClusterRuns

def acceptSession (c : Cluster) (server : String) : Cluster :=
  { c with
    accepted := c.accepted + 1
    session := Function.update c.session c.accepted (.accepted server) }

def step (c : Cluster) : ClusterEvent → Option Cluster
  | .accept server => some (acceptSession c server)
  | .login sid request out =>
    if sid < c.accepted then some (c.handlingLogin sid request out) else none
  | .logout sid request token =>
    if sid < c.accepted then some (c.handlingLogout sid request token) else none
  | .purge sid ended lock =>
    if sid < c.accepted then some (c.purgeRemoveConnection sid ended lock) else none
  | .heartBeat server expired => some (c.heartBeatEvent server expired)
  | .finalHandler sid => some (c.checkDeferredTermination sid)

/-- A step accepts a connection, handles a login, or only winds sessions down. -/
theorem step_cases {c c' : Cluster} {e : ClusterEvent} (hstep : step c e = some c') :
    (∃ server, e = .accept server ∧ c' = acceptSession c server) ∨
      (∃ sid request out, e = .login sid request out ∧ sid < c.accepted ∧
        c' = c.handlingLogin sid request out) ∨
      c.WindsDown c' := by
  cases e with
  | accept server => exact Or.inl ⟨server, rfl, (Option.some.inj hstep).symm⟩
  | login sid request out =>
    obtain ⟨haccepted, hc⟩ := Option.ite_none_right_eq_some.mp hstep
    exact Or.inr (Or.inl ⟨sid, request, out, rfl, haccepted, (Option.some.inj hc).symm⟩)
  | logout sid request token =>
    obtain ⟨-, hc⟩ := Option.ite_none_right_eq_some.mp hstep
    rw [← Option.some.inj hc]
    exact Or.inr (Or.inr (c.windsDown_handlingLogout ..))
  | purge sid ended lock =>
    obtain ⟨-, hc⟩ := Option.ite_none_right_eq_some.mp hstep
    rw [← Option.some.inj hc]
    exact Or.inr (Or.inr (c.windsDown_purgeRemoveConnection ..))
  | heartBeat server expired =>
    rw [← Option.some.inj hstep]
    exact Or.inr (Or.inr (c.windsDown_heartBeatEvent ..))
  | finalHandler sid =>
    rw [← Option.some.inj hstep]
    exact Or.inr (Or.inr (c.windsDown_checkDeferredTermination ..))

theorem registered_acceptSession {c : Cluster} (hreg : c.Registered) (server : String) :
    (acceptSession c server).Registered := by
  intro server' uuid i hi
  obtain ⟨huuid, hserver, haccepted⟩ := hreg server' uuid i hi
  have hne : i ≠ c.accepted := Nat.ne_of_lt haccepted
  simp only [acceptSession, Function.update_of_ne hne]
  exact ⟨huuid, hserver, Nat.lt_succ_of_lt haccepted⟩

/-- Nothing fails during the login. -/
def smooth : LoginOutcome where
  token := true
  lock := true
  kick := .answered
  delServer := true
  setServer := true
  delSession := true
  setSession := true
  profile := .found
  kickLock := true

end ClusterRuns

end DistributedIM.Protocol
