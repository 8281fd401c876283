/-
  The tokens that `RegisterUser` issues, for any number of calls: the load balancer, `getUserToken`
  and `registerUserInfo`, each one step, and other calls may run in between.

  `getUserToken` finds no token also when its GET fails, and what `registerUserInfo` makes of its
  SET is not looked at. A call that sets its token replaces any token there is.

  `issuedTokensValid_iff`: at the end of a run the tokens in the responses are the ones that
  `verifyUserToken` accepts, exactly if each SET has reached Redis, and none after a response with
  a token for its user.

  The tokens of `tools::userTokenGenerator` are random UUIDs: distinct, and none of them is in Redis
  before. Nothing else writes the keys.
-/
import DistributedIM.BalanceServer.LoadBalancer
import DistributedIM.ChattingServer.RedisLock
import DistributedIM.Lib.Interleave
import DistributedIM.Lib.Trace

namespace DistributedIM.BalanceServer

namespace UserTokens

open ChattingServer.RedisLock (RedisReply Delivery Store TokenGenerator redisCommand cString)

/-! ## Redis -/

/-- `GET key` -/
def get (key : String) (store : Store) : RedisReply × Store :=
  match store key with
  | none => (.nil, store)
  | some value => (.string value, store)

/-- `SET key value` -/
def set (key value : String) (store : Store) : RedisReply × Store :=
  (.status "OK", Function.update store key (some value))

def checkValue (delivery : Delivery) (store : Store) (key : String) : Option String :=
  if key = "" then none
  else
    let reply := (redisCommand delivery store (get (cString key))).1
    if reply.isSuccessful then
      match reply with
      | .string value => some value
      | _ => none
    else none

def setValue (delivery : Delivery) (store : Store) (key value : String) : Bool × Store :=
  if key = "" then (false, store)
  else
    let r := redisCommand delivery store (set (cString key) (cString value))
    (r.1.isSuccessful, r.2)

/-! ## `GrpcDataLayer` -/

/-- The `ServiceStatus`es of the responses. -/
inductive ServiceStatus
  | serviceSuccess
  | noAvailableChattingServer
  | loginUnsuccessful
  | loginInfoError
  deriving DecidableEq, Repr

def tokenPrefix : String :=
  "user_token_"

def tokenKey (uuid : Nat) : String :=
  tokenPrefix ++ uuid.repr

/-- The result of `setValue` is not looked at. -/
def registerUserInfo (delivery : Delivery) (store : Store) (uuid : Nat) (tokens : String) : Store :=
  (setValue delivery store (tokenKey uuid) tokens).2

def getUserToken (delivery : Delivery) (store : Store) (uuid : Nat) : Option String :=
  checkValue delivery store (tokenKey uuid)

def verifyUserToken (delivery : Delivery) (store : Store) (uuid : Nat) (tokens : String) :
    ServiceStatus :=
  match getUserToken delivery store uuid with
  | none => .loginUnsuccessful
  | some target => if target = tokens then .serviceSuccess else .loginInfoError

/-! ## The calls -/

/-- `UserRegisterResponse` -/
structure UserRegisterResponse where
  error : ServiceStatus
  host : String
  port : String
  token : String
  deriving DecidableEq, Repr

/-- Where a call is. -/
inductive Stage
  | serverInstanceLoadBalancer
  | getUserToken (server : ServerConf)
  | registerUserInfo (server : ServerConf)
  | returned (response : UserRegisterResponse)
  /-- an exception has left the call -/
  | thrown
  deriving DecidableEq, Repr

structure Call where
  /-- the number of the call -/
  id : Nat
  uuid : Nat
  stage : Stage
  deriving DecidableEq, Repr

/-- Redis before the calls, and the tokens that they generate. -/
structure Setting extends TokenGenerator where
  store : Store
  nonempty : ∀ n, generate n ≠ ""
  fresh : ∀ n key, store key ≠ some (generate n)

/-- The next step of a call. `answer` is what the load balancer says, `delivery` what becomes of
    the command. -/
def registerUser (setting : Setting) (answer : Answer) (delivery : Delivery) (store : Store)
    (c : Call) : Option (Store × Call) :=
  match c.stage with
  | .serverInstanceLoadBalancer =>
    match answer with
    | .nullopt =>
      some (store, { c with stage := .returned ⟨.noAvailableChattingServer, "", "", ""⟩ })
    | .server conf => some (store, { c with stage := .getUserToken conf })
    | .thrown => some (store, { c with stage := .thrown })
  | .getUserToken server =>
    match getUserToken delivery store c.uuid with
    | some token =>
      some (store,
        { c with stage := .returned ⟨.serviceSuccess, server.host, server.port, token⟩ })
    | none => some (store, { c with stage := .registerUserInfo server })
  | .registerUserInfo server =>
    let token := setting.generate c.id
    some (registerUserInfo delivery store c.uuid token,
      { c with stage := .returned ⟨.serviceSuccess, server.host, server.port, token⟩ })
  | .returned _ => none
  | .thrown => none

abbrev System := Pool Store Call

def init (setting : Setting) : System where
  shared := setting.store
  procs := []

inductive Event
  /-- `RegisterUser` is called -/
  | registerUser (uuid : Nat)
  /-- a call takes its next step -/
  | run (i : Nat) (answer : Answer) (delivery : Delivery)
  deriving DecidableEq, Repr

def step (setting : Setting) (s : System) : Event → Option System
  | .registerUser uuid => some (s.spawn ⟨s.procs.length, uuid, .serverInstanceLoadBalancer⟩)
  | .run i answer delivery => s.runProc (registerUser setting answer delivery) i

/-! ## Valid tokens -/

def Stage.isReturned : Stage → Bool
  | .returned _ => true
  | .thrown => true
  | _ => false

/-- All calls have finished. -/
def Finished (s : System) : Prop :=
  ∀ c ∈ s.procs, c.stage.isReturned = true

instance (s : System) : Decidable (Finished s) :=
  inferInstanceAs (Decidable (∀ c ∈ _, _))

/-- The token of a response with `SERVICE_SUCCESS`. -/
def Stage.token : Stage → Option String
  | .returned response => if response.error = .serviceSuccess then some response.token else none
  | _ => none

/-- `verifyUserToken` accepts every token that a response with `SERVICE_SUCCESS` carries. -/
def IssuedTokensValid (s : System) : Prop :=
  ∀ c ∈ s.procs, ∀ token, c.stage.token = some token →
    verifyUserToken .answered s.shared c.uuid token = .serviceSuccess

/-- A call that sets its token does so in Redis, and before any response with a token for its
    user. -/
def SetsFirst (s : System) : Event → Prop
  | .run i _ delivery => ∀ c server, s.procs[i]? = some c → c.stage = .registerUserInfo server →
      delivery ≠ .notExecuted ∧ ∀ c' ∈ s.procs, c'.uuid = c.uuid → c'.stage.token = none
  | .registerUser _ => True

/-! ## Keys and commands -/

theorem cString_tokenKey (uuid : Nat) : cString (tokenKey uuid) = tokenKey uuid := by
  have hprefix : ∀ c ∈ tokenPrefix.toList, c ≠ '\x00' := by simp [tokenPrefix]
  have htext : ∀ c ∈ (tokenKey uuid).toList, c ≠ '\x00' := by
    intro c hc
    unfold tokenKey at hc
    rw [String.toList_append] at hc
    rcases List.mem_append.mp hc with hc | hdigit
    · exact hprefix c hc
    · rintro rfl
      exact absurd (Text.isDigit_of_mem_repr hdigit) (by decide)
  unfold ChattingServer.RedisLock.cString
  rw [List.takeWhile_eq_self_iff.mpr (by simpa using htext), String.ofList_toList]

theorem tokenKey_injective : Function.Injective tokenKey := by
  intro uuid uuid' h
  exact Text.repr_injective ((String.append_right_inj tokenPrefix).mp h)

theorem tokenKey_ne_empty (uuid : Nat) : tokenKey uuid ≠ "" := by
  intro h
  have hlist := congrArg String.toList h
  unfold tokenKey at hlist
  rw [String.toList_append] at hlist
  exact absurd (List.append_eq_nil_iff.mp hlist).1 (by decide)

theorem checkValue_eq_some {delivery : Delivery} {store : Store} {key value : String}
    (h : checkValue delivery store key = some value) : store (cString key) = some value := by
  obtain ⟨-, h⟩ := Option.ite_none_left_eq_some.mp h
  obtain ⟨-, h⟩ := Option.ite_none_right_eq_some.mp h
  cases delivery with
  | answered =>
    cases hvalue : store (cString key) with
    | none => simp [redisCommand, get, hvalue] at h
    | some value' => simpa [redisCommand, get, hvalue] using h
  | replyLost | notExecuted => cases h

theorem getUserToken_eq_some {delivery : Delivery} {store : Store} {uuid : Nat} {token : String}
    (h : getUserToken delivery store uuid = some token) :
    store (tokenKey uuid) = some token ∧ token ≠ "" := by
  unfold getUserToken checkValue at h
  rw [if_neg (tokenKey_ne_empty uuid), cString_tokenKey] at h
  cases delivery with
  | answered =>
    cases hvalue : store (tokenKey uuid) with
    | none =>
      have hget : redisCommand .answered store (get (tokenKey uuid)) = (.nil, store) := by
        simp only [redisCommand, get, hvalue]
      rw [hget] at h
      cases h
    | some value =>
      have hget : redisCommand .answered store (get (tokenKey uuid)) = (.string value, store) := by
        simp only [redisCommand, get, hvalue]
      rw [hget] at h
      obtain ⟨hsuccessful, heq⟩ := Option.ite_none_right_eq_some.mp h
      obtain rfl := Option.some.inj heq
      exact ⟨rfl, by simpa [ChattingServer.RedisLock.RedisReply.isSuccessful] using hsuccessful⟩
  | replyLost => cases h
  | notExecuted => cases h

theorem getUserToken_answered {store : Store} {uuid : Nat} {token : String}
    (h : store (tokenKey uuid) = some token) (hne : token ≠ "") :
    getUserToken .answered store uuid = some token := by
  unfold getUserToken checkValue
  rw [if_neg (tokenKey_ne_empty uuid), cString_tokenKey]
  simp [redisCommand, get, h, ChattingServer.RedisLock.RedisReply.isSuccessful, hne]

/-- A token is accepted if it is the one in Redis. -/
theorem verifyUserToken_iff (store : Store) (uuid : Nat) (token : String) :
    verifyUserToken .answered store uuid token = .serviceSuccess ↔
      store (tokenKey uuid) = some token ∧ token ≠ "" := by
  unfold verifyUserToken
  constructor
  · intro h
    split at h
    · cases h
    · rename_i target htarget
      split at h
      · rename_i heq
        rw [← heq]
        exact getUserToken_eq_some htarget
      · cases h
  · intro h
    rw [getUserToken_answered h.1 h.2]
    simp

theorem registerUserInfo_eq (setting : Setting) {delivery : Delivery} (store : Store)
    (uuid n : Nat) :
    registerUserInfo delivery store uuid (setting.generate n) =
      if delivery = .notExecuted then store
      else Function.update store (tokenKey uuid) (some (setting.generate n)) := by
  unfold registerUserInfo setValue
  rw [if_neg (tokenKey_ne_empty uuid), cString_tokenKey, setting.text n]
  cases delivery with
  | answered => rfl
  | replyLost => rfl
  | notExecuted => rfl

/-! ## Steps -/

variable {setting : Setting} {s s' : System}

/-- The response with a token. -/
def issued (server : ServerConf) (token : String) : Stage :=
  .returned ⟨.serviceSuccess, server.host, server.port, token⟩

@[simp] theorem issued_token (server : ServerConf) (token : String) :
    (issued server token).token = some token := rfl

theorem step_cases {e : Event} (hstep : step setting s e = some s') :
    (∃ uuid, e = .registerUser uuid ∧
      s' = s.spawn ⟨s.procs.length, uuid, .serverInstanceLoadBalancer⟩) ∨
    (∃ i answer delivery c stage, e = .run i answer delivery ∧ s.procs[i]? = some c ∧
      c.stage.isReturned = false ∧ (∀ server, c.stage ≠ .registerUserInfo server) ∧
      (∀ token, stage.token = some token → s.shared (tokenKey c.uuid) = some token ∧ token ≠ "") ∧
      s' = ⟨s.shared, s.procs.set i { c with stage := stage }⟩) ∨
    ∃ i answer delivery c server, e = .run i answer delivery ∧ s.procs[i]? = some c ∧
      c.stage = .registerUserInfo server ∧
      s' = ⟨registerUserInfo delivery s.shared c.uuid (setting.generate c.id),
        s.procs.set i { c with stage := issued server (setting.generate c.id) }⟩ := by
  cases e with
  | registerUser uuid => exact Or.inl ⟨uuid, rfl, (Option.some.inj hstep).symm⟩
  | run i answer delivery =>
    obtain ⟨c, r, hc, hr, rfl⟩ := Pool.runProc_eq_some.mp hstep
    unfold registerUser at hr
    split at hr
    · rename_i hstage
      refine Or.inr (Or.inl ⟨i, answer, delivery, c, ?_⟩)
      split at hr
      · obtain rfl := Option.some.inj hr
        exact ⟨_, rfl, hc, by rw [hstage]; rfl, by simp [hstage], by simp [Stage.token], rfl⟩
      · obtain rfl := Option.some.inj hr
        exact ⟨_, rfl, hc, by rw [hstage]; rfl, by simp [hstage], by simp [Stage.token], rfl⟩
      · obtain rfl := Option.some.inj hr
        exact ⟨_, rfl, hc, by rw [hstage]; rfl, by simp [hstage], by simp [Stage.token], rfl⟩
    · rename_i server hstage
      refine Or.inr (Or.inl ⟨i, answer, delivery, c, ?_⟩)
      split at hr
      · rename_i token htoken
        obtain rfl := Option.some.inj hr
        refine ⟨_, rfl, hc, by rw [hstage]; rfl, by simp [hstage], ?_, rfl⟩
        intro token' htoken'
        obtain rfl : token = token' := by simpa [Stage.token] using htoken'
        exact getUserToken_eq_some htoken
      · obtain rfl := Option.some.inj hr
        exact ⟨_, rfl, hc, by rw [hstage]; rfl, by simp [hstage], by simp [Stage.token], rfl⟩
    · rename_i server hstage
      obtain rfl := Option.some.inj hr
      exact Or.inr (Or.inr ⟨i, answer, delivery, c, server, rfl, hc, hstage, rfl⟩)
    · cases hr
    · cases hr

/-! ## Tokens that nobody has yet -/

/-- The token of a call that has not finished is neither in Redis nor in a response. -/
structure Fresh (setting : Setting) (s : System) : Prop where
  ids : ∀ (i : Nat) (c : Call), s.procs[i]? = some c → c.id = i
  unused : ∀ n, (∀ c, s.procs[n]? = some c → c.stage.isReturned = false) →
    ∀ key, s.shared key ≠ some (setting.generate n)
  unissued : ∀ n, (∀ c, s.procs[n]? = some c → c.stage.isReturned = false) →
    ∀ c ∈ s.procs, c.stage.token ≠ some (setting.generate n)

theorem fresh_init : Fresh setting (init setting) where
  ids i c hc := by cases hc
  unused n _ key := setting.fresh n key
  unissued n _ c hc := absurd hc List.not_mem_nil

theorem isReturned_of_token {stage : Stage} {token : String} (h : stage.token = some token) :
    stage.isReturned = true := by
  unfold Stage.token at h
  split at h
  · rfl
  · cases h

theorem ids_set (h : ∀ (i : Nat) (c : Call), s.procs[i]? = some c → c.id = i) {i : Nat} {c : Call}
    (hc : s.procs[i]? = some c) (stage : Stage) (j : Nat) (c' : Call)
    (hc' : (s.procs.set i { c with stage := stage })[j]? = some c') : c'.id = j := by
  obtain ⟨hi, -⟩ := List.getElem?_eq_some_iff.mp hc
  by_cases hj : i = j
  · subst hj
    rw [List.getElem?_set_self hi] at hc'
    rw [← Option.some.inj hc']
    exact h i c hc
  · rw [List.getElem?_set_ne hj] at hc'
    exact h j c' hc'

/-- What has not finished after call `i` has moved on had not before, and is not call `i` if that
    has finished. -/
theorem unreturned_of_set {i n : Nat} {c : Call} (hc : s.procs[i]? = some c)
    (hbefore : c.stage.isReturned = false) {stage : Stage}
    (h : ∀ c', (s.procs.set i { c with stage := stage })[n]? = some c' →
      c'.stage.isReturned = false) :
    (∀ c', s.procs[n]? = some c' → c'.stage.isReturned = false) ∧
      (stage.isReturned = true → n ≠ i) := by
  obtain ⟨hi, -⟩ := List.getElem?_eq_some_iff.mp hc
  by_cases hn : i = n
  · subst hn
    have hstage := h _ (List.getElem?_set_self hi)
    constructor
    · intro c' hc'
      rw [← Option.some.inj (hc.symm.trans hc')]
      exact hbefore
    · intro hreturned
      rw [show stage.isReturned = false from hstage] at hreturned
      cases hreturned
  · rw [List.getElem?_set_ne hn] at h
    exact ⟨h, fun _ heq => hn heq.symm⟩

/-- A call that has not finished is the only one of its number. -/
theorem Fresh.pending (h : Fresh setting s) {i : Nat} {c : Call} (hc : s.procs[i]? = some c)
    (hbefore : c.stage.isReturned = false) :
    ∀ c', s.procs[c.id]? = some c' → c'.stage.isReturned = false := by
  intro c' hc'
  rw [h.ids i c hc] at hc'
  rw [← Option.some.inj (hc.symm.trans hc')]
  exact hbefore

theorem fresh_step {e : Event} (h : Fresh setting s) (hstep : step setting s e = some s') :
    Fresh setting s' := by
  rcases step_cases hstep with ⟨uuid, -, rfl⟩ |
    ⟨i, answer, delivery, c, stage, -, hc, hbefore, -, htoken, rfl⟩ |
    ⟨i, answer, delivery, c, server, -, hc, hstage, rfl⟩
  · have hold (n : Nat) (hn : ∀ c, (s.spawn ⟨s.procs.length, uuid,
        .serverInstanceLoadBalancer⟩).procs[n]? = some c → c.stage.isReturned = false) :
        ∀ c, s.procs[n]? = some c → c.stage.isReturned = false := by
      intro c hc
      refine hn c ?_
      simp only [Pool.spawn]
      rw [List.getElem?_append_left (List.getElem?_eq_some_iff.mp hc).1]
      exact hc
    refine ⟨?_, fun n hn => h.unused n (hold n hn), ?_⟩
    · intro i c hc
      simp only [Pool.spawn, List.getElem?_append] at hc
      split at hc
      · exact h.ids i c hc
      · rename_i hi
        rw [List.getElem?_singleton] at hc
        obtain ⟨hlast, heq⟩ := Option.ite_none_right_eq_some.mp hc
        rw [← Option.some.inj heq]
        show s.procs.length = i
        omega
    · intro n hn c hc
      rcases List.mem_append.mp hc with hmem | hnew
      · exact h.unissued n (hold n hn) c hmem
      · rw [List.mem_singleton.mp hnew]
        simp [Stage.token]
  · refine ⟨ids_set h.ids hc stage, ?_, ?_⟩
    · intro n hn
      exact h.unused n (unreturned_of_set hc hbefore hn).1
    · intro n hn c' hc'
      have hn' := (unreturned_of_set hc hbefore hn).1
      rcases List.mem_or_eq_of_mem_set hc' with hmem | rfl
      · exact h.unissued n hn' c' hmem
      · intro hissued
        exact h.unused n hn' _ (htoken _ hissued).1
  · have hbefore : c.stage.isReturned = false := by
      rw [hstage]
      rfl
    have hid := h.ids i c hc
    refine ⟨ids_set h.ids hc _, ?_, ?_⟩
    · intro n hn key
      obtain ⟨hn', hne⟩ := unreturned_of_set hc hbefore hn
      dsimp only
      rw [registerUserInfo_eq]
      split
      · exact h.unused n hn' key
      · by_cases hkey : key = tokenKey c.uuid
        · subst hkey
          rw [Function.update_self]
          intro heq
          exact hne rfl (setting.distinct (Option.some.inj heq) ▸ hid)
        · rw [Function.update_of_ne hkey]
          exact h.unused n hn' key
    · intro n hn c' hc'
      obtain ⟨hn', hne⟩ := unreturned_of_set hc hbefore hn
      rcases List.mem_or_eq_of_mem_set hc' with hmem | rfl
      · exact h.unissued n hn' c' hmem
      · intro heq
        simp only [issued_token, Option.some.injEq] at heq
        exact hne rfl (setting.distinct heq ▸ hid)

/-! ## Tokens issued -/

/-- A response that has its token from Redis or sets it first leaves all tokens valid. -/
theorem issuedTokensValid_step {e : Event} (h : IssuedTokensValid s) (hfirst : SetsFirst s e)
    (hstep : step setting s e = some s') : IssuedTokensValid s' := by
  intro c' hc' token' htoken'
  rw [verifyUserToken_iff]
  have hold (c' : Call) (hc' : c' ∈ s.procs) (htoken' : c'.stage.token = some token') :
      s.shared (tokenKey c'.uuid) = some token' ∧ token' ≠ "" :=
    (verifyUserToken_iff _ _ _).mp (h c' hc' token' htoken')
  rcases step_cases hstep with ⟨uuid, -, rfl⟩ |
    ⟨i, answer, delivery, c, stage, -, hc, -, -, htoken, rfl⟩ |
    ⟨i, answer, delivery, c, server, rfl, hc, hstage, rfl⟩
  · rcases List.mem_append.mp hc' with hmem | hnew
    · exact hold c' hmem htoken'
    · rw [List.mem_singleton.mp hnew] at htoken'
      cases htoken'
  · rcases List.mem_or_eq_of_mem_set hc' with hmem | rfl
    · exact hold c' hmem htoken'
    · exact htoken token' htoken'
  · obtain ⟨hsent, hnone⟩ := hfirst c server hc hstage
    dsimp only
    rw [registerUserInfo_eq, if_neg hsent]
    rcases List.mem_or_eq_of_mem_set hc' with hmem | rfl
    · have hkey : tokenKey c'.uuid ≠ tokenKey c.uuid := by
        intro heq
        rw [hnone c' hmem (tokenKey_injective heq)] at htoken'
        cases htoken'
      rw [Function.update_of_ne hkey]
      exact hold c' hmem htoken'
    · obtain rfl : setting.generate c.id = token' := Option.some.inj htoken'
      rw [Function.update_self]
      exact ⟨rfl, setting.nonempty c.id⟩

/-- A call that has a token already keeps its response. -/
theorem mem_set_of_token {i : Nat} {c : Call} (hc : s.procs[i]? = some c)
    (hbefore : c.stage.isReturned = false) (stage : Stage) {c' : Call} (hc' : c' ∈ s.procs)
    {token : String} (htoken : c'.stage.token = some token) :
    c' ∈ s.procs.set i { c with stage := stage } := by
  obtain ⟨j, hj⟩ := List.getElem?_of_mem hc'
  have hne : i ≠ j := by
    rintro rfl
    rw [Option.some.inj (hc.symm.trans hj), isReturned_of_token htoken] at hbefore
    cases hbefore
  rw [← List.getElem?_set_ne hne] at hj
  exact List.mem_of_getElem? hj

/-- A SET that is lost, or that replaces the token of a response, leaves a token that is not
    valid. -/
theorem not_issuedTokensValid_of_late {e : Event} (h : Fresh setting s)
    (hlate : ¬SetsFirst s e) (hstep : step setting s e = some s') : ¬IssuedTokensValid s' := by
  rcases step_cases hstep with ⟨uuid, rfl, -⟩ |
    ⟨i, answer, delivery, c, stage, rfl, hc, -, hstage, -, -⟩ |
    ⟨i, answer, delivery, c, server, rfl, hc, hstage, rfl⟩
  · exact absurd trivial hlate
  · refine absurd (fun c' server hc' hset => ?_) hlate
    obtain rfl := Option.some.inj (hc.symm.trans hc')
    exact absurd hset (hstage server)
  · obtain ⟨hi, -⟩ := List.getElem?_eq_some_iff.mp hc
    have hbefore : c.stage.isReturned = false := by
      rw [hstage]
      rfl
    have hpending := h.pending hc hbefore
    intro hvalid
    have hset : registerUserInfo delivery s.shared c.uuid (setting.generate c.id)
        (tokenKey c.uuid) = some (setting.generate c.id) :=
      ((verifyUserToken_iff _ _ _).mp (hvalid _ (List.mem_set hi _) _ rfl)).1
    rw [registerUserInfo_eq] at hset
    split at hset
    · exact h.unused c.id hpending _ hset
    · rename_i hsent
      refine hlate fun c₁ server₁ hc₁ _ => ?_
      obtain rfl := Option.some.inj (hc.symm.trans hc₁)
      refine ⟨hsent, fun c' hc' huuid => ?_⟩
      rw [Option.eq_none_iff_forall_ne_some]
      intro token htoken
      have hkept := (verifyUserToken_iff _ _ _).mp (hvalid c'
        (mem_set_of_token hc hbefore _ hc' htoken) token htoken)
      dsimp only at hkept
      rw [registerUserInfo_eq, if_neg hsent, huuid, Function.update_self] at hkept
      exact h.unissued c.id hpending c' hc' (htoken.trans hkept.1.symm)

/-- What is not valid stays so: the token of a response is never set again. -/
theorem not_issuedTokensValid_step {e : Event} (h : Fresh setting s)
    (hinvalid : ¬IssuedTokensValid s) (hstep : step setting s e = some s') :
    ¬IssuedTokensValid s' := by
  intro hvalid
  refine hinvalid fun c' hc' token htoken => ?_
  rw [verifyUserToken_iff]
  rcases step_cases hstep with ⟨uuid, rfl, rfl⟩ |
    ⟨i, answer, delivery, c, stage, rfl, hc, hbefore, -, -, rfl⟩ |
    ⟨i, answer, delivery, c, server, rfl, hc, hstage, rfl⟩
  · exact (verifyUserToken_iff _ _ _).mp
      (hvalid c' (List.mem_append_left _ hc') token htoken)
  · exact (verifyUserToken_iff _ _ _).mp
      (hvalid c' (mem_set_of_token hc hbefore _ hc' htoken) token htoken)
  · have hbefore : c.stage.isReturned = false := by
      rw [hstage]
      rfl
    have hpending := h.pending hc hbefore
    have hkept := (verifyUserToken_iff _ _ _).mp
      (hvalid c' (mem_set_of_token hc hbefore _ hc' htoken) token htoken)
    dsimp only at hkept
    rw [registerUserInfo_eq] at hkept
    split at hkept
    · exact hkept
    · by_cases hkey : tokenKey c'.uuid = tokenKey c.uuid
      · rw [hkey, Function.update_self] at hkept
        exact absurd (htoken.trans hkept.1.symm) (h.unissued c.id hpending c' hc')
      · rw [Function.update_of_ne hkey] at hkept
        exact hkept

/-- The tokens issued along a run are valid at its end exactly if each SET of the run has reached
    Redis, before any response with a token for its user. -/
theorem issuedTokensValid_iff (setting : Setting) {es : List Event}
    (hexec : Trace.exec (step setting) (init setting) es = some s) :
    IssuedTokensValid s ↔ Trace.Meets (step setting) SetsFirst (init setting) es := by
  have hinit : Fresh setting (init setting) ∧ IssuedTokensValid (init setting) :=
    ⟨fresh_init, fun c hc => absurd hc List.not_mem_nil⟩
  rcases Trace.meets_or_damaged (fun s => Fresh setting s ∧ IssuedTokensValid s)
    (fun s => Fresh setting s ∧ ¬IssuedTokensValid s)
    (fun _ _ _ h hfirst hstep => ⟨fresh_step h.1 hstep, issuedTokensValid_step h.2 hfirst hstep⟩)
    (fun _ _ _ h hlate hstep =>
      ⟨fresh_step h.1 hstep, not_issuedTokensValid_of_late h.1 hlate hstep⟩)
    (fun _ _ _ h hstep => ⟨fresh_step h.1 hstep, not_issuedTokensValid_step h.1 h.2 hstep⟩)
    hinit hexec with ⟨hmeets, -, hvalid⟩ | ⟨hlate, -, hinvalid⟩
  · exact ⟨fun _ => hmeets, fun _ => hvalid⟩
  · exact ⟨fun h => absurd h hinvalid, fun h => absurd h hlate⟩

/-- An empty Redis. -/
def someSetting : Setting where
  toTokenGenerator := ChattingServer.RedisLock.someTokens
  store _ := none
  nonempty n h := by
    have hlist := congrArg String.toList h
    simp [ChattingServer.RedisLock.someTokens, List.replicate_succ] at hlist
  fresh n key h := by cases h

def someServer : ServerConf :=
  ⟨"10.0.0.1", "8090", "im1"⟩

/-- The first login from one device, and then one from another. -/
def twoLogins : List Event :=
  [.registerUser 7, .run 0 (.server someServer) .answered, .run 0 .nullopt .answered,
    .run 0 .nullopt .answered, .registerUser 7, .run 1 (.server someServer) .answered,
    .run 1 .nullopt .answered]

theorem issuedTokensValid_twoLogins :
    ∃ s, Trace.exec (step someSetting) (init someSetting) twoLogins = some s ∧
      (IssuedTokensValid s ↔
        Trace.Meets (step someSetting) SetsFirst (init someSetting) twoLogins) :=
  ⟨_, rfl, issuedTokensValid_iff someSetting rfl⟩

/-- Two first logins that both find no token before either sets one. -/
def race : List Event :=
  [.registerUser 7, .registerUser 7, .run 0 (.server someServer) .answered,
    .run 1 (.server someServer) .answered, .run 0 .nullopt .answered, .run 1 .nullopt .answered,
    .run 0 .nullopt .answered, .run 1 .nullopt .answered]

/-- Both are told that they are registered, and the token of the first is refused. -/
theorem not_issuedTokensValid_race :
    ¬∀ es s, Trace.exec (step someSetting) (init someSetting) es = some s → Finished s →
      IssuedTokensValid s := by
  intro h
  have hvalid := h race _ rfl (by decide)
  exact absurd (hvalid _ List.mem_cons_self _ rfl) (by decide)

end UserTokens

end DistributedIM.BalanceServer
