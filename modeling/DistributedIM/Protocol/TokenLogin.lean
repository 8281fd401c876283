/-
  From the password to the token: the gateway checks a password and asks the balance server for a
  token of the account; the chatting server has the balance server compare the token that a client
  shows with the one in Redis. The verification server keeps its codes in the same Redis, under the
  email as it comes.

  `always_tokensProven_iff`: in every state of a run a token is accepted for a uuid only if the
  balance server made it for that uuid, after a login with the username and a password of that
  account; exactly if no code is stored for an email that is spelled like the key of a token. The
  gateway does not look at the spelling of an email.

  `registrations_handedOver`: a registration gets past the verification code only if a mail with a
  code was handed over for the email, or the email is spelled like the key of a token.

  Redis has no tokens at first. A token is not four characters long.
-/
import DistributedIM.CaptchaServer.VerificationServer
import DistributedIM.GatewayServer.Accounts
import DistributedIM.Lib.Outcome

namespace DistributedIM.Protocol.TokenLogin

open CaptchaServer GatewayServer
open BalanceServer.UserTokens (tokenKey verifyUserToken checkValue Setting Call System
  tokenKey_injective)
open ChattingServer.RedisLock (Delivery Store cString someTokens)

variable {sql : Collation}

/-- The Redis of all servers is the `shared` part of `balance`; the `store` of `captcha` is not
    used. -/
structure Servers (sql : Collation) where
  gateway : Gateway sql
  balance : System
  captcha : VerificationServer
  /-- for each call of `RegisterUser` the callback that made it -/
  called : List Nat

namespace Servers

/-- The verification server as it sees Redis. -/
def verification (s : Servers sql) : VerificationServer :=
  { s.captcha with store := s.balance.shared }

def start (setting : Setting) (t : Authentication sql) : Servers sql where
  gateway := .start t
  balance := BalanceServer.UserTokens.init setting
  captcha := .init
  called := []

/-! ## Steps -/

inductive Event
  | postRegistration (delivery : Delivery) (body : Option Json)
  | checkAccountexists (body : Option Json)
  | resetPassword (body : Option Json)
  | tryloginServer (body : Option Json)
  /-- callback `i` of the gateway goes on -/
  | callback (i : Nat) (statement : Statement)
  /-- callback `i` has its uuid and calls `RegisterUser` -/
  | addNewUserToServer (i : Nat)
  /-- call `i` of `RegisterUser` goes on -/
  | registerUser (i : Nat) (answer : BalanceServer.Answer) (delivery : Delivery)
  | captcha (e : VerificationServer.Event)

def toGateway (s : Servers sql) (e : Gateway.Event) : Option (Servers sql) :=
  (s.gateway.step e).map fun g => { s with gateway := g }

def addNewUserToServer (setting : Setting) (s : Servers sql) (i : Nat) : Option (Servers sql) :=
  match s.gateway.callbacks[i]? with
  | some (.answered (.allocated _ _ uuid)) =>
    if i ∈ s.called then none
    else
      (BalanceServer.UserTokens.step setting s.balance (.registerUser uuid)).map fun b =>
        { s with balance := b, called := s.called ++ [i] }
  | _ => none

/-- A SET of a token takes the time to live from its key. -/
def timeToLive (s : Servers sql) (i : Nat) (delivery : Delivery) : String → Bool :=
  match s.balance.procs[i]? with
  | some ⟨_, uuid, .registerUserInfo _⟩ =>
    if delivery = .notExecuted then s.captcha.mortal
    else Function.update s.captcha.mortal (tokenKey uuid) false
  | _ => s.captcha.mortal

def step (setting : Setting) (s : Servers sql) : Event → Option (Servers sql)
  | .postRegistration delivery body =>
    s.toGateway (.postRegistration (checkValue delivery s.balance.shared) body)
  | .checkAccountexists body => s.toGateway (.checkAccountexists body)
  | .resetPassword body => s.toGateway (.resetPassword body)
  | .tryloginServer body => s.toGateway (.tryloginServer body)
  | .callback i statement => s.toGateway (.run i statement)
  | .addNewUserToServer i => s.addNewUserToServer setting i
  | .registerUser i answer delivery =>
    (BalanceServer.UserTokens.step setting s.balance (.run i answer delivery)).map fun b =>
      { s with balance := b, captcha := { s.captcha with mortal := s.timeToLive i delivery } }
  | .captcha e =>
    (s.verification.step e).map fun c =>
      { s with captcha := c, balance := { s.balance with shared := c.store } }

/-! ## What is to hold -/

/-- Callback `i` has been a login to the account, with its username and a password it has had. -/
def LoggedIn (g : Gateway sql) (i uuid : Nat) : Prop :=
  ∃ username password, g.callbacks[i]? = some (.answered (.allocated username password uuid)) ∧
    ∃ v ∈ g.versions, v.row.uuid = uuid ∧ v.row.hasUsername sql username ∧
      sql.equal v.row.password password

/-- A token that is accepted for a uuid was made for that uuid, in the call of a login. -/
def TokensProven (setting : Setting) (s : Servers sql) : Prop :=
  ∀ uuid token, verifyUserToken .answered s.balance.shared uuid token = .serviceSuccess →
    ∃ c ∈ s.balance.procs, c.uuid = uuid ∧ setting.generate c.id = token ∧
      ∃ i, s.called[c.id]? = some i ∧ LoggedIn s.gateway i uuid

/-- No code is stored for an email that is spelled like the key of a token. -/
def Spares (s : Servers sql) : Event → Prop
  | .captcha (.run i delivery _) => ∀ r, s.captcha.requests[i]? = some r →
    ∀ code, r.stage = .setValue code → delivery ≠ .notExecuted → ∀ uuid, r.email ≠ tokenKey uuid
  | _ => True

/-- The email of a registration that is past its verification code. -/
def verifiedEmail : Callback → Option String
  | .findNew request | .createNewUser request | .getNewUuid request => some request.email
  | .answered (.registered send) => some send.email
  | _ => none

/-- The email is spelled like the key of a token. -/
def Disguised (email : String) : Prop :=
  ∃ uuid, cString email = tokenKey uuid

/-! ## What a step does -/

inductive Steps (setting : Setting) (s : Servers sql) : Event → Servers sql → Prop
  | gateway (e : Event) (g : Gateway sql) (ge : Gateway.Event)
      (hregistration : ∀ check body, ge = .postRegistration check body →
        ∃ delivery, check = checkValue delivery s.balance.shared)
      (hspares : s.Spares e) (hstep : s.gateway.step ge = some g) :
    Steps setting s e { s with gateway := g }
  | called (i : Nat) (username password : String) (uuid : Nat)
      (hcallback : s.gateway.callbacks[i]? = some (.answered (.allocated username password uuid))) :
    Steps setting s (.addNewUserToServer i)
      { s with
        balance := s.balance.spawn ⟨s.balance.procs.length, uuid, .serverInstanceLoadBalancer⟩
        called := s.called ++ [i] }
  | registerUser (i : Nat) (answer : BalanceServer.Answer) (delivery : Delivery)
      (b : System)
      (hstep : BalanceServer.UserTokens.step setting s.balance (.run i answer delivery) = some b) :
    Steps setting s (.registerUser i answer delivery)
      { s with balance := b, captcha := { s.captcha with mortal := s.timeToLive i delivery } }
  | captcha (e : VerificationServer.Event) (c : VerificationServer)
      (hstep : s.verification.step e = some c) :
    Steps setting s (.captcha e)
      { s with captcha := c, balance := { s.balance with shared := c.store } }

variable {setting : Setting} {s s' : Servers sql} {t : Authentication sql}

theorem steps_toGateway {e : Event} {ge : Gateway.Event} (hspares : s.Spares e)
    (hregistration : ∀ check body, ge = .postRegistration check body →
      ∃ delivery, check = checkValue delivery s.balance.shared)
    (h : s.toGateway ge = some s') : Steps setting s e s' := by
  obtain ⟨g, hg, rfl⟩ := Option.map_eq_some_iff.mp h
  exact .gateway e g ge hregistration hspares hg

theorem step_cases {e : Event} (hstep : s.step setting e = some s') : Steps setting s e s' := by
  cases e with
  | postRegistration delivery body =>
    refine steps_toGateway trivial (fun check body' heq => ⟨delivery, ?_⟩) hstep
    exact (Gateway.Event.postRegistration.inj heq).1.symm
  | checkAccountexists body =>
    exact steps_toGateway trivial (fun _ _ heq => Gateway.Event.noConfusion heq) hstep
  | resetPassword body =>
    exact steps_toGateway trivial (fun _ _ heq => Gateway.Event.noConfusion heq) hstep
  | tryloginServer body =>
    exact steps_toGateway trivial (fun _ _ heq => Gateway.Event.noConfusion heq) hstep
  | callback i statement =>
    exact steps_toGateway trivial (fun _ _ heq => Gateway.Event.noConfusion heq) hstep
  | addNewUserToServer i =>
    have hstep : s.addNewUserToServer setting i = some s' := hstep
    unfold addNewUserToServer at hstep
    split at hstep
    · rename_i username password uuid hcallback
      obtain ⟨-, hmap⟩ := Option.ite_none_left_eq_some.mp hstep
      obtain ⟨b, hb, rfl⟩ := Option.map_eq_some_iff.mp hmap
      obtain rfl := Option.some.inj hb
      exact .called i username password uuid hcallback
    · cases hstep
  | registerUser i answer delivery =>
    obtain ⟨b, hb, rfl⟩ := Option.map_eq_some_iff.mp hstep
    exact .registerUser i answer delivery b hb
  | captcha e =>
    obtain ⟨c, hc, rfl⟩ := Option.map_eq_some_iff.mp hstep
    exact .captcha e c hc

/-! ## Tokens -/

structure Inv (setting : Setting) (s : Servers sql) : Prop where
  gateway : s.gateway.Inv
  ids : ∀ (i : Nat) (c : Call), s.balance.procs[i]? = some c → c.id = i
  calls : s.called.length = s.balance.procs.length
  loggedIn : ∀ c ∈ s.balance.procs, ∃ i, s.called[c.id]? = some i ∧ LoggedIn s.gateway i c.uuid
  tokens : ∀ uuid token, s.balance.shared (tokenKey uuid) = some token →
    ∃ c ∈ s.balance.procs, c.uuid = uuid ∧ setting.generate c.id = token

theorem loggedIn_step {g g' : Gateway sql} {e : Gateway.Event} (hstep : g.step e = some g')
    {i uuid : Nat} (h : LoggedIn g i uuid) : LoggedIn g' i uuid := by
  obtain ⟨hanswers, hversions⟩ := Gateway.kept_step hstep
  obtain ⟨username, password, hanswer, v, hv, hrest⟩ := h
  exact ⟨username, password, hanswers i _ hanswer, v, hversions v hv, hrest⟩

theorem loggedIn_of_allocated {g : Gateway sql} (h : g.Inv) {username password : String}
    {i uuid : Nat} (hanswer : g.callbacks[i]? = some (.answered (.allocated username password uuid))) :
    LoggedIn g i uuid :=
  ⟨username, password, hanswer, h.evidence _ (List.mem_of_getElem? hanswer)⟩

theorem inv_start (hkeys : Gateway.PrimaryKey t.rows)
    (htokens : ∀ uuid, setting.store (tokenKey uuid) = none) : Inv setting (start setting t) where
  gateway := Gateway.inv_start hkeys
  ids i c hc := by cases hc
  calls := rfl
  loggedIn c hc := by cases hc
  tokens uuid token h := by
    rw [show (start setting t).balance.shared = setting.store from rfl, htokens] at h
    cases h

theorem inv_gateway {g : Gateway sql} {e : Gateway.Event} (h : Inv setting s)
    (hstep : s.gateway.step e = some g) : Inv setting { s with gateway := g } :=
  ⟨Gateway.inv_step h.gateway hstep, h.ids, h.calls,
    fun c hc => (h.loggedIn c hc).imp fun _ hi => ⟨hi.1, loggedIn_step hstep hi.2⟩, h.tokens⟩

theorem inv_called {username password : String} {i uuid : Nat} (h : Inv setting s)
    (hcallback : s.gateway.callbacks[i]? = some (.answered (.allocated username password uuid))) :
    Inv setting { s with
      balance := s.balance.spawn ⟨s.balance.procs.length, uuid, .serverInstanceLoadBalancer⟩
      called := s.called ++ [i] } := by
  refine ⟨h.gateway, fun i c hc => ?_, ?_, fun c hc => ?_, fun uuid' token htoken => ?_⟩
  · simp only [Pool.spawn, List.getElem?_append] at hc
    split at hc
    · exact h.ids i c hc
    · rename_i hi
      rw [List.getElem?_singleton] at hc
      obtain ⟨hlast, heq⟩ := Option.ite_none_right_eq_some.mp hc
      rw [← Option.some.inj heq]
      show s.balance.procs.length = i
      omega
  · simp only [Pool.spawn, List.length_append, h.calls, List.length_singleton]
  · rcases List.mem_append.mp hc with hold | hnew
    · obtain ⟨j, hj, hlogin⟩ := h.loggedIn c hold
      obtain ⟨hlt, -⟩ := List.getElem?_eq_some_iff.mp hj
      exact ⟨j, (List.getElem?_append_left hlt).trans hj, hlogin⟩
    · rw [List.mem_singleton.mp hnew]
      refine ⟨i, ?_, loggedIn_of_allocated h.gateway hcallback⟩
      dsimp only
      rw [← h.calls, List.getElem?_concat_length]
  · obtain ⟨c, hc, hrest⟩ := h.tokens uuid' token htoken
    exact ⟨c, List.mem_append_left _ hc, hrest⟩

/-- A call of `RegisterUser` keeps its number and its uuid, and sets a token of its own at most. -/
theorem registerUser_spec {i : Nat} {answer : BalanceServer.Answer} {delivery : Delivery}
    {b b' : System}
    (hstep : BalanceServer.UserTokens.step setting b (.run i answer delivery) = some b') :
    ∃ c stage, b.procs[i]? = some c ∧ b'.procs = b.procs.set i { c with stage := stage } ∧
      (b'.shared = b.shared ∨ b'.shared =
        Function.update b.shared (tokenKey c.uuid) (some (setting.generate c.id))) := by
  rcases BalanceServer.UserTokens.step_cases hstep with ⟨uuid, he, -⟩ |
    ⟨j, answer', delivery', c, stage, he, hc, -, -, -, rfl⟩ |
    ⟨j, answer', delivery', c, server, he, hc, -, rfl⟩
  · cases he
  · cases he
    exact ⟨c, stage, hc, rfl, .inl rfl⟩
  · cases he
    refine ⟨c, _, hc, rfl, ?_⟩
    dsimp only
    rw [BalanceServer.UserTokens.registerUserInfo_eq]
    split
    · exact .inl rfl
    · exact .inr rfl

theorem inv_registerUser {i : Nat} {answer : BalanceServer.Answer} {delivery : Delivery}
    {b : System} (h : Inv setting s)
    (hstep : BalanceServer.UserTokens.step setting s.balance (.run i answer delivery) = some b)
    (captcha : VerificationServer) :
    Inv setting { s with balance := b, captcha := captcha } := by
  obtain ⟨c, stage, hc, hprocs, hshared⟩ := registerUser_spec hstep
  obtain ⟨hi, -⟩ := List.getElem?_eq_some_iff.mp hc
  have hmem := List.mem_of_getElem? hc
  have hnew : { c with stage := stage } ∈ b.procs := by
    rw [hprocs]
    exact List.mem_set hi _
  -- each call is still there, at another stage perhaps
  have hkept : ∀ c' ∈ s.balance.procs, ∃ c'' ∈ b.procs, c''.id = c'.id ∧ c''.uuid = c'.uuid := by
    intro c' hc'
    obtain ⟨j, hj⟩ := List.mem_iff_getElem?.mp hc'
    by_cases hij : i = j
    · subst hij
      obtain rfl := Option.some.inj (hc.symm.trans hj)
      exact ⟨_, hnew, rfl, rfl⟩
    · rw [← List.getElem?_set_ne hij, ← hprocs] at hj
      exact ⟨c', List.mem_of_getElem? hj, rfl, rfl⟩
  refine ⟨h.gateway, fun j c' hc' => ?_, ?_, fun c' hc' => ?_, fun uuid token htoken => ?_⟩
  · dsimp only at hc'
    rw [hprocs] at hc'
    exact BalanceServer.UserTokens.ids_set h.ids hc stage j c' hc'
  · dsimp only
    rw [hprocs, List.length_set, h.calls]
  · dsimp only at hc'
    rw [hprocs] at hc'
    rcases List.mem_or_eq_of_mem_set hc' with hold | rfl
    · exact h.loggedIn c' hold
    · exact h.loggedIn c hmem
  · dsimp only at htoken
    have hold : s.balance.shared (tokenKey uuid) = some token →
        ∃ c' ∈ b.procs, c'.uuid = uuid ∧ setting.generate c'.id = token := by
      intro hold
      obtain ⟨c', hc', huuid, hgenerate⟩ := h.tokens uuid token hold
      obtain ⟨c'', hc'', hid, huuid'⟩ := hkept c' hc'
      exact ⟨c'', hc'', huuid'.trans huuid, by rw [hid, hgenerate]⟩
    rcases hshared with hsame | hset
    · rw [hsame] at htoken
      exact hold htoken
    · rw [hset] at htoken
      by_cases huuid : uuid = c.uuid
      · rw [huuid, Function.update_self] at htoken
        exact ⟨_, hnew, huuid.symm, Option.some.inj htoken⟩
      · rw [Function.update_of_ne fun hkey => huuid (tokenKey_injective hkey)] at htoken
        exact hold htoken

/-- What a step of the verification server does to Redis. -/
theorem captcha_spec {e : VerificationServer.Event} {v v' : VerificationServer}
    (hstep : v.step e = some v') :
    (∀ key value, v'.store key = some value → v.store key = some value) ∨
      ∃ (i : Nat) (delivery : Delivery) (fresh : Code) (r : Request) (code : Code),
        e = .run i delivery fresh ∧ v.requests[i]? = some r ∧ r.stage = .setValue code ∧
          delivery ≠ .notExecuted ∧ v'.store = Function.update v.store r.email (some code.val) := by
  cases e with
  | getVerificationCode email =>
    obtain rfl := Option.some.inj hstep
    exact .inl fun _ _ h => h
  | crash =>
    obtain rfl := Option.some.inj hstep
    exact .inl fun _ _ h => h
  | lapse key =>
    obtain ⟨-, hv'⟩ := Option.ite_none_right_eq_some.mp hstep
    obtain rfl := Option.some.inj hv'
    refine .inl fun key' value hvalue => ?_
    dsimp only at hvalue
    by_cases hkey : key' = key
    · rw [hkey, Function.update_self] at hvalue
      cases hvalue
    · rwa [Function.update_of_ne hkey] at hvalue
  | run i delivery fresh =>
    obtain ⟨r, ⟨store', r'⟩, hr, hrun, rfl⟩ := VerificationServer.run_eq_some hstep
    rcases VerificationServer.store_run hrun with rfl | ⟨hexecuted, code, hstage, rfl⟩
    · exact .inl fun _ _ h => h
    · exact .inr ⟨i, delivery, fresh, r, code, rfl, hr, hstage, hexecuted, rfl⟩

theorem inv_captcha {e : VerificationServer.Event} {c : VerificationServer} (h : Inv setting s)
    (hspares : s.Spares (.captcha e)) (hstep : s.verification.step e = some c) :
    Inv setting { s with captcha := c, balance := { s.balance with shared := c.store } } := by
  refine ⟨h.gateway, h.ids, h.calls, h.loggedIn, fun uuid token htoken => h.tokens uuid token ?_⟩
  dsimp only at htoken
  rcases captcha_spec hstep with hkept |
    ⟨i, delivery, fresh, r, code, rfl, hr, hstage, hexecuted, hset⟩
  · exact hkept _ _ htoken
  · have hother : r.email ≠ tokenKey uuid := hspares r hr code hstage hexecuted uuid
    rw [hset, Function.update_of_ne hother.symm] at htoken
    exact htoken

theorem inv_step {e : Event} (h : Inv setting s) (hspares : s.Spares e)
    (hstep : s.step setting e = some s') : Inv setting s' := by
  cases step_cases hstep with
  | gateway e g ge _ _ hgateway => exact inv_gateway h hgateway
  | called i username password uuid hcallback => exact inv_called h hcallback
  | registerUser i answer delivery b hbalance => exact inv_registerUser h hbalance _
  | captcha e c hcaptcha => exact inv_captcha h hspares hcaptcha

theorem tokensProven_of_inv (h : Inv setting s) : TokensProven setting s := by
  intro uuid token hverify
  obtain ⟨htoken, -⟩ := (BalanceServer.UserTokens.verifyUserToken_iff _ _ _).mp hverify
  obtain ⟨c, hc, rfl, hgenerate⟩ := h.tokens uuid token htoken
  exact ⟨c, hc, rfl, hgenerate, h.loggedIn c hc⟩

/-- A code under the key of a token is accepted as one. -/
theorem not_tokensProven_of_code (hlength : ∀ n, (setting.generate n).length ≠ 4) {e : Event}
    (hspares : ¬s.Spares e) (hstep : s.step setting e = some s') : ¬TokensProven setting s' := by
  intro hproven
  cases step_cases hstep with
  | gateway e g ge _ hgood _ => exact hspares hgood
  | called i username password uuid hcallback => exact hspares trivial
  | registerUser i answer delivery b hbalance => exact hspares trivial
  | captcha e c hcaptcha =>
    cases e with
    | getVerificationCode _ | lapse _ | crash => exact hspares trivial
    | run i delivery fresh =>
      refine hspares fun r hr code hstage hexecuted uuid hemail => ?_
      obtain ⟨r', ⟨store', r''⟩, hr', hrun, rfl⟩ := VerificationServer.run_eq_some hcaptcha
      obtain rfl : r = r' := Option.some.inj (hr.symm.trans hr')
      have hstore : store' (tokenKey uuid) = some code.val := by
        unfold Request.run at hrun
        rw [hstage] at hrun
        obtain ⟨rfl, -⟩ := Prod.mk.inj (Option.some.inj hrun)
        rw [VerificationServer.store_set, if_neg hexecuted, hemail, Function.update_self]
      have hnonempty : code.val ≠ "" := by
        intro hempty
        have hfour := code.property
        rw [hempty] at hfour
        cases hfour
      obtain ⟨call, -, -, hgenerate, -⟩ := hproven uuid code.val
        ((BalanceServer.UserTokens.verifyUserToken_iff _ _ _).mpr ⟨hstore, hnonempty⟩)
      exact hlength call.id (by rw [hgenerate]; exact code.property)

/-- In every state of a run each token that is accepted was made for its uuid, after a login with
    the username and a password of the account, exactly if no step of the run stores a code for an
    email that is spelled like the key of a token. -/
theorem always_tokensProven_iff (hlength : ∀ n, (setting.generate n).length ≠ 4)
    (htokens : ∀ uuid, setting.store (tokenKey uuid) = none) (hkeys : Gateway.PrimaryKey t.rows)
    (es : List Event) :
    Trace.Always (step setting) (TokensProven setting) (start setting t) es ↔
      Trace.Meets (step setting) Spares (start setting t) es :=
  Trace.always_iff_meets (Inv setting) (fun _ => tokensProven_of_inv)
    (fun _ _ _ h hspares hstep => inv_step h hspares hstep)
    (fun _ _ _ _ hbad hstep => not_tokensProven_of_code hlength hbad hstep)
    (inv_start hkeys htokens) es

/-- Tokens of five characters and more. -/
def longTokens : Setting where
  generate n := someTokens.generate (n + 4)
  distinct n m h := by
    have hsame := someTokens.distinct h
    omega
  text n := someTokens.text (n + 4)
  store _ := none
  nonempty n := BalanceServer.UserTokens.someSetting.nonempty (n + 4)
  fresh n key h := by cases h

theorem length_longTokens (n : Nat) : (longTokens.generate n).length ≠ 4 := by
  show (String.ofList (List.replicate (n + 4 + 1) 'a')).length ≠ 4
  rw [String.length_ofList, List.length_replicate]
  omega

/-- A code for the email `user_token_1`. -/
def disguisedEmail : List Event :=
  [.captcha (.getVerificationCode "user_token_1"), .captcha (.run 0 .answered ⟨"abcd", rfl⟩),
    .captcha (.run 0 .answered ⟨"abcd", rfl⟩)]

theorem always_tokensProven_iff_disguisedEmail :
    Trace.Always (step longTokens) (TokensProven longTokens) (start longTokens oneAccount)
        disguisedEmail ↔
      Trace.Meets (step longTokens) Spares (start longTokens oneAccount) disguisedEmail :=
  always_tokensProven_iff length_longTokens (fun _ => rfl) Gateway.primaryKey_oneAccount _

/-! ## Registrations -/

/-- A request for a registration that is read has an email with a code. -/
theorem checkValue_of_readRegistration {check : String → Option String} {body : Option Json}
    {request : MySQLRequestStruct} (h : readRegistration check body = .ok request) :
    ∃ cpatcha, check request.email = some cpatcha := by
  unfold readRegistration at h
  obtain ⟨root, -, h⟩ := Outcome.bind_eq_ok.mp h
  dsimp only at h
  split at h
  · cases h
  obtain ⟨username, -, h⟩ := Outcome.bind_eq_ok.mp h
  obtain ⟨password, -, h⟩ := Outcome.bind_eq_ok.mp h
  obtain ⟨email, -, h⟩ := Outcome.bind_eq_ok.mp h
  obtain ⟨cpatcha, -, h⟩ := Outcome.bind_eq_ok.mp h
  obtain ⟨_, hverify, h⟩ := Outcome.bind_eq_ok.mp h
  obtain rfl := Except.ok.inj h
  unfold verify at hverify
  split at hverify
  · cases hverify
  · rename_i code hcode
    exact ⟨code, hcode⟩

/-- Every step of a callback keeps its email. -/
theorem verifiedEmail_run {statement : Statement} {table table' : Authentication sql}
    {callback callback' : Callback} {request : Option MySQLRequestStruct} {email : String}
    (hrun : callback.run statement table = some (table', callback', request))
    (h : verifiedEmail callback' = some email) : verifiedEmail callback = some email := by
  unfold Callback.run at hrun
  split at hrun <;> simp only [Option.some.injEq, Prod.mk.injEq, reduceCtorEq] at hrun <;>
    obtain ⟨-, rfl, -⟩ := hrun
  · split at h
    · cases h
    · exact h
  · exact h
  · split at h
    · cases h
    · exact h
  · rename_i username email'
    cases havailable : Callback.available statement table username email' <;>
      rw [havailable] at h <;> cases h
  · split at h <;> cases h
  · cases h
  · split at h <;> cases h
  · split at h <;> cases h

/-- An email of the gateway was one before, or comes with a registration that has its code. -/
theorem verifiedEmail_step {g g' : Gateway sql} {e : Gateway.Event} (hstep : g.step e = some g')
    {callback : Callback} (hcallback : callback ∈ g'.callbacks) {email : String}
    (h : verifiedEmail callback = some email) :
    (∃ callback ∈ g.callbacks, verifiedEmail callback = some email) ∨
      ∃ check body cpatcha, e = .postRegistration check body ∧ check email = some cpatcha := by
  have hreceive {new : Callback} (hmem : callback ∈ (g.receive new).callbacks)
      (hnew : callback = new → verifiedEmail callback ≠ some email) :
      ∃ callback ∈ g.callbacks, verifiedEmail callback = some email := by
    rcases List.mem_append.mp hmem with hold | hlast
    · exact ⟨callback, hold, h⟩
    · exact absurd h (hnew (List.mem_singleton.mp hlast))
  cases e with
  | postRegistration check body =>
    obtain rfl := Option.some.inj hstep
    rcases List.mem_append.mp hcallback with hold | hlast
    · exact .inl ⟨callback, hold, h⟩
    · obtain rfl := List.mem_singleton.mp hlast
      unfold Callback.postRegistration at h
      split at h
      · cases h
      · rename_i request hrequest
        obtain rfl := Option.some.inj h
        obtain ⟨cpatcha, hcpatcha⟩ := checkValue_of_readRegistration hrequest
        exact .inr ⟨check, body, cpatcha, rfl, hcpatcha⟩
  | checkAccountexists body =>
    obtain rfl := Option.some.inj hstep
    refine .inl (hreceive hcallback ?_)
    rintro rfl
    unfold Callback.checkAccountexists
    split <;> exact fun hsome => by cases hsome
  | resetPassword body =>
    obtain rfl := Option.some.inj hstep
    refine .inl (hreceive hcallback ?_)
    rintro rfl
    unfold Callback.resetPassword
    split <;> exact fun hsome => by cases hsome
  | tryloginServer body =>
    obtain rfl := Option.some.inj hstep
    refine .inl (hreceive hcallback ?_)
    rintro rfl
    unfold Callback.tryloginServer
    split <;> exact fun hsome => by cases hsome
  | run i statement =>
    obtain ⟨callback₀, hi, hmap⟩ := Option.bind_eq_some_iff.mp hstep
    obtain ⟨r, hrun, rfl⟩ := Option.map_eq_some_iff.mp hmap
    rcases List.mem_or_eq_of_mem_set hcallback with hold | rfl
    · exact .inl ⟨callback, hold, h⟩
    · exact .inl ⟨callback₀, List.mem_of_getElem? hi, verifiedEmail_run hrun h⟩

/-- What is in Redis, and what is on its way there, is in a mail that was handed over, or a token. -/
structure Verified (s : Servers sql) : Prop where
  handedOver : s.verification.HandedOver fun key => ∃ uuid, key = tokenKey uuid
  emails : ∀ callback ∈ s.gateway.callbacks, ∀ email, verifiedEmail callback = some email →
    Disguised email ∨ ∃ code, (cString email, code) ∈ s.captcha.mails

theorem verified_start (hstore : ∀ key, (∃ uuid, key = tokenKey uuid) ∨ setting.store key = none) :
    Verified (start setting t) where
  handedOver := by
    refine ⟨fun key code h => (hstore key).elim .inr fun hnone => ?_, fun r hr => by cases hr⟩
    rw [show (start setting t).verification.store = setting.store from rfl, hnone] at h
    cases h
  emails callback hcallback := by cases hcallback

theorem verified_gateway {g : Gateway sql} {ge : Gateway.Event} (h : Verified s)
    (hregistration : ∀ check body, ge = .postRegistration check body →
      ∃ delivery, check = checkValue delivery s.balance.shared)
    (hstep : s.gateway.step ge = some g) : Verified { s with gateway := g } := by
  refine ⟨h.handedOver, fun callback hcallback email hemail => ?_⟩
  rcases verifiedEmail_step hstep hcallback hemail with
    ⟨callback₀, hcallback₀, hemail₀⟩ | ⟨check, body, cpatcha, hpost, hcheck⟩
  · exact h.emails callback₀ hcallback₀ email hemail₀
  · obtain ⟨delivery, rfl⟩ := hregistration check body hpost
    have hcode := BalanceServer.UserTokens.checkValue_eq_some hcheck
    exact (h.handedOver.store _ cpatcha hcode).symm.imp_right fun hmail => ⟨cpatcha, hmail⟩

theorem verified_registerUser {i : Nat} {answer : BalanceServer.Answer} {delivery : Delivery}
    {b : System} (h : Verified s)
    (hstep : BalanceServer.UserTokens.step setting s.balance (.run i answer delivery) = some b) :
    Verified { s with
      balance := b, captcha := { s.captcha with mortal := s.timeToLive i delivery } } := by
  obtain ⟨c, stage, -, -, hshared⟩ := registerUser_spec hstep
  refine ⟨⟨fun key code hcode => ?_, h.handedOver.requests⟩, h.emails⟩
  have hcode : b.shared key = some code := hcode
  rcases hshared with hsame | hset
  · rw [hsame] at hcode
    exact h.handedOver.store key code hcode
  · by_cases hkey : key = tokenKey c.uuid
    · exact .inr ⟨c.uuid, hkey⟩
    · rw [hset, Function.update_of_ne hkey] at hcode
      exact h.handedOver.store key code hcode

theorem verified_step {e : Event} (h : Verified s) (hstep : s.step setting e = some s') :
    Verified s' := by
  cases step_cases hstep with
  | gateway e g ge hregistration _ hgateway => exact verified_gateway h hregistration hgateway
  | called i username password uuid hcallback => exact ⟨h.handedOver, h.emails⟩
  | registerUser i answer delivery b hbalance => exact verified_registerUser h hbalance
  | captcha e c hcaptcha =>
    refine ⟨VerificationServer.handedOver_step h.handedOver hcaptcha, ?_⟩
    intro callback hcallback email hemail
    refine (h.emails callback hcallback email hemail).imp_right ?_
    rintro ⟨code, hmail⟩
    exact ⟨code, VerificationServer.mails_step hcaptcha hmail⟩

/-- A registration that is past its verification code has an email for which, as the gateway asks
    Redis for it, the captcha server has handed a mail with a code to the transport; or the email is
    spelled like the key of a token. -/
theorem registrations_handedOver
    (hstore : ∀ key, (∃ uuid, key = tokenKey uuid) ∨ setting.store key = none)
    (h : Trace.Reaches (step setting) (start setting t) s) :
    ∀ callback ∈ s.gateway.callbacks, ∀ email, verifiedEmail callback = some email →
      Disguised email ∨ ∃ code, (cString email, code) ∈ s.captcha.mails :=
  (Trace.invariant Verified (fun _ _ _ => verified_step) (verified_start hstore) h).emails

/-- A code is made and entered. -/
def enteredCode : List Event :=
  [.captcha (.getVerificationCode "carol@a.com"), .captcha (.run 0 .answered ⟨"abcd", rfl⟩),
    .captcha (.run 0 .answered ⟨"abcd", rfl⟩),
    .postRegistration .answered (some (.object [("username", .string "carol"),
      ("password", .string "secret"), ("email", .string "carol@a.com"),
      ("cpatcha", .string "abcd")]))]

theorem registrations_handedOver_enteredCode :
    ∃ s, Trace.exec (step longTokens) (start longTokens oneAccount) enteredCode = some s ∧
      (Disguised "carol@a.com" ∨ ∃ code, (cString "carol@a.com", code) ∈ s.captcha.mails) := by
  have hstore (key : String) : (∃ uuid, key = tokenKey uuid) ∨ longTokens.store key = none :=
    .inr rfl
  refine ⟨_, rfl, registrations_handedOver hstore (t := oneAccount) ⟨enteredCode, rfl⟩
    (.findNew ⟨"carol", "secret", "carol@a.com"⟩) ?_ _ rfl⟩
  exact List.mem_cons_self ..

end Servers

end DistributedIM.Protocol.TokenLogin
