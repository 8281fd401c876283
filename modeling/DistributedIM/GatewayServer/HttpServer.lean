/-
  The HTTP side of the gateway server: `GateServer` with its accepts and its map of sessions,
  `HTTPConnection` from the first byte to the last, and `HandleMethod`, which hands a request to a
  callback. Each context of the pool has one thread: while a callback runs, or `handleAccept`, no
  other handler of that context does. What the callbacks do to the accounts is `Accounts`; this
  server runs that one (`gateway_reaches`).

  `always_alive_iff`: nobody catches what a callback throws, so the process lives through a run
  exactly if every request it reads is `Harmless`. `uuid_eq_iff_username`: the answers reach the
  connections they are for, and the uuids in them identify accounts.

  What `boost::json::parse` and `url_view` accept is a parameter, and so is how many descriptors the
  process has for connections.
-/
import DistributedIM.GatewayServer.Accounts
import DistributedIM.Lib.Outcome

namespace DistributedIM.GatewayServer.HttpServer

variable {sql : Collation}

/-! ## Requests and responses -/

/-- The methods that `process_request` tells apart. -/
inductive Verb
  | get
  | post
  | other
  deriving DecidableEq, Repr

structure HttpRequest where
  method : Verb
  target : String
  body : String
  deriving DecidableEq, Repr

inductive HttpResponse
  /-- `ok` with the JSON of `send_obj` -/
  | ok (body : Json)
  /-- `not_found` with `404 Not Found!` -/
  | notFound

/-- What `addNewUserToServer` returns. -/
structure GrpcResponse where
  error : Nat
  host : String
  port : String
  token : String
  deriving DecidableEq, Repr

/-- What the server uses of Boost to read requests. -/
structure Boost where
  /-- `boost::json::parse`; none: it throws -/
  parse : String → Option Json
  /-- `url_view` does not throw -/
  isUrl : String → Bool

/-- The numbers of the `ServiceStatus`es. -/
def statusCode : ErrorStatus → Nat
  | .jsonparseError => 1
  | .redisUnkownError => 12
  | .redisCpatchaNotFound => 13
  | .mysqlInternalError => 14
  | .loginUnsuccessful => 18

/-- `generateErrorMessage` -/
def errorMessage (code : Nat) : Json :=
  .object [("error", .number code.repr)]

/-- The body that is made of the answer; none: the callback has thrown. -/
def answerBody (grpc : GrpcResponse) : Answer → Option Json
  | .refused none => none
  | .refused (some status) => some (errorMessage (statusCode status))
  | .accountNotExists => some (errorMessage 16)
  | .missingInfo => some (errorMessage 15)
  | .loginInfoError => some (errorMessage 17)
  | .registered send => some (.object [("error", .number "0"), ("username", .string send.username),
      ("password", .string send.password), ("email", .string send.email),
      ("uuid", .string send.uuid)])
  | .found username email => some (.object [("error", .number "0"),
      ("username", .string username), ("email", .string email)])
  | .passwordReset => some (errorMessage 0)
  | .allocated _ _ uuid => some (.object [("uuid", .string uuid.repr),
      ("error", .number grpc.error.repr), ("host", .string grpc.host),
      ("port", .string grpc.port), ("token", .string grpc.token)])

/-! ## Callbacks -/

/-- `/get_verification`, up to the call of the captcha server. -/
def readVerification (body : Option Json) : Except Refusal String := do
  let root ← readObject ["email"] body
  textField root "email"

/-- A callback as `post_method_callback` has it, started with a body. -/
inductive PostCallback
  | getVerification (email : Except Refusal String)
  | account (callback : Callback)

/-- `post_method_callback.find`; a query in the target is part of the key. -/
def postMethodCallback (checkValue : String → Option String) (target : String)
    (body : Option Json) : Option PostCallback :=
  if target = "/get_verification" then some (.getVerification (readVerification body))
  else if target = "/post_registration" then some (.account (.postRegistration checkValue body))
  else if target = "/check_accountexists" then some (.account (.checkAccountexists body))
  else if target = "/reset_password" then some (.account (.resetPassword body))
  else if target = "/trylogin_server" then some (.account (.tryloginServer body))
  else none

/-- An exception of `value_to` leaves the callback. -/
def throws : Callback → Bool
  | .answered (.refused none) => true
  | _ => false

/-! ## The server -/

/-- The timer of a connection; its expiry is set when it is constructed. -/
inductive Timer
  /-- `check_timeout` has not come to `async_wait` -/
  | unset
  | waiting
  | cancelled
  | fired
  deriving DecidableEq, Repr

inductive Stage
  /-- in `async_read` -/
  | reading
  /-- `async_read` has ended with an error, and nothing is done about it -/
  | unread
  /-- in `getVerificationCode` -/
  | verifying (email : String)
  /-- in a callback of the accounts -/
  | handling (callback : Nat)
  /-- in `async_write` -/
  | writing (response : HttpResponse)
  | written (response : HttpResponse)

/-- The thread of the context is in a callback. -/
def Stage.isHandling : Stage → Bool
  | .verifying _ | .handling _ => true
  | _ => false

/-- An `HTTPConnection` with the socket of its session. -/
structure Connection where
  context : Nat
  request : Option HttpRequest
  stage : Stage
  timer : Timer
  isOpen : Bool

/-- What `handleAccept` does next; the session has the uuid, the connection the number. -/
inductive HandleAccept
  | idle
  | checkTimeout (uuid : Nat) (i : Nat)
  | insert (uuid : Nat) (i : Nat)
  | serverStart
  deriving DecidableEq, Repr

/-- The acceptor has the first context. -/
structure GateServer (sql : Collation) where
  gateway : Gateway sql
  connections : List Connection
  /-- the uuids of the sessions in `async_accept` -/
  accepting : List Nat
  /-- the next uuid that the generator gives -/
  nextUuid : Nat
  handler : HandleAccept
  /-- `m_sessions` -/
  sessions : List (Nat × Nat)
  alive : Bool

/-- The constructor and `main` have each called `serverStart`. -/
def start (t : Authentication sql) : GateServer sql where
  gateway := .start t
  connections := []
  accepting := [0, 1]
  nextUuid := 2
  handler := .idle
  sessions := []
  alive := true

inductive Event
  /-- a client is connected; its session has the context -/
  | accept (context : Nat)
  /-- `handleAccept` with an error -/
  | acceptFails
  /-- `handleAccept` goes on -/
  | handleAccept
  /-- connection `i` has read the request -/
  | read (i : Nat) (request : HttpRequest) (checkValue : String → Option String)
  | readFails (i : Nat)
  /-- the callback of connection `i` goes on -/
  | callback (i : Nat) (statement : Statement)
  /-- the callback of connection `i` returns -/
  | answer (i : Nat) (grpc : GrpcResponse)
  /-- `getVerificationCode` returns -/
  | verificationCode (i : Nat) (error : Nat)
  /-- `async_write` has ended, well or not; `expired`: the handler of the timer is already due -/
  | written (i : Nat) (expired : Bool)
  /-- the timer of connection `i` has expired -/
  | timeout (i : Nat)

namespace GateServer

/-- The thread of the context is taken. -/
def busy (s : GateServer sql) (context : Nat) : Bool :=
  (context = 0 && s.handler ≠ .idle) ||
    s.connections.any fun c => c.context = context && c.stage.isHandling

def openSockets (s : GateServer sql) : Nat :=
  s.connections.countP Connection.isOpen

def setConnection (s : GateServer sql) (i : Nat) (c : Connection) : GateServer sql :=
  { s with connections := s.connections.set i c }

/-- `std::terminate` -/
def terminate (s : GateServer sql) : GateServer sql :=
  { s with alive := false }

/-- `write_response` -/
def writeResponse (s : GateServer sql) (i : Nat) (c : Connection) (response : HttpResponse) :
    GateServer sql :=
  s.setConnection i { c with stage := .writing response }

/-- `handleAccept` up to the call of `check_timeout`, and with it `async_read`. -/
def accept (s : GateServer sql) (limit context : Nat) : Option (GateServer sql) :=
  match s.accepting with
  | uuid :: accepting =>
    if s.busy 0 then none
    else if s.openSockets < limit then
      some { s with
        connections := s.connections ++ [⟨context, none, .reading, .unset, true⟩]
        accepting := accepting
        handler := .checkTimeout uuid s.connections.length }
    else none
  | [] => none

/-- `terminateSession`: the session is closed and erased, if it is there. -/
def terminateSession (s : GateServer sql) (uuid : Nat) : GateServer sql :=
  match s.sessions.find? fun p => p.1 = uuid with
  | some (_, i) =>
    { s with
      connections := s.connections.modify i fun c => { c with isOpen := false }
      sessions := s.sessions.filter fun p => p.1 ≠ uuid }
  | none => s

def acceptFails (s : GateServer sql) : Option (GateServer sql) :=
  match s.accepting with
  | uuid :: accepting =>
    if s.busy 0 then none
    else some { s.terminateSession uuid with accepting := accepting, handler := .serverStart }
  | [] => none

def handleAccept (s : GateServer sql) : Option (GateServer sql) :=
  match s.handler with
  | .idle => none
  | .checkTimeout uuid i =>
    some { s with
      connections := s.connections.modify i fun c => { c with timer := .waiting }
      handler := .insert uuid i }
  | .insert uuid i =>
    some { s with sessions := (uuid, i) :: s.sessions, handler := .serverStart }
  | .serverStart =>
    some { s with
      accepting := s.accepting ++ [s.nextUuid]
      nextUuid := s.nextUuid + 1
      handler := .idle }

/-- `handle_post_request`; what the callback throws leaves `run` of the context. -/
def handlePostRequest (boost : Boost) (s : GateServer sql) (i : Nat) (c : Connection)
    (request : HttpRequest) (checkValue : String → Option String) : GateServer sql :=
  match postMethodCallback checkValue request.target (boost.parse request.body) with
  | none => s.writeResponse i c .notFound
  | some (.getVerification (.error none)) => s.terminate
  | some (.getVerification (.error (some status))) =>
    s.writeResponse i c (.ok (errorMessage (statusCode status)))
  | some (.getVerification (.ok email)) => s.setConnection i { c with stage := .verifying email }
  | some (.account callback) =>
    if throws callback then s.terminate
    else { s.setConnection i { c with stage := .handling s.gateway.callbacks.length } with
      gateway := s.gateway.receive callback }

/-- `process_request`; there are no callbacks for GET. -/
def processRequest (boost : Boost) (s : GateServer sql) (i : Nat) (c : Connection)
    (request : HttpRequest) (checkValue : String → Option String) : GateServer sql :=
  match request.method with
  | .get => if boost.isUrl request.target then s.writeResponse i c .notFound else s.terminate
  | .post => handlePostRequest boost s i c request checkValue
  | .other => s.writeResponse i c .notFound

def read (boost : Boost) (s : GateServer sql) (i : Nat) (c : Connection) (request : HttpRequest)
    (checkValue : String → Option String) : Option (GateServer sql) :=
  match c.stage with
  | .reading =>
    if s.busy c.context then none
    else some (processRequest boost s i { c with request := some request } request checkValue)
  | _ => none

def readFails (s : GateServer sql) (i : Nat) (c : Connection) : Option (GateServer sql) :=
  match c.stage with
  | .reading =>
    if s.busy c.context then none else some (s.setConnection i { c with stage := .unread })
  | _ => none

def callback (s : GateServer sql) (c : Connection) (statement : Statement) :
    Option (GateServer sql) :=
  match c.stage with
  | .handling j => (s.gateway.run j statement).map fun g => { s with gateway := g }
  | _ => none

def answer (s : GateServer sql) (i : Nat) (c : Connection) (grpc : GrpcResponse) :
    Option (GateServer sql) :=
  match c.stage with
  | .handling j =>
    match s.gateway.callbacks[j]? with
    | some (.answered a) =>
      (answerBody grpc a).map fun body => s.writeResponse i c (.ok body)
    | _ => none
  | _ => none

def verificationCode (s : GateServer sql) (i : Nat) (c : Connection) (error : Nat) :
    Option (GateServer sql) :=
  match c.stage with
  | .verifying email => some (s.writeResponse i c
      (.ok (.object [("error", .number error.repr), ("email", .string email)])))
  | _ => none

/-- The handler of `async_write`; `cancel` comes too late for a handler that is due. -/
def written (s : GateServer sql) (i : Nat) (c : Connection) (expired : Bool) :
    Option (GateServer sql) :=
  match c.stage with
  | .writing response =>
    if s.busy c.context then none
    else some (s.setConnection i { c with
      stage := .written response
      timer := if c.timer = .waiting && !expired then .cancelled else c.timer })
  | _ => none

/-- The handler of the timer. -/
def timeout (s : GateServer sql) (i : Nat) (c : Connection) : Option (GateServer sql) :=
  if s.busy c.context then none
  else
    match c.timer with
    | .waiting => some (s.setConnection i { c with timer := .fired, isOpen := false })
    | _ => none

/-- The step of a process that lives. -/
def next (boost : Boost) (limit : Nat) (s : GateServer sql) : Event → Option (GateServer sql)
  | .accept context => s.accept limit context
  | .acceptFails => s.acceptFails
  | .handleAccept => s.handleAccept
  | .read i request checkValue =>
    s.connections[i]?.bind fun c => s.read boost i c request checkValue
  | .readFails i => s.connections[i]?.bind (s.readFails i)
  | .callback i statement => s.connections[i]?.bind (s.callback · statement)
  | .answer i grpc => s.connections[i]?.bind (s.answer i · grpc)
  | .verificationCode i error => s.connections[i]?.bind (s.verificationCode i · error)
  | .written i expired => s.connections[i]?.bind (s.written i · expired)
  | .timeout i => s.connections[i]?.bind (s.timeout i)

end GateServer

def step (boost : Boost) (limit : Nat) (s : GateServer sql) (e : Event) :
    Option (GateServer sql) :=
  if s.alive then s.next boost limit e else none

/-! ## What a step does -/

variable {boost : Boost} {limit : Nat} {s s' : GateServer sql}

/-- What becomes of a request that connection `i` has read. -/
inductive Processed (boost : Boost) (s : GateServer sql) (i : Nat) (c : Connection)
    (request : HttpRequest) (checkValue : String → Option String) : GateServer sql → Prop
  | notFound : Processed boost s i c request checkValue (s.writeResponse i c .notFound)
  | refused (code : Nat) :
    Processed boost s i c request checkValue (s.writeResponse i c (.ok (errorMessage code)))
  | verifying (email : String) :
    Processed boost s i c request checkValue
      (s.setConnection i { c with stage := .verifying email })
  | handling (callback : Callback)
      (hfound : postMethodCallback checkValue request.target (boost.parse request.body) =
        some (.account callback)) (hreturns : throws callback = false) :
    Processed boost s i c request checkValue
      { s.setConnection i { c with stage := .handling s.gateway.callbacks.length } with
        gateway := s.gateway.receive callback }
  | terminated : Processed boost s i c request checkValue s.terminate

theorem processed_handlePostRequest (i : Nat) (c : Connection) (request : HttpRequest)
    (checkValue : String → Option String) :
    Processed boost s i c request checkValue
      (s.handlePostRequest boost i c request checkValue) := by
  unfold GateServer.handlePostRequest
  split
  · exact .notFound
  · exact .terminated
  · exact .refused _
  · exact .verifying _
  · rename_i callback hfound
    split
    · exact .terminated
    · rename_i hreturns
      exact .handling callback hfound (eq_false_of_ne_true hreturns)

theorem processed_processRequest (i : Nat) (c : Connection) (request : HttpRequest)
    (checkValue : String → Option String) :
    Processed boost s i c request checkValue (s.processRequest boost i c request checkValue) := by
  unfold GateServer.processRequest
  split
  · split
    · exact .notFound
    · exact .terminated
  · exact processed_handlePostRequest i c request checkValue
  · exact .notFound

/-- A step of a process that lives, with what has made it possible. -/
inductive Steps (boost : Boost) (limit : Nat) (s : GateServer sql) :
    Event → GateServer sql → Prop
  | accept (context uuid : Nat) (accepting : List Nat)
      (haccepting : s.accepting = uuid :: accepting) (hfree : s.busy 0 = false)
      (hlimit : s.openSockets < limit) :
    Steps boost limit s (.accept context)
      { s with
        connections := s.connections ++ [⟨context, none, .reading, .unset, true⟩]
        accepting := accepting
        handler := .checkTimeout uuid s.connections.length }
  | acceptFails (uuid : Nat) (accepting : List Nat) (haccepting : s.accepting = uuid :: accepting)
      (hfree : s.busy 0 = false) :
    Steps boost limit s .acceptFails
      { s.terminateSession uuid with accepting := accepting, handler := .serverStart }
  | checkTimeout (uuid i : Nat) (hhandler : s.handler = .checkTimeout uuid i) :
    Steps boost limit s .handleAccept
      { s with
        connections := s.connections.modify i fun c => { c with timer := .waiting }
        handler := .insert uuid i }
  | insert (uuid i : Nat) (hhandler : s.handler = .insert uuid i) :
    Steps boost limit s .handleAccept
      { s with sessions := (uuid, i) :: s.sessions, handler := .serverStart }
  | serverStart (hhandler : s.handler = .serverStart) :
    Steps boost limit s .handleAccept
      { s with
        accepting := s.accepting ++ [s.nextUuid]
        nextUuid := s.nextUuid + 1
        handler := .idle }
  | read (i : Nat) (request : HttpRequest) (checkValue : String → Option String) (c : Connection)
      (hi : s.connections[i]? = some c) (hstage : c.stage = .reading)
      (hfree : s.busy c.context = false) :
    Steps boost limit s (.read i request checkValue)
      (s.processRequest boost i { c with request := some request } request checkValue)
  | readFails (i : Nat) (c : Connection) (hi : s.connections[i]? = some c)
      (hstage : c.stage = .reading) (hfree : s.busy c.context = false) :
    Steps boost limit s (.readFails i) (s.setConnection i { c with stage := .unread })
  | callback (i : Nat) (statement : Statement) (c : Connection) (j : Nat) (g : Gateway sql)
      (hi : s.connections[i]? = some c) (hstage : c.stage = .handling j)
      (hrun : s.gateway.run j statement = some g) :
    Steps boost limit s (.callback i statement) { s with gateway := g }
  | answer (i : Nat) (grpc : GrpcResponse) (c : Connection) (j : Nat) (a : Answer) (body : Json)
      (hi : s.connections[i]? = some c) (hstage : c.stage = .handling j)
      (hj : s.gateway.callbacks[j]? = some (.answered a)) (hbody : answerBody grpc a = some body) :
    Steps boost limit s (.answer i grpc) (s.writeResponse i c (.ok body))
  | verificationCode (i error : Nat) (c : Connection) (email : String)
      (hi : s.connections[i]? = some c) (hstage : c.stage = .verifying email) :
    Steps boost limit s (.verificationCode i error)
      (s.writeResponse i c (.ok (.object [("error", .number error.repr),
        ("email", .string email)])))
  | written (i : Nat) (expired : Bool) (c : Connection) (response : HttpResponse)
      (hi : s.connections[i]? = some c) (hstage : c.stage = .writing response)
      (hfree : s.busy c.context = false) :
    Steps boost limit s (.written i expired)
      (s.setConnection i { c with
        stage := .written response
        timer := if c.timer = .waiting && !expired then .cancelled else c.timer })
  | timeout (i : Nat) (c : Connection) (hi : s.connections[i]? = some c)
      (htimer : c.timer = .waiting) (hfree : s.busy c.context = false) :
    Steps boost limit s (.timeout i)
      (s.setConnection i { c with timer := .fired, isOpen := false })

theorem steps_accept {context : Nat} (h : s.accept limit context = some s') :
    Steps boost limit s (.accept context) s' := by
  unfold GateServer.accept at h
  split at h
  · rename_i uuid accepting haccepting
    split at h
    · cases h
    · rename_i hfree
      split at h
      · rename_i hlimit
        obtain rfl := Option.some.inj h
        exact .accept context uuid accepting haccepting (eq_false_of_ne_true hfree) hlimit
      · cases h
  · cases h

theorem steps_acceptFails (h : s.acceptFails = some s') :
    Steps boost limit s .acceptFails s' := by
  unfold GateServer.acceptFails at h
  split at h
  · rename_i uuid accepting haccepting
    obtain ⟨hfree, h⟩ := Option.ite_none_left_eq_some.mp h
    obtain rfl := Option.some.inj h
    exact .acceptFails uuid accepting haccepting (eq_false_of_ne_true hfree)
  · cases h

theorem steps_handleAccept (h : s.handleAccept = some s') :
    Steps boost limit s .handleAccept s' := by
  unfold GateServer.handleAccept at h
  split at h
  · cases h
  · rename_i uuid i hhandler
    obtain rfl := Option.some.inj h
    exact .checkTimeout uuid i hhandler
  · rename_i uuid i hhandler
    obtain rfl := Option.some.inj h
    exact .insert uuid i hhandler
  · rename_i hhandler
    obtain rfl := Option.some.inj h
    exact .serverStart hhandler

theorem steps_read {i : Nat} {c : Connection} (hi : s.connections[i]? = some c)
    {request : HttpRequest} {checkValue : String → Option String}
    (h : s.read boost i c request checkValue = some s') :
    Steps boost limit s (.read i request checkValue) s' := by
  unfold GateServer.read at h
  split at h
  · rename_i hstage
    obtain ⟨hfree, h⟩ := Option.ite_none_left_eq_some.mp h
    obtain rfl := Option.some.inj h
    exact .read i request checkValue c hi hstage (eq_false_of_ne_true hfree)
  · cases h

theorem steps_readFails {i : Nat} {c : Connection} (hi : s.connections[i]? = some c)
    (h : s.readFails i c = some s') : Steps boost limit s (.readFails i) s' := by
  unfold GateServer.readFails at h
  split at h
  · rename_i hstage
    obtain ⟨hfree, h⟩ := Option.ite_none_left_eq_some.mp h
    obtain rfl := Option.some.inj h
    exact .readFails i c hi hstage (eq_false_of_ne_true hfree)
  · cases h

theorem steps_callback {i : Nat} {c : Connection} (hi : s.connections[i]? = some c)
    {statement : Statement} (h : s.callback c statement = some s') :
    Steps boost limit s (.callback i statement) s' := by
  unfold GateServer.callback at h
  split at h
  · rename_i j hstage
    obtain ⟨g, hrun, rfl⟩ := Option.map_eq_some_iff.mp h
    exact .callback i statement c j g hi hstage hrun
  · cases h

theorem steps_answer {i : Nat} {c : Connection} (hi : s.connections[i]? = some c)
    {grpc : GrpcResponse} (h : s.answer i c grpc = some s') :
    Steps boost limit s (.answer i grpc) s' := by
  unfold GateServer.answer at h
  split at h
  · rename_i j hstage
    split at h
    · rename_i a hj
      obtain ⟨body, hbody, rfl⟩ := Option.map_eq_some_iff.mp h
      exact .answer i grpc c j a body hi hstage hj hbody
    · cases h
  · cases h

theorem steps_verificationCode {i : Nat} {c : Connection} (hi : s.connections[i]? = some c)
    {error : Nat} (h : s.verificationCode i c error = some s') :
    Steps boost limit s (.verificationCode i error) s' := by
  unfold GateServer.verificationCode at h
  split at h
  · rename_i email hstage
    obtain rfl := Option.some.inj h
    exact .verificationCode i error c email hi hstage
  · cases h

theorem steps_written {i : Nat} {c : Connection} (hi : s.connections[i]? = some c)
    {expired : Bool} (h : s.written i c expired = some s') :
    Steps boost limit s (.written i expired) s' := by
  unfold GateServer.written at h
  split at h
  · rename_i response hstage
    obtain ⟨hfree, h⟩ := Option.ite_none_left_eq_some.mp h
    obtain rfl := Option.some.inj h
    exact .written i expired c response hi hstage (eq_false_of_ne_true hfree)
  · cases h

theorem steps_timeout {i : Nat} {c : Connection} (hi : s.connections[i]? = some c)
    (h : s.timeout i c = some s') : Steps boost limit s (.timeout i) s' := by
  unfold GateServer.timeout at h
  obtain ⟨hfree, h⟩ := Option.ite_none_left_eq_some.mp h
  split at h
  · rename_i htimer
    obtain rfl := Option.some.inj h
    exact .timeout i c hi htimer (eq_false_of_ne_true hfree)
  · cases h

theorem steps_of_step {e : Event} (hstep : step boost limit s e = some s') :
    s.alive = true ∧ Steps boost limit s e s' := by
  obtain ⟨halive, hnext⟩ := Option.ite_none_right_eq_some.mp hstep
  refine ⟨halive, ?_⟩
  cases e with
  | accept context => exact steps_accept hnext
  | acceptFails => exact steps_acceptFails hnext
  | handleAccept => exact steps_handleAccept hnext
  | read i request checkValue =>
    obtain ⟨c, hi, h⟩ := Option.bind_eq_some_iff.mp hnext
    exact steps_read hi h
  | readFails i =>
    obtain ⟨c, hi, h⟩ := Option.bind_eq_some_iff.mp hnext
    exact steps_readFails hi h
  | callback i statement =>
    obtain ⟨c, hi, h⟩ := Option.bind_eq_some_iff.mp hnext
    exact steps_callback hi h
  | answer i grpc =>
    obtain ⟨c, hi, h⟩ := Option.bind_eq_some_iff.mp hnext
    exact steps_answer hi h
  | verificationCode i error =>
    obtain ⟨c, hi, h⟩ := Option.bind_eq_some_iff.mp hnext
    exact steps_verificationCode hi h
  | written i expired =>
    obtain ⟨c, hi, h⟩ := Option.bind_eq_some_iff.mp hnext
    exact steps_written hi h
  | timeout i =>
    obtain ⟨c, hi, h⟩ := Option.bind_eq_some_iff.mp hnext
    exact steps_timeout hi h

/-! ## What kills the process -/

/-- If the body is an object with the keys, they are texts in it. -/
def TextsIfAll (keys : List String) (body : Option Json) : Prop :=
  ∀ root : Json.Object, body = some (.object root) → (∀ key ∈ keys, root.contains key) →
    ∀ key ∈ keys, (root.get key).asText.isSome

/-- The keys that the callback of the target reads. -/
def keysOf (target : String) : List String :=
  if target = "/get_verification" then ["email"]
  else if target = "/post_registration" then ["username", "password", "email", "cpatcha"]
  else if target = "/check_accountexists" then ["username", "email"]
  else if target = "/reset_password" then ["username", "password", "email"]
  else if target = "/trylogin_server" then ["username", "password"]
  else []

/-- A GET has a URL, and a POST has texts where the callback reads them. -/
def Harmless (boost : Boost) (request : HttpRequest) : Prop :=
  match request.method with
  | .get => boost.isUrl request.target
  | .post => TextsIfAll (keysOf request.target) (boost.parse request.body)
  | .other => True

def ReadsHarmless (boost : Boost) : Event → Prop
  | .read _ request _ => Harmless boost request
  | _ => True

theorem textField_throws {root : Json.Object} {key : String} :
    textField root key = .error none ↔ (root.get key).asText = none := by
  unfold textField
  split <;> simp_all

theorem textField_ok {root : Json.Object} {key text : String} :
    textField root key = .ok text ↔ (root.get key).asText = some text := by
  unfold textField
  split <;> simp_all

theorem parseObject_eq_ok {body : Option Json} {root : Json.Object} :
    parseObject body = .ok root ↔ body = some (.object root) := by
  unfold parseObject
  split <;> simp_all

theorem parseObject_ne_throws {body : Option Json} : parseObject body ≠ .error none := by
  unfold parseObject
  split <;> simp

theorem readObject_eq_ok {keys : List String} {body : Option Json} {root : Json.Object} :
    readObject keys body = .ok root ↔
      body = some (.object root) ∧ ∀ key ∈ keys, Json.Object.contains root key := by
  unfold readObject
  rw [Outcome.bind_eq_ok]
  constructor
  · rintro ⟨object, hobject, h⟩
    dsimp only at h
    split at h
    · cases h
    · rename_i hall
      obtain rfl := Except.ok.inj h
      exact ⟨parseObject_eq_ok.mp hobject, by simpa using hall⟩
  · rintro ⟨hbody, hkeys⟩
    refine ⟨root, parseObject_eq_ok.mpr hbody, ?_⟩
    dsimp only
    rw [if_neg (by simpa using hkeys)]
    rfl

theorem readObject_ne_throws {keys : List String} {body : Option Json} :
    readObject keys body ≠ .error none := by
  unfold readObject
  rw [Ne, Outcome.bind_eq_error]
  rintro (h | ⟨root, -, h⟩)
  · exact parseObject_ne_throws h
  · dsimp only at h
    split at h <;> cases h

/-- Reading the texts of an object throws if one of the keys has something else. -/
theorem throws_iff {α : Type} {keys : List String} {body : Option Json}
    {read : Json.Object → Except Refusal α}
    (hread : ∀ root, read root = .error none ↔
      ∃ key ∈ keys, (Json.Object.get root key).asText = none) :
    (readObject keys body >>= read) = .error none ↔ ¬TextsIfAll keys body := by
  rw [Outcome.bind_eq_error, or_iff_right readObject_ne_throws]
  unfold TextsIfAll
  simp only [readObject_eq_ok, hread]
  push Not
  simp only [Option.not_isSome_iff_eq_none, and_assoc]

/-- Whether the rest throws does not depend on the text. -/
theorem textField_bind_throws {α : Type} {root : Json.Object} {key : String}
    {f : String → Except Refusal α} {P : Prop} (hf : ∀ text, f text = .error none ↔ P) :
    (textField root key >>= f) = .error none ↔ (Json.Object.get root key).asText = none ∨ P := by
  rw [Outcome.bind_eq_error, textField_throws]
  simp only [textField_ok, hf]
  cases (Json.Object.get root key).asText with
  | none => simp
  | some text => simp

theorem pure_ne_throws {α : Type} {a : α} : (pure a : Except Refusal α) = .error none ↔ False := by
  simp [pure, Except.pure]

theorem readVerification_throws {body : Option Json} :
    readVerification body = .error none ↔ ¬TextsIfAll ["email"] body := by
  refine throws_iff fun root => ?_
  simp [textField_throws]

theorem readAccount_throws {body : Option Json} :
    readAccount body = .error none ↔ ¬TextsIfAll ["username", "email"] body := by
  refine throws_iff fun root => ?_
  rw [textField_bind_throws fun _ => textField_bind_throws fun _ => pure_ne_throws]
  simp

theorem readReset_throws {body : Option Json} :
    readReset body = .error none ↔ ¬TextsIfAll ["username", "password", "email"] body := by
  refine throws_iff fun root => ?_
  rw [textField_bind_throws fun _ => textField_bind_throws fun _ =>
    textField_bind_throws fun _ => pure_ne_throws]
  simp

theorem readLogin_throws {body : Option Json} :
    readLogin body = .error none ↔ ¬TextsIfAll ["username", "password"] body := by
  refine throws_iff fun root => ?_
  rw [textField_bind_throws fun _ => textField_bind_throws fun _ => pure_ne_throws]
  simp

theorem verify_bind_ne_throws {checkValue : String → Option String} {email cpatcha : String}
    {α : Type} {a : α} : (verify checkValue email cpatcha >>= fun _ => pure a) = .error none ↔
      False := by
  unfold verify
  split
  · simp [bind, Except.bind]
  · split
    · simp [bind, Except.bind]
    · simp [bind, Except.bind, pure, Except.pure]

theorem readRegistration_throws {checkValue : String → Option String} {body : Option Json} :
    readRegistration checkValue body = .error none ↔
      ¬TextsIfAll ["username", "password", "email", "cpatcha"] body := by
  have hread : readRegistration checkValue body =
      readObject ["username", "password", "email", "cpatcha"] body >>= fun root => do
        let username ← textField root "username"
        let password ← textField root "password"
        let email ← textField root "email"
        let cpatcha ← textField root "cpatcha"
        verify checkValue email cpatcha
        return ⟨username, password, email⟩ := by
    unfold readRegistration readObject
    cases parseObject body with
    | error refusal => rfl
    | ok root =>
      simp only [bind, Except.bind]
      split <;> rfl
  rw [hread]
  refine throws_iff fun root => ?_
  rw [textField_bind_throws fun _ => textField_bind_throws fun _ =>
    textField_bind_throws fun _ => textField_bind_throws fun _ => verify_bind_ne_throws]
  simp

/-- A callback throws if reading its body has. -/
theorem throws_iff_error {α : Type} {read : Except Refusal α} {callback : Callback}
    (herror : ∀ refusal, read = .error refusal → callback = .answered (.refused refusal))
    (hok : ∀ a, read = .ok a → throws callback = false) :
    throws callback ↔ read = .error none := by
  cases read with
  | error refusal =>
    rw [herror refusal rfl]
    cases refusal with
    | none => simp [throws]
    | some status => simp [throws]
  | ok a => simp [hok a rfl]

theorem postRegistration_throws {checkValue : String → Option String} {body : Option Json} :
    throws (.postRegistration checkValue body) ↔ readRegistration checkValue body = .error none :=
  throws_iff_error (fun _ h => by simp [Callback.postRegistration, h])
    fun _ h => by simp [Callback.postRegistration, h, throws]

theorem checkAccountexists_throws {body : Option Json} :
    throws (.checkAccountexists body) ↔ readAccount body = .error none :=
  throws_iff_error (fun _ h => by simp [Callback.checkAccountexists, h])
    fun _ h => by simp [Callback.checkAccountexists, h, throws]

theorem resetPassword_throws {body : Option Json} :
    throws (.resetPassword body) ↔ readReset body = .error none :=
  throws_iff_error (fun _ h => by simp [Callback.resetPassword, h])
    fun _ h => by simp [Callback.resetPassword, h, throws]

theorem tryloginServer_throws {body : Option Json} :
    throws (.tryloginServer body) ↔ readLogin body = .error none :=
  throws_iff_error (fun _ h => by simp [Callback.tryloginServer, h])
    fun _ h => by simp [Callback.tryloginServer, h, throws]

/-- The callback throws what nobody catches. -/
def PostCallback.throws : PostCallback → Bool
  | .getVerification (.error none) => true
  | .getVerification _ => false
  | .account callback => HttpServer.throws callback

theorem postMethodCallback_throws (checkValue : String → Option String) {target : String}
    {body : Option Json} :
    (∃ found, postMethodCallback checkValue target body = some found ∧ found.throws) ↔
      ¬TextsIfAll (keysOf target) body := by
  unfold postMethodCallback keysOf
  split
  · simp only [Option.some.injEq, exists_eq_left', ← readVerification_throws]
    unfold PostCallback.throws
    split <;> simp_all
  split
  · simp only [Option.some.injEq, exists_eq_left', PostCallback.throws]
    rw [← readRegistration_throws, postRegistration_throws]
  split
  · simp only [Option.some.injEq, exists_eq_left', PostCallback.throws]
    rw [← readAccount_throws, checkAccountexists_throws]
  split
  · simp only [Option.some.injEq, exists_eq_left', PostCallback.throws]
    rw [← readReset_throws, resetPassword_throws]
  split
  · simp only [Option.some.injEq, exists_eq_left', PostCallback.throws]
    rw [← readLogin_throws, tryloginServer_throws]
  · simp [TextsIfAll]

theorem handlePostRequest_alive (halive : s.alive = true) (i : Nat) (c : Connection)
    (request : HttpRequest) (checkValue : String → Option String) :
    (s.handlePostRequest boost i c request checkValue).alive = true ↔
      TextsIfAll (keysOf request.target) (boost.parse request.body) := by
  rw [← not_iff_not, ← postMethodCallback_throws checkValue]
  unfold GateServer.handlePostRequest
  split
  · rename_i hfound
    simp [hfound, GateServer.writeResponse, GateServer.setConnection, halive]
  · rename_i hfound
    simp [hfound, PostCallback.throws, GateServer.terminate]
  · rename_i hfound
    simp [hfound, PostCallback.throws, GateServer.writeResponse, GateServer.setConnection, halive]
  · rename_i hfound
    simp [hfound, PostCallback.throws, GateServer.setConnection, halive]
  · rename_i hfound
    split
    · rename_i hthrows
      simp [hfound, PostCallback.throws, GateServer.terminate, hthrows]
    · rename_i hthrows
      simp [hfound, PostCallback.throws, GateServer.setConnection, halive, hthrows]

theorem processRequest_alive (halive : s.alive = true) (i : Nat) (c : Connection)
    (request : HttpRequest) (checkValue : String → Option String) :
    (s.processRequest boost i c request checkValue).alive = true ↔ Harmless boost request := by
  unfold GateServer.processRequest Harmless
  split
  · split
    · rename_i hurl
      exact iff_of_true halive hurl
    · rename_i hurl
      simp [hurl, GateServer.terminate]
  · exact handlePostRequest_alive halive i c request checkValue
  · exact iff_of_true halive trivial

/-- A step leaves the process alive if the request it reads is harmless, and only then. -/
theorem step_alive {e : Event} (hstep : step boost limit s e = some s') :
    s'.alive = true ↔ ReadsHarmless boost e := by
  obtain ⟨halive, hsteps⟩ := steps_of_step hstep
  cases hsteps with
  | read i request checkValue c hi hstage hfree =>
    exact processRequest_alive halive i _ request checkValue
  | acceptFails uuid accepting haccepting hfree =>
    unfold GateServer.terminateSession
    split <;> exact iff_of_true halive trivial
  | accept _ _ _ _ _ _ | checkTimeout _ _ _ | insert _ _ _ | serverStart _
  | readFails _ _ _ _ _ | callback _ _ _ _ _ _ _ _ | answer _ _ _ _ _ _ _ _ _ _
  | verificationCode _ _ _ _ _ _ | written _ _ _ _ _ _ _ | timeout _ _ _ _ _ =>
    exact iff_of_true halive trivial

/-- The process lives through a run exactly if every request that it reads is harmless: no POST has
    all the keys of its callback with something else than a text for one of them, and no GET has a
    target that is no URL. -/
theorem always_alive_iff (t : Authentication sql) (es : List Event) :
    Trace.Always (step boost limit) (fun s => s.alive = true) (start t) es ↔
      Trace.Meets (step boost limit) (fun _ e => ReadsHarmless boost e) (start t) es :=
  Trace.always_iff_meets (fun s : GateServer sql => s.alive = true) (fun _ h => h)
    (fun _ _ _ _ hc hstep => (step_alive hstep).mpr hc)
    (fun _ _ _ _ hc hstep h => hc ((step_alive hstep).mp h)) rfl es

/-! ## Whose answer a response is -/

/-- The username in the body of the request. -/
def usernameIn (boost : Boost) (request : HttpRequest) : Option String :=
  match boost.parse request.body with
  | some (.object root) => (Json.Object.get root "username").asText
  | _ => none

/-- The uuid in the response. -/
def uuidIn : HttpResponse → Option String
  | .ok (.object fields) => (Json.Object.get fields "uuid").asText
  | _ => none

/-- The connection has been sent a uuid for a username that it has asked about. -/
def Told (boost : Boost) (s : GateServer sql) (username uuid : String) : Prop :=
  ∃ c ∈ s.connections, ∃ request response, c.request = some request ∧
    (c.stage = .writing response ∨ c.stage = .written response) ∧
    usernameIn boost request = some username ∧ uuidIn response = some uuid

/-- If the answer of the callback is going to have a uuid, it is for the username. -/
def NamesUser (username : Option String) : Callback → Prop
  | .findNew request | .createNewUser request | .getNewUuid request =>
    username = some request.username
  | .userLoginCheck name _ | .getUserUuid name _ => username = some name
  | .answered (.registered send) => username = some send.username
  | .answered (.allocated name _ _) => username = some name
  | _ => True

/-- What a connection has to do with the accounts. -/
def Stands (boost : Boost) (g : Gateway sql) (c : Connection) : Prop :=
  match c.stage with
  | .handling j => ∃ request callback, c.request = some request ∧
      g.callbacks[j]? = some callback ∧ NamesUser (usernameIn boost request) callback
  | .writing response | .written response => ∀ uuid, uuidIn response = some uuid →
      ∃ request username callback, c.request = some request ∧
        usernameIn boost request = some username ∧ callback ∈ g.callbacks ∧
          Gateway.identity callback = some (username, uuid)
  | _ => True

/-- The accounts are a state of `Accounts`, and every connection has its own callback. -/
structure Inv (boost : Boost) (t : Authentication sql) (s : GateServer sql) : Prop where
  gateway : Trace.Reaches Gateway.step (.start t) s.gateway
  stands : ∀ c ∈ s.connections, Stands boost s.gateway c

theorem usernameIn_eq {request : HttpRequest} {root : Json.Object} {username : String}
    (hbody : boost.parse request.body = some (.object root))
    (htext : (Json.Object.get root "username").asText = some username) :
    usernameIn boost request = some username := by
  unfold usernameIn
  rw [hbody]
  exact htext

theorem namesUser_run {username : Option String} {statement : Statement}
    {table table' : Authentication sql} {callback callback' : Callback}
    {request : Option MySQLRequestStruct} (h : NamesUser username callback)
    (hrun : callback.run statement table = some (table', callback', request)) :
    NamesUser username callback' := by
  unfold Callback.run at hrun
  split at hrun <;> simp only [Option.some.injEq, Prod.mk.injEq, reduceCtorEq] at hrun <;>
    obtain ⟨-, rfl, -⟩ := hrun
  · split
    · trivial
    · exact h
  · exact h
  · split
    · trivial
    · exact h
  · split <;> trivial
  · split <;> trivial
  · trivial
  · split
    · trivial
    · exact h
  · split
    · trivial
    · exact h

theorem username_of_readRegistration {checkValue : String → Option String} {body : Option Json}
    {request : MySQLRequestStruct} (h : readRegistration checkValue body = .ok request) :
    ∃ root : Json.Object, body = some (.object root) ∧
      (Json.Object.get root "username").asText = some request.username := by
  unfold readRegistration at h
  obtain ⟨root, hroot, h⟩ := Outcome.bind_eq_ok.mp h
  dsimp only at h
  split at h
  · cases h
  obtain ⟨username, husername, h⟩ := Outcome.bind_eq_ok.mp h
  obtain ⟨password, -, h⟩ := Outcome.bind_eq_ok.mp h
  obtain ⟨email, -, h⟩ := Outcome.bind_eq_ok.mp h
  obtain ⟨cpatcha, -, h⟩ := Outcome.bind_eq_ok.mp h
  obtain ⟨_, -, h⟩ := Outcome.bind_eq_ok.mp h
  obtain rfl := Except.ok.inj h
  exact ⟨root, parseObject_eq_ok.mp hroot, textField_ok.mp husername⟩

theorem username_of_readLogin {body : Option Json} {username password : String}
    (h : readLogin body = .ok (username, password)) :
    ∃ root : Json.Object, body = some (.object root) ∧
      (Json.Object.get root "username").asText = some username := by
  unfold readLogin at h
  obtain ⟨root, hroot, h⟩ := Outcome.bind_eq_ok.mp h
  obtain ⟨name, hname, h⟩ := Outcome.bind_eq_ok.mp h
  obtain ⟨word, -, h⟩ := Outcome.bind_eq_ok.mp h
  obtain ⟨rfl, rfl⟩ := Prod.mk.inj (Except.ok.inj h)
  exact ⟨root, (readObject_eq_ok.mp hroot).1, textField_ok.mp hname⟩

/-- The callbacks that go to the accounts. -/
theorem account_of_postMethodCallback {checkValue : String → Option String} {target : String}
    {body : Option Json} {callback : Callback}
    (h : postMethodCallback checkValue target body = some (.account callback)) :
    callback = .postRegistration checkValue body ∨ callback = .checkAccountexists body ∨
      callback = .resetPassword body ∨ callback = .tryloginServer body := by
  unfold postMethodCallback at h
  split at h
  · cases h
  split at h
  · exact .inl (PostCallback.account.inj (Option.some.inj h)).symm
  split at h
  · exact .inr (.inl (PostCallback.account.inj (Option.some.inj h)).symm)
  split at h
  · exact .inr (.inr (.inl (PostCallback.account.inj (Option.some.inj h)).symm))
  split at h
  · exact .inr (.inr (.inr (PostCallback.account.inj (Option.some.inj h)).symm))
  · cases h

/-- A callback starts with the username of its request. -/
theorem namesUser_postMethodCallback {checkValue : String → Option String} {request : HttpRequest}
    {callback : Callback}
    (h : postMethodCallback checkValue request.target (boost.parse request.body) =
      some (.account callback)) : NamesUser (usernameIn boost request) callback := by
  rcases account_of_postMethodCallback h with rfl | rfl | rfl | rfl
  · unfold Callback.postRegistration
    split
    · trivial
    · rename_i read hread
      obtain ⟨root, hbody, htext⟩ := username_of_readRegistration hread
      exact usernameIn_eq hbody htext
  · unfold Callback.checkAccountexists
    split <;> trivial
  · unfold Callback.resetPassword
    split <;> trivial
  · unfold Callback.tryloginServer
    split
    · trivial
    · rename_i username password hread
      obtain ⟨root, hbody, htext⟩ := username_of_readLogin hread
      exact usernameIn_eq hbody htext

/-- A callback that is started is one that `Accounts` starts, too. -/
theorem receive_of_postMethodCallback {checkValue : String → Option String} {target : String}
    {body : Option Json} {callback : Callback} (g : Gateway sql)
    (h : postMethodCallback checkValue target body = some (.account callback)) :
    ∃ e, g.step e = some (g.receive callback) := by
  rcases account_of_postMethodCallback h with rfl | rfl | rfl | rfl
  · exact ⟨.postRegistration checkValue body, rfl⟩
  · exact ⟨.checkAccountexists body, rfl⟩
  · exact ⟨.resetPassword body, rfl⟩
  · exact ⟨.tryloginServer body, rfl⟩

/-- A uuid in the body of an answer is the one in the answer. -/
theorem identity_of_answerBody {grpc : GrpcResponse} {a : Answer} {body : Json} {uuid : String}
    {username : Option String} (hnames : NamesUser username (.answered a))
    (hbody : answerBody grpc a = some body) (huuid : uuidIn (.ok body) = some uuid) :
    ∃ name, username = some name ∧ Gateway.identity (.answered a) = some (name, uuid) := by
  cases a with
  | refused refusal =>
    cases refusal with
    | none => cases hbody
    | some status =>
      obtain rfl := Option.some.inj hbody
      cases huuid
  | accountNotExists | missingInfo | loginInfoError | passwordReset | found _ _ =>
    obtain rfl := Option.some.inj hbody
    cases huuid
  | registered send =>
    obtain rfl := Option.some.inj hbody
    obtain rfl : send.uuid = uuid := Option.some.inj huuid
    exact ⟨send.username, hnames, rfl⟩
  | allocated name password n =>
    obtain rfl := Option.some.inj hbody
    obtain rfl : n.repr = uuid := Option.some.inj huuid
    exact ⟨name, hnames, rfl⟩

/-- The accounts go on, for the connections that wait for a callback and those that have had an
    answer. -/
structure Follows (g g' : Gateway sql) : Prop where
  names : ∀ {j : Nat} {callback : Callback}, g.callbacks[j]? = some callback →
    ∃ callback', g'.callbacks[j]? = some callback' ∧
      ∀ username, NamesUser username callback → NamesUser username callback'
  answers : ∀ callback ∈ g.callbacks, ∀ id, Gateway.identity callback = some id →
    callback ∈ g'.callbacks

theorem follows_refl (g : Gateway sql) : Follows g g where
  names h := ⟨_, h, fun _ hnames => hnames⟩
  answers _ h _ _ := h

theorem follows_receive (g : Gateway sql) (callback : Callback) :
    Follows g (g.receive callback) where
  names := by
    intro j found h
    refine ⟨found, ?_, fun _ hnames => hnames⟩
    show (g.callbacks ++ [callback])[j]? = _
    rw [List.getElem?_append_left (List.getElem?_eq_some_iff.mp h).1]
    exact h
  answers _ h _ _ := List.mem_append_left _ h

theorem follows_run {g g' : Gateway sql} {j : Nat} {statement : Statement}
    (hrun : g.run j statement = some g') : Follows g g' := by
  have hanswers := (Gateway.kept_step (e := .run j statement) hrun).1
  obtain ⟨callback, hj, hmap⟩ := Option.bind_eq_some_iff.mp hrun
  obtain ⟨⟨table, callback', request⟩, hcallback, rfl⟩ := Option.map_eq_some_iff.mp hmap
  refine ⟨fun {k found} h => ?_, fun found hfound id hid => ?_⟩
  · show ∃ c, (g.callbacks.set j callback')[k]? = some c ∧ _
    by_cases hjk : j = k
    · subst hjk
      obtain rfl := Option.some.inj (hj.symm.trans h)
      exact ⟨callback', List.getElem?_set_self (List.getElem?_eq_some_iff.mp h).1,
        fun _ hnames => namesUser_run hnames hcallback⟩
    · exact ⟨found, by rw [List.getElem?_set_ne hjk]; exact h, fun _ hnames => hnames⟩
  · cases found with
    | answered answer =>
      obtain ⟨i, hi⟩ := List.mem_iff_getElem?.mp hfound
      exact List.mem_of_getElem? (hanswers i answer hi)
    | _ => cases hid

/-- Of a response, written or not, the uuid in it is what counts. -/
theorem stands_response {g : Gateway sql} {c : Connection} (response : HttpResponse)
    (hstage : c.stage = .writing response ∨ c.stage = .written response) :
    Stands boost g c ↔ ∀ uuid, uuidIn response = some uuid →
      ∃ request username callback, c.request = some request ∧
        usernameIn boost request = some username ∧ callback ∈ g.callbacks ∧
          Gateway.identity callback = some (username, uuid) := by
  unfold Stands
  rcases hstage with hstage | hstage <;> rw [hstage]

theorem stands_mono {g g' : Gateway sql} (hfollows : Follows g g') {c : Connection}
    (h : Stands boost g c) : Stands boost g' c := by
  cases hstage : c.stage with
  | handling j =>
    unfold Stands at h ⊢
    rw [hstage] at h ⊢
    obtain ⟨request, callback, hrequest, hj, hnames⟩ := h
    obtain ⟨callback', hj', himp⟩ := hfollows.names hj
    exact ⟨request, callback', hrequest, hj', himp _ hnames⟩
  | writing response | written response =>
    rw [stands_response response (by simp [hstage])] at h ⊢
    intro uuid huuid
    obtain ⟨request, username, callback, hrequest, husername, hmem, hid⟩ := h uuid huuid
    exact ⟨request, username, callback, hrequest, husername,
      hfollows.answers callback hmem _ hid, hid⟩
  | reading | unread | verifying _ =>
    unfold Stands
    rw [hstage]
    trivial

/-- What a connection stands for is in its stage and its request. -/
theorem stands_congr {g : Gateway sql} {c c' : Connection} (hstage : c'.stage = c.stage)
    (hrequest : c'.request = c.request) (h : Stands boost g c) : Stands boost g c' := by
  unfold Stands at h ⊢
  rw [hstage, hrequest]
  exact h

/-- A response without a uuid. -/
theorem stands_of_stage {g : Gateway sql} {c : Connection}
    (h : c.stage = .reading ∨ c.stage = .unread ∨ (∃ email, c.stage = .verifying email) ∨
      ∃ response, c.stage = .writing response ∧ uuidIn response = none) : Stands boost g c := by
  unfold Stands
  rcases h with h | h | ⟨email, h⟩ | ⟨response, h, huuid⟩ <;> rw [h]
  · trivial
  · trivial
  · trivial
  · intro uuid hsome
    rw [huuid] at hsome
    cases hsome

theorem exists_of_mem_modify {α : Type} {l : List α} {i : Nat} {f : α → α} {a : α}
    (h : a ∈ l.modify i f) : a ∈ l ∨ ∃ b ∈ l, a = f b := by
  obtain ⟨j, hj⟩ := List.mem_iff_getElem?.mp h
  rw [List.getElem?_modify] at hj
  obtain ⟨b, hb, heq⟩ := Option.map_eq_some_iff.mp hj
  split at heq
  · exact .inr ⟨b, List.mem_of_getElem? hb, heq.symm⟩
  · obtain rfl := heq
    exact .inl (List.mem_of_getElem? hb)

section Run

variable {t : Authentication sql}

/-- One connection changes, and the accounts go on. -/
theorem inv_set (h : Inv boost t s) {g : Gateway sql}
    (hgateway : Trace.Reaches Gateway.step (.start t) g) (hfollows : Follows s.gateway g) (i : Nat)
    {c : Connection} (hc : Stands boost g c) :
    Inv boost t { s.setConnection i c with gateway := g } where
  gateway := hgateway
  stands := by
    intro c' hc'
    rcases List.mem_or_eq_of_mem_set hc' with hold | rfl
    · exact stands_mono hfollows (h.stands c' hold)
    · exact hc

theorem inv_setConnection (h : Inv boost t s) (i : Nat) {c : Connection}
    (hc : Stands boost s.gateway c) : Inv boost t (s.setConnection i c) :=
  inv_set h h.gateway (follows_refl _) i hc

theorem inv_modify (h : Inv boost t s) (i : Nat) {f : Connection → Connection}
    (hstage : ∀ c, (f c).stage = c.stage) (hrequest : ∀ c, (f c).request = c.request) :
    ∀ c ∈ s.connections.modify i f, Stands boost s.gateway c := by
  intro c hc
  rcases exists_of_mem_modify hc with hold | ⟨c', hc', rfl⟩
  · exact h.stands c hold
  · exact stands_congr (hstage c') (hrequest c') (h.stands c' hc')

theorem inv_processed (h : Inv boost t s) {i : Nat} {c : Connection} {request : HttpRequest}
    {checkValue : String → Option String} (hrequest : c.request = some request)
    (hprocessed : Processed boost s i c request checkValue s') : Inv boost t s' := by
  cases hprocessed with
  | notFound =>
    exact inv_setConnection h i (stands_of_stage (.inr (.inr (.inr ⟨_, rfl, rfl⟩))))
  | refused code =>
    exact inv_setConnection h i (stands_of_stage (.inr (.inr (.inr ⟨_, rfl, rfl⟩))))
  | verifying email =>
    exact inv_setConnection h i (stands_of_stage (.inr (.inr (.inl ⟨email, rfl⟩))))
  | handling callback hfound hreturns =>
    obtain ⟨e, hstep⟩ := receive_of_postMethodCallback s.gateway hfound
    have hreaches := h.gateway.exec _ ((Trace.exec_singleton Gateway.step s.gateway e).trans hstep)
    refine inv_set h hreaches (follows_receive s.gateway callback) i ?_
    exact ⟨request, callback, hrequest, List.getElem?_concat_length,
      namesUser_postMethodCallback hfound⟩
  | terminated => exact ⟨h.gateway, h.stands⟩

/-- A callback that returns: its connection gets what `Accounts` has answered. -/
theorem stands_answer (h : Inv boost t s) {c : Connection} (hc : c ∈ s.connections) {j : Nat}
    (hstage : c.stage = .handling j) {a : Answer}
    (hj : s.gateway.callbacks[j]? = some (.answered a)) {grpc : GrpcResponse} {body : Json}
    (hbody : answerBody grpc a = some body) :
    Stands boost s.gateway { c with stage := .writing (.ok body) } := by
  have hstands := h.stands c hc
  unfold Stands at hstands
  rw [hstage] at hstands
  obtain ⟨request, callback, hrequest, hcallback, hnames⟩ := hstands
  obtain rfl := Option.some.inj (hj.symm.trans hcallback)
  intro uuid huuid
  obtain ⟨username, husername, hid⟩ := identity_of_answerBody hnames hbody huuid
  exact ⟨request, username, _, hrequest, husername, List.mem_of_getElem? hj, hid⟩

theorem inv_step {e : Event} (h : Inv boost t s) (hstep : step boost limit s e = some s') :
    Inv boost t s' := by
  obtain ⟨-, hsteps⟩ := steps_of_step hstep
  cases hsteps with
  | accept context uuid accepting haccepting hfree hlimit =>
    refine ⟨h.gateway, fun c hc => ?_⟩
    rcases List.mem_append.mp hc with hold | hnew
    · exact h.stands c hold
    · rw [List.mem_singleton.mp hnew]
      exact stands_of_stage (.inl rfl)
  | acceptFails uuid accepting haccepting hfree =>
    unfold GateServer.terminateSession
    split
    · exact ⟨h.gateway, inv_modify h _ (fun _ => rfl) fun _ => rfl⟩
    · exact ⟨h.gateway, h.stands⟩
  | checkTimeout uuid i hhandler =>
    exact ⟨h.gateway, inv_modify h i (fun _ => rfl) fun _ => rfl⟩
  | insert uuid i hhandler => exact ⟨h.gateway, h.stands⟩
  | serverStart hhandler => exact ⟨h.gateway, h.stands⟩
  | read i request checkValue c hi hstage hfree =>
    exact inv_processed h rfl (processed_processRequest i _ request checkValue)
  | readFails i c hi hstage hfree =>
    exact inv_setConnection h i (stands_of_stage (.inr (.inl rfl)))
  | callback i statement c j g hi hstage hrun =>
    refine ⟨h.gateway.exec _ ((Trace.exec_singleton Gateway.step s.gateway
      (.run j statement)).trans hrun), fun c' hc' => ?_⟩
    exact stands_mono (follows_run hrun) (h.stands c' hc')
  | answer i grpc c j a body hi hstage hj hbody =>
    exact inv_setConnection h i (stands_answer h (List.mem_of_getElem? hi) hstage hj hbody)
  | verificationCode i error c email hi hstage =>
    exact inv_setConnection h i (stands_of_stage (.inr (.inr (.inr ⟨_, rfl, rfl⟩))))
  | written i expired c response hi hstage hfree =>
    have hstands := h.stands c (List.mem_of_getElem? hi)
    rw [stands_response response (.inl hstage)] at hstands
    exact inv_setConnection h i ((stands_response response (.inr rfl)).mpr hstands)
  | timeout i c hi htimer hfree =>
    exact inv_setConnection h i (stands_congr rfl rfl (h.stands c (List.mem_of_getElem? hi)))

theorem inv_of_reaches (h : Trace.Reaches (step boost limit) (start t) s) : Inv boost t s :=
  Trace.invariant (Inv boost t) (fun _ _ _ => inv_step)
    ⟨⟨[], rfl⟩, fun _ hc => absurd hc List.not_mem_nil⟩ h

/-- Every run of the server is one of the accounts. -/
theorem gateway_reaches (h : Trace.Reaches (step boost limit) (start t) s) :
    Trace.Reaches Gateway.step (.start t) s.gateway :=
  (inv_of_reaches h).gateway

theorem identity_of_told (h : Inv boost t s) {username uuid : String}
    (htold : Told boost s username uuid) :
    ∃ callback ∈ s.gateway.callbacks, Gateway.identity callback = some (username, uuid) := by
  obtain ⟨c, hc, request, response, hrequest, hstage, husername, huuid⟩ := htold
  obtain ⟨request', name, callback, hrequest', hname, hmem, hid⟩ :=
    (stands_response response hstage).mp (h.stands c hc) uuid huuid
  obtain rfl := Option.some.inj (hrequest.symm.trans hrequest')
  obtain rfl := Option.some.inj (husername.symm.trans hname)
  exact ⟨callback, hmem, hid⟩

/-- The text of an object with a username and a password. -/
def loginBody : String :=
  "\x7b\"username\":\"alice\",\"password\":\"secret\"\x7d"

/-- Boost, as far as the body goes. -/
def loginBoost : Boost where
  parse := fun body => if body = loginBody then
    some (.object [("username", .string "alice"), ("password", .string "secret")]) else none
  isUrl := fun target => target.startsWith "/"

/-- Two clients log in to the account at the same time. -/
def twoLogins : List Event :=
  let login : HttpRequest := ⟨.post, "/trylogin_server", loginBody⟩
  [.accept 1, .handleAccept, .handleAccept, .handleAccept,
    .accept 2, .handleAccept, .handleAccept, .handleAccept,
    .read 0 login (fun _ => none), .read 1 login (fun _ => none),
    .callback 0 .answered, .callback 1 .answered, .callback 1 .answered, .callback 0 .answered,
    .answer 1 ⟨0, "127.0.0.1", "8090", "b"⟩, .answer 0 ⟨0, "127.0.0.1", "8090", "a"⟩,
    .written 0 false]

theorem exec_twoLogins :
    ∃ s, Trace.exec (step loginBoost 8) (start oneAccount) twoLogins = some s ∧
      Told loginBoost s "alice" "1" :=
  ⟨_, rfl, _, List.mem_cons_self .., _, _, rfl, .inr rfl, rfl, rfl⟩

/-- Two clients have been told the same uuid exactly if they have asked about the same username, in
    every run and whichever of their connections came first. -/
theorem uuid_eq_iff_username (hkeys : Gateway.PrimaryKey t.rows)
    (h : Trace.Reaches (step boost limit) (start t) s) {username username' uuid uuid' : String}
    (htold : Told boost s username uuid) (htold' : Told boost s username' uuid') :
    uuid = uuid' ↔ sql.equal username username' := by
  have hinv := inv_of_reaches h
  obtain ⟨callback, hmem, hid⟩ := identity_of_told hinv htold
  obtain ⟨callback', hmem', hid'⟩ := identity_of_told hinv htold'
  exact Gateway.identities_agree (Gateway.inv_of_reaches hkeys hinv.gateway) hmem hmem' hid hid'

theorem uuid_eq_iff_username_twoLogins :
    ∃ s, Trace.exec (step loginBoost 8) (start oneAccount) twoLogins = some s ∧
      Told loginBoost s "alice" "1" ∧ ("1" = "1" ↔ Collation.strict.equal "alice" "alice") := by
  obtain ⟨s, hs, htold⟩ := exec_twoLogins
  exact ⟨s, hs, htold, uuid_eq_iff_username Gateway.primaryKey_oneAccount ⟨_, hs⟩ htold htold⟩

end Run

end DistributedIM.GatewayServer.HttpServer
