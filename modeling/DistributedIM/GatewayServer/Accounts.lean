/-
  The callbacks of the gateway server that read and write accounts (`/post_registration`,
  `/check_accountexists`, `/reset_password`, `/trylogin_server`), any number of them at a time. Each
  statement is one step, so two registrations, or a reset and a login, may take turns.

  `uuid_eq_iff`: the uuids in the answers identify accounts, whatever the order of steps: two
  answers have the same uuid exactly if their usernames are equal. `passwords_tracked`: a login gets
  an answer only with a password that the account has had; no account goes; each change of a password
  comes from a request with the username and the email of the account, and the last one counts.

  `Statement` is what becomes of one statement; `CREATE_NEW_USER` and `UPDATE_USER_PASSWD` return
  nothing in any case, and nobody asks. Whether usernames, emails and passwords are equal is for the
  collation to say.
-/
import Mathlib.Data.List.Pairwise
import DistributedIM.GatewayServer.Registration
import DistributedIM.Lib.Text
import DistributedIM.Lib.Trace

namespace DistributedIM.GatewayServer

variable {sql : Collation}

/-! ## The other statements -/

namespace Authentication

/-- The row with the password, if it is the one. -/
def withPassword (sql : Collation) (username email password : String) (row : Account) : Account :=
  if row.hasUsername sql username && row.hasEmail sql email then { row with password := password }
  else row

theorem withPassword_uuid (username email password : String) (row : Account) :
    (withPassword sql username email password row).uuid = row.uuid := by
  unfold withPassword
  split <;> rfl

theorem withPassword_username (username email password : String) (row : Account) :
    (withPassword sql username email password row).username = row.username := by
  unfold withPassword
  split <;> rfl

theorem withPassword_email (username email password : String) (row : Account) :
    (withPassword sql username email password row).email = row.email := by
  unfold withPassword
  split <;> rfl

/-- The table with other passwords only. -/
def setPassword (t : Authentication sql) (username email password : String) :
    Authentication sql where
  rows := t.rows.map (withPassword sql username email password)
  nextUuid := t.nextUuid
  uuid_lt := by
    intro row hrow
    obtain ⟨old, hold, rfl⟩ := List.mem_map.mp hrow
    rw [withPassword_uuid]
    exact t.uuid_lt old hold
  username_unique := by
    rw [List.pairwise_map]
    refine t.username_unique.imp fun {a b} h => ?_
    unfold Account.hasUsername at h ⊢
    rw [withPassword_username, withPassword_username]
    exact h
  email_unique := by
    rw [List.pairwise_map]
    refine t.email_unique.imp fun {a b} h => ?_
    unfold Account.hasEmail at h ⊢
    rw [withPassword_email, withPassword_email]
    exact h

/-- `UPDATE_USER_PASSWD` -/
def updateUserPasswd (t : Authentication sql) (password username email : String) :
    Authentication sql :=
  match sql.varchar 255 password with
  | some password => t.setPassword username email password
  | none => t

/-- `USER_LOGIN_CHECK` -/
def userLoginCheck (t : Authentication sql) (username password : String) : List Account :=
  t.rows.filter fun row => row.hasUsername sql username && sql.equal row.password password

end Authentication

/-! ## The callbacks -/

/-- What becomes of a statement: it is executed and answered, executed with its results lost, or
    not executed. -/
inductive Statement
  | answered
  | lost
  | failed
  deriving DecidableEq, Repr

/-- The rows of a query; none: `executeCommand` has nothing to return. -/
def Statement.query {ρ : Type} (statement : Statement) (rows : List ρ) : Option (List ρ) :=
  if statement = .answered then executeCommand rows else none

/-- The table after a statement that writes. -/
def Statement.write {τ : Type} (statement : Statement) (t t' : τ) : τ :=
  if statement = .failed then t else t'

/-- What the client is told. -/
inductive Answer
  | refused (refusal : Refusal)
  /-- `MYSQL_ACCOUNT_NOT_EXISTS` -/
  | accountNotExists
  /-- `MYSQL_MISSING_INFO` -/
  | missingInfo
  /-- `LOGIN_INFO_ERROR` -/
  | loginInfoError
  | registered (send : Registered)
  | found (username email : String)
  | passwordReset
  /-- `addNewUserToServer` is called with the uuid, which is sent with what it returns. -/
  | allocated (username password : String) (uuid : Nat)

/-- Where a callback is: the statement that comes next. -/
inductive Callback
  | findNew (request : MySQLRequestStruct)
  | createNewUser (request : MySQLRequestStruct)
  | getNewUuid (request : MySQLRequestStruct)
  | findAccount (username email : String)
  | findReset (request : MySQLRequestStruct)
  | updateUserPasswd (request : MySQLRequestStruct)
  | userLoginCheck (username password : String)
  | getUserUuid (username password : String)
  | answered (answer : Answer)

def Callback.postRegistration (checkValue : String → Option String) (body : Option Json) :
    Callback :=
  match readRegistration checkValue body with
  | .error refusal => .answered (.refused refusal)
  | .ok request => .findNew request

/-- The object of a body that has the keys. -/
def readObject (keys : List String) (body : Option Json) : Except Refusal Json.Object := do
  let root ← parseObject body
  if !(keys.all root.contains) then
    throw (some .jsonparseError)
  return root

def readAccount (body : Option Json) : Except Refusal (String × String) := do
  let root ← readObject ["username", "email"] body
  let username ← textField root "username"
  let email ← textField root "email"
  return (username, email)

def Callback.checkAccountexists (body : Option Json) : Callback :=
  match readAccount body with
  | .error refusal => .answered (.refused refusal)
  | .ok (username, email) => .findAccount username email

def readReset (body : Option Json) : Except Refusal MySQLRequestStruct := do
  let root ← readObject ["username", "password", "email"] body
  let username ← textField root "username"
  let password ← textField root "password"
  let email ← textField root "email"
  return ⟨username, password, email⟩

/-- No verification code is asked for. -/
def Callback.resetPassword (body : Option Json) : Callback :=
  match readReset body with
  | .error refusal => .answered (.refused refusal)
  | .ok request => .findReset request

def readLogin (body : Option Json) : Except Refusal (String × String) := do
  let root ← readObject ["username", "password"] body
  let username ← textField root "username"
  let password ← textField root "password"
  return (username, password)

def Callback.tryloginServer (body : Option Json) : Callback :=
  match readLogin body with
  | .error refusal => .answered (.refused refusal)
  | .ok (username, password) => .userLoginCheck username password

namespace Callback

/-- `checkAccountAvailability`, with its statement. -/
def available (statement : Statement) (t : Authentication sql) (username email : String) : Bool :=
  match statement.query (t.findExistingUser username email) with
  | none => false
  | some rows => rows.length != 0

/-- `getUUIDByUsername`, with its statement. -/
def uuidByUsername (statement : Statement) (t : Authentication sql) (username : String) :
    Option Nat :=
  (statement.query (t.getUserUuid username)).bind List.head?

/-- The next statement; the request is the one whose row is written. -/
def run (statement : Statement) (t : Authentication sql) :
    Callback → Option (Authentication sql × Callback × Option MySQLRequestStruct)
  | .findNew request =>
    some (t, if available statement t request.username request.email
      then .answered (.refused (some .mysqlInternalError)) else .createNewUser request, none)
  | .createNewUser request =>
    some (statement.write t (t.createNewUser request.username request.password request.email),
      .getNewUuid request, some request)
  | .getNewUuid request =>
    some (t, match uuidByUsername statement t request.username with
      | none => .answered (.refused (some .loginUnsuccessful))
      | some uuid => .answered (.registered
          ⟨request.username, request.password, request.email, uuid.repr⟩), none)
  | .findAccount username email =>
    some (t, .answered (if available statement t username email
      then .found username email else .accountNotExists), none)
  | .findReset request =>
    some (t, if available statement t request.username request.email
      then .updateUserPasswd request else .answered .missingInfo, none)
  | .updateUserPasswd request =>
    some (statement.write t
      (t.updateUserPasswd request.password request.username request.email),
      .answered .passwordReset, some request)
  | .userLoginCheck username password =>
    some (t, match statement.query (t.userLoginCheck username password) with
      | none => .answered .loginInfoError
      | some _ => .getUserUuid username password, none)
  | .getUserUuid username password =>
    some (t, match uuidByUsername statement t username with
      | none => .answered (.refused (some .loginUnsuccessful))
      | some uuid => .answered (.allocated username password uuid), none)
  | .answered _ => none

end Callback

/-! ## The server -/

/-- A row as it once was, and the request that made it so; none: it was there before. -/
structure Version where
  row : Account
  request : Option MySQLRequestStruct

/-- The gateway server and its database. -/
structure Gateway (sql : Collation) where
  table : Authentication sql
  callbacks : List Callback
  /-- all versions of all rows, the latest last -/
  versions : List Version

namespace Gateway

def start (t : Authentication sql) : Gateway sql where
  table := t
  callbacks := []
  versions := t.rows.map fun row => ⟨row, none⟩

inductive Event
  | postRegistration (checkValue : String → Option String) (body : Option Json)
  | checkAccountexists (body : Option Json)
  | resetPassword (body : Option Json)
  | tryloginServer (body : Option Json)
  /-- callback `i` goes on -/
  | run (i : Nat) (statement : Statement)

/-- The rows of `t'` that `t` does not have. -/
def changed (t t' : Authentication sql) : List Account :=
  t'.rows.filter fun row => row ∉ t.rows

def run (s : Gateway sql) (i : Nat) (statement : Statement) : Option (Gateway sql) :=
  s.callbacks[i]?.bind fun callback =>
    (callback.run statement s.table).map fun r =>
      { table := r.1
        callbacks := s.callbacks.set i r.2.1
        versions := s.versions ++ (changed s.table r.1).map fun row => ⟨row, r.2.2⟩ }

def receive (s : Gateway sql) (callback : Callback) : Gateway sql :=
  { s with callbacks := s.callbacks ++ [callback] }

def step (s : Gateway sql) : Event → Option (Gateway sql)
  | .postRegistration checkValue body =>
    some (s.receive (.postRegistration checkValue body))
  | .checkAccountexists body => some (s.receive (.checkAccountexists body))
  | .resetPassword body => some (s.receive (.resetPassword body))
  | .tryloginServer body => some (s.receive (.tryloginServer body))
  | .run i statement => s.run i statement

/-- The username and the uuid in an answer that has one. -/
def identity : Callback → Option (String × String)
  | .answered (.registered send) => some (send.username, send.uuid)
  | .answered (.allocated username _ uuid) => some (username, uuid.repr)
  | _ => none

/-- `uuid` is the primary key. -/
def PrimaryKey (rows : List Account) : Prop :=
  rows.Pairwise fun a b => a.uuid ≠ b.uuid

/-- The latest version of the row with the uuid. -/
def latest (s : Gateway sql) (uuid : Nat) : Option Account :=
  ((s.versions.filter fun v => v.row.uuid = uuid).getLast?).map Version.row

/-- The request names the row by its username and email, or the row has been made from it; the
    password is what the column keeps of the one in the request. -/
def Writes (sql : Collation) (request : MySQLRequestStruct) (row : Account) : Prop :=
  sql.varchar 255 request.password = some row.password ∧
    (row.hasUsername sql request.username ∧ row.hasEmail sql request.email ∨
      sql.varchar 50 request.username = some row.username ∧
        sql.varchar 100 request.email = row.email)

/-! ## What a statement does to the table -/

/-- No account goes, nor changes its uuid, username or email; a row that is new or changed comes
    from the request. -/
structure Evolves (t t' : Authentication sql) (request : Option MySQLRequestStruct) : Prop where
  keys : PrimaryKey t.rows → PrimaryKey t'.rows
  kept : ∀ row ∈ t.rows, ∃ row' ∈ t'.rows, row'.uuid = row.uuid ∧ row'.username = row.username ∧
    row'.email = row.email
  source : ∀ row ∈ t'.rows, row ∉ t.rows → ∃ r, request = some r ∧ Writes sql r row

variable {t t' : Authentication sql}

theorem evolves_same {request : Option MySQLRequestStruct} (hrows : t'.rows = t.rows) :
    Evolves t t' request where
  keys h := hrows ▸ h
  kept row hrow := ⟨row, hrows ▸ hrow, rfl, rfl, rfl⟩
  source _ hrow hnew := absurd (hrows ▸ hrow) hnew

theorem evolves_createNewUser (t : Authentication sql) (request : MySQLRequestStruct) :
    Evolves t (t.createNewUser request.username request.password request.email) (some request) := by
  unfold Authentication.createNewUser
  split
  · rename_i username password email husername hpassword hemail
    split
    · exact evolves_same rfl
    · split
      · refine ⟨fun h => ?_, fun row hrow => ⟨row, List.mem_append_left _ hrow, rfl, rfl, rfl⟩,
          fun _ hrow hnew => ⟨request, rfl, ?_⟩⟩
        · refine List.pairwise_append.mpr ⟨h, List.pairwise_singleton _ _, fun a ha b hb => ?_⟩
          rw [List.mem_singleton.mp hb]
          exact Nat.ne_of_lt (t.uuid_lt a ha)
        · rcases List.mem_append.mp hrow with hold | hlast
          · exact absurd hold hnew
          · rw [List.mem_singleton.mp hlast]
            exact ⟨hpassword, .inr ⟨husername, hemail⟩⟩
      · exact evolves_same rfl
  · exact evolves_same rfl

theorem evolves_updateUserPasswd (t : Authentication sql) (request : MySQLRequestStruct) :
    Evolves t (t.updateUserPasswd request.password request.username request.email)
      (some request) := by
  unfold Authentication.updateUserPasswd
  split
  · rename_i password hpassword
    refine ⟨fun h => ?_, fun row hrow => ?_, fun _ hrow hnew => ⟨request, rfl, ?_⟩⟩
    · refine List.pairwise_map.mpr (h.imp fun {a b} hab => ?_)
      rw [Authentication.withPassword_uuid, Authentication.withPassword_uuid]
      exact hab
    · exact ⟨_, List.mem_map.mpr ⟨row, hrow, rfl⟩, Authentication.withPassword_uuid ..,
        Authentication.withPassword_username .., Authentication.withPassword_email ..⟩
    · obtain ⟨old, hold, rfl⟩ := List.mem_map.mp hrow
      unfold Authentication.withPassword at hnew ⊢
      split at hnew
      · rename_i hmatch
        rw [if_pos hmatch]
        rw [Bool.and_eq_true] at hmatch
        exact ⟨hpassword, .inl hmatch⟩
      · exact absurd hold hnew
  · exact evolves_same rfl

theorem evolves_write {request : Option MySQLRequestStruct} (statement : Statement)
    (h : Evolves t t' request) : Evolves t (statement.write t t') request := by
  unfold Statement.write
  split
  · exact evolves_same rfl
  · exact h

/-! ## Rows -/

theorem row_of_username {a b : Account} (ha : a ∈ t.rows) (hb : b ∈ t.rows)
    (h : sql.equal a.username b.username) : a = b := by
  by_contra hne
  have : Std.Symm fun a b : Account => ¬a.hasUsername sql b.username :=
    ⟨fun a b hab hba => hab (sql.equal_symm _ _ hba)⟩
  exact t.username_unique.forall ha hb hne h

theorem row_of_uuid {rows : List Account} (hkeys : PrimaryKey rows) {a b : Account}
    (ha : a ∈ rows) (hb : b ∈ rows) (h : a.uuid = b.uuid) : a = b := by
  by_contra hne
  have : Std.Symm fun a b : Account => a.uuid ≠ b.uuid := ⟨fun _ _ hab => hab.symm⟩
  exact hkeys.forall ha hb hne h

theorem username_of_both {row : Account} {u u' : String} (h : row.hasUsername sql u)
    (h' : row.hasUsername sql u') : sql.equal u u' :=
  sql.equal_trans _ _ _ (sql.equal_symm _ _ h) h'

/-- Rows with distinct uuids: those with the uuid of one of them are that one. -/
theorem filter_uuid {rows : List Account} (hkeys : PrimaryKey rows) {row : Account}
    (hrow : row ∈ rows) : rows.filter (fun r => r.uuid = row.uuid) = [row] := by
  induction rows with
  | nil => cases hrow
  | cons first rows ih =>
    obtain ⟨hfirst, hkeys⟩ := List.pairwise_cons.mp hkeys
    rcases List.mem_cons.mp hrow with rfl | hrow
    · rw [List.filter_cons_of_pos (by simp), List.filter_eq_nil_iff.mpr]
      intro r hr
      simpa using (hfirst r hr).symm
    · rw [List.filter_cons_of_neg (by simpa using hfirst row hrow), ih hkeys hrow]

/-! ## The invariant -/

/-- What a callback that has found something has found. -/
def Evidence (s : Gateway sql) : Callback → Prop
  | .getUserUuid username password =>
    ∃ v ∈ s.versions, v.row.hasUsername sql username ∧ sql.equal v.row.password password
  | .answered (.allocated username password uuid) =>
    ∃ v ∈ s.versions, v.row.uuid = uuid ∧ v.row.hasUsername sql username ∧
      sql.equal v.row.password password
  | .answered (.registered send) =>
    ∃ v ∈ s.versions, v.row.uuid.repr = send.uuid ∧ v.row.hasUsername sql send.username
  | _ => True

structure Inv (s : Gateway sql) : Prop where
  keys : PrimaryKey s.table.rows
  kept : ∀ v ∈ s.versions, ∃ row ∈ s.table.rows, row.uuid = v.row.uuid ∧
    row.username = v.row.username ∧ row.email = v.row.email
  latest : ∀ row ∈ s.table.rows, s.latest row.uuid = some row
  source : ∀ v ∈ s.versions, ∀ request, v.request = some request → Writes sql request v.row
  evidence : ∀ callback ∈ s.callbacks, s.Evidence callback

variable {s s' : Gateway sql}

/-- A row of the table is one of the versions. -/
theorem version_of_row (h : Inv s) {row : Account} (hrow : row ∈ s.table.rows) :
    ∃ v ∈ s.versions, v.row = row := by
  obtain ⟨v, hv, hv'⟩ := Option.map_eq_some_iff.mp (h.latest row hrow)
  exact ⟨v, List.mem_of_mem_filter (List.mem_of_getLast? hv), hv'⟩

theorem inv_start (hkeys : PrimaryKey t.rows) : Inv (start t) where
  keys := hkeys
  kept := by
    intro v hv
    obtain ⟨row, hrow, rfl⟩ := List.mem_map.mp hv
    exact ⟨row, hrow, rfl, rfl, rfl⟩
  latest := by
    intro row hrow
    have hfilter : (start t).versions.filter (fun v => v.row.uuid = row.uuid) = [⟨row, none⟩] := by
      show (t.rows.map _).filter _ = _
      rw [List.filter_map]
      exact congrArg (List.map _) (filter_uuid hkeys hrow)
    rw [Gateway.latest, hfilter]
    rfl
  source := by
    intro v hv request hrequest
    obtain ⟨row, -, rfl⟩ := List.mem_map.mp hv
    cases hrequest
  evidence := by
    intro callback hcallback
    cases hcallback

/-- More versions are no harm to what has been found. -/
theorem evidence_mono {versions : List Version} (hversions : ∀ v ∈ s.versions, v ∈ versions)
    {callback : Callback} (h : s.Evidence callback) (table : Authentication sql)
    (callbacks : List Callback) : Evidence ⟨table, callbacks, versions⟩ callback := by
  unfold Evidence at h ⊢
  split at h
  · obtain ⟨v, hv, hrest⟩ := h
    exact ⟨v, hversions v hv, hrest⟩
  · obtain ⟨v, hv, hrest⟩ := h
    exact ⟨v, hversions v hv, hrest⟩
  · obtain ⟨v, hv, hrest⟩ := h
    exact ⟨v, hversions v hv, hrest⟩
  · trivial

theorem inv_receive (h : Inv s) {callback : Callback} (hcallback : s.Evidence callback) :
    Inv (s.receive callback) where
  keys := h.keys
  kept := h.kept
  latest := h.latest
  source := h.source
  evidence := by
    intro c hc
    rcases List.mem_append.mp hc with hold | hnew
    · exact evidence_mono (fun _ hv => hv) (h.evidence c hold) _ _
    · rw [List.mem_singleton.mp hnew]
      exact evidence_mono (fun _ hv => hv) hcallback _ _

/-- The versions after a change of the table end with the rows of the table. -/
theorem latest_append (h : Inv s) {request : Option MySQLRequestStruct}
    (hevolves : Evolves s.table t' request) (callbacks : List Callback) {row : Account}
    (hrow : row ∈ t'.rows) :
    latest ⟨t', callbacks, s.versions ++ (changed s.table t').map fun row => ⟨row, request⟩⟩
      row.uuid = some row := by
  have hkeys : PrimaryKey (changed s.table t') := (hevolves.keys h.keys).filter _
  unfold latest
  dsimp only
  rw [List.filter_append, List.filter_map]
  by_cases hold : row ∈ s.table.rows
  · have hnone : (changed s.table t').filter
        ((fun v : Version => decide (v.row.uuid = row.uuid)) ∘ fun row => ⟨row, request⟩) = [] := by
      rw [List.filter_eq_nil_iff]
      intro r hr huuid
      obtain ⟨hr, hnew⟩ := List.mem_filter.mp hr
      have hsame := row_of_uuid (hevolves.keys h.keys) hr hrow (by simpa using huuid)
      rw [hsame] at hnew
      simp [hold] at hnew
    rw [hnone, List.map_nil, List.append_nil]
    exact h.latest row hold
  · have hmem : row ∈ changed s.table t' := by
      unfold changed
      simp [hrow, hold]
    have hone := filter_uuid hkeys hmem
    rw [show (changed s.table t').filter
      ((fun v : Version => decide (v.row.uuid = row.uuid)) ∘ fun row => ⟨row, request⟩) = [row]
      from hone, List.map_singleton, List.getLast?_concat]
    rfl

/-- A statement, once it is known what it does to the table and what the callback finds. -/
theorem inv_evolves (h : Inv s) {request : Option MySQLRequestStruct}
    (hevolves : Evolves s.table t' request) {callbacks : List Callback}
    (hcallbacks : ∀ callback ∈ callbacks, s.Evidence callback) :
    Inv ⟨t', callbacks, s.versions ++ (changed s.table t').map fun row => ⟨row, request⟩⟩ where
  keys := hevolves.keys h.keys
  kept := by
    intro v hv
    rcases List.mem_append.mp hv with hold | hnew
    · obtain ⟨row, hrow, huuid, husername, hemail⟩ := h.kept v hold
      obtain ⟨row', hrow', huuid', husername', hemail'⟩ := hevolves.kept row hrow
      exact ⟨row', hrow', huuid'.trans huuid, husername'.trans husername, hemail'.trans hemail⟩
    · obtain ⟨row, hrow, rfl⟩ := List.mem_map.mp hnew
      exact ⟨row, List.mem_of_mem_filter hrow, rfl, rfl, rfl⟩
  latest := fun row hrow => latest_append h hevolves callbacks hrow
  source := by
    intro v hv r hr
    rcases List.mem_append.mp hv with hold | hnew
    · exact h.source v hold r hr
    · obtain ⟨row, hrow, rfl⟩ := List.mem_map.mp hnew
      obtain ⟨hrow, hnew⟩ := List.mem_filter.mp hrow
      obtain ⟨r', hr', hwrites⟩ := hevolves.source row hrow (by simpa using hnew)
      obtain rfl := Option.some.inj (hr'.symm.trans hr)
      exact hwrites
  evidence := fun callback hcallback =>
    evidence_mono (fun _ hv => List.mem_append_left _ hv) (hcallbacks callback hcallback) _ _

/-! ## Steps -/

theorem query_eq_some {ρ : Type} {statement : Statement} {rows found : List ρ}
    (h : statement.query rows = some found) : found = rows ∧ rows ≠ [] := by
  obtain ⟨-, hrows⟩ := Option.ite_none_right_eq_some.mp h
  obtain ⟨hne, heq⟩ := Option.ite_none_left_eq_some.mp hrows
  exact ⟨(Option.some.inj heq).symm, by simpa using hne⟩

/-- The uuid of a username is that of the row with the username. -/
theorem uuidByUsername_eq_some {statement : Statement} {username : String} {uuid : Nat}
    (h : Callback.uuidByUsername statement t username = some uuid) :
    ∃ row ∈ t.rows, row.hasUsername sql username ∧ row.uuid = uuid := by
  obtain ⟨uuids, hquery, hhead⟩ := Option.bind_eq_some_iff.mp h
  obtain ⟨rfl, -⟩ := query_eq_some hquery
  obtain ⟨row, hrow, rfl⟩ := List.mem_map.mp (List.mem_of_head? hhead)
  obtain ⟨hrow, husername⟩ := List.mem_filter.mp hrow
  exact ⟨row, hrow, husername, rfl⟩

theorem userLoginCheck_eq_some {statement : Statement} {username password : String}
    {rows : List Account} (h : statement.query (t.userLoginCheck username password) = some rows) :
    ∃ row ∈ t.rows, row.hasUsername sql username ∧ sql.equal row.password password := by
  obtain ⟨rfl, hne⟩ := query_eq_some h
  obtain ⟨row, hrow⟩ := List.exists_mem_of_ne_nil _ hne
  obtain ⟨hrow, hmatch⟩ := List.mem_filter.mp hrow
  exact ⟨row, hrow, by simpa using hmatch⟩

/-- What a callback goes on to is what it has evidence for, before the statement already. -/
theorem run_spec (h : Inv s) {statement : Statement} {callback callback' : Callback}
    {request : Option MySQLRequestStruct} (hevidence : s.Evidence callback)
    (hrun : callback.run statement s.table = some (t', callback', request)) :
    Evolves s.table t' request ∧ s.Evidence callback' := by
  unfold Callback.run at hrun
  split at hrun <;> simp only [Option.some.injEq, Prod.mk.injEq, reduceCtorEq] at hrun <;>
    obtain ⟨rfl, rfl, rfl⟩ := hrun
  · refine ⟨evolves_same rfl, ?_⟩
    split <;> trivial
  · exact ⟨evolves_write statement (evolves_createNewUser ..), trivial⟩
  · refine ⟨evolves_same rfl, ?_⟩
    split
    · trivial
    · rename_i uuid huuid
      obtain ⟨row, hrow, husername, rfl⟩ := uuidByUsername_eq_some huuid
      obtain ⟨v, hv, rfl⟩ := version_of_row h hrow
      exact ⟨v, hv, rfl, husername⟩
  · refine ⟨evolves_same rfl, ?_⟩
    split <;> trivial
  · refine ⟨evolves_same rfl, ?_⟩
    split <;> trivial
  · exact ⟨evolves_write statement (evolves_updateUserPasswd ..), trivial⟩
  · refine ⟨evolves_same rfl, ?_⟩
    split
    · trivial
    · rename_i rows hrows
      obtain ⟨row, hrow, hmatch⟩ := userLoginCheck_eq_some hrows
      obtain ⟨v, hv, rfl⟩ := version_of_row h hrow
      exact ⟨v, hv, hmatch⟩
  · refine ⟨evolves_same rfl, ?_⟩
    split
    · trivial
    · rename_i username password uuid huuid
      obtain ⟨v, hv, husername, hpassword⟩ := hevidence
      obtain ⟨row, hrow, husername', rfl⟩ := uuidByUsername_eq_some huuid
      obtain ⟨row', hrow', huuid', hsame, -⟩ := h.kept v hv
      have hone : row' = row := by
        refine row_of_username hrow' hrow ?_
        rw [hsame]
        exact sql.equal_trans _ _ _ husername (sql.equal_symm _ _ husername')
      refine ⟨v, hv, ?_, husername, hpassword⟩
      rw [← hone, huuid']

theorem inv_step {e : Event} (h : Inv s) (hstep : s.step e = some s') : Inv s' := by
  cases e with
  | postRegistration checkValue body =>
    obtain rfl := Option.some.inj hstep
    refine inv_receive h ?_
    unfold Callback.postRegistration
    split <;> trivial
  | checkAccountexists body =>
    obtain rfl := Option.some.inj hstep
    refine inv_receive h ?_
    unfold Callback.checkAccountexists
    split <;> trivial
  | resetPassword body =>
    obtain rfl := Option.some.inj hstep
    refine inv_receive h ?_
    unfold Callback.resetPassword
    split <;> trivial
  | tryloginServer body =>
    obtain rfl := Option.some.inj hstep
    refine inv_receive h ?_
    unfold Callback.tryloginServer
    split <;> trivial
  | run i statement =>
    obtain ⟨callback, hi, hmap⟩ := Option.bind_eq_some_iff.mp hstep
    obtain ⟨⟨t', callback', request⟩, hrun, rfl⟩ := Option.map_eq_some_iff.mp hmap
    obtain ⟨hevolves, hevidence⟩ := run_spec h (h.evidence _ (List.mem_of_getElem? hi)) hrun
    refine inv_evolves h hevolves fun c hc => ?_
    rcases List.mem_or_eq_of_mem_set hc with hold | rfl
    · exact h.evidence c hold
    · exact hevidence

/-- What has been answered stays answered, and no version is forgotten. -/
theorem kept_step {e : Event} (hstep : s.step e = some s') :
    (∀ (i : Nat) answer, s.callbacks[i]? = some (Callback.answered answer) →
        s'.callbacks[i]? = some (Callback.answered answer)) ∧
      ∀ v ∈ s.versions, v ∈ s'.versions := by
  cases e with
  | postRegistration _ _ | checkAccountexists _ | resetPassword _ | tryloginServer _ =>
    obtain rfl := Option.some.inj hstep
    refine ⟨fun j answer hj => ?_, fun _ h => h⟩
    obtain ⟨hlt, -⟩ := List.getElem?_eq_some_iff.mp hj
    exact (List.getElem?_append_left hlt).trans hj
  | run i statement =>
    obtain ⟨callback, hi, hmap⟩ := Option.bind_eq_some_iff.mp hstep
    obtain ⟨r, hrun, rfl⟩ := Option.map_eq_some_iff.mp hmap
    refine ⟨fun j answer hj => ?_, fun _ h => List.mem_append_left _ h⟩
    have hij : i ≠ j := by
      rintro rfl
      obtain rfl := Option.some.inj (hi.symm.trans hj)
      cases hrun
    exact (List.getElem?_set_ne hij).trans hj

theorem inv_of_reaches (hkeys : PrimaryKey t.rows) (h : Trace.Reaches step (start t) s) : Inv s :=
  Trace.invariant Inv (fun _ _ _ => inv_step) (inv_start hkeys) h

/-- A version that a step adds comes from a request. -/
theorem versions_step (h : Inv s) {e : Event} (hstep : s.step e = some s') {v : Version}
    (hv : v ∈ s'.versions) : v ∈ s.versions ∨ ∃ request, v.request = some request := by
  cases e with
  | postRegistration _ _ | checkAccountexists _ | resetPassword _ | tryloginServer _ =>
    obtain rfl := Option.some.inj hstep
    exact Or.inl hv
  | run i statement =>
    obtain ⟨callback, hi, hmap⟩ := Option.bind_eq_some_iff.mp hstep
    obtain ⟨⟨t', callback', request⟩, hrun, rfl⟩ := Option.map_eq_some_iff.mp hmap
    obtain ⟨hevolves, -⟩ := run_spec h (h.evidence _ (List.mem_of_getElem? hi)) hrun
    rcases List.mem_append.mp hv with hold | hnew
    · exact Or.inl hold
    · obtain ⟨row, hrow, rfl⟩ := List.mem_map.mp hnew
      obtain ⟨hrow, hnew⟩ := List.mem_filter.mp hrow
      obtain ⟨r, hr, -⟩ := hevolves.source row hrow (by simpa using hnew)
      exact Or.inr ⟨r, hr⟩

/-- A version without a request was there before. -/
theorem before_of_reaches (hkeys : PrimaryKey t.rows) (h : Trace.Reaches step (start t) s) :
    ∀ v ∈ s.versions, v.request = none → v.row ∈ t.rows := by
  refine (Trace.invariant
    (fun s => Inv s ∧ ∀ v ∈ s.versions, v.request = none → v.row ∈ t.rows) ?_ ?_ h).2
  · rintro s e s' ⟨hinv, hbefore⟩ hstep
    refine ⟨inv_step hinv hstep, fun v hv hnone => ?_⟩
    rcases versions_step hinv hstep hv with hold | ⟨request, hrequest⟩
    · exact hbefore v hold hnone
    · rw [hnone] at hrequest
      cases hrequest
  · refine ⟨inv_start hkeys, fun v hv _ => ?_⟩
    obtain ⟨row, hrow, rfl⟩ := List.mem_map.mp hv
    exact hrow

/-! ## Accounts and answers -/

/-- An answer with a uuid is about the row with the username. -/
theorem row_of_identity (h : Inv s) {callback : Callback} (hcallback : callback ∈ s.callbacks)
    {username uuid : String} (hidentity : identity callback = some (username, uuid)) :
    ∃ row ∈ s.table.rows, row.uuid.repr = uuid ∧ row.hasUsername sql username := by
  have hevidence := h.evidence callback hcallback
  unfold identity at hidentity
  split at hidentity
  · simp only [Option.some.injEq, Prod.mk.injEq] at hidentity
    obtain ⟨rfl, rfl⟩ := hidentity
    obtain ⟨v, hv, huuid, husername⟩ := hevidence
    obtain ⟨row, hrow, huuid', husername', -⟩ := h.kept v hv
    unfold Account.hasUsername at husername ⊢
    exact ⟨row, hrow, by rw [huuid', huuid], by rw [husername']; exact husername⟩
  · simp only [Option.some.injEq, Prod.mk.injEq] at hidentity
    obtain ⟨rfl, rfl⟩ := hidentity
    obtain ⟨v, hv, huuid, husername, -⟩ := hevidence
    obtain ⟨row, hrow, huuid', husername', -⟩ := h.kept v hv
    unfold Account.hasUsername at husername ⊢
    exact ⟨row, hrow, by rw [huuid', huuid], by rw [husername']; exact husername⟩
  · cases hidentity

/-- Answers have the same uuid if and only if their usernames are equal. -/
theorem identities_agree (hinv : Inv s) {c c' : Callback} (hc : c ∈ s.callbacks)
    (hc' : c' ∈ s.callbacks) {username username' uuid uuid' : String}
    (hid : identity c = some (username, uuid)) (hid' : identity c' = some (username', uuid')) :
    uuid = uuid' ↔ sql.equal username username' := by
  obtain ⟨row, hrow, rfl, husername⟩ := row_of_identity hinv hc hid
  obtain ⟨row', hrow', rfl, husername'⟩ := row_of_identity hinv hc' hid'
  constructor
  · intro huuid
    obtain rfl := row_of_uuid hinv.keys hrow hrow' (Text.repr_injective huuid)
    exact username_of_both husername husername'
  · intro hequal
    have hnames : sql.equal row.username row'.username :=
      sql.equal_trans _ _ _ husername
        (sql.equal_trans _ _ _ hequal (sql.equal_symm _ _ husername'))
    rw [row_of_username hrow hrow' hnames]

/-- Two logins to one account, the second after a reset of its password. -/
def resetBetween : List Event :=
  let login (password : String) : Event :=
    .tryloginServer (some (.object [("username", .string "alice"), ("password", .string password)]))
  [login "secret", .run 0 .answered, .run 0 .answered,
    .resetPassword (some (.object [("username", .string "alice"), ("password", .string "hidden"),
      ("email", .string "alice@a.com")])), .run 1 .answered, .run 1 .answered,
    login "hidden", .run 2 .answered, .run 2 .answered]

theorem primaryKey_oneAccount : PrimaryKey oneAccount.rows :=
  List.pairwise_singleton _ _

theorem exec_resetBetween :
    ∃ s, Trace.exec step (start oneAccount) resetBetween = some s ∧
      s.callbacks = [.answered (.allocated "alice" "secret" 1), .answered .passwordReset,
        .answered (.allocated "alice" "hidden" 1)] :=
  ⟨_, rfl, rfl⟩

/-- Two answers, of registrations or logins and from any time of the run, have the same uuid exactly
    if their usernames are equal. -/
theorem uuid_eq_iff (hkeys : PrimaryKey t.rows) (h : Trace.Reaches step (start t) s)
    {c c' : Callback} (hc : c ∈ s.callbacks) (hc' : c' ∈ s.callbacks)
    {username username' uuid uuid' : String} (hid : identity c = some (username, uuid))
    (hid' : identity c' = some (username', uuid')) :
    uuid = uuid' ↔ sql.equal username username' :=
  identities_agree (inv_of_reaches hkeys h) hc hc' hid hid'

theorem uuid_eq_iff_resetBetween :
    ∃ s, Trace.exec step (start oneAccount) resetBetween = some s ∧
      ((1 : Nat).repr = (1 : Nat).repr ↔ Collation.strict.equal "alice" "alice") := by
  obtain ⟨s, hs, hcallbacks⟩ := exec_resetBetween
  refine ⟨s, hs, uuid_eq_iff primaryKey_oneAccount ⟨_, hs⟩
    (hcallbacks ▸ List.mem_cons_self .. : .answered (.allocated "alice" "secret" 1) ∈ s.callbacks)
    (hcallbacks ▸ by simp : .answered (.allocated "alice" "hidden" 1) ∈ s.callbacks) rfl rfl⟩

/-- A login gets an answer only with a password that the account with its username has had; the
    table has the latest version of each account, and each account that ever was; and each version
    was there before or comes from a request with the username, the email and the password. -/
theorem passwords_tracked (hkeys : PrimaryKey t.rows) (h : Trace.Reaches step (start t) s) :
    (∀ username password uuid, .answered (.allocated username password uuid) ∈ s.callbacks →
      ∃ v ∈ s.versions, v.row.uuid = uuid ∧ v.row.hasUsername sql username ∧
        sql.equal v.row.password password) ∧
    (∀ row ∈ s.table.rows, s.latest row.uuid = some row) ∧
    (∀ v ∈ s.versions, ∃ row ∈ s.table.rows, row.uuid = v.row.uuid ∧
      row.username = v.row.username ∧ row.email = v.row.email) ∧
    ∀ v ∈ s.versions, v.request = none ∧ v.row ∈ t.rows ∨
      ∃ request, v.request = some request ∧ Writes sql request v.row := by
  have hinv := inv_of_reaches hkeys h
  refine ⟨fun _ _ _ hanswer => hinv.evidence _ hanswer, hinv.latest, hinv.kept, fun v hv => ?_⟩
  cases hrequest : v.request with
  | none => exact Or.inl ⟨rfl, before_of_reaches hkeys h v hv hrequest⟩
  | some request => exact Or.inr ⟨request, rfl, hinv.source v hv request hrequest⟩

theorem passwords_tracked_resetBetween :
    ∃ s, Trace.exec step (start oneAccount) resetBetween = some s ∧
      ∃ v ∈ s.versions, v.row.uuid = 1 ∧ v.row.password = "secret" := by
  obtain ⟨s, hs, hcallbacks⟩ := exec_resetBetween
  have hanswer : Callback.answered (.allocated "alice" "secret" 1) ∈ s.callbacks := by
    rw [hcallbacks]
    exact List.mem_cons_self ..
  obtain ⟨v, hv, huuid, -, hpassword⟩ :=
    (passwords_tracked primaryKey_oneAccount ⟨_, hs⟩).1 _ _ _ hanswer
  exact ⟨s, hs, v, hv, huuid, by simpa [Collation.strict] using hpassword⟩

end Gateway

end DistributedIM.GatewayServer
