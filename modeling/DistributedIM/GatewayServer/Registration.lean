/-
  Registration on the gateway server: the table `Authentication`, the statements of
  `MySQLConnectionPool::registerSQLStatement` on it, `MySQLConnection::registerNewUser`, and the
  callback of `/post_registration`.

  An account exists for `FIND_EXISTING_USER` if a row has both the username and the email; the table
  has each of them once. `registerNewUser` does not look at what `CREATE_NEW_USER` returns, and the
  uuid is looked up by the username alone. `tellsTheTruth_iff`: the answer is right exactly if the
  table has an account with both or a new row can be added.

  `Collation` is what the MySQL server decides about texts. An `executeCommand` that finds no rows
  returns nothing, as one that fails does.
-/
import DistributedIM.Lib.Json

namespace DistributedIM.GatewayServer

/-! ## The table -/

/-- When two texts are equal, and what a VARCHAR column of some length keeps of a text; none: the
    statement fails. -/
structure Collation where
  equal : String → String → Bool
  equal_refl : ∀ text, equal text text
  equal_symm : ∀ a b, equal a b → equal b a
  equal_trans : ∀ a b c, equal a b → equal b c → equal a c
  varchar : Nat → String → Option String
  varchar_short : ∀ n text, text.length ≤ n → varchar n text = some text
  varchar_long : ∀ n text, n < text.length → varchar n text ≠ some text

/-- Texts byte for byte, and an error for a text that is too long. -/
def Collation.strict : Collation where
  equal a b := a == b
  equal_refl := beq_self_eq_true
  equal_symm a b h := by
    rw [beq_iff_eq] at h ⊢
    exact h.symm
  equal_trans a b c hab hbc := by
    rw [beq_iff_eq] at hab hbc ⊢
    exact hab.trans hbc
  varchar n text := if text.length ≤ n then some text else none
  varchar_short n text h := if_pos h
  varchar_long n text h := by
    rw [if_neg (Nat.not_le.mpr h)]
    exact (Option.some_ne_none text).symm

/-- A row of `Authentication`; the email may be NULL. -/
structure Account where
  uuid : Nat
  username : String
  password : String
  email : Option String
  deriving DecidableEq, Repr

/-- `username = ?` -/
def Account.hasUsername (sql : Collation) (row : Account) (username : String) : Bool :=
  sql.equal row.username username

/-- `email = ?` -/
def Account.hasEmail (sql : Collation) (row : Account) (email : String) : Bool :=
  row.email.any fun e => sql.equal e email

/-- The table: `uuid INT AUTO_INCREMENT PRIMARY KEY`, `UNIQUE` usernames and emails. -/
structure Authentication (sql : Collation) where
  rows : List Account
  nextUuid : Nat
  uuid_lt : ∀ row ∈ rows, row.uuid < nextUuid
  username_unique : rows.Pairwise fun a b => ¬a.hasUsername sql b.username
  email_unique : rows.Pairwise fun a b => ∀ email ∈ b.email, ¬a.hasEmail sql email

/-- `MySQLRequestStruct` -/
structure MySQLRequestStruct where
  username : String
  password : String
  email : String
  deriving DecidableEq, Repr

/-- The largest `INT`. -/
def maxInt : Nat := 2147483647

namespace Authentication

variable {sql : Collation}

/-- A row can be added without a duplicate key. -/
def Free (t : Authentication sql) (username email : String) : Prop :=
  ∀ row ∈ t.rows, ¬row.hasUsername sql username ∧ ¬row.hasEmail sql email

instance (t : Authentication sql) (username email : String) : Decidable (t.Free username email) :=
  inferInstanceAs (Decidable (∀ row ∈ t.rows, _))

/-- The table with one more row. -/
def addRow (t : Authentication sql) (username password email : String)
    (h : t.Free username email) : Authentication sql where
  rows := t.rows ++ [⟨t.nextUuid, username, password, some email⟩]
  nextUuid := t.nextUuid + 1
  uuid_lt := by
    intro row hrow
    rcases List.mem_append.mp hrow with hold | hnew
    · exact Nat.lt_succ_of_lt (t.uuid_lt row hold)
    · rw [List.mem_singleton.mp hnew]
      exact Nat.lt_succ_self _
  username_unique := by
    rw [List.pairwise_append]
    refine ⟨t.username_unique, List.pairwise_singleton _ _, fun a ha b hb => ?_⟩
    rw [List.mem_singleton.mp hb]
    exact (h a ha).1
  email_unique := by
    rw [List.pairwise_append]
    refine ⟨t.email_unique, List.pairwise_singleton _ _, fun a ha b hb => ?_⟩
    rw [List.mem_singleton.mp hb]
    intro email' hemail
    rw [← Option.mem_some_iff.mp hemail]
    exact (h a ha).2

/-- A number of `AUTO_INCREMENT` that a failed insertion has used up. -/
def skipUuid (t : Authentication sql) : Authentication sql where
  rows := t.rows
  nextUuid := t.nextUuid + 1
  uuid_lt := fun row hrow => Nat.lt_succ_of_lt (t.uuid_lt row hrow)
  username_unique := t.username_unique
  email_unique := t.email_unique

/-! ## Statements -/

/-- `CREATE_NEW_USER` -/
def createNewUser (t : Authentication sql) (username password email : String) :
    Authentication sql :=
  match sql.varchar 50 username, sql.varchar 255 password, sql.varchar 100 email with
  | some username, some password, some email =>
    if maxInt < t.nextUuid then t
    else if h : t.Free username email then t.addRow username password email h
    else t.skipUuid
  | _, _, _ => t

/-- `FIND_EXISTING_USER` -/
def findExistingUser (t : Authentication sql) (username email : String) : List Account :=
  t.rows.filter fun row => row.hasUsername sql username && row.hasEmail sql email

/-- `GET_USER_UUID` -/
def getUserUuid (t : Authentication sql) (username : String) : List Nat :=
  (t.rows.filter fun row => row.hasUsername sql username).map Account.uuid

end Authentication

/-- `executeCommand` of a query. -/
def executeCommand {ρ : Type} (rows : List ρ) : Option (List ρ) :=
  if rows.isEmpty then none else some rows

namespace Authentication

variable {sql : Collation}

/-- `checkAccountAvailability`: the account exists. -/
def checkAccountAvailability (t : Authentication sql) (username email : String) : Bool :=
  match executeCommand (t.findExistingUser username email) with
  | none => false
  | some rows => rows.length != 0

def registerNewUser (t : Authentication sql) (request : MySQLRequestStruct) :
    Bool × Authentication sql :=
  if !t.checkAccountAvailability request.username request.email then
    (true, t.createNewUser request.username request.password request.email)
  else (false, t)

def getUUIDByUsername (t : Authentication sql) (username : String) : Option Nat :=
  (executeCommand (t.getUserUuid username)).bind List.head?

end Authentication

/-! ## The callback -/

/-- The `ServiceStatus`es of the error messages. -/
inductive ErrorStatus
  | jsonparseError
  | redisUnkownError
  | redisCpatchaNotFound
  | mysqlInternalError
  | loginUnsuccessful
  deriving DecidableEq, Repr

/-- `send_obj` of a success. -/
structure Registered where
  username : String
  password : String
  email : String
  uuid : String
  deriving DecidableEq, Repr

/-- An error message, or none when an exception of `value_to` leaves the callback. -/
abbrev Refusal := Option ErrorStatus

/-- `boost::json::parse(body).as_object()`; a body that is no JSON is none. -/
def parseObject (body : Option Json) : Except Refusal Json.Object :=
  match body with
  | some (.object root) => .ok root
  | _ => .error (some .jsonparseError)

/-- `value_to<std::string>(src_obj[key])` -/
def textField (root : Json.Object) (key : String) : Except Refusal String :=
  match (root.get key).asText with
  | none => .error none
  | some text => .ok text

/-- The verification code of the email, which `checkValue` gets from Redis. -/
def verify (checkValue : String → Option String) (email cpatcha : String) : Except Refusal Unit :=
  match checkValue email with
  | none => .error (some .redisUnkownError)
  | some code => if code ≠ cpatcha then .error (some .redisCpatchaNotFound) else .ok ()

/-- The callback before it turns to MySQL. -/
def readRegistration (checkValue : String → Option String) (body : Option Json) :
    Except Refusal MySQLRequestStruct := do
  let root ← parseObject body
  if !(["username", "password", "email", "cpatcha"].all root.contains) then
    throw (some .jsonparseError)
  let username ← textField root "username"
  let password ← textField root "password"
  let email ← textField root "email"
  let cpatcha ← textField root "cpatcha"
  verify checkValue email cpatcha
  return ⟨username, password, email⟩

/-- `/post_registration` -/
def postRegistration {sql : Collation} (checkValue : String → Option String) (body : Option Json)
    (t : Authentication sql) : Except Refusal Registered × Authentication sql :=
  match readRegistration checkValue body with
  | .error refusal => (.error refusal, t)
  | .ok request =>
    let r := t.registerNewUser request
    if !r.1 then (.error (some .mysqlInternalError), r.2)
    else
      match r.2.getUUIDByUsername request.username with
      | none => (.error (some .loginUnsuccessful), r.2)
      | some uuid => (.ok ⟨request.username, request.password, request.email, uuid.repr⟩, r.2)

/-! ## The truth -/

variable {sql : Collation}

/-- A row with the values of the request has been added under a new uuid. -/
structure Inserts (t t' : Authentication sql) (request : MySQLRequestStruct) (row : Account) :
    Prop where
  rows : t'.rows = t.rows ++ [row]
  fresh : ∀ old ∈ t.rows, old.uuid ≠ row.uuid
  username : row.username = request.username
  password : row.password = request.password
  email : row.email = some request.email

structure TellsTheTruth (t : Authentication sql) (request : MySQLRequestStruct) : Prop where
  register : (t.registerNewUser request).1 = true ↔
    ∃ row, Inserts t (t.registerNewUser request).2 request row
  post : ∀ checkValue body reply, readRegistration checkValue body = .ok request →
    (postRegistration checkValue body t).1 = .ok reply →
      ∃ row, Inserts t (postRegistration checkValue body t).2 request row ∧
        reply.uuid = row.uuid.repr

/-! ## When it is told -/

theorem hasUsername_self (username : String) (uuid : Nat) (password : String)
    (email : Option String) : Account.hasUsername sql ⟨uuid, username, password, email⟩ username :=
  sql.equal_refl username

/-- An account with both the username and the email. -/
def Exists (t : Authentication sql) (request : MySQLRequestStruct) : Prop :=
  ∃ row ∈ t.rows, row.hasUsername sql request.username ∧ row.hasEmail sql request.email

/-- The values fit their columns, neither the username nor the email is taken, and the uuids have
    not run out. -/
structure Addable (t : Authentication sql) (request : MySQLRequestStruct) : Prop where
  username : request.username.length ≤ 50
  password : request.password.length ≤ 255
  email : request.email.length ≤ 100
  uuids : t.nextUuid ≤ maxInt
  free : t.Free request.username request.email

theorem checkAccountAvailability_iff (t : Authentication sql) (request : MySQLRequestStruct) :
    t.checkAccountAvailability request.username request.email = true ↔ Exists t request := by
  have hfind : Exists t request ↔
      t.findExistingUser request.username request.email ≠ [] := by
    simp [Exists, Authentication.findExistingUser, List.filter_eq_nil_iff]
  rw [hfind, Authentication.checkAccountAvailability, executeCommand]
  cases t.findExistingUser request.username request.email with
  | nil => simp
  | cons row rows => simp

theorem not_inserts_self (t : Authentication sql) (request : MySQLRequestStruct) (row : Account) :
    ¬Inserts t t request row := by
  intro h
  simpa using congrArg List.length h.rows

theorem varchar_eq_some_self {n : Nat} {text : String} (h : sql.varchar n text = some text) :
    text.length ≤ n := by
  by_contra hlong
  exact sql.varchar_long n text (Nat.not_le.mp hlong) h

theorem createNewUser_of_addable {t : Authentication sql} {request : MySQLRequestStruct}
    (h : Addable t request) :
    t.createNewUser request.username request.password request.email =
      t.addRow request.username request.password request.email h.free := by
  simp only [Authentication.createNewUser, sql.varchar_short _ _ h.username,
    sql.varchar_short _ _ h.password, sql.varchar_short _ _ h.email]
  rw [if_neg (Nat.not_lt.mpr h.uuids), dif_pos h.free]

theorem inserts_addRow {t : Authentication sql} {request : MySQLRequestStruct}
    (h : t.Free request.username request.email) :
    Inserts t (t.addRow request.username request.password request.email h) request
      ⟨t.nextUuid, request.username, request.password, some request.email⟩ where
  rows := rfl
  fresh := fun old hold => Nat.ne_of_lt (t.uuid_lt old hold)
  username := rfl
  password := rfl
  email := rfl

theorem addable_of_inserts {t : Authentication sql} {request : MySQLRequestStruct} {row : Account}
    (h : Inserts t (t.createNewUser request.username request.password request.email) request row) :
    Addable t request := by
  unfold Authentication.createNewUser at h
  split at h
  · rename_i username password email husername hpassword hemail
    split at h
    · exact absurd h (not_inserts_self t request row)
    · rename_i huuids
      split at h
      · rename_i hfree
        have hrow : Account.mk t.nextUuid username password (some email) = row :=
          List.singleton_inj.mp (List.append_cancel_left h.rows)
        subst hrow
        obtain rfl : username = request.username := h.username
        obtain rfl : password = request.password := h.password
        obtain rfl : email = request.email := Option.some.inj h.email
        exact ⟨varchar_eq_some_self husername, varchar_eq_some_self hpassword,
          varchar_eq_some_self hemail, Nat.not_lt.mp huuids, hfree⟩
      · exact absurd ⟨h.rows, h.fresh, h.username, h.password, h.email⟩
          (not_inserts_self t request row)
  · exact absurd h (not_inserts_self t request row)

/-- The lookup after an insertion finds the new row. -/
theorem getUUIDByUsername_addRow {t : Authentication sql} {request : MySQLRequestStruct}
    (h : t.Free request.username request.email) :
    (t.addRow request.username request.password request.email h).getUUIDByUsername
      request.username = some t.nextUuid := by
  have hnone : t.rows.filter (fun row => row.hasUsername sql request.username) = [] := by
    rw [List.filter_eq_nil_iff]
    exact fun row hrow => (h row hrow).1
  have hget : (t.addRow request.username request.password request.email h).getUserUuid
      request.username = [t.nextUuid] := by
    simp only [Authentication.getUserUuid, Authentication.addRow, List.filter_append, hnone]
    simp [hasUsername_self]
  rw [Authentication.getUUIDByUsername, hget]
  rfl

theorem registerNewUser_of_exists {t : Authentication sql} {request : MySQLRequestStruct}
    (h : Exists t request) : t.registerNewUser request = (false, t) := by
  rw [Authentication.registerNewUser, (checkAccountAvailability_iff t request).mpr h]
  rfl

theorem registerNewUser_of_not_exists {t : Authentication sql} {request : MySQLRequestStruct}
    (h : ¬Exists t request) :
    t.registerNewUser request =
      (true, t.createNewUser request.username request.password request.email) := by
  rw [← checkAccountAvailability_iff, Bool.not_eq_true] at h
  rw [Authentication.registerNewUser, h]
  rfl

theorem not_exists_of_free {t : Authentication sql} {request : MySQLRequestStruct}
    (h : t.Free request.username request.email) : ¬Exists t request := by
  rintro ⟨row, hrow, hname, -⟩
  exact (h row hrow).1 hname

/-- The answer is right exactly if there is an account with both the username and the email, or
    the account can be added. -/
theorem tellsTheTruth_iff (t : Authentication sql) (request : MySQLRequestStruct) :
    TellsTheTruth t request ↔ Exists t request ∨ Addable t request := by
  constructor
  · intro h
    by_cases hexists : Exists t request
    · exact .inl hexists
    · have hregister := h.register
      rw [registerNewUser_of_not_exists hexists] at hregister
      obtain ⟨row, hrow⟩ := hregister.mp rfl
      exact .inr (addable_of_inserts hrow)
  · rintro (hexists | hadd)
    · have hregister := registerNewUser_of_exists hexists
      constructor
      · rw [hregister]
        exact iff_of_false Bool.false_ne_true fun ⟨row, hrow⟩ => not_inserts_self t request row hrow
      · intro checkValue body reply hread hreply
        simp [postRegistration, hread, hregister] at hreply
    · have hregister := registerNewUser_of_not_exists (not_exists_of_free hadd.free)
      rw [createNewUser_of_addable hadd] at hregister
      constructor
      · rw [hregister]
        exact iff_of_true rfl ⟨_, inserts_addRow hadd.free⟩
      · intro checkValue body reply hread hreply
        have hpost : postRegistration checkValue body t =
            (.ok ⟨request.username, request.password, request.email, t.nextUuid.repr⟩,
              t.addRow request.username request.password request.email hadd.free) := by
          simp [postRegistration, hread, hregister, getUUIDByUsername_addRow hadd.free]
        rw [hpost] at hreply ⊢
        refine ⟨_, inserts_addRow hadd.free, ?_⟩
        rw [← Except.ok.inj hreply]

/-- One account. -/
def oneAccount : Authentication .strict where
  rows := [⟨1, "alice", "secret", some "alice@a.com"⟩]
  nextUuid := 2
  uuid_lt := by decide
  username_unique := List.pairwise_singleton _ _
  email_unique := List.pairwise_singleton _ _

/-- The username of an account, with another email. -/
theorem not_tellsTheTruth_usernameTaken :
    ¬TellsTheTruth oneAccount ⟨"alice", "guess", "mallory@a.com"⟩ := by
  intro h
  have htrue : (oneAccount.registerNewUser ⟨"alice", "guess", "mallory@a.com"⟩).1 = true := rfl
  obtain ⟨row, hrow⟩ := h.register.mp htrue
  exact not_inserts_self _ _ _ ⟨hrow.rows, hrow.fresh, hrow.username, hrow.password, hrow.email⟩

end DistributedIM.GatewayServer
