/-
  The calls of `MySQLConnection` that write friendships, private threads and messages:
  `createFriendRequest`, `createNewPrivateChat`, `execFriendConfirmationTransaction` and
  `createModifyChattingHistoryRecord`, on a connection any of whose statements may fail.

  `TransactionGuard` is `Transaction.Call.guarded`, and the handler for
  `boost::mysql::error_with_diagnostics` around it is `catching`. Two kinds of exceptions escape
  that handler: `as_string` on the BIGINT column of a thread that exists or on a NULL, and
  `std::stoi`.

  What each call can do to the tables is said once, by the lemmas `.._tables`: nothing, or exactly
  the rows of a call that went through.
-/
import DistributedIM.ChattingServer.Database

namespace DistributedIM.ChattingServer

open Transaction (Store Conn Call Ending)

/-- Exceptions of a call. -/
inductive Exn
  /-- `boost::mysql::error_with_diagnostics` -/
  | errorWithDiagnostics
  /-- `boost::mysql::bad_field_access` -/
  | badFieldAccess
  /-- what `std::stoi` throws -/
  | stoi
  deriving DecidableEq, Repr

abbrev Db (α : Type) := Call Exn Tables Counters α

abbrev DbConn := Conn Tables Counters

/-- `executeCommandOrThrow` -/
def executeCommandOrThrow {ρ : Type} (stmt : Statement ρ) : Db (Results ρ) :=
  Call.execute .errorWithDiagnostics stmt

/-- `executeCommand`: the rows, none when there are none or the statement fails. `m_inTransaction`
    is never set, since the guard starts its transaction with `executeCommandOrThrow`. -/
def executeCommand {ρ : Type} (stmt : Statement ρ) : Db (Option (List ρ)) :=
  Call.catching .errorWithDiagnostics none do
    let result ← executeCommandOrThrow stmt
    return if result.rows.isEmpty then none else some result.rows

/-- A block under a `TransactionGuard`, in a `try` whose handler returns `onError`. -/
def transaction {α : Type} (onError : α) (body : Db (Ending α)) : Db α :=
  Call.catching .errorWithDiagnostics onError (Call.guarded .errorWithDiagnostics body)

def checkUUID (uuid : Nat) : Db Bool := do
  return (← executeCommand (userUuidCheck uuid)).isSome

def createFriendRequest (srcUuid dstUuid : Nat) (nickname message : String) : Db Bool := do
  if srcUuid = dstUuid then return false
  if (← checkUUID srcUuid) then
    if (← checkUUID dstUuid) then
      let _ ← executeCommand (createFriendingRequest srcUuid dstUuid nickname message)
      return true
  return false

/-- `as_string` throws on the BIGINT UNSIGNED column `thread_id`. -/
def checkPrivateChatExistance (user1Uuid user2Uuid : Nat) : Db (Option String) := do
  match ← executeCommand (checkPrivateChatWithLock user1Uuid user2Uuid) with
  | none => return none
  | some _ => Call.throw .badFieldAccess

def createNewPrivateChat (sql : MySql) (user1Uuid user2Uuid : Nat) : Db (Option String) := do
  let userOne := min user1Uuid user2Uuid
  let userTwo := max user1Uuid user2Uuid
  let res1 ← executeCommand (userUuidCheck user1Uuid)
  let res2 ← executeCommand (userUuidCheck user2Uuid)
  if res1.isNone || res2.isNone then return none
  transaction none do
    match ← checkPrivateChatExistance userOne userTwo with
    | some existing => return .commit (some existing)
    | none =>
      let res ← executeCommandOrThrow createPrivateGlobalThreadIndex
      let threadId := res.lastInsertId.repr
      let _ ← executeCommandOrThrow (createPrivateChatByUserPair sql threadId userOne userTwo)
      return .commit (some threadId)

/-- `chat::FriendingConfirmInfo` -/
structure FriendingConfirmInfo where
  threadId : String
  messageId : String
  msgSender : String
  msgReceiver : String
  msgContent : String
  deriving DecidableEq, Repr

def defaultRequestMessage (nickname : String) : String :=
  "Hi, I' am " ++ nickname ++ " and looking forward to chat with you!"

/-- `as_string`, which throws on NULL. -/
def asString (column : Option String) : Db String :=
  match column with
  | none => Call.throw .badFieldAccess
  | some text => return text

/-- The first message of the requester: a default one if the request has none. -/
def initMessage (nickname message : String) : String :=
  if message.isEmpty then defaultRequestMessage nickname else message

def confirmMessage : String := "We are friends now!"

/-- The block under the guard. -/
def confirmFriendRequest (sql : MySql) (requesterUuid confirmerUuid : Nat) :
    Db (Ending (Option (List FriendingConfirmInfo))) := do
  let userOne := min requesterUuid confirmerUuid
  let userTwo := max requesterUuid confirmerUuid
  let flag ← executeCommandOrThrow (checkFriendRequestListWithLock requesterUuid confirmerUuid)
  match flag.rows with
  | [] => return .leave none
  | row :: _ =>
    let nickname ← asString row.nickname
    let message ← asString row.message
    let reqMessage := initMessage nickname message
    let flag ← executeCommandOrThrow (updateFriendRequestStatus true requesterUuid confirmerUuid)
    if flag.affectedRows = 0 then return .leave none
    let flag ← executeCommandOrThrow (createAuthFriendEntry requesterUuid confirmerUuid nickname)
    if flag.affectedRows = 0 then return .leave none
    let flag ← executeCommandOrThrow (createAuthFriendEntry confirmerUuid requesterUuid "")
    if flag.affectedRows = 0 then return .leave none
    let flag ← executeCommandOrThrow createPrivateGlobalThreadIndex
    if flag.affectedRows = 0 then return .leave none
    let threadId := flag.lastInsertId.repr
    let flag ← executeCommandOrThrow (createPrivateChatByUserPair sql threadId userOne userTwo)
    if flag.affectedRows = 0 then return .leave none
    let flag ← executeCommandOrThrow
      (createMsgHistoryBankTuple sql threadId 0 requesterUuid confirmerUuid reqMessage)
    if flag.affectedRows = 0 then return .leave none
    let first := flag.lastInsertId.repr
    let flag ← executeCommandOrThrow
      (createMsgHistoryBankTuple sql threadId 0 confirmerUuid requesterUuid confirmMessage)
    if flag.affectedRows = 0 then return .leave none
    let second := flag.lastInsertId.repr
    return .commit (some
      [⟨threadId, first, requesterUuid.repr, confirmerUuid.repr, reqMessage⟩,
        ⟨threadId, second, confirmerUuid.repr, requesterUuid.repr, confirmMessage⟩])

def execFriendConfirmationTransaction (sql : MySql) (requesterUuid confirmerUuid : Nat) :
    Db (Option (List FriendingConfirmInfo)) :=
  transaction none (confirmFriendRequest sql requesterUuid confirmerUuid)

/-- `chat::MsgInfo`, as far as it is stored; `messageId` is set when the message is verified. -/
structure MsgInfo where
  threadId : String
  msgSender : String
  msgReceiver : String
  msgContent : String
  messageId : Option String
  deriving DecidableEq, Repr

def MsgInfo.setMsgID (info : MsgInfo) (value : String) : MsgInfo :=
  { info with messageId := some value }

/-- `std::stoi`, which may throw. -/
def stoiOrThrow (text : String) : Db Int :=
  match Text.stoi text with
  | none => Call.throw .stoi
  | some i => return i

/-- The block under the guard: a message between users `a` and `b` is stored if they have a private
    chat. -/
def storeMsg (sql : MySql) (info : MsgInfo) (a b : Nat) : Db (Ending (Bool × MsgInfo)) := do
  let flag ← executeCommandOrThrow (checkPrivateChatWithLock (min a b) (max a b))
  if flag.rows.isEmpty then return .leave (false, info)
  let flag ← executeCommandOrThrow
    (createMsgHistoryBankTuple sql info.threadId 0 a b info.msgContent)
  if flag.affectedRows = 0 then return .leave (false, info)
  return .commit (true, info.setMsgID flag.lastInsertId.repr)

/-- One message: whether it is stored, and the message after the call. -/
def createModifyChattingHistoryRecord (sql : MySql) (info : MsgInfo) : Db (Bool × MsgInfo) := do
  if info.msgReceiver = info.msgSender then return (false, info)
  let user1Uuid ← stoiOrThrow info.msgSender
  let user2Uuid ← stoiOrThrow info.msgReceiver
  let res1 ← executeCommand (userUuidCheck user1Uuid)
  let res2 ← executeCommand (userUuidCheck user2Uuid)
  if res1.isNone || res2.isNone then return (false, info)
  -- users have positive numbers, so the conversion to `std::size_t` is the identity from here on
  transaction (false, info) (storeMsg sql info user1Uuid.toNat user2Uuid.toNat)

/-- The overload for a list: after a message that is not stored, the others are skipped. The
    messages are changed in place, also when the call ends with an exception. -/
def createModifyChattingHistoryRecords (sql : MySql) :
    List MsgInfo → Bool → DbConn → (Except Exn Bool × List MsgInfo) × DbConn
  | [], status, c => ((.ok status, []), c)
  | info :: infos, false, c => ((.ok false, info :: infos), c)
  | info :: infos, true, c =>
    match createModifyChattingHistoryRecord sql info c with
    | (.error err, c') => ((.error err, info :: infos), c')
    | (.ok (status, info'), c') =>
      let r := createModifyChattingHistoryRecords sql infos status c'
      ((r.1.1, info' :: r.1.2), r.2)

/-! ## What the calls do -/

/-- `executeCommand` never throws: it answers none and changes nothing, or the statement went
    through and its rows are the answer. -/
theorem executeCommand_cases {ρ : Type} {stmt : Statement ρ} {c c' : DbConn}
    {r : Except Exn (Option (List ρ))} (h : executeCommand stmt c = (r, c')) :
    (r = .ok none ∧ c'.store = c.store) ∨ ∃ flag, stmt c.store = some (flag, c'.store) ∧
      r = .ok (if flag.rows.isEmpty then none else some flag.rows) := by
  obtain ⟨b, hbody, rfl⟩ | ⟨hbody, rfl⟩ | ⟨err, hne, hbody, -⟩ := Call.catching_cases h
  · obtain ⟨flag, m, hexec, hpure⟩ := Call.bind_eq_ok hbody
    obtain ⟨hb, rfl⟩ := Prod.mk.inj hpure
    exact Or.inr ⟨flag, Call.execute_eq_ok hexec, hb.symm⟩
  · obtain ⟨err, hexec, -⟩ | ⟨flag, m, -, hpure⟩ := Call.bind_cases hbody
    · obtain ⟨-, hstore⟩ | ⟨a, ha, -⟩ := Call.execute_cases hexec
      · exact Or.inl ⟨rfl, hstore⟩
      · cases ha
    · cases (Prod.mk.inj hpure).1
  · obtain ⟨err', hexec, herr⟩ | ⟨flag, m, -, hpure⟩ := Call.bind_cases hbody
    · obtain ⟨herr', -⟩ | ⟨a, ha, -⟩ := Call.execute_cases hexec
      · exact absurd ((Except.error.inj herr).trans (Except.error.inj herr')) hne
      · cases ha
    · cases (Prod.mk.inj hpure).1

/-- What follows an `executeCommand` always runs. -/
theorem bind_executeCommand {ρ β : Type} {stmt : Statement ρ} {f : Option (List ρ) → Db β}
    {c c' : DbConn} {r : Except Exn β} (h : (executeCommand stmt >>= f) c = (r, c')) :
    ∃ found m, executeCommand stmt c = (.ok found, m) ∧ f found m = (r, c') := by
  obtain ⟨err, hexec, -⟩ | ⟨found, m, hexec, hrest⟩ := Call.bind_cases h
  · obtain ⟨hr, -⟩ | ⟨flag, -, hr⟩ := executeCommand_cases hexec
    · cases hr
    · cases hr
  · exact ⟨found, m, hexec, hrest⟩

/-- A `SELECT` changes nothing, and answers with all its rows or with none. -/
theorem bind_select {ρ β : Type} {rows : Tables → List ρ} {f : Option (List ρ) → Db β}
    {c c' : DbConn} {r : Except Exn β} (h : (executeCommand (select rows) >>= f) c = (r, c')) :
    ∃ found m, m.store = c.store ∧
      (∀ l, found = some l → l = rows c.store.tables ∧ l ≠ []) ∧ f found m = (r, c') := by
  obtain ⟨found, m, hexec, hrest⟩ := bind_executeCommand h
  obtain ⟨hr, hstore⟩ | ⟨flag, hstmt, hr⟩ := executeCommand_cases hexec
  · obtain rfl := Except.ok.inj hr
    exact ⟨none, m, hstore, nofun, hrest⟩
  · obtain ⟨hrows, hstore⟩ := select_eq_some hstmt
    refine ⟨found, m, hstore, ?_, hrest⟩
    intro l hl
    rw [Except.ok.inj hr] at hl
    split at hl
    · cases hl
    · rename_i hempty
      obtain rfl := Option.some.inj hl
      exact ⟨hrows, by simpa using hempty⟩

/-- A user who was found is registered. -/
theorem bind_userUuidCheck {β : Type} {uuid : Int} {f : Option (List Nat) → Db β}
    {c c' : DbConn} {r : Except Exn β}
    (h : (executeCommand (userUuidCheck uuid) >>= f) c = (r, c')) :
    ∃ found m, m.store = c.store ∧
      (found.isSome → uuid.toNat ∈ c.store.tables.authentication ∧ 0 ≤ uuid) ∧
      f found m = (r, c') := by
  obtain ⟨found, m, hstore, hfound, hrest⟩ := bind_select h
  refine ⟨found, m, hstore, fun hsome => ?_, hrest⟩
  obtain ⟨l, hl⟩ := Option.isSome_iff_exists.mp hsome
  obtain ⟨hrows, hne⟩ := hfound l hl
  obtain ⟨u, hu⟩ := List.exists_mem_of_ne_nil _ hne
  rw [hrows] at hu
  obtain ⟨hmem, heq⟩ := List.mem_filter.mp hu
  have huuid : (u : Int) = uuid := by simpa using heq
  subst huuid
  exact ⟨hmem, Int.natCast_nonneg u⟩

/-- The condition of `checkUUID` does not show in the store. -/
theorem bind_checkUUID {β : Type} {uuid : Nat} {f : Bool → Db β} {c c' : DbConn}
    {r : Except Exn β} (h : (checkUUID uuid >>= f) c = (r, c')) :
    ∃ found m, m.store = c.store ∧ (found = true → uuid ∈ c.store.tables.authentication) ∧
      f found m = (r, c') := by
  obtain ⟨err, hcheck, -⟩ | ⟨b, m, hcheck, hrest⟩ := Call.bind_cases h
  · obtain ⟨found, m, -, -, hpure⟩ := bind_userUuidCheck hcheck
    cases (Prod.mk.inj hpure).1
  · obtain ⟨found, m', hstore, hfound, hpure⟩ := bind_userUuidCheck hcheck
    obtain ⟨hb, rfl⟩ := Prod.mk.inj hpure
    refine ⟨b, _, hstore, fun htrue => ?_, hrest⟩
    rw [← Except.ok.inj hb] at htrue
    exact (hfound htrue).1

theorem createFriendRequest_store {src dst : Nat} {nickname message : String} {c c' : DbConn}
    {r : Except Exn Bool} (h : createFriendRequest src dst nickname message c = (r, c')) :
    c'.store = c.store ∨ (src ≠ dst ∧ src ∈ c.store.tables.authentication ∧
      dst ∈ c.store.tables.authentication ∧
      c'.store = addFriendRequest src dst nickname message c.store) := by
  unfold createFriendRequest at h
  split at h
  · obtain ⟨-, rfl⟩ := Prod.mk.inj h
    exact Or.inl rfl
  rename_i hne
  obtain ⟨foundSrc, m₁, h₁, -, h⟩ := bind_checkUUID h
  split at h
  · obtain ⟨foundDst, m₂, h₂, -, h⟩ := bind_checkUUID h
    split at h
    · obtain ⟨rows, m₃, hinsert, hpure⟩ := bind_executeCommand h
      obtain ⟨-, rfl⟩ := Prod.mk.inj hpure
      rw [← h₁, ← h₂]
      obtain ⟨-, hstore⟩ | ⟨flag, hstmt, -⟩ := executeCommand_cases hinsert
      · exact Or.inl hstore
      · obtain ⟨husers, hstore⟩ := createFriendingRequest_eq_some hstmt
        exact Or.inr ⟨hne, husers.1, husers.2, hstore⟩
    · obtain ⟨-, rfl⟩ := Prod.mk.inj h
      exact Or.inl (h₂.trans h₁)
  · obtain ⟨-, rfl⟩ := Prod.mk.inj h
    exact Or.inl h₁

/-- A block under a `TransactionGuard` ran to its commit, or left the tables alone: then it
    answers what the handler answers, or what the block was left with, or throws. -/
theorem transaction_cases {α : Type} {onError : α} {body : Db (Ending α)} {c c' : DbConn}
    {r : Except Exn α} (h : transaction onError body c = (r, c')) :
    (∃ a c₁ c₂, r = .ok a ∧ c₁.store = c.store ∧ body c₁ = (.ok (.commit a), c₂) ∧
      c'.store = c₂.store) ∨
    (c'.store.tables = c.store.tables ∧ (r = .ok onError ∨ (∃ e, r = .error e) ∨
      ∃ a c₁ c₂, r = .ok a ∧ c₁.store = c.store ∧ body c₁ = (.ok (.leave a), c₂))) := by
  obtain ⟨b, hguard, rfl⟩ | ⟨hguard, rfl⟩ | ⟨err, -, hguard, rfl⟩ := Call.catching_cases h
  · obtain hcommit | ⟨htables, ⟨e, he⟩ | hleave⟩ := Call.guarded_cases hguard
    · exact Or.inl hcommit
    · cases he
    · exact Or.inr ⟨htables, Or.inr (Or.inr hleave)⟩
  · obtain ⟨a, c₁, c₂, hr, -⟩ | ⟨htables, -⟩ := Call.guarded_cases hguard
    · cases hr
    · exact Or.inr ⟨htables, Or.inl rfl⟩
  · obtain ⟨a, c₁, c₂, hr, -⟩ | ⟨htables, -⟩ := Call.guarded_cases hguard
    · cases hr
    · exact Or.inr ⟨htables, Or.inr (Or.inl ⟨err, rfl⟩)⟩

/-- What a new private chat adds. -/
def withPrivateChat (userOne userTwo : Nat) (s : DbStore) : DbStore :=
  addPrivateChat ⟨s.counters.globalThreadIndex + 1, userOne, userTwo⟩ (addThread s)

/-- The block under the guard runs to its commit only if the pair has no private chat yet. -/
theorem privateChatBlock_cases {sql : MySql} {userOne userTwo : Nat} {c c' : DbConn}
    {ending : Ending (Option String)}
    (h : (checkPrivateChatExistance userOne userTwo >>= fun found =>
      match found with
      | some existing => (pure (.commit (some existing)) : Db (Ending (Option String)))
      | none => do
        let res ← executeCommandOrThrow createPrivateGlobalThreadIndex
        let threadId := res.lastInsertId.repr
        let _ ← executeCommandOrThrow (createPrivateChatByUserPair sql threadId userOne userTwo)
        return .commit (some threadId)) c = (.ok ending, c')) :
    (∀ p ∈ c.store.tables.privateChat, ¬ (p.user1Uuid = userOne ∧ p.user2Uuid = userTwo)) ∧
      c'.store = withPrivateChat userOne userTwo c.store ∧
      ending = .commit (some (c.store.counters.globalThreadIndex + 1).repr) := by
  obtain ⟨existing, m₁, hcheck, h⟩ := Call.bind_eq_ok h
  unfold checkPrivateChatExistance at hcheck
  obtain ⟨found, m₂, h₂, -, hcheck⟩ := bind_select hcheck
  cases found with
  | some rows => cases (Prod.mk.inj hcheck).1
  | none =>
    obtain ⟨hnone, rfl⟩ := Prod.mk.inj hcheck
    obtain rfl := Except.ok.inj hnone
    obtain ⟨flag, m₃, hindex, h⟩ := Call.bind_eq_ok h
    obtain ⟨flag', m₄, hinsert, h⟩ := Call.bind_eq_ok h
    obtain ⟨hending, rfl⟩ := Prod.mk.inj h
    obtain ⟨rfl, h₃⟩ := Prod.mk.inj (Option.some.inj (Call.execute_eq_ok hindex))
    obtain ⟨hfree, h₄⟩ := createPrivateChatByUserPair_eq_some (Call.execute_eq_ok hinsert)
    rw [← h₃, h₂] at hfree h₄
    rw [h₂] at hending
    exact ⟨hfree, h₄, (Except.ok.inj hending).symm⟩

/-- A new private chat is stored and its thread is the answer, or nothing changes and there is no
    thread in the answer. -/
theorem createNewPrivateChat_cases {sql : MySql} {user1 user2 : Nat} {c c' : DbConn}
    {r : Except Exn (Option String)} (h : createNewPrivateChat sql user1 user2 c = (r, c')) :
    (c'.store.tables = c.store.tables ∧ ∀ thread, r ≠ .ok (some thread)) ∨
      ((user1 ∈ c.store.tables.authentication ∧ user2 ∈ c.store.tables.authentication) ∧
      (∀ p ∈ c.store.tables.privateChat,
        ¬ (p.user1Uuid = min user1 user2 ∧ p.user2Uuid = max user1 user2)) ∧
      c'.store = withPrivateChat (min user1 user2) (max user1 user2) c.store ∧
      r = .ok (some (c.store.counters.globalThreadIndex + 1).repr)) := by
  unfold createNewPrivateChat at h
  obtain ⟨res1, m₁, h₁, hfound₁, h⟩ := bind_userUuidCheck h
  obtain ⟨res2, m₂, h₂, hfound₂, h⟩ := bind_userUuidCheck h
  rw [h₁] at hfound₂
  rw [← h₁, ← h₂]
  split at h
  · obtain ⟨rfl, rfl⟩ := Prod.mk.inj h
    exact Or.inl ⟨rfl, fun thread hr => by cases hr⟩
  rename_i hsome
  rw [Bool.or_eq_true, Option.isNone_iff_eq_none, Option.isNone_iff_eq_none, not_or] at hsome
  obtain ⟨a, c₁, c₂, hr, hc₁, hbody, hc₂⟩ | ⟨htables, hr⟩ := transaction_cases h
  · obtain ⟨hfree, hstore, hcommit⟩ := privateChatBlock_cases hbody
    rw [hc₁] at hfree hstore hcommit
    rw [Ending.commit.inj hcommit] at hr
    have hone := (hfound₁ (Option.isSome_iff_ne_none.mpr hsome.1)).1
    have htwo := (hfound₂ (Option.isSome_iff_ne_none.mpr hsome.2)).1
    rw [← h₁, ← h₂] at hone htwo
    exact Or.inr ⟨⟨hone, htwo⟩, hfree, hc₂.trans hstore, hr⟩
  · refine Or.inl ⟨htables, fun thread hthread => ?_⟩
    obtain hr | ⟨e, hr⟩ | ⟨a, c₁, c₂, -, -, hbody⟩ := hr
    · cases hr.symm.trans hthread
    · cases hr.symm.trans hthread
    · cases (privateChatBlock_cases hbody).2.2

theorem createNewPrivateChat_store {sql : MySql} {user1 user2 : Nat} {c c' : DbConn}
    {r : Except Exn (Option String)} (h : createNewPrivateChat sql user1 user2 c = (r, c')) :
    c'.store.tables = c.store.tables ∨
      ((user1 ∈ c.store.tables.authentication ∧ user2 ∈ c.store.tables.authentication) ∧
      (∀ p ∈ c.store.tables.privateChat,
        ¬ (p.user1Uuid = min user1 user2 ∧ p.user2Uuid = max user1 user2)) ∧
      c'.store = withPrivateChat (min user1 user2) (max user1 user2) c.store) := by
  obtain ⟨htables, -⟩ | ⟨husers, hfree, hstore, -⟩ := createNewPrivateChat_cases h
  · exact Or.inl htables
  · exact Or.inr ⟨husers, hfree, hstore⟩

/-- What follows the reading of a column runs if the column is not NULL. -/
theorem bind_asString {β : Type} {column : Option String} {f : String → Db β} {c c' : DbConn}
    {b : β} (h : (asString column >>= f) c = (.ok b, c')) :
    ∃ text, column = some text ∧ f text c = (.ok b, c') := by
  cases column with
  | none =>
    obtain ⟨text, m, hthrow, -⟩ := Call.bind_eq_ok h
    cases (Prod.mk.inj hthrow).1
  | some text => exact ⟨text, rfl, h⟩

/-- What a confirmation changes. -/
def withConfirmation (requester confirmer : Nat) (nickname reqMessage : String) (s : DbStore) :
    DbStore :=
  let thread := s.counters.globalThreadIndex + 1
  addMsg thread 0 confirmer requester confirmMessage
    (addMsg thread 0 requester confirmer reqMessage
      (addPrivateChat ⟨thread, min requester confirmer, max requester confirmer⟩
        (addThread
          (addAuthFriend confirmer requester ""
            (addAuthFriend requester confirmer nickname
              (setRequestStatus true requester confirmer s))))))

/-- The two messages a confirmation answers with. -/
def confirmInfos (requester confirmer : Nat) (reqMessage : String) (s : DbStore) :
    List FriendingConfirmInfo :=
  let thread := (s.counters.globalThreadIndex + 1).repr
  let msg := s.counters.chatMsgHistoryBank
  [⟨thread, (msg + 1).repr, requester.repr, confirmer.repr, reqMessage⟩,
    ⟨thread, (msg + 2).repr, confirmer.repr, requester.repr, confirmMessage⟩]

/-- The confirmation of the request `row` has gone through: nobody had a private chat of the two, and
    its rows are stored. -/
structure StoresConfirmation (sql : MySql) (requester confirmer : Nat) (s s' : DbStore)
    (row : FriendRequest) (nickname message : String) : Prop where
  asked : row ∈ s.tables.friendRequest
  column : sql.hasMessageReceiver = true
  pair : row.srcUuid = requester ∧ row.dstUuid = confirmer
  free : ∀ p ∈ s.tables.privateChat, ¬ (p.user1Uuid = min requester confirmer ∧
    p.user2Uuid = max requester confirmer)
  hasNickname : row.nickname = some nickname
  hasMessage : row.message = some message
  stored : s' = withConfirmation requester confirmer nickname (initMessage nickname message) s

/-- The block is left without a result, or runs to its commit: then all its rows are there, and its
    result is about them. -/
theorem confirmFriendRequest_cases {sql : MySql} {requester confirmer : Nat} {c c' : DbConn}
    {ending : Ending (Option (List FriendingConfirmInfo))}
    (h : confirmFriendRequest sql requester confirmer c = (.ok ending, c')) :
    ending = .leave none ∨
      ∃ row nickname message,
        StoresConfirmation sql requester confirmer c.store c'.store row nickname message ∧
          ending = .commit (some
            (confirmInfos requester confirmer (initMessage nickname message) c.store)) := by
  unfold confirmFriendRequest at h
  obtain ⟨flag₁, m₁, hcheck, h⟩ := Call.bind_eq_ok h
  obtain ⟨hrows, hm₁⟩ := select_eq_some (Call.execute_eq_ok hcheck)
  obtain hnone | ⟨row, rest, hrow⟩ : flag₁.rows = [] ∨ ∃ row rest, flag₁.rows = row :: rest := by
    cases flag₁.rows with
    | nil => exact Or.inl rfl
    | cons row rest => exact Or.inr ⟨row, rest, rfl⟩
  · simp only [hnone] at h
    exact Or.inl (Except.ok.inj (Prod.mk.inj h).1).symm
  simp only [hrow] at h
  have hmem : row ∈ flag₁.rows := hrow ▸ List.mem_cons_self
  rw [hrows] at hmem
  obtain ⟨hmem, hpair⟩ := List.mem_filter.mp hmem
  obtain ⟨nickname, hnickname, h⟩ := bind_asString h
  obtain ⟨message, hmessage, h⟩ := bind_asString h
  obtain ⟨flag₂, m₂, hupdate, h⟩ := Call.bind_eq_ok h
  obtain ⟨-, hm₂⟩ := Prod.mk.inj (Option.some.inj (Call.execute_eq_ok hupdate))
  split at h
  · exact Or.inl (Except.ok.inj (Prod.mk.inj h).1).symm
  obtain ⟨flag₃, m₃, hfriend, h⟩ := Call.bind_eq_ok h
  split at h
  · exact Or.inl (Except.ok.inj (Prod.mk.inj h).1).symm
  rename_i hrows₃
  have hm₃ := createAuthFriendEntry_eq_some (Call.execute_eq_ok hfriend) hrows₃
  obtain ⟨flag₄, m₄, hfriend', h⟩ := Call.bind_eq_ok h
  split at h
  · exact Or.inl (Except.ok.inj (Prod.mk.inj h).1).symm
  rename_i hrows₄
  have hm₄ := createAuthFriendEntry_eq_some (Call.execute_eq_ok hfriend') hrows₄
  obtain ⟨flag₅, m₅, hindex, h⟩ := Call.bind_eq_ok h
  obtain ⟨rfl, hm₅⟩ := Prod.mk.inj (Option.some.inj (Call.execute_eq_ok hindex))
  split at h
  · exact Or.inl (Except.ok.inj (Prod.mk.inj h).1).symm
  obtain ⟨flag₆, m₆, hchat, h⟩ := Call.bind_eq_ok h
  obtain ⟨hfree, hm₆⟩ := createPrivateChatByUserPair_eq_some (Call.execute_eq_ok hchat)
  split at h
  · exact Or.inl (Except.ok.inj (Prod.mk.inj h).1).symm
  obtain ⟨flag₇, m₇, hmsg, h⟩ := Call.bind_eq_ok h
  obtain ⟨hcolumn, thread, hthread, rfl, hm₇⟩ :=
    createMsgHistoryBankTuple_eq_some (Call.execute_eq_ok hmsg)
  obtain rfl := Option.some.inj ((sql.bigint_repr _).symm.trans hthread)
  split at h
  · exact Or.inl (Except.ok.inj (Prod.mk.inj h).1).symm
  obtain ⟨flag₈, m₈, hmsg', h⟩ := Call.bind_eq_ok h
  obtain ⟨-, thread, hthread, rfl, hm₈⟩ :=
    createMsgHistoryBankTuple_eq_some (Call.execute_eq_ok hmsg')
  obtain rfl := Option.some.inj ((sql.bigint_repr _).symm.trans hthread)
  split at h
  · exact Or.inl (Except.ok.inj (Prod.mk.inj h).1).symm
  obtain ⟨hending, rfl⟩ := Prod.mk.inj h
  obtain rfl := Except.ok.inj hending
  rw [← hm₅, hm₄, hm₃, ← hm₂, hm₁] at hfree hm₆
  refine Or.inr ⟨row, nickname, message,
    ⟨hmem, hcolumn, by simpa using hpair, hfree, hnickname, hmessage, ?_⟩, ?_⟩
  · rw [hm₈, hm₇, hm₆, hm₄, hm₃, ← hm₂, hm₁]
    rfl
  · rw [hm₇, hm₆, hm₄, hm₃, ← hm₂, hm₁]
    rfl

/-- A confirmation answers with two messages and has stored what they are about, or it answers with
    nothing, or throws, and the tables are what they were. -/
theorem execFriendConfirmationTransaction_cases {sql : MySql} {requester confirmer : Nat}
    {c c' : DbConn} {r : Except Exn (Option (List FriendingConfirmInfo))}
    (h : execFriendConfirmationTransaction sql requester confirmer c = (r, c')) :
    (c'.store.tables = c.store.tables ∧ (r = .ok none ∨ ∃ err, r = .error err)) ∨
      ∃ row nickname message,
        StoresConfirmation sql requester confirmer c.store c'.store row nickname message ∧
          r = .ok (some
            (confirmInfos requester confirmer (initMessage nickname message) c.store)) := by
  obtain ⟨a, c₁, c₂, hr, hc₁, hbody, hc₂⟩ | ⟨htables, hr | hr | ⟨a, c₁, c₂, hr, -, hbody⟩⟩ :=
    transaction_cases h
  · obtain hleave | ⟨row, nickname, message, hstores, hending⟩ := confirmFriendRequest_cases hbody
    · cases hleave
    rw [hc₁, ← hc₂] at hstores
    rw [hc₁] at hending
    obtain rfl := Ending.commit.inj hending
    exact Or.inr ⟨row, nickname, message, hstores, hr⟩
  · exact Or.inl ⟨htables, Or.inl hr⟩
  · exact Or.inl ⟨htables, Or.inr hr⟩
  · obtain hleave | ⟨row, nickname, message, -, hending⟩ := confirmFriendRequest_cases hbody
    · obtain rfl := Ending.leave.inj hleave
      exact Or.inl ⟨htables, Or.inl hr⟩
    · cases hending

theorem execFriendConfirmationTransaction_store {sql : MySql} {requester confirmer : Nat}
    {c c' : DbConn} {r : Except Exn (Option (List FriendingConfirmInfo))}
    (h : execFriendConfirmationTransaction sql requester confirmer c = (r, c')) :
    c'.store.tables = c.store.tables ∨ ∃ row nickname message,
      StoresConfirmation sql requester confirmer c.store c'.store row nickname message := by
  obtain ⟨htables, -⟩ | ⟨row, nickname, message, hstores, -⟩ :=
    execFriendConfirmationTransaction_cases h
  · exact Or.inl htables
  · exact Or.inr ⟨row, nickname, message, hstores⟩

/-- Sender, receiver and thread of the row a message is stored as, if it passes the checks of
    `createModifyChattingHistoryRecord`. -/
def MsgInfo.landing (sql : MySql) (t : Tables) (info : MsgInfo) : Option (Nat × Nat × Nat) :=
  if info.msgReceiver = info.msgSender then none
  else
    match Text.stoi info.msgSender, Text.stoi info.msgReceiver with
    | some a, some b =>
      if (∃ u ∈ t.authentication, (u : Int) = a) ∧ (∃ u ∈ t.authentication, (u : Int) = b) ∧
          (∃ p ∈ t.privateChat, p.user1Uuid = min a.toNat b.toNat ∧
            p.user2Uuid = max a.toNat b.toNat) ∧ sql.hasMessageReceiver then
        (sql.bigint info.threadId).map fun thread => (a.toNat, b.toNat, thread)
      else none
    | _, _ => none

/-- What follows the conversion of a text runs if the text is a number. -/
theorem bind_stoiOrThrow {β : Type} {text : String} {f : Int → Db β} {c c' : DbConn}
    {r : Except Exn β} (h : (stoiOrThrow text >>= f) c = (r, c')) :
    (Text.stoi text = none ∧ r = .error .stoi ∧ c' = c) ∨
      ∃ i, Text.stoi text = some i ∧ f i c = (r, c') := by
  cases hi : Text.stoi text with
  | none =>
    have hthrow : stoiOrThrow text c = (.error .stoi, c) := by
      unfold stoiOrThrow
      rw [hi]
      rfl
    rw [Call.bind_apply_error hthrow] at h
    obtain ⟨rfl, rfl⟩ := Prod.mk.inj h
    exact Or.inl ⟨rfl, rfl, rfl⟩
  | some i =>
    have hok : stoiOrThrow text c = (.ok i, c) := by
      unfold stoiOrThrow
      rw [hi]
      rfl
    rw [Call.bind_apply_ok hok] at h
    exact Or.inr ⟨i, rfl, h⟩

theorem storeMsg_cases {sql : MySql} {info : MsgInfo} {a b : Nat} {c c' : DbConn}
    {ending : Ending (Bool × MsgInfo)} (h : storeMsg sql info a b c = (.ok ending, c')) :
    ending = .leave (false, info) ∨
      ∃ thread, (∃ p ∈ c.store.tables.privateChat,
          p.user1Uuid = min a b ∧ p.user2Uuid = max a b) ∧
        sql.hasMessageReceiver = true ∧ sql.bigint info.threadId = some thread ∧
        c'.store = addMsg thread 0 a b info.msgContent c.store ∧
        ending =
          .commit (true, info.setMsgID (c.store.counters.chatMsgHistoryBank + 1).repr) := by
  unfold storeMsg at h
  obtain ⟨flag₁, m₁, hcheck, h⟩ := Call.bind_eq_ok h
  obtain ⟨hrows, hm₁⟩ := select_eq_some (Call.execute_eq_ok hcheck)
  split at h
  · exact Or.inl (Except.ok.inj (Prod.mk.inj h).1).symm
  rename_i hne
  rw [hrows, List.isEmpty_iff] at hne
  obtain ⟨p, hp⟩ := List.exists_mem_of_ne_nil _ hne
  obtain ⟨hmem, hpair⟩ := List.mem_filter.mp hp
  obtain ⟨flag₂, m₂, hinsert, h⟩ := Call.bind_eq_ok h
  split at h
  · exact Or.inl (Except.ok.inj (Prod.mk.inj h).1).symm
  obtain ⟨hcolumn, thread, hthread, rfl, hm₂⟩ :=
    createMsgHistoryBankTuple_eq_some (Call.execute_eq_ok hinsert)
  obtain ⟨hending, rfl⟩ := Prod.mk.inj h
  rw [hm₁] at hm₂
  rw [hm₁] at hending
  exact Or.inr ⟨thread, ⟨p, hmem, by simpa using hpair⟩, hcolumn, hthread, hm₂,
    (Except.ok.inj hending).symm⟩

/-- A message is stored as its landing says, or nothing changes and the call does not answer
    true. -/
theorem createModifyChattingHistoryRecord_cases {sql : MySql} {info : MsgInfo} {c c' : DbConn}
    {r : Except Exn (Bool × MsgInfo)}
    (h : createModifyChattingHistoryRecord sql info c = (r, c')) :
    (c'.store.tables = c.store.tables ∧ (r = .ok (false, info) ∨ ∃ e, r = .error e)) ∨
      ∃ a b thread, info.landing sql c.store.tables = some (a, b, thread) ∧
        c'.store = addMsg thread 0 a b info.msgContent c.store ∧
        r = .ok (true, info.setMsgID (c.store.counters.chatMsgHistoryBank + 1).repr) := by
  unfold createModifyChattingHistoryRecord at h
  split at h
  · obtain ⟨rfl, rfl⟩ := Prod.mk.inj h
    exact Or.inl ⟨rfl, Or.inl rfl⟩
  rename_i hdiffer
  obtain ⟨-, rfl, rfl⟩ | ⟨a, ha, h⟩ := bind_stoiOrThrow h
  · exact Or.inl ⟨rfl, Or.inr ⟨_, rfl⟩⟩
  obtain ⟨-, rfl, rfl⟩ | ⟨b, hb, h⟩ := bind_stoiOrThrow h
  · exact Or.inl ⟨rfl, Or.inr ⟨_, rfl⟩⟩
  obtain ⟨res1, m₁, h₁, hfound₁, h⟩ := bind_userUuidCheck h
  obtain ⟨res2, m₂, h₂, hfound₂, h⟩ := bind_userUuidCheck h
  rw [h₁] at h₂ hfound₂
  split at h
  · obtain ⟨rfl, rfl⟩ := Prod.mk.inj h
    exact Or.inl ⟨congrArg Store.tables h₂, Or.inl rfl⟩
  rename_i hsome
  rw [Bool.or_eq_true, Option.isNone_iff_eq_none, Option.isNone_iff_eq_none, not_or] at hsome
  have huser₁ := hfound₁ (Option.isSome_iff_ne_none.mpr hsome.1)
  have huser₂ := hfound₂ (Option.isSome_iff_ne_none.mpr hsome.2)
  obtain ⟨q, c₁, c₂, hr, hc₁, hbody, hc₂⟩ | ⟨htables, hr⟩ := transaction_cases h
  · obtain hleave | ⟨thread, hchat, hcolumn, hthread, hstore, hcommit⟩ := storeMsg_cases hbody
    · cases hleave
    rw [hc₁, h₂] at hchat hstore hcommit
    refine Or.inr ⟨a.toNat, b.toNat, thread, ?_, hc₂.trans hstore, ?_⟩
    · unfold MsgInfo.landing
      have hchecks : (∃ u ∈ c.store.tables.authentication, (u : Int) = a) ∧
          (∃ u ∈ c.store.tables.authentication, (u : Int) = b) ∧
          (∃ p ∈ c.store.tables.privateChat, p.user1Uuid = min a.toNat b.toNat ∧
            p.user2Uuid = max a.toNat b.toNat) ∧ sql.hasMessageReceiver = true :=
        ⟨⟨a.toNat, huser₁.1, Int.toNat_of_nonneg huser₁.2⟩,
          ⟨b.toNat, huser₂.1, Int.toNat_of_nonneg huser₂.2⟩, hchat, hcolumn⟩
      rw [if_neg hdiffer, ha, hb]
      simp only
      rw [if_pos hchecks, hthread]
      rfl
    · rw [hr, Ending.commit.inj hcommit]
  · rw [h₂] at htables
    refine Or.inl ⟨htables, ?_⟩
    obtain hr | hr | ⟨q, c₁, c₂, hr, -, hbody⟩ := hr
    · exact Or.inl hr
    · exact Or.inr hr
    · obtain hleave | ⟨thread, -, -, -, -, hcommit⟩ := storeMsg_cases hbody
      · rw [Ending.leave.inj hleave] at hr
        exact Or.inl hr
      · cases hcommit

/-! ## Calls that go through -/

/-- A statement that is not made to fail, in a call. -/
theorem bind_clear {ρ β : Type} {stmt : Statement ρ} {flag : Results ρ} {s s' : DbStore}
    {faults : List Bool} (hclear : faults.headD false = false) (h : stmt s = some (flag, s'))
    (f : Results ρ → Db β) :
    (executeCommandOrThrow stmt >>= f) ⟨s, faults⟩ = f flag ⟨s', faults.tail⟩ :=
  Call.bind_apply_ok (Call.execute_of_clear hclear h) f

theorem bind_statement {ρ β : Type} {stmt : Statement ρ} {flag : Results ρ} {s s' : DbStore}
    (h : stmt s = some (flag, s')) (f : Results ρ → Db β) :
    (executeCommandOrThrow stmt >>= f) ⟨s, []⟩ = f flag ⟨s', []⟩ :=
  bind_clear rfl h f

/-- A statement that has affected rows, as the calls go on from it. -/
theorem bind_affecting {ρ β : Type} {stmt : Statement ρ} {flag : Results ρ} {s s' : DbStore}
    (h : stmt s = some (flag, s')) (hrows : flag.affectedRows ≠ 0) (f g : Results ρ → Db β) :
    (executeCommandOrThrow stmt >>= fun r => if r.affectedRows = 0 then f r else g r) ⟨s, []⟩ =
      g flag ⟨s', []⟩ := by
  rw [bind_statement h, if_neg hrows]

theorem executeCommand_select_clear {ρ : Type} (rows : Tables → List ρ) {s : DbStore}
    {faults : List Bool} (hclear : faults.headD false = false) (hne : rows s.tables ≠ []) :
    executeCommand (select rows) ⟨s, faults⟩ = (.ok (some (rows s.tables)), ⟨s, faults.tail⟩) := by
  apply Call.catching_of_ok
  refine (bind_clear hclear rfl _).trans ?_
  show (Except.ok (if (rows s.tables).isEmpty then none else some (rows s.tables)), _) = _
  rw [if_neg (by simpa using hne)]

theorem transaction_of_commit {α : Type} {onError a : α} {body : Db (Ending α)} {s s' : DbStore}
    (h : body ⟨s, []⟩ = (.ok (.commit a), ⟨s', []⟩)) :
    transaction onError body ⟨s, []⟩ = (.ok a, ⟨s', []⟩) := by
  have hstart : ([] : List Bool).headD false = false := rfl
  exact Call.catching_of_ok (Call.guarded_of_commit hstart hstart h)

/-- The query for a registered user, in a call. -/
theorem bind_userUuidCheck_clear {β : Type} {uuid : Int} {s : DbStore} {faults : List Bool}
    (hclear : faults.headD false = false)
    (huser : ∃ u ∈ s.tables.authentication, (u : Int) = uuid) (f : Option (List Nat) → Db β) :
    ∃ l, (executeCommand (userUuidCheck uuid) >>= f) ⟨s, faults⟩ = f (some l) ⟨s, faults.tail⟩ := by
  have hne : (s.tables.authentication.filter fun u : Nat => (u : Int) = uuid) ≠ [] := by
    obtain ⟨u, hu, heq⟩ := huser
    exact List.ne_nil_of_mem (List.mem_filter.mpr ⟨hu, by simpa using heq⟩)
  exact ⟨_, Call.bind_apply_ok (executeCommand_select_clear _ hclear hne) f⟩

theorem storeMsg_clear {sql : MySql} {info : MsgInfo} {a b thread : Nat} {s : DbStore}
    {faults : List Bool} (hclear : Transaction.Clear 2 faults)
    (hchat : ∃ p ∈ s.tables.privateChat, p.user1Uuid = min a b ∧ p.user2Uuid = max a b)
    (hcolumn : sql.hasMessageReceiver = true) (hthread : sql.bigint info.threadId = some thread) :
    storeMsg sql info a b ⟨s, faults⟩ =
      (.ok (.commit (true, info.setMsgID (s.counters.chatMsgHistoryBank + 1).repr)),
        ⟨addMsg thread 0 a b info.msgContent s, faults.tail.tail⟩) := by
  refine (bind_clear hclear.1 rfl _).trans ?_
  have hne : ((s.tables.privateChat.filter fun r =>
      r.user1Uuid = min a b ∧ r.user2Uuid = max a b).isEmpty) = false := by
    obtain ⟨p, hp, hpair⟩ := hchat
    rw [Bool.eq_false_iff, Ne, List.isEmpty_iff]
    exact List.ne_nil_of_mem (List.mem_filter.mpr ⟨hp, by simpa using hpair⟩)
  have hinsert : createMsgHistoryBankTuple sql info.threadId 0 a b info.msgContent s =
      some (.affected 1 (s.counters.chatMsgHistoryBank + 1),
        addMsg thread 0 a b info.msgContent s) := by
    unfold createMsgHistoryBankTuple
    rw [if_pos hcolumn, hthread]
  rw [if_neg (by simpa [Results.ofRows] using hne)]
  exact (bind_clear hclear.2.1 hinsert _).trans rfl

/-- A message that has a landing is stored there, if none of its statements is made to fail: two
    queries for the users, the start, a query for the chat, the insertion and the commit. -/
theorem createModifyChattingHistoryRecord_clear {sql : MySql} {info : MsgInfo}
    {a b thread : Nat} {s : DbStore} {faults : List Bool}
    (hclear : Transaction.Clear 6 faults)
    (h : info.landing sql s.tables = some (a, b, thread)) :
    createModifyChattingHistoryRecord sql info ⟨s, faults⟩ =
      (.ok (true, info.setMsgID (s.counters.chatMsgHistoryBank + 1).repr),
        ⟨addMsg thread 0 a b info.msgContent s, faults.drop 6⟩) := by
  obtain ⟨hclear₁, hclear₂, hclear₃, hclear₄, hclear₅, hclear₆, -⟩ := hclear
  unfold MsgInfo.landing at h
  split at h
  · cases h
  rename_i hdiffer
  split at h
  · rename_i i j hi hj
    split at h
    · rename_i hchecks
      obtain ⟨t, hthread, heq⟩ := Option.map_eq_some_iff.mp h
      obtain ⟨rfl, hrest⟩ := Prod.mk.inj heq
      obtain ⟨rfl, rfl⟩ := Prod.mk.inj hrest
      unfold createModifyChattingHistoryRecord stoiOrThrow
      rw [if_neg hdiffer, hi, hj]
      obtain ⟨l₁, h₁⟩ := bind_userUuidCheck_clear hclear₁ hchecks.1 fun res1 =>
        executeCommand (userUuidCheck j) >>= fun res2 =>
          if (res1.isNone || res2.isNone) = true then pure (false, info)
          else transaction (false, info) (storeMsg sql info i.toNat j.toNat)
      obtain ⟨l₂, h₂⟩ := bind_userUuidCheck_clear hclear₂ hchecks.2.1 fun res2 =>
          if ((some l₁).isNone || res2.isNone) = true then pure (false, info)
          else transaction (false, info) (storeMsg sql info i.toNat j.toNat)
      refine (h₁.trans h₂).trans ?_
      rw [if_neg (by simp)]
      have hstore := storeMsg_clear ⟨hclear₄, hclear₅, trivial⟩ hchecks.2.2.1 hchecks.2.2.2 hthread
      have hfaults : faults.drop 6 = faults.tail.tail.tail.tail.tail.tail := by
        simp only [← List.drop_one, List.drop_drop]
      rw [hfaults]
      exact Call.catching_of_ok (Call.guarded_of_commit hclear₃ hclear₆ hstore)
    · cases h
  · cases h

/-- On a connection without faults. -/
theorem createModifyChattingHistoryRecord_landing {sql : MySql} {info : MsgInfo}
    {a b thread : Nat} {s : DbStore} (h : info.landing sql s.tables = some (a, b, thread)) :
    createModifyChattingHistoryRecord sql info ⟨s, []⟩ =
      (.ok (true, info.setMsgID (s.counters.chatMsgHistoryBank + 1).repr),
        ⟨addMsg thread 0 a b info.msgContent s, []⟩) :=
  createModifyChattingHistoryRecord_clear (Call.clear_nil 6) h

theorem bind_asString_some {β : Type} (text : String) (f : String → Db β) (c : DbConn) :
    (asString (some text) >>= f) c = f text c := rfl

/-- What a confirmation needs to go through, besides a connection without faults. -/
structure Confirmable (sql : MySql) (requester confirmer : Nat) (t : Tables) : Prop where
  column : sql.hasMessageReceiver = true
  users : requester ∈ t.authentication ∧ confirmer ∈ t.authentication
  differ : requester ≠ confirmer
  pending : ∃ r ∈ t.friendRequest,
    (r.srcUuid = requester ∧ r.dstUuid = confirmer) ∧ r.status = false
  readable : ∀ r ∈ t.friendRequest, r.nickname.isSome ∧ r.message.isSome
  strangers : ∀ f ∈ t.authFriend, ¬ (f.selfUuid = confirmer ∧ f.friendUuid = requester) ∧
    ¬ (f.selfUuid = requester ∧ f.friendUuid = confirmer)
  noChat : ∀ p ∈ t.privateChat, ¬ (p.user1Uuid = min requester confirmer ∧
    p.user2Uuid = max requester confirmer)

theorem createAuthFriendEntry_fresh {friendUuid selfUuid : Nat} {s : DbStore}
    (alternative : String) (hfriend : friendUuid ∈ s.tables.authentication)
    (hself : selfUuid ∈ s.tables.authentication)
    (hfresh : ∀ r ∈ s.tables.authFriend, ¬ (r.selfUuid = selfUuid ∧ r.friendUuid = friendUuid)) :
    createAuthFriendEntry friendUuid selfUuid alternative s =
      some (.affected 1 (s.counters.authFriend + 1),
        addAuthFriend friendUuid selfUuid alternative s) := by
  unfold createAuthFriendEntry
  rw [if_neg]
  rintro (⟨r, hr, hpair⟩ | hno | hno)
  · exact hfresh r hr hpair
  · exact hno hfriend
  · exact hno hself

theorem createMsgHistoryBankTuple_repr {sql : MySql} (hcolumn : sql.hasMessageReceiver = true)
    (thread status sender receiver : Nat) (content : String) (s : DbStore) :
    createMsgHistoryBankTuple sql thread.repr status sender receiver content s =
      some (.affected 1 (s.counters.chatMsgHistoryBank + 1),
        addMsg thread status sender receiver content s) := by
  unfold createMsgHistoryBankTuple
  rw [if_pos hcolumn, sql.bigint_repr]

theorem createPrivateChatByUserPair_fresh (sql : MySql) {id user1 user2 : Nat} {s : DbStore}
    (hid : ∀ p ∈ s.tables.privateChat, p.threadId ≠ id)
    (hpair : ∀ p ∈ s.tables.privateChat, ¬ (p.user1Uuid = user1 ∧ p.user2Uuid = user2)) :
    createPrivateChatByUserPair sql id.repr user1 user2 s =
      some (.affected 1 0, addPrivateChat ⟨id, user1, user2⟩ s) := by
  unfold createPrivateChatByUserPair
  rw [sql.bigint_repr]
  simp only
  rw [if_neg]
  rintro ⟨p, hp, heq | heq⟩
  · exact hid p hp heq
  · exact hpair p hp heq

theorem execFriendConfirmationTransaction_commits {sql : MySql} {requester confirmer : Nat}
    {s : DbStore} (h : Confirmable sql requester confirmer s.tables)
    (hids : ∀ p ∈ s.tables.privateChat, p.threadId ≤ s.counters.globalThreadIndex) :
    ∃ nickname message, execFriendConfirmationTransaction sql requester confirmer ⟨s, []⟩ =
      (.ok (some (confirmInfos requester confirmer message s)),
        ⟨withConfirmation requester confirmer nickname message s, []⟩) := by
  obtain ⟨r, hr, hpair, hstatus⟩ := h.pending
  have hfilter : r ∈ s.tables.friendRequest.filter fun r =>
      r.srcUuid = requester ∧ r.dstUuid = confirmer :=
    List.mem_filter.mpr ⟨hr, by simpa using hpair⟩
  obtain ⟨row, rest, hrow⟩ := List.exists_cons_of_ne_nil (List.ne_nil_of_mem hfilter)
  have hchanged : s.tables.friendRequest.countP (fun r =>
      r.srcUuid = requester ∧ r.dstUuid = confirmer ∧ r.status ≠ true) ≠ 0 := by
    apply Nat.ne_of_gt
    exact List.countP_pos_iff.mpr ⟨r, hr, by simp [hpair, hstatus]⟩
  have hread : row ∈ s.tables.friendRequest :=
    (List.mem_filter.mp (hrow ▸ List.mem_cons_self : row ∈ s.tables.friendRequest.filter _)).1
  obtain ⟨hnickname, hmessage⟩ := h.readable row hread
  obtain ⟨nickname, hnickname⟩ := Option.isSome_iff_exists.mp hnickname
  obtain ⟨message, hmessage⟩ := Option.isSome_iff_exists.mp hmessage
  refine ⟨nickname, initMessage nickname message, transaction_of_commit ?_⟩
  refine (bind_statement rfl _).trans ?_
  show (match s.tables.friendRequest.filter _ with | [] => _ | row :: _ => _ : Db _) _ = _
  rw [hrow]
  simp only [hnickname, hmessage]
  refine (bind_asString_some nickname _ _).trans ?_
  refine (bind_asString_some message _ _).trans ?_
  refine (bind_affecting rfl hchanged _ _).trans ?_
  let s₁ := setRequestStatus true requester confirmer s
  let s₂ := addAuthFriend requester confirmer nickname s₁
  let s₃ := addAuthFriend confirmer requester "" s₂
  have hfriend := createAuthFriendEntry_fresh (s := s₁) nickname
    h.users.1 h.users.2 fun f hf => (h.strangers f hf).1
  refine (bind_affecting hfriend Nat.one_ne_zero _ _).trans ?_
  have hsecond : ∀ f ∈ s₂.tables.authFriend,
      ¬ (f.selfUuid = requester ∧ f.friendUuid = confirmer) := by
    intro f hf
    rcases List.mem_append.mp hf with hold | hnew
    · exact (h.strangers f hold).2
    · rw [List.mem_singleton.mp hnew]
      exact fun heq => h.differ heq.2
  have hfriend' := createAuthFriendEntry_fresh (s := s₂) ""
    h.users.2 h.users.1 hsecond
  refine (bind_affecting hfriend' Nat.one_ne_zero _ _).trans ?_
  refine (bind_affecting rfl Nat.one_ne_zero _ _).trans ?_
  have hid : ∀ p ∈ (addThread s₃).tables.privateChat,
      p.threadId ≠ s.counters.globalThreadIndex + 1 :=
    fun p hp => Nat.ne_of_lt (Nat.lt_succ_of_le (hids p hp))
  have hchat := createPrivateChatByUserPair_fresh sql (s := addThread s₃) hid h.noChat
  refine (bind_affecting hchat Nat.one_ne_zero _ _).trans ?_
  refine (bind_affecting (createMsgHistoryBankTuple_repr h.column _ _ _ _ _ _)
    Nat.one_ne_zero _ _).trans ?_
  exact bind_affecting (createMsgHistoryBankTuple_repr h.column _ _ _ _ _ _)
    Nat.one_ne_zero _ _

end DistributedIM.ChattingServer
