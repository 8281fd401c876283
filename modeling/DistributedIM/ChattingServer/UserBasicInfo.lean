/-
  `SyncLogic::getUserBasicInfo`: a profile is looked up in Redis first and then in MySQL, and what
  MySQL has is stored in Redis, without an expiry. Any number of lookups run at a time, the GET, the
  two statements and the SET each one step; a command may fail, a key may be evicted.

  `found_in_tables`: a lookup that ends with a card ends with the card of the tables, as far as it
  is sent on. A card read back from Redis has the sex as a byte. `always_findsExisting_iff`: a
  profile that was there when its lookup began is found, exactly if no statement and no SET of such
  a lookup fails; a GET may.

  The program has no statement that changes or removes a profile, or that adds one: rows of the
  tables only come to be. Nothing else writes the keys.
-/
import DistributedIM.BalanceServer.UserTokens
import DistributedIM.ChattingServer.FriendLists
import DistributedIM.ChattingServer.GrpcDistributedChatting
import DistributedIM.Lib.JsonParse

namespace DistributedIM.ChattingServer

open RedisLock (Store cString)
open BalanceServer.UserTokens (checkValue setValue)

/-! ## MySQL -/

/-- A row of the table `UserProfile`, whose columns may be NULL. -/
structure ProfileRow where
  avatar : Option String
  nickname : Option String
  description : Option String
  sex : Option Int
  deriving DecidableEq, Repr

/-- `Authentication` and `UserProfile`, by uuid. -/
structure ProfileTables where
  username : Nat → Option String
  profile : Nat → Option ProfileRow

/-- `static_cast<user::Sex>`, of 32 bits. -/
def sexOfInt64 (n : Int) : Nat :=
  (n % 2 ^ 32).toNat

/-- What `getUserProfile` makes of the row; it throws on NULL. -/
def profileCard (uuid : Nat) (username : String) (row : ProfileRow) : Except Exn UserNameCard := do
  let avatar ← columnText row.avatar
  let nickname ← columnText row.nickname
  let description ← columnText row.description
  let sex ← row.sex.elim (throw .badFieldAccess) pure
  return {
    sex := sexOfInt64 sex
    uuid := uuid.repr
    avatorPath := avatar
    username := username
    nickname := nickname
    description := description }

/-- The card of a user, without a cache. -/
def ProfileTables.card (t : ProfileTables) (uuid : Nat) : Option UserNameCard := do
  let username ← t.username uuid
  let row ← t.profile uuid
  (profileCard uuid username row).toOption

/-! ## The text in Redis -/

def userPrefix : String :=
  "user_info_"

/-- `redis_root` -/
def UserNameCard.redisRoot (card : UserNameCard) : Json.Object :=
  [("uuid", .string card.uuid), ("sex", .number card.sexByte.repr),
    ("avator", .string card.avatorPath), ("username", .string card.username),
    ("nickname", .string card.nickname), ("description", .string card.description)]

/-- `as_int64`; none when it throws. -/
def asInt64 : Json → Option Int
  | .number literal =>
    match literal.toList with
    | '-' :: digits =>
      if digits.all Char.isDigit then
        ((Text.leadingDigits digits).filter fun n => n ≤ 2 ^ 63).map fun (n : Nat) => -(n : Int)
      else none
    | digits =>
      if digits.all Char.isDigit then
        ((Text.leadingDigits digits).filter fun n => n < 2 ^ 63).map fun (n : Nat) => (n : Int)
      else none
  | _ => none

/-- The card of a parsed object; none when a conversion throws. -/
def cardOfRoot (root : Json.Object) : Option UserNameCard := do
  let uuid ← (root.get "uuid").asText
  let avator ← (root.get "avator").asText
  let username ← (root.get "username").asText
  let nickname ← (root.get "nickname").asText
  let description ← (root.get "description").asText
  let sex ← asInt64 (root.get "sex")
  return {
    sex := sexOfInt64 sex
    uuid := uuid
    avatorPath := avator
    username := username
    nickname := nickname
    description := description }

/-- What becomes of the text that Redis has. -/
def cachedInfo (infoStr : String) : BasicInfo :=
  match Json.parse infoStr with
  | some (.object root) =>
    match cardOfRoot root with
    | some card => .found card
    | none => .throws
  | _ => .notFound

/-- The card as the handlers send it, with the sex as a byte. -/
def UserNameCard.onWire (card : UserNameCard) : UserNameCard :=
  { card with sex := card.sexByte }

theorem wellFormed_redisRoot (card : UserNameCard) : (Json.object card.redisRoot).WellFormed := by
  have hkeys : (card.redisRoot.map Prod.fst).Nodup := by
    simp [UserNameCard.redisRoot]
  exact ⟨hkeys, trivial, Json.readNumber_repr _, trivial, trivial, trivial, trivial, trivial⟩

theorem asInt64_repr {n : Nat} (hn : n < 2 ^ 63) : asInt64 (.number n.repr) = some (n : Int) := by
  have hall := Text.toDigits_all_isDigit n
  unfold asInt64
  dsimp only
  rw [Nat.toList_repr]
  split
  · rename_i digits heq
    have hminus := hall '-' (by rw [heq]; exact List.mem_cons_self)
    cases hminus
  · rw [if_pos (List.all_eq_true.mpr hall), Text.leadingDigits_toDigits, Option.filter_some,
      if_pos (by simpa using hn), Option.map_some]

theorem cachedInfo_redisRoot (card : UserNameCard) :
    cachedInfo (Json.object card.redisRoot).compact = .found card.onWire := by
  have hbyte : card.sexByte < 2 ^ 8 := Nat.mod_lt _ (by decide)
  have hsex : asInt64 (card.redisRoot.get "sex") = some (card.sexByte : Int) :=
    asInt64_repr (Nat.lt_of_lt_of_le hbyte (by decide))
  have hback : sexOfInt64 card.sexByte = card.sexByte := by
    unfold sexOfInt64
    omega
  have hcard : cardOfRoot card.redisRoot = some card.onWire := by
    unfold cardOfRoot
    rw [hsex]
    show some (UserNameCard.mk (sexOfInt64 card.sexByte) _ _ _ _ _) = some card.onWire
    rw [hback]
    rfl
  unfold cachedInfo
  rw [Json.parse_compact (wellFormed_redisRoot card)]
  dsimp only
  rw [hcard]

/-! ## C strings -/

theorem cString_of_not_mem {s : String} (h : '\x00' ∉ s.toList) : cString s = s := by
  have hall : ∀ c ∈ s.toList, decide (c ≠ '\x00') = true := by
    intro c hc
    rw [decide_eq_true_eq]
    rintro rfl
    exact h hc
  unfold cString
  rw [List.takeWhile_eq_self_iff.mpr hall, String.ofList_toList]

theorem cString_userPrefix (key : String) :
    cString (userPrefix ++ key) = userPrefix ++ cString key := by
  have hprefix : ∀ c ∈ userPrefix.toList, decide (c ≠ '\x00') = true := by
    simp [userPrefix]
  unfold cString
  rw [String.toList_append, List.takeWhile_append_of_pos hprefix, String.ofList_append,
    String.ofList_toList]

theorem cString_of_readUInt64 {key : String} {uuid : Nat} (h : Text.readUInt64 key = some uuid) :
    cString key = key := by
  refine cString_of_not_mem fun hnul => ?_
  obtain ⟨hall, -⟩ := Option.ite_none_right_eq_some.mp h
  exact absurd (List.all_eq_true.mp hall _ hnul) (by decide)

theorem nul_not_mem_quoted (text : String) : '\x00' ∉ Json.quoted text := by
  have hdigit : ∀ d < 16, Nat.digitChar d ≠ '\x00' := by decide
  have hescaped (c : Char) : '\x00' ∉ Json.escapedChar c := by
    intro hnul
    have hc : c = '\x00' → Json.escapedChar c = ['\\', 'u', '0', '0', '0', '0'] := by
      rintro rfl
      rfl
    by_cases hzero : c = '\x00'
    · rw [hc hzero] at hnul
      exact absurd hnul (by decide)
    · have hne : '\x00' ≠ c := Ne.symm hzero
      unfold Json.escapedChar at hnul
      split at hnul
      iterate 7 simp [hne] at hnul
      split at hnul
      · rename_i hcontrol
        have hhigh := hdigit (c.toNat / 16) (by omega)
        have hlow := hdigit (c.toNat % 16) (by omega)
        simp [hhigh.symm, hlow.symm] at hnul
      · simp [hne] at hnul
  unfold Json.quoted
  simp [hescaped]

theorem cString_redisRoot (card : UserNameCard) :
    cString (Json.object card.redisRoot).compact = (Json.object card.redisRoot).compact := by
  have hsex : '\x00' ∉ Nat.toDigits 10 card.sexByte := by
    intro hnul
    exact absurd (Text.toDigits_all_isDigit _ _ hnul) (by decide)
  apply cString_of_not_mem
  unfold Json.compact
  rw [String.toList_ofList]
  simp [Json.chars, Json.charsOfFields, UserNameCard.redisRoot, nul_not_mem_quoted, hsex]

/-! ## Lookups -/

namespace UserBasicInfo

/-- Where a lookup is. -/
inductive Stage
  | checkValue
  | usernameByUUID (uuid : Nat)
  | userProfile (uuid : Nat) (username : String)
  | setValue (info : UserNameCard)
  | ended (info : BasicInfo)
  deriving DecidableEq, Repr

structure Lookup where
  key : String
  stage : Stage
  /-- the card that the tables had when the lookup began -/
  there : Option UserNameCard
  deriving DecidableEq, Repr

/-- Redis, MySQL and the lookups. -/
structure State where
  store : Store
  tables : ProfileTables
  lookups : List Lookup

/-- The first row that a statement returns; a statement that fails returns none. -/
def executeCommand {α : Type} (delivery : RedisLock.Delivery) (row : Option α) : Option α :=
  if delivery = .answered then row else none

/-- The next step of a lookup. -/
def advance (delivery : RedisLock.Delivery) (store : Store) (tables : ProfileTables) (l : Lookup) :
    Option (Store × Stage) :=
  match l.stage with
  | .checkValue =>
    match checkValue delivery store (userPrefix ++ l.key) with
    | some infoStr => some (store, .ended (cachedInfo infoStr))
    | none =>
      match Text.readUInt64 l.key with
      | none => some (store, .ended .notFound)
      | some uuid => some (store, .usernameByUUID uuid)
  | .usernameByUUID uuid =>
    match executeCommand delivery (tables.username uuid) with
    | none => some (store, .ended .notFound)
    | some username => some (store, .userProfile uuid username)
  | .userProfile uuid username =>
    match executeCommand delivery (tables.profile uuid) with
    | none => some (store, .ended .notFound)
    | some row =>
      match profileCard uuid username row with
      | .error _ => some (store, .ended .throws)
      | .ok info => some (store, .setValue info)
  | .setValue info =>
    let r := setValue delivery store (userPrefix ++ l.key) (Json.object info.redisRoot).compact
    some (r.2, .ended (if r.1 then .found info else .notFound))
  | .ended _ => none

inductive Event
  | getUserBasicInfo (key : String)
  /-- the lookup takes its next step -/
  | run (i : Nat) (delivery : RedisLock.Delivery)
  /-- a row of `Authentication` comes to be -/
  | addAccount (uuid : Nat) (username : String)
  /-- a row of `UserProfile`, whose uuid is one of `Authentication` -/
  | addProfile (uuid : Nat) (row : ProfileRow)
  /-- Redis gives up a key -/
  | evict (key : String)

def step (s : State) : Event → Option State
  | .getUserBasicInfo key =>
    let there := (Text.readUInt64 key).bind s.tables.card
    some { s with lookups := s.lookups ++ [⟨key, .checkValue, there⟩] }
  | .run i delivery => do
    let l ← s.lookups[i]?
    let (store, stage) ← advance delivery s.store s.tables l
    some { s with store := store, lookups := s.lookups.set i { l with stage := stage } }
  | .addAccount uuid username =>
    if s.tables.username uuid = none then
      some { s with
        tables := { s.tables with
          username := Function.update s.tables.username uuid (some username) } }
    else none
  | .addProfile uuid row =>
    if s.tables.profile uuid = none ∧ s.tables.username uuid ≠ none then
      some { s with
        tables := { s.tables with profile := Function.update s.tables.profile uuid (some row) } }
    else none
  | .evict key => some { s with store := Function.update s.store key none }

/-- Redis has no profile. -/
def start (tables : ProfileTables) : State where
  store _ := none
  tables := tables
  lookups := []

variable {s s' : State} {delivery : RedisLock.Delivery} {store : Store} {t t' : ProfileTables}
  {l : Lookup}

/-! ## Commands -/

theorem infoStr_of_checkValue {key infoStr : String}
    (h : checkValue delivery store (userPrefix ++ key) = some infoStr) :
    store (userPrefix ++ cString key) = some infoStr := by
  rw [← cString_userPrefix]
  exact BalanceServer.UserTokens.checkValue_eq_some h

theorem userPrefix_append_ne_empty (key : String) : userPrefix ++ key ≠ "" := by
  intro h
  have hlist := congrArg String.toList h
  rw [String.toList_append] at hlist
  exact absurd (List.append_eq_nil_iff.mp hlist).1 (by decide)

/-- The card is stored, or nothing is. -/
theorem setValue_cases (delivery : RedisLock.Delivery) (store : Store) {uuid : Nat} {key : String}
    (hkey : Text.readUInt64 key = some uuid) (info : UserNameCard) :
    let r := setValue delivery store (userPrefix ++ key) (Json.object info.redisRoot).compact
    r.2 = store ∨ r.2 =
      Function.update store (userPrefix ++ key) (some (Json.object info.redisRoot).compact) := by
  have hcString : cString (userPrefix ++ key) = userPrefix ++ key := by
    rw [cString_userPrefix, cString_of_readUInt64 hkey]
  unfold setValue
  rw [if_neg (userPrefix_append_ne_empty key), hcString, cString_redisRoot]
  cases delivery with
  | answered | replyLost => exact .inr rfl
  | notExecuted => exact .inl rfl

/-- A SET that is answered has stored the card. -/
theorem setValue_fst (delivery : RedisLock.Delivery) (store : Store) (key value : String) :
    (setValue delivery store (userPrefix ++ key) value).1 = true ↔ delivery = .answered := by
  unfold setValue
  rw [if_neg (userPrefix_append_ne_empty key)]
  cases delivery with
  | answered => exact ⟨fun _ => rfl, fun _ => rfl⟩
  | replyLost | notExecuted =>
    constructor
    · intro h
      cases h
    · intro h
      cases h

/-! ## The tables -/

/-- Rows stay as they are. -/
structure Grows (t t' : ProfileTables) : Prop where
  username : ∀ uuid name, t.username uuid = some name → t'.username uuid = some name
  card : ∀ uuid info, t.card uuid = some info → t'.card uuid = some info

theorem card_eq_some {uuid : Nat} {info : UserNameCard} :
    t.card uuid = some info ↔ ∃ username row, t.username uuid = some username ∧
      t.profile uuid = some row ∧ profileCard uuid username row = .ok info := by
  unfold ProfileTables.card
  simp only [Option.bind_eq_bind, Option.bind_eq_some_iff, Except.toOption]
  constructor
  · rintro ⟨username, husername, row, hrow, hcard⟩
    cases hinfo : profileCard uuid username row with
    | error e =>
      rw [hinfo] at hcard
      cases hcard
    | ok info' =>
      rw [hinfo] at hcard
      obtain rfl := Option.some.inj hcard
      exact ⟨username, row, husername, hrow, hinfo⟩
  · rintro ⟨username, row, husername, hrow, hcard⟩
    exact ⟨username, husername, row, hrow, by rw [hcard]⟩

theorem grows_refl (t : ProfileTables) : Grows t t :=
  ⟨fun _ _ h => h, fun _ _ h => h⟩

theorem grows_addAccount {uuid : Nat} (hnone : t.username uuid = none) (username : String) :
    Grows t { t with username := Function.update t.username uuid (some username) } := by
  have husername : ∀ u name, t.username u = some name →
      Function.update t.username uuid (some username) u = some name := by
    intro u name hname
    have hne : u ≠ uuid := by
      rintro rfl
      rw [hnone] at hname
      cases hname
    rw [Function.update_of_ne hne, hname]
  refine ⟨husername, fun u info hcard => ?_⟩
  obtain ⟨name, row, hname, hrow, hinfo⟩ := card_eq_some.mp hcard
  exact card_eq_some.mpr ⟨name, row, husername u name hname, hrow, hinfo⟩

theorem grows_addProfile {uuid : Nat} (hnone : t.profile uuid = none) (row : ProfileRow) :
    Grows t { t with profile := Function.update t.profile uuid (some row) } := by
  refine ⟨fun _ _ h => h, fun u info hcard => ?_⟩
  obtain ⟨name, row', hname, hrow, hinfo⟩ := card_eq_some.mp hcard
  have hne : u ≠ uuid := by
    rintro rfl
    rw [hnone] at hrow
    cases hrow
  exact card_eq_some.mpr ⟨name, row', hname, (Function.update_of_ne hne ..).trans hrow, hinfo⟩

/-! ## Cards in Redis and cards found -/

/-- The card of the user whose uuid is the text. -/
def HasCard (t : ProfileTables) (key : String) (info : UserNameCard) : Prop :=
  ∃ uuid, Text.readUInt64 key = some uuid ∧ t.card uuid = some info

theorem HasCard.grows {key : String} {info : UserNameCard} (h : HasCard t key info)
    (hgrows : Grows t t') : HasCard t' key info := by
  obtain ⟨uuid, hkey, hcard⟩ := h
  exact ⟨uuid, hkey, hgrows.card uuid info hcard⟩

theorem HasCard.unique {key : String} {info info' : UserNameCard} (h : HasCard t key info)
    (h' : HasCard t key info') : info = info' := by
  obtain ⟨uuid, hkey, hcard⟩ := h
  obtain ⟨uuid', hkey', hcard'⟩ := h'
  obtain rfl := Option.some.inj (hkey.symm.trans hkey')
  exact Option.some.inj (hcard.symm.trans hcard')

/-- The card found is, as it is sent, the one of the tables. -/
def FoundIn (t : ProfileTables) (key : String) (card : UserNameCard) : Prop :=
  ∃ info, HasCard t (cString key) info ∧ card.onWire = info.onWire

/-- What a lookup holds on its way is so in the tables. -/
def Fits (t : ProfileTables) (key : String) : Stage → Prop
  | .usernameByUUID uuid => Text.readUInt64 key = some uuid
  | .userProfile uuid username => Text.readUInt64 key = some uuid ∧ t.username uuid = some username
  | .setValue info => HasCard t key info
  | .ended (.found card) => FoundIn t key card
  | _ => True

/-- Every profile in Redis is the one of the tables. -/
def Stored (store : Store) (t : ProfileTables) : Prop :=
  ∀ key infoStr, store (userPrefix ++ key) = some infoStr →
    ∃ info, HasCard t key info ∧ infoStr = (Json.object info.redisRoot).compact

structure Inv (s : State) : Prop where
  stored : Stored s.store s.tables
  fits : ∀ l ∈ s.lookups, Fits s.tables l.key l.stage

theorem Fits.grows {key : String} {stage : Stage} (h : Fits t key stage) (hgrows : Grows t t') :
    Fits t' key stage := by
  unfold Fits at h ⊢
  split
  · exact h
  · exact ⟨h.1, hgrows.username _ _ h.2⟩
  · exact h.grows hgrows
  · obtain ⟨info, hcard, hwire⟩ := h
    exact ⟨info, hcard.grows hgrows, hwire⟩
  · trivial

theorem Stored.grows (h : Stored store t) (hgrows : Grows t t') : Stored store t' := by
  intro key infoStr hstore
  obtain ⟨info, hcard, htext⟩ := h key infoStr hstore
  exact ⟨info, hcard.grows hgrows, htext⟩

theorem Stored.set {key : String} {info : UserNameCard} (h : Stored store t)
    (hcard : HasCard t key info) :
    Stored (Function.update store (userPrefix ++ key) (some (Json.object info.redisRoot).compact))
      t := by
  intro key' infoStr hstore
  by_cases hkey : key' = key
  · subst hkey
    rw [Function.update_self] at hstore
    exact ⟨info, hcard, (Option.some.inj hstore).symm⟩
  · have hne : userPrefix ++ key' ≠ userPrefix ++ key := fun heq =>
      hkey ((String.append_right_inj userPrefix).mp heq)
    rw [Function.update_of_ne hne] at hstore
    exact h key' infoStr hstore

theorem Stored.evict (h : Stored store t) (key : String) :
    Stored (Function.update store key none) t := by
  intro key' infoStr hstore
  by_cases hkey : userPrefix ++ key' = key
  · rw [hkey, Function.update_self] at hstore
    cases hstore
  · rw [Function.update_of_ne hkey] at hstore
    exact h key' infoStr hstore

/-- Redis has the card: the lookup ends with it. -/
theorem found_of_stored {key infoStr : String} (h : Stored store t)
    (hcheck : checkValue delivery store (userPrefix ++ key) = some infoStr) :
    ∃ info, HasCard t (cString key) info ∧ cachedInfo infoStr = .found info.onWire := by
  obtain ⟨info, hcard, rfl⟩ := h _ infoStr (infoStr_of_checkValue hcheck)
  exact ⟨info, hcard, cachedInfo_redisRoot info⟩

theorem onWire_onWire (card : UserNameCard) : card.onWire.onWire = card.onWire := by
  unfold UserNameCard.onWire UserNameCard.sexByte
  rw [Nat.mod_mod]

/-! ## Steps -/

/-- What a lookup has become. -/
theorem inv_advance {stage : Stage} {store' : Store} (hstored : Stored store t)
    (hfits : Fits t l.key l.stage) (h : advance delivery store t l = some (store', stage)) :
    Stored store' t ∧ Fits t l.key stage := by
  unfold advance at h
  split at h
  · split at h
    · rename_i infoStr hcheck
      obtain ⟨rfl, rfl⟩ := Prod.mk.inj (Option.some.inj h)
      obtain ⟨info, hcard, hinfo⟩ := found_of_stored hstored hcheck
      rw [hinfo]
      exact ⟨hstored, info, hcard, onWire_onWire info⟩
    · split at h
      · obtain ⟨rfl, rfl⟩ := Prod.mk.inj (Option.some.inj h)
        exact ⟨hstored, trivial⟩
      · rename_i uuid huuid
        obtain ⟨rfl, rfl⟩ := Prod.mk.inj (Option.some.inj h)
        exact ⟨hstored, huuid⟩
  · rename_i uuid hstage
    rw [hstage] at hfits
    split at h
    · obtain ⟨rfl, rfl⟩ := Prod.mk.inj (Option.some.inj h)
      exact ⟨hstored, trivial⟩
    · rename_i username husername
      obtain ⟨rfl, rfl⟩ := Prod.mk.inj (Option.some.inj h)
      exact ⟨hstored, hfits, (Option.ite_none_right_eq_some.mp husername).2⟩
  · rename_i uuid username hstage
    rw [hstage] at hfits
    split at h
    · obtain ⟨rfl, rfl⟩ := Prod.mk.inj (Option.some.inj h)
      exact ⟨hstored, trivial⟩
    · rename_i row hrow
      split at h
      · obtain ⟨rfl, rfl⟩ := Prod.mk.inj (Option.some.inj h)
        exact ⟨hstored, trivial⟩
      · rename_i info hinfo
        obtain ⟨rfl, rfl⟩ := Prod.mk.inj (Option.some.inj h)
        exact ⟨hstored, uuid, hfits.1, card_eq_some.mpr
          ⟨username, row, hfits.2, (Option.ite_none_right_eq_some.mp hrow).2, hinfo⟩⟩
  · rename_i info hstage
    rw [hstage] at hfits
    simp only [Option.some.injEq, Prod.mk.injEq] at h
    obtain ⟨rfl, rfl⟩ := h
    obtain ⟨uuid, hkey, hcard⟩ := hfits
    refine ⟨?_, ?_⟩
    · rcases setValue_cases delivery store hkey info with heq | heq
      · rw [heq]
        exact hstored
      · rw [heq]
        exact hstored.set ⟨uuid, hkey, hcard⟩
    · split
      · exact ⟨info, by rw [cString_of_readUInt64 hkey]; exact ⟨uuid, hkey, hcard⟩, rfl⟩
      · trivial
  · cases h

theorem run_eq_some {i : Nat} :
    step s (.run i delivery) = some s' ↔ ∃ l store stage, s.lookups[i]? = some l ∧
      advance delivery s.store s.tables l = some (store, stage) ∧
        s' = { s with store := store, lookups := s.lookups.set i { l with stage := stage } } := by
  unfold step
  simp only [Option.bind_eq_bind, Option.bind_eq_some_iff]
  constructor
  · rintro ⟨l, hl, ⟨store, stage⟩, hadvance, heq⟩
    exact ⟨l, store, stage, hl, hadvance, (Option.some.inj heq).symm⟩
  · rintro ⟨l, store, stage, hl, hadvance, rfl⟩
    exact ⟨l, hl, (store, stage), hadvance, rfl⟩

theorem Inv.grows (h : Inv s) (hgrows : Grows s.tables t) : Inv { s with tables := t } :=
  ⟨h.stored.grows hgrows, fun l hl => (h.fits l hl).grows hgrows⟩

theorem inv_step {e : Event} (h : Inv s) (hstep : step s e = some s') : Inv s' := by
  cases e with
  | getUserBasicInfo key =>
    obtain rfl := Option.some.inj hstep
    refine ⟨h.stored, fun l hl => ?_⟩
    rcases List.mem_append.mp hl with hl | hl
    · exact h.fits l hl
    · obtain rfl := List.mem_singleton.mp hl
      trivial
  | run i delivery =>
    obtain ⟨l, store, stage, hl, hadvance, rfl⟩ := run_eq_some.mp hstep
    obtain ⟨hstored, hfits⟩ := inv_advance h.stored (h.fits l (List.mem_of_getElem? hl)) hadvance
    refine ⟨hstored, fun l' hl' => ?_⟩
    rcases List.mem_or_eq_of_mem_set hl' with hl' | rfl
    · exact h.fits l' hl'
    · exact hfits
  | addAccount uuid username =>
    obtain ⟨hnone, heq⟩ := Option.ite_none_right_eq_some.mp hstep
    obtain rfl := Option.some.inj heq
    exact h.grows (grows_addAccount hnone username)
  | addProfile uuid row =>
    obtain ⟨hnone, heq⟩ := Option.ite_none_right_eq_some.mp hstep
    obtain rfl := Option.some.inj heq
    exact h.grows (grows_addProfile hnone.1 row)
  | evict key =>
    obtain rfl := Option.some.inj hstep
    exact ⟨h.stored.evict key, h.fits⟩

theorem inv_start (t : ProfileTables) : Inv (start t) :=
  ⟨fun _ _ h => (by cases h), fun _ h => (by cases h)⟩

/-- A lookup that ends with a card ends, as far as it is sent on, with the card that the tables have
    for the uuid. -/
theorem found_in_tables (h : Trace.Reaches step (start t) s) :
    ∀ l ∈ s.lookups, ∀ card, l.stage = .ended (.found card) → FoundIn s.tables l.key card := by
  intro l hl card hstage
  have hfits := (Trace.invariant Inv (fun _ _ _ => inv_step) (inv_start t) h).fits l hl
  rw [hstage] at hfits
  exact hfits

/-- A user with a profile whose sex is no byte. -/
def oneUser : ProfileTables where
  username uuid := if uuid = 7 then some "alice" else none
  profile uuid := if uuid = 7 then some ⟨some "a.png", some "al", some "", some (-1)⟩ else none

/-- The card is not in Redis. -/
def oneLookup : List Event :=
  [.getUserBasicInfo "7", .run 0 .answered, .run 0 .answered, .run 0 .answered, .run 0 .answered]

theorem found_in_tables_oneLookup :
    ∃ s, Trace.exec step (start oneUser) oneLookup = some s ∧
      FoundIn s.tables "7" ⟨2 ^ 32 - 1, "7", "a.png", "alice", "al", ""⟩ := by
  refine ⟨_, rfl, found_in_tables (t := oneUser) ⟨oneLookup, rfl⟩
    ⟨"7", .ended (.found ⟨2 ^ 32 - 1, "7", "a.png", "alice", "al", ""⟩),
      some ⟨2 ^ 32 - 1, "7", "a.png", "alice", "al", ""⟩⟩ ?_ _ rfl⟩
  exact List.mem_cons_self ..

/-! ## Profiles that are there -/

/-- A profile that was there when its lookup began is found. -/
def FindsExisting (s : State) : Prop :=
  ∀ l ∈ s.lookups, ∀ info, l.there = some info → ∀ info', l.stage = .ended info' →
    ∃ card, info' = .found card ∧ card.onWire = info.onWire

/-- No statement and no SET of such a lookup fails. -/
def Serves (s : State) : Event → Prop
  | .run i delivery => ∀ l, s.lookups[i]? = some l → l.there ≠ none → l.stage ≠ .checkValue →
      delivery = .answered
  | _ => True

/-- The lookup of a profile that is there is on its way to it. -/
def Finds (t : ProfileTables) (l : Lookup) : Prop :=
  ∀ info, l.there = some info → HasCard t l.key info ∧
    l.stage ≠ .ended .notFound ∧ l.stage ≠ .ended .throws

theorem finds_advance {stage : Stage} {store' : Store} (hstored : Stored store t)
    (hfits : Fits t l.key l.stage) (hfinds : Finds t l)
    (hanswered : l.there ≠ none → l.stage ≠ .checkValue → delivery = .answered)
    (h : advance delivery store t l = some (store', stage)) :
    Finds t { l with stage := stage } := by
  intro info hthere
  obtain ⟨hcard, -, -⟩ := hfinds info hthere
  obtain ⟨uuid, hkey, huuid⟩ := hcard
  obtain ⟨username, row, husername, hrow, hinfo⟩ := card_eq_some.mp huuid
  refine ⟨⟨uuid, hkey, huuid⟩, ?_⟩
  have hthere' : l.there ≠ none := by
    rw [hthere]
    exact Option.some_ne_none _
  unfold advance at h
  split at h
  · split at h
    · rename_i infoStr hcheck
      obtain ⟨rfl, rfl⟩ := Prod.mk.inj (Option.some.inj h)
      obtain ⟨info', -, hinfo'⟩ := found_of_stored hstored hcheck
      rw [hinfo']
      exact ⟨by simp, by simp⟩
    · rw [hkey] at h
      obtain ⟨rfl, rfl⟩ := Prod.mk.inj (Option.some.inj h)
      exact ⟨by simp, by simp⟩
  · rename_i uuid' hstage
    rw [hstage] at hfits
    obtain rfl := Option.some.inj (hkey.symm.trans hfits)
    rw [hanswered hthere' (by simp [hstage]), husername] at h
    obtain ⟨rfl, rfl⟩ := Prod.mk.inj (Option.some.inj h)
    exact ⟨by simp, by simp⟩
  · rename_i uuid' username' hstage
    rw [hstage] at hfits
    obtain ⟨hkey', husername'⟩ := hfits
    obtain rfl := Option.some.inj (hkey.symm.trans hkey')
    obtain rfl := Option.some.inj (husername.symm.trans husername')
    rw [hanswered hthere' (by simp [hstage]), hrow] at h
    dsimp only [executeCommand] at h
    rw [if_pos rfl] at h
    dsimp only at h
    rw [hinfo] at h
    obtain ⟨rfl, rfl⟩ := Prod.mk.inj (Option.some.inj h)
    exact ⟨by simp, by simp⟩
  · rename_i info' hstage
    have hsuccess := (setValue_fst delivery store l.key
      (Json.object info'.redisRoot).compact).mpr
        (hanswered hthere' (by simp [hstage]))
    simp only [Option.some.injEq, Prod.mk.injEq] at h
    obtain ⟨rfl, rfl⟩ := h
    rw [hsuccess, if_pos rfl]
    exact ⟨by simp, by simp⟩
  · cases h

/-- A command that fails behind the GET ends the lookup without a card. -/
theorem advance_of_not_answered {stage : Stage} {store' : Store}
    (hstage : l.stage ≠ .checkValue) (hdelivery : delivery ≠ .answered)
    (h : advance delivery store t l = some (store', stage)) : stage = .ended .notFound := by
  unfold advance at h
  split at h
  · rename_i hcheck
    exact absurd hcheck hstage
  · have hnone : executeCommand delivery (t.username ‹Nat›) = none := if_neg hdelivery
    rw [hnone] at h
    exact (Prod.mk.inj (Option.some.inj h)).2.symm
  · have hnone : executeCommand delivery (t.profile ‹Nat›) = none := if_neg hdelivery
    rw [hnone] at h
    exact (Prod.mk.inj (Option.some.inj h)).2.symm
  · rename_i info _
    have hfails := mt (setValue_fst delivery store l.key
      (Json.object info.redisRoot).compact).mp hdelivery
    simp only [Option.some.injEq, Prod.mk.injEq] at h
    rw [if_neg hfails] at h
    exact h.2.symm
  · cases h

theorem Finds.grows (h : Finds t l) (hgrows : Grows t t') : Finds t' l := by
  intro info hthere
  obtain ⟨hcard, hends⟩ := h info hthere
  exact ⟨hcard.grows hgrows, hends⟩

theorem grows_step {e : Event} (hstep : step s e = some s') : Grows s.tables s'.tables := by
  cases e with
  | getUserBasicInfo key | evict key =>
    obtain rfl := Option.some.inj hstep
    exact grows_refl _
  | run i delivery =>
    obtain ⟨l, store, stage, -, -, rfl⟩ := run_eq_some.mp hstep
    exact grows_refl _
  | addAccount uuid username =>
    obtain ⟨hnone, heq⟩ := Option.ite_none_right_eq_some.mp hstep
    obtain rfl := Option.some.inj heq
    exact grows_addAccount hnone username
  | addProfile uuid row =>
    obtain ⟨hnone, heq⟩ := Option.ite_none_right_eq_some.mp hstep
    obtain rfl := Option.some.inj heq
    exact grows_addProfile hnone.1 row

theorem finds_step {e : Event} (h : Inv s) (hfinds : ∀ l ∈ s.lookups, Finds s.tables l)
    (hserves : Serves s e) (hstep : step s e = some s') : ∀ l ∈ s'.lookups, Finds s'.tables l := by
  have hgrows := grows_step hstep
  have hold : ∀ l ∈ s.lookups, Finds s'.tables l := fun l hl => (hfinds l hl).grows hgrows
  cases e with
  | getUserBasicInfo key =>
    obtain rfl := Option.some.inj hstep
    intro l hl
    rcases List.mem_append.mp hl with hl | hl
    · exact hold l hl
    · obtain rfl := List.mem_singleton.mp hl
      intro info hthere
      exact ⟨Option.bind_eq_some_iff.mp hthere, by simp, by simp⟩
  | run i delivery =>
    obtain ⟨l, store, stage, hl, hadvance, rfl⟩ := run_eq_some.mp hstep
    intro l' hl'
    have hmem := List.mem_of_getElem? hl
    rcases List.mem_or_eq_of_mem_set hl' with hl' | rfl
    · exact hold l' hl'
    · exact finds_advance h.stored (h.fits l hmem) (hfinds l hmem) (hserves l hl) hadvance
  | addAccount uuid username =>
    obtain ⟨-, heq⟩ := Option.ite_none_right_eq_some.mp hstep
    obtain rfl := Option.some.inj heq
    exact hold
  | addProfile uuid row =>
    obtain ⟨-, heq⟩ := Option.ite_none_right_eq_some.mp hstep
    obtain rfl := Option.some.inj heq
    exact hold
  | evict key =>
    obtain rfl := Option.some.inj hstep
    exact hold

/-- In every state of a run each profile that was there when its lookup began is found, exactly if
    no step of the run lets a statement or the SET of such a lookup fail. -/
theorem always_findsExisting_iff (t : ProfileTables) (es : List Event) :
    Trace.Always step FindsExisting (start t) es ↔ Trace.Meets step Serves (start t) es := by
  refine Trace.always_iff_meets (fun s => Inv s ∧ ∀ l ∈ s.lookups, Finds s.tables l)
    ?finds ?good ?bad ⟨inv_start t, fun _ h => (by cases h)⟩ es
  case finds =>
    rintro s ⟨h, hfinds⟩ l hl info hthere info' hstage
    obtain ⟨⟨uuid, hkey, hcard⟩, hnotFound, hthrows⟩ := hfinds l hl info hthere
    cases info' with
    | throws => exact absurd hstage hthrows
    | notFound => exact absurd hstage hnotFound
    | found card =>
      have hfits := h.fits l hl
      rw [hstage] at hfits
      obtain ⟨info', hcard', hwire⟩ := hfits
      rw [cString_of_readUInt64 hkey] at hcard'
      rw [HasCard.unique ⟨uuid, hkey, hcard⟩ hcard']
      exact ⟨card, rfl, hwire⟩
  case good =>
    rintro s e s' ⟨h, hfinds⟩ hserves hstep
    exact ⟨inv_step h hstep, finds_step h hfinds hserves hstep⟩
  case bad =>
    rintro s e s' ⟨h, hfinds⟩ hfails hstep hexisting
    cases e with
    | run i delivery =>
      unfold Serves at hfails
      push Not at hfails
      obtain ⟨l₀, hl₀, hthere, hstage, hdelivery⟩ := hfails
      obtain ⟨l, store, stage, hl, hadvance, rfl⟩ := run_eq_some.mp hstep
      obtain rfl := Option.some.inj (hl₀.symm.trans hl)
      obtain ⟨info, hinfo⟩ := Option.ne_none_iff_exists'.mp hthere
      have hend := advance_of_not_answered hstage hdelivery hadvance
      have hlt := (List.getElem?_eq_some_iff.mp hl).1
      obtain ⟨card, hcard, -⟩ := hexisting { l₀ with stage := stage }
        (List.mem_set hlt _) info hinfo .notFound hend
      cases hcard
    | getUserBasicInfo _ | addAccount _ _ | addProfile _ _ | evict _ => exact hfails trivial

end UserBasicInfo

end DistributedIM.ChattingServer
