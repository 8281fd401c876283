/-
  Which replies a request gets: heartbeats and searches for a user, and the pull requests, private
  chats and friend requests of the other modules, for every body.

  A body that is no object is reported by `parseJson` as an error of `SERVICE_FRIENDSENDERRESPONSE`,
  and the handler goes on with the empty object. A field of another type makes `value_to` throw, and
  `std::stoi` throws on a number that is larger than an `int`, although `string_to_value` has read
  it as 64 bits; `execute` then logs and nothing is sent. `repliesOnce_iff_answerable` says for each
  handler when exactly one reply of its own type is sent.

  The statements of a request do not fail. What the profile of a user reads as is the environment's.
-/
import DistributedIM.ChattingServer.ChatRecords
import DistributedIM.ChattingServer.FriendRequests
import DistributedIM.ChattingServer.PrivateChats

namespace DistributedIM.ChattingServer

open Transaction (Store Conn Call Ending)

/-! ## Heartbeats -/

inductive HeartBeatReply
  | error (message : ErrorMessage)
  | success
  deriving DecidableEq, Repr

/-- The uuid is read and not used. -/
def handlingHeartBeat (body : Option Json) : List HeartBeatReply :=
  let (errors, root) := parseJson body
  errors.map .error ++
    match textField root "uuid" with
    | .error refusal => refusal.toList.map .error
    | .ok _ => [.success]

/-! ## Searches -/

inductive UserSearchReply
  | error (message : ErrorMessage)
  | found (card : UserNameCard)
  deriving DecidableEq, Repr

/-- A search that has been read. -/
def searchUser (getUUIDByUsername : String → Option Nat) (env : HandlerEnv) (username : String) :
    List UserSearchReply :=
  let notFound : UserSearchReply := .error ⟨.searchUsernameResponse, .searchingUsernameNotFound⟩
  match getUUIDByUsername username with
  | none => [notFound]
  | some uuid =>
    match env.userBasicInfo uuid.repr with
    | .throws => []
    | .notFound => [notFound]
    | .found card => [.found card]

def readUserSearch (root : Json.Object) : Reading String := do
  requireFields root ["username"] ⟨.searchUsernameResponse, .loginUnsuccessful⟩
  textField root "username"

def handlingUserSearch (getUUIDByUsername : String → Option Nat) (env : HandlerEnv)
    (body : Option Json) : List UserSearchReply :=
  let (errors, root) := parseJson body
  errors.map .error ++
    match readUserSearch root with
    | .error refusal => refusal.toList.map .error
    | .ok username => searchUser getUUIDByUsername env username

/-! ## The types of replies -/

def HeartBeatReply.type : HeartBeatReply → ResponseType
  | .error message => message.type
  | .success => .heartbeatResponse

def UserSearchReply.type : UserSearchReply → ResponseType
  | .error message => message.type
  | .found _ => .searchUsernameResponse

def PullReply.type : PullReply → ResponseType
  | .error message => message.type
  | .threads _ => .pullChatThreadResponse
  | .records .. => .pullChatRecordResponse

def PrivateChatReply.type : PrivateChatReply → ResponseType
  | .error message => message.type
  | .success .. => .createNewPrivateChatResponse

def FriendSenderReply.type : FriendSenderReply → ResponseType
  | .error message => message.type
  | .success .. => .friendSenderResponse

/-- The handlers, and what a request of each is answered with. -/
inductive Handler
  | heartBeat
  | userSearch
  | userChatTheads
  | userChatMessage
  | createNewPrivateChat
  | friendRequestCreator
  deriving DecidableEq, Repr

def Handler.responseType : Handler → ResponseType
  | .heartBeat => .heartbeatResponse
  | .userSearch => .searchUsernameResponse
  | .userChatTheads => .pullChatThreadResponse
  | .userChatMessage => .pullChatRecordResponse
  | .createNewPrivateChat => .createNewPrivateChatResponse
  | .friendRequestCreator => .friendSenderResponse

/-- What a request meets: the servers, the session it comes from, and the database. -/
structure Situation where
  cluster : Cluster
  sid : SessionId
  env : HandlerEnv
  driver : MySqlDriver
  sql : MySql
  store : DbStore
  getUUIDByUsername : String → Option Nat

/-- The types of what the requesting session is sent; the connection has no faults. -/
def replyTypes (σ : Situation) (body : Option Json) : Handler → List ResponseType
  | .heartBeat => (handlingHeartBeat body).map HeartBeatReply.type
  | .userSearch => (handlingUserSearch σ.getUUIDByUsername σ.env body).map UserSearchReply.type
  | .userChatTheads => (handlingPullChatThread σ.driver σ.store.tables body).map PullReply.type
  | .userChatMessage => (handlingUserChatMessage σ.driver σ.store.tables body).map PullReply.type
  | .createNewPrivateChat =>
    (handlingCreateNewPrivateChat σ.sql body ⟨σ.store, []⟩).replies.map PrivateChatReply.type
  | .friendRequestCreator =>
    (handlingFriendRequestCreator σ.cluster σ.sid σ.env body ⟨σ.store, []⟩).replies.map
      FriendSenderReply.type

/-- One message, of the request's own type. -/
def RepliesOnce (σ : Situation) (body : Option Json) (handler : Handler) : Prop :=
  replyTypes σ body handler = [handler.responseType]

/-! ## When a request is answered -/

def IsText (root : Json.Object) (key : String) : Prop :=
  (root.get key).asText.isSome

/-- If both fields are there they are texts, for which `P` holds. -/
def TwoTexts (root : Json.Object) (first second : String) (P : String → String → Prop) : Prop :=
  root.contains first = true ∧ root.contains second = true →
    ∃ a b, (root.get first).asText = some a ∧ (root.get second).asText = some b ∧ P a b

/-- If both texts are decimal numbers of 64 bits they fit in an `int`, and `P` holds. -/
def TwoInts (P : Nat → Nat → Prop) (a b : String) : Prop :=
  (Text.readUInt64 a).isSome ∧ (Text.readUInt64 b).isSome →
    ∃ i j, Text.stoi a = some i ∧ Text.stoi b = some j ∧ P i.toNat j.toNat

namespace Situation

variable (σ : Situation)

/-- The list of threads has no rows, or can be read. -/
def ReadsThreads (self cur : Nat) : Prop :=
  σ.driver.readsThreads = true ∨ self ∉ σ.store.tables.authentication ∨
    allThreads σ.store.tables self cur = []

/-- The page of messages has no rows, or counts none as affected, or can be read. -/
def ReadsRecords (thread msg : Nat) : Prop :=
  σ.driver.readsRecords = true ∨ getUserChatRecords σ.store.tables thread msg 11 = [] ∨
    σ.driver.selectAffected (getUserChatRecords σ.store.tables thread msg 11).length = 0

/-- The users are not both registered, or they have no private chat yet. -/
def OpensChat (a b : Nat) : Prop :=
  ¬(a ∈ σ.store.tables.authentication ∧ b ∈ σ.store.tables.authentication ∧
    HasPrivateChat σ.store.tables a b)

/-- The profile of a user is found to be missing, or can be read. -/
def FindsUser (username : String) : Prop :=
  ∀ uuid ∈ σ.getUUIDByUsername username, σ.env.userBasicInfo uuid.repr ≠ .throws

/-- A request to oneself, or of numbers; if it is stored and the other user is on some server, the
    profile of the sender can be read. -/
def SendsRequest (srcUuid dstUuid : String) : Prop :=
  srcUuid = dstUuid ∨ ∃ src dst, Text.readUInt64 srcUuid = some src ∧
    Text.readUInt64 dstUuid = some dst ∧
    (src ≠ dst ∧ src ∈ σ.store.tables.authentication ∧ dst ∈ σ.store.tables.authentication →
      σ.cluster.redis.checkValue dstUuid σ.env.get ≠ none →
        σ.env.userBasicInfo srcUuid ≠ .throws)

/-- What an object has to have. -/
def Accepts (root : Json.Object) : Handler → Prop
  | .heartBeat => IsText root "uuid"
  | .userSearch =>
    root.contains "username" = true →
      ∃ username, (root.get "username").asText = some username ∧ σ.FindsUser username
  | .userChatTheads => TwoTexts root "uuid" "thread_id" (TwoInts σ.ReadsThreads)
  | .userChatMessage => TwoTexts root "thread_id" "msg_id" (TwoInts σ.ReadsRecords)
  | .createNewPrivateChat => TwoTexts root "my_uuid" "friend_uuid" (TwoInts σ.OpensChat)
  | .friendRequestCreator =>
    IsText root "message" ∧ IsText root "nickname" ∧
      ∃ src dst, (root.get "src_uuid").asText = some src ∧
        (root.get "dst_uuid").asText = some dst ∧ σ.SendsRequest src dst

end Situation

/-- A request that can be answered: an object with the fields its handler goes on. -/
def Answerable (σ : Situation) (body : Option Json) (handler : Handler) : Prop :=
  ∃ root, body = some (.object root) ∧ σ.Accepts root handler

/-- Without a reply there is not exactly one. -/
theorem noReply_iff {type : ResponseType} {P : Prop} (h : ¬P) : [] = [type] ↔ P :=
  iff_of_false (List.cons_ne_nil _ _).symm h

/-! ## Reading -/

theorem textField_of_text {root : Json.Object} {key text : String}
    (h : (root.get key).asText = some text) : textField root key = .ok text := by
  rw [textField, h]
  rfl

theorem textField_of_none {root : Json.Object} {key : String}
    (h : (root.get key).asText = none) : textField root key = .error none := by
  rw [textField, h]
  rfl

theorem requireFields_two {root : Json.Object} {first second : String}
    (h : root.contains first = true ∧ root.contains second = true) (error : ErrorMessage) :
    requireFields root [first, second] error = .ok () := by
  simp [requireFields, h.1, h.2]
  rfl

theorem requireFields_not_two {root : Json.Object} {first second : String}
    (h : ¬(root.contains first = true ∧ root.contains second = true)) (error : ErrorMessage) :
    requireFields root [first, second] error = .error (some error) := by
  rw [requireFields, if_neg (by simpa using h)]
  rfl

/-- A field is read before the answer. An exception is not answered. -/
theorem answer_textField_iff {α : Type} (answer : Reading α → List ResponseType)
    (hthrow : answer (.error none) = []) {root : Json.Object} {key : String}
    {f : String → Reading α} {type : ResponseType} :
    answer (textField root key >>= f) = [type] ↔
      ∃ text, (root.get key).asText = some text ∧ answer (f text) = [type] := by
  cases htext : (root.get key).asText with
  | none =>
    rw [textField_of_none htext]
    change answer (.error none) = _ ↔ _
    rw [hthrow]
    refine noReply_iff ?_
    rintro ⟨text, h, -⟩
    cases h
  | some text =>
    rw [textField_of_text htext]
    constructor
    · intro h
      exact ⟨text, rfl, h⟩
    · rintro ⟨text', heq, h⟩
      obtain rfl := Option.some.inj heq
      exact h

/-- What a request with two texts is answered with. -/
def answerTwo (root : Json.Object) (first second : String) (type : ResponseType)
    (f : String → String → List ResponseType) : List ResponseType :=
  match readPull root first second type with
  | .error refusal => refusal.toList.map ErrorMessage.type
  | .ok (a, b) => f a b

theorem answerTwo_iff {root : Json.Object} {first second : String} {type : ResponseType}
    {f : String → String → List ResponseType} {P : String → String → Prop}
    (hf : ∀ a b, f a b = [type] ↔ P a b) :
    answerTwo root first second type f = [type] ↔ TwoTexts root first second P := by
  by_cases hfields : root.contains first = true ∧ root.contains second = true
  · let answer : Reading (String × String) → List ResponseType
      | .error refusal => refusal.toList.map ErrorMessage.type
      | .ok (a, b) => f a b
    have hanswer : answerTwo root first second type f = answer (do
        let a ← textField root first
        let b ← textField root second
        return (a, b)) := by
      rw [answerTwo, readPull, requireFields_two hfields]
      rfl
    rw [hanswer, answer_textField_iff answer rfl, TwoTexts, imp_iff_right hfields]
    simp only [answer_textField_iff answer rfl]
    constructor
    · rintro ⟨a, ha, b, hb, h⟩
      exact ⟨a, b, ha, hb, (hf a b).mp h⟩
    · rintro ⟨a, b, ha, hb, h⟩
      exact ⟨a, ha, b, hb, (hf a b).mpr h⟩
  · have hread : readPull root first second type = .error (some ⟨type, .jsonparseError⟩) := by
      rw [readPull, requireFields_not_two hfields]
      rfl
    rw [answerTwo, hread]
    exact iff_of_true rfl fun h => absurd h hfields

/-- What two numbers are answered with: an error if they are none. -/
def answerInts (type : ResponseType) (f : Nat → Nat → List ResponseType) (a b : String) :
    List ResponseType :=
  if (Text.readUInt64 a).isNone || (Text.readUInt64 b).isNone then [type]
  else
    match Text.stoi a, Text.stoi b with
    | some i, some j => f i.toNat j.toNat
    | _, _ => []

theorem answerInts_iff {type : ResponseType} {f : Nat → Nat → List ResponseType}
    {P : Nat → Nat → Prop} (hf : ∀ i j, f i j = [type] ↔ P i j) (a b : String) :
    answerInts type f a b = [type] ↔ TwoInts P a b := by
  unfold answerInts TwoInts
  by_cases hnumbers : (Text.readUInt64 a).isSome ∧ (Text.readUInt64 b).isSome
  · rw [imp_iff_right hnumbers, if_neg (by simpa [Option.isSome_iff_ne_none] using hnumbers)]
    cases ha : Text.stoi a with
    | none =>
      refine noReply_iff ?_
      rintro ⟨i, j, hi, -⟩
      cases hi
    | some i =>
      cases hb : Text.stoi b with
      | none =>
        refine noReply_iff ?_
        rintro ⟨i, j, -, hj, -⟩
        cases hj
      | some j =>
        dsimp only
        rw [hf]
        constructor
        · exact fun h => ⟨i, j, rfl, rfl, h⟩
        · rintro ⟨i', j', hi, hj, h⟩
          obtain rfl := Option.some.inj hi
          obtain rfl := Option.some.inj hj
          exact h
  · rw [if_pos (by simpa [Option.isSome_iff_ne_none, imp_iff_not_or] using hnumbers)]
    exact iff_of_true rfl fun h => absurd h hnumbers

/-! ## Pull requests -/

/-- The types of the replies to a pull request. -/
theorem map_type_readPull {root : Json.Object} {first second : String} {type : ResponseType}
    {pull : String → String → List PullReply} {f : String → String → List ResponseType}
    (hpull : ∀ a b, (pull a b).map PullReply.type = f a b) :
    (match readPull root first second type with
      | .error refusal => refusal.toList.map PullReply.error
      | .ok (a, b) => pull a b).map PullReply.type = answerTwo root first second type f := by
  unfold answerTwo
  cases readPull root first second type with
  | error refusal => cases refusal <;> rfl
  | ok texts => exact hpull texts.1 texts.2

variable (σ : Situation)

def threadTypes (self cur : Nat) : List ResponseType :=
  match getUserChattingThreadIdx σ.store.tables self cur 10 with
  | none => [.pullChatThreadResponse]
  | some _ => if σ.driver.readsThreads then [.pullChatThreadResponse] else []

theorem threadTypes_iff (self cur : Nat) :
    threadTypes σ self cur = [.pullChatThreadResponse] ↔ σ.ReadsThreads self cur := by
  rw [threadTypes, getUserChattingThreadIdx_eq _ self cur (by decide), Situation.ReadsThreads]
  by_cases hrows : self ∈ σ.store.tables.authentication ∧
      allThreads σ.store.tables self cur ≠ []
  · rw [if_pos hrows]
    cases hreads : σ.driver.readsThreads with
    | true => simp
    | false => simpa using hrows
  · rw [if_neg hrows]
    refine iff_of_true rfl (.inr ?_)
    rw [not_and, not_not] at hrows
    exact imp_iff_not_or.mp hrows

theorem map_type_pullThreads (a b : String) :
    (pullThreads σ.driver σ.store.tables a b).map PullReply.type =
      answerInts .pullChatThreadResponse (threadTypes σ) a b := by
  unfold pullThreads handlingUserChatTheads answerInts threadTypes
  by_cases hnumbers : ((Text.readUInt64 a).isNone || (Text.readUInt64 b).isNone) = true
  · rw [if_pos hnumbers, if_pos hnumbers]
    rfl
  · rw [if_neg hnumbers, if_neg hnumbers]
    cases Text.stoi a with
    | none => rfl
    | some i =>
      cases Text.stoi b with
      | none => rfl
      | some j =>
        dsimp only
        cases getUserChattingThreadIdx σ.store.tables i.toNat j.toNat 10 with
        | none => rfl
        | some page => cases σ.driver.readsThreads <;> rfl

theorem repliesOnce_userChatTheads (root : Json.Object) :
    RepliesOnce σ (some (.object root)) .userChatTheads ↔ σ.Accepts root .userChatTheads := by
  have htypes : replyTypes σ (some (.object root)) .userChatTheads =
      answerTwo root "uuid" "thread_id" .pullChatThreadResponse
        (answerInts .pullChatThreadResponse (threadTypes σ)) :=
    map_type_readPull (map_type_pullThreads σ)
  rw [RepliesOnce, htypes]
  exact answerTwo_iff (answerInts_iff (threadTypes_iff σ))

def recordTypes (thread msg : Nat) : List ResponseType :=
  match getChattingHistoryRecord σ.driver σ.store.tables thread msg 10 with
  | .error _ => []
  | .ok _ => [.pullChatRecordResponse]

theorem recordTypes_iff (thread msg : Nat) :
    recordTypes σ thread msg = [.pullChatRecordResponse] ↔ σ.ReadsRecords thread msg := by
  unfold recordTypes Situation.ReadsRecords
  rw [getChattingHistoryRecord_eq _ _ thread msg (by decide), recordsOf]
  generalize getUserChatRecords σ.store.tables thread msg 11 = rows
  by_cases haffected : σ.driver.selectAffected rows.length = 0
  · rw [if_pos haffected]
    exact iff_of_true rfl (.inr (.inr haffected))
  · rw [if_neg haffected]
    cases rows with
    | nil => exact iff_of_true rfl (.inr (.inl rfl))
    | cons row rows =>
      cases hreads : σ.driver.readsRecords with
      | true =>
        refine iff_of_true ?_ (.inl rfl)
        by_cases hmore : 10 < (row :: rows).length
        · rw [if_neg (by simp), if_pos rfl, if_pos hmore]
          rfl
        · rw [if_neg (by simp), if_pos rfl, if_neg hmore]
          rfl
      | false =>
        refine noReply_iff ?_
        rintro (hfalse | hnil | hzero)
        · cases hfalse
        · cases hnil
        · exact haffected hzero

theorem map_type_pullRecords (a b : String) :
    (pullRecords σ.driver σ.store.tables a b).map PullReply.type =
      answerInts .pullChatRecordResponse (recordTypes σ) a b := by
  unfold pullRecords answerInts recordTypes
  by_cases hnumbers : ((Text.readUInt64 a).isNone || (Text.readUInt64 b).isNone) = true
  · rw [if_pos hnumbers, if_pos hnumbers]
    rfl
  · rw [if_neg hnumbers, if_neg hnumbers]
    cases Text.stoi a with
    | none => rfl
    | some i =>
      cases Text.stoi b with
      | none => rfl
      | some j =>
        dsimp only
        cases getChattingHistoryRecord σ.driver σ.store.tables i.toNat j.toNat 10 with
        | error err => rfl
        | ok page => cases page <;> rfl

theorem repliesOnce_userChatMessage (root : Json.Object) :
    RepliesOnce σ (some (.object root)) .userChatMessage ↔ σ.Accepts root .userChatMessage := by
  have htypes : replyTypes σ (some (.object root)) .userChatMessage =
      answerTwo root "thread_id" "msg_id" .pullChatRecordResponse
        (answerInts .pullChatRecordResponse (recordTypes σ)) :=
    map_type_readPull (map_type_pullRecords σ)
  rw [RepliesOnce, htypes]
  exact answerTwo_iff (answerInts_iff (recordTypes_iff σ))

/-! ## Private chats -/

/-- A call throws only if it reads the row of the pair. -/
theorem createNewPrivateChat_error {sql : MySql} {a b : Nat} {c c' : DbConn} {err : Exn}
    (h : createNewPrivateChat sql a b c = (.error err, c')) :
    a ∈ c.store.tables.authentication ∧ b ∈ c.store.tables.authentication ∧
      HasPrivateChat c.store.tables a b := by
  unfold createNewPrivateChat at h
  obtain ⟨res1, m₁, h₁, hfound₁, h⟩ := bind_userUuidCheck h
  obtain ⟨res2, m₂, h₂, hfound₂, h⟩ := bind_userUuidCheck h
  rw [h₁] at hfound₂
  split at h
  · cases (Prod.mk.inj h).1
  rename_i hsome
  rw [Bool.or_eq_true, Option.isNone_iff_eq_none, Option.isNone_iff_eq_none, not_or] at hsome
  refine ⟨(hfound₁ (Option.isSome_iff_ne_none.mpr hsome.1)).1,
    (hfound₂ (Option.isSome_iff_ne_none.mpr hsome.2)).1, ?_⟩
  obtain ⟨b, -, hr⟩ | ⟨-, hr⟩ | ⟨e, hne, hguard, -⟩ := Call.catching_cases h
  · cases hr
  · cases hr
  obtain ⟨c₁, c₂, hc₁, hbody⟩ := Call.guarded_eq_error hguard hne
  obtain ⟨e', hcheck, -⟩ | ⟨existing, m₃, hcheck, hbody⟩ := Call.bind_cases hbody
  · obtain ⟨found, m₃, -, hfound, hcheck⟩ := bind_select hcheck
    cases found with
    | none => cases (Prod.mk.inj hcheck).1
    | some rows =>
      obtain ⟨hrows, hsome⟩ := hfound rows rfl
      obtain ⟨p, hp⟩ := List.exists_mem_of_ne_nil _ hsome
      rw [hrows] at hp
      obtain ⟨hmem, hpair⟩ := List.mem_filter.mp hp
      rw [hc₁, h₂, h₁] at hmem
      exact ⟨p, hmem, by simpa [PrivateChat.IsOf] using hpair⟩
  · cases existing with
    | some thread => cases (Prod.mk.inj hbody).1
    | none =>
      obtain ⟨e', hindex, he⟩ | ⟨res, m₄, -, hbody⟩ := Call.bind_cases hbody
      · obtain rfl := Except.error.inj he
        exact absurd (Call.execute_error hindex) hne
      · obtain ⟨e', hinsert, he⟩ | ⟨res', m₅, -, hbody⟩ := Call.bind_cases hbody
        · obtain rfl := Except.error.inj he
          exact absurd (Call.execute_error hinsert) hne
        · cases (Prod.mk.inj hbody).1

def chatTypes (a b : Nat) : List ResponseType :=
  match (createNewPrivateChat σ.sql a b ⟨σ.store, []⟩).1 with
  | .error _ => []
  | .ok _ => [.createNewPrivateChatResponse]

theorem chatTypes_iff (a b : Nat) :
    chatTypes σ a b = [.createNewPrivateChatResponse] ↔ σ.OpensChat a b := by
  unfold chatTypes Situation.OpensChat
  cases hcall : createNewPrivateChat σ.sql a b ⟨σ.store, []⟩ with
  | mk r c =>
    cases r with
    | error err =>
      exact noReply_iff fun h => h (createNewPrivateChat_error hcall)
    | ok thread =>
      refine iff_of_true rfl fun h => ?_
      rw [createNewPrivateChat_existing h.1 h.2.1 h.2.2] at hcall
      cases (Prod.mk.inj hcall).1

/-- What follows when the two texts are there. -/
def readInts (a b : String) : Reading PrivateChatMsg := do
  requireNumbers [a, b] ⟨.createNewPrivateChatResponse, .jsonparseError⟩
  match Text.stoi a, Text.stoi b with
  | some user1, some user2 => return ⟨a, b, user1.toNat, user2.toNat⟩
  | _, _ => throw none

theorem readPrivateChat_eq (root : Json.Object) :
    readPrivateChat root = (readPull root "my_uuid" "friend_uuid" .createNewPrivateChatResponse >>=
      fun texts => readInts texts.1 texts.2) := by
  simp only [readPrivateChat, readPull, bind_assoc, pure_bind]
  rfl

/-- The types of what is sent for a request that is read or refused. -/
def privateChatTypes : Reading PrivateChatMsg → List ResponseType
  | .error refusal => refusal.toList.map ErrorMessage.type
  | .ok request =>
    (storePrivateChat σ.sql request ⟨σ.store, []⟩).replies.map PrivateChatReply.type

theorem privateChatTypes_readInts (a b : String) :
    privateChatTypes σ (readInts a b) =
      answerInts .createNewPrivateChatResponse (chatTypes σ) a b := by
  unfold readInts answerInts chatTypes
  by_cases hnumbers : ((Text.readUInt64 a).isNone || (Text.readUInt64 b).isNone) = true
  · rw [if_pos hnumbers, requireNumbers, if_neg (by simpa [imp_iff_not_or] using hnumbers)]
    rfl
  · rw [if_neg hnumbers, requireNumbers,
      if_pos (by simpa [Option.isSome_iff_ne_none] using hnumbers)]
    cases Text.stoi a with
    | none => rfl
    | some i =>
      cases Text.stoi b with
      | none => rfl
      | some j =>
        change (storePrivateChat σ.sql ⟨a, b, i.toNat, j.toNat⟩ ⟨σ.store, []⟩).replies.map
          PrivateChatReply.type = _
        unfold storePrivateChat
        dsimp only
        cases createNewPrivateChat σ.sql i.toNat j.toNat ⟨σ.store, []⟩ with
        | mk r c =>
          cases r with
          | error err => rfl
          | ok thread => cases thread <;> rfl

theorem repliesOnce_createNewPrivateChat (root : Json.Object) :
    RepliesOnce σ (some (.object root)) .createNewPrivateChat ↔
      σ.Accepts root .createNewPrivateChat := by
  have hreplies : replyTypes σ (some (.object root)) .createNewPrivateChat =
      privateChatTypes σ (readPrivateChat root) := by
    simp only [replyTypes, handlingCreateNewPrivateChat, parseJson]
    cases readPrivateChat root with
    | error refusal => cases refusal <;> rfl
    | ok request => rfl
  have htypes : privateChatTypes σ (readPrivateChat root) =
      answerTwo root "my_uuid" "friend_uuid" .createNewPrivateChatResponse
        (answerInts .createNewPrivateChatResponse (chatTypes σ)) := by
    rw [readPrivateChat_eq, answerTwo]
    cases readPull root "my_uuid" "friend_uuid" .createNewPrivateChatResponse with
    | error refusal => rfl
    | ok texts => exact privateChatTypes_readInts σ texts.1 texts.2
  rw [RepliesOnce, hreplies, htypes]
  exact answerTwo_iff (answerInts_iff (chatTypes_iff σ))

/-! ## Friend requests -/

theorem executeCommand_select {ρ : Type} (rows : Tables → List ρ) (s : DbStore) :
    executeCommand (select rows) ⟨s, []⟩ =
      (.ok (if (rows s.tables).isEmpty then none else some (rows s.tables)), ⟨s, []⟩) :=
  Call.catching_of_ok ((bind_statement rfl _).trans rfl)

theorem checkUUID_faultless (uuid : Nat) (s : DbStore) :
    checkUUID uuid ⟨s, []⟩ = (.ok (decide (uuid ∈ s.tables.authentication)), ⟨s, []⟩) := by
  refine (Call.bind_apply_ok (executeCommand_select _ s) _).trans ?_
  have hempty : (s.tables.authentication.filter fun u : Nat => (u : Int) = uuid).isEmpty =
      !decide (uuid ∈ s.tables.authentication) := by
    rw [Bool.eq_iff_iff]
    simp only [List.isEmpty_iff, List.filter_eq_nil_iff, decide_eq_true_eq, Bool.not_eq_true',
      decide_eq_false_iff_not]
    constructor
    · intro h hmem
      exact h uuid hmem rfl
    · intro h u hu heq
      obtain rfl : u = uuid := by omega
      exact h hu
  rw [hempty]
  by_cases hmem : uuid ∈ s.tables.authentication
  · rw [decide_eq_true hmem]
    rfl
  · rw [decide_eq_false hmem]
    rfl

/-- A friend request is stored exactly between two registered users. -/
theorem createFriendRequest_faultless (src dst : Nat) (nickname message : String) (s : DbStore) :
    (createFriendRequest src dst nickname message ⟨s, []⟩).1 =
      .ok (decide (src ≠ dst ∧ src ∈ s.tables.authentication ∧ dst ∈ s.tables.authentication)) := by
  unfold createFriendRequest
  by_cases heq : src = dst
  · rw [if_pos heq, decide_eq_false fun h => h.1 heq]
    rfl
  rw [if_neg heq, Call.bind_apply_ok (checkUUID_faultless src s)]
  by_cases hsrc : src ∈ s.tables.authentication
  · rw [decide_eq_true hsrc, if_pos rfl, Call.bind_apply_ok (checkUUID_faultless dst s)]
    by_cases hdst : dst ∈ s.tables.authentication
    · rw [decide_eq_true hdst, if_pos rfl, decide_eq_true ⟨heq, hsrc, hdst⟩]
      cases hcall : executeCommand (createFriendingRequest src dst nickname message) ⟨s, []⟩ with
      | mk r c =>
        obtain ⟨rfl, -⟩ | ⟨flag, -, rfl⟩ := executeCommand_cases hcall
        · rw [Call.bind_apply_ok hcall]
          rfl
        · rw [Call.bind_apply_ok hcall]
          rfl
    · rw [decide_eq_false hdst, if_neg Bool.false_ne_true, decide_eq_false fun h => hdst h.2.2]
      rfl
  · rw [decide_eq_false hsrc, if_neg Bool.false_ne_true, decide_eq_false fun h => hsrc h.2.1]
    rfl

/-- What follows a request that is stored: one reply, unless the profile throws. -/
theorem map_type_forwardFriendRequest (c : Cluster) (sid : SessionId) (env : HandlerEnv)
    (request : FriendRequestMsg) :
    (forwardFriendRequest c sid env request).1.map FriendSenderReply.type =
        [.friendSenderResponse] ↔
      (c.redis.checkValue request.dstUuid env.get ≠ none →
        env.userBasicInfo request.srcUuid ≠ .throws) := by
  unfold forwardFriendRequest
  dsimp only
  cases c.redis.checkValue request.dstUuid env.get with
  | none => exact iff_of_true rfl fun h => absurd rfl h
  | some server =>
    rw [imp_iff_right (Option.some_ne_none server)]
    cases env.userBasicInfo request.srcUuid with
    | throws => exact noReply_iff fun h => h rfl
    | notFound => exact iff_of_true rfl BasicInfo.noConfusion
    | found card =>
      refine iff_of_true ?_ BasicInfo.noConfusion
      dsimp only
      split
      · split <;> rfl
      · split <;> rfl

/-- The types of what is sent for a friend request that is read or refused. -/
def friendSenderTypes : Reading FriendRequestMsg → List ResponseType
  | .error refusal => refusal.toList.map ErrorMessage.type
  | .ok request =>
    (storeFriendRequest σ.cluster σ.sid σ.env request ⟨σ.store, []⟩).replies.map
      FriendSenderReply.type

/-- What follows when the four texts are there. -/
def readUsers (srcUuid dstUuid message nickname : String) : Reading FriendRequestMsg :=
  if srcUuid = dstUuid then throw (some ⟨.friendSenderResponse, .friendingYourself⟩)
  else
    match Text.readUInt64 srcUuid, Text.readUInt64 dstUuid with
    | some srcValue, some dstValue =>
      return ⟨srcUuid, dstUuid, message, nickname, srcValue, dstValue⟩
    | _, _ => throw none

theorem friendSenderTypes_readUsers (srcUuid dstUuid message nickname : String) :
    friendSenderTypes σ (readUsers srcUuid dstUuid message nickname) = [.friendSenderResponse] ↔
      σ.SendsRequest srcUuid dstUuid := by
  unfold readUsers Situation.SendsRequest
  by_cases heq : srcUuid = dstUuid
  · rw [if_pos heq]
    exact iff_of_true rfl (.inl heq)
  rw [if_neg heq, or_iff_right heq]
  cases hsrc : Text.readUInt64 srcUuid with
  | none =>
    refine noReply_iff ?_
    rintro ⟨src, dst, h, -⟩
    cases h
  | some src =>
    cases hdst : Text.readUInt64 dstUuid with
    | none =>
      refine noReply_iff ?_
      rintro ⟨src, dst, -, h, -⟩
      cases h
    | some dst =>
      have hstored : friendSenderTypes σ (.ok ⟨srcUuid, dstUuid, message, nickname, src, dst⟩) =
          [.friendSenderResponse] ↔
        (src ≠ dst ∧ src ∈ σ.store.tables.authentication ∧
            dst ∈ σ.store.tables.authentication →
          σ.cluster.redis.checkValue dstUuid σ.env.get ≠ none →
            σ.env.userBasicInfo srcUuid ≠ .throws) := by
        have hcall := createFriendRequest_faultless src dst nickname message σ.store
        unfold friendSenderTypes storeFriendRequest
        dsimp only
        cases hstore : createFriendRequest src dst nickname message ⟨σ.store, []⟩ with
        | mk r c =>
          rw [hstore] at hcall
          dsimp only at hcall
          subst hcall
          by_cases husers : src ≠ dst ∧ src ∈ σ.store.tables.authentication ∧
              dst ∈ σ.store.tables.authentication
          · rw [decide_eq_true husers, imp_iff_right husers]
            exact map_type_forwardFriendRequest σ.cluster σ.sid σ.env _
          · rw [decide_eq_false husers]
            exact iff_of_true rfl fun h => absurd h husers
      constructor
      · intro h
        exact ⟨src, dst, rfl, rfl, hstored.mp h⟩
      · rintro ⟨src', dst', hsrc', hdst', h⟩
        obtain rfl := Option.some.inj hsrc'
        obtain rfl := Option.some.inj hdst'
        exact hstored.mpr h

theorem repliesOnce_friendRequestCreator (root : Json.Object) :
    RepliesOnce σ (some (.object root)) .friendRequestCreator ↔
      σ.Accepts root .friendRequestCreator := by
  have hreplies : replyTypes σ (some (.object root)) .friendRequestCreator =
      friendSenderTypes σ (readFriendRequest root) := by
    simp only [replyTypes, handlingFriendRequestCreator, parseJson]
    cases readFriendRequest root with
    | error refusal => cases refusal <;> rfl
    | ok request => rfl
  rw [RepliesOnce, hreplies]
  unfold readFriendRequest Situation.Accepts IsText Handler.responseType
  by_cases hfields : root.contains "src_uuid" = true ∧ root.contains "dst_uuid" = true
  · rw [requireFields_two hfields]
    change friendSenderTypes σ (textField root "src_uuid" >>= fun src =>
      textField root "dst_uuid" >>= fun dst => textField root "message" >>= fun message =>
        textField root "nickname" >>= fun nickname => readUsers src dst message nickname) =
          [.friendSenderResponse] ↔ _
    simp only [answer_textField_iff (friendSenderTypes σ) rfl,
      friendSenderTypes_readUsers, Option.isSome_iff_exists]
    constructor
    · rintro ⟨src, hsrc, dst, hdst, message, hmessage, nickname, hnickname, h⟩
      exact ⟨⟨message, hmessage⟩, ⟨nickname, hnickname⟩, src, dst, hsrc, hdst, h⟩
    · rintro ⟨⟨message, hmessage⟩, ⟨nickname, hnickname⟩, src, dst, hsrc, hdst, h⟩
      exact ⟨src, hsrc, dst, hdst, message, hmessage, nickname, hnickname, h⟩
  · rw [requireFields_not_two hfields]
    refine iff_of_false ?_ ?_
    · intro h
      cases h
    · rintro ⟨-, -, src, dst, hsrc, hdst, -⟩
      exact hfields ⟨Json.Object.contains_of_text hsrc, Json.Object.contains_of_text hdst⟩

/-! ## Heartbeats and searches -/

theorem repliesOnce_heartBeat (root : Json.Object) :
    RepliesOnce σ (some (.object root)) .heartBeat ↔ σ.Accepts root .heartBeat := by
  have hreplies : replyTypes σ (some (.object root)) .heartBeat =
      (match textField root "uuid" with
        | .error refusal => refusal.toList.map HeartBeatReply.error
        | .ok _ => [.success]).map HeartBeatReply.type := rfl
  rw [RepliesOnce, hreplies]
  unfold Situation.Accepts IsText
  cases huuid : (root.get "uuid").asText with
  | none =>
    rw [textField_of_none huuid]
    exact noReply_iff Bool.false_ne_true
  | some uuid =>
    rw [textField_of_text huuid]
    exact iff_of_true rfl rfl

theorem searchUser_iff (username : String) :
    (searchUser σ.getUUIDByUsername σ.env username).map UserSearchReply.type =
      [.searchUsernameResponse] ↔ σ.FindsUser username := by
  unfold searchUser Situation.FindsUser
  dsimp only
  cases σ.getUUIDByUsername username with
  | none => exact iff_of_true rfl fun uuid h => by cases h
  | some uuid =>
    simp only [Option.mem_some_iff, forall_eq']
    cases σ.env.userBasicInfo uuid.repr with
    | throws => exact noReply_iff fun h => h rfl
    | notFound => exact iff_of_true rfl BasicInfo.noConfusion
    | found card => exact iff_of_true rfl BasicInfo.noConfusion

theorem repliesOnce_userSearch (root : Json.Object) :
    RepliesOnce σ (some (.object root)) .userSearch ↔ σ.Accepts root .userSearch := by
  let answer : Reading String → List ResponseType
    | .error refusal => (refusal.toList.map UserSearchReply.error).map UserSearchReply.type
    | .ok username =>
      (searchUser σ.getUUIDByUsername σ.env username).map UserSearchReply.type
  have hreplies : replyTypes σ (some (.object root)) .userSearch =
      answer (readUserSearch root) := by
    simp only [replyTypes, handlingUserSearch, parseJson]
    cases readUserSearch root with
    | error refusal => rfl
    | ok username => rfl
  rw [RepliesOnce, hreplies]
  unfold Situation.Accepts
  by_cases hfield : root.contains "username" = true
  · have hread : readUserSearch root =
        (textField root "username" >>= fun username => return username) := by
      rw [bind_pure, readUserSearch, requireFields, if_pos (by simpa using hfield)]
      rfl
    rw [hread, answer_textField_iff answer rfl, imp_iff_right hfield]
    exact exists_congr fun username => and_congr_right fun _ => searchUser_iff σ username
  · rw [readUserSearch, requireFields, if_neg (by simpa using hfield)]
    exact iff_of_true rfl fun h => absurd h hfield

/-! ## All handlers -/

/-- A body that is no object is answered by `parseJson`, under one type for all requests. -/
theorem not_repliesOnce_of_not_object {body : Option Json}
    (h : parseJson body = ([⟨.friendSenderResponse, .jsonparseError⟩], [])) (handler : Handler) :
    ¬RepliesOnce σ body handler := by
  unfold RepliesOnce
  cases handler with
  | heartBeat =>
    simp only [replyTypes, handlingHeartBeat, h]
    decide
  | userSearch =>
    simp only [replyTypes, handlingUserSearch, h]
    exact fun heq => by cases heq
  | userChatTheads =>
    simp only [replyTypes, handlingPullChatThread, h]
    exact fun heq => by cases heq
  | userChatMessage =>
    simp only [replyTypes, handlingUserChatMessage, h]
    exact fun heq => by cases heq
  | createNewPrivateChat =>
    simp only [replyTypes, handlingCreateNewPrivateChat, h]
    exact fun heq => by cases heq
  | friendRequestCreator =>
    simp only [replyTypes, handlingFriendRequestCreator, h]
    exact fun heq => by cases heq

theorem repliesOnce_object (root : Json.Object) (handler : Handler) :
    RepliesOnce σ (some (.object root)) handler ↔ σ.Accepts root handler := by
  cases handler with
  | heartBeat => exact repliesOnce_heartBeat σ root
  | userSearch => exact repliesOnce_userSearch σ root
  | userChatTheads => exact repliesOnce_userChatTheads σ root
  | userChatMessage => exact repliesOnce_userChatMessage σ root
  | createNewPrivateChat => exact repliesOnce_createNewPrivateChat σ root
  | friendRequestCreator => exact repliesOnce_friendRequestCreator σ root

/-- A request gets one reply of its own type exactly if it can be answered. -/
theorem repliesOnce_iff_answerable (σ : Situation) (body : Option Json) (handler : Handler) :
    RepliesOnce σ body handler ↔ Answerable σ body handler := by
  constructor
  · intro h
    have hobject : ∃ root, body = some (.object root) := by
      by_contra hnone
      refine not_repliesOnce_of_not_object σ ?_ handler h
      unfold parseJson
      split
      · rename_i root
        exact absurd ⟨root, rfl⟩ hnone
      · rfl
    obtain ⟨root, rfl⟩ := hobject
    exact ⟨root, rfl, (repliesOnce_object σ root handler).mp h⟩
  · rintro ⟨root, rfl, h⟩
    exact (repliesOnce_object σ root handler).mpr h

/-- A heartbeat that is no JSON, on a server with a connection that has not logged in. -/
theorem not_repliesOnce_heartBeat :
    ¬RepliesOnce
      { cluster := .init
        sid := 0
        env := ⟨true, fun _ => .notFound, true⟩
        driver := ⟨id, true, true⟩
        sql := .decimal true
        store := registered [1, 2]
        getUUIDByUsername := fun _ => none } none .heartBeat :=
  not_repliesOnce_of_not_object _ rfl .heartBeat

end DistributedIM.ChattingServer
