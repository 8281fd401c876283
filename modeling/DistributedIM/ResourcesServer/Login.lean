/-
  Logging in to the resources server and out of it: `SyncLogic::handlingLogin` and
  `handlingLogout`, with what they do to Redis.

  The token of a login is read and not checked. The key `uuid_<uuid>` is set to the name of this
  server; the chatting servers keep the routes of their users under the same keys. A logout deletes
  the key of the session's own uuid. Nothing calls `setUUID`, so this uuid stays empty.

  What Redis answers is the environment's.
-/
import DistributedIM.Lib.Json
import DistributedIM.Lib.Text
import Mathlib.Algebra.Group.Nat.Even
import Mathlib.Logic.Function.Basic

namespace DistributedIM.ResourcesServer

/-- The keys `uuid_<uuid>`, by uuid. -/
abbrev UuidKeys := String → Option String

inductive LoginReply
  | jsonparseError
  | loginUnsuccessful
  /-- the empty object -/
  | result
  deriving DecidableEq, Repr

/-- A session, as far as logins see it. -/
structure LoginSession where
  /-- `s_uuid` -/
  uuid : String
  replies : List LoginReply
  deriving DecidableEq, Repr

/-- Which commands succeed. -/
structure RedisIo where
  hget : Bool
  hset : Bool
  set : Bool
  del : Bool
  deriving DecidableEq, Repr

structure LoginServer where
  /-- `GrpcServerName` -/
  name : String
  /-- the field of this server in the hash `redis_server` -/
  counter : Option String
  /-- how many connections have been accepted -/
  accepted : Nat
  session : Nat → LoginSession

namespace LoginServer

def start (name : String) : LoginServer where
  name := name
  counter := some "0"
  accepted := 0
  session _ := ⟨"", []⟩

def accept (r : LoginServer) : LoginServer :=
  { r with accepted := r.accepted + 1 }

def reply (r : LoginServer) (sid : Nat) (reply : LoginReply) : LoginServer :=
  let s := r.session sid
  { r with session := Function.update r.session sid { s with replies := s.replies ++ [reply] } }

/-- The counter, 0 where there is none; none if its text is no number, and `value()` throws. -/
def readCounter (r : LoginServer) (io : RedisIo) : Option Nat :=
  match r.counter with
  | none => some 0
  | some text => if io.hget then Text.readUInt64 text else some 0

def writeCounter (r : LoginServer) (io : RedisIo) (n : Nat) : LoginServer :=
  if io.hset then { r with counter := some n.repr } else r

def incrementConnection (r : LoginServer) (io : RedisIo) : Option LoginServer :=
  (r.readCounter io).map fun n => r.writeCounter io ((n + 1) % 2 ^ 64)

/-- A counter that is 0 becomes the largest `std::size_t`. -/
def decrementConnection (r : LoginServer) (io : RedisIo) : Option LoginServer :=
  (r.readCounter io).map fun n => r.writeCounter io ((n + 2 ^ 64 - 1) % 2 ^ 64)

def tagCurrentUser (r : LoginServer) (keys : UuidKeys) (uuid : String) (io : RedisIo) : UuidKeys :=
  if io.set then Function.update keys uuid (some r.name) else keys

def untagCurrentUser (keys : UuidKeys) (uuid : String) (io : RedisIo) : UuidKeys :=
  if io.del then Function.update keys uuid none else keys

/-- A login once the body is parsed. An exception of `value_to` or `value()` is only logged. -/
def loginParsed (r : LoginServer) (keys : UuidKeys) (sid : Nat) (src : Json.Object)
    (io : RedisIo) : LoginServer × UuidKeys :=
  if !(src.contains "uuid" && src.contains "token") then (r.reply sid .loginUnsuccessful, keys)
  else
    match (src.get "uuid").asText, (src.get "token").asText with
    | some uuid, some _ =>
      if (Text.readUInt64 uuid).isNone then (r.reply sid .loginUnsuccessful, keys)
      else
        match r.incrementConnection io with
        | none => (r, keys)
        | some r => (r.reply sid .result, r.tagCurrentUser keys uuid io)
    | _, _ => (r, keys)

def handlingLogin (r : LoginServer) (keys : UuidKeys) (sid : Nat) (body : Option Json)
    (io : RedisIo) : LoginServer × UuidKeys :=
  match body with
  | some (.object src) => r.loginParsed keys sid src io
  | _ => (r.reply sid .jsonparseError, keys)

/-- The request is not looked at. -/
def handlingLogout (r : LoginServer) (keys : UuidKeys) (sid : Nat) (io : RedisIo) :
    LoginServer × UuidKeys :=
  match r.decrementConnection io with
  | none => (r, keys)
  | some r => (r, untagCurrentUser keys (r.session sid).uuid io)

/-! ## Which key a login sets -/

/-- The uuid of a request with both texts and a number. -/
def requestedUuid (src : Json.Object) : Option String :=
  match (src.get "uuid").asText, (src.get "token").asText with
  | some uuid, some _ => if (Text.readUInt64 uuid).isSome then some uuid else none
  | _, _ => none

/-- The uuid whose key the login sets: the counter can be read, and the SET succeeds. -/
def storedKey (r : LoginServer) (body : Option Json) (io : RedisIo) : Option String :=
  match body with
  | some (.object src) =>
    if (r.readCounter io).isSome && io.set then requestedUuid src else none
  | _ => none

/-- No session has a uuid. -/
def Unnamed (r : LoginServer) : Prop :=
  ∀ sid, (r.session sid).uuid = ""

/-! ## What the handlers do -/

variable {r : LoginServer}

/-- A handler of the server leaves the uuids and the name as they are. -/
structure SameSessions (r r' : LoginServer) : Prop where
  name : r'.name = r.name
  accepted : r'.accepted = r.accepted
  uuid : ∀ sid, (r'.session sid).uuid = (r.session sid).uuid

theorem sameSessions_reply (r : LoginServer) (sid : Nat) (reply : LoginReply) :
    SameSessions r (r.reply sid reply) where
  name := rfl
  accepted := rfl
  uuid i := by
    unfold LoginServer.reply
    by_cases hi : i = sid
    · rw [hi]
      simp
    · simp [hi]

theorem sameSessions_writeCounter (r : LoginServer) (io : RedisIo) (n : Nat) :
    SameSessions r (r.writeCounter io n) := by
  unfold writeCounter
  split
  · exact ⟨rfl, rfl, fun _ => rfl⟩
  · exact ⟨rfl, rfl, fun _ => rfl⟩

theorem SameSessions.trans {r r' r'' : LoginServer} (h : SameSessions r r')
    (h' : SameSessions r' r'') : SameSessions r r'' where
  name := h'.name.trans h.name
  accepted := h'.accepted.trans h.accepted
  uuid sid := (h'.uuid sid).trans (h.uuid sid)

theorem requestedUuid_of_texts {src : Json.Object} {uuid token : String}
    (huuid : (src.get "uuid").asText = some uuid)
    (htoken : (src.get "token").asText = some token) :
    requestedUuid src = if (Text.readUInt64 uuid).isSome then some uuid else none := by
  unfold requestedUuid
  rw [huuid, htoken]

/-- The key of the uuid is set, and the others stay. -/
theorem loginParsed_keys (r : LoginServer) (keys : UuidKeys) (sid : Nat) (src : Json.Object)
    (io : RedisIo) : (r.loginParsed keys sid src io).2 =
      match r.storedKey (some (.object src)) io with
      | none => keys
      | some uuid => Function.update keys uuid (some r.name) := by
  unfold loginParsed storedKey
  cases huuid : (src.get "uuid").asText with
  | none =>
    have hrequested : requestedUuid src = none := by
      unfold requestedUuid
      rw [huuid]
    cases hfields : src.contains "uuid" && src.contains "token" <;> simp [hrequested]
  | some uuid =>
    cases htoken : (src.get "token").asText with
    | none =>
      have hrequested : requestedUuid src = none := by
        unfold requestedUuid
        rw [huuid, htoken]
      cases hfields : src.contains "uuid" && src.contains "token" <;> simp [hrequested]
    | some token =>
      simp only [Json.Object.contains_of_text huuid, Json.Object.contains_of_text htoken,
        requestedUuid_of_texts huuid htoken, Bool.and_self, Bool.not_true, Bool.false_eq_true,
        if_false]
      cases hnumber : Text.readUInt64 uuid with
      | none => simp
      | some number =>
        unfold incrementConnection
        cases hcounter : r.readCounter io with
        | none => simp
        | some n =>
          have hname (n : Nat) : (r.writeCounter io n).name = r.name :=
            (sameSessions_writeCounter r io n).name
          cases hset : io.set with
          | false => simp [tagCurrentUser, hset]
          | true => simp [tagCurrentUser, hset, hname]

theorem handlingLogin_keys (r : LoginServer) (keys : UuidKeys) (sid : Nat) (body : Option Json)
    (io : RedisIo) : (r.handlingLogin keys sid body io).2 =
      match r.storedKey body io with
      | none => keys
      | some uuid => Function.update keys uuid (some r.name) := by
  cases body with
  | none => rfl
  | some json =>
    cases json with
    | object src => exact r.loginParsed_keys keys sid src io
    | _ => rfl

theorem sameSessions_handlingLogin (r : LoginServer) (keys : UuidKeys) (sid : Nat)
    (body : Option Json) (io : RedisIo) :
    SameSessions r (r.handlingLogin keys sid body io).1 := by
  have hsame : SameSessions r r := ⟨rfl, rfl, fun _ => rfl⟩
  unfold handlingLogin
  split
  · rename_i src
    unfold loginParsed
    split
    · exact sameSessions_reply ..
    · split
      · split
        · exact sameSessions_reply ..
        · unfold incrementConnection
          cases r.readCounter io with
          | none => exact hsame
          | some n => exact (sameSessions_writeCounter ..).trans (sameSessions_reply ..)
      · exact hsame
  · exact sameSessions_reply ..

theorem sameSessions_handlingLogout (r : LoginServer) (keys : UuidKeys) (sid : Nat)
    (io : RedisIo) : SameSessions r (r.handlingLogout keys sid io).1 := by
  unfold handlingLogout decrementConnection
  cases r.readCounter io with
  | none => exact ⟨rfl, rfl, fun _ => rfl⟩
  | some n => exact sameSessions_writeCounter ..

/-- A logout deletes a key at most. -/
theorem handlingLogout_eq_none_or (r : LoginServer) (keys : UuidKeys) (sid : Nat) (io : RedisIo)
    (uuid : String) : (r.handlingLogout keys sid io).2 uuid = none ∨
      (r.handlingLogout keys sid io).2 uuid = keys uuid := by
  unfold handlingLogout
  split
  · exact Or.inr rfl
  · rename_i r' _
    dsimp only
    unfold untagCurrentUser
    split
    · by_cases huuid : uuid = (r'.session sid).uuid
      · exact Or.inl (huuid ▸ Function.update_self ..)
      · exact Or.inr (Function.update_of_ne huuid ..)
    · exact Or.inr rfl

/-- A logout deletes no key but that of the empty uuid. -/
theorem handlingLogout_keys (h : r.Unnamed) (keys : UuidKeys) (sid : Nat) (io : RedisIo)
    {uuid : String} (huuid : uuid ≠ "") : (r.handlingLogout keys sid io).2 uuid = keys uuid := by
  unfold handlingLogout decrementConnection
  cases r.readCounter io with
  | none => rfl
  | some n =>
    have hempty : ((r.writeCounter io ((n + 2 ^ 64 - 1) % 2 ^ 64)).session sid).uuid = "" :=
      ((sameSessions_writeCounter ..).uuid sid).trans (h sid)
    simp only [Option.map_some, untagCurrentUser, hempty]
    split
    · exact Function.update_of_ne huuid none keys
    · rfl

theorem unnamed_of_sameSessions {r' : LoginServer} (h : r.Unnamed) (hsame : SameSessions r r') :
    r'.Unnamed :=
  fun sid => (hsame.uuid sid).trans (h sid)

theorem requestedUuid_ne_empty {src : Json.Object} {uuid : String}
    (h : requestedUuid src = some uuid) : uuid ≠ "" := by
  rintro rfl
  unfold requestedUuid at h
  split at h
  · split at h
    · rename_i hnumber
      obtain rfl := Option.some.inj h
      revert hnumber
      decide
    · cases h
  · cases h

/-- The key of the empty uuid is never set. -/
theorem storedKey_ne_empty {body : Option Json} {io : RedisIo} {uuid : String}
    (h : r.storedKey body io = some uuid) : uuid ≠ "" := by
  unfold storedKey at h
  split at h
  · split at h
    · exact requestedUuid_ne_empty h
    · cases h
  · cases h

end LoginServer

end DistributedIM.ResourcesServer
