/-
  How `SyncLogic` reads requests and finds the users they are about. `parseJson` reports a body that
  is no JSON object, but its handlers go on with the empty object. A handler then refuses a request
  with one error, or an exception of `value_to` leaves it, which `execute` logs.

  A frame that reaches a handler is complete, so `get_msg_body` has a text.
-/
import DistributedIM.Lib.Json
import DistributedIM.Lib.Text
import DistributedIM.ChattingServer.UserManager

namespace DistributedIM.ChattingServer

/-- The `ServiceType`s of the modelled replies. -/
inductive ResponseType
  | heartbeatResponse
  | searchUsernameResponse
  | pullChatThreadResponse
  | pullChatRecordResponse
  | createNewPrivateChatResponse
  | friendSenderResponse
  | friendConfirmResponse
  | friendingOnBidirectional
  | textChatMsgResponse
  deriving DecidableEq, Repr

/-- The `ServiceStatus`es of the modelled error messages. -/
inductive ErrorStatus
  | jsonparseError
  | redisUnkownError
  | mysqlInternalError
  | loginUnsuccessful
  | searchingUsernameNotFound
  | chatrecordNotExist
  | createPrivateChatFailed
  | friendingYourself
  | friendingError
  | friendingTargetUserNotFound
  deriving DecidableEq, Repr

/-- The values of the enumeration. -/
def ErrorStatus.code : ErrorStatus → Nat
  | .jsonparseError => 1
  | .redisUnkownError => 12
  | .mysqlInternalError => 14
  | .loginUnsuccessful => 18
  | .searchingUsernameNotFound => 21
  | .chatrecordNotExist => 24
  | .createPrivateChatFailed => 26
  | .friendingYourself => 33
  | .friendingError => 34
  | .friendingTargetUserNotFound => 35

/-- `generateErrorMessage` -/
structure ErrorMessage where
  type : ResponseType
  status : ErrorStatus
  deriving DecidableEq, Repr

/-- The body of an error message. -/
def ErrorMessage.body (m : ErrorMessage) : Json.Object :=
  [("error", .number m.status.code.repr)]

/-- Why a request is not carried out: an error message, or nothing the requester is told of. -/
abbrev Refusal := Option ErrorMessage

abbrev Reading (α : Type) := Except Refusal α

/-- `parseJson`: its own error message, and the object it leaves; the body is none when it is no
    JSON. -/
def parseJson (body : Option Json) : List ErrorMessage × Json.Object :=
  match body with
  | some (.object root) => ([], root)
  | _ => ([⟨.friendSenderResponse, .jsonparseError⟩], [])

/-- `contains` of every key, or else the error. -/
def requireFields (root : Json.Object) (keys : List String) (error : ErrorMessage) :
    Reading Unit :=
  if keys.all root.contains then return () else throw (some error)

/-- `value_to<std::string>(root[key])` -/
def textField (root : Json.Object) (key : String) : Reading String :=
  match (root.get key).asText with
  | none => throw none
  | some text => return text

/-- `string_to_value` of every text has a value, or else the error. -/
def requireNumbers (texts : List String) (error : ErrorMessage) : Reading Unit :=
  if texts.all fun text => (Text.readUInt64 text).isSome then return () else throw (some error)

/-! ## Other users -/

/-- `checkValue(server_prefix + uuid)`; the command may fail. -/
def Redis.checkValue (r : Redis) (uuid : String) (get : Bool) : Option String :=
  if get then r.checkCurrentUser uuid else none

/-- Where something is forwarded: to a session of this server, or to a server by gRPC. -/
inductive Destination
  | session (sid : SessionId)
  | server (name : String)
  deriving DecidableEq, Repr

end DistributedIM.ChattingServer
