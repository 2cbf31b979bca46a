import Muta.Protocol.Types

/-! The errors of the network, `core/network/src/error.rs`, as far as the modelled
code raises them, and tentacle's session ids.

`NetworkError::Send` and `UserSend` carry the error of an inner call as an
optional box. The model gives each two constructors, without and with that
error (`send`, `user_send` choose), which keeps the type a plain recursive one.
-/

set_option autoImplicit false

namespace Muta.Network

abbrev SessionId := Nat

inductive NetworkError where
  | NotEndpoint
  | UnexpectedScheme (text : List Char)
  /-- `ErrorKind::NotIdString`, which `?` boxes into `NetworkError::Internal`. -/
  | NotIdString
  | Busy
  | Shutdown
  | UnexpectedError
  /-- `Send { blocked, other: None }`. -/
  | Send (blocked : Option (List SessionId))
  /-- `Send { blocked, other: Some(other) }`. -/
  | SendWith (blocked : Option (List SessionId)) (other : NetworkError)
  /-- `UserSend { unconnected, unknown, other: None }`. -/
  | UserSend (unconnected unknown : Option (List Address))
  /-- `UserSend { unconnected, unknown, other: Some(other) }`. -/
  | UserSendWith (unconnected unknown : Option (List Address)) (other : NetworkError)
  deriving DecidableEq, Repr

namespace NetworkError

def send (blocked : Option (List SessionId)) : Option NetworkError → NetworkError
  | none => .Send blocked
  | some other => .SendWith blocked other

def userSend (unconnected unknown : Option (List Address)) : Option NetworkError → NetworkError
  | none => .UserSend unconnected unknown
  | some other => .UserSendWith unconnected unknown other

end NetworkError

end Muta.Network
