import LossProbe.Net.Endpoint
import LossProbe.Net.IoError

/-! # The host a run takes place on

What the system answers when a socket is opened or a datagram is handed to one. The sockets are
all for four-octet addresses. -/

namespace LossProbe

structure Host where
  /-- Whether there is a route to other hosts. -/
  hasRoute : Bool := true
  /-- How many sockets can be open at once. -/
  socketLimit : Option Nat := none
deriving DecidableEq, Repr

namespace Host

/-- The greatest payload that fits into one datagram. -/
def maxPayload : Nat := 65507

/-- The greatest length that can be given for a datagram at all. -/
def maxLength : Nat := 65535

/-- Open one more socket beside `opened` others. -/
def openSocket (h : Host) (opened : Nat) : Except IoError Unit :=
  match h.socketLimit with
  | some limit => if opened < limit then .ok () else .error .tooManyOpenFiles
  | none => .ok ()

/-- Send so many octets. The first obstacle decides the error. -/
def send (h : Host) (dest : Endpoint) (length : Nat) : Except IoError Unit :=
  if maxLength < length then .error .messageTooLong
  else if dest.ip.isV6 then .error .addressFamilyNotSupported
  else if dest.port = 0 then .error .invalidArgument
  else if !h.hasRoute then .error .networkUnreachable
  else if maxPayload < length then .error .messageTooLong
  else .ok ()

end Host
end LossProbe
