import LossProbe.Net.Endpoint
import LossProbe.Net.IoError
import Std.Async.Timer
import Std.Async.UDP

/-! # Datagram sockets

The system's sockets for datagrams. Every socket is bound to all local four-octet addresses, at a
port that the system chooses, and closes when it is no longer used. -/

namespace LossProbe

/-- The number of an error in the system's numbering: a code may be its negative in 32 bits. -/
def IoError.ofCode (code : UInt32) (details : String) : IoError :=
  if code = 0 then .other details
  else if code.toNat < 0x80000000 then .os code.toNat
  else .os (0x100000000 - code.toNat : Int)

/-- An error as the system reports it. -/
def IoError.ofSystem : IO.Error → IoError
  | .alreadyExists _ code details | .invalidArgument _ code details
  | .permissionDenied _ code details | .resourceExhausted _ code details
  | .inappropriateType _ code details | .noSuchThing _ code details => .ofCode code details
  | .otherError code details | .resourceBusy code details | .resourceVanished code details
  | .unsupportedOperation code details | .hardwareFault code details
  | .unsatisfiedConstraints code details | .illegalOperation code details
  | .protocolError code details | .timeExpired code details => .ofCode code details
  | .interrupted _ code details | .noFileOrDirectory _ code details => .ofCode code details
  | .unexpectedEof => .other "unexpected end of file"
  | .userError details => .other details

/-- An address as the system takes it. -/
def Endpoint.toSystem (e : Endpoint) : Std.Net.SocketAddress :=
  match e.ip with
  | .v4 a b c d => .v4 ⟨.ofParts a b c d, e.port⟩
  | .v6 groups => .v6 ⟨⟨groups⟩, e.port⟩

/-- An address as the system gives it. -/
def IpAddr.ofSystem : Std.Net.IPAddr → IpAddr
  | .v4 ip => .v4 ip.octets[0] ip.octets[1] ip.octets[2] ip.octets[3]
  | .v6 ip => .v6 ip.segments

/-- A datagram that arrived. -/
structure Datagram where
  source : IpAddr
  octets : List UInt8

/-- A socket that is open. -/
structure Socket where
  handle : Std.Async.UDP.Socket

namespace Socket

open Std.Async

/-- The result of an action, where a failure has a cause. -/
def attempt {α : Type} (act : IO α) : BaseIO (Except IoError α) := do
  return (← act.toBaseIO).mapError .ofSystem

/-- Open a socket, which may be one that can send to all hosts of a network. -/
def open? (broadcast : Bool) : BaseIO (Except IoError Socket) := attempt do
  let handle ← UDP.Socket.mk
  handle.bind (.v4 ⟨.ofParts 0 0 0 0, 0⟩)
  if broadcast then handle.setBroadcast true
  return ⟨handle⟩

/-- Send one datagram. -/
def send (s : Socket) (dest : Endpoint) (octets : List UInt8) : BaseIO (Except IoError Unit) :=
  attempt (s.handle.send ⟨octets.toArray⟩ (some dest.toSystem)).block

/-- Wait for a datagram, of which at most `limit` octets are kept. -/
def receive (s : Socket) (limit timeoutMs : Nat) : BaseIO (Except IoError (Option Datagram)) :=
  attempt <| Async.block do
    let timer ← Selector.sleep (.ofNat timeoutMs)
    Selectable.one #[
      .case (s.handle.recvSelector limit.toUInt64) fun (octets, source?) =>
        return source?.map fun source => ⟨.ofSystem source.ipAddr, octets.toList⟩,
      .case timer fun _ => return none]

end Socket
end LossProbe
