import LossProbe.Json.Reader
import LossProbe.Text.Utf8
import LossProbe.Version

/-! # Discovery replies

Any JSON object is a reply of a device. It may announce the version the device speaks; without an
announcement, or with one that is no integer, the device speaks the second. -/

namespace LossProbe.Reply

/-- Why a datagram is no reply. -/
inductive Error where
  | invalidUtf8 (e : Utf8.DecodeError)
  | invalidJson (e : Json.Failure) (text : List Char)
  | notAnObject
deriving DecidableEq, Repr

def Error.message : Error → String
  | invalidUtf8 e => s!"reply is not valid UTF-8: {e.message}"
  | invalidJson e text => s!"reply is not JSON: {e.message text}"
  | notAnObject => "reply is not a JSON object"

/-- The member that announces the version. -/
def versionMember : String := "protocol_version"

/-- The version counted on where none is announced. -/
def defaultVersion : Int := 2

/-- The version that a JSON value announces, if it is an object. -/
def classify : Json → Except Error Version
  | .object members =>
    .ok (.ofWire (((Json.member? versionMember members).bind Json.int64?).getD defaultVersion))
  | _ => .error .notAnObject

/-- The version of the device that sent these octets. -/
def parse (octets : List UInt8) : Except Error Version := do
  let text ← (Utf8.decode octets).mapError .invalidUtf8
  let json ← (Json.parseChars text).mapError (.invalidJson · text)
  classify json

end LossProbe.Reply
