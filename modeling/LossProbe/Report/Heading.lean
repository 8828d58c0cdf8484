import LossProbe.Net.IpAddr

/-! # Report headings

What a report is made for. A loss event names the device that lost a probe. -/

namespace LossProbe

inductive Heading where
  | searchResults
  | lossEvent (ip : IpAddr)
  | cancelled
  | finished
deriving DecidableEq, Repr

namespace Heading

/-- The kind of the heading. -/
def name : Heading → String
  | searchResults => "search results"
  | lossEvent _ => "loss event"
  | cancelled => "cancelled"
  | finished => "finished"

/-- The kind, and for a loss event the device. -/
def chars : Heading → List Char
  | lossEvent ip => "loss event (".toList ++ ip.chars ++ [')']
  | h => h.name.toList

instance : ToString Heading := ⟨fun h => String.ofList h.chars⟩

def isLossEvent : Heading → Bool
  | lossEvent _ => true
  | _ => false

end Heading
end LossProbe
