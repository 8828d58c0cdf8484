import LossProbe.Probe.Cycle

/-! # Devices that follow a script

A `Peer` answers the probes it receives by a script. Its answers wait in a queue until the worker
takes them, one for each probe, whatever probe they were sent for; answers that are held back
arrive together with the next probe. -/

namespace LossProbe

namespace Peer

/-- What a peer does with a probe. -/
inductive Action where
  /-- Answer with so many datagrams. -/
  | answer (count : Nat)
  /-- Send so many datagrams when the next probe arrives. -/
  | holdBack (count : Nat)
deriving DecidableEq, Repr

end Peer

structure Peer where
  ip : IpAddr
  /-- What is still to be done, probe by probe. -/
  script : List Peer.Action := []
  /-- How many datagrams answer a probe beyond the script. -/
  rest : Nat := 0
  /-- Datagrams that are held back. -/
  held : Nat := 0
  /-- Datagrams that wait for the worker. -/
  queued : Nat := 0
  /-- How many probes arrived. -/
  arrived : Nat := 0
deriving DecidableEq, Repr

namespace Peer

/-- A probe arrives: what was held back is sent, and then what the script says. -/
def accept (p : Peer) : Peer :=
  let queued := p.queued + p.held
  let arrived := p.arrived + 1
  let script := p.script.tail
  match p.script.head?.getD (.answer p.rest) with
  | .answer count => { p with script, arrived, queued := queued + count, held := 0 }
  | .holdBack count => { p with script, arrived, queued, held := count }

/-- The worker takes a datagram, or its wait ends without one. -/
def take (p : Peer) : Probe.Reception × Peer :=
  if 0 < p.queued then (.datagram, { p with queued := p.queued - 1 }) else (.timedOut, p)

end Peer
end LossProbe
