import LossProbe.Binary64

/-! # Loss counters of one device

`Stats` counts the probes sent to a device, those that timed out, and the timeouts since its last
reply, and keeps the loss rate they give. Recording an event can fail: a timeout needs a probe
that was sent, and a counter has 64 bits. What was recorded before the failure stays, so every
outcome carries the counters as they then are. -/

namespace LossProbe

structure Stats where
  /-- Probes sent. -/
  sent : UInt64 := 0
  /-- Probes that were not answered in time. -/
  lost : UInt64 := 0
  /-- Probes lost since the last reply. -/
  streak : UInt64 := 0
  /-- Lost probes per ten thousand sent. -/
  rate : Binary64 := .zero
deriving DecidableEq, Repr, Inhabited

namespace Stats

/-- Why an event cannot be recorded. -/
inductive Fault where
  | timeoutWithoutSend
  | counterOverflow
deriving DecidableEq, Repr

def Fault.message : Fault → String
  | timeoutWithoutSend => "timeout without a send"
  | counterOverflow => "attempt to add with overflow"

/-- The counters after an attempt to record something, and what went wrong, if anything did. -/
structure Recorded where
  stats : Stats
  fault : Option Fault := none
deriving DecidableEq, Repr

/-- What can happen to a probe. -/
inductive Event where
  | sent
  | reply
  | timeout
deriving DecidableEq, Repr

/-- The rate is given per this many probes. -/
def rateScale : Binary64 := .ofNat 10000

/-- The loss rate of the given counters, zero before the first probe. -/
def rateOf (sent lost : UInt64) : Binary64 :=
  if sent = 0 then .zero else Binary64.ofNat lost.toNat / Binary64.ofNat sent.toNat * rateScale

/-- The counters with the rate they give. -/
def withRate (s : Stats) : Stats := { s with rate := rateOf s.sent s.lost }

/-- The greatest value of a counter. -/
def counterMax : UInt64 := 0xffffffffffffffff

def recordSent (s : Stats) : Recorded :=
  if s.sent = counterMax then ⟨s, some .counterOverflow⟩
  else ⟨withRate { s with sent := s.sent + 1 }, none⟩

def recordReply (s : Stats) : Recorded := ⟨withRate { s with streak := 0 }, none⟩

def recordTimeout (s : Stats) : Recorded :=
  if s.sent ≤ s.lost then ⟨s, some .timeoutWithoutSend⟩
  else if s.streak = counterMax then ⟨{ s with lost := s.lost + 1 }, some .counterOverflow⟩
  else ⟨withRate { s with lost := s.lost + 1, streak := s.streak + 1 }, none⟩

def record (s : Stats) : Event → Recorded
  | .sent => s.recordSent
  | .reply => s.recordReply
  | .timeout => s.recordTimeout

/-- Record events in order, up to the first that fails. -/
def recordAll (s : Stats) : List Event → Recorded
  | [] => ⟨s, none⟩
  | e :: es =>
    match s.record e with
    | ⟨s, none⟩ => s.recordAll es
    | failed => failed

/-- A probe that is counted without a fault is one more. -/
theorem sent_recordSent {s : Stats} (h : s.recordSent.fault = none) :
    s.recordSent.stats.sent.toNat = s.sent.toNat + 1 := by
  unfold recordSent at h ⊢
  split at h
  · simp at h
  · rename_i hmax
    have hlt := s.sent.toNat_lt
    have hne : s.sent.toNat ≠ 2 ^ 64 - 1 := fun he => hmax (UInt64.toNat_inj.1 he)
    simp only [hmax, if_false, withRate]
    rw [UInt64.toNat_add]
    exact Nat.mod_eq_of_lt (by change s.sent.toNat + 1 < 2 ^ 64; omega)

/-- Counting a loss leaves the number of probes as it is. -/
theorem sent_recordTimeout (s : Stats) : s.recordTimeout.stats.sent = s.sent := by
  unfold recordTimeout
  split
  · rfl
  · split <;> rfl

/-- The rate as a percentage. -/
def lossPercent (s : Stats) : Binary64 := s.rate / .ofNat 100

end Stats
end LossProbe
