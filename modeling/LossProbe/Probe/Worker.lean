import LossProbe.Probe.Cycle

/-! # The worker of one device

A worker sends one probe after the other. Before each probe, and after the outcome of each is
counted and reported, it looks whether the run was cancelled; it never gives up a wait. It stops
when the budget of its device is spent, and its last probe is not awaited.

`Worker.step` takes a worker from one moment to the next. `run` takes it through its whole life in
surroundings that answer its probes. -/

namespace LossProbe.Probe

/-- Where a worker is. -/
inductive Phase where
  /-- It has not begun. -/
  | created
  /-- It is about to send a probe. -/
  | ready
  /-- A probe is under way. -/
  | awaiting
  /-- A loss was counted and is about to be reported. -/
  | lost
  | stopped (reason : StopReason)
  | faulted (fault : Stats.Fault)
  /-- It was ended from outside. -/
  | aborted
deriving DecidableEq, Repr

namespace Phase

/-- Whether the worker will do anything more. -/
def isRunning : Phase → Bool
  | created | ready | awaiting | lost => true
  | _ => false

end Phase

structure Worker where
  target : Target
  phase : Phase := .created
deriving DecidableEq, Repr

/-- What a worker finds when its turn comes: the result of a send, if it is about to send, and
the end of the wait, if it waits. -/
structure Moment where
  sent : Except IoError Unit := .ok ()
  received : Reception := .timedOut

namespace Worker

/-- Leave the loop. -/
def stopNotice (t : Target) (s : Stats) (reason : StopReason) : Notice :=
  .log (.workerStopped t.ip reason s.sent s.lost)

/-- Send the next probe, unless the run was cancelled. -/
def begin (c : ProbeConfig) (cancelled : Bool) (t : Target) (s : Stats)
    (result : Except IoError Unit) : Step Phase :=
  if cancelled then ⟨s, .stopped .cancelled, [stopNotice t s .cancelled]⟩
  else
    let step := send c t s result
    match step.outcome with
    | .awaiting => { step with outcome := .awaiting }
    | .budgetExhausted =>
      ⟨step.stats, .stopped .budgetExhausted,
        step.notices ++ [stopNotice t step.stats .budgetExhausted]⟩
    | .faulted fault => { step with outcome := .faulted fault }

/-- End a cycle that did this, and stop if the run was cancelled. -/
def finish (cancelled : Bool) (t : Target) (s : Stats) (notices : List Notice) : Step Phase :=
  if cancelled then ⟨s, .stopped .cancelled, notices ++ [stopNotice t s .cancelled]⟩
  else ⟨s, .ready, notices⟩

/-- End a wait. A reply ends the cycle too. -/
def receive (cancelled : Bool) (t : Target) (s : Stats) (r : Reception) : Step Phase :=
  let step := settle t s r
  match step.outcome with
  | .faulted fault => { step with outcome := .faulted fault }
  | .lost => { step with outcome := .lost }
  | .reply => finish cancelled t step.stats step.notices

/-- One turn of a worker. -/
def step (c : ProbeConfig) (cancelled : Bool) (w : Worker) (s : Stats) (m : Moment) :
    Step Phase :=
  match w.phase with
  | .created =>
    let step := begin c cancelled w.target s m.sent
    { step with
      notices := .log (.workerStarted w.target.ip w.target.version w.target.dest) :: step.notices }
  | .ready => begin c cancelled w.target s m.sent
  | .awaiting => receive cancelled w.target s m.received
  | .lost => finish cancelled w.target s (lossNotices c w.target s)
  | phase => ⟨s, phase, []⟩

end Worker

/-- What answers a worker that runs alone, with a state of its own. -/
structure Surroundings (σ : Type) where
  isCancelled : σ → Bool
  send : σ → Target → Except IoError Unit × σ
  receive : σ → Reception × σ

/-- How one cycle ended. -/
inductive Outcome where
  | reply
  /-- No reply came. The loss is `sustained` where it calls for a warning. -/
  | timeout (sustained : Bool)
  | budgetExhausted
  | faulted (fault : Stats.Fault)
deriving DecidableEq, Repr

/-- A cycle that has ended, and the state of the surroundings. -/
structure Cycle (σ : Type) extends Step Outcome where
  after : σ

/-- One probe from sending to reporting. -/
def probeOnce {σ : Type} (world : Surroundings σ) (c : ProbeConfig) (t : Target) (s : Stats)
    (state : σ) : Cycle σ :=
  let (result, state) := world.send state t
  let sent := send c t s result
  match sent.outcome with
  | .faulted fault => ⟨⟨sent.stats, .faulted fault, sent.notices⟩, state⟩
  | .budgetExhausted => ⟨⟨sent.stats, .budgetExhausted, sent.notices⟩, state⟩
  | .awaiting =>
    let (reception, state) := world.receive state
    let settled := settle t sent.stats reception
    let notices := sent.notices ++ settled.notices
    match settled.outcome with
    | .faulted fault => ⟨⟨settled.stats, .faulted fault, notices⟩, state⟩
    | .reply => ⟨⟨settled.stats, .reply, notices⟩, state⟩
    | .lost =>
      ⟨⟨settled.stats, .timeout (isSustained c settled.stats),
        notices ++ lossNotices c t settled.stats⟩, state⟩

/-- How a worker ended. -/
inductive End where
  | stopped (reason : StopReason)
  | faulted (fault : Stats.Fault)
deriving DecidableEq, Repr

/-- The life of a worker that has ended, and the state of the surroundings. -/
structure Life (σ : Type) extends Step End where
  after : σ

/-- A probe that is awaited was counted, and the budget has room for another. -/
theorem send_awaiting {c : ProbeConfig} {t : Target} {s : Stats} {r : Except IoError Unit}
    (h : (send c t s r).outcome = .awaiting) :
    (send c t s r).stats.sent.toNat = s.sent.toNat + 1 ∧
      s.sent.toNat + 1 < c.maxProbes.toNat := by
  simp only [send] at h ⊢
  split at h
  · simp at h
  · rename_i hfault
    have hsent := Stats.sent_recordSent hfault
    split at h
    · simp at h
    · rename_i hle
      have := UInt64.lt_iff_toNat_lt.1 (UInt64.not_le.1 hle)
      exact ⟨hsent, by omega⟩

/-- The end of a wait sends nothing. -/
theorem settle_sent (t : Target) (s : Stats) (r : Reception) :
    (settle t s r).stats.sent = s.sent := by
  cases r with
  | datagram => rfl
  | failed cause => exact Stats.sent_recordTimeout s
  | timedOut => exact Stats.sent_recordTimeout s

/-- A cycle that does not end the worker counts one more probe, within the budget. -/
theorem probeOnce_sent {σ : Type} {world : Surroundings σ} {c : ProbeConfig} {t : Target}
    {s : Stats} {state : σ}
    (h : (probeOnce world c t s state).outcome = .reply ∨
      ∃ b, (probeOnce world c t s state).outcome = .timeout b) :
    (probeOnce world c t s state).stats.sent.toNat = s.sent.toNat + 1 ∧
      s.sent.toNat + 1 < c.maxProbes.toNat := by
  unfold probeOnce at h ⊢
  dsimp only at h ⊢
  split at h
  · simp at h
  · simp at h
  · rename_i hsent
    have hsettled := settle_sent t (send c t s (world.send state t).1).stats
      (world.receive (world.send state t).2).1
    split <;> (rw [hsettled]; exact send_awaiting hsent)

/-- Run a worker from its first probe until it ends. -/
def run {σ : Type} (world : Surroundings σ) (c : ProbeConfig) (t : Target) (s : Stats)
    (state : σ) : Life σ :=
  if world.isCancelled state then
    ⟨⟨s, .stopped .cancelled, [Worker.stopNotice t s .cancelled]⟩, state⟩
  else
    let cycle := probeOnce world c t s state
    match _h : cycle.outcome with
    | .faulted fault => ⟨⟨cycle.stats, .faulted fault, cycle.notices⟩, cycle.after⟩
    | .budgetExhausted =>
      ⟨⟨cycle.stats, .stopped .budgetExhausted,
        cycle.notices ++ [Worker.stopNotice t cycle.stats .budgetExhausted]⟩, cycle.after⟩
    | .reply | .timeout _ =>
      -- The outcome is counted and reported before the run is looked at again.
      if world.isCancelled cycle.after then
        ⟨⟨cycle.stats, .stopped .cancelled,
          cycle.notices ++ [Worker.stopNotice t cycle.stats .cancelled]⟩, cycle.after⟩
      else
        let rest := run world c t cycle.stats cycle.after
        { rest with notices := cycle.notices ++ rest.notices }
termination_by c.maxProbes.toNat - s.sent.toNat
decreasing_by
  all_goals
    have hsent : (probeOnce world c t s state).outcome = .reply ∨
        ∃ b, (probeOnce world c t s state).outcome = .timeout b := by
      first
        | exact Or.inl _h
        | exact Or.inr ⟨_, _h⟩
    have := probeOnce_sent hsent
    omega

/-- The whole life of a worker, with the log entry it begins with. -/
def live {σ : Type} (world : Surroundings σ) (c : ProbeConfig) (t : Target) (s : Stats)
    (state : σ) : Life σ :=
  let life := run world c t s state
  { life with notices := .log (.workerStarted t.ip t.version t.dest) :: life.notices }

end LossProbe.Probe
