import LossProbe.Proofs.WorkerTurns
import LossProbe.Simulation.Lone

/-!
# The life of a worker in its surroundings

`Solo` is a worker that takes its turns in surroundings of its own, and `Solo.Reaches` says what it
did up to a moment between two turns. `run` goes exactly this way (`run_reaches`), so what holds of
turns holds of every run: its books balance at every moment (`worker_accounts`), and the number of
its probes and the reason of its end are fixed by its budget and by the first look that finds the
run cancelled (`worker_budget`).
-/

namespace LossProbe.Probe

open Stats (counterMax)

/-- A worker that runs alone, and the state of its surroundings. -/
structure Solo (σ : Type) where
  worker : Worker
  stats : Stats
  state : σ

variable {σ : Type}

namespace Surroundings

/-- What a worker in this phase meets at its next turn, and the state of the surroundings then. -/
def meet (world : Surroundings σ) (t : Target) (state : σ) : Phase → Turn × σ
  | .created | .ready =>
    if world.isCancelled state then (⟨true, {}⟩, state)
    else (⟨false, { sent := (world.send state t).1 }⟩, (world.send state t).2)
  | .awaiting =>
    let answer := world.receive state
    (⟨world.isCancelled answer.2, { received := answer.1 }⟩, answer.2)
  | _ => (⟨world.isCancelled state, {}⟩, state)

/-- The state of the surroundings after a probe was sent and its answer awaited. -/
def cycle (world : Surroundings σ) (t : Target) (state : σ) : σ :=
  (world.receive (world.send state t).2).2

/-- The state of the surroundings after so many cycles. -/
def afterCycles (world : Surroundings σ) (t : Target) (state : σ) : Nat → σ
  | 0 => state
  | n + 1 => world.cycle t (world.afterCycles t state n)

end Surroundings

namespace Solo

variable (world : Surroundings σ) (c : ProbeConfig)

/-- The turn that a worker takes next. -/
def taken (x : Solo σ) : Taken :=
  let turn := (world.meet x.worker.target x.state x.worker.phase).1
  ⟨x.worker.phase, turn, x.worker.step c turn.cancelled x.stats turn.moment⟩

/-- A worker after its next turn. -/
def next (x : Solo σ) : Solo σ :=
  let step := (x.taken world c).step
  ⟨{ x.worker with phase := step.outcome }, step.stats,
    (world.meet x.worker.target x.state x.worker.phase).2⟩

/-- A worker takes these turns from one moment to another. -/
inductive Reaches : Solo σ → List Taken → Solo σ → Prop
  | refl (x : Solo σ) : Reaches x [] x
  | turn {x : Solo σ} {past : List Taken} {y : Solo σ} (running : x.worker.phase.isRunning = true)
      (rest : Reaches (x.next world c) past y) : Reaches x (x.taken world c :: past) y

variable {world c} {x y z : Solo σ} {past more : List Taken}

/-- What is reached from a place that is reached is reached, by the turns of both ways. -/
theorem Reaches.trans (h : Reaches world c x past y) (g : Reaches world c y more z) :
    Reaches world c x (past ++ more) z := by
  induction h with
  | refl => exact g
  | turn running rest ih => exact .turn running (ih g)

/-- A single turn. -/
theorem Reaches.single (running : x.worker.phase.isRunning = true) :
    Reaches world c x [x.taken world c] (x.next world c) :=
  .turn running (.refl _)

/-- There is one way to the end. -/
theorem Reaches.unique (h : Reaches world c x past y) (g : Reaches world c x more z)
    (hy : y.worker.phase.isRunning = false) (hz : z.worker.phase.isRunning = false) :
    past = more ∧ y = z := by
  induction h generalizing more with
  | refl x =>
    -- A run stops only where the worker no longer runs, so both stop at the same place.
    cases g with
    | refl => exact ⟨rfl, rfl⟩
    | turn running rest => simp [hy] at running
  | turn running rest ih =>
    cases g with
    | refl => simp [hz] at running
    | turn _ rest' =>
      obtain ⟨rfl, hyz⟩ := ih rest' hy
      exact ⟨rfl, hyz⟩

/-- The turns in given surroundings are turns among all turns. -/
theorem Reaches.play (h : Reaches world c x past y) :
    Probe.play c (x.worker, x.stats) (past.map Taken.turn) = ((y.worker, y.stats), past) := by
  induction h with
  | refl x => rfl
  | @turn x past y running rest ih =>
    -- What the surroundings make a worker meet is a turn like any other.
    have hturn : takeTurn c (x.worker, x.stats) (x.taken world c).turn =
        (((x.next world c).worker, (x.next world c).stats), [x.taken world c]) := rfl
    have happend := play_append c (x.worker, x.stats) [(x.taken world c).turn]
      (past.map Taken.turn)
    rw [play_singleton, hturn] at happend
    simpa [ih] using happend

end Solo

/-! ## One cycle, turn by turn -/

namespace Worker

variable {c : ProbeConfig} {t : Target} {s : Stats}

/-- A worker between two cycles sends, whether or not it is its first probe. -/
theorem step_of_isIdle {p : Phase} (idle : p.isIdle = true) (cancelled : Bool) (m : Moment) :
    step c cancelled ⟨t, p⟩ s m =
      { begin c cancelled t s m.sent with
        notices := opening t p ++ (begin c cancelled t s m.sent).notices } := by
  cases p <;> first | rfl | cases idle

/-- What a worker shows when it leaves its loop. -/
def closing (t : Target) (s : Stats) : Phase → List Notice
  | .stopped reason => [stopNotice t s reason]
  | _ => []

end Worker

/-- Where the end of a cycle leads. -/
def Outcome.leadsTo (cancelled : Bool) : Outcome → Phase
  | .reply | .timeout _ => .afterCycle cancelled
  | .budgetExhausted => .stopped .budgetExhausted
  | .faulted fault => .faulted fault

/-- The phase of a worker that has ended. -/
def End.phase : End → Phase
  | .stopped reason => .stopped reason
  | .faulted fault => .faulted fault

/-- A worker that has come to an end does not run. -/
theorem End.isRunning_phase (e : End) : e.phase.isRunning = false := by cases e <;> rfl

namespace Solo

open Worker

variable {world : Surroundings σ} {c : ProbeConfig} {t : Target} {s : Stats} {state : σ}
  {p : Phase}

/-- A worker that is about to send meets what its surroundings make of the probe. -/
theorem meet_of_isIdle (idle : p.isIdle = true) (free : world.isCancelled state = false) :
    world.meet t state p =
      (⟨false, { sent := (world.send state t).1 }⟩, (world.send state t).2) := by
  have hready : world.meet t state .ready =
      (⟨false, { sent := (world.send state t).1 }⟩, (world.send state t).2) := by
    simp [Surroundings.meet, free]
  cases p <;> first | exact hready | cases idle

/-- A worker that finds the run cancelled sends nothing, and leaves its surroundings as they are. -/
theorem meet_of_isIdle_of_cancelled (idle : p.isIdle = true)
    (seen : world.isCancelled state = true) : world.meet t state p = (⟨true, {}⟩, state) := by
  have hready : world.meet t state .ready = (⟨true, {}⟩, state) := by
    simp [Surroundings.meet, seen]
  cases p <;> first | exact hready | cases idle

/-- A turn that finds the run cancelled before a send. -/
theorem reaches_halt (idle : p.isIdle = true) (seen : world.isCancelled state = true) :
    Reaches world c ⟨⟨t, p⟩, s, state⟩
      [⟨p, ⟨true, {}⟩, ⟨s, .stopped .cancelled, opening t p ++ [stopNotice t s .cancelled]⟩⟩]
      ⟨⟨t, .stopped .cancelled⟩, s, state⟩ := by
  have hmeet : world.meet t state p = _ := meet_of_isIdle_of_cancelled idle seen
  have hsingle : Reaches world c ⟨⟨t, p⟩, s, state⟩ _ _ :=
    .single (Phase.isRunning_of_isIdle idle)
  simpa only [next, taken, hmeet, step_of_isIdle idle, begin, if_true] using hsingle

/-- The turn in which a probe is sent. -/
theorem reaches_begin (idle : p.isIdle = true) (free : world.isCancelled state = false) :
    Reaches world c ⟨⟨t, p⟩, s, state⟩
      [⟨p, ⟨false, { sent := (world.send state t).1 }⟩,
        { begin c false t s (world.send state t).1 with
          notices := opening t p ++ (begin c false t s (world.send state t).1).notices }⟩]
      ⟨⟨t, (begin c false t s (world.send state t).1).outcome⟩,
        (begin c false t s (world.send state t).1).stats, (world.send state t).2⟩ := by
  have hmeet : world.meet t state p = _ := meet_of_isIdle idle free
  have hsingle : Reaches world c ⟨⟨t, p⟩, s, state⟩ _ _ :=
    .single (Phase.isRunning_of_isIdle idle)
  simpa only [next, taken, hmeet, step_of_isIdle idle] using hsingle

/-- The turn that ends a wait. -/
theorem reaches_receive (world : Surroundings σ) (c : ProbeConfig) (t : Target) (s : Stats)
    (state : σ) :
    let answer := world.receive state
    let step := receive (world.isCancelled answer.2) t s answer.1
    Reaches world c ⟨⟨t, .awaiting⟩, s, state⟩
      [⟨.awaiting, ⟨world.isCancelled answer.2, { received := answer.1 }⟩, step⟩]
      ⟨⟨t, step.outcome⟩, step.stats, answer.2⟩ :=
  Reaches.single rfl

/-- The turn in which a loss is reported. -/
theorem reaches_report :
    Reaches world c ⟨⟨t, .lost⟩, s, state⟩
      [⟨.lost, ⟨world.isCancelled state, {}⟩,
        finish (world.isCancelled state) t s (lossNotices c t s)⟩]
      ⟨⟨t, .afterCycle (world.isCancelled state)⟩, s, state⟩ := by
  have hsingle : Reaches world c ⟨⟨t, .lost⟩, s, state⟩ _ _ := .single rfl
  simpa only [next, taken, Surroundings.meet, step, finish_eq] using hsingle

/-- A worker logs its end after a cycle where the run was cancelled. -/
theorem closing_afterCycle (cancelled : Bool) (t : Target) (s : Stats) :
    closing t s (.afterCycle cancelled) =
      if cancelled then [stopNotice t s .cancelled] else [] := by
  cases cancelled <;> rfl

/-- A cycle is made of turns, and shows what they show. -/
def CycleReaches (world : Surroundings σ) (c : ProbeConfig) (t : Target) (p : Phase) (s : Stats)
    (state : σ) (cycle : Cycle σ) : Prop :=
  let q := cycle.outcome.leadsTo (world.isCancelled cycle.after)
  ∃ past, Reaches world c ⟨⟨t, p⟩, s, state⟩ past ⟨⟨t, q⟩, cycle.stats, cycle.after⟩ ∧
    noticesOf past = opening t p ++ (cycle.notices ++ closing t cycle.stats q)

/-- A life is made of turns, and shows what they show. -/
def LifeReaches (world : Surroundings σ) (c : ProbeConfig) (t : Target) (p : Phase) (s : Stats)
    (state : σ) (life : Life σ) : Prop :=
  ∃ past, Reaches world c ⟨⟨t, p⟩, s, state⟩ past
      ⟨⟨t, life.outcome.phase⟩, life.stats, life.after⟩ ∧
    noticesOf past = opening t p ++ life.notices

/-- The turns of a cycle are its send, the end of its wait, and the report of a loss. -/
theorem reaches_cycle (idle : p.isIdle = true) (free : world.isCancelled state = false) :
    CycleReaches world c t p s state (probeOnce world c t s state) := by
  have hbegin := reaches_begin (c := c) (t := t) (s := s) idle free
  -- A cycle ends after its send, after its wait, or with the report of its loss.
  rcases hsend : send c t s (world.send state t).1 with ⟨s₁, outcome, ns⟩
  cases outcome with
  | faulted fault =>
    simp only [begin, hsend, Bool.false_eq_true, if_false] at hbegin
    simp only [CycleReaches, probeOnce, hsend, Outcome.leadsTo]
    exact ⟨_, hbegin, by simp [noticesOf, closing]⟩
  | budgetExhausted =>
    simp only [begin, hsend, Bool.false_eq_true, if_false] at hbegin
    simp only [CycleReaches, probeOnce, hsend, Outcome.leadsTo]
    exact ⟨_, hbegin, by simp [noticesOf, closing]⟩
  | awaiting =>
    simp only [begin, hsend, Bool.false_eq_true, if_false] at hbegin
    have hreceive := reaches_receive world c t s₁ (world.send state t).2
    rcases hsettle : settle t s₁ (world.receive (world.send state t).2).1 with ⟨s₂, outcome, ms⟩
    cases outcome with
    | faulted fault =>
      simp only [receive, hsettle] at hreceive
      simp only [CycleReaches, probeOnce, hsend, hsettle, Outcome.leadsTo]
      exact ⟨_, hbegin.trans hreceive, by simp [noticesOf, closing]⟩
    | reply =>
      simp only [receive, hsettle, finish_eq] at hreceive
      simp only [CycleReaches, probeOnce, hsend, hsettle, Outcome.leadsTo]
      exact ⟨_, hbegin.trans hreceive, by simp [noticesOf, closing_afterCycle]⟩
    | lost =>
      simp only [receive, hsettle] at hreceive
      simp only [CycleReaches, probeOnce, hsend, hsettle, Outcome.leadsTo]
      exact ⟨_, (hbegin.trans hreceive).trans reaches_report,
        by simp [noticesOf, closing_afterCycle, finish_eq]⟩

/-- A cycle after which a worker stops is the last of its life. -/
theorem CycleReaches.stops {cycle : Cycle σ} (h : CycleReaches world c t p s state cycle) {e : End}
    {shown : List Notice} (hq : cycle.outcome.leadsTo (world.isCancelled cycle.after) = e.phase)
    (hshown : cycle.notices ++ closing t cycle.stats e.phase = shown) :
    LifeReaches world c t p s state ⟨⟨cycle.stats, e, shown⟩, cycle.after⟩ := by
  simpa only [CycleReaches, LifeReaches, hq, hshown] using h

/-- A cycle after which a worker is ready again is followed by the rest of its life. -/
theorem CycleReaches.goesOn {cycle : Cycle σ} (h : CycleReaches world c t p s state cycle)
    {rest : Life σ} (hrest : LifeReaches world c t .ready cycle.stats cycle.after rest)
    (hq : cycle.outcome.leadsTo (world.isCancelled cycle.after) = .ready) :
    LifeReaches world c t p s state { rest with notices := cycle.notices ++ rest.notices } := by
  simp only [CycleReaches, hq] at h
  obtain ⟨past, hreach, hnotices⟩ := h
  obtain ⟨more, hmore, hnotices'⟩ := hrest
  refine ⟨past ++ more, hreach.trans hmore, ?_⟩
  simp [hnotices, hnotices', opening, closing]

end Solo

/-! ## A whole run, turn by turn -/

open Solo in
/-- A run goes through the turns of its worker up to the end, and shows what they show. -/
theorem run_reaches (world : Surroundings σ) (c : ProbeConfig) (t : Target) (s : Stats) (state : σ)
    {p : Phase} (idle : p.isIdle = true) :
    LifeReaches world c t p s state (run world c t s state) := by
  -- Later cycles begin in another phase than the first, so the phase is part of the induction.
  fun_induction run world c t s state generalizing p with
  | case1 s state seen => exact ⟨_, reaches_halt idle seen, by simp [noticesOf]⟩
  | case2 s state free cycle fault =>
    rename_i ho
    exact (reaches_cycle idle (Bool.eq_false_iff.2 free)).stops (by rw [ho]; rfl)
      (List.append_nil _)
  | case3 s state free cycle =>
    rename_i ho
    exact (reaches_cycle idle (Bool.eq_false_iff.2 free)).stops (by rw [ho]; rfl) rfl
  | case4 s state free cycle ho =>
    rename_i seen
    exact (reaches_cycle idle (Bool.eq_false_iff.2 free)).stops (by rw [ho, seen]; rfl) rfl
  | case5 s state free cycle ho free' rest =>
    rename_i ih
    exact (reaches_cycle idle (Bool.eq_false_iff.2 free)).goesOn (ih rfl)
      (by rw [ho, Bool.eq_false_iff.2 free']; rfl)
  | case6 s state free cycle sustained ho =>
    rename_i seen
    exact (reaches_cycle idle (Bool.eq_false_iff.2 free)).stops (by rw [ho, seen]; rfl) rfl
  | case7 s state free cycle sustained ho free' rest =>
    rename_i ih
    exact (reaches_cycle idle (Bool.eq_false_iff.2 free)).goesOn (ih rfl)
      (by rw [ho, Bool.eq_false_iff.2 free']; rfl)

/-- A worker alone, before its first turn. -/
def Solo.created (t : Target) (s : Stats) (state : σ) : Solo σ := ⟨⟨t, .created⟩, s, state⟩

/-- The turns of a worker whose life in these surroundings ends for this reason. -/
structure Lived (world : Surroundings σ) (c : ProbeConfig) (t : Target) (s : Stats) (state : σ)
    (reason : StopReason) (past : List Taken) : Prop where
  outcome : (live world c t s state).outcome = .stopped reason
  reaches : Solo.Reaches world c (.created t s state) past
    ⟨⟨t, .stopped reason⟩, (live world c t s state).stats, (live world c t s state).after⟩
  notices : noticesOf past = (live world c t s state).notices

section Budget

variable {world : Surroundings σ} {c : ProbeConfig} {t : Target} {start : Stats} {state : σ}

/-- The books of a worker are in order at every moment of a run. -/
theorem accounted_reaches {past : List Taken} {x : Solo σ} (ordered : start.Ordered)
    (room : start.sent ≠ counterMax) (h : Solo.Reaches world c (.created t start state) past x) :
    Accounted start x.worker.phase x.stats past := by
  have hplay := accounted_play c t (p := .created) ordered room rfl (past.map Taken.turn)
  have hreach := h.play
  simp only [Solo.created] at hreach
  rwa [hreach] at hplay

/-- Where the turns of a worker come to an end, its life does. -/
theorem lived_of_reaches {past : List Taken} {reason : StopReason} {s : Stats} {last : σ}
    (h : Solo.Reaches world c (.created t start state) past ⟨⟨t, .stopped reason⟩, s, last⟩) :
    Lived world c t start state reason past ∧ (live world c t start state).stats = s ∧
      (live world c t start state).after = last := by
  obtain ⟨past', hreach, hnotices⟩ := run_reaches world c t start state (p := .created) rfl
  -- The run reaches its own end by turns too, and there is only one way to an end.
  obtain ⟨rfl, heq⟩ := h.unique hreach rfl (End.isRunning_phase _)
  simp only [Solo.mk.injEq, Worker.mk.injEq, true_and] at heq
  obtain ⟨hphase, rfl, rfl⟩ := heq
  have houtcome : (run world c t start state).outcome = .stopped reason := by
    cases ho : (run world c t start state).outcome with
    | stopped r =>
      rw [ho] at hphase
      cases hphase
      rfl
    | faulted fault =>
      rw [ho] at hphase
      cases hphase
  exact ⟨⟨houtcome, h, hnotices⟩, rfl, rfl⟩

/-- Every life of a worker with ordered counters ends for a reason. -/
theorem exists_lived (world : Surroundings σ) (c : ProbeConfig) (t : Target) (state : σ)
    (ordered : start.Ordered) (room : start.sent ≠ counterMax) :
    ∃ reason past, Lived world c t start state reason past := by
  obtain ⟨past, hreach, -⟩ := run_reaches world c t start state (p := .created) rfl
  -- The only other way to end is a fault, and no fault is in the books.
  have hsound := (accounted_reaches ordered room hreach).sound
  cases ho : (run world c t start state).outcome with
  | stopped reason =>
    rw [ho] at hreach
    exact ⟨reason, past, (lived_of_reaches hreach).1⟩
  | faulted fault =>
    rw [ho] at hsound
    exact absurd rfl (hsound fault)

/-! ## Cycles within the budget -/

/-- A turn that finds the run going on sends a probe, and leads where the probe does. -/
theorem reaches_of_begin {p q : Phase} {s s' : Stats} {now : σ} {shown : List Notice}
    (idle : p.isIdle = true) (free : world.isCancelled now = false)
    (h : Worker.begin c false t s (world.send now t).1 = ⟨s', q, shown⟩) :
    ∃ k, Solo.Reaches world c ⟨⟨t, p⟩, s, now⟩ [k] ⟨⟨t, q⟩, s', (world.send now t).2⟩ ∧
      k.phase = p := by
  have hbegin : Solo.Reaches world c ⟨⟨t, p⟩, s, now⟩ _ _ := Solo.reaches_begin idle free
  simp only [h] at hbegin
  exact ⟨_, hbegin, rfl⟩

open Worker in
/-- A wait ends the cycle, at once with a reply and otherwise with the report of the loss. -/
theorem reaches_wait {s : Stats} {now : σ} (ordered : s.Ordered) (unlost : s.lost < s.sent) :
    ∃ past s', Solo.Reaches world c ⟨⟨t, .awaiting⟩, s, now⟩ past
        ⟨⟨t, .afterCycle (world.isCancelled (world.receive now).2)⟩, s', (world.receive now).2⟩ ∧
      s'.sent = s.sent ∧ waits past = 1 := by
  have hreceive := Solo.reaches_receive world c t s now
  dsimp only at hreceive
  by_cases hr : (world.receive now).1 = .datagram
  · rw [hr, receive_datagram] at hreceive
    exact ⟨_, _, hreceive, rfl, by simp [waits_singleton]⟩
  · rw [receive_of_missed ordered hr unlost] at hreceive
    exact ⟨_, _, hreceive.trans Solo.reaches_report, rfl, by simp [waits]⟩

/-- The phase of a worker after so many cycles. -/
def phaseAfter (world : Surroundings σ) (t : Target) (state : σ) : Nat → Phase
  | 0 => .created
  | n + 1 => .afterCycle (world.isCancelled (world.afterCycles t state (n + 1)))

/-- After some cycles a worker in a run that is not cancelled is about to send. -/
theorem phaseAfter_isIdle {n : Nat}
    (free : world.isCancelled (world.afterCycles t state n) = false) :
    (phaseAfter world t state n).isIdle = true := by
  cases n with
  | zero => rfl
  | succ n => simp [phaseAfter, free, Phase.afterCycle, Phase.isIdle]

/-- A worker that finds the run going on after so many cycles is ready for the next one, and its
    counter has room for a probe more. -/
theorem ready_of_reaches {past : List Taken} {s : Stats} {n : Nat} (ordered : start.Ordered)
    (room : start.sent ≠ counterMax)
    (h : Solo.Reaches world c (.created t start state) past
      ⟨⟨t, phaseAfter world t state n⟩, s, world.afterCycles t state n⟩)
    (free : world.isCancelled (world.afterCycles t state n) = false) :
    (phaseAfter world t state n).isIdle = true ∧ s.sent ≠ counterMax ∧
      s.addSent.sent.toNat = s.sent.toNat + 1 := by
  have hidle := phaseAfter_isIdle free
  have hroom : s.sent ≠ counterMax :=
    (accounted_reaches ordered room h).room (Phase.isRunning_of_isIdle hidle)
  exact ⟨hidle, hroom, Stats.toNat_sent_addSent hroom⟩

/-- A worker that finds the run going on before each of its first `n` cycles goes through all of
    them, as long as they stay within its budget. -/
theorem reaches_cycles (ordered : start.Ordered) (room : start.sent ≠ counterMax) (n : Nat)
    (within : n = 0 ∨ start.sent.toNat + n < c.maxProbes.toNat)
    (free : ∀ k < n, world.isCancelled (world.afterCycles t state k) = false) :
    ∃ past s, Solo.Reaches world c (.created t start state) past
        ⟨⟨t, phaseAfter world t state n⟩, s, world.afterCycles t state n⟩ ∧
      s.sent.toNat = start.sent.toNat + n ∧ waits past = n := by
  induction n with
  | zero => exact ⟨[], start, .refl _, rfl, rfl⟩
  | succ n ih =>
    obtain ⟨past, s, hreach, hsent, hwaits⟩ :=
      ih (.inr (by omega)) fun k hk => free k (by omega)
    have hfree := free n (by omega)
    obtain ⟨hidle, hroom, hadd⟩ := ready_of_reaches ordered room hreach hfree
    have hleft : s.addSent.sent < c.maxProbes := UInt64.lt_iff_toNat_lt.2 (by omega)
    -- The probe goes out, and from then on fewer are lost than sent.
    obtain ⟨k, hsend, hk⟩ := reaches_of_begin hidle hfree (Worker.begin_of_left hroom hleft _)
    have hout := hreach.trans hsend
    have hbooks := accounted_reaches ordered room hout
    obtain ⟨more, s', hwait, hsent', hmore⟩ :=
      reaches_wait hbooks.ordered (hbooks.lost_lt_sent ordered)
    refine ⟨_, s', hout.trans hwait, ?_, ?_⟩
    · rw [hsent', hadd]
      omega
    · rw [waits_append, waits_append, waits_singleton, hwaits, hmore, hk,
        if_neg (Phase.ne_awaiting_of_isIdle hidle)]

/-- How many probes a worker sends unless the run is cancelled: at least one, as the budget is
    looked at after a send. -/
def budget (c : ProbeConfig) (start : Stats) : Nat :=
  max 1 (c.maxProbes.toNat - start.sent.toNat)

/-- Without a look that finds the run cancelled, a worker spends its budget and does not wait for an
    answer to its last probe. -/
theorem lived_of_free (ordered : start.Ordered) (room : start.sent ≠ counterMax)
    (free : ∀ k < budget c start, world.isCancelled (world.afterCycles t state k) = false) :
    ∃ past, Lived world c t start state .budgetExhausted past ∧
      attempts past = budget c start ∧ waits past = budget c start - 1 := by
  have hbudget : budget c start = max 1 (c.maxProbes.toNat - start.sent.toNat) := rfl
  -- All cycles but the last are whole; the last is a send alone.
  obtain ⟨past, s, hreach, hsent, hwaits⟩ :=
    reaches_cycles (c := c) ordered room (budget c start - 1) (by omega) fun k hk =>
      free k (by omega)
  have hfree := free (budget c start - 1) (by omega)
  obtain ⟨hidle, hroom, hadd⟩ := ready_of_reaches ordered room hreach hfree
  have hspent : c.maxProbes ≤ s.addSent.sent := UInt64.le_iff_toNat_le.2 (by omega)
  obtain ⟨k, hlast, hk⟩ := reaches_of_begin hidle hfree (Worker.begin_of_spent hroom hspent _)
  have hend := hreach.trans hlast
  refine ⟨_, (lived_of_reaches hend).1, ?_, ?_⟩
  · have hcount : s.addSent.sent.toNat = _ := (accounted_reaches ordered room hend).sent
    omega
  · rw [waits_append, waits_singleton, hwaits, hk, if_neg (Phase.ne_awaiting_of_isIdle hidle),
      Nat.add_zero]

/-- The first look that finds the run cancelled ends a worker, after whole cycles only. -/
theorem lived_of_cancelled (ordered : start.Ordered) (room : start.sent ≠ counterMax) {n : Nat}
    (hn : n < budget c start)
    (free : ∀ k < n, world.isCancelled (world.afterCycles t state k) = false)
    (seen : world.isCancelled (world.afterCycles t state n) = true) :
    ∃ past, Lived world c t start state .cancelled past ∧ attempts past = n ∧ waits past = n ∧
      (n = 0 → (live world c t start state).stats = start) := by
  have hbudget : budget c start = max 1 (c.maxProbes.toNat - start.sent.toNat) := rfl
  -- Cancelled before the first probe, or after `n + 1` cycles.
  cases n with
  | zero =>
    obtain ⟨hlived, hstats, -⟩ :=
      lived_of_reaches (Solo.reaches_halt (c := c) (s := start) rfl seen)
    exact ⟨_, hlived, by simp [attempts_singleton, sendCount_append], rfl, fun _ => hstats⟩
  | succ n =>
    obtain ⟨past, s, hreach, hsent, hwaits⟩ :=
      reaches_cycles (c := c) ordered room (n + 1) (by omega) free
    have hcount : s.sent.toNat = _ := (accounted_reaches ordered room hreach).sent
    simp only [phaseAfter, seen, Phase.afterCycle, if_true] at hreach
    exact ⟨past, (lived_of_reaches hreach).1, by omega, hwaits, by simp⟩

end Budget

/-! ## Main results -/

/-- The books of a worker that begins with ordered counters and room for one more probe. They are in
    order after any turns at all, whatever the network answers and wherever the run is cancelled, so
    no counter ever fails. In given surroundings they are in order at every moment of the run; it
    always ends for a reason, with all its probes answered or lost if it was cancelled, and with one
    more, the last, if its budget was spent. -/
theorem worker_accounts (world : Surroundings σ) (c : ProbeConfig) (t : Target) (state : σ)
    {start : Stats} (ordered : start.Ordered) (room : start.sent < counterMax) :
    (∀ turns, Accounted start (play c (⟨t, .created⟩, start) turns).1.1.phase
      (play c (⟨t, .created⟩, start) turns).1.2 (play c (⟨t, .created⟩, start) turns).2) ∧
    (∀ past x, Solo.Reaches world c (.created t start state) past x →
      Accounted start x.worker.phase x.stats past) ∧
    ∃ reason past, Lived world c t start state reason past ∧
      (live world c t start state).stats.sent.toNat = start.sent.toNat + attempts past ∧
      attempts past = replies past +
        ((live world c t start state).stats.lost.toNat - start.lost.toNat) +
          match reason with
          | .cancelled => 0
          | .budgetExhausted => 1 := by
  have hroom := Stats.ne_counterMax_of_lt room
  obtain ⟨reason, past, hlived⟩ := exists_lived world c t state ordered hroom
  have hbooks := accounted_reaches ordered hroom hlived.reaches
  refine ⟨accounted_play c t ordered hroom rfl, fun past x => accounted_reaches ordered hroom,
    reason, past, hlived, hbooks.sent, ?_⟩
  cases reason with
  | cancelled => exact hbooks.attempted
  | budgetExhausted => exact hbooks.attempted

/-- A worker with losses behind it, before a peer that answers its first probe only. -/
theorem worker_accounts_of_losses :
    let t : Target := ⟨.v4 127 0 0 5, .v3, 2340⟩
    let start : Stats := { sent := 5, lost := 3, streak := 2 }
    let lone : Simulation.Lone := ⟨{}, { ip := t.ip, script := [.answer 1] }, false, none⟩
    start.Ordered ∧ start.sent < counterMax ∧
      ∃ reason past,
        Lived Simulation.Lone.surroundings { maxProbes := 8 } t start lone reason past ∧
        attempts past = replies past +
          ((live Simulation.Lone.surroundings { maxProbes := 8 } t start lone).stats.lost.toNat - 3) +
            match reason with
            | .cancelled => 0
            | .budgetExhausted => 1 := by
  intro t start lone
  have ordered : start.Ordered := ⟨by decide, by decide⟩
  have room : start.sent < counterMax := by decide
  obtain ⟨-, -, reason, past, hlived, -, hattempted⟩ :=
    worker_accounts Simulation.Lone.surroundings { maxProbes := 8 } t lone ordered room
  exact ⟨ordered, room, reason, past, hlived, hattempted⟩

/-- The end of a worker that begins with ordered counters and room for one more probe, where
    `afterCycles k` is what its looks before the next and after the last of `k` cycles see. If none
    of them finds the run cancelled before the budget is spent, exactly the budget is sent, and all
    but the last probe are awaited. If a look finds it cancelled after `n` cycles within the budget,
    exactly `n` probes are sent, awaited and recorded; a run that is cancelled at the start changes
    nothing. Whatever the turns are, after a look that finds the run cancelled nothing is sent and
    no counter changes. -/
theorem worker_budget (world : Surroundings σ) (c : ProbeConfig) (t : Target) (state : σ)
    {start : Stats} (ordered : start.Ordered) (room : start.sent < counterMax) :
    ((∀ k < budget c start, world.isCancelled (world.afterCycles t state k) = false) →
      ∃ past, Lived world c t start state .budgetExhausted past ∧
        attempts past = budget c start ∧ waits past = budget c start - 1) ∧
    (∀ n < budget c start, (∀ k < n, world.isCancelled (world.afterCycles t state k) = false) →
      world.isCancelled (world.afterCycles t state n) = true →
      ∃ past, Lived world c t start state .cancelled past ∧ attempts past = n ∧ waits past = n ∧
        replies past + ((live world c t start state).stats.lost.toNat - start.lost.toNat) = n ∧
        (n = 0 → (live world c t start state).stats = start)) ∧
    ∀ before turn,
      let now := (play c (⟨t, .created⟩, start) before).1
      now.1.phase.looks turn = true → turn.cancelled = true → ∀ after,
        (takeTurn c now turn).1.1.phase = .stopped .cancelled ∧
        (now.1.phase ≠ .awaiting → (takeTurn c now turn).1.2 = now.2) ∧
        (play c now (turn :: after)).1 = (takeTurn c now turn).1 ∧
        attempts (play c now (turn :: after)).2 = 0 := by
  have hroom := Stats.ne_counterMax_of_lt room
  refine ⟨lived_of_free ordered hroom, ?_, ?_⟩
  · intro n hn free seen
    obtain ⟨past, hlived, hattempts, hwaits, hzero⟩ :=
      lived_of_cancelled ordered hroom hn free seen
    have hbooks := (accounted_reaches ordered hroom hlived.reaches).attempted
    simp only [Phase.inFlight_cancelled] at hbooks
    exact ⟨past, hlived, hattempts, hwaits, by omega, hzero⟩
  · intro before turn now looks seen after
    exact play_of_cancelled c (accounted_play c t ordered hroom rfl before).ordered looks seen after

/-- A run that is cancelled when its first probe arrives, which is still awaited and recorded. -/
theorem worker_budget_of_first_probe :
    let t : Target := ⟨.v4 127 0 0 5, .v2, 2335⟩
    let lone : Simulation.Lone := ⟨{}, { ip := t.ip }, false, some 1⟩
    Stats.Ordered {} ∧ ({} : Stats).sent < counterMax ∧ 1 < budget {} {} ∧
      ∃ past, Lived Simulation.Lone.surroundings {} t {} lone .cancelled past ∧
        attempts past = 1 ∧ waits past = 1 := by
  intro t lone
  have room : ({} : Stats).sent < counterMax := by decide
  have hbudget : 1 < budget {} {} := by decide
  -- The run is cancelled after the first cycle, not before.
  have free : ∀ k < 1, Simulation.Lone.surroundings.isCancelled
      (Simulation.Lone.surroundings.afterCycles t lone k) = false := by
    intro k hk
    obtain rfl : k = 0 := by omega
    rfl
  obtain ⟨past, hlived, hattempts, hwaits, -⟩ :=
    (worker_budget Simulation.Lone.surroundings {} t lone Stats.ordered_zero room).2.1 1 hbudget
      free rfl
  exact ⟨Stats.ordered_zero, room, hbudget, past, hlived, hattempts, hwaits⟩

end LossProbe.Probe
