import LossProbe.Proofs.WorkerLife

/-!
# Cycle after cycle

A cycle ends in one of three ways (`Goes`): its probe spent the budget, a reply came, or none came.
`probes` makes cycles one after the other, whatever the run looks like and however the budget is
set for each of them, and no cycle of ordered counters fails. A run makes nothing but cycles: all
of them are awaited, except for a last one that spends the budget (`run_madeOfCycles`).
-/

namespace LossProbe.Probe

open Stats (counterMax)

variable {σ : Type}

namespace Outcome

/-- Whether a cycle waited for a reply to its probe. -/
def isAwaited : Outcome → Bool
  | .reply | .timeout _ => true
  | _ => false

/-- Whether a cycle waited in vain. -/
def isTimeout : Outcome → Bool
  | .timeout _ => true
  | _ => false

@[simp] theorem isTimeout_reply : isTimeout .reply = false := rfl
@[simp] theorem isTimeout_timeout (b : Bool) : isTimeout (.timeout b) = true := rfl
@[simp] theorem isTimeout_budgetExhausted : isTimeout .budgetExhausted = false := rfl
@[simp] theorem isTimeout_faulted (f : Stats.Fault) : isTimeout (.faulted f) = false := rfl

@[simp] theorem isAwaited_reply : isAwaited .reply = true := rfl
@[simp] theorem isAwaited_timeout (b : Bool) : isAwaited (.timeout b) = true := rfl
@[simp] theorem isAwaited_budgetExhausted : isAwaited .budgetExhausted = false := rfl

end Outcome

/-! ## One cycle -/

open Worker in
/-- All that a cycle can be, where the counters are ordered and have room for its probe. -/
inductive Goes (world : Surroundings σ) (c : ProbeConfig) (t : Target) (s : Stats) (state : σ) :
    Cycle σ → Prop
  /-- The probe spent the budget, and its reply is not awaited. -/
  | spent (spent : c.maxProbes ≤ s.addSent.sent) :
    Goes world c t s state
      ⟨⟨s.addSent, .budgetExhausted, sendNotices t (world.send state t).1⟩, (world.send state t).2⟩
  /-- A reply came. -/
  | replied (left : s.addSent.sent < c.maxProbes)
      (answered : (world.receive (world.send state t).2).1 = .datagram) :
    Goes world c t s state
      ⟨⟨s.addSent.addReply, .reply, sendNotices t (world.send state t).1⟩, world.cycle t state⟩
  /-- No reply came, and the loss is counted and reported. -/
  | lost (left : s.addSent.sent < c.maxProbes)
      (missed : (world.receive (world.send state t).2).1 ≠ .datagram) :
    Goes world c t s state
      ⟨⟨s.addSent.addLoss, .timeout (isSustained c s.addSent.addLoss),
        sendNotices t (world.send state t).1 ++
          missNotices t (world.receive (world.send state t).2).1 ++
          lossNotices c t s.addSent.addLoss⟩, world.cycle t state⟩

section Cycle

variable {world : Surroundings σ} {c : ProbeConfig} {t : Target} {s : Stats} {state : σ}

/-- Where there is room for several probes, there is room for the next one. -/
theorem sent_ne_counterMax {n : Nat} (room : s.sent.toNat + (n + 1) ≤ counterMax.toNat) :
    s.sent ≠ counterMax := by
  intro hmax
  rw [hmax] at room
  omega

/-- Within the budget there is room for one more probe. -/
theorem sent_ne_counterMax_of_lt (left : s.sent.toNat < c.maxProbes.toNat) :
    s.sent ≠ counterMax :=
  Stats.ne_counterMax_of_lt (UInt64.lt_iff_toNat_lt.2 left)

/-- After a send not all that was sent is lost. -/
theorem lost_lt_sent_addSent (ordered : s.Ordered) (room : s.sent ≠ counterMax) :
    s.addSent.lost < s.addSent.sent := by
  have hle := UInt64.le_iff_toNat_le.1 ordered.lost_le_sent
  apply UInt64.lt_iff_toNat_lt.2
  rw [Stats.lost_addSent, Stats.toNat_sent_addSent room]
  omega

/-- Every cycle goes one of the three ways. -/
theorem probeOnce_goes (world : Surroundings σ) (c : ProbeConfig) (t : Target) (state : σ)
    (ordered : s.Ordered) (room : s.sent ≠ counterMax) :
    Goes world c t s state (probeOnce world c t s state) := by
  have hrec : s.recordSent = ⟨s.addSent, none⟩ := if_neg room
  -- The last probe is not awaited; any other is answered or lost.
  by_cases hspent : c.maxProbes ≤ s.addSent.sent
  · have hsend : send c t s (world.send state t).1 =
        ⟨s.addSent, .budgetExhausted, sendNotices t (world.send state t).1⟩ := by
      simp [send, hrec, hspent]
    simp only [probeOnce, hsend]
    exact .spent hspent
  · have hsend : send c t s (world.send state t).1 =
        ⟨s.addSent, .awaiting, sendNotices t (world.send state t).1⟩ := by
      simp [send, hrec, hspent]
    have hleft := UInt64.not_le.1 hspent
    simp only [probeOnce, hsend]
    by_cases hr : (world.receive (world.send state t).2).1 = .datagram
    · have hsettle : settle t s.addSent (world.receive (world.send state t).2).1 =
          ⟨s.addSent.addReply, .reply, []⟩ := by rw [hr]; rfl
      simp only [hsettle, List.append_nil]
      exact .replied hleft hr
    · have hunlost := lost_lt_sent_addSent ordered room
      have hlose := Worker.lose_of_lt (ordered.addSent room) hunlost
      simp only [Worker.settle_of_ne_datagram hr, hlose]
      exact .lost hleft hr

/-- A cycle keeps counters ordered, counts its probe, and does not fail. -/
theorem Goes.keeps {cycle : Cycle σ} (h : Goes world c t s state cycle) (ordered : s.Ordered)
    (room : s.sent ≠ counterMax) :
    cycle.stats.Ordered ∧ cycle.stats.sent.toNat = s.sent.toNat + 1 ∧
      ∀ fault, cycle.outcome ≠ .faulted fault := by
  have hsent := Stats.toNat_sent_addSent room
  have hordered := ordered.addSent room
  cases h with
  | spent => exact ⟨hordered, hsent, by simp⟩
  | replied => exact ⟨hordered.addReply, hsent, by simp⟩
  | lost =>
    exact ⟨hordered.addLoss (lost_lt_sent_addSent ordered room), hsent, by simp⟩

/-- A cycle is awaited exactly within the budget. -/
theorem Goes.isAwaited_iff {cycle : Cycle σ} (h : Goes world c t s state cycle) :
    cycle.outcome.isAwaited = true ↔ s.addSent.sent < c.maxProbes := by
  cases h with
  | spent spent => simp [UInt64.not_lt.2 spent]
  | replied left => simp [left]
  | lost left => simp [left]

/-- A cycle beyond the budget counts its probe and nothing else. -/
theorem Goes.of_spent {cycle : Cycle σ} (h : Goes world c t s state cycle)
    (spent : c.maxProbes ≤ s.addSent.sent) :
    cycle.outcome = .budgetExhausted ∧ cycle.stats = s.addSent := by
  cases h with
  | spent => exact ⟨rfl, rfl⟩
  | replied left => exact absurd left (UInt64.not_lt.2 spent)
  | lost left => exact absurd left (UInt64.not_lt.2 spent)

/-- A cycle within the budget whose wait finds a datagram counts a reply. -/
theorem Goes.of_answered {cycle : Cycle σ} (h : Goes world c t s state cycle)
    (left : s.addSent.sent < c.maxProbes)
    (answered : (world.receive (world.send state t).2).1 = .datagram) :
    cycle.outcome = .reply ∧ cycle.stats = s.addSent.addReply := by
  cases h with
  | spent spent => exact absurd left (UInt64.not_lt.2 spent)
  | replied => exact ⟨rfl, rfl⟩
  | lost _ missed => exact absurd answered missed

/-- A cycle within the budget whose wait finds none counts a loss. -/
theorem Goes.of_missed {cycle : Cycle σ} (h : Goes world c t s state cycle)
    (left : s.addSent.sent < c.maxProbes)
    (missed : (world.receive (world.send state t).2).1 ≠ .datagram) :
    cycle.outcome = .timeout (isSustained c s.addSent.addLoss) ∧
      cycle.stats = s.addSent.addLoss := by
  cases h with
  | spent spent => exact absurd left (UInt64.not_lt.2 spent)
  | replied _ answered => exact absurd answered missed
  | lost => exact ⟨rfl, rfl⟩

/-- A cycle that is awaited is one whole cycle of the surroundings. -/
theorem Goes.after_eq {cycle : Cycle σ} (h : Goes world c t s state cycle)
    (awaited : cycle.outcome.isAwaited = true) : cycle.after = world.cycle t state := by
  cases h with
  | spent => cases awaited
  | replied => rfl
  | lost => rfl

end Cycle

/-! ## One after the other -/

section Probes

/-- One cycle, and the record of it. -/
def probe (world : Surroundings σ) (c : ProbeConfig) (t : Target) (x : Stats × σ)
    (budget : UInt64) : (Stats × σ) × List (Cycle σ) :=
  let cycle := probeOnce world { c with maxProbes := budget } t x.1 x.2
  ((cycle.stats, cycle.after), [cycle])

/-- Cycles one after the other, whether or not the run is cancelled or a budget spent: the counters
    and the surroundings after them, and the record of all. Each cycle has a budget of its own. -/
def probes (world : Surroundings σ) (c : ProbeConfig) (t : Target) (x : Stats × σ)
    (budgets : List UInt64) : (Stats × σ) × List (Cycle σ) :=
  Machine.run (probe world c t) x budgets

/-- So many cycles of one worker. -/
def cycles (world : Surroundings σ) (c : ProbeConfig) (t : Target) (x : Stats × σ) (n : Nat) :
    (Stats × σ) × List (Cycle σ) :=
  probes world c t x (List.replicate n c.maxProbes)

/-- All that some cycles showed. -/
def shownBy (made : List (Cycle σ)) : List Notice := made.flatMap fun cycle => cycle.notices

variable {world : Surroundings σ} {c : ProbeConfig} {t : Target} {s : Stats} {state : σ}

/-- The first probe is made under the first budget, and the others go on from there. -/
theorem probes_cons (world : Surroundings σ) (c : ProbeConfig) (t : Target) (x : Stats × σ)
    (budget : UInt64) (budgets : List UInt64) :
    probes world c t x (budget :: budgets) =
      let cycle := probeOnce world { c with maxProbes := budget } t x.1 x.2
      let rest := probes world c t (cycle.stats, cycle.after) budgets
      (rest.1, cycle :: rest.2) := rfl

/-- The first of some cycles is made, and the others go on from there. -/
theorem cycles_succ (world : Surroundings σ) (c : ProbeConfig) (t : Target) (x : Stats × σ)
    (n : Nat) :
    cycles world c t x (n + 1) =
      let cycle := probeOnce world c t x.1 x.2
      let rest := cycles world c t (cycle.stats, cycle.after) n
      (rest.1, cycle :: rest.2) := rfl

/-- To make one cycle is to send one probe and see what becomes of it. -/
theorem cycles_one (world : Surroundings σ) (c : ProbeConfig) (t : Target) (x : Stats × σ) :
    cycles world c t x 1 =
      let cycle := probeOnce world c t x.1 x.2
      ((cycle.stats, cycle.after), [cycle]) := rfl

/-- The last of several cycles comes after the others. -/
theorem cycles_snoc (world : Surroundings σ) (c : ProbeConfig) (t : Target) (x : Stats × σ)
    (n : Nat) :
    cycles world c t x (n + 1) =
      let before := cycles world c t x n
      let cycle := probeOnce world c t before.1.1 before.1.2
      ((cycle.stats, cycle.after), before.2 ++ [cycle]) := by
  have happend := Machine.run_append (probe world c t) x (List.replicate n c.maxProbes)
    [c.maxProbes]
  rw [← List.replicate_succ'] at happend
  exact happend

/-- Each budget makes one probe. -/
theorem length_probes (world : Surroundings σ) (c : ProbeConfig) (t : Target) (x : Stats × σ)
    (budgets : List UInt64) : (probes world c t x budgets).2.length = budgets.length := by
  induction budgets generalizing x with
  | nil => rfl
  | cons budget budgets ih => rw [probes_cons, List.length_cons, ih, List.length_cons]

/-- As many cycles are made as are asked for. -/
theorem length_cycles (world : Surroundings σ) (c : ProbeConfig) (t : Target) (x : Stats × σ)
    (n : Nat) : (cycles world c t x n).2.length = n := by
  rw [cycles, length_probes, List.length_replicate]

/-- Cycles keep counters ordered and count their probes, and none of them fails, as long as there
    is room for all the probes. -/
theorem probes_keep (world : Surroundings σ) (c : ProbeConfig) (t : Target) (ordered : s.Ordered)
    (state : σ) (budgets : List UInt64)
    (room : s.sent.toNat + budgets.length ≤ counterMax.toNat) :
    (probes world c t (s, state) budgets).1.1.Ordered ∧
      (probes world c t (s, state) budgets).1.1.sent.toNat = s.sent.toNat + budgets.length ∧
      ∀ cycle ∈ (probes world c t (s, state) budgets).2, ∀ fault,
        cycle.outcome ≠ .faulted fault := by
  induction budgets generalizing s state with
  | nil => exact ⟨ordered, rfl, fun _ h => nomatch h⟩
  | cons budget budgets ih =>
    rw [List.length_cons] at room
    have hroom := sent_ne_counterMax room
    have goes := probeOnce_goes world { c with maxProbes := budget } t state ordered hroom
    obtain ⟨hordered, hsent, hsound⟩ := goes.keeps ordered hroom
    obtain ⟨ihordered, ihsent, ihsound⟩ := ih hordered _ (by omega)
    -- Each probe counts one, and none of them ends in a fault as long as there is room.
    refine ⟨ihordered, ?_, ?_⟩
    · rw [List.length_cons]
      exact ihsent.trans (by omega)
    · intro cycle hmem
      cases hmem with
      | head => exact hsound
      | tail _ hmem => exact ihsound cycle hmem

end Probes

/-! ## A run -/

/-- How many probes of a worker that stopped for this reason were not awaited. -/
def unawaited : StopReason → Nat
  | .cancelled => 0
  | .budgetExhausted => 1

/-- A life is made of some cycles within the budget and, if it was not cancelled, one more that
    spends it. It shows what these show, and then that the worker stopped. -/
def MadeOfCycles (world : Surroundings σ) (c : ProbeConfig) (t : Target) (s : Stats) (state : σ)
    (life : Life σ) : Prop :=
  ∃ m reason,
    let made := cycles world c t (s, state) (m + unawaited reason)
    life = ⟨⟨made.1.1, .stopped reason,
      shownBy made.2 ++ [Worker.stopNotice t made.1.1 reason]⟩, made.1.2⟩ ∧
    (m = 0 ∨ s.sent.toNat + m < c.maxProbes.toNat) ∧
    (reason = .budgetExhausted → c.maxProbes.toNat ≤ s.sent.toNat + m + 1)

namespace MadeOfCycles

variable {world : Surroundings σ} {c : ProbeConfig} {t : Target} {s : Stats} {state : σ}
  {cycle : Cycle σ}

/-- Probes within the budget in numbers. -/
private theorem left_toNat (room : s.sent ≠ counterMax) (left : s.addSent.sent < c.maxProbes) :
    s.sent.toNat + 1 < c.maxProbes.toNat := by
  have hlt := UInt64.lt_iff_toNat_lt.1 left
  rwa [Stats.toNat_sent_addSent room] at hlt

/-- A worker that stays within its budget has room for one more probe. -/
theorem room_after (ordered : s.Ordered) (room : s.sent ≠ counterMax)
    (goes : Goes world c t s state cycle) (awaited : cycle.outcome.isAwaited = true) :
    cycle.stats.sent ≠ counterMax := by
  obtain ⟨-, hsent, -⟩ := goes.keeps ordered room
  have hleft := left_toNat room (goes.isAwaited_iff.1 awaited)
  exact sent_ne_counterMax_of_lt (c := c) (by omega)

/-- A life that ends after its first cycle, as the run was cancelled meanwhile. -/
theorem cancelled (room : s.sent ≠ counterMax) (made : probeOnce world c t s state = cycle)
    (goes : Goes world c t s state cycle) (awaited : cycle.outcome.isAwaited = true) :
    MadeOfCycles world c t s state ⟨⟨cycle.stats, .stopped .cancelled,
      cycle.notices ++ [Worker.stopNotice t cycle.stats .cancelled]⟩, cycle.after⟩ := by
  refine ⟨1, .cancelled, ?_, .inr (left_toNat room (goes.isAwaited_iff.1 awaited)), nofun⟩
  subst made
  simp [unawaited, cycles_one, shownBy]

/-- A life that spends its budget at once. -/
theorem spent (room : s.sent ≠ counterMax) (made : probeOnce world c t s state = cycle)
    (goes : Goes world c t s state cycle) (last : cycle.outcome = .budgetExhausted) :
    MadeOfCycles world c t s state ⟨⟨cycle.stats, .stopped .budgetExhausted,
      cycle.notices ++ [Worker.stopNotice t cycle.stats .budgetExhausted]⟩, cycle.after⟩ := by
  refine ⟨0, .budgetExhausted, ?_, .inl rfl, ?_⟩
  · subst made
    simp [unawaited, cycles_one, shownBy]
  · intro _
    -- The loop ends with the budget only when what was sent has reached it.
    have hspent : ¬ s.addSent.sent < c.maxProbes := by
      rw [← goes.isAwaited_iff, last]
      simp
    have hle := UInt64.le_iff_toNat_le.1 (UInt64.not_lt.1 hspent)
    rw [Stats.toNat_sent_addSent room] at hle
    omega

/-- A life that goes on after its first cycle. -/
theorem cons (ordered : s.Ordered) (room : s.sent ≠ counterMax)
    (made : probeOnce world c t s state = cycle) (goes : Goes world c t s state cycle)
    (awaited : cycle.outcome.isAwaited = true) {rest : Life σ}
    (h : MadeOfCycles world c t cycle.stats cycle.after rest) :
    MadeOfCycles world c t s state { rest with notices := cycle.notices ++ rest.notices } := by
  -- The rest is `m` cycles more, with one probe less to send.
  obtain ⟨m, reason, rfl, hwithin, hspent⟩ := h
  have hleft := left_toNat room (goes.isAwaited_iff.1 awaited)
  obtain ⟨-, hsent, -⟩ := goes.keeps ordered room
  refine ⟨m + 1, reason, ?_, ?_, ?_⟩
  · subst made
    rw [Nat.add_right_comm, cycles_succ]
    simp [shownBy]
  · omega
  · intro hreason
    have := hspent hreason
    omega

end MadeOfCycles

open MadeOfCycles (room_after) in
/-- Every run of a worker with ordered counters and room for a probe is made of cycles. -/
theorem run_madeOfCycles (world : Surroundings σ) (c : ProbeConfig) (t : Target) {s : Stats}
    (state : σ) (ordered : s.Ordered) (room : s.sent ≠ counterMax) :
    MadeOfCycles world c t s state (run world c t s state) := by
  -- The counters stay ordered and have room as long as the worker is within its budget.
  fun_induction run world c t s state with
  | case1 s state seen =>
    refine ⟨0, .cancelled, rfl, .inl rfl, ?_⟩
    intro h
    cases h
  | case2 s state free cycle fault ho =>
    -- So no cycle fails.
    have goes : Goes world c t s state cycle := probeOnce_goes world c t _ ordered room
    exact absurd ho ((goes.keeps ordered room).2.2 fault)
  | case3 s state free cycle ho =>
    exact .spent room rfl (probeOnce_goes world c t _ ordered room) ho
  | case4 s state free cycle ho seen =>
    exact .cancelled room rfl (probeOnce_goes world c t _ ordered room) (by rw [ho]; rfl)
  | case5 s state free cycle ho free' rest ih =>
    have goes : Goes world c t s state cycle := probeOnce_goes world c t _ ordered room
    have awaited : cycle.outcome.isAwaited = true := by rw [ho]; rfl
    exact .cons ordered room rfl goes awaited
      (ih (goes.keeps ordered room).1 (room_after ordered room goes awaited))
  | case6 s state free cycle sustained ho seen =>
    exact .cancelled room rfl (probeOnce_goes world c t _ ordered room) (by rw [ho]; rfl)
  | case7 s state free cycle sustained ho free' rest ih =>
    have goes : Goes world c t s state cycle := probeOnce_goes world c t _ ordered room
    have awaited : cycle.outcome.isAwaited = true := by rw [ho]; rfl
    exact .cons ordered room rfl goes awaited
      (ih (goes.keeps ordered room).1 (room_after ordered room goes awaited))

end LossProbe.Probe

/-! ## Simulated cycles -/

namespace LossProbe.Simulation.Lone

open Probe
open Stats (counterMax)

/-- Cycles of a simulated worker are such cycles, as long as there is room for all their probes. -/
theorem probes_eq_cycles (c : ProbeConfig) (t : Target) {s : Stats} (l : Lone) (n : Nat)
    (ordered : s.Ordered) (room : s.sent.toNat + n ≤ counterMax.toNat) :
    probes c t s l n = (cycles surroundings c t (s, l) n).2 := by
  induction n generalizing s l with
  | zero => rfl
  | succ n ih =>
    have hroom := sent_ne_counterMax room
    have goes := probeOnce_goes surroundings c t l ordered hroom
    obtain ⟨hordered, hsent, hsound⟩ := goes.keeps ordered hroom
    have hrest := ih (probeOnce surroundings c t s l).after hordered (by omega)
    rw [cycles_succ, probes]
    -- None of these cycles ends the others by a fault.
    split
    · rename_i fault hfault
      exact absurd hfault (hsound fault)
    · rw [hrest]

end LossProbe.Simulation.Lone
