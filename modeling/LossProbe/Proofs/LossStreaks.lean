import LossProbe.Proofs.ProbeCycles
import Mathlib.Data.List.Induction

/-!
# Streaks of losses

A reply ends a streak of losses, and a cycle beyond the budget neither lengthens nor ends one. The
counters only tell how long the streak is now, and a loss calls for a warning where that is just the
length to warn at. Over a whole history this makes one warning for each streak that gets so long,
and none for the others (`warnings_eq_streaks`).
-/

namespace LossProbe.Probe

open Stats (counterMax)

/-! ## Streaks in a history -/

/-- How long the streak is after a cycle, where it was so long before. -/
def Outcome.extend (before : Nat) : Outcome → Nat
  | .reply => 0
  | .timeout _ => before + 1
  | _ => before

@[simp] theorem Outcome.extend_reply (n : Nat) : extend n .reply = 0 := rfl
@[simp] theorem Outcome.extend_timeout (n : Nat) (b : Bool) : extend n (.timeout b) = n + 1 := rfl
@[simp] theorem Outcome.extend_budgetExhausted (n : Nat) : extend n .budgetExhausted = n := rfl
@[simp] theorem Outcome.extend_faulted (n : Nat) (f : Stats.Fault) : extend n (.faulted f) = n := rfl

/-- Only a reply makes the streak shorter. -/
theorem Outcome.le_extend {o : Outcome} (h : o ≠ .reply) (n : Nat) : n ≤ o.extend n := by
  cases o with
  | reply => exact absurd rfl h
  | timeout => exact Nat.le_succ n
  | budgetExhausted => exact Nat.le_refl n
  | faulted => exact Nat.le_refl n

/-- How many waits were in vain since the last reply, and `before` more if there was no reply. -/
def streakAfter (before : Nat) (os : List Outcome) : Nat :=
  (os.reverse.takeWhile (· ≠ .reply)).countP Outcome.isTimeout + if .reply ∈ os then 0 else before

/-- 1 for a streak that was shorter than `limit` and is not after `n` more losses, else 0. -/
def reaching (limit before n : Nat) : Nat := if before < limit ∧ limit ≤ before + n then 1 else 0

/-- How many streaks get as long as `limit`. Replies lie between the streaks, and the first one is
    `before` long in the beginning. -/
def streaksReaching (limit before : Nat) (os : List Outcome) : Nat :=
  match os.splitOn .reply with
  | [] => 0
  | first :: later =>
    reaching limit before (first.countP Outcome.isTimeout) +
      later.countP fun streak => limit ≤ streak.countP Outcome.isTimeout

section Histories

variable {limit before : Nat} {o : Outcome} {os : List Outcome}

/-- Before any probe the streak is what it was. -/
theorem streakAfter_nil (before : Nat) : streakAfter before [] = before := Nat.zero_add before

/-- The last outcome extends the streak of those before it. -/
theorem streakAfter_snoc (before : Nat) (os : List Outcome) (o : Outcome) :
    streakAfter before (os ++ [o]) = o.extend (streakAfter before os) := by
  cases o with
  | reply => simp [streakAfter]
  | timeout =>
    simp [streakAfter, List.countP_cons]
    omega
  | budgetExhausted => simp [streakAfter]
  | faulted => simp [streakAfter]

/-- The streak is what the outcomes make of it one after the other. -/
theorem streakAfter_eq_foldl (before : Nat) (os : List Outcome) :
    streakAfter before os = os.foldl Outcome.extend before := by
  induction os using List.reverseRecOn with
  | nil => exact streakAfter_nil before
  | append_singleton os o ih => rw [streakAfter_snoc, ih, List.foldl_append]; rfl

/-- The first outcome extends the streak that the others go on from. -/
theorem streakAfter_cons (before : Nat) (o : Outcome) (os : List Outcome) :
    streakAfter before (o :: os) = streakAfter (o.extend before) os := by
  rw [streakAfter_eq_foldl, streakAfter_eq_foldl, List.foldl_cons]

/-- A streak that is not extended does not reach its limit. -/
theorem reaching_zero (limit before : Nat) : reaching limit before 0 = 0 :=
  if_neg (by omega)

/-- A streak from nothing reaches its limit if it is long enough. -/
theorem reaching_zero_left (positive : 0 < limit) (n : Nat) :
    reaching limit 0 n = if limit ≤ n then 1 else 0 := by
  simp [reaching, positive]

/-- A streak reaches its limit with the next loss or with a later one. -/
theorem reaching_succ (limit before n : Nat) :
    reaching limit before (n + 1) =
      (if before + 1 = limit then 1 else 0) + reaching limit (before + 1) n := by
  unfold reaching
  split_ifs <;> omega

/-- The first streak goes on from before, and all others begin behind a reply. -/
theorem streaksReaching_of_splitOn {first : List Outcome} {later : List (List Outcome)}
    (h : os.splitOn .reply = first :: later) (limit before : Nat) :
    streaksReaching limit before os = reaching limit before (first.countP Outcome.isTimeout) +
      later.countP fun streak => limit ≤ streak.countP Outcome.isTimeout := by
  rw [streaksReaching, h]

/-- A reply ends the first streak without making it longer. -/
theorem streaksReaching_reply_cons (positive : 0 < limit) (before : Nat) (os : List Outcome) :
    streaksReaching limit before (.reply :: os) = streaksReaching limit 0 os := by
  obtain ⟨first, later, hsplit⟩ := List.exists_cons_of_ne_nil (List.splitOn_ne_nil .reply os)
  have hcons : (Outcome.reply :: os).splitOn .reply = [] :: first :: later := by
    rw [List.splitOn_cons_eq_if_modifyHead, hsplit]
    rfl
  rw [streaksReaching_of_splitOn hcons, streaksReaching_of_splitOn hsplit, List.countP_nil,
    reaching_zero, reaching_zero_left positive, List.countP_cons]
  simp only [decide_eq_true_eq]
  omega

/-- Any other cycle belongs to the first streak. -/
theorem streaksReaching_cons_of_ne (h : o ≠ .reply) (limit before : Nat) (os : List Outcome) :
    streaksReaching limit before (o :: os) =
      (if o.isTimeout ∧ o.extend before = limit then 1 else 0) +
        streaksReaching limit (o.extend before) os := by
  obtain ⟨first, later, hsplit⟩ := List.exists_cons_of_ne_nil (List.splitOn_ne_nil .reply os)
  -- An outcome that is no reply belongs to the first piece.
  have hcons : (o :: os).splitOn .reply = (o :: first) :: later := by
    rw [List.splitOn_cons_eq_if_modifyHead, hsplit, if_neg (by simpa using h)]
    rfl
  rw [streaksReaching_of_splitOn hcons, streaksReaching_of_splitOn hsplit, List.countP_cons]
  cases o with
  | reply => exact absurd rfl h
  | timeout =>
    show reaching limit before (first.countP Outcome.isTimeout + 1) + _ = _
    rw [reaching_succ, Nat.add_assoc]
    simp
  | budgetExhausted => simp
  | faulted => simp

/-- A streak that was too long in the beginning does not count, however much longer it gets. -/
example : streaksReaching 2 3 [.timeout false, .reply, .timeout false, .budgetExhausted,
    .timeout true, .timeout false] = 1 := by decide

/-! ## Telling of a streak -/

/-- Exactly those waits in vain are told to be sustained that bring the streak to its limit. -/
def Tells (limit before : Nat) (os : List Outcome) : Prop :=
  ∀ i o, os[i]? = some o →
    (o = .timeout true ↔ o.isTimeout ∧ streakAfter before (os.take (i + 1)) = limit)

/-- The first outcome tells what its streak says, and the others go on from there. -/
theorem tells_cons (limit before : Nat) (o : Outcome) (os : List Outcome) :
    Tells limit before (o :: os) ↔
      (o = .timeout true ↔ o.isTimeout ∧ o.extend before = limit) ∧
        Tells limit (o.extend before) os := by
  have hfirst : streakAfter before [o] = o.extend before := by
    rw [streakAfter_cons, streakAfter_nil]
  -- An outcome behind the first one has all but the first in front of it.
  constructor
  · intro h
    constructor
    · rw [← hfirst]
      exact h 0 o rfl
    · intro i o' ho'
      rw [← streakAfter_cons]
      exact h (i + 1) o' ho'
  · rintro ⟨hhead, htail⟩ i o' ho'
    cases i with
    | zero =>
      cases ho'
      rw [← hfirst] at hhead
      exact hhead
    | succ i =>
      rw [List.take_succ_cons, streakAfter_cons]
      exact htail i o' ho'

namespace Tells

/-- As many waits are told to be sustained as there are streaks that get so long. -/
theorem count_eq (positive : 0 < limit) (h : Tells limit before os) :
    os.count (.timeout true) = streaksReaching limit before os := by
  induction os generalizing before with
  | nil => simp [streaksReaching, reaching_zero]
  | cons o os ih =>
    obtain ⟨hhead, htail⟩ := (tells_cons ..).1 h
    rw [List.count_cons, ih htail, Nat.add_comm]
    -- A reply begins another streak; all else belongs to the first one.
    by_cases hreply : o = .reply
    · subst hreply
      rw [streaksReaching_reply_cons positive]
      exact Nat.zero_add _
    · rw [streaksReaching_cons_of_ne hreply]
      simp only [beq_iff_eq, hhead]

/-- After a streak that is too long already, no wait is told to be sustained before a reply. -/
theorem exists_reply_before (h : Tells limit before os) (long : limit ≤ before) {j : Nat}
    (hj : os[j]? = some (.timeout true)) : ∃ k, k < j ∧ os[k]? = some .reply := by
  induction os generalizing before j with
  | nil => cases hj
  | cons o os ih =>
    obtain ⟨hhead, htail⟩ := (tells_cons ..).1 h
    cases j with
    | zero =>
      -- The streak would have to be just at its limit.
      cases hj
      have hlimit := (hhead.1 rfl).2
      rw [Outcome.extend_timeout] at hlimit
      omega
    | succ j =>
      by_cases hreply : o = .reply
      · subst hreply
        exact ⟨0, Nat.succ_pos j, rfl⟩
      · have hlong : limit ≤ o.extend before := Nat.le_trans long (Outcome.le_extend hreply before)
        obtain ⟨k, hk, hreply⟩ := ih htail hlong hj
        exact ⟨k + 1, Nat.succ_lt_succ hk, hreply⟩

/-- Between two waits that are told to be sustained there is a reply. -/
theorem exists_reply_between (h : Tells limit before os) {i j : Nat} (hij : i < j)
    (hi : os[i]? = some (.timeout true)) (hj : os[j]? = some (.timeout true)) :
    ∃ k, i < k ∧ k < j ∧ os[k]? = some .reply := by
  induction os generalizing before i j with
  | nil => cases hi
  | cons o os ih =>
    obtain ⟨hhead, htail⟩ := (tells_cons ..).1 h
    obtain ⟨j, rfl⟩ : ∃ j', j = j' + 1 := ⟨j - 1, by omega⟩
    cases i with
    | zero =>
      -- The first of the two has brought the streak to its limit.
      cases hi
      have hlimit := (hhead.1 rfl).2
      obtain ⟨k, hk, hreply⟩ := htail.exists_reply_before (Nat.le_of_eq hlimit.symm) hj
      exact ⟨k + 1, Nat.succ_pos k, Nat.succ_lt_succ hk, hreply⟩
    | succ i =>
      obtain ⟨k, hik, hkj, hreply⟩ := ih htail (Nat.lt_of_succ_lt_succ hij) hi hj
      exact ⟨k + 1, Nat.succ_lt_succ hik, Nat.succ_lt_succ hkj, hreply⟩

end Tells

end Histories

/-! ## Warnings -/

/-- The warnings among some notices: whom they are about, and how long the streak is. -/
def warnings (notices : List Notice) : List (IpAddr × UInt64) :=
  notices.filterMap fun
    | .log (.sustainedLoss ip streak) => some (ip, streak)
    | _ => none

/-- The warnings in two runs of notices stand one behind the other. -/
@[simp] theorem warnings_append (xs ys : List Notice) :
    warnings (xs ++ ys) = warnings xs ++ warnings ys := List.filterMap_append

/-- Sending warns of nothing. -/
@[simp] theorem warnings_sendNotices (t : Target) (r : Except IoError Unit) :
    warnings (sendNotices t r) = [] := by cases r <;> rfl

/-- The end of a wait warns of nothing. -/
@[simp] theorem warnings_missNotices (t : Target) (r : Reception) :
    warnings (Worker.missNotices t r) = [] := by cases r <;> rfl

/-- The report of a loss warns just where the loss is sustained. -/
theorem warnings_lossNotices (c : ProbeConfig) (t : Target) (s : Stats) :
    warnings (lossNotices c t s) =
      if isSustained c s then [(t.ip, c.warningStreak)] else [] := by
  by_cases h : s.streak = c.warningStreak
  · simp [lossNotices, isSustained, warnings, h]
  · simp [lossNotices, isSustained, warnings, h]

variable {σ : Type} {world : Surroundings σ} {c : ProbeConfig} {t : Target} {s : Stats} {state : σ}

namespace Goes

variable {cycle : Cycle σ}

/-- A cycle does to the streak of the counters what its outcome says. -/
theorem toNat_streak (h : Goes world c t s state cycle) (ordered : s.Ordered)
    (room : s.sent ≠ counterMax) :
    cycle.stats.streak.toNat = cycle.outcome.extend s.streak.toNat := by
  cases h with
  | spent => rfl
  | replied => rfl
  | lost =>
    exact (ordered.addSent room).toNat_streak_addLoss (lost_lt_sent_addSent ordered room)

/-- A loss is told to be sustained where the streak has just the length to warn at. -/
theorem sustained_iff (h : Goes world c t s state cycle) (ordered : s.Ordered)
    (room : s.sent ≠ counterMax) :
    cycle.outcome = .timeout true ↔
      cycle.outcome.isTimeout ∧ cycle.outcome.extend s.streak.toNat = c.warningStreak.toNat := by
  rw [← h.toNat_streak ordered room, UInt64.toNat_inj]
  cases h with
  | spent => simp
  | replied => simp
  | lost => simp [isSustained]

/-- A cycle warns just where it tells of a sustained loss. -/
theorem warnings_eq (h : Goes world c t s state cycle) :
    warnings cycle.notices =
      if cycle.outcome = .timeout true then [(t.ip, c.warningStreak)] else [] := by
  cases h with
  | spent => simp
  | replied => simp
  | lost => simp [warnings_lossNotices]

end Goes

/-- How some cycles ended. -/
def outcomes (made : List (Cycle σ)) : List Outcome := made.map fun cycle => cycle.outcome

/-- Where every cycle warns as its outcome tells, the warnings are as many as the outcomes that
    tell of a sustained loss. -/
theorem warnings_shownBy {made : List (Cycle σ)} {warning : IpAddr × UInt64}
    (h : ∀ cycle ∈ made, warnings cycle.notices =
      if cycle.outcome = .timeout true then [warning] else []) :
    warnings (shownBy made) = List.replicate ((outcomes made).count (.timeout true)) warning := by
  induction made with
  | nil => rfl
  | cons cycle made ih =>
    have hrest := ih fun cycle hmem => h cycle (List.mem_cons_of_mem _ hmem)
    -- The first cycle adds a warning exactly where it adds to the count.
    show warnings (cycle.notices ++ shownBy made) =
      List.replicate ((cycle.outcome :: outcomes made).count (.timeout true)) warning
    rw [warnings_append, h cycle List.mem_cons_self, hrest, List.count_cons]
    by_cases hsustained : cycle.outcome = .timeout true
    · simp [hsustained, List.replicate_succ]
    · simp [hsustained]

/-- Cycles one after the other tell of the streaks, and warn as they tell. -/
theorem probes_tell (world : Surroundings σ) (c : ProbeConfig) (t : Target) (ordered : s.Ordered)
    (state : σ) (budgets : List UInt64)
    (room : s.sent.toNat + budgets.length ≤ counterMax.toNat) :
    let made := (probes world c t (s, state) budgets).2
    Tells c.warningStreak.toNat s.streak.toNat (outcomes made) ∧
      ∀ cycle ∈ made, warnings cycle.notices =
        if cycle.outcome = .timeout true then [(t.ip, c.warningStreak)] else [] := by
  induction budgets generalizing s state with
  | nil => exact ⟨nofun, nofun⟩
  | cons budget budgets ih =>
    rw [List.length_cons] at room
    have hroom := sent_ne_counterMax room
    have goes := probeOnce_goes world { c with maxProbes := budget } t state ordered hroom
    obtain ⟨hordered, hsent, -⟩ := goes.keeps ordered hroom
    obtain ⟨ihtells, ihwarnings⟩ := ih hordered
      (probeOnce world { c with maxProbes := budget } t s state).after (by omega)
    -- The others begin with the streak that this cycle leaves.
    rw [goes.toNat_streak ordered hroom] at ihtells
    constructor
    · exact (tells_cons ..).2 ⟨goes.sustained_iff ordered hroom, ihtells⟩
    · intro cycle hmem
      cases hmem with
      | head => exact goes.warnings_eq
      | tail _ hmem => exact ihwarnings cycle hmem

/-! ## Main result -/

/-- A streak calls for a warning at the threshold, and at its first loss if that is zero. -/
theorem toNat_warningStreak (c : ProbeConfig) :
    c.warningStreak.toNat = max 1 c.lossThreshold.toNat := by
  have hmax : c.warningStreak = if 1 ≤ c.lossThreshold then c.lossThreshold else 1 := rfl
  rw [hmax]
  by_cases h : 1 ≤ c.lossThreshold
  · rw [if_pos h]
    exact (Nat.max_eq_right (UInt64.le_iff_toNat_le.1 h)).symm
  · rw [if_neg h]
    exact (Nat.max_eq_left (UInt64.le_iff_toNat_le.1 (UInt64.le_of_lt (UInt64.not_le.1 h)))).symm

/-- How some cycles warn of the streaks among them, the first of which is `before` long in the
    beginning. -/
structure WarnsOfStreaks (c : ProbeConfig) (t : Target) (before : Nat) (made : List (Cycle σ)) :
    Prop where
  /-- A loss is sustained where the losses since the last reply have just the length to warn at. -/
  tells : Tells (max 1 c.lossThreshold.toNat) before (outcomes made)
  /-- The cycles that tell of a sustained loss log a warning, and the others log none. -/
  logs : ∀ cycle ∈ made, warnings cycle.notices =
    if cycle.outcome = .timeout true then [(t.ip, c.warningStreak)] else []
  /-- Each streak that gets so long warns. -/
  all : warnings (shownBy made) =
    List.replicate (streaksReaching (max 1 c.lossThreshold.toNat) before (outcomes made))
      (t.ip, c.warningStreak)
  /-- No streak warns twice. -/
  once : ∀ i j : Nat, i < j → (outcomes made)[i]? = some (.timeout true) →
    (outcomes made)[j]? = some (.timeout true) →
    ∃ k, i < k ∧ k < j ∧ (outcomes made)[k]? = some .reply

/-- Probes with budgets of any kind warn of the streaks among their outcomes. -/
theorem warnsOfStreaks (world : Surroundings σ) (c : ProbeConfig) (t : Target)
    (ordered : s.Ordered) (state : σ) (budgets : List UInt64)
    (room : s.sent.toNat + budgets.length ≤ counterMax.toNat) :
    WarnsOfStreaks c t s.streak.toNat (probes world c t (s, state) budgets).2 := by
  obtain ⟨htells, hlogs⟩ := probes_tell world c t ordered state budgets room
  rw [toNat_warningStreak] at htells
  refine ⟨htells, hlogs, ?_, fun i j hij hi hj => htells.exists_reply_between hij hi hj⟩
  rw [warnings_shownBy hlogs, htells.count_eq (by omega)]

/-- A run has room for the probes of all its cycles. -/
theorem room_of_within {m : Nat} (room : s.sent ≠ counterMax)
    (within : m = 0 ∨ s.sent.toNat + m < c.maxProbes.toNat) (reason : StopReason) :
    s.sent.toNat + (m + unawaited reason) ≤ counterMax.toNat := by
  have hmax := Stats.toNat_counterMax
  have hbudget := c.maxProbes.toNat_lt
  have hsent := s.sent.toNat_lt
  have hne : s.sent.toNat ≠ counterMax.toNat := fun h => room (UInt64.toNat_inj.1 h)
  have hone : unawaited reason ≤ 1 := by cases reason <;> decide
  omega

/-- One warning for each streak of losses. A cycle tells of a sustained loss, and logs the warning,
    just where it waits in vain and so brings the losses since the last reply to the threshold, to
    one at least; cycles in between whose reply is not awaited do not matter. So the warnings are
    as many as the streaks that get so long. A streak that was longer or as long in the beginning
    does not warn, and none warns twice. A run is made of such cycles and warns as they do. -/
theorem warnings_eq_streaks (world : Surroundings σ) (c : ProbeConfig) (t : Target) {start : Stats}
    (state : σ) (ordered : start.Ordered) :
    (∀ budgets : List UInt64, start.sent.toNat + budgets.length ≤ counterMax.toNat →
      let made := (probes world c t (start, state) budgets).2
      made.length = budgets.length ∧
      (∀ cycle ∈ made, ∀ fault, cycle.outcome ≠ .faulted fault) ∧
      WarnsOfStreaks c t start.streak.toNat made) ∧
    (start.sent < counterMax → ∃ n reason,
      let made := cycles world c t (start, state) n
      run world c t start state = ⟨⟨made.1.1, .stopped reason,
        shownBy made.2 ++ [Worker.stopNotice t made.1.1 reason]⟩, made.1.2⟩ ∧
      WarnsOfStreaks c t start.streak.toNat made.2 ∧
      warnings (run world c t start state).notices = warnings (shownBy made.2)) := by
  constructor
  · intro budgets room made
    obtain ⟨-, -, hsound⟩ := probes_keep world c t ordered state budgets room
    exact ⟨length_probes .., hsound, warnsOfStreaks world c t ordered state budgets room⟩
  · intro room
    have hroom := Stats.ne_counterMax_of_lt room
    -- A whole run is a series of cycles under one budget, and the end shows no warning.
    obtain ⟨m, reason, hrun, hwithin, -⟩ := run_madeOfCycles world c t state ordered hroom
    refine ⟨m + unawaited reason, reason, hrun, ?_, ?_⟩
    · apply warnsOfStreaks world c t ordered state
      rw [List.length_replicate]
      exact room_of_within hroom hwithin reason
    · rw [hrun, warnings_append]
      exact List.append_nil _

/-- A streak that lacked one loss warns, and is not ended by a cycle beyond the budget. The next one
    warns at its second loss. -/
theorem warnings_eq_streaks_of_two :
    let t : Target := ⟨.v4 127 0 0 5, .v2, 2335⟩
    let start : Stats := { sent := 4, lost := 1, streak := 1 }
    let lone : Simulation.Lone :=
      ⟨{}, { ip := t.ip, script := [.answer 0, .answer 0, .answer 0, .answer 1] }, false, none⟩
    let budgets : List UInt64 := [50, 0, 50, 50, 50, 0, 50, 50]
    let made := (probes Simulation.Lone.surroundings {} t (start, lone) budgets).2
    start.Ordered ∧ start.sent.toNat + budgets.length ≤ counterMax.toNat ∧
      outcomes made = [.timeout true, .budgetExhausted, .timeout false, .reply, .timeout false,
        .budgetExhausted, .timeout true, .timeout false] ∧
      warnings (shownBy made) = [(t.ip, 2), (t.ip, 2)] ∧
      start.sent < counterMax ∧
      ∃ n, warnings (run Simulation.Lone.surroundings {} t start lone).notices =
        warnings (shownBy (cycles Simulation.Lone.surroundings {} t (start, lone) n).2) := by
  intro t start lone budgets made
  have ordered : start.Ordered := ⟨by decide, by decide⟩
  have hroom : start.sent.toNat + budgets.length ≤ counterMax.toNat := by decide
  have hroom' : start.sent < counterMax := by decide
  have houtcomes : outcomes made = [.timeout true, .budgetExhausted, .timeout false, .reply,
      .timeout false, .budgetExhausted, .timeout true, .timeout false] := by decide
  obtain ⟨hprobes, hrun⟩ :=
    warnings_eq_streaks Simulation.Lone.surroundings {} t lone ordered
  obtain ⟨-, -, hwarns⟩ := hprobes budgets hroom
  obtain ⟨n, reason, -, -, hnotices⟩ := hrun hroom'
  refine ⟨ordered, hroom, houtcomes, ?_, hroom', n, hnotices⟩
  -- The streaks of the history are counted, and each that is long enough has a warning.
  have hall : warnings (shownBy made) = _ := hwarns.all
  rw [hall, houtcomes]
  decide

end LossProbe.Probe
