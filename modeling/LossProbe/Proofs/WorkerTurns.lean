import LossProbe.Machine
import LossProbe.Probe.Worker
import LossProbe.Proofs.Counters

/-!
# The turns of a worker

A worker is taken from one moment to the next by its turns, and each turn meets an answer of the
network and a state of the run: cancelled, or not. `Move` lists what a turn can be, and `play`
takes a worker through any turns at all. The books of a worker balance after each of them
(`Accounted.move`, `accounted_play`): what was attempted is what was answered, what was lost, and
one more while a probe is under way. Because they balance, no turn finds counters that cannot be
counted on.
-/

namespace LossProbe.Probe

open Stats (counterMax)

/-- What a worker meets at one turn. -/
structure Turn where
  /-- What a look at the state of the run finds. -/
  cancelled : Bool
  moment : Moment := {}

/-- A turn that was taken. -/
structure Taken where
  /-- Where the worker was. -/
  phase : Phase
  turn : Turn
  step : Step Phase

/-! ## Counting what was done -/

namespace Notice

/-- Whether it is an attempt to send a probe. -/
def isSending : Notice → Bool
  | .sending _ => true
  | _ => false

end Notice

/-- How many probes a worker attempted to send. -/
def sendCount (notices : List Notice) : Nat := notices.countP Notice.isSending

/-- The probes in two runs of notices are counted together. -/
theorem sendCount_append (xs ys : List Notice) :
    sendCount (xs ++ ys) = sendCount xs + sendCount ys := List.countP_append

/-- An attempt to send is one probe, whether it succeeds or not. -/
@[simp] theorem sendCount_sendNotices (t : Target) (r : Except IoError Unit) :
    sendCount (sendNotices t r) = 1 := by cases r <;> rfl

/-- The end of a worker sends nothing. -/
@[simp] theorem sendCount_stopNotice (t : Target) (s : Stats) (r : StopReason) :
    sendCount [Worker.stopNotice t s r] = 0 := rfl

/-- The report of a loss sends nothing. -/
@[simp] theorem sendCount_lossNotices (c : ProbeConfig) (t : Target) (s : Stats) :
    sendCount (lossNotices c t s) = 0 := by
  unfold lossNotices
  split <;> rfl

/-- All that a worker did in its turns. -/
def noticesOf (past : List Taken) : List Notice := past.flatMap fun k => k.step.notices

/-- How many probes were attempted. -/
def attempts (past : List Taken) : Nat := sendCount (noticesOf past)

/-- How many waits for an answer have ended. -/
def waits (past : List Taken) : Nat := past.countP fun k => k.phase = .awaiting

/-- How many cycles ended with a reply. -/
def replies (past : List Taken) : Nat :=
  past.countP fun k => k.phase = .awaiting ∧ k.turn.moment.received = .datagram

/-- What was shown in two runs of turns stands one behind the other. -/
@[simp] theorem noticesOf_append (xs ys : List Taken) :
    noticesOf (xs ++ ys) = noticesOf xs ++ noticesOf ys := List.flatMap_append

/-- The probes in two runs of turns are counted together. -/
theorem attempts_append (xs ys : List Taken) : attempts (xs ++ ys) = attempts xs + attempts ys := by
  rw [attempts, noticesOf_append, sendCount_append]
  rfl

/-- The waits in two runs of turns are counted together. -/
theorem waits_append (xs ys : List Taken) : waits (xs ++ ys) = waits xs + waits ys :=
  List.countP_append

/-- The replies in two runs of turns are counted together. -/
theorem replies_append (xs ys : List Taken) : replies (xs ++ ys) = replies xs + replies ys :=
  List.countP_append

/-- The probes of one turn are those that it shows. -/
theorem attempts_singleton (k : Taken) : attempts [k] = sendCount k.step.notices := by
  simp [attempts, noticesOf]

/-- A turn of a worker that waits is one wait. -/
theorem waits_singleton (k : Taken) : waits [k] = if k.phase = .awaiting then 1 else 0 := by
  simp [waits, List.countP_singleton]

/-- A turn is a reply where a worker that waits gets a datagram. -/
theorem replies_singleton (k : Taken) :
    replies [k] =
      if k.phase = .awaiting ∧ k.turn.moment.received = .datagram then 1 else 0 := by
  simp [replies, List.countP_singleton]

/-! ## What a turn can be -/

namespace Worker

/-- What a worker shows before its first probe. -/
def opening (t : Target) : Phase → List Notice
  | .created => [.log (.workerStarted t.ip t.version t.dest)]
  | _ => []

/-- The beginning of a worker sends nothing. -/
@[simp] theorem sendCount_opening (t : Target) (p : Phase) : sendCount (opening t p) = 0 := by
  cases p <;> rfl

/-- What a wait that ends without an answer shows. -/
def missNotices (t : Target) : Reception → List Notice
  | .failed cause => [.log (.receiveFailed t.dest cause)]
  | _ => []

/-- The end of a wait sends nothing. -/
@[simp] theorem sendCount_missNotices (t : Target) (r : Reception) :
    sendCount (missNotices t r) = 0 := by cases r <;> rfl

end Worker

namespace Phase

/-- Whether the worker is between two cycles, about to send. -/
def isIdle : Phase → Bool
  | created | ready => true
  | _ => false

/-- A worker that is about to send runs. -/
theorem isRunning_of_isIdle {p : Phase} (h : p.isIdle = true) : p.isRunning = true := by
  cases p <;> first | rfl | cases h

/-- Where a cycle that was counted and reported leads. -/
def afterCycle (cancelled : Bool) : Phase := if cancelled then .stopped .cancelled else .ready

/-- How many probes are under way: one while an answer is awaited, and the last probe of a worker
    whose budget is spent, which stays without an answer. -/
def inFlight : Phase → Nat
  | awaiting | stopped .budgetExhausted => 1
  | _ => 0

@[simp] theorem inFlight_awaiting : inFlight .awaiting = 1 := rfl
@[simp] theorem inFlight_lost : inFlight .lost = 0 := rfl
@[simp] theorem inFlight_cancelled : inFlight (.stopped .cancelled) = 0 := rfl
@[simp] theorem inFlight_budgetExhausted : inFlight (.stopped .budgetExhausted) = 1 := rfl

/-- After a cycle no probe is on its way. -/
@[simp] theorem inFlight_afterCycle (cancelled : Bool) : (afterCycle cancelled).inFlight = 0 := by
  cases cancelled <;> rfl

/-- A cycle that was counted does not end in a fault. -/
theorem afterCycle_ne_faulted (cancelled : Bool) (fault : Stats.Fault) :
    afterCycle cancelled ≠ .faulted fault := by
  cases cancelled <;> simp [afterCycle]

end Phase

open Worker in
/-- All that a turn of a worker with ordered counters can be. -/
inductive Move (c : ProbeConfig) (t : Target) (s : Stats) (turn : Turn) : Phase → Step Phase → Prop
  /-- The run is cancelled, and nothing more is sent. -/
  | halted {p : Phase} (idle : p.isIdle = true) (seen : turn.cancelled = true) :
    Move c t s turn p
      ⟨s, .stopped .cancelled, opening t p ++ [stopNotice t s .cancelled]⟩
  /-- A probe is sent within the budget. -/
  | sent {p : Phase} (idle : p.isIdle = true) (free : turn.cancelled = false)
      (room : s.sent ≠ counterMax) (left : s.addSent.sent < c.maxProbes) :
    Move c t s turn p
      ⟨s.addSent, .awaiting, opening t p ++ sendNotices t turn.moment.sent⟩
  /-- A probe is sent that spends the budget. -/
  | sentLast {p : Phase} (idle : p.isIdle = true) (free : turn.cancelled = false)
      (room : s.sent ≠ counterMax) (spent : c.maxProbes ≤ s.addSent.sent) :
    Move c t s turn p
      ⟨s.addSent, .stopped .budgetExhausted,
        opening t p ++
          (sendNotices t turn.moment.sent ++ [stopNotice t s.addSent .budgetExhausted])⟩
  /-- A probe is sent that cannot be counted. -/
  | overflowed {p : Phase} (idle : p.isIdle = true) (free : turn.cancelled = false)
      (full : s.sent = counterMax) :
    Move c t s turn p
      ⟨s, .faulted .counterOverflow, opening t p ++ sendNotices t turn.moment.sent⟩
  /-- A reply ends the cycle. -/
  | replied (answered : turn.moment.received = .datagram) :
    Move c t s turn .awaiting
      ⟨s.addReply, .afterCycle turn.cancelled,
        if turn.cancelled then [stopNotice t s.addReply .cancelled] else []⟩
  /-- A loss is counted. -/
  | lost (missed : turn.moment.received ≠ .datagram) (unlost : s.lost < s.sent) :
    Move c t s turn .awaiting ⟨s.addLoss, .lost, missNotices t turn.moment.received⟩
  /-- A loss cannot be counted, as all probes are lost already. -/
  | refused (missed : turn.moment.received ≠ .datagram) (full : s.lost = s.sent) :
    Move c t s turn .awaiting
      ⟨s, .faulted .timeoutWithoutSend, missNotices t turn.moment.received⟩
  /-- The report of a loss ends the cycle. -/
  | reported :
    Move c t s turn .lost
      ⟨s, .afterCycle turn.cancelled, lossNotices c t s ++
        if turn.cancelled then [stopNotice t s .cancelled] else []⟩
  /-- A worker that has ended takes no more part. -/
  | ended {p : Phase} (stopped : p.isRunning = false) : Move c t s turn p ⟨s, p, []⟩

namespace Worker

variable {c : ProbeConfig} {t : Target} {s : Stats}

/-- Sending within the budget. -/
theorem begin_of_left (room : s.sent ≠ counterMax) (left : s.addSent.sent < c.maxProbes)
    (r : Except IoError Unit) :
    begin c false t s r = ⟨s.addSent, .awaiting, sendNotices t r⟩ := by
  have hrec : s.recordSent = ⟨s.addSent, none⟩ := if_neg room
  simp [begin, send, hrec, UInt64.not_le.2 left]

/-- Sending the probe that spends the budget. -/
theorem begin_of_spent (room : s.sent ≠ counterMax) (spent : c.maxProbes ≤ s.addSent.sent)
    (r : Except IoError Unit) :
    begin c false t s r =
      ⟨s.addSent, .stopped .budgetExhausted,
        sendNotices t r ++ [stopNotice t s.addSent .budgetExhausted]⟩ := by
  have hrec : s.recordSent = ⟨s.addSent, none⟩ := if_neg room
  simp [begin, send, hrec, spent]

/-- Sending a probe that cannot be counted. -/
theorem begin_of_full (full : s.sent = counterMax) (r : Except IoError Unit) :
    begin c false t s r = ⟨s, .faulted .counterOverflow, sendNotices t r⟩ := by
  have hrec : s.recordSent = ⟨s, some .counterOverflow⟩ := if_pos full
  simp [begin, send, hrec]

/-- Sending takes a worker from between two cycles to one of four places. -/
private theorem begin_move {p : Phase} (idle : p.isIdle = true) (turn : Turn) :
    Move c t s turn p
      { begin c turn.cancelled t s turn.moment.sent with
        notices := opening t p ++ (begin c turn.cancelled t s turn.moment.sent).notices } := by
  -- The run is cancelled; the counter is full; the budget is spent; or none of these.
  by_cases hc : turn.cancelled = true
  · have hbegin : begin c turn.cancelled t s turn.moment.sent =
        ⟨s, .stopped .cancelled, [stopNotice t s .cancelled]⟩ := by simp [begin, hc]
    rw [hbegin]
    exact .halted idle hc
  · have hfree : turn.cancelled = false := by simpa using hc
    rw [hfree]
    by_cases hmax : s.sent = counterMax
    · rw [begin_of_full hmax]
      exact .overflowed idle hfree hmax
    · by_cases hspent : c.maxProbes ≤ s.addSent.sent
      · rw [begin_of_spent hmax hspent]
        exact .sentLast idle hfree hmax hspent
      · have hleft := UInt64.not_le.1 hspent
        rw [begin_of_left hmax hleft]
        exact .sent idle hfree hmax hleft

/-- The end of a cycle, in one formula. -/
theorem finish_eq (cancelled : Bool) (t : Target) (s : Stats) (ns : List Notice) :
    finish cancelled t s ns =
      ⟨s, .afterCycle cancelled, ns ++ if cancelled then [stopNotice t s .cancelled] else []⟩ := by
  cases cancelled <;> simp [finish, Phase.afterCycle]

/-- A wait without an answer is settled as a loss. -/
theorem settle_of_ne_datagram {r : Reception} (h : r ≠ .datagram) :
    settle t s r = { lose s with notices := missNotices t r } := by
  cases r with
  | datagram => exact absurd rfl h
  | failed cause => rfl
  | timedOut => rfl

/-- A reply is counted and ends the cycle. -/
theorem receive_datagram (cancelled : Bool) (t : Target) (s : Stats) :
    receive cancelled t s .datagram =
      ⟨s.addReply, .afterCycle cancelled,
        if cancelled then [stopNotice t s.addReply .cancelled] else []⟩ :=
  finish_eq cancelled t s.addReply []

/-- A loss is counted where there is one to count. -/
theorem lose_of_lt (ordered : s.Ordered) (unlost : s.lost < s.sent) :
    lose s = ⟨s.addLoss, .lost, []⟩ := by
  -- Neither check of `recordTimeout` can refuse a loss here.
  have hstreak : s.streak ≠ counterMax :=
    Stats.ne_counterMax_of_lt (UInt64.lt_of_le_of_lt ordered.streak_le_lost unlost)
  have hrec : s.recordTimeout = ⟨s.addLoss, none⟩ :=
    (if_neg (UInt64.not_le.2 unlost)).trans (if_neg hstreak)
  simp only [lose, hrec]

/-- A wait without an answer is counted as a loss. -/
theorem receive_of_missed (ordered : s.Ordered) {r : Reception} (missed : r ≠ .datagram)
    (unlost : s.lost < s.sent) (cancelled : Bool) :
    receive cancelled t s r = ⟨s.addLoss, .lost, missNotices t r⟩ := by
  simp [receive, settle_of_ne_datagram missed, lose_of_lt ordered unlost]

/-- The end of a wait is one of three moves: a reply, a loss that is counted, or one that cannot
    be. -/
private theorem receive_move (ordered : s.Ordered) (turn : Turn) :
    Move c t s turn .awaiting (receive turn.cancelled t s turn.moment.received) := by
  by_cases hr : turn.moment.received = .datagram
  · rw [hr, receive_datagram]
    exact .replied hr
  · by_cases hle : s.sent ≤ s.lost
    · have hrec : s.recordTimeout = ⟨s, some .timeoutWithoutSend⟩ := if_pos hle
      have hreceive : receive turn.cancelled t s turn.moment.received =
          ⟨s, .faulted .timeoutWithoutSend, missNotices t turn.moment.received⟩ := by
        simp [receive, settle_of_ne_datagram hr, lose, hrec]
      rw [hreceive]
      exact .refused hr (UInt64.le_antisymm ordered.lost_le_sent hle)
    · have hlt := UInt64.not_le.1 hle
      rw [receive_of_missed ordered hr hlt]
      exact .lost hr hlt

/-- Every turn is a move. -/
theorem step_move (ordered : s.Ordered) (p : Phase) (turn : Turn) :
    Move c t s turn p (step c turn.cancelled ⟨t, p⟩ s turn.moment) := by
  cases p with
  | created => exact begin_move rfl turn
  | ready => exact begin_move rfl turn
  | awaiting => exact receive_move ordered turn
  | lost =>
    simp only [step, finish_eq]
    exact .reported
  | stopped => exact .ended rfl
  | faulted => exact .ended rfl
  | aborted => exact .ended rfl

end Worker

/-- A worker that is about to send does not wait. -/
theorem Phase.ne_awaiting_of_isIdle {p : Phase} (h : p.isIdle = true) : p ≠ .awaiting := by
  rintro rfl
  cases h

/-- A worker that is about to send has no probe on its way. -/
theorem Phase.inFlight_of_isIdle {p : Phase} (h : p.isIdle = true) : p.inFlight = 0 := by
  cases p <;> first | rfl | cases h

/-- A turn attempts a send exactly where a worker is about to send and finds the run going on. -/
theorem Move.attempts {c : ProbeConfig} {t : Target} {s : Stats} {turn : Turn} {p : Phase}
    {step : Step Phase} (hm : Move c t s turn p step) :
    attempts [⟨p, turn, step⟩] = if p.isIdle ∧ turn.cancelled = false then 1 else 0 := by
  rw [attempts_singleton]
  cases hm with
  | halted idle seen => simp [sendCount_append, seen]
  | sent idle free room left => simp [sendCount_append, idle, free]
  | sentLast idle free room spent => simp [sendCount_append, idle, free]
  | overflowed idle free full => simp [sendCount_append, idle, free]
  | replied answered => cases turn.cancelled <;> rfl
  | lost missed unlost => simp [Phase.isIdle]
  | refused missed full => simp [Phase.isIdle]
  | reported => cases turn.cancelled <;> simp [sendCount_append, Phase.isIdle]
  | ended stopped =>
    have hidle : p.isIdle = false := by cases p <;> first | rfl | cases stopped
    simp [hidle, sendCount]

/-! ## Any turns at all -/

/-- One turn of a worker, and the record of it. -/
def takeTurn (c : ProbeConfig) (x : Worker × Stats) (turn : Turn) :
    (Worker × Stats) × List Taken :=
  let step := x.1.step c turn.cancelled x.2 turn.moment
  (({ x.1 with phase := step.outcome }, step.stats), [⟨x.1.phase, turn, step⟩])

/-- A worker and its counters after some turns, and the record of these. -/
def play (c : ProbeConfig) (x : Worker × Stats) (turns : List Turn) :
    (Worker × Stats) × List Taken :=
  Machine.run (takeTurn c) x turns

/-- The books of a worker that began with the counters `start`. -/
structure Accounted (start : Stats) (p : Phase) (s : Stats) (past : List Taken) : Prop where
  ordered : s.Ordered
  /-- No counter was ever asked for what it cannot count. -/
  sound : ∀ fault, p ≠ .faulted fault
  /-- There is room for the next probe. -/
  room : p.isRunning = true → s.sent ≠ counterMax
  sent : s.sent.toNat = start.sent.toNat + attempts past
  lost_le : start.lost ≤ s.lost
  /-- What was attempted was answered or lost, or it is under way. -/
  attempted : attempts past = replies past + (s.lost.toNat - start.lost.toNat) + p.inFlight

namespace Accounted

variable {c : ProbeConfig} {t : Target} {start s : Stats} {p : Phase} {past : List Taken}

/-- The books are in order before the first turn. -/
theorem opened (ordered : start.Ordered) (room : start.sent ≠ counterMax) (idle : p.isIdle = true) :
    Accounted start p start [] where
  ordered := ordered
  sound := by rintro fault rfl; cases idle
  room _ := room
  sent := rfl
  lost_le := UInt64.le_refl _
  attempted := by simp [attempts, noticesOf, sendCount, replies, Phase.inFlight_of_isIdle idle]

/-- While a probe is under way, not all that was sent is lost. -/
theorem lost_lt_sent (h : Accounted start .awaiting s past) (ordered : start.Ordered) :
    s.lost < s.sent := by
  have hlost := UInt64.le_iff_toNat_le.1 h.lost_le
  have hstart := UInt64.le_iff_toNat_le.1 ordered.lost_le_sent
  have hsent := h.sent
  have hattempted := h.attempted
  -- The probe under way was sent, and it is neither answered nor lost.
  rw [Phase.inFlight_awaiting] at hattempted
  exact UInt64.lt_iff_toNat_lt.2 (by omega)

/-- The books stay in order where one more turn balances by itself. -/
private theorem extend {k : Taken} {p' : Phase} {s' : Stats} (h : Accounted start p s past)
    (ordered : s'.Ordered) (sound : ∀ fault, p' ≠ .faulted fault)
    (room : p'.isRunning = true → s'.sent ≠ counterMax) (lost_le : s.lost ≤ s'.lost)
    (sent : s'.sent.toNat = s.sent.toNat + attempts [k])
    (balance : attempts [k] + p.inFlight =
      replies [k] + (s'.lost.toNat - s.lost.toNat) + p'.inFlight) :
    Accounted start p' s' (past ++ [k]) where
  ordered := ordered
  sound := sound
  room := room
  sent := by
    have hsent := h.sent
    rw [attempts_append]
    omega
  lost_le := UInt64.le_trans h.lost_le lost_le
  attempted := by
    have hlost := UInt64.le_iff_toNat_le.1 h.lost_le
    have hlost' := UInt64.le_iff_toNat_le.1 lost_le
    have hattempted := h.attempted
    rw [attempts_append, replies_append]
    omega

/-- Each turn keeps the books in order. -/
theorem move {turn : Turn} {step : Step Phase} (h : Accounted start p s past)
    (ordered : start.Ordered) (hm : Move c t s turn p step) :
    Accounted start step.outcome step.stats (past ++ [⟨p, turn, step⟩]) := by
  have hattempts := hm.attempts
  have hle := UInt64.le_refl s.lost
  cases hm with
  | halted idle seen =>
    refine h.extend h.ordered (by simp) (fun hr => by cases hr) hle ?_ ?_
    · simp [hattempts, seen]
    · simp [hattempts, seen, replies_singleton, Phase.ne_awaiting_of_isIdle idle,
        Phase.inFlight_of_isIdle idle]
  | sent idle free room left =>
    refine h.extend (h.ordered.addSent room) (by simp)
      (fun _ => Stats.ne_counterMax_of_lt left) hle ?_ ?_
    · simp [hattempts, idle, free, Stats.toNat_sent_addSent room]
    · simp [hattempts, idle, free, replies_singleton, Phase.ne_awaiting_of_isIdle idle,
        Phase.inFlight_of_isIdle idle]
  | sentLast idle free room spent =>
    refine h.extend (h.ordered.addSent room) (by simp) (fun hr => by cases hr) hle ?_ ?_
    · simp [hattempts, idle, free, Stats.toNat_sent_addSent room]
    · simp [hattempts, idle, free, replies_singleton, Phase.ne_awaiting_of_isIdle idle,
        Phase.inFlight_of_isIdle idle]
  -- The two faults contradict the books themselves: there is room, and a probe is under way.
  | overflowed idle free full => exact absurd full (h.room (Phase.isRunning_of_isIdle idle))
  | replied answered =>
    refine h.extend h.ordered.addReply (fun fault => Phase.afterCycle_ne_faulted _ fault)
      (fun _ => h.room rfl) hle ?_ ?_
    · simp [hattempts, Phase.isIdle]
    · simp [hattempts, Phase.isIdle, replies_singleton, answered]
  | lost missed unlost =>
    -- The probe under way turns into a loss.
    have hadd := Stats.toNat_lost_addLoss unlost
    have hle : s.lost ≤ s.addLoss.lost := UInt64.le_iff_toNat_le.2 (by omega)
    refine h.extend (h.ordered.addLoss unlost) (by simp) (fun _ => h.room rfl) hle ?_ ?_
    · simp [hattempts, Phase.isIdle]
    · simp [hattempts, Phase.isIdle, replies_singleton, missed, hadd]
  | refused missed full =>
    have hlt := h.lost_lt_sent ordered
    exact absurd (full ▸ hlt) (UInt64.lt_irrefl _)
  | reported =>
    refine h.extend h.ordered (fun fault => Phase.afterCycle_ne_faulted _ fault)
      (fun _ => h.room rfl) hle ?_ ?_
    · simp [hattempts, Phase.isIdle]
    · simp [hattempts, Phase.isIdle, replies_singleton]
  | ended stopped =>
    have hidle : p.isIdle = false := by cases p <;> first | rfl | cases stopped
    have hp : p ≠ .awaiting := by rintro rfl; cases stopped
    refine h.extend h.ordered h.sound h.room hle ?_ ?_
    · simp [hattempts, hidle]
    · simp [hattempts, hidle, replies_singleton, hp]

end Accounted

/-- Turns can be taken in two parts. -/
theorem play_append (c : ProbeConfig) (x : Worker × Stats) (xs ys : List Turn) :
    play c x (xs ++ ys) =
      ((play c (play c x xs).1 ys).1, (play c x xs).2 ++ (play c (play c x xs).1 ys).2) :=
  Machine.run_append (takeTurn c) x xs ys

/-- To play one turn is to take it. -/
theorem play_singleton (c : ProbeConfig) (x : Worker × Stats) (turn : Turn) :
    play c x [turn] = takeTurn c x turn := by
  simp [play, Machine.run, takeTurn]

/-- The books of a worker are in order after any turns: whatever the network answers, and wherever
    the run is cancelled. -/
theorem accounted_play (c : ProbeConfig) (t : Target) {start : Stats} {p : Phase}
    (ordered : start.Ordered) (room : start.sent ≠ counterMax) (idle : p.isIdle = true)
    (turns : List Turn) :
    Accounted start (play c (⟨t, p⟩, start) turns).1.1.phase (play c (⟨t, p⟩, start) turns).1.2
      (play c (⟨t, p⟩, start) turns).2 := by
  refine Machine.run_induction
    (motive := fun (x : Worker × Stats) past => Accounted start x.1.phase x.2 past)
    (Accounted.opened ordered room idle) ?_ turns
  intro x past turn h
  exact h.move ordered (Worker.step_move h.ordered x.1.phase turn)

/-! ## Looking at the state of the run -/

/-- Whether a turn in this phase looks at the state of the run: before a send, after a reply was
    counted, and after a loss was reported. -/
def Phase.looks (p : Phase) (turn : Turn) : Bool :=
  match p with
  | .created | .ready | .lost => true
  | .awaiting => turn.moment.received = .datagram
  | _ => false

/-- A look that finds the run cancelled sends nothing and ends the worker. Only a reply that was
    counted before the look is new. -/
theorem Move.halts {c : ProbeConfig} {t : Target} {s : Stats} {turn : Turn} {p : Phase}
    {step : Step Phase} (hm : Move c t s turn p step) (looks : p.looks turn = true)
    (seen : turn.cancelled = true) :
    step.outcome = .stopped .cancelled ∧ Probe.attempts [⟨p, turn, step⟩] = 0 ∧
      (p ≠ .awaiting → step.stats = s) := by
  have hattempts : Probe.attempts [⟨p, turn, step⟩] = 0 := by simp [hm.attempts, seen]
  -- Of the moves of a worker that looks, only those that see the cancellation are possible.
  cases hm with
  | halted idle _ => exact ⟨rfl, hattempts, fun _ => rfl⟩
  | sent idle free room left => simp [seen] at free
  | sentLast idle free room spent => simp [seen] at free
  | overflowed idle free full => simp [seen] at free
  | replied answered =>
    exact ⟨by simp [seen, Phase.afterCycle], hattempts, fun hp => absurd rfl hp⟩
  | lost missed unlost => simp [Phase.looks, missed] at looks
  | refused missed full => simp [Phase.looks, missed] at looks
  | reported => exact ⟨by simp [seen, Phase.afterCycle], hattempts, fun _ => rfl⟩
  | ended stopped =>
    have : p.isRunning = true := by cases p <;> simp_all [Phase.looks, Phase.isRunning]
    simp [this] at stopped

/-- A worker that has ended does nothing more. -/
theorem play_of_not_running (c : ProbeConfig) {x : Worker × Stats}
    (ended : x.1.phase.isRunning = false) (turns : List Turn) :
    (play c x turns).1 = x ∧ attempts (play c x turns).2 = 0 := by
  induction turns with
  | nil => exact ⟨rfl, rfl⟩
  | cons turn turns ih =>
    -- A turn after the end is recorded, but it changes and shows nothing.
    have hturn : takeTurn c x turn = (x, [⟨x.1.phase, turn, ⟨x.2, x.1.phase, []⟩⟩]) := by
      obtain ⟨⟨t, p⟩, s⟩ := x
      cases p <;> first | rfl | cases ended
    have happend := play_append c x [turn] turns
    simp only [play_singleton, hturn] at happend
    rw [List.singleton_append] at happend
    rw [happend, attempts_append, ih.1, ih.2]
    exact ⟨rfl, rfl⟩

/-- From a look that finds the run cancelled on, nothing is sent and no counter changes. -/
theorem play_of_cancelled (c : ProbeConfig) {x : Worker × Stats} (ordered : x.2.Ordered)
    {turn : Turn} (looks : x.1.phase.looks turn = true) (seen : turn.cancelled = true)
    (turns : List Turn) :
    (takeTurn c x turn).1.1.phase = .stopped .cancelled ∧
      (x.1.phase ≠ .awaiting → (takeTurn c x turn).1.2 = x.2) ∧
      (play c x (turn :: turns)).1 = (takeTurn c x turn).1 ∧
      attempts (play c x (turn :: turns)).2 = 0 := by
  have hmove := Worker.step_move (c := c) (t := x.1.target) ordered x.1.phase turn
  obtain ⟨houtcome, hattempts, hstats⟩ := hmove.halts looks seen
  have hphase : (takeTurn c x turn).1.1.phase = .stopped .cancelled := houtcome
  -- The turn that looks ends the worker, and the turns after it find it ended.
  have hended : (takeTurn c x turn).1.1.phase.isRunning = false := by rw [hphase]; rfl
  obtain ⟨hrest, hnone⟩ := play_of_not_running c hended turns
  have hplay := play_append c x [turn] turns
  rw [play_singleton, List.singleton_append] at hplay
  refine ⟨hphase, hstats, by rw [hplay, hrest], ?_⟩
  have hfirst : attempts (takeTurn c x turn).2 = 0 := hattempts
  rw [hplay, attempts_append, hnone, hfirst]

end LossProbe.Probe
