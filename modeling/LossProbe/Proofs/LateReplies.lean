import LossProbe.Proofs.ProbeCycles
import Mathlib.Data.Finset.Lattice.Fold
import Mathlib.Data.Finset.Range
import Mathlib.Order.Lattice.Nat

/-!
# Late and surplus replies

A worker never empties its socket, so a wait may end with a datagram that was sent for an earlier
probe, and what is left over pays for later ones. `Delivers` is all that is known of the socket: it
keeps what reaches it in order, and a wait takes the first datagram that is there by its end. Then
each datagram pays for one probe, in the order of arrival, and what a worker counts as lost is the
greatest number by which the arrivals ever lagged behind its cycles (`lost_eq_shortfall`).
-/

namespace LossProbe.Probe

open Stats (counterMax)

variable {σ : Type}

/-! ## A socket -/

/-- All datagrams that reached a socket by the end of the `k`-th wait, where `arrivals i` are those
    that came since the end of the wait before, in order. -/
def arrived (arrivals : Nat → List (List UInt8)) (k : Nat) : List (List UInt8) :=
  (List.range k).flatMap arrivals

/-- A socket that delivers datagrams in order and loses none, whatever octets they hold. What
    reaches it from one wait to the end of the next goes behind what is queued, and the wait takes
    the first of all, if there is one. -/
structure Delivers (world : Surroundings σ) (t : Target) (queue : σ → List (List UInt8))
    (arrivals : Nat → List (List UInt8)) (state : σ) : Prop where
  answered : ∀ k datagram rest,
    queue (world.afterCycles t state k) ++ arrivals k = datagram :: rest →
    (world.receive (world.send (world.afterCycles t state k) t).2).1 = .datagram ∧
      queue (world.afterCycles t state (k + 1)) = rest
  missed : ∀ k, queue (world.afterCycles t state k) ++ arrivals k = [] →
    (world.receive (world.send (world.afterCycles t state k) t).2).1 ≠ .datagram ∧
      queue (world.afterCycles t state (k + 1)) = []

/-- A socket that these datagrams reach, with the number of waits that have ended and the queue. -/
def mailbox (arrivals : Nat → List (List UInt8)) : Surroundings (Nat × List (List UInt8)) where
  isCancelled _ := false
  send now _ := (.ok (), now)
  receive now :=
    match now.2 ++ arrivals now.1 with
    | [] => (.timedOut, now.1 + 1, [])
    | _ :: rest => (.datagram, now.1 + 1, rest)

/-- Datagrams may reach a socket in any pattern. -/
theorem delivers_mailbox (arrivals : Nat → List (List UInt8)) (t : Target) :
    Delivers (mailbox arrivals) t Prod.snd arrivals (0, []) := by
  -- One cycle is one wait.
  have hwaits (k : Nat) : ((mailbox arrivals).afterCycles t (0, []) k).1 = k := by
    induction k with
    | zero => rfl
    | succ k ih =>
      show ((mailbox arrivals).receive ((mailbox arrivals).afterCycles t (0, []) k)).2.1 = k + 1
      simp only [mailbox] at ih ⊢
      split <;> simp [ih]
  constructor
  · intro k datagram rest hqueue
    have hreceive : (mailbox arrivals).receive ((mailbox arrivals).afterCycles t (0, []) k) =
        (.datagram, k + 1, rest) := by
      simp only [mailbox] at hwaits hqueue ⊢
      rw [hwaits, hqueue]
    exact ⟨congrArg Prod.fst hreceive, congrArg (fun x => x.2.2) hreceive⟩
  · intro k hqueue
    have hreceive : (mailbox arrivals).receive ((mailbox arrivals).afterCycles t (0, []) k) =
        (.timedOut, k + 1, []) := by
      simp only [mailbox] at hwaits hqueue ⊢
      rw [hwaits, hqueue]
    have hmissed := congrArg Prod.fst hreceive
    refine ⟨?_, congrArg (fun x => x.2.2) hreceive⟩
    intro hanswered
    cases hmissed.symm.trans hanswered

/-! ## How far arrivals lag behind -/

variable {arrivals : Nat → List (List UInt8)}

/-- The greatest number by which the arrivals lagged behind the cycles, up to the end of the `n`-th
    one. It is not negative, as nothing is missing before the first cycle. -/
def shortfall (arrivals : Nat → List (List UInt8)) (n : Nat) : Nat :=
  (Finset.range (n + 1)).sup fun k => k - (arrived arrivals k).length

/-- What has arrived during one more cycle stands behind what arrived before. -/
theorem arrived_succ (arrivals : Nat → List (List UInt8)) (n : Nat) :
    arrived arrivals (n + 1) = arrived arrivals n ++ arrivals n := by
  simp [arrived, List.range_succ]

/-- Before the first cycle nothing is missing. -/
theorem shortfall_zero (arrivals : Nat → List (List UInt8)) : shortfall arrivals 0 = 0 := by
  simp [shortfall]

/-- The shortfall is the greatest lack of replies so far, so one more cycle may raise it. -/
theorem shortfall_succ (arrivals : Nat → List (List UInt8)) (n : Nat) :
    shortfall arrivals (n + 1) =
      max (n + 1 - (arrived arrivals (n + 1)).length) (shortfall arrivals n) := by
  rw [shortfall, Finset.range_add_one, Finset.sup_insert]
  rfl

/-- The lack of replies after some cycles is no more than the shortfall. -/
theorem sub_length_arrived_le (arrivals : Nat → List (List UInt8)) (n : Nat) :
    n - (arrived arrivals n).length ≤ shortfall arrivals n :=
  Finset.le_sup (f := fun k => k - (arrived arrivals k).length) (Finset.self_mem_range_succ n)

/-! ## Cycles that are awaited -/

variable {world : Surroundings σ} {queue : σ → List (List UInt8)} {c : ProbeConfig} {t : Target}
  {start : Stats} {state : σ}

/-- How many of some cycles ended with a reply. -/
def replied (made : List (Cycle σ)) : Nat := made.countP fun cycle => cycle.outcome = .reply

/-- How many of some cycles waited in vain. -/
def timedOut (made : List (Cycle σ)) : Nat := made.countP fun cycle => cycle.outcome.isTimeout

/-- One more cycle is one more reply, if it was answered. -/
theorem replied_snoc (made : List (Cycle σ)) (cycle : Cycle σ) :
    replied (made ++ [cycle]) = replied made + if cycle.outcome = .reply then 1 else 0 := by
  simp [replied, List.countP_singleton]

/-- One more cycle is one more loss, if it was not answered. -/
theorem timedOut_snoc (made : List (Cycle σ)) (cycle : Cycle σ) :
    timedOut (made ++ [cycle]) = timedOut made + if cycle.outcome.isTimeout then 1 else 0 := by
  simp [timedOut, List.countP_singleton]

/-- What `n` awaited cycles come to at a socket that was empty before them. -/
structure Paid (world : Surroundings σ) (queue : σ → List (List UInt8)) (t : Target)
    (arrivals : Nat → List (List UInt8)) (start : Stats) (state : σ) (n : Nat) (s : Stats)
    (now : σ) (made : List (Cycle σ)) : Prop where
  ordered : s.Ordered
  sent : s.sent.toNat = start.sent.toNat + n
  after : now = world.afterCycles t state n
  awaited : ∀ cycle ∈ made, cycle.outcome.isAwaited = true
  lost : s.lost.toNat = start.lost.toNat + shortfall arrivals n
  misses : timedOut made = shortfall arrivals n
  balance : replied made + shortfall arrivals n = n
  /-- The datagrams that were taken are the first that arrived, one for each reply. -/
  queued : queue now = (arrived arrivals n).drop (replied made)

namespace Paid

variable {n : Nat} {s : Stats} {now : σ} {made : List (Cycle σ)} {cycle : Cycle σ}

/-- What was taken had arrived. -/
theorem replied_le (h : Paid world queue t arrivals start state n s now made) :
    replied made ≤ (arrived arrivals n).length := by
  have hlag := sub_length_arrived_le arrivals n
  have hbalance := h.balance
  omega

/-- The queue is what arrived and was not taken. -/
theorem length_queue (h : Paid world queue t arrivals start state n s now made) :
    (queue now).length + replied made = (arrived arrivals n).length := by
  have hle := h.replied_le
  rw [h.queued, List.length_drop]
  omega

/-- The next wait finds what arrived by its end, less what was taken before. -/
theorem found (h : Paid world queue t arrivals start state n s now made) :
    queue (world.afterCycles t state n) ++ arrivals n =
      (arrived arrivals (n + 1)).drop (replied made) := by
  rw [← h.after, h.queued, arrived_succ, List.drop_append_of_le_length h.replied_le]

/-- A worker within its budget has room for the next probe. -/
theorem room (h : Paid world queue t arrivals start state n s now made)
    (left : start.sent.toNat + (n + 1) < c.maxProbes.toNat) :
    s.sent ≠ counterMax ∧ s.addSent.sent < c.maxProbes := by
  have hsent := h.sent
  have hroom : s.sent ≠ counterMax := sent_ne_counterMax_of_lt (c := c) (by omega)
  refine ⟨hroom, UInt64.lt_iff_toNat_lt.2 ?_⟩
  rw [Stats.toNat_sent_addSent hroom]
  omega

/-- A cycle that is awaited keeps all that does not depend on how it ends. -/
private theorem snoc (h : Paid world queue t arrivals start state n s now made)
    (room : s.sent ≠ counterMax) (goes : Goes world c t s now cycle)
    (awaited : cycle.outcome.isAwaited = true)
    (lost : cycle.stats.lost.toNat = start.lost.toNat + shortfall arrivals (n + 1))
    (misses : timedOut (made ++ [cycle]) = shortfall arrivals (n + 1))
    (balance : replied (made ++ [cycle]) + shortfall arrivals (n + 1) = n + 1)
    (queued : queue (world.afterCycles t state (n + 1)) =
      (arrived arrivals (n + 1)).drop (replied (made ++ [cycle]))) :
    Paid world queue t arrivals start state (n + 1) cycle.stats cycle.after (made ++ [cycle]) := by
  obtain ⟨hordered, hsent, -⟩ := goes.keeps h.ordered room
  have hafter : cycle.after = world.afterCycles t state (n + 1) := by
    rw [goes.after_eq awaited, h.after]
    rfl
  have hcount := h.sent
  -- Only that every cycle so far was awaited needs a look at the new one.
  refine ⟨hordered, by omega, hafter, ?_, lost, misses, balance, hafter ▸ queued⟩
  intro d hd
  obtain hd | hd := List.mem_append.1 hd
  · exact h.awaited d hd
  · rwa [List.mem_singleton.1 hd]

/-- A wait that finds a datagram takes the first one. -/
theorem answered (delivers : Delivers world t queue arrivals state)
    (h : Paid world queue t arrivals start state n s now made) (room : s.sent ≠ counterMax)
    (left : s.addSent.sent < c.maxProbes) (goes : Goes world c t s now cycle)
    {datagram : List UInt8} {rest : List (List UInt8)}
    (there : queue (world.afterCycles t state n) ++ arrivals n = datagram :: rest) :
    Paid world queue t arrivals start state (n + 1) cycle.stats cycle.after (made ++ [cycle]) := by
  obtain ⟨hanswered, hrest⟩ := delivers.answered n datagram rest there
  obtain ⟨houtcome, hstats⟩ := goes.of_answered left (h.after ▸ hanswered)
  have hfound := h.found
  rw [there] at hfound
  -- More arrived than was taken, so the arrivals lag no further behind than before.
  have hlong : replied made < (arrived arrivals (n + 1)).length := by
    apply Nat.lt_of_not_le
    intro hle
    rw [List.drop_eq_nil_of_le hle] at hfound
    cases hfound
  have hbalance := h.balance
  have hsame : shortfall arrivals (n + 1) = shortfall arrivals n := by
    rw [shortfall_succ]
    omega
  have hreplies : replied (made ++ [cycle]) = replied made + 1 := by
    rw [replied_snoc, houtcome, if_pos rfl]
  apply h.snoc room goes (goes.isAwaited_iff.2 left)
  · rw [hstats, Stats.lost_addReply, Stats.lost_addSent, hsame, h.lost]
  · rw [timedOut_snoc, houtcome, hsame, h.misses]
    rfl
  · omega
  · rw [hrest, hreplies, ← List.tail_drop, ← hfound, List.tail_cons]

/-- A wait that finds none is one more loss. -/
theorem missed (delivers : Delivers world t queue arrivals state)
    (h : Paid world queue t arrivals start state n s now made) (room : s.sent ≠ counterMax)
    (left : s.addSent.sent < c.maxProbes) (goes : Goes world c t s now cycle)
    (none : queue (world.afterCycles t state n) ++ arrivals n = []) :
    Paid world queue t arrivals start state (n + 1) cycle.stats cycle.after (made ++ [cycle]) := by
  obtain ⟨hmissed, hempty⟩ := delivers.missed n none
  obtain ⟨houtcome, hstats⟩ := goes.of_missed left (h.after ▸ hmissed)
  have hfound := h.found
  rw [none] at hfound
  -- All that arrived was taken, so after this cycle the arrivals lag behind as never before.
  have hshort := List.drop_eq_nil_iff.1 hfound.symm
  have hgrow : (arrived arrivals n).length ≤ (arrived arrivals (n + 1)).length := by
    rw [arrived_succ, List.length_append]
    omega
  have hle := h.replied_le
  have hbalance := h.balance
  have hmore : shortfall arrivals (n + 1) = shortfall arrivals n + 1 := by
    rw [shortfall_succ]
    omega
  have hreplies : replied (made ++ [cycle]) = replied made := by
    rw [replied_snoc, houtcome, if_neg nofun, Nat.add_zero]
  have hcounted := Stats.toNat_lost_addLoss (lost_lt_sent_addSent h.ordered room)
  apply h.snoc room goes (goes.isAwaited_iff.2 left)
  · rw [hstats, hcounted, Stats.lost_addSent, h.lost, hmore]
    omega
  · rw [timedOut_snoc, houtcome, hmore, h.misses]
    rfl
  · omega
  · rw [hempty, hreplies, ← hfound]

end Paid

/-- Any number of cycles within the budget. -/
theorem paid (delivers : Delivers world t queue arrivals state) (empty : queue state = [])
    (ordered : start.Ordered) (n : Nat)
    (within : n = 0 ∨ start.sent.toNat + n < c.maxProbes.toNat) :
    Paid world queue t arrivals start state n (cycles world c t (start, state) n).1.1
      (cycles world c t (start, state) n).1.2 (cycles world c t (start, state) n).2 := by
  induction n with
  | zero =>
    have hzero := shortfall_zero arrivals
    refine ⟨ordered, rfl, rfl, nofun, ?_, hzero.symm, ?_, empty⟩
    · rw [hzero]
      rfl
    · rw [hzero]
      rfl
  | succ n ih =>
    have h := ih (by omega)
    obtain ⟨hroom, hleft⟩ := h.room (c := c) (by omega)
    have goes := probeOnce_goes world c t (cycles world c t (start, state) n).1.2 h.ordered hroom
    rw [cycles_snoc]
    -- Either the wait finds a datagram, queued or new, or there is none.
    cases hthere : queue (world.afterCycles t state n) ++ arrivals n with
    | cons datagram rest => exact h.answered delivers hroom hleft goes hthere
    | nil => exact h.missed delivers hroom hleft goes hthere

/-- The losses of a whole run are those of its awaited cycles. -/
theorem exists_shortfall_of_run (delivers : Delivers world t queue arrivals state)
    (empty : queue state = []) (ordered : start.Ordered) (room : start.sent ≠ counterMax) :
    ∃ n reason, (run world c t start state).outcome = .stopped reason ∧
      (run world c t start state).stats.sent.toNat = start.sent.toNat + n + unawaited reason ∧
      (run world c t start state).stats.lost.toNat = start.lost.toNat + shortfall arrivals n := by
  obtain ⟨n, reason, hrun, hwithin, hspent⟩ := run_madeOfCycles world c t state ordered room
  have h := paid delivers empty ordered n hwithin
  refine ⟨n, reason, ?_⟩
  rw [hrun]
  cases reason with
  | cancelled => exact ⟨rfl, h.sent, h.lost⟩
  | budgetExhausted =>
    -- The last cycle counts one more probe and waits for nothing.
    have hover := hspent rfl
    have hsent := h.sent
    have hroom : (cycles world c t (start, state) n).1.1.sent ≠ counterMax := by
      obtain rfl | hwithin := hwithin
      · exact room
      · exact sent_ne_counterMax_of_lt (c := c) (by omega)
    have hadd := Stats.toNat_sent_addSent hroom
    have goes := probeOnce_goes world c t (cycles world c t (start, state) n).1.2 h.ordered hroom
    obtain ⟨-, hstats⟩ := goes.of_spent (UInt64.le_iff_toNat_le.2 (by omega))
    refine ⟨rfl, ?_, ?_⟩
    · rw [unawaited, cycles_snoc, hstats, hadd, hsent]
    · rw [unawaited, cycles_snoc, hstats, Stats.lost_addSent, h.lost]

/-! ## Main result -/

/-- Late and surplus replies hide losses. At a socket that delivers in order and loses nothing, and
    that was empty when the worker began, `n` awaited cycles lose as many probes as the greatest
    number by which the arrivals lagged behind the cycles so far; all others count a reply. Each
    reply takes the first datagram that was not taken before, whichever probe it answers, so what
    is left in the queue is what arrived without those. A whole run loses what its awaited cycles
    lose. -/
theorem lost_eq_shortfall (delivers : Delivers world t queue arrivals state)
    (empty : queue state = []) (ordered : start.Ordered) :
    (∀ n, n = 0 ∨ start.sent.toNat + n < c.maxProbes.toNat →
      let made := (cycles world c t (start, state) n).2
      let s := (cycles world c t (start, state) n).1.1
      let now := (cycles world c t (start, state) n).1.2
      (made.length = n ∧ ∀ cycle ∈ made, cycle.outcome.isAwaited = true) ∧
      timedOut made = shortfall arrivals n ∧
      s.lost.toNat = start.lost.toNat + shortfall arrivals n ∧
      replied made + shortfall arrivals n = n ∧
      (queue now).length + replied made = (arrived arrivals n).length ∧
      queue now = (arrived arrivals n).drop (replied made)) ∧
    (start.sent < counterMax → ∃ n reason,
      (run world c t start state).outcome = .stopped reason ∧
      (run world c t start state).stats.sent.toNat = start.sent.toNat + n + unawaited reason ∧
      (run world c t start state).stats.lost.toNat =
        start.lost.toNat + shortfall arrivals n) := by
  -- First any number of cycles within the budget, then the number that a whole run makes.
  constructor
  · intro n within
    have h := paid delivers empty ordered n within
    exact ⟨⟨length_cycles .., h.awaited⟩, h.misses, h.lost, h.balance, h.length_queue, h.queued⟩
  · intro room
    exact exists_shortfall_of_run delivers empty ordered (Stats.ne_counterMax_of_lt room)

end LossProbe.Probe

/-! ## A simulated socket -/

namespace LossProbe.Simulation.Lone

open Probe

/-- The datagrams that wait for the worker. Nothing looks at their octets. -/
def queue (l : Lone) : List (List UInt8) := List.replicate l.peer.queued []

/-- What reaches the socket with the next probe. -/
def reaching (l : Lone) (t : Target) : List (List UInt8) :=
  List.replicate ((l.send t).2.peer.queued - l.peer.queued) []

/-- A probe only adds to what is queued. -/
theorem queue_append_reaching (l : Lone) (t : Target) :
    l.queue ++ l.reaching t = (l.send t).2.queue := by
  -- Sending takes nothing from the queue.
  have hle : l.peer.queued ≤ (l.send t).2.peer.queued := by
    unfold send
    split
    · exact Nat.le_refl _
    · show l.peer.queued ≤ l.peer.accept.queued
      unfold Peer.accept
      split
      · show l.peer.queued ≤ l.peer.queued + l.peer.held + _
        omega
      · show l.peer.queued ≤ l.peer.queued + l.peer.held
        omega
  rw [queue, reaching, List.replicate_append_replicate, queue, Nat.add_sub_cancel' hle]

/-- A wait takes one of the datagrams that are queued. -/
theorem receive_of_queue_eq_cons {l : Lone} {datagram : List UInt8} {rest : List (List UInt8)}
    (h : l.queue = datagram :: rest) : l.receive.1 = .datagram ∧ l.receive.2.queue = rest := by
  unfold queue at h
  -- A queue with a first datagram holds at least one.
  obtain ⟨n, hn⟩ : ∃ n, l.peer.queued = n + 1 := by
    cases hqueued : l.peer.queued with
    | zero =>
      rw [hqueued] at h
      cases h
    | succ n => exact ⟨n, rfl⟩
  have htake : l.peer.take = (.datagram, { l.peer with queued := n }) := by
    simp [Peer.take, hn]
  rw [hn, List.replicate_succ] at h
  rw [receive, htake]
  exact ⟨rfl, (List.cons.inj h).2⟩

/-- A wait without a datagram ends in vain. -/
theorem receive_of_queue_eq_nil {l : Lone} (h : l.queue = []) :
    l.receive.1 ≠ .datagram ∧ l.receive.2.queue = [] := by
  have hnone : l.peer.queued = 0 := (List.replicate_eq_nil_iff _).1 h
  have htake : l.peer.take = (.timedOut, l.peer) := by simp [Peer.take, hnone]
  rw [receive, htake]
  exact ⟨nofun, h⟩

/-- A peer that follows a script sends to a socket that delivers in order and loses nothing. -/
theorem delivers (l : Lone) (t : Target) :
    Delivers surroundings t queue (fun k => (surroundings.afterCycles t l k).reaching t) l where
  answered k datagram rest hqueue := by
    rw [queue_append_reaching] at hqueue
    exact receive_of_queue_eq_cons hqueue
  missed k hqueue := by
    rw [queue_append_reaching] at hqueue
    exact receive_of_queue_eq_nil hqueue

end LossProbe.Simulation.Lone

namespace LossProbe.Probe

/-- Two probes stay without an answer, the answers to the second come with the third and pay for
    two more as well, and then the last is lost. -/
theorem lost_eq_shortfall_of_late_replies :
    let t : Target := ⟨.v4 127 0 0 5, .v2, 2335⟩
    let start : Stats := { sent := 4, lost := 1, streak := 1 }
    let lone : Simulation.Lone :=
      ⟨{}, { ip := t.ip, script := [.answer 0, .holdBack 2, .answer 1] }, false, none⟩
    let arrivals : Nat → List (List UInt8) := fun k =>
      (Simulation.Lone.surroundings.afterCycles t lone k).reaching t
    let after := cycles Simulation.Lone.surroundings {} t (start, lone) 6
    Delivers Simulation.Lone.surroundings t Simulation.Lone.queue arrivals lone ∧
      lone.queue = [] ∧ start.Ordered ∧
      (List.range 7).map (fun k => (arrived arrivals k).length) = [0, 0, 0, 3, 3, 3, 3] ∧
      after.1.1.lost.toNat = 1 + 3 ∧ replied after.2 = 3 ∧ after.1.2.queue.length = 0 := by
  intro t start lone arrivals after
  have delivers := lone.delivers t
  have ordered : start.Ordered := ⟨by decide, by decide⟩
  have harrived : (List.range 7).map (fun k => (arrived arrivals k).length) =
      [0, 0, 0, 3, 3, 3, 3] := by decide
  have hsix : (arrived arrivals 6).length = 3 := by decide
  have hshort : shortfall arrivals 6 = 3 := by decide
  obtain ⟨hcycles, -⟩ := lost_eq_shortfall (c := {}) delivers rfl ordered
  -- Three replies come late, so three of six probes are lost and no reply is left over.
  obtain ⟨-, -, hlost, hreplied, hqueue, -⟩ := hcycles 6 (.inr (by decide))
  rw [hshort] at hlost hreplied
  rw [hsix] at hqueue
  have hpaid : replied after.2 + 3 = 6 := hreplied
  have hleft : after.1.2.queue.length + replied after.2 = 3 := hqueue
  exact ⟨delivers, rfl, ordered, harrived, hlost, by omega, by omega⟩

end LossProbe.Probe
