import LossProbe.Proofs.PoolDevices

/-!
# Reports of losses

A loss is counted in one turn of a worker and reported in the next, and in between the other workers
take turns of their own, the run may be cancelled and the worker aborted. `LossBooks` says how the
losses that were counted and those that were reported go together at each moment: every turn of the
worker keeps the books (`LossBooks.move`), and so does its abort (`LossBooks.abort`). So each report
shows as many losses as reports were made, and when a pool has ended, no loss is left unreported
(`Pool.reports_tell_losses`).
-/

namespace LossProbe

open Probe

/-- The registry at each report of a loss on a device. -/
def Trace.lossReports (t : Trace) (ip : IpAddr) : List Registry :=
  t.reports.filterMap fun x => if x.1 = .lossEvent ip then some x.2 else none

/-- The counters that losses are reported with. -/
def Probe.lossStats (ns : List Notice) : List Stats :=
  ns.filterMap fun
    | .loss s => some s
    | _ => none

namespace Probe

/-- The losses in two runs of notices are told one after the other. -/
@[simp] theorem lossStats_append (xs ys : List Notice) :
    lossStats (xs ++ ys) = lossStats xs ++ lossStats ys := List.filterMap_append

/-- Logs tell no loss. -/
@[simp] theorem lossStats_shown (ns : List Notice) : lossStats (shown ns) = lossStats ns := by
  induction ns with
  | nil => rfl
  | cons n ns ih => cases n <;> simpa [shown, lossStats] using ih

/-- Sending tells no loss. -/
@[simp] theorem lossStats_sendNotices (t : Target) (r : Except IoError Unit) :
    lossStats (sendNotices t r) = [] := by cases r <;> rfl

/-- The beginning of a worker tells no loss. -/
@[simp] theorem lossStats_opening (t : Target) (p : Phase) : lossStats (Worker.opening t p) = [] := by
  cases p <;> rfl

/-- The end of a wait tells no loss, even where no reply came. -/
@[simp] theorem lossStats_missNotices (t : Target) (r : Reception) :
    lossStats (Worker.missNotices t r) = [] := by cases r <;> rfl

/-- The end of a worker tells no loss. -/
@[simp] theorem lossStats_stopNotice (t : Target) (s : Stats) (r : StopReason) :
    lossStats [Worker.stopNotice t s r] = [] := rfl

/-- The report of a loss tells the counters that it shows. -/
@[simp] theorem lossStats_lossNotices (c : ProbeConfig) (t : Target) (s : Stats) :
    lossStats (lossNotices c t s) = [s] := by
  unfold lossNotices
  split <;> rfl

/-! ## Counted and reported -/

/-- The books of the losses of a device that had the counters `start` in the beginning. -/
structure LossBooks (start : Stats) (p : Phase) (s : Stats) (past : List Notice) : Prop where
  ordered : s.Ordered
  /-- Every loss that was counted was reported, but for one whose report comes next. -/
  counted : s.lost.toNat = start.lost.toNat + (lossStats past).length + if p = .lost then 1 else 0
  /-- The report that comes next shows a loss. -/
  owed : p = .lost → 1 ≤ s.streak.toNat
  /-- Each report showed the losses that were reported by then. -/
  reported : ∀ k l, (lossStats past)[k]? = some l →
    l.lost.toNat = start.lost.toNat + (k + 1) ∧ 1 ≤ l.streak.toNat

namespace LossBooks

variable {c : ProbeConfig} {t : Target} {start s s' : Stats} {p p' : Phase} {past ns : List Notice}

/-- At the beginning nothing was counted that would have to be reported. -/
theorem opened (ordered : start.Ordered) (hp : p ≠ .lost) : LossBooks start p start [] where
  ordered := ordered
  counted := by simp [hp, lossStats]
  owed h := absurd h hp
  reported := by simp [lossStats]

/-- The books stay as they are where no loss is counted or reported. -/
private theorem quiet (h : LossBooks start p s past) (hp : p ≠ .lost) (hp' : p' ≠ .lost)
    (ordered : s'.Ordered) (lost : s'.lost = s.lost) (none : lossStats ns = []) :
    LossBooks start p' s' (past ++ ns) where
  ordered := ordered
  counted := by simpa [lost, none, hp, hp'] using h.counted
  owed h := absurd h hp'
  reported := by simpa [none] using h.reported

/-- A report settles the books. -/
private theorem report (h : LossBooks start .lost s past) (hp' : p' ≠ .lost)
    (one : lossStats ns = [s]) : LossBooks start p' s (past ++ ns) where
  ordered := h.ordered
  counted := by simpa [one, hp', Nat.add_assoc] using h.counted
  owed h := absurd h hp'
  reported k l hk := by
    rw [lossStats_append, one, List.getElem?_append] at hk
    split at hk
    · exact h.reported k l hk
    · -- The last report shows the loss that was counted last.
      rename_i hlast
      rw [List.getElem?_singleton] at hk
      split at hk
      · cases hk
        have hcounted := h.counted
        rw [if_pos rfl] at hcounted
        exact ⟨by omega, h.owed rfl⟩
      · cases hk

/-- Each turn keeps the books. -/
theorem move {turn : Turn} {step : Step Phase} (h : LossBooks start p s past)
    (hm : Move c t s turn p step) :
    LossBooks start step.outcome step.stats (past ++ shown step.notices) := by
  have idle_ne {p : Phase} (idle : p.isIdle = true) : p ≠ .lost := by rintro rfl; cases idle
  have after_ne (cancelled : Bool) : Phase.afterCycle cancelled ≠ .lost := by
    cases cancelled <;> simp [Phase.afterCycle]
  -- Only two moves matter: one counts a loss, and one reports it.
  cases hm with
  | halted idle seen => exact h.quiet (idle_ne idle) (by simp) h.ordered rfl (by simp)
  | sent idle free room left =>
    exact h.quiet (idle_ne idle) (by simp) (h.ordered.addSent room) rfl (by simp)
  | sentLast idle free room spent =>
    exact h.quiet (idle_ne idle) (by simp) (h.ordered.addSent room) rfl (by simp)
  | overflowed idle free full => exact h.quiet (idle_ne idle) (by simp) h.ordered rfl (by simp)
  | replied answered =>
    refine h.quiet (by simp) (after_ne _) h.ordered.addReply rfl ?_
    cases turn.cancelled <;> rfl
  | lost missed unlost =>
    -- The loss is counted, and its report comes next.
    have hlost := Stats.toNat_lost_addLoss unlost
    have hstreak := h.ordered.toNat_streak_addLoss unlost
    have hcounted := h.counted
    have howed : 1 ≤ s.addLoss.streak.toNat := by omega
    refine ⟨h.ordered.addLoss unlost, ?_, fun _ => howed, by simpa using h.reported⟩
    simp only [reduceCtorEq, if_false] at hcounted
    simp [hlost, hcounted]
  | refused missed full => exact h.quiet (by simp) (by simp) h.ordered rfl (by simp)
  | reported =>
    refine h.report (after_ne _) ?_
    cases turn.cancelled <;> simp
  | ended stopped =>
    have hp : p ≠ .lost := by rintro rfl; cases stopped
    exact h.quiet hp hp h.ordered rfl rfl

/-- Aborting a worker keeps the books: what was counted is still reported. -/
theorem abort (h : LossBooks start p s past) :
    LossBooks start .aborted s (past ++ owedNotices s p) := by
  by_cases hp : p = .lost
  · subst hp
    exact h.report (by simp) rfl
  · have hnone : owedNotices s p = [] := by cases p <;> first | rfl | exact absurd rfl hp
    exact h.quiet hp (by simp) h.ordered rfl (by rw [hnone]; rfl)

end LossBooks
end Probe

/-! ## Reports of a run -/

/-- Where a function has a value on a whole list, these are its values. -/
theorem map_some_filterMap {α β : Type} {f : α → Option β} {l : List α}
    (h : ∀ a ∈ l, (f a).isSome) : (l.filterMap f).map some = l.map f := by
  induction l with
  | nil => rfl
  | cons a l ih =>
    obtain ⟨ha, hl⟩ := List.forall_mem_cons.mp h
    obtain ⟨b, hb⟩ := Option.isSome_iff_exists.mp ha
    rw [List.filterMap_cons_some hb, List.map_cons, List.map_cons, ih hl, hb]

/-- The counters at the reports of losses are those that the reports show of the device. -/
theorem Trace.lossStats_about (t : Trace) (ip : IpAddr) :
    lossStats (t.about ip) =
      (t.lossReports ip).filterMap fun r => (r.get? ip).map Device.stats := by
  -- Of a single entry: only the report of a loss of this device has counters to show.
  have hentry (a : Trace.Entry) : lossStats (Trace.about [a] ip) =
      (Trace.lossReports [a] ip).filterMap fun r => (r.get? ip).map Device.stats := by
    cases a with
    | sending s =>
      by_cases hip : s.dest.ip = ip <;> simp [about, lossReports, reports, lossStats, hip]
    | log e => rfl
    | report heading r =>
      cases heading with
      | lossEvent other =>
        by_cases hip : other = ip
        · cases hr : r.get? ip <;> simp [about, lossReports, reports, lossStats, hip, hr]
        · simp [about, lossReports, reports, lossStats, hip]
      | _ => rfl
  induction t with
  | nil => rfl
  | cons a t ih =>
    have hreports : Trace.lossReports (a :: t) ip =
        Trace.lossReports [a] ip ++ Trace.lossReports t ip := by
      rw [lossReports, ← List.singleton_append, reports_append, List.filterMap_append]
      rfl
    rw [← List.singleton_append, about_append, lossStats_append, hentry, ih, List.singleton_append,
      hreports, List.filterMap_append]

namespace Pool

section Spawned

variable {c : ProbeConfig} {registry : Registry} {cancelled : Bool}
  {socket : Nat → Except IoError Unit} {p : Pool} {opening : Trace} {d : Device}

/-- The books of the losses of a device in any run of a pool. -/
theorem exists_lossBooks (spawned : spawn c registry cancelled socket = .ok (p, opening))
    (ordered : registry.Ordered) (es : List Event) (hd : d ∈ registry.devices) :
    ∃ phase s, (p.run es).1.member? d.ip = some (⟨.ofDevice c d, phase⟩, s) ∧
      LossBooks d.stats phase s ((p.run es).2.about d.ip) := by
  have hconfig : p.config = c := by rw [(eq_of_spawn spawned).1]
  refine run_member_induction (t := .ofDevice c d) (motive := LossBooks d.stats)
    (roster_of_spawn spawned) hconfig (member?_of_spawn spawned hd)
    (.opened (ordered d hd) (by simp)) ?_ ?_ es
  · intro phase s past turn _ h
    exact h.move (Worker.step_move h.ordered phase turn)
  · intro phase s past _ h
    exact h.abort

/-- The counters at the reports of losses, one for each report. -/
theorem map_some_lossStats (spawned : spawn c registry cancelled socket = .ok (p, opening))
    (ordered : registry.Ordered) (es : List Event) (hd : d ∈ registry.devices) :
    (lossStats ((p.run es).2.about d.ip)).map some =
      ((p.run es).2.lossReports d.ip).map fun r => (r.get? d.ip).map Device.stats := by
  have hregistry : p.registry = registry := by rw [(eq_of_spawn spawned).1]
  rw [Trace.lossStats_about]
  refine map_some_filterMap fun r hr => ?_
  obtain ⟨⟨heading, r⟩, hx, hsome⟩ := List.mem_filterMap.mp hr
  obtain rfl : r = _ := by
    simp only [ite_eq_iff, Option.some.injEq, reduceCtorEq, and_false, or_false] at hsome
    exact hsome.2
  -- Every report shows the devices that the pool began with.
  obtain ⟨hgrows, -⟩ := run_grows (hregistry ▸ ordered) es
  have hgrows := (List.pairwise_cons.mp hgrows).1 r
    (List.mem_append_left _ (List.mem_map.mpr ⟨_, hx, rfl⟩))
  obtain ⟨e, he⟩ := hgrows.exists_get? (hregistry ▸ hd)
  rw [he]
  rfl

end Spawned

/-- Reports of losses tell the truth, whatever the workers meet, in whatever order they take their
    turns, and wherever the run is cancelled, closed or given up. The first report of a loss on a
    device shows one loss more than the device began with, the next one shows two, and so on, each
    with a streak of one at least. When the pool has ended, the losses that were counted for a
    device are as many as its reports, which includes workers that were aborted. Every report shows
    each device with its counters in order, and from the beginning to the first report, from one
    report to any later one and to the end, the devices stay what they are, in the same order, and
    no count of probes or losses goes down. -/
theorem reports_tell_losses {c : ProbeConfig} {registry : Registry} {cancelled : Bool}
    {socket : Nat → Except IoError Unit} {p : Pool} {opening : Trace}
    (spawned : spawn c registry cancelled socket = .ok (p, opening)) (ordered : registry.Ordered)
    (es : List Event) :
    let q := (p.run es).1
    let t := (p.run es).2
    (∀ d ∈ registry.devices, ∀ k r, (t.lossReports d.ip)[k]? = some r →
      ∃ e, r.get? d.ip = some e ∧ e.stats.lost.toNat = d.stats.lost.toNat + (k + 1) ∧
        1 ≤ e.stats.streak.toNat) ∧
    (q.stage = .waited ∨ q.stage = .closed → ∀ d ∈ registry.devices,
      ∃ e, q.registry.get? d.ip = some e ∧
        e.stats.lost.toNat = d.stats.lost.toNat + (t.lossReports d.ip).length) ∧
    (∀ x ∈ t.reports, ∀ d ∈ x.2.devices,
      d.stats.streak ≤ d.stats.lost ∧ d.stats.lost ≤ d.stats.sent) ∧
    (registry :: t.reports.map Prod.snd ++ [q.registry]).Pairwise Registry.Grows := by
  intro q t
  have hregistry : p.registry = registry := by rw [(eq_of_spawn spawned).1]
  obtain ⟨hgrows, hordered⟩ := run_grows (hregistry ▸ ordered) es
  refine ⟨fun d hd k r hk => ?_, fun hstage d hd => ?_, fun x hx d hd => ?_, hregistry ▸ hgrows⟩
  · obtain ⟨phase, s, -, hbooks⟩ := exists_lossBooks spawned ordered es hd
    -- The report shows the counters that the books have for it.
    have hshown : ((lossStats (t.about d.ip)).map some)[k]? =
        some ((r.get? d.ip).map Device.stats) := by
      rw [map_some_lossStats spawned ordered es hd, List.getElem?_map, hk, Option.map_some]
    rw [List.getElem?_map, Option.map_eq_some_iff] at hshown
    obtain ⟨l, hl, hsome⟩ := hshown
    obtain ⟨e, he, rfl⟩ := Option.map_eq_some_iff.mp hsome.symm
    exact ⟨e, he, hbooks.reported k e.stats hl⟩
  · obtain ⟨phase, s, hmember, hbooks⟩ := exists_lossBooks spawned ordered es hd
    have hlength := congrArg List.length (map_some_lossStats spawned ordered es hd)
    rw [List.length_map, List.length_map] at hlength
    obtain ⟨-, e, he, rfl⟩ := member?_eq_some_iff.mp hmember
    -- When the pool has ended, no worker runs, so no report is left to be made.
    have hroster := (roster_of_spawn spawned).run es
    have hstill : ∀ w ∈ q.workers, w.phase.isRunning = false := by
      obtain hwaited | hclosed := hstage
      · exact hroster.not_running (hroster.waited hwaited).1
      · exact (hroster.closed hclosed).2
    have hphase : phase ≠ .lost := by
      rintro rfl
      cases hstill _ (mem_of_member? hmember)
    have hcounted := hbooks.counted
    rw [if_neg hphase, hlength] at hcounted
    exact ⟨e, he, hcounted⟩
  · have hx := hordered x.2 (List.mem_append_left _ (.tail _ (List.mem_map.mpr ⟨x, hx, rfl⟩)))
    exact ⟨(hx d hd).streak_le_lost, (hx d hd).lost_le_sent⟩

/-- A pool of two devices that is given up between counting a loss and reporting it. -/
theorem reports_tell_loss_at_deadline :
    let lossy : Device := ⟨.v4 10 0 0 1, .v2, .epoch, { sent := 5, lost := 2, streak := 1 }⟩
    let fresh : Device := ⟨.v4 10 0 0 2, .v3, .epoch, {}⟩
    let registry : Registry := ⟨[lossy, fresh], by decide⟩
    let es : List Event := [.turn lossy.ip {}, .turn fresh.ip {}, .turn lossy.ip {}, .close,
      .deadline]
    ∃ p opening, spawn {} registry false (fun _ => .ok ()) = .ok (p, opening) ∧
      registry.Ordered ∧ (p.run es).1.stage = .closed ∧
      ((p.run es).2.lossReports lossy.ip).length = 1 ∧
      ∃ e, (p.run es).1.registry.get? lossy.ip = some e ∧ e.stats.lost.toNat = 2 + 1 := by
  intro lossy fresh registry es
  obtain ⟨⟨p, opening⟩, spawned⟩ : ∃ x, spawn {} registry false (fun _ => .ok ()) = .ok x :=
    ⟨_, rfl⟩
  have ordered : registry.Ordered := by
    have hlossy : lossy.stats.Ordered := ⟨by decide, by decide⟩
    simpa [Registry.Ordered, registry] using ⟨hlossy, Stats.ordered_zero⟩
  obtain ⟨-, hcounted, -⟩ := reports_tell_losses spawned ordered es
  have hp := (eq_of_spawn spawned).1
  have hclosed : (p.run es).1.stage = .closed := by
    rw [hp]
    rfl
  -- The loss was counted before the deadline, and its report is what the worker still owes.
  have hone : ((p.run es).2.lossReports lossy.ip).length = 1 := by
    rw [hp]
    decide +kernel
  have hlost := hcounted (.inr hclosed) lossy (by simp [registry])
  rw [hone] at hlost
  exact ⟨p, opening, spawned, ordered, hclosed, hone, hlost⟩

end Pool
end LossProbe
