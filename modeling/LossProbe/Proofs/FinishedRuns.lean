import LossProbe.Proofs.MonitorReports

/-!
# What finished runs have done

A run is reported as finished because it was woken and found that all its workers had ended. From
then on no counter changes and nobody is aborted (`Monitor.finished_after_wait`). If there was no
interrupt before, every worker has spent its budget, unless it failed. An interrupt that comes first
does not rule this report out: where the workers stop before the run looks at them, and it looks at
them first, the run is reported as finished although it was cut short
(`Monitor.finished_although_interrupted`).
-/

namespace LossProbe

namespace Probe

variable {c : ProbeConfig} {t : Target} {s : Stats}

/-! ## Workers that are not interrupted -/

/-- A worker that goes to send in a run that is not cancelled does not stop for it. -/
theorem begin_ne_cancelled (result : Except IoError Unit) :
    (Worker.begin c false t s result).outcome ≠ .stopped .cancelled := by
  unfold Worker.begin
  split
  · contradiction
  · dsimp only
    split <;> simp

/-- No worker stops for an interrupt that did not come. -/
theorem Worker.step_ne_cancelled (c : ProbeConfig) {w : Worker} (s : Stats) (m : Moment)
    (h : w.phase ≠ .stopped .cancelled) :
    (w.step c false s m).outcome ≠ .stopped .cancelled := by
  obtain ⟨t, p⟩ := w
  -- A worker looks for the cancellation before a probe and after a cycle, and finds none.
  cases p with
  | created => exact begin_ne_cancelled m.sent
  | ready => exact begin_ne_cancelled m.sent
  | awaiting =>
    simp only [step, receive]
    split
    · simp
    · simp
    · simp [finish]
  | lost => simp [step, finish]
  | stopped reason => exact h
  | faulted fault => exact h
  | aborted => exact h

end Probe

namespace Pool

open Probe

variable {p : Pool}

/-- As long as a run is not cancelled, no turn makes a worker stop for it. -/
theorem turn_ne_cancelled (free : p.cancelled = false)
    (h : ∀ w ∈ p.workers, w.phase ≠ .stopped .cancelled) (ip : IpAddr) (m : Moment) :
    ∀ w ∈ (p.turn ip m).1.workers, w.phase ≠ .stopped .cancelled := by
  obtain hturn | ⟨w, s, hmember, -, hturn⟩ := turn_cases p ip m
  · rwa [hturn]
  · rw [hturn]
    apply forall_setPhase (P := (· ≠ .stopped .cancelled)) h
    rw [free]
    exact Worker.step_ne_cancelled _ s m (h w (mem_of_member? hmember))

/-- No worker cancels the run. -/
@[simp] theorem cancelled_turn (p : Pool) (ip : IpAddr) (m : Moment) :
    (p.turn ip m).1.cancelled = p.cancelled := by
  obtain hturn | ⟨w, s, -, -, hturn⟩ := turn_cases p ip m <;> rw [hturn]
  rfl

/-- A look that does not end the wait cancels nothing. -/
theorem cancelled_poll (h : p.poll.1.stage ≠ .waited) : p.poll.1.cancelled = p.cancelled := by
  obtain ⟨hpoll, -⟩ | ⟨hpoll, -⟩ | ⟨hpoll, -⟩ | ⟨hpoll, -⟩ := poll_cases p
  · rw [hpoll]
  · rw [hpoll]
    rfl
  · rw [hpoll] at h
    exact absurd rfl h
  · rw [hpoll]
    rfl

/-! ## Pools in which everyone was collected -/

/-- Once all workers were collected, nothing happens to them any more, and nobody is given up. -/
theorem run_of_collected (roster : p.Roster) (all : p.joined.length = p.workers.length)
    (es : List Event) :
    (p.run es).1.workers = p.workers ∧ (p.run es).1.registry = p.registry ∧
      (p.run es).1.aborted = 0 := by
  obtain ⟨hworkers, hregistry, -⟩ := run_of_still (roster.not_running all) es
  refine ⟨hworkers, hregistry, ?_⟩
  have hlater := roster.run es
  by_cases hclosed : (p.run es).1.stage = .closed
  · -- Those that were collected make up for all the workers there are.
    have hle := (joined_run_isPrefix p es).length_le
    have hsum := (hlater.closed hclosed).1
    rw [hworkers] at hsum
    omega
  · exact (hlater.kept hclosed).1

end Pool

namespace Monitor

/-! ## How a run comes to wait for its pool -/

section

variable {x : Setting} {es : List Event} {e : Event} {m : Monitor} {p : Pool}

/-- No run begins by probing. -/
theorem stage_begin_ne (x : Setting) (p : Pool) : x.begin.1.stage ≠ .probing p := by
  unfold Setting.begin start
  split
  · simp
  · split <;> simp

/-- Discovery does not lead to probing at once. -/
theorem stage_discover_ne (m : Monitor) (w : Discovery.Window) (d : Discovery.Event)
    (h : m.stage = .discovering w) (p : Pool) : (m.discover w d).1.stage ≠ .probing p := by
  unfold discover
  split
  · simp [h]
  · -- What discovery hears of the event, and then whether this closes the window.
    dsimp only
    split <;> split <;> simp

/-- Going on after discovery does not lead to probing at once. -/
theorem stage_proceed_ne (m : Monitor) (r : Registry) (p : Pool) :
    (m.proceed r).1.stage ≠ .probing p := by
  unfold proceed
  split
  · simp
  · split <;> simp

/-- A run that closes its pool does not come back to probing. -/
theorem stage_settle_ne (m : Monitor) (heading : Heading) (q : Pool) (t : Trace) (p : Pool) :
    (m.settle heading q t).1.stage ≠ .probing p := by
  unfold settle
  split <;> simp

/-- After an interrupt a pool is waited for as it was before, or cancelled. -/
theorem probing_of_interrupt (h : m.interrupt.1.stage = .probing p) :
    ∃ q, m.stage = .probing q ∧ (p = q ∨ p.cancelled = true) := by
  unfold interrupt at h
  -- Only the first interrupt of a probing monitor touches the pool.
  split at h
  · exact ⟨p, h, .inl rfl⟩
  · split at h
    · exact ⟨p, h, .inl rfl⟩
    · rename_i q hstage
      cases h
      exact ⟨q, hstage, .inr rfl⟩
    · cases h
    · exact ⟨p, h, .inl rfl⟩

/-- A run that is woken goes on waiting where not all workers have ended. -/
theorem probing_of_wake {q : Pool} {first : Look}
    (h : (m.wakeProbing q first).1.stage = .probing p) : p = q.poll.1 ∧ p.stage ≠ .waited := by
  -- Of the ways to leave a poll, only one stays in this stage.
  unfold wakeProbing at h
  split at h
  · cases h
  · dsimp only at h
    split at h
    · cases h
    · rename_i hwaited
      split at h
      · cases h
      · cases h
        exact ⟨rfl, hwaited⟩

/-- Where a pool that is waited for comes from: it was created, or it was waited for before and has
    not ended by now. -/
theorem probing_cases (h : (m.step e).1.stage = .probing p) :
    (∃ r socket opening, m.stage = .opening r ∧
      Pool.spawn m.options.probe r m.cancelledEarly socket = .ok (p, opening)) ∨
    ∃ q, m.stage = .probing q ∧ (p = q ∨ (∃ ip moment, p = (q.turn ip moment).1) ∨
      (p = q.poll.1 ∧ p.stage ≠ .waited) ∨ (e.isInterrupt = true ∧ p.cancelled = true)) := by
  by_cases hint : e = .interrupt
  · subst hint
    rw [step] at h
    obtain ⟨q, hstage, hq | hcancelled⟩ := probing_of_interrupt h
    · exact .inr ⟨q, hstage, .inl hq⟩
    · exact .inr ⟨q, hstage, .inr (.inr (.inr ⟨rfl, hcancelled⟩))⟩
  -- Any other event matters in its own stages only. A pool is waited for once there are sockets,
  -- and from then on until it has ended.
  obtain ⟨o, early, stage⟩ := m
  cases stage with
  | discovering w =>
    cases e with
    | discovery d => exact absurd h (stage_discover_ne _ w d rfl p)
    | interrupt => exact absurd rfl hint
    | _ => cases h
  | discovered r =>
    cases e with
    | proceed => exact absurd h (stage_proceed_ne _ r p)
    | interrupt => exact absurd rfl hint
    | _ => cases h
  | opening r =>
    cases e with
    | sockets socket =>
      simp only [step, openSockets] at h
      split at h
      · cases h
      · rename_i q opening hspawn
        cases h
        exact .inl ⟨r, socket, opening, rfl, hspawn⟩
    | interrupt => exact absurd rfl hint
    | _ => cases h
  | probing q =>
    refine .inr ⟨q, rfl, ?_⟩
    cases e with
    | turn ip moment =>
      cases h
      exact .inr (.inl ⟨ip, moment, rfl⟩)
    | wake first => exact .inr (.inr (.inl (probing_of_wake h)))
    | interrupt => exact absurd rfl hint
    | _ =>
      cases h
      exact .inl rfl
  | closing heading q =>
    cases e with
    | wake first => exact absurd h (stage_settle_ne _ heading _ _ p)
    | deadline => exact absurd h (stage_settle_ne _ heading _ _ p)
    | interrupt => exact absurd rfl hint
    | _ => cases h
  | done result =>
    rw [step_done] at h
    cases h

/-! ## Runs that are not interrupted -/

/-- A pool that is waited for has a roster. -/
theorem roster_of_probing (h : (x.after es).stage = .probing p) : p.Roster := by
  have hreached := reached x es
  generalize x.after es = m at hreached h
  cases hreached with
  | probing underway stage =>
    cases h
    exact underway.probes.sound.1
  | _ => cases h

/-- Until an interrupt is noticed, nobody stops for one. -/
theorem ne_cancelled_of_free (h : (x.after es).stage = .probing p) (free : p.cancelled = false) :
    ∀ w ∈ p.workers, w.phase ≠ .stopped .cancelled := by
  -- Back along the run: a pool that is not cancelled now was not before, and no step stops a worker
  -- for it.
  induction es using List.reverseRecOn generalizing p with
  | nil => exact absurd h (stage_begin_ne x p)
  | append_singleton es e ih =>
    rw [Setting.after_snoc] at h
    obtain ⟨r, socket, opening, hstage, hspawn⟩ | ⟨q, hstage, hq⟩ := probing_cases h
    · obtain ⟨rfl, -⟩ := Pool.eq_of_spawn hspawn
      intro w hw
      obtain ⟨d, -, rfl⟩ := List.mem_map.mp hw
      simp
    · obtain rfl | ⟨ip, moment, rfl⟩ | ⟨rfl, hwaited⟩ | ⟨-, hcancelled⟩ := hq
      · exact ih hstage free
      · rw [Pool.cancelled_turn] at free
        exact Pool.turn_ne_cancelled free (ih hstage free) ip moment
      · rw [Pool.cancelled_poll hwaited] at free
        rw [Pool.workers_poll]
        exact ih hstage free
      · rw [hcancelled] at free
        cases free

/-- A pool that is waited for is cancelled by an interrupt alone. -/
theorem free_of_uninterrupted (quiet : x.interrupted es = false)
    (h : (x.after es).stage = .probing p) : p.cancelled = false := by
  induction es using List.reverseRecOn generalizing p with
  | nil => exact absurd h (stage_begin_ne x p)
  | append_singleton es e ih =>
    rw [Setting.interrupted_snoc, Bool.or_eq_false_iff] at quiet
    rw [Setting.after_snoc] at h
    obtain ⟨r, socket, opening, hstage, hspawn⟩ | ⟨q, hstage, hq⟩ := probing_cases h
    · -- The pool is created as the run is, which knows of no interrupt.
      obtain ⟨rfl, -⟩ := Pool.eq_of_spawn hspawn
      have hreached := reached x es
      generalize x.after es = m at hreached hstage
      cases hreached with
      | opening found shows => exact quiet.1
      | _ => cases hstage
    · obtain rfl | ⟨ip, moment, rfl⟩ | ⟨rfl, hwaited⟩ | ⟨hinterrupt, -⟩ := hq
      · exact ih quiet.1 hstage
      · rw [Pool.cancelled_turn]
        exact ih quiet.1 hstage
      · rw [Pool.cancelled_poll hwaited]
        exact ih quiet.1 hstage
      · rw [quiet.2] at hinterrupt
        cases hinterrupt

/-! ## Where the last report comes from -/

/-- The run waits for `p`, and when it is woken it finds that all workers have ended. It looks at
    `first` first, and `seen` says whether it was interrupted by then. -/
structure Setting.Waited (x : Setting) (es : List Event) (p : Pool) (first : Look) (seen : Bool) :
    Prop where
  meets : x.Meets es (.probing p) (.wake first) seen
  ended : p.poll.1.stage = .waited
  /-- An interrupt that is looked at first decides the last report. -/
  unseen : first = .cancellation → p.cancelled = false

/-- A wait that has ended has ended, whatever comes later. -/
theorem Setting.Waited.snoc {first : Look} {seen : Bool} (h : x.Waited es p first seen) :
    x.Waited (es ++ [e]) p first seen :=
  ⟨h.meets.snoc, h.ended, h.unseen⟩

/-- Whether a run that is to be reported as finished, or was, has waited for its pool. -/
def Explained (x : Setting) (es : List Event) (t : Trace) : Stage → Prop
  | .closing .finished q =>
    ∃ p first seen events, x.Waited es p first seen ∧ q = (p.poll.1.run events).1
  | .done _ => ∀ r, (.finished, r) ∈ t.reports →
    ∃ p first seen events, x.Waited es p first seen ∧ r = (p.poll.1.run events).1.registry
  | _ => True

/-- A pool reports nothing as finished. -/
theorem not_finished_of_reportsLoss {t : Trace} {r s : Registry} (h : ∀ a ∈ t, a.ReportsLoss r) :
    (.finished, s) ∉ t.reports := by
  intro hmem
  obtain ⟨a, ha, hsome⟩ := List.mem_filterMap.mp hmem
  have hloss := h a ha
  cases a <;> cases hsome
  obtain ⟨ip, -, hheading⟩ := hloss
  cases hheading

/-- Before a run is over, it is not reported as finished. -/
theorem Reached.not_finished {t : Trace} (h : Reached x es t m) (going : m.result? = none)
    (r : Registry) : (.finished, r) ∉ t.reports := by
  have hlosses {q : Pool} {s : Registry} {done : Trace} (underway : Underway x es t s q done) :
      (.finished, r) ∉ t.reports := by
    intro hmem
    rw [underway.shows.reports_eq] at hmem
    obtain hsearch | hmem := List.mem_cons.mp hmem
    · cases hsearch
    · obtain ⟨ip, -, hheading⟩ := underway.probes.sound.2.2 _ hmem
      cases hheading
  -- Before the end there are the report of discovery and those of losses.
  cases h with
  | discovering window opened shows => simp [shows.reports_eq]
  | discovered closed found shows => simp [shows.reports_eq]
  | opening found shows => simp [shows.reports_eq]
  | probing underway stage => exact hlosses underway
  | closing underway stage last => exact hlosses underway
  | done ending => cases going

/-- What closing a pool adds to a run: once it is closed, the last report. -/
theorem settle_cases (o : Options) (early : Bool) (stage : Stage) (heading : Heading) (q : Pool)
    (t : Trace) :
    (settle ⟨o, early, stage⟩ heading q t = (⟨o, early, .closing heading q⟩, t)) ∨
      (settle ⟨o, early, stage⟩ heading q t).1.stage = .done (.ok ()) ∧
        (settle ⟨o, early, stage⟩ heading q t).2.reports = t.reports ++ [(heading, q.registry)] := by
  unfold settle
  split
  · refine .inr ⟨rfl, ?_⟩
    split <;> simp [Trace.reports]
  · exact .inl rfl

/-- What explains a run explains it after an event that changes nothing. -/
theorem Explained.snoc {t : Trace} {stage : Stage} (h : Explained x es t stage) :
    Explained x (es ++ [e]) t stage := by
  unfold Explained at h ⊢
  split at h
  · obtain ⟨p, first, seen, events, hwaited, hq⟩ := h
    exact ⟨p, first, seen, events, hwaited.snoc, hq⟩
  · intro r hmem
    obtain ⟨p, first, seen, events, hwaited, hr⟩ := h r hmem
    exact ⟨p, first, seen, events, hwaited.snoc, hr⟩
  · trivial

/-- While the pool is being closed, it goes on as it was left when everyone had ended. -/
theorem Explained.closing {t t' : Trace} {heading : Heading} {q : Pool}
    (h : Explained x es t (.closing heading q)) (event : Pool.Event) :
    Explained x (es ++ [e]) t' (.closing heading (q.step event).1) := by
  cases heading with
  | finished =>
    obtain ⟨p, first, seen, events, hwaited, rfl⟩ := h
    exact ⟨p, first, seen, events ++ [event], hwaited.snoc, (Pool.run_snoc ..).symm⟩
  | _ => trivial

/-- With the pool closed, the last report shows it as it was left when everyone had ended. -/
theorem Explained.settle {t t' : Trace} {o : Options} {early : Bool} {heading : Heading}
    {stage : Stage} {q : Pool} {s : Registry} (h : Explained x es t (.closing heading q))
    (before : ∀ r, (.finished, r) ∉ t.reports) (losses : ∀ a ∈ t', a.ReportsLoss s) :
    Explained x es (t ++ (Monitor.settle ⟨o, early, stage⟩ heading q t').2)
      (Monitor.settle ⟨o, early, stage⟩ heading q t').1.stage := by
  -- As long as the pool is not closed nothing is reported, and then the last report is.
  obtain hclosing | ⟨hdone, hreports⟩ := settle_cases o early stage heading q t'
  · rw [hclosing]
    cases heading with
    | finished => exact h
    | _ => trivial
  · rw [hdone]
    intro r hmem
    rw [Trace.reports_append, hreports] at hmem
    simp only [List.mem_append, List.mem_singleton, Prod.mk.injEq] at hmem
    rcases hmem with hmem | hmem | ⟨rfl, rfl⟩
    · exact absurd hmem (before r)
    · exact absurd hmem (not_finished_of_reportsLoss losses)
    · obtain ⟨p, first, seen, events, hwaited, rfl⟩ := h
      exact ⟨p, first, seen, events, hwaited, rfl⟩

/-- A run without a pool is not reported as finished. -/
theorem Explained.of_early {t : Trace} {o : Options} {early : Bool} {stage : Stage}
    (before : ∀ r, (.finished, r) ∉ t.reports)
    (unpooled : pool? ⟨o, early, stage⟩ = none) (going : result? ⟨o, early, stage⟩ = none)
    (quiet : e.isInterrupt = false) :
    Explained x es (t ++ (step ⟨o, early, stage⟩ e).2) (step ⟨o, early, stage⟩ e).1.stage := by
  -- Before there is a pool, a run may end, but not as finished.
  cases stage with
  | discovering w =>
    cases e with
    | discovery d =>
      simp only [step, discover]
      split
      · trivial
      · split <;> split <;> trivial
    | interrupt => cases quiet
    | _ => trivial
  | discovered r =>
    cases e with
    | proceed =>
      simp only [step, proceed]
      split
      · -- The report says that the run was cancelled.
        intro s hmem
        rw [Trace.reports_append] at hmem
        obtain hmem | hmem := List.mem_append.mp hmem
        · exact absurd hmem (before s)
        · cases List.mem_singleton.mp hmem
      · split
        · intro s hmem
          rw [List.append_nil] at hmem
          exact absurd hmem (before s)
        · trivial
    | interrupt => cases quiet
    | _ => trivial
  | opening r =>
    cases e with
    | sockets socket =>
      simp only [step, openSockets]
      split
      · intro s hmem
        rw [List.append_nil] at hmem
        exact absurd hmem (before s)
      · trivial
    | interrupt => cases quiet
    | _ => trivial
  | probing p => cases unpooled
  | closing heading p => cases unpooled
  | done result => cases going

/-- A run that is woken is explained: where its wait is over, that is why it will be reported as
    finished. -/
theorem Explained.wakeProbing {t : Trace} {early : Bool} (first : Look)
    (hstage : (x.after es).stage = .probing p) :
    let m' := Monitor.wakeProbing ⟨x.options, early, .probing p⟩ p first
    Explained x (es ++ [.wake first]) (t ++ m'.2) m'.1.stage := by
  intro m'
  unfold m' Monitor.wakeProbing
  -- The look at the interrupt comes first or second; the wait counts as over only in between.
  split
  · trivial
  · rename_i hfirst
    dsimp only
    split
    · rename_i hwaited
      have hunseen : first = .cancellation → p.cancelled = false := by
        intro heq
        simpa [heq] using hfirst
      exact ⟨p, first, _, [.close], ⟨Setting.meets_last hstage, hwaited, hunseen⟩, rfl⟩
    · split <;> trivial

/-- An interrupt is only remembered. -/
theorem Explained.interrupt {t : Trace} (h : Explained x es t m.stage) (going : m.result? = none) :
    Explained x (es ++ [.interrupt]) (t ++ (m.step .interrupt).2) (m.step .interrupt).1.stage := by
  obtain ⟨early, logs, hint, -, -⟩ := interrupt_eq m going
  rw [step, hint]
  obtain ⟨o, seen, stage⟩ := m
  cases stage with
  | closing heading q => exact h.closing .cancel
  | done result => cases going
  | _ => trivial

/-- Every event leaves it explained why a run is reported as finished. -/
theorem Explained.step {t : Trace} (h : Explained x es t m.stage) (hreached : Reached x es t m)
    (hm : m = x.after es) (e : Event) :
    Explained x (es ++ [e]) (t ++ (m.step e).2) (m.step e).1.stage := by
  have hbefore := hreached.not_finished
  by_cases hint : e = .interrupt
  · subst hint
    cases hresult : m.result? with
    | none => exact h.interrupt hresult
    | some result =>
      cases hreached with
      | done ending =>
        rw [step_done, List.append_nil]
        exact h.snoc
      | _ => cases hresult
  have hquiet : e.isInterrupt = false := by cases e <;> first | rfl | exact absurd rfl hint
  -- Before the workers are waited for nothing is reported as finished. While they are, the heading
  -- is chosen when they are looked at, and then it stays.
  cases hreached with
  | discovering window opened shows => exact .of_early (hbefore rfl) rfl rfl hquiet
  | discovered closed found shows => exact .of_early (hbefore rfl) rfl rfl hquiet
  | opening found shows => exact .of_early (hbefore rfl) rfl rfl hquiet
  | probing underway stage =>
    cases e with
    | wake first => exact .wakeProbing first (by rw [← hm])
    | interrupt => cases hquiet
    | _ => trivial
  | @closing early heading r q done underway stage last =>
    cases e with
    | turn ip moment => exact h.closing (.turn ip moment)
    | wake first =>
      exact (h.closing .poll).settle (hbefore rfl) (Pool.step_reportsLoss q .poll)
    | deadline =>
      exact (h.closing .deadline).settle (hbefore rfl) (Pool.step_reportsLoss q .deadline)
    | interrupt => cases hquiet
    | _ =>
      show Explained x _ (t ++ []) (.closing heading q)
      rw [List.append_nil]
      exact h.snoc
  | done ending =>
    rw [step_done, List.append_nil]
    exact h.snoc

/-- Every run is explained at every moment. -/
theorem explained (x : Setting) (es : List Event) :
    Explained x es (x.trace es) (x.after es).stage := by
  induction es using List.reverseRecOn with
  | nil =>
    have htrace : x.trace [] = x.begin.2 := List.append_nil _
    have hafter : x.after [] = x.begin.1 := rfl
    rw [htrace, hafter]
    -- A run that ends at once reports the empty result of discovery, or nothing.
    unfold Setting.begin start
    split
    · exact fun r hmem => absurd hmem List.not_mem_nil
    · split
      · intro r hmem
        rw [Trace.reports_append] at hmem
        obtain hmem | hmem := List.mem_append.mp hmem
        · exact absurd hmem List.not_mem_nil
        · cases List.mem_singleton.mp hmem
      · trivial
  | append_singleton es e ih =>
    rw [Setting.after_snoc, Setting.trace_snoc]
    exact ih.step (reached x es) rfl e

end

/-! ## Main result -/

/-- Where a run is reported as finished, it was woken while it waited for its pool, and found that
    all workers had ended by themselves; the report shows the counters as they were then, and
    whatever happens later, no worker changes and none is aborted. If there was no interrupt before,
    or the run looked for one first, all workers have spent their budgets, except those that
    failed.

    A run that is woken polls both of what it waits for, the interrupt and the end of its workers,
    in the order that `first` tells, and goes on with the first that is ready. Such a poll is taken
    as one step, with both of its looks: a turn or an interrupt that comes between the looks is
    taken to come before the poll, which then looks at the workers first, or after it. -/
theorem finished_after_wait (x : Setting) (es : List Event) (r : Registry)
    (h : (.finished, r) ∈ (x.trace es).reports) :
    ∃ p first seen, x.Meets es (.probing p) (.wake first) seen ∧ p.registry = r ∧
      (∀ w ∈ p.workers, ∃ e, (w.target.ip, e) ∈ p.poll.1.joined ∧ w.phase = e.phase) ∧
      (∀ events, (p.poll.1.run events).1.workers = p.workers ∧
        (p.poll.1.run events).1.registry = r ∧ (p.poll.1.run events).1.aborted = 0) ∧
      (seen = false ∨ first = .cancellation → ∀ w ∈ p.workers,
        w.phase = .stopped .budgetExhausted ∨ ∃ fault, w.phase = .faulted fault) := by
  have hexplained := explained x es
  have hreached := reached x es
  -- A run with such a report is over, and its end is explained by a wait.
  obtain ⟨p, first, seen, events, hwaited, hr⟩ : ∃ p first seen events,
      x.Waited es p first seen ∧ r = (p.poll.1.run events).1.registry := by
    generalize x.after es = m at hexplained hreached
    cases hresult : m.result? with
    | none => exact absurd h (hreached.not_finished hresult r)
    | some result =>
      cases hreached with
      | done ending => exact hexplained r h
      | _ => cases hresult
  obtain ⟨before, later, -, hstage, hseen⟩ := hwaited.meets
  have hroster := (roster_of_probing hstage).poll
  have hall := (hroster.waited hwaited.ended).1
  have hrest := Pool.run_of_collected hroster hall
  simp only [Pool.workers_poll, Pool.registry_poll] at hrest
  have hregistry : p.registry = r := by rw [hr, (hrest events).2.1]
  refine ⟨p, first, seen, hwaited.meets, hregistry, fun w hw => ?_, fun events => ?_,
    fun hunseen w hw => ?_⟩
  · exact hroster.exists_joined hall (by rwa [Pool.workers_poll])
  · exact hregistry ▸ hrest events
  · -- Where nobody could stop for a cancellation, the budget is the only reason left.
    have hfree : p.cancelled = false := by
      rcases hunseen with hquiet | hfirst
      · exact free_of_uninterrupted (hseen.trans hquiet) hstage
      · exact hwaited.unseen hfirst
    obtain ⟨e, -, hphase⟩ := hroster.exists_joined hall (by rwa [Pool.workers_poll])
    rw [hphase]
    cases e with
    | faulted fault => exact .inr ⟨fault, rfl⟩
    | stopped reason =>
      cases reason with
      | budgetExhausted => exact .inl rfl
      | cancelled => exact absurd hphase (ne_cancelled_of_free hstage hfree w hw)

/-! ## Runs with one device -/

/-- The device in the runs below. -/
def onlyIp : IpAddr := .v4 192 168 137 102

/-- A run with this budget, which nothing hinders. -/
def budgeted (maxProbes : UInt64) : Setting :=
  ⟨{ probe := { maxProbes } }, false, .ok (), .ok ()⟩

/-- The device replies. -/
def reply : Event := .discovery (.datagram onlyIp [0x7b, 0x7d] .epoch)

/-- The run after the reply. -/
def afterReply (maxProbes : UInt64) : Monitor :=
  ⟨(budgeted maxProbes).options, false,
    .discovering { registry := ⟨[⟨onlyIp, .v2, .epoch, {}⟩], by decide⟩, added := 1 }⟩

/-- Discovery ends, and a worker for the device begins. -/
def probeIt : List Event := [.discovery .timeUp, .proceed, .sockets fun _ => .ok ()]

/-- The reply leads to a run with one device. -/
theorem after_reply (maxProbes : UInt64) :
    (budgeted maxProbes).after [reply] = afterReply maxProbes := by
  have hstep : (budgeted maxProbes).after [reply] =
      (discover ⟨(budgeted maxProbes).options, false, .discovering { registry := {} }⟩
        { registry := {} } (.datagram onlyIp [0x7b, 0x7d] .epoch)).1 := rfl
  rw [hstep]
  simp only [discover, Discovery.Window.step, Bool.false_eq_true, if_false, if_true,
    Discovery.Window.receive_braces]
  rfl

/-- From the reply on a run can be evaluated. -/
theorem run_cons_reply (maxProbes : UInt64) (es : List Event) :
    (budgeted maxProbes).after (reply :: es) = ((afterReply maxProbes).run es).1 ∧
      ∃ t, (budgeted maxProbes).trace (reply :: es) = t ++ ((afterReply maxProbes).run es).2 := by
  have happend : (budgeted maxProbes).begin.1.run ([reply] ++ es) =
      (((afterReply maxProbes).run es).1,
        ((budgeted maxProbes).begin.1.run [reply]).2 ++ ((afterReply maxProbes).run es).2) := by
    rw [run, Machine.run_append, ← after_reply]
    rfl
  refine ⟨?_, (budgeted maxProbes).trace [reply], ?_⟩
  · exact (congrArg Prod.fst happend :)
  · rw [Setting.trace, Setting.trace, List.append_assoc]
    exact congrArg ((budgeted maxProbes).begin.2 ++ ·) (congrArg Prod.snd happend)

/-- A report after the reply is a report of the whole run. -/
theorem exists_finished (maxProbes : UInt64) (es : List Event)
    (h : .finished ∈ ((afterReply maxProbes).run es).2.reports.map Prod.fst) :
    ∃ r, (.finished, r) ∈ ((budgeted maxProbes).trace (reply :: es)).reports := by
  obtain ⟨-, t, htrace⟩ := run_cons_reply maxProbes es
  obtain ⟨⟨_, r⟩, hmem, rfl⟩ := List.mem_map.mp h
  refine ⟨r, ?_⟩
  rw [htrace, Trace.reports_append]
  exact List.mem_append_right _ hmem

/-- A run that spends its budget of a single probe, and is reported as finished. -/
theorem finished_after_one_probe :
    let es := reply :: probeIt ++ [.turn onlyIp {}, .wake .workers, .wake .workers]
    ∃ r, (.finished, r) ∈ ((budgeted 1).trace es).reports ∧
      ∃ p first seen, (budgeted 1).Meets es (.probing p) (.wake first) seen ∧ p.registry = r := by
  intro es
  obtain ⟨r, hr⟩ := exists_finished 1
    (probeIt ++ [.turn onlyIp {}, .wake .workers, .wake .workers]) (by decide)
  obtain ⟨p, first, seen, hmeets, hregistry, -⟩ := finished_after_wait (budgeted 1) es r hr
  exact ⟨r, hr, p, first, seen, hmeets, hregistry⟩

/-- An interrupt comes while the only worker waits for a reply. The worker stops for it, with most of
    its budget unspent, before the run is woken; the run looks at its workers first, and is reported
    as finished. -/
theorem finished_although_interrupted :
    let before := reply :: probeIt ++
      [.turn onlyIp {}, .interrupt, .turn onlyIp { received := .datagram }]
    let es := before ++ [.wake .workers, .wake .workers]
    ∃ r p, (.finished, r) ∈ ((budgeted 100).trace es).reports ∧
      (budgeted 100).Meets es (.probing p) (.wake .workers) true ∧
      p.poll.1.stage = .waited ∧ p.workers.map Probe.Worker.phase = [.stopped .cancelled] := by
  intro before es
  obtain ⟨r, hr⟩ := exists_finished 100 (probeIt ++
    [.turn onlyIp {}, .interrupt, .turn onlyIp { received := .datagram }, .wake .workers,
      .wake .workers]) (by decide)
  -- At the first wake-up the worker has stopped, so the wait is over although the run is cancelled.
  obtain ⟨p, hstage, hended, hphases⟩ : ∃ p, ((budgeted 100).after before).stage = .probing p ∧
      p.poll.1.stage = .waited ∧ p.workers.map Probe.Worker.phase = [.stopped .cancelled] := by
    have hafter : (budgeted 100).after before = _ := (run_cons_reply 100 _).1
    rw [hafter]
    exact ⟨_, rfl, rfl, rfl⟩
  exact ⟨r, p, hr, ⟨before, [.wake .workers], rfl, hstage, rfl⟩, hended, hphases⟩

end Monitor
end LossProbe
