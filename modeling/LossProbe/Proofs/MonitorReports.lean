import LossProbe.Command
import LossProbe.Proofs.PoolWorkers

/-!
# What a monitoring run reports

A run goes from discovery to probing to closing, and at each stage it is known what it has reported
and sent so far, and which devices its window for replies collected (`Monitor.Reached`). Every event
leads from such a stage to another (`Monitor.Reached.step`), so a run that is over has ended in one
of six ways, each with its reports, its result and its exit code (`Monitor.monitor_reports`).
-/

namespace LossProbe

/-! ## Reports of a pool -/

/-- What can be seen of a trace besides its log. -/
structure Trace.Shows (t : Trace) (reports : List (Heading × Registry)) (sendings : List Sending) :
    Prop where
  reports_eq : t.reports = reports
  sendings_eq : t.sendings = sendings

/-- One trace behind another shows the reports and sendings of both, in this order. -/
theorem Trace.Shows.append {s t : Trace} {reports reports' : List (Heading × Registry)}
    {sendings sendings' : List Sending} (hs : s.Shows reports sendings)
    (ht : t.Shows reports' sendings') :
    Trace.Shows (s ++ t) (reports ++ reports') (sendings ++ sendings') where
  reports_eq := by rw [reports_append, hs.reports_eq, ht.reports_eq]
  sendings_eq := by rw [sendings_append, hs.sendings_eq, ht.sendings_eq]

/-- Whether an entry reports nothing but a loss on one of these devices. -/
def Trace.Entry.ReportsLoss (r : Registry) : Trace.Entry → Prop
  | .report h _ => ∃ ip ∈ r.ips, h = .lossEvent ip
  | _ => True

namespace Pool

open Probe

variable {p : Pool} {ip : IpAddr}

/-- A report that a worker makes is about a loss of its own device. -/
theorem reportsLoss_entry {r : Registry} (known : ip ∈ r.ips) (now : Registry) (n : Notice) :
    (entry ip now n).ReportsLoss r := by
  cases n with
  | sending s => trivial
  | log e => trivial
  | loss stats => exact ⟨ip, known, rfl⟩

/-- A pool reports losses of its devices, and nothing else. -/
theorem step_reportsLoss (p : Pool) (e : Event) : ∀ a ∈ (p.step e).2, a.ReportsLoss p.registry := by
  intro a ha
  obtain ⟨l, rfl⟩ | ⟨w, -, known, s, n, -, rfl⟩ := step_entries p e a ha
  · trivial
  · exact reportsLoss_entry known _ n

/-- All reports that a pool makes are about losses of devices in its registry. -/
theorem run_reportsLoss (p : Pool) (es : List Event) :
    ∀ a ∈ (p.run es).2, a.ReportsLoss p.registry := by
  refine (Machine.run_induction (motive := fun (q : Pool) (past : Trace) =>
    q.registry.ips = p.registry.ips ∧ ∀ a ∈ past, a.ReportsLoss p.registry)
    ⟨rfl, List.forall_mem_nil _⟩ ?_ es).2
  -- The devices stay the same, so those of a later pool are those of the first.
  rintro q past e ⟨hips, hpast⟩
  refine ⟨(step_ips q e).trans hips, fun a ha => ?_⟩
  obtain ha | ha := List.mem_append.mp ha
  · exact hpast a ha
  · have hlast := step_reportsLoss q e a ha
    cases a with
    | report h r => simpa only [Trace.Entry.ReportsLoss, hips] using hlast
    | sending s => trivial
    | log l => trivial

/-- A pool reports losses of its devices, and nothing else. -/
theorem run_reports (p : Pool) (es : List Event) :
    ∀ x ∈ (p.run es).2.reports, ∃ ip ∈ p.registry.ips, x.1 = .lossEvent ip := by
  intro x hx
  obtain ⟨a, ha, hsome⟩ := List.mem_filterMap.mp hx
  have hloss := run_reportsLoss p es a ha
  cases a <;> cases hsome
  exact hloss

/-- The first socket that could not be opened is one of a device. -/
theorem exists_of_bindError? {r : Registry} {socket : Nat → Except IoError Unit} {e : BindError}
    (h : bindError? r socket = some e) :
    ∃ i d, r.toList[i]? = some d ∧ d.ip = e.ip ∧ socket i = .error e.cause := by
  obtain ⟨⟨d, i⟩, hmem, hsome⟩ := List.exists_of_findSome?_eq_some h
  refine ⟨i, d, List.mem_zipIdx_iff_getElem?.mp hmem, ?_⟩
  cases hsocket : socket i with
  | ok _ => simp [hsocket] at hsome
  | error cause =>
    simp only [hsocket, Option.some.injEq] at hsome
    subst hsome
    exact ⟨rfl, rfl⟩

/-- A pool is created for its devices, or it is known for which of them no socket could be
    opened. -/
theorem spawn_cases (c : ProbeConfig) (r : Registry) (cancelled : Bool)
    (socket : Nat → Except IoError Unit) :
    (∃ p opening, spawn c r cancelled socket = .ok (p, opening)) ∨
      ∃ e, spawn c r cancelled socket = .error e ∧
        ∃ i d, r.toList[i]? = some d ∧ d.ip = e.ip ∧ socket i = .error e.cause := by
  unfold spawn
  cases h : bindError? r socket with
  | none => exact .inl ⟨_, _, rfl⟩
  | some e => exact .inr ⟨e, rfl, exists_of_bindError? h⟩

end Pool

namespace Monitor

/-! ## Runs from their beginning -/

/-- What a run begins with. -/
structure Setting where
  options : Options
  /-- Whether the run was cancelled beforehand. -/
  cancelled : Bool
  /-- What opening the socket for discovery came to. -/
  socket : Except IoError Unit
  /-- What sending the request came to. -/
  sent : Except IoError Unit

def Event.isInterrupt : Event → Bool
  | .interrupt => true
  | _ => false

/-- What discovery hears of an event, where `seen` says whether the run was cancelled by then: a run
    that was cancelled only hears so, and no other run does. -/
def Event.heard (seen : Bool) : Event → List Discovery.Event
  | .discovery .cancelled => if seen then [.cancelled] else []
  | .discovery d => [if seen then .cancelled else d]
  | _ => []

/-- What discovery hears of several events. -/
def heardFrom (seen : Bool) : List Event → List Discovery.Event
  | [] => []
  | e :: es => e.heard seen ++ heardFrom (seen || e.isInterrupt) es

/-- What a further event tells the window stands behind what was heard before it. -/
theorem heardFrom_snoc (seen : Bool) (es : List Event) (e : Event) :
    heardFrom seen (es ++ [e]) =
      heardFrom seen es ++ e.heard (seen || es.any Event.isInterrupt) := by
  induction es generalizing seen with
  | nil => simp [heardFrom]
  | cons a es ih => simp [heardFrom, ih, Bool.or_assoc]

namespace Setting

variable (x : Setting)

def begin : Monitor × Trace := start x.options x.cancelled x.socket x.sent

/-- The run after these events. -/
def after (es : List Event) : Monitor := (x.begin.1.run es).1

/-- All that the run does up to then. -/
def trace (es : List Event) : Trace := x.begin.2 ++ (x.begin.1.run es).2

/-- Whether the run was cancelled, beforehand or by one of these events. -/
def interrupted (es : List Event) : Bool := x.cancelled || es.any Event.isInterrupt

/-- The window of discovery after what it heard of these events. -/
def window (es : List Event) : Discovery.Window :=
  (Discovery.Window.run { registry := {} } (heardFrom x.cancelled es)).1

/-- The request as it is sent, and nothing else. -/
def asked : List Sending := (Discovery.request x.options.discovery x.sent).sendings

/-- An event comes when the run is at this stage, where `seen` says whether it was cancelled by
    then. -/
def Meets (es : List Event) (stage : Stage) (e : Event) (seen : Bool) : Prop :=
  ∃ before later, es = before ++ e :: later ∧ (x.after before).stage = stage ∧
    x.interrupted before = seen

/-- The window closed with these devices, and then the run decided whether to probe them, where
    `seen` says whether it was cancelled by then. -/
structure Decides (es : List Event) (r : Registry) (seen : Bool) : Prop where
  closed : (x.window es).isOpen = false
  found : (x.window es).registry = r
  meets : x.Meets es (.discovered r) .proceed seen

/-- Devices were found, and the run was not cancelled by the end of discovery. -/
def Finds (es : List Event) (r : Registry) : Prop := x.Decides es r false ∧ r.isEmpty = false

/-- The devices that were found had their sockets opened and were probed by a pool, which became `q`
    and has done this. -/
def Probes (es : List Event) (r : Registry) (q : Pool) (done : Trace) : Prop :=
  ∃ socket seen p opening events, x.Meets es (.opening r) (.sockets socket) seen ∧
    Pool.spawn x.options.probe r seen socket = .ok (p, opening) ∧ p.run events = (q, done)

variable {x} {es : List Event} {e : Event}

/-- With one more event, a run is one step further. -/
theorem after_snoc : x.after (es ++ [e]) = ((x.after es).step e).1 := by
  rw [after, run, Machine.run_append]
  rfl

/-- What one more event does comes behind what was done. -/
theorem trace_snoc : x.trace (es ++ [e]) = x.trace es ++ ((x.after es).step e).2 := by
  rw [trace, run, Machine.run_append]
  simp [trace, after, run, Machine.run]

/-- An interrupt is noticed from the event on that it is. -/
theorem interrupted_snoc : x.interrupted (es ++ [e]) = (x.interrupted es || e.isInterrupt) := by
  simp [interrupted, Bool.or_assoc]

/-- An event that is no interrupt leaves a run as cancelled, or not, as it was. -/
theorem interrupted_snoc_of_quiet (quiet : e.isInterrupt = false) :
    x.interrupted (es ++ [e]) = x.interrupted es := by
  rw [interrupted_snoc, quiet, Bool.or_false]

/-- What a run met it has met when it goes on. -/
theorem Meets.snoc {stage : Stage} {m : Event} {seen : Bool} (h : x.Meets es stage m seen) :
    x.Meets (es ++ [e]) stage m seen := by
  obtain ⟨before, later, rfl, hmet⟩ := h
  exact ⟨before, later ++ [e], by simp, hmet⟩

/-- The window takes one more event as far as it hears of it. -/
theorem window_snoc : x.window (es ++ [e]) =
    (Discovery.Window.run (x.window es) (e.heard (x.interrupted es))).1 := by
  rw [window, heardFrom_snoc, Discovery.Window.run, Machine.run_append]
  rfl

/-- An event that the window does not hear of leaves it as it is. -/
theorem window_snoc_of_unheard (h : e.heard (x.interrupted es) = []) :
    x.window (es ++ [e]) = x.window es := by
  rw [window_snoc, h]
  rfl

/-- A window that is closed takes nothing more. -/
theorem window_snoc_of_closed (h : (x.window es).isOpen = false) :
    x.window (es ++ [e]) = x.window es := by
  rw [window_snoc, Discovery.Window.run_of_closed h]

/-- What a run decided stays decided. -/
theorem Decides.snoc {r : Registry} {seen : Bool} (h : x.Decides es r seen) :
    x.Decides (es ++ [e]) r seen := by
  have hwindow := window_snoc_of_closed (e := e) h.closed
  exact ⟨hwindow ▸ h.closed, hwindow ▸ h.found, h.meets.snoc⟩

/-- What a run found stays found. -/
theorem Finds.snoc {r : Registry} (h : x.Finds es r) : x.Finds (es ++ [e]) r :=
  ⟨h.1.snoc, h.2⟩

/-- A run meets its last event in the stage before it. -/
theorem meets_last {stage : Stage} (h : (x.after es).stage = stage) :
    x.Meets (es ++ [e]) stage e (x.interrupted es) :=
  ⟨es, [], rfl, h, rfl⟩

/-- Whatever the pool goes on to do, it is the pool of the run. -/
theorem Probes.snoc {r : Registry} {q : Pool} {done : Trace} (h : x.Probes es r q done)
    (events : List Pool.Event) :
    x.Probes (es ++ [e]) r (q.run events).1 (done ++ (q.run events).2) := by
  obtain ⟨socket, seen, p, opening, past, hmeets, hspawn, hrun⟩ := h
  refine ⟨socket, seen, p, opening, past ++ events, hmeets.snoc, hspawn, ?_⟩
  rw [Pool.run_append, hrun]

end Setting

/-- A run that found devices and probes them, and what it has reported and sent so far. -/
structure Underway (x : Setting) (es : List Event) (t : Trace) (r : Registry) (q : Pool)
    (done : Trace) : Prop where
  found : x.Finds es r
  probes : x.Probes es r q done
  shows : t.Shows ((.searchResults, r) :: done.reports) (x.asked ++ done.sendings)

/-! ## How a run ends -/

/-- How a run that is over has ended, and what it has reported and sent. -/
inductive Ending (x : Setting) (es : List Event) (t : Trace) : Except EngineError Unit → Prop
  | noSocket {cause : IoError} (failed : x.socket = .error cause) (shows : t.Shows [] []) :
    Ending x es t (.error (.discovery (.socket cause)))
  | notSent {cause : IoError} (opened : x.socket = .ok ()) (failed : x.sent = .error cause)
      (shows : t.Shows [(.searchResults, {})] x.asked) :
    Ending x es t (.error (.discovery (.broadcast x.options.discovery.target cause)))
  /-- The run was cancelled by the end of discovery. -/
  | cancelled {r : Registry} (decided : x.Decides es r true)
      (shows : t.Shows [(.searchResults, r), (.cancelled, r)] x.asked) : Ending x es t (.ok ())
  /-- No device was found. -/
  | nobody {r : Registry} (decided : x.Decides es r false) (empty : r.isEmpty = true)
      (shows : t.Shows [(.searchResults, r)] x.asked) :
    Ending x es t (.ok ())
  /-- For a device no socket could be opened. -/
  | notBound {r : Registry} {socket : Nat → Except IoError Unit} {seen : Bool} {e : BindError}
      (found : x.Finds es r)
      (opening : x.Meets es (.opening r) (.sockets socket) seen)
      (failed : ∃ i d, r.toList[i]? = some d ∧ d.ip = e.ip ∧ socket i = .error e.cause)
      (shows : t.Shows [(.searchResults, r)] x.asked) :
    Ending x es t (.error (.probe e))
  /-- The devices were probed by a pool, which is closed now. -/
  | probed {r : Registry} {q : Pool} {done before : Trace} {heading : Heading}
      (underway : Underway x es before r q done)
      (losses : ∀ a ∈ done.reports, ∃ ip ∈ r.ips, a.1 = .lossEvent ip)
      (last : heading = .cancelled ∨ heading = .finished)
      (reported : t = before ++ [.report heading q.registry])
      (still : ∀ w ∈ q.workers, w.phase.isRunning = false)
      (final : ∀ events, (q.run events).1.registry = q.registry ∧ (q.run events).2 = []) :
    Ending x es t (.ok ())

/-! ## Where a run can be -/

/-- Where a run is after these events, and what it has reported and sent so far. -/
inductive Reached (x : Setting) (es : List Event) (t : Trace) : Monitor → Prop
  | discovering {w : Discovery.Window} (window : x.window es = w) (opened : w.isOpen = true)
      (shows : t.Shows [] x.asked) : Reached x es t ⟨x.options, x.interrupted es, .discovering w⟩
  | discovered {r : Registry} (closed : (x.window es).isOpen = false)
      (found : (x.window es).registry = r) (shows : t.Shows [(.searchResults, r)] x.asked) :
    Reached x es t ⟨x.options, x.interrupted es, .discovered r⟩
  | opening {r : Registry} (found : x.Finds es r) (shows : t.Shows [(.searchResults, r)] x.asked) :
    Reached x es t ⟨x.options, x.interrupted es, .opening r⟩
  | probing {early : Bool} {r : Registry} {q : Pool} {done : Trace}
      (underway : Underway x es t r q done) (stage : q.stage = .waiting) :
    Reached x es t ⟨x.options, early, .probing q⟩
  | closing {early : Bool} {heading : Heading} {r : Registry} {q : Pool} {done : Trace}
      (underway : Underway x es t r q done) (stage : q.stage = .closing ∨ q.stage = .closed)
      (last : heading = .cancelled ∨ heading = .finished) :
    Reached x es t ⟨x.options, early, .closing heading q⟩
  | done {early : Bool} {result : Except EngineError Unit} (ending : Ending x es t result) :
    Reached x es t ⟨x.options, early, .done result⟩

section Steps

variable {x : Setting} {es : List Event} {t t' : Trace} {m : Monitor} {e : Event} {r : Registry}
  {q : Pool} {done : Trace} {early : Bool}

/-- Logs show nothing else. -/
theorem shows_append_logs {reports : List (Heading × Registry)} {sendings : List Sending}
    (h : t.Shows reports sendings) (logs : t'.Shows [] []) :
    Trace.Shows (t ++ t') reports sendings := by
  simpa using h.append logs

/-- A report adds itself. -/
theorem shows_append_report {reports : List (Heading × Registry)} {sendings : List Sending}
    (h : t.Shows reports sendings) (heading : Heading) (r : Registry) :
    Trace.Shows (t ++ [.report heading r]) (reports ++ [(heading, r)]) sendings where
  reports_eq := by
    rw [Trace.reports_append, h.reports_eq]
    rfl
  sendings_eq := by
    rw [Trace.sendings_append, h.sendings_eq]
    exact List.append_nil _

namespace Underway

/-- Logs do not matter to the reports of a run that is probing. -/
theorem logs (h : Underway x es t r q done) (logs : t'.Shows [] []) :
    Underway x es (t ++ t') r q done :=
  ⟨h.found, h.probes, shows_append_logs h.shows logs⟩

/-- What the pool goes on to do is done by the run. -/
theorem snoc (h : Underway x es t r q done) (e : Event) (events : List Pool.Event) :
    Underway x (es ++ [e]) (t ++ (q.run events).2) r (q.run events).1
      (done ++ (q.run events).2) := by
  refine ⟨h.found.snoc, h.probes.snoc events, ?_⟩
  have hshows := h.shows.append (t := (q.run events).2) ⟨rfl, rfl⟩
  simpa using hshows

/-- A run that is probing is so after an event that changes nothing. -/
theorem idle (h : Underway x es t r q done) (e : Event) : Underway x (es ++ [e]) t r q done := by
  simpa [Pool.run_nil] using h.snoc e []

/-- An interrupt cancels the pool of a run that is probing. -/
theorem cancel (h : Underway x es t r q done) :
    Underway x (es ++ [e]) t r (q.run [.cancel]).1 done := by
  have hnone : (q.run [.cancel]).2 = [] := rfl
  simpa only [hnone, List.append_nil] using h.snoc e [.cancel]

end Underway

/-- A run that has ended has ended in this way, whatever comes later. -/
theorem Ending.snoc {result : Except EngineError Unit} (h : Ending x es t result) (e : Event) :
    Ending x (es ++ [e]) t result := by
  cases h with
  | noSocket failed shows => exact .noSocket failed shows
  | notSent opened failed shows => exact .notSent opened failed shows
  | cancelled decided shows => exact .cancelled decided.snoc shows
  | nobody decided empty shows => exact .nobody decided.snoc empty shows
  | notBound found opening failed shows => exact .notBound found.snoc opening.snoc failed shows
  | probed underway losses last reported still final =>
    exact .probed (underway.idle e) losses last reported still final

/-- An event that does not fit the stage leaves the run where it is, and discovery hears nothing of
    it. -/
theorem Reached.stay (h : Reached x es t m) (quiet : e.isInterrupt = false)
    (unheard : ∀ w, m.stage = .discovering w → e.heard (x.interrupted es) = [])
    (stays : m.step e = (m, [])) : Reached x (es ++ [e]) (t ++ (m.step e).2) (m.step e).1 := by
  have hseen : x.interrupted (es ++ [e]) = x.interrupted es :=
    Setting.interrupted_snoc_of_quiet quiet
  rw [stays, List.append_nil]
  -- Only during discovery does it matter what the window heard, and it heard nothing.
  cases h with
  | discovering window opened shows =>
    have hwindow := Setting.window_snoc_of_unheard (unheard _ rfl)
    exact hseen ▸ .discovering (hwindow.trans window) opened shows
  | discovered closed found shows =>
    have hwindow := Setting.window_snoc_of_closed (e := e) closed
    exact hseen ▸ .discovered (hwindow ▸ closed) (hwindow ▸ found) shows
  | opening found shows => exact hseen ▸ .opening found.snoc shows
  | probing underway stage => exact .probing (underway.idle e) stage
  | closing underway stage last => exact .closing (underway.idle e) stage last
  | done ending => exact .done (ending.snoc e)

/-- What an interrupt makes of a stage: a pool that there is learns of it. -/
def Stage.cancel : Stage → Stage
  | .probing p => .probing (p.run [.cancel]).1
  | .closing h p => .closing h (p.run [.cancel]).1
  | stage => stage

/-- An interrupt is only logged, and is remembered by the pool, or by the run if there is none. -/
theorem interrupt_eq (m : Monitor) (going : m.result? = none) :
    ∃ early logs, m.interrupt = (⟨m.options, early, m.stage.cancel⟩, logs) ∧ logs.Shows [] [] ∧
      (m.pool? = none → early = true) := by
  obtain ⟨o, seen, stage⟩ := m
  -- A run that was cancelled before has nothing to log, and is as it was.
  cases stage with
  | discovering w => cases seen <;> exact ⟨_, _, rfl, ⟨rfl, rfl⟩, fun _ => rfl⟩
  | discovered r => cases seen <;> exact ⟨_, _, rfl, ⟨rfl, rfl⟩, fun _ => rfl⟩
  | opening r => cases seen <;> exact ⟨_, _, rfl, ⟨rfl, rfl⟩, fun _ => rfl⟩
  | probing p =>
    obtain ⟨c, registry, cancelled, workers, ended, joined, stage, aborted⟩ := p
    cases cancelled <;> exact ⟨_, _, rfl, ⟨rfl, rfl⟩, nofun⟩
  | closing h p =>
    obtain ⟨c, registry, cancelled, workers, ended, joined, stage, aborted⟩ := p
    cases cancelled <;> exact ⟨_, _, rfl, ⟨rfl, rfl⟩, nofun⟩
  | done result => cases going

/-- A run that is over stays as it is. -/
theorem step_done (o : Options) (early : Bool) (result : Except EngineError Unit) (e : Event) :
    step ⟨o, early, .done result⟩ e = (⟨o, early, .done result⟩, []) := by
  cases e <;> first | rfl | (cases early <;> rfl)

/-- An interrupt leads a run to the same kind of stage, and only logs. -/
theorem Reached.interrupt (h : Reached x es t m) :
    Reached x (es ++ [.interrupt]) (t ++ (m.step .interrupt).2) (m.step .interrupt).1 := by
  have hseen : x.interrupted (es ++ [.interrupt]) = true := by
    rw [Setting.interrupted_snoc, Event.isInterrupt, Bool.or_true]
  cases hresult : m.result? with
  | some result =>
    cases h with
    | done ending =>
      rw [step_done, List.append_nil]
      exact .done (ending.snoc _)
    | _ => cases hresult
  | none =>
    -- An interrupt leaves the stage, so what was reached there still is.
    obtain ⟨early, logs, hint, hlogs, hearly⟩ := interrupt_eq m hresult
    rw [step, hint]
    cases h with
    | discovering window opened shows =>
      rw [hearly rfl, ← hseen]
      have hwindow : x.window (es ++ [.interrupt]) = x.window es :=
        Setting.window_snoc_of_unheard rfl
      exact .discovering (hwindow.trans window) opened (shows_append_logs shows hlogs)
    | discovered closed found shows =>
      rw [hearly rfl, ← hseen]
      have hwindow := Setting.window_snoc_of_closed (e := .interrupt) closed
      exact .discovered (hwindow ▸ closed) (hwindow ▸ found) (shows_append_logs shows hlogs)
    | opening found shows =>
      rw [hearly rfl, ← hseen]
      exact .opening found.snoc (shows_append_logs shows hlogs)
    | probing underway stage => exact .probing (underway.cancel.logs hlogs) stage
    | closing underway stage last => exact .closing (underway.cancel.logs hlogs) stage last
    | done ending => cases hresult

/-! ## Every event leads on -/

/-- An event of discovery goes on with the window as discovery hears of it. When that closes the
    window, the results are reported. -/
theorem discover_cases (o : Options) (seen : Bool) {w w' : Discovery.Window} (d : Discovery.Event)
    (opened : w.isOpen = true)
    (next : (Discovery.Window.run w ((Event.discovery d).heard seen)).1 = w') :
    ∃ t, t.Shows [] [] ∧
      (w'.isOpen = true ∧ discover ⟨o, seen, .discovering w⟩ w d = (⟨o, seen, .discovering w'⟩, t) ∨
      w'.isOpen = false ∧ discover ⟨o, seen, .discovering w⟩ w d =
        (⟨o, seen, .discovered w'.registry⟩, t ++ [.report .searchResults w'.registry])) := by
  by_cases hdeaf : d = .cancelled ∧ seen = false
  · obtain ⟨rfl, rfl⟩ := hdeaf
    obtain rfl : w = w' := next
    exact ⟨[], ⟨rfl, rfl⟩, .inl ⟨opened, rfl⟩⟩
  -- In every other case the window takes one step.
  have hdiscover : discover ⟨o, seen, .discovering w⟩ w d =
      if w'.isOpen then
        (⟨o, seen, .discovering w'⟩, (w.step (if seen then .cancelled else d)).2)
      else
        (⟨o, seen, .discovered w'.registry⟩, (w.step (if seen then .cancelled else d)).2 ++
          w'.summary ++ [.report .searchResults w'.registry]) := by
    subst next
    cases seen <;> cases d <;> first | rfl | simp at hdeaf
  have hstep : (w.step (if seen then .cancelled else d)).2.Shows [] [] :=
    ⟨(Discovery.Window.step_quiet w _).1, (Discovery.Window.step_quiet w _).2⟩
  have hsummary : w'.summary.Shows [] [] := by
    unfold Discovery.Window.summary
    split <;> exact ⟨rfl, rfl⟩
  cases hopen : w'.isOpen with
  | true => exact ⟨_, hstep, .inl ⟨rfl, by rw [hdiscover, hopen, if_pos rfl]⟩⟩
  | false =>
    refine ⟨_, hstep.append hsummary, .inr ⟨rfl, ?_⟩⟩
    simp only [hdiscover, hopen, Bool.false_eq_true, if_false]

/-- How a run goes on after its pool was looked at: it goes on probing, or begins to close the
    pool. -/
inductive Woken (o : Options) (early : Bool) (q : Pool) : Monitor → Prop
  | probing (stage : q.stage = .waiting) : Woken o early q ⟨o, early, .probing q⟩
  | closing {heading : Heading} (last : heading = .cancelled ∨ heading = .finished)
      (stage : q.stage = .closing ∨ q.stage = .closed) :
    Woken o early q ⟨o, early, .closing heading q⟩

/-- When the run is woken, its pool is looked at, and closed if the run is cancelled or everyone has
    ended. -/
theorem wakeProbing_cases (o : Options) (early : Bool) (hstage : q.stage = .waiting)
    (first : Look) :
    ∃ events, (wakeProbing ⟨o, early, .probing q⟩ q first).2 = (q.run events).2 ∧
      Woken o early (q.run events).1 (wakeProbing ⟨o, early, .probing q⟩ q first).1 := by
  have hclose : q.run [.close] = (q.close, []) := rfl
  have hpoll : q.run [.poll] = q.poll := by rw [Pool.run_singleton, Pool.step]
  have hboth : q.run [.poll, .close] = (q.poll.1.close, q.poll.2) := by
    simp [Pool.run, Machine.run, Pool.step]
  -- A look at a pool that waits for its workers leaves it waiting, or ends the wait.
  have hpolled : q.poll.1.stage = .waiting ∨ q.poll.1.stage = .waited := by
    obtain ⟨h, hover⟩ | ⟨h, -, -⟩ | ⟨h, -, -⟩ | ⟨-, -, hclosing⟩ := Pool.poll_cases q
    · simp [hstage] at hover
    · rw [h]
      exact .inl hstage
    · rw [h]
      exact .inr rfl
    · simp [hstage] at hclosing
  -- First an interrupt that is looked for, then the end of the wait, then an interrupt that comes
  -- second.
  unfold wakeProbing
  split
  · refine ⟨[.close], ?_⟩
    rw [hclose]
    exact ⟨rfl, .closing (.inl rfl) (Pool.stage_close q)⟩
  dsimp only
  split
  · refine ⟨[.poll, .close], ?_⟩
    rw [hboth]
    exact ⟨rfl, .closing (.inr rfl) (Pool.stage_close _)⟩
  rename_i hwaited
  split
  · refine ⟨[.poll, .close], ?_⟩
    rw [hboth]
    exact ⟨rfl, .closing (.inl rfl) (Pool.stage_close _)⟩
  · refine ⟨[.poll], ?_⟩
    rw [hpoll]
    exact ⟨rfl, .probing (hpolled.resolve_right hwaited)⟩

/-- The pool of a run is as its list of workers says, and has reported losses of the devices that
    were found. -/
theorem Setting.Probes.sound (h : x.Probes es r q done) :
    q.Roster ∧ (∀ ip ∈ q.workerIps, ∃ w s, q.member? ip = some (w, s)) ∧
      ∀ a ∈ done.reports, ∃ ip ∈ r.ips, a.1 = .lossEvent ip := by
  obtain ⟨socket, seen, p, opening, events, -, hspawn, hrun⟩ := h
  have hroster := (Pool.roster_of_spawn hspawn).run events
  have hips := (Pool.run_workerIps p events).trans (Pool.workerIps_of_spawn hspawn)
  have hreports := Pool.run_reports p events
  have hmembers (d : Device) (hd : d ∈ r.devices) :=
    Pool.exists_member?_run (Pool.member?_of_spawn hspawn hd) events
  obtain ⟨rfl, -⟩ := Pool.eq_of_spawn hspawn
  rw [hrun] at hroster hips hreports
  simp only [hrun] at hmembers
  -- Each worker was made for a device, whose counters are still there.
  refine ⟨hroster, fun ip hip => ?_, hreports⟩
  obtain ⟨d, hd, rfl⟩ := List.mem_map.mp (hips ▸ hip)
  obtain ⟨w, s, hmember, -⟩ := hmembers d (r.toList_perm.mem_iff.mp hd)
  exact ⟨w, s, hmember⟩

/-- A pool that is being closed is the end of the run once it is closed. -/
theorem Underway.settle (h : Underway x es (t ++ t') r q done) {heading : Heading} {stage : Stage}
    (hstage : q.stage = .closing ∨ q.stage = .closed)
    (last : heading = .cancelled ∨ heading = .finished) :
    Reached x es (t ++ (settle ⟨x.options, early, stage⟩ heading q t').2)
      (settle ⟨x.options, early, stage⟩ heading q t').1 := by
  unfold Monitor.settle
  split
  · rename_i hclosed
    obtain ⟨hroster, -, hlosses⟩ := h.probes.sound
    -- The counters in the last report are final, since no worker of a closed pool runs.
    have hlogs : Trace.Shows
        (if 0 < q.aborted then [.log (.workersAborted q.aborted)] else []) [] [] := by
      split <;> exact ⟨rfl, rfl⟩
    refine .done (.probed (h.logs hlogs) hlosses last (by simp) (hroster.closed hclosed).2 ?_)
    exact fun events => (Pool.run_of_closed hroster hclosed events).2
  · exact .closing h hstage last

/-- During discovery a run goes on collecting, or reports what it found and is through with it. -/
theorem Reached.discover {w : Discovery.Window} (window : x.window es = w)
    (opened : w.isOpen = true) (shows : t.Shows [] x.asked) (d : Discovery.Event) :
    let m : Monitor := ⟨x.options, x.interrupted es, .discovering w⟩
    Reached x (es ++ [.discovery d]) (t ++ (m.discover w d).2) (m.discover w d).1 := by
  intro m
  have hseen : x.interrupted (es ++ [.discovery d]) = x.interrupted es :=
    Setting.interrupted_snoc_of_quiet rfl
  have hnext : (Discovery.Window.run w ((Event.discovery d).heard (x.interrupted es))).1 =
      x.window (es ++ [.discovery d]) := by
    rw [Setting.window_snoc, window]
  obtain ⟨logs, hlogs, hdiscover⟩ := discover_cases x.options (x.interrupted es) d opened hnext
  have hquiet := shows_append_logs shows hlogs
  -- The window is still open, or its end makes the first report.
  rcases hdiscover with ⟨hopen, hdiscover⟩ | ⟨hclosed, hdiscover⟩
  · rw [hdiscover, ← hseen]
    exact .discovering rfl hopen hquiet
  · rw [hdiscover, ← hseen, ← List.append_assoc]
    exact .discovered hclosed rfl (shows_append_report hquiet _ _)

/-- After discovery a run ends with a report of its cancellation, ends without devices, or comes to
    open its sockets. -/
theorem Reached.proceed (closed : (x.window es).isOpen = false)
    (found : (x.window es).registry = r) (shows : t.Shows [(.searchResults, r)] x.asked)
    (hstage : (x.after es).stage = .discovered r) :
    let m : Monitor := ⟨x.options, x.interrupted es, .discovered r⟩
    Reached x (es ++ [.proceed]) (t ++ (m.proceed r).2) (m.proceed r).1 := by
  intro m
  have hwindow := Setting.window_snoc_of_closed (e := .proceed) closed
  have hdecides : x.Decides (es ++ [.proceed]) r (x.interrupted es) :=
    ⟨hwindow ▸ closed, hwindow ▸ found, Setting.meets_last hstage⟩
  unfold Monitor.proceed
  -- Whether the run was interrupted is asked first, and then whether there is a device at all.
  cases hseen : x.interrupted es with
  | true =>
    rw [hseen] at hdecides
    simp only [m, hseen, if_true]
    exact .done (.cancelled hdecides (shows_append_report shows _ _))
  | false =>
    have hseen' : x.interrupted (es ++ [.proceed]) = false :=
      (Setting.interrupted_snoc_of_quiet rfl).trans hseen
    rw [hseen] at hdecides
    cases hempty : r.isEmpty with
    | true =>
      simp only [m, hseen, Bool.false_eq_true, if_false, if_true, List.append_nil]
      exact .done (.nobody hdecides hempty shows)
    | false =>
      simp only [m, hseen, Bool.false_eq_true, if_false, List.append_nil]
      rw [← hseen']
      exact .opening ⟨hdecides, hempty⟩ shows

/-- Opening the sockets begins the probing, or ends the run with the first socket that failed. -/
theorem Reached.openSockets (found : x.Finds es r) (shows : t.Shows [(.searchResults, r)] x.asked)
    (hstage : (x.after es).stage = .opening r) (socket : Nat → Except IoError Unit) :
    let m : Monitor := ⟨x.options, x.interrupted es, .opening r⟩
    Reached x (es ++ [.sockets socket]) (t ++ (m.openSockets r socket).2)
      (m.openSockets r socket).1 := by
  intro m
  have hmeets := Setting.meets_last (e := .sockets socket) hstage
  -- A new pool has done nothing yet, and waits for its workers.
  unfold Monitor.openSockets
  obtain ⟨p, opening, hspawn⟩ | ⟨error, hspawn, hfailed⟩ :=
    Pool.spawn_cases x.options.probe r (x.interrupted es) socket
  · obtain ⟨hp, hopening⟩ := Pool.eq_of_spawn hspawn
    have hlogs : Trace.Shows (opening ++
        [.log (.measuring (r.list .v2).length (r.list .v3).length)]) [] [] := by
      rw [hopening]
      exact ⟨rfl, rfl⟩
    have hwaiting : p.stage = .waiting := by rw [hp]
    simp only [m, hspawn]
    refine .probing ⟨found.snoc, ⟨socket, _, p, opening, [], hmeets, hspawn, rfl⟩, ?_⟩ hwaiting
    simpa [Trace.reports, Trace.sendings] using shows_append_logs shows hlogs
  · simp only [m, hspawn, List.append_nil]
    exact .done (.notBound found.snoc hmeets hfailed shows)

/-- A run that is woken goes on probing, or begins to close its pool with the report that it will
    make. -/
theorem Reached.wakeProbing (underway : Underway x es t r q done) (stage : q.stage = .waiting)
    (first : Look) :
    let m : Monitor := ⟨x.options, early, .probing q⟩
    Reached x (es ++ [.wake first]) (t ++ (m.wakeProbing q first).2) (m.wakeProbing q first).1 := by
  intro m
  obtain ⟨events, htrace, hnext⟩ := wakeProbing_cases x.options early stage first
  have hlooked := underway.snoc (.wake first) events
  rw [htrace]
  generalize (m.wakeProbing q first).1 = m' at hnext
  -- The pool goes on waiting, or this poll was its last.
  cases hnext with
  | probing hwaiting => exact .probing hlooked hwaiting
  | closing hheading hclosing => exact .closing hlooked hclosing hheading

/-- Every event leads from one of these stages to another. -/
theorem Reached.step (h : Reached x es t m) (hm : m = x.after es) (e : Event) :
    Reached x (es ++ [e]) (t ++ (m.step e).2) (m.step e).1 := by
  by_cases hint : e = .interrupt
  · subst hint
    exact h.interrupt
  -- Of the other events each stage takes its own, and all the rest leave it as it is.
  have hquiet : e.isInterrupt = false := by cases e <;> first | rfl | exact absurd rfl hint
  have hstay := h.stay hquiet
  cases h with
  | discovering window opened shows =>
    cases e with
    | discovery d => exact .discover window opened shows d
    | interrupt => cases hquiet
    | _ => exact hstay (fun _ _ => rfl) rfl
  | discovered closed found shows =>
    cases e with
    | proceed => exact .proceed closed found shows (by rw [← hm])
    | interrupt => cases hquiet
    | _ => exact hstay (by simp) rfl
  | opening found shows =>
    cases e with
    | sockets socket => exact .openSockets found shows (by rw [← hm]) socket
    | interrupt => cases hquiet
    | _ => exact hstay (by simp) rfl
  | @probing early r q done underway stage =>
    cases e with
    | turn ip moment =>
      have hturn := underway.snoc (.turn ip moment) [.turn ip moment]
      rw [Pool.run_singleton] at hturn
      exact .probing hturn ((Pool.stage_turn q ip moment).trans stage)
    | wake first => exact .wakeProbing underway stage first
    | interrupt => cases hquiet
    | _ => exact hstay (by simp) rfl
  | @closing early heading r q done underway stage last =>
    have hclosing (event : Pool.Event) := Pool.closing_step stage event
    have hnext (event : Pool.Event) := underway.snoc e [event]
    simp only [Pool.run_singleton] at hnext
    cases e with
    | turn ip moment => exact .closing (hnext (.turn ip moment)) (hclosing (.turn ip moment)) last
    | wake first => exact (hnext .poll).settle (hclosing .poll) last
    | deadline => exact (hnext .deadline).settle (hclosing .deadline) last
    | interrupt => cases hquiet
    | _ => exact hstay (by simp) rfl
  | done ending => exact hstay (by simp) (step_done ..)

end Steps

/-! ## Whole runs -/

/-- A run begins with discovery, or ends at once where its socket or its request fails. -/
theorem reached_begin (x : Setting) : Reached x [] (x.trace []) (x.after []) := by
  have hseen : x.interrupted [] = x.cancelled := by simp [Setting.interrupted]
  have htrace : x.trace [] = x.begin.2 := List.append_nil _
  have hafter : x.after [] = x.begin.1 := rfl
  rw [htrace, hafter]
  -- What the socket and the request came to decides how far the beginning leads.
  cases hsocket : x.socket with
  | error cause =>
    have hbegin : x.begin =
        (⟨x.options, x.cancelled, .done (.error (.discovery (.socket cause)))⟩, []) := by
      simp [Setting.begin, start, hsocket]
    rw [hbegin]
    exact .done (.noSocket hsocket ⟨rfl, rfl⟩)
  | ok _ =>
    cases hsent : x.sent with
    | error cause =>
      have hbegin : x.begin =
          (⟨x.options, x.cancelled, .done (.error (.discovery
            (.broadcast x.options.discovery.target cause)))⟩,
            Discovery.request x.options.discovery x.sent ++ [.report .searchResults {}]) := by
        simp [Setting.begin, start, hsocket, hsent]
      rw [hbegin]
      exact .done (.notSent hsocket hsent (shows_append_report ⟨rfl, rfl⟩ _ _))
    | ok _ =>
      have hbegin : x.begin = (⟨x.options, x.cancelled, .discovering { registry := {} }⟩,
          Discovery.request x.options.discovery x.sent) := by
        simp [Setting.begin, start, hsocket, hsent]
      rw [hbegin, ← hseen]
      exact .discovering rfl rfl ⟨rfl, rfl⟩

/-- Where a run is, whatever has happened. -/
theorem reached (x : Setting) (es : List Event) : Reached x es (x.trace es) (x.after es) := by
  induction es using List.reverseRecOn with
  | nil => exact reached_begin x
  | append_singleton es e ih =>
    rw [Setting.after_snoc, Setting.trace_snoc]
    exact ih.step rfl e

/-! ## Every run can end -/

/-- Whether a run can end without being interrupted. -/
def CanEnd (m : Monitor) : Prop :=
  ∃ more, .interrupt ∉ more ∧ (m.run more).1.result?.isSome = true

/-- A run that can end after some events could end before them. -/
theorem CanEnd.of_run {m : Monitor} (es : List Event) (quiet : .interrupt ∉ es)
    (h : CanEnd (m.run es).1) : CanEnd m := by
  obtain ⟨more, hquiet, hresult⟩ := h
  refine ⟨es ++ more, by simp [quiet, hquiet], ?_⟩
  rw [run, Machine.run_append]
  exact hresult

/-- A run that is closing its pool can end: the deadline closes the pool. -/
theorem canEnd_closing (o : Options) (early : Bool) (heading : Heading) {q : Pool}
    (stage : q.stage = .closing ∨ q.stage = .closed) : CanEnd ⟨o, early, .closing heading q⟩ := by
  -- The deadline closes the pool, however many workers still run.
  refine ⟨[.deadline], by simp, ?_⟩
  have hclosed := Pool.stage_deadline stage
  simp [run, Machine.run, step, settle, hclosed, result?]

/-- Turns of the workers leave a run probing, with the pool that they lead to. -/
theorem run_turns (o : Options) (early : Bool) (q : Pool) (ips : List IpAddr) :
    (run ⟨o, early, .probing q⟩ (ips.map fun ip => .turn ip {})).1 =
      ⟨o, early, .probing (q.run (Pool.turns ips)).1⟩ := by
  induction ips generalizing q with
  | nil => rfl
  | cons ip ips ih => exact ih _

/-- A run that is probing can end: its workers have only so many turns, and then the next look ends
    the wait. -/
theorem canEnd_probing (o : Options) (early : Bool) {q : Pool} (roster : q.Roster)
    (stage : q.stage = .waiting) (members : ∀ ip ∈ q.workerIps, ∃ w s, q.member? ip = some (w, s)) :
    CanEnd ⟨o, early, .probing q⟩ := by
  obtain ⟨ips, hwaited⟩ := Pool.exists_waited_of_turns roster stage members
  -- First all workers take their turns, and then the run is woken.
  refine .of_run (ips.map fun ip => .turn ip {}) (by simp) ?_
  rw [run_turns]
  refine .of_run [.wake .workers] (by simp) ?_
  have hwake : (run ⟨o, early, .probing (q.run (Pool.turns ips)).1⟩ [.wake .workers]).1 =
      ⟨o, early, .closing .finished (q.run (Pool.turns ips)).1.poll.1.close⟩ := by
    simp [run, Machine.run, step, wakeProbing, hwaited]
  rw [hwake]
  exact canEnd_closing o early .finished (Pool.stage_close _)

/-- A run that has a pool or is over can end. -/
theorem Reached.canEnd {x : Setting} {es : List Event} {t : Trace} {m : Monitor}
    (h : Reached x es t m) (late : m.pool? ≠ none ∨ m.result? ≠ none) : CanEnd m := by
  -- The stages before the pool are ruled out by `late`.
  cases h with
  | discovering window opened shows => simp [pool?, result?] at late
  | discovered closed found shows => simp [pool?, result?] at late
  | opening found shows => simp [pool?, result?] at late
  | probing underway stage =>
    obtain ⟨hroster, hmembers, -⟩ := underway.probes.sound
    exact canEnd_probing _ _ hroster stage hmembers
  | closing underway stage last => exact canEnd_closing _ _ _ stage
  | done ending => exact ⟨[], by simp, rfl⟩

section Ends

variable {x : Setting} {es : List Event} {seen : Bool} {r : Registry}

/-- A run can end if it can after one more event. -/
theorem canEnd_of_snoc {e : Event} (quiet : e ≠ .interrupt) (h : CanEnd (x.after (es ++ [e]))) :
    CanEnd (x.after es) := by
  refine .of_run [e] (by simp [Ne.symm quiet]) ?_
  rwa [Setting.after_snoc] at h

/-- A run that opens its sockets can end, whether they open or not. -/
theorem canEnd_opening (h : x.after es = ⟨x.options, seen, .opening r⟩) : CanEnd (x.after es) := by
  refine canEnd_of_snoc (e := .sockets fun _ => .ok ()) nofun ((reached x _).canEnd ?_)
  rw [Setting.after_snoc, h]
  obtain ⟨p, opening, hspawn⟩ | ⟨error, hspawn, -⟩ :=
    Pool.spawn_cases x.options.probe r seen fun _ => .ok ()
  · simp [step, openSockets, hspawn, pool?]
  · simp [step, openSockets, hspawn, result?]

/-- A run that is through with discovery can end, whatever it found. -/
theorem canEnd_discovered (h : x.after es = ⟨x.options, seen, .discovered r⟩) :
    CanEnd (x.after es) := by
  refine canEnd_of_snoc (e := .proceed) nofun ?_
  have hnext : x.after (es ++ [.proceed]) = (proceed ⟨x.options, seen, .discovered r⟩ r).1 := by
    rw [Setting.after_snoc, h]
    rfl
  -- Two of three ways end here, and the third opens the sockets.
  unfold proceed at hnext
  cases seen with
  | true => exact (reached x _).canEnd (.inr (by simp [hnext, result?]))
  | false =>
    cases hempty : r.isEmpty with
    | true => exact (reached x _).canEnd (.inr (by simp [hnext, hempty, result?]))
    | false =>
      simp only [hempty, Bool.false_eq_true, if_false] at hnext
      exact canEnd_opening hnext

/-- When time is up, a window is closed. -/
theorem canEnd_discovering {w : Discovery.Window}
    (h : x.after es = ⟨x.options, seen, .discovering w⟩) : CanEnd (x.after es) := by
  -- If the run was cancelled, the window hears so instead, which closes it as well.
  refine canEnd_of_snoc (e := .discovery .timeUp) nofun ?_
  have hnext : x.after (es ++ [.discovery .timeUp]) =
      (discover ⟨x.options, seen, .discovering w⟩ w .timeUp).1 := by
    rw [Setting.after_snoc, h]
    rfl
  have hclosed (d : Discovery.Event) (closes : d.closes = true) : (w.step d).1.isOpen = false := by
    cases hopen : w.isOpen with
    | true => rw [Discovery.Window.step_of_closes hopen closes]
    | false => simp [Discovery.Window.step, hopen]
  cases seen with
  | true =>
    simp only [discover, if_true, hclosed .cancelled rfl, Bool.false_eq_true, if_false] at hnext
    exact canEnd_discovered hnext
  | false =>
    simp only [discover, hclosed .timeUp rfl, Bool.false_eq_true, if_false] at hnext
    exact canEnd_discovered hnext

/-- However far a run has come, it can end. -/
theorem canEnd (x : Setting) (es : List Event) : CanEnd (x.after es) := by
  -- A run that has no pool yet is led to the next stage, until it has one or is over.
  have hreached := reached x es
  generalize hm : x.after es = m at hreached
  cases hreached with
  | discovering window opened shows => exact hm ▸ canEnd_discovering hm
  | discovered closed found shows => exact hm ▸ canEnd_discovered hm
  | opening found shows => exact hm ▸ canEnd_opening hm
  | probing underway stage => exact (Reached.probing underway stage).canEnd (.inl (by simp [pool?]))
  | closing underway stage last =>
    exact (Reached.closing underway stage last).canEnd (.inl (by simp [pool?]))
  | done ending => exact (Reached.done ending).canEnd (.inr (by simp [result?]))

end Ends

/-! ## Main result -/

/-- A run that is over stays over, and shows nothing more. -/
theorem run_done (o : Options) (early : Bool) (result : Except EngineError Unit) (es : List Event) :
    run ⟨o, early, .done result⟩ es = (⟨o, early, .done result⟩, []) := by
  induction es with
  | nil => rfl
  | cons e es ih =>
    simp only [run, Machine.run, step_done] at ih ⊢
    simp [ih]

/-- What every run of the monitor has reported and sent when it is over, its result and the exit
    code: without a socket for discovery nothing is reported; without a request only the empty
    search results are; a run that is cancelled by the end of discovery reports what the window
    collected and that it was cancelled, and one that found nobody the results alone; if a socket
    for a probe is missing, the results are all, and up to here no probe was sent. Otherwise the
    results are followed by losses of the devices among them and, once every worker has ended or
    was aborted and no counter changes any more, by one last report. Nothing follows the end of a
    run, and every run can come to its end without an interrupt. -/
theorem monitor_reports (x : Setting) (es : List Event) :
    (∀ result, (x.after es).result? = some result →
      Ending x es (x.trace es) result ∧
      (ExitCode.ofResult (Command.result (x.after es))).toNat = (if result.isOk then 0 else 2) ∧
      ∀ more, x.after (es ++ more) = x.after es ∧ x.trace (es ++ more) = x.trace es) ∧
    ∃ more, .interrupt ∉ more ∧ (x.after (es ++ more)).result?.isSome = true := by
  have happend (more : List Event) : x.after (es ++ more) = ((x.after es).run more).1 ∧
      x.trace (es ++ more) = x.trace es ++ ((x.after es).run more).2 := by
    simp [Setting.after, Setting.trace, run, Machine.run_append]
  refine ⟨fun result hresult => ?_, ?_⟩
  · have hreached := reached x es
    generalize x.after es = m at hreached hresult happend ⊢
    -- Only the last stage has a result.
    cases hreached with
    | done ending =>
      cases hresult
      refine ⟨ending, by cases result <;> rfl, fun more => ?_⟩
      obtain ⟨hafter, htrace⟩ := happend more
      rw [run_done] at hafter htrace
      exact ⟨hafter, by rw [htrace, List.append_nil]⟩
    | _ => cases hresult
  · obtain ⟨more, hquiet, hsome⟩ := canEnd x es
    exact ⟨more, hquiet, by rwa [(happend more).1]⟩

/-- A run that finds one device, spends its budget of a single probe, and finishes. -/
theorem monitor_reports_of_one_probe :
    let x : Setting := ⟨{ probe := { maxProbes := 1 } }, false, .ok (), .ok ()⟩
    let ip : IpAddr := .v4 192 168 137 102
    let es : List Event := [.discovery (.datagram ip [0x7b, 0x7d] .epoch), .discovery .timeUp,
      .proceed, .sockets fun _ => .ok (), .turn ip {}, .wake .cancellation, .wake .workers]
    (x.after es).result? = some (.ok ()) ∧ Ending x es (x.trace es) (.ok ()) ∧
      (ExitCode.ofResult (Command.result (x.after es))).toNat = 0 := by
  intro x ip es
  have hfound : x.after (es.take 1) = ⟨x.options, false,
      .discovering { registry := ⟨[⟨ip, .v2, .epoch, {}⟩], by decide⟩, added := 1 }⟩ := by
    have hstep : x.after (es.take 1) = (discover ⟨x.options, false, .discovering { registry := {} }⟩
      { registry := {} } (.datagram ip [0x7b, 0x7d] .epoch)).1 := rfl
    rw [hstep]
    simp only [discover, Discovery.Window.step, Bool.false_eq_true, if_false, if_true,
      Discovery.Window.receive_braces]
  -- From here on the run can be evaluated.
  have hresult : (x.after es).result? = some (.ok ()) := by
    have hrest : x.after es = ((x.after (es.take 1)).run (es.drop 1)).1 := rfl
    rw [hrest, hfound]
    rfl
  obtain ⟨hending, hcode, -⟩ := (monitor_reports x es).1 _ hresult
  exact ⟨hresult, hending, hcode⟩

end Monitor
end LossProbe
