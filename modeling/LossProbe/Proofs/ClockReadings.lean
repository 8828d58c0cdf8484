import LossProbe.Monitor
import LossProbe.Proofs.DiscoveryWindow

/-!
# Clock readings

The clock tells when a device was found, and that is all it tells a run. Without these dates
(`undated`) one and the same step leads on, whatever the clock says. `Monitor.step_undated` is put
together from one lemma for each part of a run.
-/

namespace LossProbe

/-- A device without the time at which it was found. -/
def Device.undated (d : Device) : Device := { d with discoveredAt := .epoch }

@[simp] theorem Device.ip_undated (d : Device) : d.undated.ip = d.ip := rfl

@[simp] theorem Device.version_undated (d : Device) : d.undated.version = d.version := rfl

@[simp] theorem Device.stats_undated (d : Device) : d.undated.stats = d.stats := rfl

/-! ## Registries -/

namespace Registry

/-- The same devices without their dates. -/
def undated (r : Registry) : Registry :=
  ⟨r.devices.map Device.undated, by simpa [Function.comp_def] using r.distinct⟩

variable (r : Registry)

/-- The devices of one version stay those of that version. -/
@[simp] theorem list_undated (v : Version) :
    r.undated.list v = (r.list v).map Device.undated := List.filter_map

/-- The devices stay in the order in which reports list them. -/
@[simp] theorem toList_undated : r.undated.toList = r.toList.map Device.undated := by
  simp [toList]

/-- What is found under an address is the same device without its date. -/
@[simp] theorem get?_undated (ip : IpAddr) :
    r.undated.get? ip = (r.get? ip).map Device.undated := List.find?_map

/-- Which addresses are known does not depend on dates. -/
@[simp] theorem contains_undated (ip : IpAddr) : r.undated.contains ip = r.contains ip :=
  List.any_map

@[simp] theorem size_undated : r.undated.size = r.size := by simp [size, undated]

@[simp] theorem isEmpty_undated : r.undated.isEmpty = r.isEmpty := by simp [isEmpty, undated]

/-- A device is entered, or refused, for its address alone. -/
theorem insert?_undated (d : Device) :
    r.undated.insert? d.undated = (r.insert? d).map undated := by
  simp only [insert?, contains_undated, Device.ip_undated]
  -- Whether a device is refused is decided by its address, which has no date.
  split
  · rfl
  · exact congrArg some (ext_devices (by simp [undated]))

/-- Updating counters and taking the dates away can change places. -/
theorem updateStats_undated (ip : IpAddr) (f : Stats → Stats) :
    r.undated.updateStats ip f = (r.updateStats ip f).undated := by
  refine ext_devices ?_
  simp only [updateStats, undated, List.map_map]
  refine List.map_congr_left fun d _ => ?_
  by_cases h : d.ip = ip <;> simp [h, Device.undated]

end Registry

/-! ## Traces and events -/

namespace Trace

/-- An entry whose report shows no dates. -/
def Entry.undated : Entry → Entry
  | .report h r => .report h r.undated
  | e => e

/-- The same trace without dates. -/
def undated (t : Trace) : Trace := t.map Entry.undated

variable (t u : Trace)

/-- Dates are taken from two traces one after the other. -/
@[simp] theorem undated_append : Trace.undated (t ++ u) = t.undated ++ u.undated :=
  List.map_append

/-- A probe or a request carries no date, so the same is sent. -/
@[simp] theorem sendings_undated : t.undated.sendings = t.sendings := by
  rw [sendings, sendings, undated, List.filterMap_map]
  exact List.filterMap_congr fun e _ => by cases e <;> rfl

/-- No log entry tells a date. -/
@[simp] theorem logs_undated : t.undated.logs = t.logs := by
  rw [logs, logs, undated, List.filterMap_map]
  exact List.filterMap_congr fun e _ => by cases e <;> rfl

/-- The same reports are made, under the same headings. -/
@[simp] theorem headings_undated : t.undated.reports.map Prod.fst = t.reports.map Prod.fst := by
  rw [reports, reports, undated, List.filterMap_map, List.map_filterMap, List.map_filterMap]
  exact List.filterMap_congr fun e _ => by cases e <;> rfl

theorem undated_cons (e : Entry) : Trace.undated (e :: t) = e.undated :: t.undated := rfl

end Trace

/-- The same event at another time. -/
def Discovery.Event.dated (now : Timestamp) : Discovery.Event → Discovery.Event
  | .datagram source octets _ => .datagram source octets now
  | e => e

/-- The same event at another time. -/
def Monitor.Event.dated (now : Timestamp) : Monitor.Event → Monitor.Event
  | .discovery e => .discovery (e.dated now)
  | e => e

/-! ## Discovery -/

namespace Discovery

/-- A window whose devices have no dates. -/
def Window.undated (w : Window) : Window := { w with registry := w.registry.undated }

variable (w : Window)

/-- The log at the end of a window only counts, so dates do not matter to it. -/
theorem Window.summary_undated : w.undated.summary = Trace.undated w.summary := by
  by_cases h : 1 < w.failures <;>
    simp [Window.summary, Window.undated, h, Trace.undated, Trace.Entry.undated]

/-- What a datagram leads to but for its date: which sender is entered, and what is logged. -/
theorem Window.receive_undated (source : IpAddr) (octets : List UInt8) (time : Timestamp) :
    w.undated.receive source octets .epoch =
      (w.receive source octets time).map Window.undated Trace.undated := by
  unfold Window.receive
  dsimp only
  cases Reply.parse (octets.take datagramLimit) with
  | error e => rfl
  | ok version =>
    -- A valid reply enters its sender unless that is known, and the date is only written down.
    have hinsert : w.undated.registry.insert? { ip := source, version, discoveredAt := .epoch } =
        (w.registry.insert? { ip := source, version, discoveredAt := time }).map .undated :=
      w.registry.insert?_undated { ip := source, version, discoveredAt := time }
    dsimp only
    rw [hinsert]
    cases w.registry.insert? { ip := source, version, discoveredAt := time } <;> rfl

/-- An event takes a window to the same one, but for dates, at whatever time it comes. -/
theorem Window.step_undated (e : Event) :
    w.undated.step (e.dated .epoch) = (w.step e).map Window.undated Trace.undated := by
  unfold Window.step
  cases hopen : w.isOpen with
  | false => simp [Window.undated, hopen, Trace.undated]
  | true =>
    have hopen' : w.undated.isOpen = true := hopen
    rw [if_pos hopen', if_pos rfl]
    cases e with
    -- Of all events only a datagram carries a date.
    | datagram source octets time => exact w.receive_undated source octets time
    | receiveFailed cause =>
      by_cases h : w.failures = 0 <;>
        simp [Event.dated, Window.undated, hopen, h, Trace.undated, Trace.Entry.undated]
    | cancelled => rfl
    | timeUp => rfl

end Discovery

/-! ## Workers together -/

namespace Pool

/-- A pool whose devices have no dates. -/
def undated (p : Pool) : Pool := { p with registry := p.registry.undated }

variable (p : Pool)

/-- For which device no socket can be opened has nothing to do with dates. -/
theorem bindError?_undated (r : Registry) (socket : Nat → Except IoError Unit) :
    bindError? r.undated socket = bindError? r socket := by
  rw [bindError?, Registry.toList_undated, List.zipIdx_map, List.findSome?_map]
  rfl

/-- The same workers begin for devices without dates, or none do. -/
theorem spawn_undated (c : ProbeConfig) (r : Registry) (cancelled : Bool)
    (socket : Nat → Except IoError Unit) :
    spawn c r.undated cancelled socket =
      (spawn c r cancelled socket).map (Prod.map undated Trace.undated) := by
  unfold spawn
  rw [bindError?_undated]
  -- The sockets decide: either some device has none, or one worker begins for each device.
  cases bindError? r socket with
  | some e => rfl
  | none => simp [Except.map, undated, Trace.undated, Trace.Entry.undated, Function.comp_def,
      Probe.Target.ofDevice]

/-- The dates in what a worker shows are those of the registry that its reports show. -/
theorem entry_undated (ip : IpAddr) (r : Registry) (notices : List Probe.Notice) :
    Trace.undated (notices.map (entry ip r)) = notices.map (entry ip r.undated) := by
  simp only [Trace.undated, List.map_map]
  refine List.map_congr_left fun n _ => ?_
  cases n <;> rfl

/-- Which worker runs, and with which counters, has nothing to do with dates. -/
theorem running?_undated (ip : IpAddr) : p.undated.running? ip = p.running? ip := by
  unfold running?
  simp only [undated, Registry.get?_undated]
  -- Neither the worker nor its counters are looked up by a date.
  cases p.workers.find? fun w => w.target.ip = ip with
  | none => rfl
  | some w => cases p.registry.get? ip <;> rfl

/-- A turn of a worker leads to the same without dates. -/
theorem turn_undated (ip : IpAddr) (m : Probe.Moment) :
    p.undated.turn ip m = (p.turn ip m).map undated Trace.undated := by
  unfold turn
  rw [running?_undated]
  -- The step of the worker reads its phase and its counters, and those have no dates.
  cases p.running? ip with
  | none => rfl
  | some found =>
    simp only [Prod.map, undated, Registry.updateStats_undated, entry_undated]

/-- What is logged of workers that are collected tells no date. -/
theorem joinEntry_undated (joined : List (IpAddr × Probe.End)) :
    Trace.undated (joined.map p.joinEntry) = joined.map p.joinEntry := by
  simp only [Trace.undated, List.map_map]
  refine List.map_congr_left fun x _ => ?_
  obtain ⟨ip, reason | fault⟩ := x <;> rfl

/-- A look of the owner at its workers leads to the same without dates. -/
theorem poll_undated : p.undated.poll = p.poll.map undated Trace.undated := by
  have hcollect : p.undated.collect = p.collect.map undated Trace.undated := by
    simp only [collect, Prod.map, joinEntry_undated]
    rfl
  -- The owner looks at its stage and at how many workers are left.
  have hempty : p.collect.1.undated.isEmpty = p.collect.1.isEmpty := rfl
  unfold poll
  have hstage : p.undated.stage = p.stage := rfl
  rw [hstage, hcollect]
  cases p.stage with
  | waiting =>
    dsimp only [Prod.map]
    rw [hempty]
    split <;> rfl
  | closing =>
    dsimp only [Prod.map]
    rw [hempty]
    split
    · simp only [Trace.undated_append]
      rfl
    · rfl
  | waited => rfl
  | closed => rfl

/-- Closing a pool leads to the same without dates. -/
theorem close_undated : p.undated.close = p.close.undated := by
  have hstage : p.undated.stage = p.stage := rfl
  unfold close
  rw [hstage]
  cases p.stage <;> rfl

/-- An aborted worker owes the same without dates. -/
theorem owed_undated (w : Probe.Worker) : p.undated.owed w = Trace.undated (p.owed w) := by
  unfold owed
  -- Only a worker that has counted a loss owes anything.
  cases w.phase with
  | lost =>
    simp only [undated, Registry.get?_undated]
    cases p.registry.get? w.target.ip with
    | none => rfl
    | some d => exact (entry_undated _ _ _).symm
  | _ => rfl

/-- Giving up the workers at the deadline leads to the same without dates. -/
theorem deadline_undated : p.undated.deadline = p.deadline.map undated Trace.undated := by
  have hstage : p.undated.stage = p.stage := rfl
  unfold deadline
  rw [hstage]
  cases p.stage with
  | closing =>
    -- What the workers owe is shown one after the other.
    have howed : Trace.undated (p.workers.flatMap p.owed) = p.workers.flatMap p.undated.owed := by
      rw [Trace.undated, List.map_flatMap]
      exact congrArg p.workers.flatMap (funext fun w => (p.owed_undated w).symm)
    simp only [Prod.map, List.cons_append, Trace.undated_cons, Trace.undated_append, howed]
    rfl
  | _ => rfl

end Pool

/-! ## Monitoring -/

namespace Monitor

/-- A stage whose devices have no dates. -/
def Stage.undated : Stage → Stage
  | discovering w => discovering w.undated
  | discovered r => discovered r.undated
  | opening r => opening r.undated
  | probing p => probing p.undated
  | closing h p => closing h p.undated
  | done result => done result

/-- A run whose devices have no dates. -/
def undated (m : Monitor) : Monitor := { m with stage := m.stage.undated }

variable (m : Monitor)

/-- What is made of a step of the window. -/
def follow (next : Discovery.Window × Trace) : Monitor × Trace :=
  if next.1.isOpen then ({ m with stage := .discovering next.1 }, next.2)
  else
    ({ m with stage := .discovered next.1.registry },
      next.2 ++ next.1.summary ++ [.report .searchResults next.1.registry])

/-- What a step of the window leads to carries over to the window without dates. -/
theorem follow_undated (next : Discovery.Window × Trace) :
    m.undated.follow (next.map Discovery.Window.undated Trace.undated) =
      (m.follow next).map undated Trace.undated := by
  obtain ⟨w, t⟩ := next
  have hopen : w.undated.isOpen = w.isOpen := rfl
  simp only [follow, Prod.map, hopen]
  split
  · rfl
  · simp only [Discovery.Window.summary_undated, Trace.undated_append]
    rfl

/-- During discovery an event leads on in the same way at whatever time it comes. -/
theorem discover_undated (w : Discovery.Window) (e : Discovery.Event) :
    m.undated.discover w.undated (e.dated .epoch) =
      (m.discover w e).map undated Trace.undated := by
  obtain ⟨o, early, stage⟩ := m
  -- Whatever the window is given, it goes on as the window without dates does.
  have hnext (e : Discovery.Event) :
      (undated ⟨o, early, stage⟩).follow (w.undated.step (e.dated .epoch)) =
        (follow ⟨o, early, stage⟩ (w.step e)).map undated Trace.undated := by
    rw [Discovery.Window.step_undated, follow_undated]
  cases early with
  -- In a run that is cancelled every event reaches the window as its cancellation.
  | true => cases e <;> exact hnext .cancelled
  | false =>
    cases e with
    | datagram source octets time => exact hnext (.datagram source octets time)
    | receiveFailed cause => exact hnext (.receiveFailed cause)
    | cancelled => rfl
    | timeUp => exact hnext .timeUp

/-- How a run goes on after discovery depends on whether there are devices, and not on their
    dates. -/
theorem proceed_undated (r : Registry) :
    m.undated.proceed r.undated = (m.proceed r).map undated Trace.undated := by
  have hearly : m.undated.cancelledEarly = m.cancelledEarly := rfl
  unfold proceed
  rw [hearly, Registry.isEmpty_undated]
  split
  · rfl
  · split <;> rfl

/-- Sockets are opened, and workers begin, in the same way without dates. -/
theorem openSockets_undated (r : Registry) (socket : Nat → Except IoError Unit) :
    m.undated.openSockets r.undated socket =
      (m.openSockets r socket).map undated Trace.undated := by
  have hspawn : Pool.spawn m.undated.options.probe r.undated m.undated.cancelledEarly socket =
      (Pool.spawn m.options.probe r m.cancelledEarly socket).map
        (Prod.map Pool.undated Trace.undated) := Pool.spawn_undated ..
  unfold openSockets
  rw [hspawn]
  cases Pool.spawn m.options.probe r m.cancelledEarly socket with
  | error e => rfl
  | ok started =>
    simp only [Except.map, Prod.map, Registry.list_undated, List.length_map, Trace.undated_append]
    rfl

/-- The last report is made at the same point of a run without dates. -/
theorem settle_undated (h : Heading) (p : Pool) (t : Trace) :
    m.undated.settle h p.undated t.undated = (m.settle h p t).map undated Trace.undated := by
  have hstage : p.undated.stage = p.stage := rfl
  have haborted : p.undated.aborted = p.aborted := rfl
  unfold settle
  rw [hstage, haborted]
  split
  · simp only [Prod.map, Trace.undated_append]
    split <;> rfl
  · rfl

/-- A run that is woken finds the same, and goes on in the same way, without dates. -/
theorem wakeProbing_undated (p : Pool) (first : Look) :
    m.undated.wakeProbing p.undated first =
      (m.wakeProbing p first).map undated Trace.undated := by
  have hcancelled : p.undated.cancelled = p.cancelled := rfl
  have hstage : p.poll.1.undated.stage = p.poll.1.stage := rfl
  unfold wakeProbing
  rw [hcancelled, Pool.poll_undated, Pool.close_undated]
  dsimp only [Prod.map]
  rw [hstage, Pool.close_undated]
  -- The looks at the interrupt and at the stage come to the same in both runs.
  split
  · rfl
  · split
    · rfl
    · split <;> rfl

/-- An interrupt finds the same run without its dates. -/
theorem interrupt_undated : m.undated.interrupt = m.interrupt.map undated Trace.undated := by
  obtain ⟨o, early, stage⟩ := m
  have hcancelled : (undated ⟨o, early, stage⟩).isCancelled = isCancelled ⟨o, early, stage⟩ := by
    cases stage <;> rfl
  unfold interrupt
  rw [hcancelled]
  split
  · rfl
  · cases stage <;> rfl

/-- Without the dates, a step is the same whatever the clock says. -/
theorem step_undated (e : Event) :
    m.undated.step (e.dated .epoch) = (m.step e).map undated Trace.undated := by
  obtain ⟨o, early, stage⟩ := m
  -- One law for each kind of event; an event that does not fit the stage changes nothing.
  cases e with
  | interrupt => exact interrupt_undated _
  | discovery e => cases stage <;> first | rfl | exact discover_undated _ _ _
  | proceed => cases stage <;> first | rfl | exact proceed_undated _ _
  | sockets socket => cases stage <;> first | rfl | exact openSockets_undated _ _ _
  | turn ip moment =>
    -- A turn leaves everything but the pool as it is, so its own law is enough.
    cases stage with
    | probing p =>
      change ((⟨o, early, .probing (p.undated.turn ip moment).1⟩, (p.undated.turn ip moment).2) :
        Monitor × Trace) = _
      rw [Pool.turn_undated]
      rfl
    | closing h p =>
      change ((⟨o, early, .closing h (p.undated.turn ip moment).1⟩,
        (p.undated.turn ip moment).2) : Monitor × Trace) = _
      rw [Pool.turn_undated]
      rfl
    | _ => rfl
  | wake first =>
    cases stage with
    | probing p => exact wakeProbing_undated _ _ _
    | closing h p =>
      change (undated ⟨o, early, .closing h p⟩).settle h p.undated.poll.1 p.undated.poll.2 = _
      rw [Pool.poll_undated]
      exact settle_undated _ _ _ _
    | _ => rfl
  | deadline =>
    cases stage with
    | closing h p =>
      change (undated ⟨o, early, .closing h p⟩).settle h p.undated.deadline.1
        p.undated.deadline.2 = _
      rw [Pool.deadline_undated]
      exact settle_undated _ _ _ _
    | _ => rfl

end Monitor
end LossProbe
