import LossProbe.Probe.Pool
import LossProbe.Proofs.DiscoveryWindow
import LossProbe.Proofs.WorkerLife
import Mathlib.Data.List.Nodup

/-!
# What a pool does at one event

A turn moves one worker and touches the counters of its device alone: `Pool.stepped` says how, and
`Pool.member?` is the view of a pool in which other workers see nothing of it. No event adds a
worker or a device or changes what a worker is after (`Pool.step_targets`, `Pool.step_ips`). What a
worker shows in a turn is about its own device and carries the counters it leaves behind
(`Probe.Worker.step_notices`), and all that a pool shows besides logs comes from its workers
(`Pool.step_entries`). A worker has only so many turns (`Probe.turnsLeft_step`).
-/

namespace LossProbe

/-- What is found under a key is mapped where the list is, if the keys stay. -/
theorem find?_map_of_keeps {α κ : Type} [DecidableEq κ] (key : α → κ) {f : α → α}
    (keeps : ∀ a, key (f a) = key a) (l : List α) (k : κ) :
    (l.map f).find? (fun a => key a = k) = (l.find? fun a => key a = k).map f := by
  rw [List.find?_map]
  congr 2
  funext a
  simp only [Function.comp_apply, keeps]

/-- What is in a list without repeated keys is found under its key. -/
theorem find?_of_mem {α κ : Type} [DecidableEq κ] {key : α → κ} {l : List α} {a : α}
    (distinct : (l.map key).Nodup) (h : a ∈ l) : (l.find? fun b => key b = key a) = some a := by
  cases hfind : l.find? fun b => key b = key a with
  | none => simpa using List.find?_eq_none.mp hfind a h
  | some b =>
    have hkey : key b = key a := by simpa using List.find?_some hfind
    rw [List.inj_on_of_nodup_map distinct (List.mem_of_find?_eq_some hfind) h hkey]

namespace Registry

variable {r : Registry} {ip other : IpAddr}

/-- Updating the counters of a device adds no address and takes none away. -/
@[simp] theorem ips_updateStats (r : Registry) (ip : IpAddr) (f : Stats → Stats) :
    (r.updateStats ip f).ips = r.ips := by
  rw [ips, updateStats, List.map_map]
  refine List.map_congr_left fun d _ => ?_
  simp only [Function.comp_apply]
  split <;> rfl

/-- What is found under an address has this address. -/
theorem ip_of_get? {d : Device} (h : r.get? ip = some d) : d.ip = ip := by
  simpa using List.find?_some h

/-- An update of one device leaves the others as they are. -/
theorem get?_updateStats_of_ne (h : other ≠ ip) (f : Stats → Stats) :
    (r.updateStats ip f).get? other = r.get? other := by
  have hmap := find?_map_of_keeps Device.ip
    (f := fun d => if d.ip = ip then { d with stats := f d.stats } else d)
    (fun d => by split <;> rfl) r.devices other
  rw [get?, updateStats, hmap, ← get?]
  -- Under any other address stands a device that the update passes over.
  cases hd : r.get? other with
  | none => rfl
  | some d => rw [Option.map_some, if_neg (ip_of_get? hd ▸ h)]

/-- A device is found at its address. -/
theorem get?_of_mem {d : Device} (h : d ∈ r.devices) : r.get? d.ip = some d :=
  find?_of_mem r.distinct h

/-- Going through the devices by version goes through all of them. -/
theorem toList_perm (r : Registry) : r.toList.Perm r.devices := by
  have hperm := List.filter_append_perm (fun d : Device => decide (d.version = .v2)) r.devices
  -- Whatever is not of the second version is of the third.
  have hthird : (fun d : Device => decide (d.version = .v3)) =
      fun d => !decide (d.version = .v2) := by
    funext d
    cases d.version <;> rfl
  rwa [← hthird] at hperm

/-- No address occurs twice in it. -/
theorem nodup_map_ip_toList (r : Registry) : (r.toList.map Device.ip).Nodup :=
  (r.toList_perm.map Device.ip).nodup_iff.2 r.distinct

end Registry

namespace Probe

/-! ## What a worker shows in a turn -/

/-- Whether a notice is about a device with these counters. -/
def Notice.IsOf (t : Target) (s : Stats) : Notice → Prop
  | .sending x => x.dest = t.dest ∧ x.payload = t.version.probePayload
  | .log _ => True
  | .loss stats => stats = s

variable {c : ProbeConfig} {t : Target} {s : Stats}

/-- An attempt to send shows a datagram for the target, with the payload of its version. -/
theorem sendNotices_isOf (result : Except IoError Unit) :
    ∀ n ∈ sendNotices t result, n.IsOf t s := by
  cases result <;> simp [sendNotices, Notice.IsOf]

/-- The end of a wait shows only logs, whatever ended it. -/
theorem settle_isOf (s : Stats) (r : Reception) :
    ∀ n ∈ (settle t s r).notices, n.IsOf t (settle t s r).stats := by
  cases r <;> simp [settle, lose, Notice.IsOf]

namespace Worker

/-- Going to send shows what is about the target, with the counters after the attempt. -/
theorem begin_isOf (cancelled : Bool) (result : Except IoError Unit) :
    ∀ n ∈ (begin c cancelled t s result).notices,
      n.IsOf t (begin c cancelled t s result).stats := by
  -- What the attempt itself shows has no counters in it, so it is about any.
  have hsend (s' : Stats) : ∀ n ∈ (send c t s result).notices, n.IsOf t s' :=
    sendNotices_isOf result
  unfold begin
  split
  · simp [stopNotice, Notice.IsOf]
  · dsimp only
    split
    · exact hsend _
    · simp only [List.mem_append, List.mem_singleton]
      rintro n (hn | rfl)
      · exact hsend _ n hn
      · trivial
    · exact hsend _

/-- At the end of a cycle only the log of a stop is added to what the cycle showed. -/
theorem finish_isOf (cancelled : Bool) {ns : List Notice} (h : ∀ n ∈ ns, n.IsOf t s) :
    ∀ n ∈ (finish cancelled t s ns).notices, n.IsOf t (finish cancelled t s ns).stats := by
  unfold finish
  split
  · simp only [List.mem_append, List.mem_singleton]
    rintro n (hn | rfl)
    · exact h n hn
    · trivial
  · exact h

/-- The end of a wait, and of the cycle if a reply ended it, shows what is about the target. -/
theorem receive_isOf (cancelled : Bool) (r : Reception) :
    ∀ n ∈ (receive cancelled t s r).notices, n.IsOf t (receive cancelled t s r).stats := by
  unfold receive
  dsimp only
  split
  · exact settle_isOf s r
  · exact settle_isOf s r
  · exact finish_isOf cancelled (settle_isOf s r)

/-- The report of a loss shows the counters with the loss, and the warning is a log. -/
theorem lossNotices_isOf : ∀ n ∈ lossNotices c t s, n.IsOf t s := by
  unfold lossNotices
  split <;> simp [Notice.IsOf]

/-- What a worker shows after it has counted a loss is about its own device: the report and, if the
    run was cancelled, that it stops. -/
theorem finish_lossNotices_isOf (cancelled : Bool) :
    ∀ n ∈ (finish cancelled t s (lossNotices c t s)).notices, n.IsOf t s := by
  simpa only [finish_eq] using finish_isOf (s := s) cancelled (lossNotices_isOf (c := c))

/-- What a worker shows in a turn is about its own device, with the counters it leaves behind. -/
theorem step_notices (c : ProbeConfig) (cancelled : Bool) (w : Worker) (s : Stats) (m : Moment) :
    ∀ n ∈ (w.step c cancelled s m).notices, n.IsOf w.target (w.step c cancelled s m).stats := by
  obtain ⟨t, p⟩ := w
  cases p with
  | created =>
    -- A new worker logs that it begins, and then goes on as one that is ready.
    simp only [step, List.mem_cons]
    rintro n (rfl | hn)
    · trivial
    · exact begin_isOf cancelled m.sent n hn
  | ready => exact begin_isOf cancelled m.sent
  | awaiting => exact receive_isOf cancelled m.received
  | lost => exact finish_isOf cancelled lossNotices_isOf
  | stopped reason => exact List.forall_mem_nil _
  | faulted fault => exact List.forall_mem_nil _
  | aborted => exact List.forall_mem_nil _

end Worker

/-! ## Who is aborted -/

/-- A worker that goes to send either waits, stops or fails. -/
theorem begin_ne_aborted (cancelled : Bool) (result : Except IoError Unit) :
    (Worker.begin c cancelled t s result).outcome ≠ .aborted := by
  unfold Worker.begin
  split
  · simp
  · dsimp only
    split <;> simp

/-- A worker at the end of a cycle either goes on or stops. -/
theorem finish_ne_aborted (cancelled : Bool) (ns : List Notice) :
    (Worker.finish cancelled t s ns).outcome ≠ .aborted := by
  unfold Worker.finish
  split <;> simp

/-- No worker aborts itself. -/
theorem Worker.step_ne_aborted (c : ProbeConfig) (cancelled : Bool) {w : Worker} (s : Stats)
    (m : Moment) (h : w.phase ≠ .aborted) : (w.step c cancelled s m).outcome ≠ .aborted := by
  obtain ⟨t, p⟩ := w
  -- No turn leads to this phase, it is only ever set from outside.
  cases p with
  | created => exact begin_ne_aborted cancelled m.sent
  | ready => exact begin_ne_aborted cancelled m.sent
  | awaiting =>
    simp only [step, receive]
    split
    · simp
    · simp
    · exact finish_ne_aborted cancelled _
  | lost => exact finish_ne_aborted cancelled _
  | stopped reason => exact h
  | faulted fault => exact h
  | aborted => exact absurd rfl h

/-! ## How many turns a worker has -/

/-- How many turns a worker can take at most: three for each probe that it may still send, and one
    to find that it may not send another. -/
def turnsLeft (c : ProbeConfig) (s : Stats) : Phase → Nat
  | .created | .ready => 3 * (c.maxProbes.toNat - s.sent.toNat) + 1
  | .awaiting => 3 * (c.maxProbes.toNat - s.sent.toNat) + 3
  | .lost => 3 * (c.maxProbes.toNat - s.sent.toNat) + 2
  | _ => 0

/-- Whatever was sent before, a worker has a number of turns that its budget bounds. -/
theorem turnsLeft_le (c : ProbeConfig) (s : Stats) (p : Phase) :
    turnsLeft c s p ≤ 3 * c.maxProbes.toNat + 3 := by
  cases p <;> simp only [turnsLeft] <;> omega

/-- A worker has turns left as long as it runs. -/
theorem turnsLeft_eq_zero_iff (c : ProbeConfig) (s : Stats) (p : Phase) :
    turnsLeft c s p = 0 ↔ p.isRunning = false := by
  cases p <;> simp [turnsLeft, Phase.isRunning]

namespace Worker

/-- Going to send uses up a turn, whatever comes of it. -/
theorem turnsLeft_begin (cancelled : Bool) (result : Except IoError Unit) :
    turnsLeft c (begin c cancelled t s result).stats (begin c cancelled t s result).outcome <
      turnsLeft c s .ready := by
  unfold begin
  split
  · simp [turnsLeft]
  · dsimp only
    split
    · -- The probe that was sent counts, which takes three turns from those that are left.
      rename_i ho
      have hsent := send_awaiting ho
      simp only [turnsLeft]
      omega
    · simp [turnsLeft]
    · simp [turnsLeft]

/-- The end of a cycle uses up a turn. -/
theorem turnsLeft_finish (cancelled : Bool) (ns : List Notice) :
    turnsLeft c (finish cancelled t s ns).stats (finish cancelled t s ns).outcome <
      turnsLeft c s .lost := by
  unfold finish
  split <;> simp [turnsLeft]

/-- The end of a wait uses up a turn, whether a reply came or not. -/
theorem turnsLeft_receive (cancelled : Bool) (r : Reception) :
    turnsLeft c (receive cancelled t s r).stats (receive cancelled t s r).outcome <
      turnsLeft c s .awaiting := by
  have hsent := settle_sent t s r
  unfold receive
  dsimp only
  split
  · simp [turnsLeft]
  · simp [turnsLeft, hsent]
  -- A reply ends the cycle too, so two turns go at once.
  · refine Nat.lt_trans (turnsLeft_finish cancelled _) ?_
    simp [turnsLeft, hsent]

/-- Each turn of a running worker leaves it fewer turns, whatever it meets. -/
theorem turnsLeft_step (c : ProbeConfig) (cancelled : Bool) {w : Worker} (s : Stats) (m : Moment)
    (running : w.phase.isRunning = true) :
    turnsLeft c (w.step c cancelled s m).stats (w.step c cancelled s m).outcome <
      turnsLeft c s w.phase := by
  obtain ⟨t, p⟩ := w
  -- One bound for each part that a turn is made of.
  cases p with
  | created => exact turnsLeft_begin cancelled m.sent
  | ready => exact turnsLeft_begin cancelled m.sent
  | awaiting => exact turnsLeft_receive cancelled m.received
  | lost => exact turnsLeft_finish cancelled _
  | stopped reason => cases running
  | faulted fault => cases running
  | aborted => cases running

end Worker
end Probe

namespace Pool

open Probe

variable {p : Pool} {ip other : IpAddr} {w : Worker} {s : Stats}

/-! ## One turn -/

/-- A worker whose phase is changed stays the worker of its device. -/
theorem find?_setPhase (ws : List Worker) (ip : IpAddr) (phase : Phase) (other : IpAddr) :
    (setPhase ws ip phase).find? (fun w => w.target.ip = other) =
      (ws.find? fun w => w.target.ip = other).map
        fun w => if w.target.ip = ip then { w with phase } else w :=
  find?_map_of_keeps (fun w : Worker => w.target.ip) (fun w => by split <;> rfl) ws other

/-- The worker of a device, and its counters. -/
def member? (p : Pool) (ip : IpAddr) : Option (Worker × Stats) :=
  (p.workers.find? fun w => w.target.ip = ip).bind fun w =>
    (p.registry.get? ip).map fun d => (w, d.stats)

/-- A worker and counters belong to a device where both are found under its address. -/
theorem member?_eq_some_iff :
    p.member? ip = some (w, s) ↔
      (p.workers.find? fun w => w.target.ip = ip) = some w ∧
        ∃ d, p.registry.get? ip = some d ∧ d.stats = s := by
  simp only [member?, Option.bind_eq_some_iff, Option.map_eq_some_iff, Prod.mk.injEq]
  constructor
  · rintro ⟨w', hw, d, hd, rfl, rfl⟩
    exact ⟨hw, d, hd, rfl⟩
  · rintro ⟨hw, d, hd, rfl⟩
    exact ⟨w, hw, d, hd, rfl, rfl⟩

/-- The worker of a device is after this device. -/
theorem ip_of_member? (h : p.member? ip = some (w, s)) : w.target.ip = ip := by
  simpa using List.find?_some (member?_eq_some_iff.mp h).1

/-- The worker of a device is one of the pool. -/
theorem mem_of_member? (h : p.member? ip = some (w, s)) : w ∈ p.workers :=
  List.mem_of_find?_eq_some (member?_eq_some_iff.mp h).1

/-- The worker that takes a turn is the one of its device, as long as it runs. -/
theorem running?_eq_some_iff :
    p.running? ip = some (w, s) ↔ p.member? ip = some (w, s) ∧ w.phase.isRunning = true := by
  rw [member?_eq_some_iff]
  simp only [running?, Option.bind_eq_bind, Option.bind_eq_some_iff]
  -- Both sides look for the worker and for its device; what runs is asked last.
  constructor
  · rintro ⟨w', hw, d, hd, hif⟩
    split at hif
    · rename_i hrunning
      cases hif
      exact ⟨⟨hw, d, hd, rfl⟩, hrunning⟩
    · cases hif
  · rintro ⟨⟨hw, d, hd, rfl⟩, hrunning⟩
    exact ⟨w, hw, d, hd, if_pos hrunning⟩

/-- A worker that has ended takes no turn. -/
theorem running?_eq_none (h : p.member? ip = some (w, s)) (still : w.phase.isRunning = false) :
    p.running? ip = none := by
  cases hrun : p.running? ip with
  | none => rfl
  | some x =>
    obtain ⟨hx, hrunning⟩ := running?_eq_some_iff.mp hrun
    cases h.symm.trans hx
    rw [still] at hrunning
    cases hrunning

/-- The pool after a step of one of its workers. -/
def stepped (p : Pool) (ip : IpAddr) (step : Step Phase) : Pool :=
  { p with
    registry := p.registry.updateStats ip fun _ => step.stats
    ended := p.ended ++ ((endOf? step.outcome).map fun e => (ip, e)).toList
    workers := setPhase p.workers ip step.outcome }

/-- In the turn of a running worker the pool takes over the step of this worker, and shows it with
    the counters as they then are. -/
theorem turn_of_running (h : p.running? ip = some (w, s)) (m : Moment) :
    p.turn ip m =
      (p.stepped ip (w.step p.config p.cancelled s m),
        (w.step p.config p.cancelled s m).notices.map
          (entry ip (p.stepped ip (w.step p.config p.cancelled s m)).registry)) := by
  simp only [turn, h, stepped]
  cases endOf? (w.step p.config p.cancelled s m).outcome <;> simp

/-- A turn of a worker that has ended, or that does not exist, changes nothing. -/
theorem turn_of_not_running (h : p.running? ip = none) (m : Moment) : p.turn ip m = (p, []) := by
  simp only [turn, h]

/-- A turn takes the worker of its device one step, if this worker runs, and otherwise does
    nothing. -/
theorem turn_cases (p : Pool) (ip : IpAddr) (m : Moment) :
    p.turn ip m = (p, []) ∨ ∃ w s, p.member? ip = some (w, s) ∧ w.phase.isRunning = true ∧
      p.turn ip m =
        (p.stepped ip (w.step p.config p.cancelled s m),
          (w.step p.config p.cancelled s m).notices.map
            (entry ip (p.stepped ip (w.step p.config p.cancelled s m)).registry)) := by
  cases h : p.running? ip with
  | none => exact .inl (turn_of_not_running h m)
  | some x =>
    obtain ⟨hmember, hrunning⟩ := running?_eq_some_iff.mp h
    exact .inr ⟨x.1, x.2, hmember, hrunning, turn_of_running h m⟩

/-- After the step of a worker its device has the counters and the phase that the step left. -/
theorem member?_stepped_self (h : p.member? ip = some (w, s)) (step : Step Phase) :
    (p.stepped ip step).member? ip = some ({ w with phase := step.outcome }, step.stats) := by
  obtain ⟨hw, d, hd, -⟩ := member?_eq_some_iff.mp h
  refine member?_eq_some_iff.mpr ⟨?_, _, Registry.get?_updateStats hd _, rfl⟩
  simp only [stepped, find?_setPhase, hw, Option.map_some, if_pos (ip_of_member? h)]

/-- The step of a worker changes no other worker and no other device. -/
theorem member?_stepped_of_ne (h : other ≠ ip) (step : Step Phase) :
    (p.stepped ip step).member? other = p.member? other := by
  simp only [member?, stepped, find?_setPhase, Registry.get?_updateStats_of_ne h]
  cases hw : p.workers.find? (fun w => w.target.ip = other) with
  | none => rfl
  | some w =>
    have hip : w.target.ip = other := by simpa using List.find?_some hw
    rw [Option.map_some, if_neg (hip ▸ h)]

/-! ## What no event changes -/

/-- A change of phase leaves every worker after the same device. -/
@[simp] theorem targets_setPhase (ws : List Worker) (ip : IpAddr) (phase : Phase) :
    (setPhase ws ip phase).map Worker.target = ws.map Worker.target := by
  rw [setPhase, List.map_map]
  refine List.map_congr_left fun w _ => ?_
  simp only [Function.comp_apply]
  split <;> rfl

/-- A worker that is aborted stays after the same device. -/
@[simp] theorem targets_abortRunning (ws : List Worker) :
    (abortRunning ws).map Worker.target = ws.map Worker.target := by
  rw [abortRunning, List.map_map]
  refine List.map_congr_left fun w _ => ?_
  simp only [Function.comp_apply]
  split <;> rfl

/-- A look of the owner only collects, and ends what it waits for. -/
theorem poll_cases (p : Pool) :
    (p.poll = (p, []) ∧ (p.stage = .waited ∨ p.stage = .closed)) ∨
    (p.poll = p.collect ∧ p.collect.1.isEmpty = false ∧
      (p.stage = .waiting ∨ p.stage = .closing)) ∨
    (p.poll = ({ p.collect.1 with stage := .waited, cancelled := true }, p.collect.2) ∧
      p.collect.1.isEmpty = true ∧ p.stage = .waiting) ∨
    (p.poll = ({ p.collect.1 with stage := .closed },
        p.collect.2 ++ [p.collect.1.closingEntry]) ∧
      p.collect.1.isEmpty = true ∧ p.stage = .closing) := by
  unfold poll
  cases hstage : p.stage with
  | waited => exact .inl ⟨rfl, .inl rfl⟩
  | closed => exact .inl ⟨rfl, .inr rfl⟩
  | waiting =>
    cases hempty : p.collect.1.isEmpty with
    | true => exact .inr (.inr (.inl ⟨by simp [hempty], rfl, rfl⟩))
    | false => exact .inr (.inl ⟨by simp [hempty], rfl, .inl rfl⟩)
  | closing =>
    cases hempty : p.collect.1.isEmpty with
    | true => exact .inr (.inr (.inr ⟨by simp [hempty], rfl, rfl⟩))
    | false => exact .inr (.inl ⟨by simp [hempty], rfl, .inr rfl⟩)

/-- The owner of a pool only logs what it finds. -/
theorem poll_logs (p : Pool) : ∀ a ∈ p.poll.2, ∃ l, a = .log l := by
  have hcollect : ∀ a ∈ p.collect.2, ∃ l, a = .log l := by
    simp only [collect, List.mem_map]
    rintro a ⟨⟨ip, e⟩, -, rfl⟩
    cases e <;> exact ⟨_, rfl⟩
  -- At most the workers collected and, once closing is over, one entry more.
  obtain ⟨h, -⟩ | ⟨h, -⟩ | ⟨h, -⟩ | ⟨h, -⟩ := poll_cases p <;> rw [h]
  · exact List.forall_mem_nil _
  · exact hcollect
  · exact hcollect
  · simp only [List.mem_append, List.mem_singleton]
    rintro a (ha | rfl)
    · exact hcollect a ha
    · exact ⟨_, rfl⟩

/-- Looking which workers have ended changes no worker. -/
@[simp] theorem workers_poll (p : Pool) : p.poll.1.workers = p.workers := by
  obtain ⟨h, -⟩ | ⟨h, -⟩ | ⟨h, -⟩ | ⟨h, -⟩ := poll_cases p <;> rw [h] <;> rfl

/-- Looking which workers have ended changes no counter. -/
@[simp] theorem registry_poll (p : Pool) : p.poll.1.registry = p.registry := by
  obtain ⟨h, -⟩ | ⟨h, -⟩ | ⟨h, -⟩ | ⟨h, -⟩ := poll_cases p <;> rw [h] <;> rfl

/-- Closing a pool changes no worker by itself. -/
@[simp] theorem workers_close (p : Pool) : p.close.workers = p.workers := by
  unfold close
  split <;> rfl

/-- Closing a pool changes no counter. -/
@[simp] theorem registry_close (p : Pool) : p.close.registry = p.registry := by
  unfold close
  split <;> rfl

/-- The deadline aborts what runs, while the pool is being closed. -/
theorem deadline_cases (p : Pool) :
    (p.deadline = (p, []) ∧ p.stage ≠ .closing) ∨
    (p.stage = .closing ∧
      p.deadline.1 =
        { p with stage := .closed, aborted := p.size, workers := abortRunning p.workers } ∧
      p.deadline.2 = .log (.deadlineMissed p.size) :: p.workers.flatMap p.owed ++
        [p.deadline.1.closingEntry]) := by
  cases hstage : p.stage <;> simp [deadline, hstage]

/-- Whatever happens, the workers are the same, each after the same device. -/
theorem step_targets (p : Pool) (e : Event) :
    (p.step e).1.workers.map Worker.target = p.workers.map Worker.target := by
  cases e with
  | turn ip m =>
    obtain h | ⟨w, s, -, -, h⟩ := turn_cases p ip m
    · rw [step, h]
    · rw [step, h]
      exact targets_setPhase _ _ _
  | cancel => rfl
  | poll => rw [step, workers_poll]
  | close => rw [step, workers_close]
  | deadline =>
    obtain ⟨h, -⟩ | ⟨-, h, -⟩ := deadline_cases p
    · rw [step, h]
    · rw [step, h]
      exact targets_abortRunning _

/-- Whatever happens, the registry holds the same devices. -/
theorem step_ips (p : Pool) (e : Event) : (p.step e).1.registry.ips = p.registry.ips := by
  cases e with
  | turn ip m =>
    obtain h | ⟨w, s, -, -, h⟩ := turn_cases p ip m
    · rw [step, h]
    · rw [step, h]
      exact Registry.ips_updateStats _ _ _
  | cancel => rfl
  | poll => rw [step, registry_poll]
  | close => rw [step, registry_close]
  | deadline =>
    obtain ⟨h, -⟩ | ⟨-, h, -⟩ := deadline_cases p
    · rw [step, h]
    · rw [step, h]

/-- Whatever an event shows is a log, or it is shown by a worker: a notice of its own, with the
    registry as the event leaves it. -/
theorem step_entries (p : Pool) (e : Event) :
    ∀ a ∈ (p.step e).2, (∃ l, a = .log l) ∨
      ∃ w ∈ p.workers, w.target.ip ∈ p.registry.ips ∧
        ∃ s n, n.IsOf w.target s ∧ a = entry w.target.ip (p.step e).1.registry n := by
  have known {ip : IpAddr} {d : Device} (h : p.registry.get? ip = some d) : ip ∈ p.registry.ips :=
    List.mem_map.mpr ⟨d, List.mem_of_find?_eq_some h, Registry.ip_of_get? h⟩
  cases e with
  | turn ip m =>
    obtain hturn | ⟨w, s, hmember, -, hturn⟩ := turn_cases p ip m <;> rw [step, hturn]
    · exact List.forall_mem_nil _
    · obtain rfl : w.target.ip = ip := ip_of_member? hmember
      obtain ⟨-, d, hd, -⟩ := member?_eq_some_iff.mp hmember
      intro a ha
      obtain ⟨n, hn, rfl⟩ := List.mem_map.mp ha
      have hown := Worker.step_notices p.config p.cancelled w s m n hn
      exact .inr ⟨w, mem_of_member? hmember, known hd, _, n, hown, rfl⟩
  | cancel => exact List.forall_mem_nil _
  | poll => exact fun a ha => .inl (poll_logs p a ha)
  | close => exact List.forall_mem_nil _
  | deadline =>
    obtain ⟨hdeadline, -⟩ | ⟨-, hdeadline, htrace⟩ := deadline_cases p
    · rw [step, hdeadline]
      exact List.forall_mem_nil _
    · rw [step, htrace, hdeadline]
      simp only [List.cons_append, List.mem_cons, List.mem_append, List.mem_flatMap,
        List.not_mem_nil, or_false]
      -- Between two logs stands what aborted workers still owe.
      rintro a (rfl | ⟨w, hw, howed⟩ | rfl)
      · exact .inl ⟨_, rfl⟩
      · unfold owed at howed
        split at howed
        · rename_i d _ hd
          obtain ⟨n, hn, rfl⟩ := List.mem_map.mp howed
          have hown := Worker.finish_lossNotices_isOf p.cancelled n hn
          exact .inr ⟨w, hw, known hd, d.stats, n, hown, rfl⟩
        · cases howed
      · exact .inl ⟨_, rfl⟩

end Pool
end LossProbe
