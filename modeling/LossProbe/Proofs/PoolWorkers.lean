import LossProbe.Proofs.PoolRoster

/-!
# Workers in a pool and workers alone

A pool is played by choices: somebody decides whose turn it is and when the owner looks, and each
worker meets the surroundings of its own device. As long as nobody cancels the run, every worker of
the pool is where it would be alone after as many turns (`Follows`), so no choice of turns makes a
difference to what a device is sent, what is counted for it and what is reported of it
(`pool_follows_lone_workers`). A worker that is given its turns comes to its end, whatever the
others do (`exists_member?_run`).
-/

namespace LossProbe

/-! ## What a trace shows of one device -/

/-- The probes sent to a device and the reports of its losses, with its own counters at each. -/
def Trace.about (t : Trace) (ip : IpAddr) : List Probe.Notice :=
  t.filterMap fun
    | .sending s => if s.dest.ip = ip then some (.sending s) else none
    | .report (.lossEvent other) r =>
      if other = ip then (r.get? ip).map fun d => .loss d.stats else none
    | _ => none

/-- What two traces show of a device stands one behind the other. -/
@[simp] theorem Trace.about_append (s t : Trace) (ip : IpAddr) :
    Trace.about (s ++ t) ip = Trace.about s ip ++ Trace.about t ip := List.filterMap_append

/-- What a worker shows besides its log. -/
def Probe.shown (ns : List Probe.Notice) : List Probe.Notice :=
  ns.filter fun
    | .log _ => false
    | _ => true

/-- What is shown besides logs is shown in the same order. -/
@[simp] theorem Probe.shown_append (ms ns : List Probe.Notice) :
    Probe.shown (ms ++ ns) = Probe.shown ms ++ Probe.shown ns := List.filter_append ..

/-- What a worker shows in its next turn is about its own device. -/
theorem Probe.Solo.taken_notices {σ : Type} (world : Probe.Surroundings σ) (c : ProbeConfig)
    (x : Probe.Solo σ) :
    ∀ n ∈ (x.taken world c).step.notices, n.IsOf x.worker.target (x.taken world c).step.stats :=
  Probe.Worker.step_notices c _ x.worker x.stats _

namespace Pool

open Probe

variable {p : Pool} {ip other : IpAddr} {w : Worker} {s : Stats}

/-- What a worker shows of its own device is what its turn showed. -/
theorem about_entries_self {t : Target} {r : Registry} {d : Device} {ns : List Notice}
    (hd : r.get? t.ip = some d) (own : ∀ n ∈ ns, n.IsOf t d.stats) :
    Trace.about (ns.map (entry t.ip r)) t.ip = shown ns := by
  induction ns with
  | nil => rfl
  | cons n ns ih =>
    obtain ⟨hn, hns⟩ := List.forall_mem_cons.mp own
    have ih := ih hns
    simp only [Trace.about, shown] at ih ⊢
    -- A probe goes to the address itself, a log is about no device, and a report shows the counters
    -- of this one.
    cases n with
    | sending x =>
      obtain ⟨hdest, -⟩ := hn
      simp [entry, hdest, Target.dest, ih]
    | log e => simp [entry, ih]
    | loss stats =>
      cases hn
      simp [entry, hd, ih]

/-- A worker shows nothing of other devices. -/
theorem about_entries_of_ne {t : Target} {s : Stats} {r : Registry} {ns : List Notice}
    (h : other ≠ t.ip) (own : ∀ n ∈ ns, n.IsOf t s) :
    Trace.about (ns.map (entry t.ip r)) other = [] := by
  rw [Trace.about, List.filterMap_map, List.filterMap_eq_nil_iff]
  intro n hn
  cases n with
  | sending x =>
    obtain ⟨hdest, -⟩ := own _ hn
    simp [entry, hdest, Target.dest, Ne.symm h]
  | log e => rfl
  | loss stats => simp [entry, Ne.symm h]

/-- The owner of a pool shows nothing of any device. -/
theorem about_poll (p : Pool) (ip : IpAddr) : Trace.about p.poll.2 ip = [] := by
  refine List.filterMap_eq_nil_iff.mpr fun a ha => ?_
  obtain ⟨l, rfl⟩ := poll_logs p a ha
  rfl

/-! ## Pools in which nobody runs -/

/-- A worker that has ended owes nothing. -/
theorem owed_of_still (p : Pool) (still : w.phase.isRunning = false) : p.owed w = [] := by
  obtain ⟨t, phase⟩ := w
  cases phase <;> first | rfl | cases still

/-- Where nobody runs nobody is aborted. -/
theorem abortRunning_of_still {ws : List Worker} (still : ∀ w ∈ ws, w.phase.isRunning = false) :
    abortRunning ws = ws := by
  refine (List.map_congr_left fun w hw => if_neg ?_).trans (List.map_id' ws)
  rw [still w hw]
  decide

/-- Where nobody runs, no event changes a counter or shows anything of a device. -/
theorem step_of_still (still : ∀ w ∈ p.workers, w.phase.isRunning = false) (e : Event) :
    (p.step e).1.workers = p.workers ∧ (p.step e).1.registry = p.registry ∧
      ∀ ip, Trace.about (p.step e).2 ip = [] := by
  cases e with
  | turn ip m =>
    -- The turn of a worker that has ended is none.
    obtain hturn | ⟨w, s, hmember, running, -⟩ := turn_cases p ip m
    · rw [step, hturn]
      exact ⟨rfl, rfl, fun _ => rfl⟩
    · rw [still w (mem_of_member? hmember)] at running
      cases running
  | cancel => exact ⟨rfl, rfl, fun _ => rfl⟩
  | poll => exact ⟨workers_poll p, registry_poll p, about_poll p⟩
  | close => exact ⟨workers_close p, registry_close p, fun _ => rfl⟩
  | deadline =>
    obtain ⟨hdeadline, -⟩ | ⟨-, hdeadline, htrace⟩ := deadline_cases p
    · rw [step, hdeadline]
      exact ⟨rfl, rfl, fun _ => rfl⟩
    · have howed : p.workers.flatMap p.owed = [] :=
        List.flatMap_eq_nil_iff.mpr fun w hw => owed_of_still p (still w hw)
      rw [step, htrace, hdeadline, howed]
      exact ⟨abortRunning_of_still still, rfl, fun _ => rfl⟩

/-- Where nobody runs, nothing that happens changes a counter or shows anything of a device. -/
theorem run_of_still (still : ∀ w ∈ p.workers, w.phase.isRunning = false) (es : List Event) :
    (p.run es).1.workers = p.workers ∧ (p.run es).1.registry = p.registry ∧
      ∀ ip, Trace.about (p.run es).2 ip = [] := by
  refine Machine.run_induction (motive := fun (q : Pool) past => q.workers = p.workers ∧
    q.registry = p.registry ∧ ∀ ip, Trace.about past ip = []) ⟨rfl, rfl, fun _ => rfl⟩ ?_ es
  rintro q past e ⟨hworkers, hregistry, habout⟩
  obtain ⟨hworkers', hregistry', habout'⟩ := step_of_still (hworkers ▸ still) e
  refine ⟨hworkers'.trans hworkers, hregistry'.trans hregistry, fun ip => ?_⟩
  rw [Trace.about_append, habout, habout', List.append_nil]

/-! ## Turns that are left -/

/-- Whether an event is a turn of the worker of a device. -/
def Event.isTurnOf (ip : IpAddr) : Event → Bool
  | .turn other _ => other = ip
  | _ => false

/-- No event changes the settings of a pool. -/
theorem step_config (p : Pool) (e : Event) : (p.step e).1.config = p.config := by
  cases e with
  | turn ip m =>
    obtain h | ⟨w, s, -, -, h⟩ := turn_cases p ip m
    · rw [step, h]
    · rw [step, h]
      rfl
  | cancel => rfl
  | poll =>
    obtain ⟨h, -⟩ | ⟨h, -⟩ | ⟨h, -⟩ | ⟨h, -⟩ := poll_cases p <;> rw [step, h] <;> rfl
  | close =>
    simp only [step, close]
    split <;> rfl
  | deadline =>
    obtain ⟨h, -⟩ | ⟨-, h, -⟩ := deadline_cases p <;> rw [step, h]

/-- A worker after all that run are aborted. -/
theorem member?_abortRunning (h : p.member? ip = some (w, s)) {q : Pool}
    (workers : q.workers = abortRunning p.workers) (registry : q.registry = p.registry) :
    q.member? ip = some (if w.phase.isRunning then { w with phase := .aborted } else w, s) := by
  obtain ⟨hw, d, hd, rfl⟩ := member?_eq_some_iff.mp h
  have hfind := find?_map_of_keeps (fun w : Worker => w.target.ip)
    (f := fun w => if w.phase.isRunning then { w with phase := .aborted } else w)
    (fun w => by split <;> rfl) p.workers ip
  rw [hw, Option.map_some] at hfind
  exact member?_eq_some_iff.mpr ⟨workers ▸ hfind, d, registry ▸ hd, rfl⟩

/-- An event leaves a worker as many turns as it has, and its own turn takes one. -/
theorem exists_member?_step (h : p.member? ip = some (w, s)) (e : Event) :
    ∃ w' s', (p.step e).1.member? ip = some (w', s') ∧
      turnsLeft p.config s' w'.phase ≤
        turnsLeft p.config s w.phase - if e.isTurnOf ip then 1 else 0 := by
  cases e with
  | turn other m =>
    by_cases hip : ip = other
    · -- A running worker uses up a turn, and one that has ended has none left.
      subst hip
      simp only [step, Event.isTurnOf, decide_true, if_true]
      cases hrunning : w.phase.isRunning with
      | true =>
        have hlt := Worker.turnsLeft_step p.config p.cancelled s m hrunning
        rw [turn_of_running (running?_eq_some_iff.mpr ⟨h, hrunning⟩)]
        exact ⟨_, _, member?_stepped_self h _, by dsimp only; omega⟩
      | false =>
        have hzero := (turnsLeft_eq_zero_iff p.config s w.phase).mpr hrunning
        rw [turn_of_not_running (running?_eq_none h hrunning)]
        exact ⟨w, s, h, by omega⟩
    · refine ⟨w, s, ?_, by simp [Event.isTurnOf, Ne.symm hip]⟩
      obtain hturn | ⟨v, s', -, -, hturn⟩ := turn_cases p other m <;> rw [step, hturn]
      · exact h
      · exact (member?_stepped_of_ne hip _).trans h
  | cancel => exact ⟨w, s, h, Nat.le_refl _⟩
  | poll => exact ⟨w, s, by simpa [member?, step] using h, Nat.le_refl _⟩
  | close => exact ⟨w, s, by simpa [member?, step] using h, Nat.le_refl _⟩
  | deadline =>
    obtain ⟨hdeadline, -⟩ | ⟨-, hdeadline, -⟩ := deadline_cases p <;> rw [step, hdeadline]
    · exact ⟨w, s, h, Nat.le_refl _⟩
    · refine ⟨_, _, member?_abortRunning h rfl rfl, ?_⟩
      split
      · exact Nat.zero_le _
      · exact Nat.le_refl _

/-- A worker that is given its turns comes to its end, whatever happens in between. -/
theorem exists_member?_run (h : p.member? ip = some (w, s)) (es : List Event) :
    ∃ w' s', (p.run es).1.member? ip = some (w', s') ∧
      turnsLeft p.config s' w'.phase ≤
        turnsLeft p.config s w.phase - es.countP fun e => e.isTurnOf ip := by
  induction es generalizing p w s with
  | nil => exact ⟨w, s, h, Nat.le_refl _⟩
  | cons e es ih =>
    -- A turn of this worker lowers its rank, and no other event raises it.
    obtain ⟨w₁, s₁, h₁, hstep⟩ := exists_member?_step h e
    obtain ⟨w₂, s₂, h₂, hrest⟩ := ih h₁
    rw [step_config] at hrest
    refine ⟨w₂, s₂, h₂, ?_⟩
    rw [List.countP_cons]
    omega

/-- Turns of these workers. -/
def turns (ips : List IpAddr) : List Event := ips.map fun ip => .turn ip {}

/-- Turns of the workers do not change what the owner is doing. -/
theorem stage_turns (p : Pool) (ips : List IpAddr) : (p.run (turns ips)).1.stage = p.stage := by
  induction ips generalizing p with
  | nil => rfl
  | cons ip ips ih => exact (ih _).trans (stage_turn p ip {})

/-- A worker that is listed so many times has at least as many turns. -/
theorem le_countP_turns {ips : List IpAddr} (h : ip ∈ ips) (n : Nat) :
    n ≤ (turns (List.replicate n ips).flatten).countP fun e => e.isTurnOf ip := by
  have hone : 0 < ips.countP fun other => decide (other = ip) :=
    List.countP_pos_iff.mpr ⟨ip, h, by simp⟩
  rw [turns, List.countP_map, List.countP_flatten, List.map_replicate, List.sum_replicate_nat]
  exact Nat.le_mul_of_pos_right n hone

/-- When everyone has had enough turns, the next look of the owner ends its wait. -/
theorem exists_waited_of_turns (h : p.Roster) (hstage : p.stage = .waiting)
    (members : ∀ ip ∈ p.workerIps, ∃ w s, p.member? ip = some (w, s)) :
    ∃ ips, (p.run (turns ips)).1.poll.1.stage = .waited := by
  -- So many rounds are enough for every worker.
  let ips := (List.replicate (3 * p.config.maxProbes.toNat + 3) p.workerIps).flatten
  have hroster := h.run (turns ips)
  have hwaiting : (p.run (turns ips)).1.stage = .waiting := (stage_turns p ips).trans hstage
  have hended : ∀ ip ∈ (p.run (turns ips)).1.workerIps,
      ∃ e, (p.run (turns ips)).1.HasEnded ip e := by
    intro ip hip
    rw [run_workerIps] at hip
    obtain ⟨w, s, hmember⟩ := members ip hip
    obtain ⟨w', s', hmember', hleft⟩ := exists_member?_run hmember (turns ips)
    -- It was given at least as many turns as it had left, so none are left now.
    have hmany : _ ≤ (turns ips).countP fun e => e.isTurnOf ip := le_countP_turns hip _
    have hbound := turnsLeft_le p.config s w.phase
    have hzero : turnsLeft p.config s' w'.phase = 0 := by omega
    have hw : w' ∈ (p.run (turns ips)).1.workers := mem_of_member? hmember'
    rw [← ip_of_member? hmember']
    exact hroster.exists_hasEnded (by simp [hwaiting]) hw ((turnsLeft_eq_zero_iff _ _ _).mp hzero)
  refine ⟨ips, ?_⟩
  simp [poll, hwaiting, hroster.isEmpty_collect (.inl hwaiting) hended]

/-! ## Pools that are left alone -/

/-- What is decided about a pool that is left alone. -/
inductive Choice where
  /-- The worker of a device takes its turn. -/
  | turn (ip : IpAddr)
  /-- The owner looks which workers have ended. -/
  | look
deriving DecidableEq

/-- A pool, and the state of what surrounds each of its workers. -/
structure Scene (σ : Type) where
  pool : Pool
  states : IpAddr → σ

namespace Scene

variable {σ : Type}

/-- What a choice means for the pool, and the surroundings afterwards: a worker that takes its turn
    meets the surroundings of its device. -/
def meet (world : IpAddr → Surroundings σ) (x : Scene σ) : Choice → Event × (IpAddr → σ)
  | .look => (.poll, x.states)
  | .turn ip =>
    match x.pool.running? ip with
    | none => (.turn ip {}, x.states)
    | some (w, _) =>
      let met := (world ip).meet w.target (x.states ip) w.phase
      (.turn ip met.1.moment, fun other => if other = ip then met.2 else x.states other)

def step (world : IpAddr → Surroundings σ) (x : Scene σ) (choice : Choice) : Scene σ × Trace :=
  let next := x.pool.step (x.meet world choice).1
  (⟨next.1, (x.meet world choice).2⟩, next.2)

/-- Go on by several choices. -/
def play (world : IpAddr → Surroundings σ) (x : Scene σ) (choices : List Choice) :
    Scene σ × Trace :=
  Machine.run (step world) x choices

/-- The events that choices come to. -/
def events (world : IpAddr → Surroundings σ) (x : Scene σ) : List Choice → List Event
  | [] => []
  | choice :: choices =>
    (x.meet world choice).1 :: (x.step world choice).1.events world choices

/-- To play a pool is to run it. -/
theorem play_pool (world : IpAddr → Surroundings σ) (x : Scene σ) (choices : List Choice) :
    (x.play world choices).1.pool = (x.pool.run (x.events world choices)).1 ∧
      (x.play world choices).2 = (x.pool.run (x.events world choices)).2 := by
  induction choices generalizing x with
  | nil => exact ⟨rfl, rfl⟩
  | cons choice choices ih =>
    obtain ⟨hpool, htrace⟩ := ih (x.step world choice).1
    exact ⟨hpool, congrArg ((x.step world choice).2 ++ ·) htrace⟩

/-- What the surroundings choose is a turn of the worker that was chosen. -/
theorem isTurnOf_meet (world : IpAddr → Surroundings σ) (x : Scene σ) (choice : Choice)
    (ip : IpAddr) : (x.meet world choice).1.isTurnOf ip = decide (choice = .turn ip) := by
  cases choice with
  | look => rfl
  | turn other =>
    simp only [meet]
    split <;> simp [Event.isTurnOf]

/-- Every worker has the turns that it was chosen for. -/
theorem countP_events (world : IpAddr → Surroundings σ) (x : Scene σ) (choices : List Choice)
    (ip : IpAddr) :
    (x.events world choices).countP (fun e => e.isTurnOf ip) = choices.count (.turn ip) := by
  induction choices generalizing x with
  | nil => rfl
  | cons choice choices ih =>
    simp [events, List.countP_cons, List.count_cons, ih, isTurnOf_meet]

/-- One more choice is one more step of the scene. -/
theorem play_snoc (world : IpAddr → Surroundings σ) (x : Scene σ) (choices : List Choice)
    (choice : Choice) : (x.play world (choices ++ [choice])).1 =
      ((x.play world choices).1.step world choice).1 := by
  rw [play, Machine.run_append]
  rfl

/-- A worker that is chosen often enough comes to its end, whatever else is chosen. -/
theorem exists_member?_play (world : IpAddr → Surroundings σ) (x : Scene σ)
    (h : x.pool.member? ip = some (w, s)) (choices : List Choice) :
    ∃ w' s', (x.play world choices).1.pool.member? ip = some (w', s') ∧
      turnsLeft x.pool.config s' w'.phase ≤
        turnsLeft x.pool.config s w.phase - choices.count (.turn ip) := by
  rw [(play_pool world x choices).1, ← countP_events world x choices ip]
  exact exists_member?_run h _

/-- Whatever is chosen, the same devices have workers. -/
theorem workerIps_play (world : IpAddr → Surroundings σ) (x : Scene σ) (choices : List Choice) :
    (x.play world choices).1.pool.workerIps = x.pool.workerIps := by
  rw [(play_pool world x choices).1, run_workerIps]

variable {world : IpAddr → Surroundings σ} {x : Scene σ}

/-- A turn of a worker that does not run changes nothing in the scene. -/
theorem step_turn_of_not_running (h : x.pool.running? ip = none) :
    x.step world (.turn ip) = (x, []) := by
  simp only [step, meet, h, Pool.step, turn_of_not_running h]

/-- In a pool that is not cancelled a worker takes the turn that it would take alone. -/
theorem step_turn_of_running (h : x.pool.running? ip = some (w, s))
    (free : x.pool.cancelled = false)
    (uncancelled : ∀ state, (world ip).isCancelled state = false) :
    let alone : Solo σ := ⟨w, s, x.states ip⟩
    let taken := alone.taken (world ip) x.pool.config
    x.step world (.turn ip) =
      (⟨x.pool.stepped ip taken.step, fun other =>
          if other = ip then (alone.next (world ip) x.pool.config).state else x.states other⟩,
        taken.step.notices.map (entry ip (x.pool.stepped ip taken.step).registry)) := by
  intro alone taken
  -- Alone, the surroundings say whether the run is cancelled; here, the pool does.
  have hlook : ((world ip).meet w.target (x.states ip) w.phase).1.cancelled = x.pool.cancelled := by
    rw [free]
    cases w.phase <;> simp [Surroundings.meet, uncancelled]
  simp only [step, meet, h, Pool.step, turn_of_running h, ← hlook]
  rfl

end Scene

/-! ## A pool that is left alone so far -/

/-- A pool that nobody has cancelled or closed. -/
structure Undisturbed (c : ProbeConfig) (p : Pool) : Prop where
  roster : p.Roster
  config : p.config = c
  stage : p.stage = .waiting ∨ p.stage = .waited
  /-- Only a wait that is over cancels the run. -/
  free : p.cancelled = true → p.stage = .waited

namespace Undisturbed

variable {c : ProbeConfig}

/-- Nothing is cancelled while a worker runs. -/
theorem free_of_running (h : Undisturbed c p) (running : p.running? ip = some (w, s)) :
    p.cancelled = false := by
  obtain ⟨hmember, hrunning⟩ := running?_eq_some_iff.mp running
  have hw : w ∈ p.workers := mem_of_member? hmember
  refine Bool.eq_false_iff.mpr fun hcancelled => ?_
  -- The run would be cancelled because the wait is over, and then nobody runs.
  rw [h.roster.not_running (h.roster.waited (h.free hcancelled)).1 w hw] at hrunning
  cases hrunning

/-- A turn does not disturb a pool. -/
theorem turn (h : Undisturbed c p) (ip : IpAddr) (m : Moment) :
    Undisturbed c (p.step (.turn ip m)).1 := by
  have hroster := h.roster.step (.turn ip m)
  obtain hturn | ⟨w, s, -, -, hturn⟩ := turn_cases p ip m <;> rw [step, hturn] at hroster ⊢
  · exact h
  · exact ⟨hroster, h.config, h.stage, h.free⟩

/-- A look of the owner disturbs a pool only by ending the wait, when nobody is left to notice. -/
theorem poll (h : Undisturbed c p) : Undisturbed c (p.step .poll).1 := by
  have hroster := h.roster.step .poll
  have hconfig := (step_config p .poll).trans h.config
  -- Nothing to do, still waiting, all joined, or closing, which an undisturbed pool is not.
  obtain ⟨hpoll, -⟩ | ⟨hpoll, -, -⟩ | ⟨hpoll, -, -⟩ | ⟨-, -, hclosing⟩ := poll_cases p
  · rwa [step, hpoll]
  · rw [step, hpoll] at hroster hconfig ⊢
    exact ⟨hroster, hconfig, h.stage, h.free⟩
  · rw [step, hpoll] at hroster hconfig ⊢
    exact ⟨hroster, hconfig, .inr rfl, fun _ => rfl⟩
  · simpa [hclosing] using h.stage

/-- No choice disturbs the pool of a scene. -/
theorem choose {σ : Type} {x : Scene σ} (h : Undisturbed c x.pool)
    (world : IpAddr → Surroundings σ) (choice : Choice) :
    Undisturbed c (x.step world choice).1.pool := by
  cases choice with
  | look => exact h.poll
  | turn ip =>
    have hturn := h.turn ip
    simp only [Scene.step, Scene.meet]
    split
    · exact hturn _
    · exact hturn _

/-- No play disturbs the pool of a scene. -/
theorem play {σ : Type} {x : Scene σ} (h : Undisturbed c x.pool)
    (world : IpAddr → Surroundings σ) (choices : List Choice) :
    Undisturbed c (x.play world choices).1.pool :=
  Machine.run_induction (motive := fun (x : Scene σ) _ => Undisturbed c x.pool) h
    (fun _ _ choice h => h.choose world choice) choices

end Undisturbed

/-- The worker of a device is where it would be alone after the turns it has taken, and has shown
    what it would show alone. -/
structure Follows {σ : Type} (world : Surroundings σ) (c : ProbeConfig) (t : Target) (start : Stats)
    (state : σ) (x : Scene σ) (past : Trace) (taken : List Taken) (w : Worker) (s : Stats) :
    Prop where
  member : x.pool.member? t.ip = some (w, s)
  reaches : Solo.Reaches world c (.created t start state) taken ⟨w, s, x.states t.ip⟩
  shows : Trace.about past t.ip = shown (noticesOf taken)

section Following

variable {σ : Type} {world : IpAddr → Surroundings σ} {c : ProbeConfig} {t : Target} {start : Stats}
  {state : σ} {x : Scene σ} {past : Trace} {taken : List Taken}

/-- A worker takes its own turn as it would alone. -/
theorem Follows.turn_self (h : Follows (world t.ip) c t start state x past taken w s)
    (alone : Undisturbed c x.pool) (running : w.phase.isRunning = true)
    (uncancelled : ∀ state, (world t.ip).isCancelled state = false) :
    let solo : Solo σ := ⟨w, s, x.states t.ip⟩
    let k := solo.taken (world t.ip) c
    Follows (world t.ip) c t start state (x.step world (.turn t.ip)).1
      (past ++ (x.step world (.turn t.ip)).2) (taken ++ [k]) { w with phase := k.step.outcome }
      k.step.stats := by
  intro solo k
  obtain ⟨hmember, hreaches, hshows⟩ := h
  have hrun := running?_eq_some_iff.mpr ⟨hmember, running⟩
  have hip : w.target.ip = t.ip := ip_of_member? hmember
  rw [Scene.step_turn_of_running hrun (alone.free_of_running hrun) uncancelled, alone.config]
  have hmember' := member?_stepped_self hmember k.step
  refine ⟨hmember', ?_, ?_⟩
  · have hnext := hreaches.trans (.single running)
    simpa [Solo.next, solo] using hnext
  · -- What the worker shows is of its own device, with the counters that it leaves behind.
    have hown := solo.taken_notices (world t.ip) c
    obtain ⟨-, d, hd, hstats⟩ := member?_eq_some_iff.mp hmember'
    rw [← hip] at hd
    have hnew := about_entries_self hd (hstats ▸ hown)
    rw [hip] at hnew
    have hlast : noticesOf [k] = k.step.notices := List.append_nil _
    rw [Trace.about_append, hshows, hnew, noticesOf_append, shown_append, hlast]

/-- The turns of the others do not touch a worker. -/
theorem Follows.turn_other {ip : IpAddr} (h : Follows (world t.ip) c t start state x past taken w s)
    (alone : Undisturbed c x.pool) (hip : t.ip ≠ ip)
    (uncancelled : ∀ state, (world ip).isCancelled state = false) :
    Follows (world t.ip) c t start state (x.step world (.turn ip)).1
      (past ++ (x.step world (.turn ip)).2) taken w s := by
  obtain ⟨hmember, hreaches, hshows⟩ := h
  cases hrun : x.pool.running? ip with
  | none =>
    rw [Scene.step_turn_of_not_running hrun, List.append_nil]
    exact ⟨hmember, hreaches, hshows⟩
  | some other =>
    obtain ⟨v, sv⟩ := other
    obtain rfl : v.target.ip = ip := ip_of_member? (running?_eq_some_iff.mp hrun).1
    rw [Scene.step_turn_of_running hrun (alone.free_of_running hrun) uncancelled, alone.config]
    refine ⟨(member?_stepped_of_ne hip _).trans hmember, ?_, ?_⟩
    · simpa [hip] using hreaches
    · -- What another worker shows is not of this device.
      have hown := Solo.taken_notices (world v.target.ip) c ⟨v, sv, x.states v.target.ip⟩
      rw [Trace.about_append, hshows]
      dsimp only
      rw [about_entries_of_ne hip hown, List.append_nil]

/-- Every choice leaves a worker where it would be alone. -/
theorem Follows.step (h : Follows (world t.ip) c t start state x past taken w s)
    (alone : Undisturbed c x.pool) (uncancelled : ∀ ip state, (world ip).isCancelled state = false)
    (choice : Choice) :
    ∃ taken' w' s', Follows (world t.ip) c t start state (x.step world choice).1
      (past ++ (x.step world choice).2) taken' w' s' := by
  -- A look shows nothing of any device, and a turn is one of this worker or of another.
  cases choice with
  | look =>
    refine ⟨taken, w, s, ?_, h.reaches, ?_⟩
    · simpa [Scene.step, Scene.meet, Pool.step, member?] using h.member
    · have hpoll : Trace.about (x.step world .look).2 t.ip = [] := about_poll x.pool t.ip
      rw [Trace.about_append, h.shows, hpoll, List.append_nil]
  | turn ip =>
    by_cases hip : t.ip = ip
    · subst hip
      cases hrunning : w.phase.isRunning with
      | true => exact ⟨_, _, _, h.turn_self alone hrunning (uncancelled t.ip)⟩
      | false =>
        have hrun : x.pool.running? t.ip = none := running?_eq_none h.member hrunning
        rw [Scene.step_turn_of_not_running hrun, List.append_nil]
        exact ⟨taken, w, s, h⟩
    · exact ⟨taken, w, s, h.turn_other alone hip (uncancelled ip)⟩

/-- Every list of choices leaves a worker where it would be alone. -/
theorem Follows.play (h : Follows (world t.ip) c t start state x [] [] w s)
    (alone : Undisturbed c x.pool) (uncancelled : ∀ ip state, (world ip).isCancelled state = false)
    (choices : List Choice) :
    ∃ taken w s, Follows (world t.ip) c t start state (x.play world choices).1
      (x.play world choices).2 taken w s := by
  refine (Machine.run_induction (motive := fun (x : Scene σ) past =>
    Undisturbed c x.pool ∧ ∃ taken w s, Follows (world t.ip) c t start state x past taken w s)
    ⟨alone, [], w, s, h⟩ ?_ choices).2
  rintro x past choice ⟨alone, taken, w, s, h⟩
  exact ⟨alone.choose world choice, h.step alone uncancelled choice⟩

/-- Where a worker has ended, its life alone has ended the same way. -/
theorem Follows.ended {world : Surroundings σ} (h : Follows world c t start state x past taken w s)
    (still : w.phase.isRunning = false) :
    let life := live world c t start state
    w.phase = life.outcome.phase ∧ s = life.stats ∧
      shown (noticesOf taken) = shown life.notices := by
  obtain ⟨past', hreach, hnotices⟩ := run_reaches world c t start state (p := .created) rfl
  -- A life alone reaches its end by turns as well, and there is only one way to an end.
  obtain ⟨rfl, heq⟩ := h.reaches.unique hreach still (End.isRunning_phase _)
  simp only [Solo.mk.injEq] at heq
  obtain ⟨rfl, rfl, -⟩ := heq
  exact ⟨rfl, rfl, congrArg shown hnotices⟩

end Following

/-! ## Main result -/

/-- A new pool in a run that is not cancelled is undisturbed. -/
theorem undisturbed_of_spawn {c : ProbeConfig} {r : Registry} {socket : Nat → Except IoError Unit}
    {t : Trace} (spawned : spawn c r false socket = .ok (p, t)) : Undisturbed c p := by
  have hroster := roster_of_spawn spawned
  obtain ⟨rfl, -⟩ := eq_of_spawn spawned
  exact ⟨hroster, rfl, .inl rfl, nofun⟩

/-- In a pool that was just created, every device has a worker that has not begun. -/
theorem member?_of_spawn {c : ProbeConfig} {r : Registry} {cancelled : Bool}
    {socket : Nat → Except IoError Unit} {t : Trace}
    (spawned : spawn c r cancelled socket = .ok (p, t)) {d : Device} (hd : d ∈ r.devices) :
    p.member? d.ip = some (⟨.ofDevice c d, .created⟩, d.stats) := by
  have hdistinct := (roster_of_spawn spawned).distinct
  obtain ⟨rfl, -⟩ := eq_of_spawn spawned
  have hmem : ⟨.ofDevice c d, .created⟩ ∈
      r.toList.map fun d => { target := .ofDevice c d : Worker } :=
    List.mem_map.mpr ⟨d, r.toList_perm.mem_iff.mpr hd, rfl⟩
  exact member?_eq_some_iff.mpr ⟨find?_of_mem hdistinct hmem, d, Registry.get?_of_mem hd, rfl⟩

section Spawned

variable {σ : Type} {c : ProbeConfig} {registry : Registry} {socket : Nat → Except IoError Unit}
  {opening : Trace} {world : IpAddr → Surroundings σ} {d : Device}

/-- In a pool that was just created and is then left alone, every worker is where it would be
    alone. -/
theorem exists_follows (spawned : spawn c registry false socket = .ok (p, opening))
    (uncancelled : ∀ ip state, (world ip).isCancelled state = false) (states : IpAddr → σ)
    (choices : List Choice) (hd : d ∈ registry.devices) :
    ∃ taken w s, Follows (world d.ip) c (.ofDevice c d) d.stats (states d.ip)
      (Scene.play world ⟨p, states⟩ choices).1 (Scene.play world ⟨p, states⟩ choices).2
      taken w s := by
  have hbegin : Follows (world (Target.ofDevice c d).ip) c (.ofDevice c d) d.stats (states d.ip)
      ⟨p, states⟩ [] [] ⟨.ofDevice c d, .created⟩ d.stats :=
    ⟨member?_of_spawn spawned hd, .refl _, rfl⟩
  exact hbegin.play (undisturbed_of_spawn spawned) uncancelled choices

/-- A worker that is given its turns ends as it would alone. -/
theorem hasEnded_of_turns (spawned : spawn c registry false socket = .ok (p, opening))
    (uncancelled : ∀ ip state, (world ip).isCancelled state = false) (states : IpAddr → σ)
    (choices : List Choice) (hd : d ∈ registry.devices)
    (given : turnsLeft c d.stats .created ≤ choices.count (.turn d.ip)) :
    (Scene.play world ⟨p, states⟩ choices).1.pool.HasEnded d.ip
      (live (world d.ip) c (.ofDevice c d) d.stats (states d.ip)).outcome := by
  obtain ⟨taken, w, s, hfollows⟩ := exists_follows spawned uncancelled states choices hd
  -- The worker whose turns are counted is the one that is where it would be alone.
  obtain ⟨w', s', hmember, hleft⟩ :=
    Scene.exists_member?_play world ⟨p, states⟩ (member?_of_spawn spawned hd) choices
  obtain ⟨rfl, rfl⟩ : w' = w ∧ s' = s := by
    simpa using hmember.symm.trans hfollows.member
  have hzero : turnsLeft c s' w'.phase = 0 := by
    simp only [(undisturbed_of_spawn spawned).config] at hleft
    omega
  obtain ⟨hphase, -⟩ := hfollows.ended ((turnsLeft_eq_zero_iff c s' w'.phase).mp hzero)
  exact ⟨w', mem_of_member? hmember, ip_of_member? hmember, hphase⟩

/-- When all were given their turns, the next look of the owner ends its wait. -/
theorem waited_of_turns (spawned : spawn c registry false socket = .ok (p, opening))
    (uncancelled : ∀ ip state, (world ip).isCancelled state = false) (states : IpAddr → σ)
    (choices : List Choice)
    (given : ∀ d ∈ registry.devices, turnsLeft c d.stats .created ≤ choices.count (.turn d.ip)) :
    (Scene.play world ⟨p, states⟩ choices).1.pool.poll.1.stage = .waited := by
  have hq := (undisturbed_of_spawn spawned).play (x := ⟨p, states⟩) world choices
  have hips := (Scene.workerIps_play world ⟨p, states⟩ choices).trans (workerIps_of_spawn spawned)
  -- Each worker had as many turns as its life takes.
  have hended : ∀ ip ∈ (Scene.play world ⟨p, states⟩ choices).1.pool.workerIps,
      ∃ e, (Scene.play world ⟨p, states⟩ choices).1.pool.HasEnded ip e := by
    intro ip hip
    obtain ⟨d, hd, rfl⟩ := List.mem_map.mp (hips ▸ hip)
    have hd := registry.toList_perm.mem_iff.mp hd
    exact ⟨_, hasEnded_of_turns spawned uncancelled states choices hd (given d hd)⟩
  cases hq.stage with
  | inl hwaiting => simp [poll, hwaiting, hq.roster.isEmpty_collect (.inl hwaiting) hended]
  | inr hwaited => simp [poll, hwaited]

end Spawned

/-- Workers do not interfere, as long as nobody cancels the run. Whatever the interleaving, a
    worker that is given its turns ends as it would alone, and once all were given their turns, a
    look of the owner ends the wait; the run counts as cancelled only then. When the wait is over,
    and whatever happens to the pool from then on, the counters of each device, the end of its
    worker, and the probes and losses that were seen of it are those of a worker alone with the
    same device, configuration and surroundings. -/
theorem pool_follows_lone_workers {σ : Type} {c : ProbeConfig} {registry : Registry}
    {socket : Nat → Except IoError Unit} {p : Pool} {opening : Trace}
    (spawned : spawn c registry false socket = .ok (p, opening)) (world : IpAddr → Surroundings σ)
    (uncancelled : ∀ ip state, (world ip).isCancelled state = false) (states : IpAddr → σ)
    (choices : List Choice) :
    let life (d : Device) := live (world d.ip) c (.ofDevice c d) d.stats (states d.ip)
    let turnsGiven (d : Device) := turnsLeft c d.stats .created ≤ choices.count (.turn d.ip)
    let played := Scene.play world ⟨p, states⟩ choices
    let q := played.1.pool
    (∀ d ∈ registry.devices, turnsGiven d → q.HasEnded d.ip (life d).outcome) ∧
    ((∀ d ∈ registry.devices, turnsGiven d) → (played.1.step world .look).1.pool.stage = .waited) ∧
    (q.cancelled = true → q.stage = .waited) ∧
    (q.stage = .waited → ∀ later, ∀ d ∈ registry.devices,
      ((q.run later).1.registry.get? d.ip).map Device.stats = some (life d).stats ∧
      (∀ e, (d.ip, e) ∈ (q.run later).1.joined ↔ e = (life d).outcome) ∧
      Trace.about (opening ++ played.2 ++ (q.run later).2) d.ip = shown (life d).notices) := by
  intro life turnsGiven played q
  have hq : Undisturbed c q :=
    (undisturbed_of_spawn spawned).play (x := ⟨p, states⟩) world choices
  refine ⟨fun d hd => hasEnded_of_turns spawned uncancelled states choices hd,
    waited_of_turns spawned uncancelled states choices, hq.free, fun hstage later d hd => ?_⟩
  -- Everyone was collected, so nobody runs any more.
  have hall := (hq.roster.waited hstage).1
  obtain ⟨hworkers, hregistry, hnothing⟩ := run_of_still (hq.roster.not_running hall) later
  have hlater := hq.roster.run later
  obtain ⟨taken, w, s, hfollows⟩ := exists_follows spawned uncancelled states choices hd
  obtain ⟨hfind, d', hd', hstats⟩ := member?_eq_some_iff.mp hfollows.member
  have hw : w ∈ q.workers := List.mem_of_find?_eq_some hfind
  have hip : w.target.ip = d.ip := ip_of_member? hfollows.member
  obtain ⟨e, hjoined, hphase⟩ := hq.roster.exists_joined hall hw
  obtain ⟨hend, hfinal, hshown⟩ := hfollows.ended (by rw [hphase, End.isRunning_phase])
  refine ⟨?_, fun f => ⟨fun hf => ?_, ?_⟩, ?_⟩
  · have hget : q.registry.get? d.ip = some d' := hd'
    rw [hregistry, hget, Option.map_some, hstats, hfinal]
  · -- No worker has come to two ends, and its own is the one that it comes to alone.
    have hf := (hlater.listed d.ip f).mp (List.mem_append_left _ hf)
    exact phase_injective ((hlater.phase_of_hasEnded (hworkers ▸ hw) (hip ▸ hf)).symm.trans hend)
  · rintro rfl
    rw [hip, phase_injective (hphase.symm.trans hend)] at hjoined
    exact (joined_run_isPrefix q later).mem hjoined
  · obtain ⟨-, rfl⟩ := eq_of_spawn spawned
    have hplayed : Trace.about played.2 d.ip = _ := hfollows.shows
    rw [Trace.about_append, Trace.about_append, hplayed, hshown, hnothing, List.append_nil]
    rfl

/-- Three devices, one that answers a probe, one that no probe gets to, and one whose counter is at
    its end, where everyone has one turn after the other. -/
theorem pool_follows_three_workers :
    let registry : Registry := ⟨[⟨.v4 10 0 0 1, .v3, .epoch, {}⟩,
      ⟨.v6 (.replicate 8 1), .v2, .epoch, {}⟩,
      ⟨.v4 10 0 0 3, .v2, .epoch, { sent := Stats.counterMax }⟩], by decide⟩
    let world (_ : IpAddr) : Surroundings Simulation.Lone :=
      ⟨fun _ => false, Simulation.Lone.send, Simulation.Lone.receive⟩
    let states (ip : IpAddr) : Simulation.Lone :=
      { host := {}, peer := { ip, script := [.answer 1] } }
    let choices := (List.replicate 7 (registry.ips.map Choice.turn)).flatten
    ∃ p opening, spawn { maxProbes := 2 } registry false (fun _ => .ok ()) = .ok (p, opening) ∧
      (∀ ip state, (world ip).isCancelled state = false) ∧
      (Scene.play world ⟨p, states⟩ (choices ++ [.look])).1.pool.stage = .waited ∧
      ∀ d ∈ registry.devices, ∀ e,
        (d.ip, e) ∈ (Scene.play world ⟨p, states⟩ (choices ++ [.look])).1.pool.joined ↔
          e = (live (world d.ip) { maxProbes := 2 } (.ofDevice { maxProbes := 2 } d) d.stats
            (states d.ip)).outcome := by
  intro registry world states choices
  obtain ⟨⟨p, opening⟩, spawned⟩ : ∃ x, spawn { maxProbes := 2 } registry false (fun _ => .ok ()) =
    .ok x := ⟨_, rfl⟩
  have uncancelled : ∀ ip state, (world ip).isCancelled state = false := fun _ _ => rfl
  have given : ∀ d ∈ registry.devices,
      turnsLeft { maxProbes := 2 } d.stats .created ≤ choices.count (.turn d.ip) := by decide
  have hwaited : (Scene.play world ⟨p, states⟩ (choices ++ [.look])).1.pool.stage = .waited := by
    have hlook := (pool_follows_lone_workers spawned world uncancelled states choices).2.1 given
    rwa [Scene.play_snoc]
  obtain ⟨-, -, -, hends⟩ := pool_follows_lone_workers spawned world uncancelled states
    (choices ++ [.look])
  -- From here on the choices need not be evaluated.
  clear_value choices
  exact ⟨p, opening, spawned, uncancelled, hwaited, fun d hd => (hends hwaited [] d hd).2.1⟩

end Pool
end LossProbe
