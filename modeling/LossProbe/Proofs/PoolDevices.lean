import LossProbe.Proofs.PoolWorkers
import Mathlib.Data.List.Forall2

/-!
# The devices of a pool in any run

A pool may be cancelled, closed and given up at any moment. What a run does to one device is still
a series of turns of its own worker, and at most one abort after them, so an invariant of these is
an invariant of every run, whatever the other workers do (`Pool.run_member_induction`). What a run
does to all devices together is to count: none is added, removed, moved or given another version,
and no counter of probes or losses goes down (`Registry.Grows`), neither from one moment to the next
nor from one report to the next (`Pool.run_grows`).
-/

namespace LossProbe

namespace Probe

/-- What a worker that is aborted still shows besides its log: the loss that it has counted. -/
def owedNotices (s : Stats) : Phase → List Notice
  | .lost => [.loss s]
  | _ => []

/-- Of the end of a cycle that came to a loss, the report of the loss is all that is no log. -/
theorem shown_finish_lossNotices (c : ProbeConfig) (cancelled : Bool) (t : Target) (s : Stats) :
    shown (Worker.finish cancelled t s (lossNotices c t s)).notices = [.loss s] := by
  unfold Worker.finish lossNotices
  -- The warning and the log of the end come and go, the report stays.
  split <;> split <;> rfl

end Probe

namespace Pool

open Probe

variable {p : Pool} {ip other : IpAddr} {w : Worker} {s : Stats}

/-! ## One device -/

/-- What a turn shows of a device, where its worker runs. -/
theorem about_turn_self (h : p.member? ip = some (w, s)) (running : w.phase.isRunning = true)
    (m : Moment) :
    Trace.about (p.turn ip m).2 ip = shown (w.step p.config p.cancelled s m).notices := by
  obtain rfl : w.target.ip = ip := ip_of_member? h
  rw [turn_of_running (running?_eq_some_iff.mpr ⟨h, running⟩)]
  -- The counters that a report finds are those which the step leaves behind.
  obtain ⟨-, d, hd, hstats⟩ :=
    member?_eq_some_iff.mp (member?_stepped_self h (w.step p.config p.cancelled s m))
  exact about_entries_self hd (hstats ▸ Worker.step_notices p.config p.cancelled w s m)

/-- A turn shows nothing of the devices of other workers. -/
theorem about_turn_of_ne (h : other ≠ ip) (m : Moment) : Trace.about (p.turn ip m).2 other = [] := by
  obtain hturn | ⟨w, s, hmember, -, hturn⟩ := turn_cases p ip m <;> rw [hturn]
  · rfl
  · obtain rfl : w.target.ip = ip := ip_of_member? hmember
    exact about_entries_of_ne h (Worker.step_notices p.config p.cancelled w s m)

/-- A worker that is aborted reports a loss that it has counted. -/
theorem about_owed_self {d : Device} (hd : p.registry.get? w.target.ip = some d) :
    Trace.about (p.owed w) w.target.ip = owedNotices d.stats w.phase := by
  obtain ⟨t, phase⟩ := w
  have hd : p.registry.get? t.ip = some d := hd
  cases phase with
  | lost =>
    simp only [owed, hd, owedNotices]
    rw [about_entries_self hd (Worker.finish_lossNotices_isOf p.cancelled)]
    exact shown_finish_lossNotices p.config p.cancelled t d.stats
  | _ => rfl

/-- An aborted worker shows nothing of other devices. -/
theorem about_owed_of_ne (h : other ≠ w.target.ip) : Trace.about (p.owed w) other = [] := by
  unfold owed
  split
  · exact about_entries_of_ne h (Worker.finish_lossNotices_isOf p.cancelled)
  · rfl

/-- Of all that is shown when workers are aborted, only its own part is about a device. -/
theorem about_flatMap_owed {ws : List Worker} (distinct : (ws.map fun w => w.target.ip).Nodup)
    (hw : w ∈ ws) :
    Trace.about (ws.flatMap p.owed) w.target.ip = Trace.about (p.owed w) w.target.ip := by
  have hnone (vs : List Worker) (h : w.target.ip ∉ vs.map fun v => v.target.ip) :
      Trace.about (vs.flatMap p.owed) w.target.ip = [] := by
    induction vs with
    | nil => rfl
    | cons v vs ih =>
      obtain ⟨hv, hvs⟩ := not_or.mp (List.mem_cons.not.mp h)
      rw [List.flatMap_cons, Trace.about_append, about_owed_of_ne hv, ih hvs, List.append_nil]
  -- Only one of the workers is after this device, and before and behind it stands nothing of it.
  induction ws with
  | nil => cases hw
  | cons v vs ih =>
    obtain ⟨hv, hvs⟩ := List.nodup_cons.mp distinct
    rw [List.flatMap_cons, Trace.about_append]
    obtain rfl | hw := List.mem_cons.mp hw
    · rw [hnone vs hv, List.append_nil]
    · have hne : w.target.ip ≠ v.target.ip := fun h => hv (List.mem_map.mpr ⟨w, hw, h⟩)
      rw [about_owed_of_ne hne, ih hvs hw, List.nil_append]

/-- What is shown of a device at a deadline. -/
theorem about_deadline (roster : p.Roster) (hstage : p.stage = .closing)
    (h : p.member? ip = some (w, s)) : Trace.about p.deadline.2 ip = owedNotices s w.phase := by
  obtain rfl : w.target.ip = ip := ip_of_member? h
  obtain ⟨-, d, hd, rfl⟩ := member?_eq_some_iff.mp h
  obtain ⟨-, hne⟩ | ⟨-, -, htrace⟩ := deadline_cases p
  · exact absurd hstage hne
  · have howed := about_flatMap_owed (p := p) roster.distinct (mem_of_member? h)
    rw [about_owed_self hd] at howed
    rw [htrace, Trace.about_append, ← List.singleton_append, Trace.about_append, howed]
    exact List.append_nil _

/-- An invariant of one device in every run. It holds before anything happens, and both the turns of
    the worker and its abort keep it; what else happens to the pool does not matter. -/
theorem run_member_induction {c : ProbeConfig} {t : Target}
    {motive : Phase → Stats → List Notice → Prop} {phase : Phase} (roster : p.Roster)
    (config : p.config = c) (member : p.member? t.ip = some (⟨t, phase⟩, s))
    (start : motive phase s [])
    (turn : ∀ phase s past (turn : Turn), phase.isRunning = true → motive phase s past →
      motive (Worker.step c turn.cancelled ⟨t, phase⟩ s turn.moment).outcome
        (Worker.step c turn.cancelled ⟨t, phase⟩ s turn.moment).stats
        (past ++ shown (Worker.step c turn.cancelled ⟨t, phase⟩ s turn.moment).notices))
    (abort : ∀ phase s past, phase.isRunning = true → motive phase s past →
      motive .aborted s (past ++ owedNotices s phase))
    (es : List Event) :
    ∃ phase s, (p.run es).1.member? t.ip = some (⟨t, phase⟩, s) ∧
      motive phase s (Trace.about (p.run es).2 t.ip) := by
  refine (Machine.run_induction (motive := fun (q : Pool) past => q.Roster ∧ q.config = c ∧
    ∃ phase s, q.member? t.ip = some (⟨t, phase⟩, s) ∧ motive phase s (Trace.about past t.ip))
    ⟨roster, config, phase, s, member, start⟩ ?_ es).2.2
  rintro q past e ⟨roster, config, phase, s, member, h⟩
  refine ⟨roster.step e, (step_config q e).trans config, ?_⟩
  simp only [Trace.about_append]
  -- An event that leaves the device alone shows nothing of it either.
  have unmoved {q' : Pool × Trace} (hmember : q'.1.member? t.ip = q.member? t.ip)
      (habout : Trace.about q'.2 t.ip = []) : ∃ phase s, q'.1.member? t.ip = some (⟨t, phase⟩, s) ∧
        motive phase s (Trace.about past t.ip ++ Trace.about q'.2 t.ip) :=
    ⟨phase, s, hmember.trans member, by rwa [habout, List.append_nil]⟩
  cases e with
  | turn ip m =>
    by_cases hip : t.ip = ip
    · subst hip
      cases hrunning : phase.isRunning with
      | true =>
        have hrun := running?_eq_some_iff.mpr ⟨member, hrunning⟩
        have hnext := turn phase s _ ⟨q.cancelled, m⟩ hrunning h
        have hshown : Trace.about (q.step (.turn t.ip m)).2 t.ip = _ :=
          about_turn_self member hrunning m
        rw [hshown, step, turn_of_running hrun, config]
        exact ⟨_, _, member?_stepped_self member _, hnext⟩
      | false =>
        have hturn : q.step (.turn t.ip m) = (q, []) :=
          turn_of_not_running (running?_eq_none member hrunning) m
        exact unmoved (by rw [hturn]) (by rw [hturn]; rfl)
    · refine unmoved ?_ (about_turn_of_ne hip m)
      obtain hturn | ⟨v, s', -, -, hturn⟩ := turn_cases q ip m <;> rw [step, hturn]
      exact member?_stepped_of_ne hip _
  | cancel => exact unmoved rfl rfl
  | poll => exact unmoved (by simp [member?, step]) (about_poll q t.ip)
  | close => exact unmoved (by simp [member?, step]) rfl
  | deadline =>
    obtain ⟨hdeadline, -⟩ | ⟨hstage, hdeadline, -⟩ := deadline_cases q
    · exact unmoved (by rw [step, hdeadline]) (by rw [step, hdeadline]; rfl)
    · have hshown : Trace.about (q.step .deadline).2 t.ip = _ :=
        about_deadline roster hstage member
      have hmember := member?_abortRunning member (q := (q.step .deadline).1)
        (by rw [step, hdeadline]) (by rw [step, hdeadline])
      rw [hshown, hmember]
      cases hrunning : phase.isRunning with
      | true => exact ⟨_, _, rfl, abort phase s _ hrunning h⟩
      | false =>
        -- Whoever has ended owes nothing.
        have howed : owedNotices s phase = [] := by
          cases phase <;> first | rfl | cases hrunning
        exact ⟨phase, s, rfl, by rwa [howed, List.append_nil]⟩

end Pool

/-! ## All devices -/

/-- Whether a device is what it was, with no less counted for it. -/
structure Device.Grows (d e : Device) : Prop where
  ip_eq : e.ip = d.ip
  version_eq : e.version = d.version
  discoveredAt_eq : e.discoveredAt = d.discoveredAt
  sent_le : d.stats.sent ≤ e.stats.sent
  lost_le : d.stats.lost ≤ e.stats.lost

namespace Registry

/-- Whether the devices are what they were, in the same order, with no less counted for them. -/
def Grows (r s : Registry) : Prop := List.Forall₂ Device.Grows r.devices s.devices

/-- Whether the counters of all devices are in order. -/
def Ordered (r : Registry) : Prop := ∀ d ∈ r.devices, d.stats.Ordered

variable {r s t : Registry} {ip : IpAddr} {f : Stats → Stats}

/-- A registry has grown into itself, by nothing. -/
theorem Grows.refl (r : Registry) : r.Grows r :=
  List.forall₂_same.mpr fun _ _ => ⟨rfl, rfl, rfl, UInt64.le_refl _, UInt64.le_refl _⟩

/-- What grows twice has grown. -/
theorem Grows.trans (hrs : r.Grows s) (hst : s.Grows t) : r.Grows t := by
  have htrans : ∀ {a b c : Device}, a.Grows b → b.Grows c → a.Grows c := fun h h' =>
    ⟨h'.ip_eq.trans h.ip_eq, h'.version_eq.trans h.version_eq,
      h'.discoveredAt_eq.trans h.discoveredAt_eq, UInt64.le_trans h.sent_le h'.sent_le,
      UInt64.le_trans h.lost_le h'.lost_le⟩
  unfold Grows at hrs hst ⊢
  -- The lists as variables, since the induction needs the third one general.
  generalize r.devices = as, s.devices = bs, t.devices = cs at hrs hst ⊢
  induction hrs generalizing cs with
  | nil => cases hst; exact .nil
  | cons h _ ih =>
    obtain - | ⟨h', hrest⟩ := hst
    exact .cons (htrans h h') (ih _ hrest)

/-- A registry that grows keeps its addresses. -/
theorem Grows.ips_eq (h : r.Grows s) : s.ips = r.ips := by
  have hmap : List.Forall₂ Eq r.ips s.ips :=
    List.forall₂_map_left_iff.mpr (List.forall₂_map_right_iff.mpr (h.imp fun _ _ h => h.ip_eq.symm))
  rw [List.forall₂_eq_eq_eq] at hmap
  exact hmap.symm

/-- A registry that grows keeps its devices. -/
theorem Grows.exists_get? (h : r.Grows s) {d : Device} (hd : d ∈ r.devices) :
    ∃ e, s.get? d.ip = some e := by
  have hip : d.ip ∈ s.ips := h.ips_eq ▸ List.mem_map.mpr ⟨d, hd, rfl⟩
  obtain ⟨e, he, hip⟩ := List.mem_map.mp hip
  exact ⟨e, hip ▸ get?_of_mem he⟩

/-- Counting for one device lets a registry grow. -/
theorem grows_updateStats (h : ∀ d, r.get? ip = some d →
    d.stats.sent ≤ (f d.stats).sent ∧ d.stats.lost ≤ (f d.stats).lost) :
    r.Grows (r.updateStats ip f) := by
  refine List.forall₂_map_right_iff.mpr (List.forall₂_same.mpr fun d hd => ?_)
  split
  · rename_i hip
    obtain ⟨hsent, hlost⟩ := h d (hip ▸ get?_of_mem hd)
    exact ⟨rfl, rfl, rfl, hsent, hlost⟩
  · exact ⟨rfl, rfl, rfl, UInt64.le_refl _, UInt64.le_refl _⟩

/-- Counters stay in order where those of the device that is updated do. -/
theorem Ordered.updateStats (h : r.Ordered)
    (hf : ∀ d, r.get? ip = some d → (f d.stats).Ordered) : (r.updateStats ip f).Ordered := by
  intro e he
  obtain ⟨d, hd, rfl⟩ := List.mem_map.mp he
  split
  · rename_i hip
    exact hf d (hip ▸ get?_of_mem hd)
  · exact h d hd

/-- The counters of a device that is found are in order where all are. -/
theorem Ordered.of_get? (h : r.Ordered) {d : Device} (hd : r.get? ip = some d) : d.stats.Ordered :=
  h d (List.mem_of_find?_eq_some hd)

end Registry

/-- A turn keeps the counters in order and lets none of probes or losses go down. -/
theorem Probe.Move.grows {c : ProbeConfig} {t : Target} {s : Stats} {turn : Turn} {p : Phase}
    {step : Step Phase} (hm : Move c t s turn p step) (ordered : s.Ordered) :
    step.stats.Ordered ∧ s.sent ≤ step.stats.sent ∧ s.lost ≤ step.stats.lost := by
  have hsent (room : s.sent ≠ Stats.counterMax) : s.sent ≤ s.addSent.sent :=
    UInt64.le_iff_toNat_le.mpr (by rw [Stats.toNat_sent_addSent room]; omega)
  -- A probe raises what was sent, a loss what was lost, and nothing else moves either.
  cases hm with
  | sent idle free room left => exact ⟨ordered.addSent room, hsent room, UInt64.le_refl _⟩
  | sentLast idle free room spent => exact ⟨ordered.addSent room, hsent room, UInt64.le_refl _⟩
  | replied answered => exact ⟨ordered.addReply, UInt64.le_refl _, UInt64.le_refl _⟩
  | lost missed unlost =>
    refine ⟨ordered.addLoss unlost, UInt64.le_refl _, UInt64.le_iff_toNat_le.mpr ?_⟩
    rw [Stats.toNat_lost_addLoss unlost]
    omega
  | _ => exact ⟨ordered, UInt64.le_refl _, UInt64.le_refl _⟩

namespace Pool

open Probe

variable {p : Pool}

/-- Every event lets the registry grow. -/
theorem step_grows (ordered : p.registry.Ordered) (e : Event) :
    (p.step e).1.registry.Ordered ∧ p.registry.Grows (p.step e).1.registry := by
  have same {q : Pool} (h : q.registry = p.registry) :
      q.registry.Ordered ∧ p.registry.Grows q.registry := by
    rw [h]
    exact ⟨ordered, .refl _⟩
  cases e with
  | turn ip m =>
    obtain hturn | ⟨w, s, hmember, -, hturn⟩ := turn_cases p ip m <;> rw [step, hturn]
    · exact same rfl
    · -- The counters that the worker begins its step with are those of its device.
      obtain ⟨-, d, hd, rfl⟩ := member?_eq_some_iff.mp hmember
      have hmove := Worker.step_move (c := p.config) (t := w.target) (ordered.of_get? hd) w.phase
        ⟨p.cancelled, m⟩
      obtain ⟨hordered, hgrows⟩ := hmove.grows (ordered.of_get? hd)
      refine ⟨ordered.updateStats fun _ _ => hordered, Registry.grows_updateStats fun e he => ?_⟩
      cases hd.symm.trans he
      exact hgrows
  | cancel => exact same rfl
  | poll => exact same (registry_poll p)
  | close => exact same (registry_close p)
  | deadline =>
    obtain ⟨h, -⟩ | ⟨-, h, -⟩ := deadline_cases p <;> rw [step, h] <;> exact same rfl

/-- A report shows the registry as the event leaves it. -/
theorem step_reports (p : Pool) (e : Event) :
    ∀ x ∈ (p.step e).2.reports, x.2 = (p.step e).1.registry := by
  intro x hx
  obtain ⟨a, ha, hsome⟩ := List.mem_filterMap.mp hx
  obtain ⟨l, rfl⟩ | ⟨w, -, -, s, n, -, rfl⟩ := step_entries p e a ha
  · cases hsome
  · cases n <;> cases hsome
    rfl

/-- From the beginning of a run to each report and to its end, the registry grows, and the counters
    that a report shows are in order. -/
theorem run_grows (ordered : p.registry.Ordered) (es : List Event) :
    let shown := p.registry :: (p.run es).2.reports.map Prod.snd ++ [(p.run es).1.registry]
    shown.Pairwise Registry.Grows ∧ ∀ r ∈ shown, r.Ordered := by
  refine Machine.run_induction (motive := fun (q : Pool) (past : Trace) =>
    let shown := p.registry :: past.reports.map Prod.snd ++ [q.registry]
    shown.Pairwise Registry.Grows ∧ ∀ r ∈ shown, r.Ordered) ?_ ?_ es
  · simpa [Trace.reports, Registry.Grows.refl] using ordered
  · rintro q past e ⟨hpairwise, hordered⟩
    have hnow : q.registry.Ordered := hordered _ (List.mem_append_right _ (.head _))
    obtain ⟨hnext, hgrows⟩ := step_grows hnow e
    obtain ⟨hpast, -, hlast⟩ := List.pairwise_append.mp hpairwise
    have hlast : ∀ r ∈ p.registry :: (Trace.reports past).map Prod.snd,
        r.Grows (q.step e).1.registry := fun r hr =>
      (hlast r hr _ (List.mem_singleton_self _)).trans hgrows
    -- Whatever this event reports is the registry that it leaves behind.
    have hnew : ∀ r ∈ (q.step e).2.reports.map Prod.snd ++ [(q.step e).1.registry],
        r = (q.step e).1.registry := by
      intro r hr
      obtain hr | hr := List.mem_append.mp hr
      · obtain ⟨x, hx, rfl⟩ := List.mem_map.mp hr
        exact step_reports q e x hx
      · exact List.mem_singleton.mp hr
    have hshown : p.registry :: (Trace.reports (past ++ (q.step e).2)).map Prod.snd ++
        [(q.step e).1.registry] = (p.registry :: (Trace.reports past).map Prod.snd) ++
          ((q.step e).2.reports.map Prod.snd ++ [(q.step e).1.registry]) := by
      rw [Trace.reports_append, List.map_append]
      simp
    rw [hshown]
    refine ⟨List.pairwise_append.mpr ⟨hpast, ?_, fun r hr r' hr' => ?_⟩, fun r hr => ?_⟩
    · refine List.pairwise_of_forall_mem_list fun r hr r' hr' => ?_
      rw [hnew r hr, hnew r' hr']
      exact .refl _
    · rw [hnew r' hr']
      exact hlast r hr
    · obtain hr | hr := List.mem_append.mp hr
      · exact hordered r (List.mem_append_left _ hr)
      · rw [hnew r hr]
        exact hnext

end Pool
end LossProbe
