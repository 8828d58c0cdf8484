import LossProbe.Proofs.PoolTurns
import Mathlib.Data.List.Induction
import Mathlib.Data.List.Perm.Subperm

/-!
# Who has ended, and who was collected

A pool keeps two lists of workers that have ended: those its owner has not looked at yet, and those
that were collected. `Roster` says that a worker which has ended stands in exactly one of them,
once, with the end it came to, and what the stages of the owner mean for the lists. Every event
keeps it (`Roster.step`), so in every run a worker is collected exactly if the owner looked after
its end and before the pool was closed (`mem_joined_iff`), and in the end every worker was
collected or counted as aborted (`pool_accounts_for_workers`).
-/

namespace LossProbe.Pool

open Probe

variable {p : Pool} {ip : IpAddr} {w : Worker} {s : Stats}

/-- Whether a worker of a device has ended in this way. -/
def HasEnded (p : Pool) (ip : IpAddr) (e : End) : Prop :=
  ∃ w ∈ p.workers, w.target.ip = ip ∧ w.phase = e.phase

/-- The addresses of the devices that have a worker. -/
def workerIps (p : Pool) : List IpAddr := p.workers.map fun w => w.target.ip

/-- A pool whose lists agree with its workers. -/
structure Roster (p : Pool) : Prop where
  /-- No device has two workers. -/
  distinct : p.workerIps.Nodup
  /-- No worker is listed twice. -/
  once : ((p.joined ++ p.ended).map Prod.fst).Nodup
  /-- The workers that have ended are listed, with the ends they came to. -/
  listed : ∀ ip e, (ip, e) ∈ p.joined ++ p.ended ↔ p.HasEnded ip e
  /-- Nobody is given up before the pool is closed. -/
  kept : p.stage ≠ .closed → p.aborted = 0 ∧ ∀ w ∈ p.workers, w.phase ≠ .aborted
  /-- A wait is over when all workers were collected, and cancels the run. -/
  waited : p.stage = .waited → p.joined.length = p.workers.length ∧ p.cancelled = true
  /-- A pool is closed when all workers were collected or given up. -/
  closed : p.stage = .closed → p.joined.length + p.aborted = p.workers.length ∧
    ∀ w ∈ p.workers, w.phase.isRunning = false

/-- The end of a worker can be read from its phase. -/
theorem endOf?_eq_some_iff {phase : Phase} {e : End} : endOf? phase = some e ↔ phase = e.phase := by
  cases phase <;> cases e <;> simp [endOf?, End.phase]

/-- Two ends that show the same phase are the same. -/
theorem phase_injective {e f : End} (h : e.phase = f.phase) : e = f := by
  cases e <;> cases f <;> cases h <;> rfl

/-- A worker is the only one of its device. -/
theorem eq_of_ip_eq (h : p.workerIps.Nodup) {v : Worker} (hw : w ∈ p.workers) (hv : v ∈ p.workers)
    (hip : w.target.ip = v.target.ip) : w = v :=
  List.inj_on_of_nodup_map h hw hv hip

namespace Roster

/-- A worker has come to no other end than its own. -/
theorem phase_of_hasEnded (h : p.Roster) (hw : w ∈ p.workers) {e : End}
    (ended : p.HasEnded w.target.ip e) : w.phase = e.phase := by
  obtain ⟨v, hv, hip, hphase⟩ := ended
  rw [← hphase, eq_of_ip_eq h.distinct hv hw hip]

/-- A device whose worker runs is not listed. -/
theorem not_listed (h : p.Roster) (hw : w ∈ p.workers) (running : w.phase.isRunning = true)
    (e : End) : (w.target.ip, e) ∉ p.joined ++ p.ended := by
  intro hmem
  rw [h.phase_of_hasEnded hw ((h.listed _ _).mp hmem), End.isRunning_phase] at running
  cases running

/-- Only devices with a worker are listed. -/
theorem listed_subset (h : p.Roster) : (p.joined ++ p.ended).map Prod.fst ⊆ p.workerIps := by
  intro ip hip
  obtain ⟨⟨ip, e⟩, hmem, rfl⟩ := List.mem_map.mp hip
  obtain ⟨w, hw, rfl, -⟩ := (h.listed _ _).mp hmem
  exact List.mem_map.mpr ⟨w, hw, rfl⟩

/-- No more workers are collected than there are. -/
theorem joined_length_le (h : p.Roster) : p.joined.length ≤ p.workers.length := by
  have hle := (h.once.subperm h.listed_subset).length_le
  simp only [workerIps, List.length_map, List.length_append] at hle
  omega

/-- Where as many were collected as there are workers, all of them have ended. -/
theorem exists_joined (h : p.Roster) (all : p.joined.length = p.workers.length)
    (hw : w ∈ p.workers) : ∃ e, (w.target.ip, e) ∈ p.joined ∧ w.phase = e.phase := by
  have honce : (p.joined.map Prod.fst).Nodup := by
    have := h.once
    rw [List.map_append] at this
    exact this.of_append_left
  have hsubset : p.joined.map Prod.fst ⊆ p.workerIps := fun ip hip =>
    h.listed_subset (List.map_subset _ (List.subset_append_left _ _) hip)
  -- As many addresses were collected as there are, none of them twice, so these are all.
  have hperm := (honce.subperm hsubset).perm_of_length_le (by simp [workerIps, all])
  have hmem : w.target.ip ∈ p.joined.map Prod.fst :=
    hperm.mem_iff.mpr (List.mem_map.mpr ⟨w, hw, rfl⟩)
  obtain ⟨⟨ip, e⟩, hjoined, rfl⟩ := List.mem_map.mp hmem
  exact ⟨e, hjoined, h.phase_of_hasEnded hw ((h.listed _ _).mp (List.mem_append_left _ hjoined))⟩

/-- Before a pool is closed, whoever does not run has come to an end. -/
theorem exists_hasEnded (h : p.Roster) (hopen : p.stage ≠ .closed) (hw : w ∈ p.workers)
    (still : w.phase.isRunning = false) : ∃ e, p.HasEnded w.target.ip e := by
  have hkept := (h.kept hopen).2 w hw
  cases hphase : w.phase with
  | stopped reason => exact ⟨.stopped reason, w, hw, rfl, hphase⟩
  | faulted fault => exact ⟨.faulted fault, w, hw, rfl, hphase⟩
  | aborted => exact absurd hphase hkept
  | _ => simp [hphase, Phase.isRunning] at still

/-- A pool is empty once every worker was collected. -/
theorem isEmpty_iff (h : p.Roster) : p.isEmpty = true ↔ p.joined.length = p.workers.length := by
  have hle := h.joined_length_le
  unfold isEmpty size
  rw [decide_eq_true_iff]
  omega

/-- In a pool where all were collected, no worker runs. -/
theorem not_running (h : p.Roster) (all : p.joined.length = p.workers.length) :
    ∀ w ∈ p.workers, w.phase.isRunning = false := by
  intro w hw
  obtain ⟨e, -, hphase⟩ := h.exists_joined all hw
  rw [hphase, End.isRunning_phase]

end Roster

/-! ## Every event keeps the roster -/

/-- No event changes which devices have a worker. -/
theorem step_workerIps (p : Pool) (e : Event) : (p.step e).1.workerIps = p.workerIps := by
  have htargets := congrArg (List.map Target.ip) (step_targets p e)
  rwa [List.map_map, List.map_map] at htargets

/-- Who has ended after a step of a worker. -/
theorem hasEnded_stepped_iff (hw : w ∈ p.workers) (step : Step Phase) (ip : IpAddr) (e : End) :
    (p.stepped w.target.ip step).HasEnded ip e ↔
      if ip = w.target.ip then step.outcome = e.phase else p.HasEnded ip e := by
  simp only [HasEnded, stepped, setPhase, List.mem_map]
  -- A phase was changed for one device alone, so the two directions part at its address.
  constructor
  · rintro ⟨-, ⟨v, hv, rfl⟩, hip, hphase⟩
    by_cases hself : v.target.ip = w.target.ip
    · rw [if_pos hself] at hip hphase
      rwa [if_pos (hip.symm.trans hself)]
    · rw [if_neg hself] at hip hphase
      rw [if_neg (hip ▸ hself)]
      exact ⟨v, hv, hip, hphase⟩
  · intro hended
    by_cases hip : ip = w.target.ip
    · rw [if_pos hip] at hended
      exact ⟨_, ⟨w, hw, rfl⟩, by simp [hip], by simpa using hended⟩
    · rw [if_neg hip] at hended
      obtain ⟨v, hv, rfl, hphase⟩ := hended
      exact ⟨v, ⟨v, hv, if_neg hip⟩, rfl, hphase⟩

/-- What holds of the phases of all workers still does where it holds of the new one. -/
theorem forall_setPhase {P : Phase → Prop} {ws : List Worker} (h : ∀ w ∈ ws, P w.phase)
    (ip : IpAddr) {phase : Phase} (hphase : P phase) :
    ∀ w ∈ setPhase ws ip phase, P w.phase := by
  intro w hw
  obtain ⟨v, hv, rfl⟩ := List.mem_map.mp hw
  split
  · exact hphase
  · exact h v hv

namespace Roster

/-- A turn keeps the roster: a worker that ends by it is listed then, and was not listed before. -/
theorem turn (h : p.Roster) (ip : IpAddr) (m : Moment) : (p.turn ip m).1.Roster := by
  have hips : (p.turn ip m).1.workerIps = p.workerIps := step_workerIps p (.turn ip m)
  obtain hturn | ⟨w, s, hmember, running, hturn⟩ := turn_cases p ip m
  · rwa [hturn]
  rw [hturn] at hips ⊢
  have hw : w ∈ p.workers := mem_of_member? hmember
  obtain rfl : w.target.ip = ip := ip_of_member? hmember
  have hnew := h.not_listed hw running
  have hphase : (w.step p.config p.cancelled s m).outcome ≠ .aborted :=
    Worker.step_ne_aborted _ _ s m fun haborted => by simp [haborted, Phase.isRunning] at running
  have hopen : p.stage ≠ .waited ∧ p.stage ≠ .closed := by
    -- The worker that takes its turn runs, which it does not once the owner is done.
    refine ⟨fun hstage => ?_, fun hstage => ?_⟩
    · rw [h.not_running (h.waited hstage).1 w hw] at running
      cases running
    · rw [(h.closed hstage).2 w hw] at running
      cases running
  generalize w.step p.config p.cancelled s m = step at hips hphase ⊢
  have hlists : (p.stepped w.target.ip step).joined ++ (p.stepped w.target.ip step).ended =
      p.joined ++ p.ended ++ ((endOf? step.outcome).map fun e => (w.target.ip, e)).toList :=
    (List.append_assoc ..).symm
  have hkept := h.kept hopen.2
  refine ⟨hips ▸ h.distinct, ?_, fun ip e => ?_,
    fun _ => ⟨hkept.1, forall_setPhase (P := (· ≠ .aborted)) hkept.2 _ hphase⟩,
    fun hstage => absurd hstage hopen.1,
    fun hstage => absurd hstage hopen.2⟩
  · rw [hlists]
    cases he : endOf? step.outcome with
    | none => simpa using h.once
    | some e =>
      have hfresh : w.target.ip ∉ (p.joined ++ p.ended).map Prod.fst := by
        intro hmem
        obtain ⟨⟨ip, e'⟩, hpair, hip⟩ := List.mem_map.mp hmem
        exact hnew e' (hip ▸ hpair)
      simpa using h.once.concat hfresh
  · -- The worker was not listed while it ran; what is listed of the others stays as it is.
    rw [hlists, List.mem_append, hasEnded_stepped_iff hw]
    by_cases hip : ip = w.target.ip
    · subst hip
      have hnone := hnew e
      rw [if_pos rfl, ← endOf?_eq_some_iff]
      cases endOf? step.outcome <;> simp [hnone, eq_comm]
    · rw [if_neg hip, h.listed]
      simp [Ne.symm hip]

/-- Collecting moves workers from one list to the other. -/
theorem collect (h : p.Roster) (hopen : p.stage = .waiting ∨ p.stage = .closing) :
    p.collect.1.Roster where
  distinct := h.distinct
  once := by simpa [Pool.collect] using h.once
  listed ip e := by simpa [Pool.collect, HasEnded] using h.listed ip e
  kept := h.kept
  waited hstage := by
    have hstage : p.stage = .waited := hstage
    simp [hstage] at hopen
  closed hstage := by
    have hstage : p.stage = .closed := hstage
    simp [hstage] at hopen

/-- A look of the owner keeps the roster: it moves the listed workers, and ends a wait or the
    closing only where all were collected. -/
theorem poll (h : p.Roster) : p.poll.1.Roster := by
  obtain ⟨hpoll, -⟩ | ⟨hpoll, -, hstage⟩ | ⟨hpoll, hempty, hstage⟩ | ⟨hpoll, hempty, hstage⟩ :=
    poll_cases p
  · rwa [hpoll]
  · rw [hpoll]
    exact h.collect hstage
  · -- The last worker was collected, and the wait is over.
    have hcollect := h.collect (.inl hstage)
    have hall := hcollect.isEmpty_iff.mp hempty
    rw [hpoll]
    exact ⟨hcollect.distinct, hcollect.once, hcollect.listed, fun _ => h.kept (by simp [hstage]),
      fun _ => ⟨hall, rfl⟩, fun hstage => by cases hstage⟩
  · -- The last worker was collected before the deadline, so nobody is given up.
    have hcollect := h.collect (.inr hstage)
    have hall := hcollect.isEmpty_iff.mp hempty
    have hkept := h.kept (by simp [hstage])
    rw [hpoll]
    refine ⟨hcollect.distinct, hcollect.once, hcollect.listed, fun _ => hkept,
      fun hstage => (by cases hstage), fun _ => ⟨?_, hcollect.not_running hall⟩⟩
    simpa [Pool.collect, hkept.1] using hall

/-- Closing keeps the roster, since nobody is given up by it. -/
theorem close (h : p.Roster) : p.close.Roster := by
  unfold Pool.close
  split
  · exact ⟨h.distinct, h.once, h.listed, fun _ => h.kept (by simp_all), nofun, nofun⟩
  · exact ⟨h.distinct, h.once, h.listed, fun _ => h.kept (by simp_all), nofun, nofun⟩
  · exact h
  · exact h

/-- Aborting what runs changes nobody's end. -/
theorem hasEnded_abortRunning_iff (p : Pool) (ip : IpAddr) (e : End) :
    (∃ w ∈ abortRunning p.workers, w.target.ip = ip ∧ w.phase = e.phase) ↔ p.HasEnded ip e := by
  simp only [abortRunning, List.mem_map, HasEnded]
  constructor
  · rintro ⟨-, ⟨v, hv, rfl⟩, hip, hphase⟩
    split at hphase
    · -- To be aborted is no end of one's own.
      cases e <;> cases hphase
    · rename_i hrunning
      rw [if_neg hrunning] at hip
      exact ⟨v, hv, hip, hphase⟩
  · rintro ⟨v, hv, hip, hphase⟩
    have hrunning : ¬ v.phase.isRunning = true := by rw [hphase, End.isRunning_phase]; decide
    exact ⟨v, ⟨v, hv, if_neg hrunning⟩, hip, hphase⟩

/-- Nobody runs any more once all that ran were aborted. -/
theorem isRunning_abortRunning (ws : List Worker) :
    ∀ w ∈ abortRunning ws, w.phase.isRunning = false := by
  simp only [abortRunning, List.mem_map]
  rintro - ⟨v, hv, rfl⟩
  split
  · rfl
  · rename_i hrunning
    exact Bool.not_eq_true _ ▸ hrunning

/-- The deadline keeps the roster: who is not collected is counted as given up, and does not run. -/
theorem deadline (h : p.Roster) : p.deadline.1.Roster := by
  have hips : p.deadline.1.workerIps = p.workerIps := step_workerIps p .deadline
  obtain ⟨hdeadline, -⟩ | ⟨hstage, hdeadline, -⟩ := deadline_cases p
  · rwa [hdeadline]
  rw [hdeadline] at hips ⊢
  have hle := h.joined_length_le
  refine ⟨hips ▸ h.distinct, h.once, fun ip e => ?_, nofun, nofun, fun _ => ⟨?_, ?_⟩⟩
  · exact (h.listed ip e).trans (hasEnded_abortRunning_iff p ip e).symm
  · -- Those given up are the ones that were not collected.
    simp only [size, abortRunning, List.length_map]
    omega
  · exact isRunning_abortRunning p.workers

/-- Every event keeps the roster. -/
theorem step (h : p.Roster) (e : Event) : (p.step e).1.Roster := by
  cases e with
  | turn ip m => exact h.turn ip m
  | cancel =>
    exact ⟨h.distinct, h.once, h.listed, h.kept, fun hstage => ⟨(h.waited hstage).1, rfl⟩, h.closed⟩
  | poll => exact h.poll
  | close => exact h.close
  | deadline => exact h.deadline

/-- If everyone has ended, the owner finds no worker that is left. -/
theorem isEmpty_collect (h : p.Roster) (hopen : p.stage = .waiting ∨ p.stage = .closing)
    (ended : ∀ ip ∈ p.workerIps, ∃ e, p.HasEnded ip e) : p.collect.1.isEmpty = true := by
  have hcollect := h.collect hopen
  have hsubset : p.workerIps ⊆ (p.joined ++ p.ended).map Prod.fst := by
    intro ip hip
    obtain ⟨e, he⟩ := ended ip hip
    exact List.mem_map.mpr ⟨(ip, e), (h.listed ip e).mpr he, rfl⟩
  -- Every worker is among those that are joined after this poll, and no one is joined twice.
  have hle := (h.distinct.subperm hsubset).length_le
  have hge := hcollect.joined_length_le
  refine hcollect.isEmpty_iff.mpr (Nat.le_antisymm hge ?_)
  simpa [workerIps, Pool.collect] using hle

/-- Every run keeps the roster. -/
theorem run (h : p.Roster) (es : List Event) : (p.run es).1.Roster :=
  Machine.run_induction (motive := fun p _ => Roster p) h (fun _ _ e h => h.step e) es

end Roster

/-! ## Runs -/

/-- A run can be cut anywhere. -/
theorem run_append (p : Pool) (es fs : List Event) :
    p.run (es ++ fs) = (((p.run es).1.run fs).1, (p.run es).2 ++ ((p.run es).1.run fs).2) :=
  Machine.run_append step p es fs

theorem run_nil (p : Pool) : p.run [] = (p, []) := rfl

/-- A run of one event is a step. -/
theorem run_singleton (p : Pool) (e : Event) : p.run [e] = p.step e := by
  simp [run, Machine.run]

/-- The last event of a run is a step from where the others led. -/
theorem run_snoc (p : Pool) (es : List Event) (e : Event) :
    (p.run (es ++ [e])).1 = ((p.run es).1.step e).1 := by
  rw [run_append, run_singleton]

/-- In every run the workers stay the same, each after the same device. -/
theorem run_targets (p : Pool) (es : List Event) :
    (p.run es).1.workers.map Worker.target = p.workers.map Worker.target :=
  Machine.run_induction
    (motive := fun (q : Pool) _ => q.workers.map Worker.target = p.workers.map Worker.target) rfl
    (fun q _ e h => (step_targets q e).trans h) es

/-- No run changes which devices have a worker. -/
theorem run_workerIps (p : Pool) (es : List Event) : (p.run es).1.workerIps = p.workerIps := by
  have htargets := congrArg (List.map Target.ip) (run_targets p es)
  rwa [List.map_map, List.map_map] at htargets

/-- A pool that was just created. -/
theorem eq_of_spawn {c : ProbeConfig} {r : Registry} {cancelled : Bool}
    {socket : Nat → Except IoError Unit} {t : Trace}
    (spawned : spawn c r cancelled socket = .ok (p, t)) :
    p = ⟨c, r, cancelled, r.toList.map fun d => { target := .ofDevice c d }, [], [], .waiting, 0⟩ ∧
      t = [.log (.poolStarted r.toList.length)] := by
  unfold spawn at spawned
  split at spawned
  · cases spawned
  · simp only [Except.ok.injEq, Prod.mk.injEq, List.length_map] at spawned
    exact ⟨spawned.1.symm, spawned.2.symm⟩

/-- Each device of the registry has a worker, in the order in which reports list the devices. -/
theorem workerIps_of_spawn {c : ProbeConfig} {r : Registry} {cancelled : Bool}
    {socket : Nat → Except IoError Unit} {t : Trace}
    (spawned : spawn c r cancelled socket = .ok (p, t)) : p.workerIps = r.toList.map Device.ip := by
  obtain ⟨rfl, -⟩ := eq_of_spawn spawned
  simp [workerIps, Target.ofDevice, Function.comp_def]

/-- A new pool lists nobody, and its lists agree with its workers. -/
theorem roster_of_spawn {c : ProbeConfig} {r : Registry} {cancelled : Bool}
    {socket : Nat → Except IoError Unit} {t : Trace}
    (spawned : spawn c r cancelled socket = .ok (p, t)) : p.Roster := by
  have hips := workerIps_of_spawn spawned
  obtain ⟨rfl, -⟩ := eq_of_spawn spawned
  -- No one is joined, no one has ended, and every phase is the first one.
  refine ⟨?_, List.nodup_nil, fun ip e => ?_, fun _ => ⟨rfl, fun w hw => ?_⟩, by simp, by simp⟩
  · rw [hips]
    exact r.nodup_map_ip_toList
  · simp only [List.append_nil, List.not_mem_nil, false_iff, HasEnded, List.mem_map]
    rintro ⟨-, ⟨d, -, rfl⟩, -, hphase⟩
    cases e <;> cases hphase
  · obtain ⟨d, -, rfl⟩ := List.mem_map.mp hw
    simp

/-! ## Who is collected -/

/-- Whether the owner looked, before the pool was closed, when the worker of a device had ended in
    this way. -/
def Collected (p : Pool) (es : List Event) (ip : IpAddr) (e : End) : Prop :=
  ∃ before after, es = before ++ .poll :: after ∧
    (p.run before).1.stage ≠ .closed ∧ (p.run before).1.HasEnded ip e

/-- With one more event, a worker is collected if it was before or if the event is a look of the
    owner that finds it ended. -/
theorem collected_snoc_iff {es : List Event} {x : Event} {e : End} :
    Collected p (es ++ [x]) ip e ↔
      Collected p es ip e ∨
        x = .poll ∧ (p.run es).1.stage ≠ .closed ∧ (p.run es).1.HasEnded ip e := by
  constructor
  · rintro ⟨before, after, heq, hlooked⟩
    -- The look is the last event, or it was one of the others.
    obtain rfl | ⟨after, y, rfl⟩ := List.eq_nil_or_concat after
    · obtain ⟨rfl, hx⟩ := List.append_inj' heq rfl
      cases hx
      exact .inr ⟨rfl, hlooked⟩
    · have hsplit : es ++ [x] = (before ++ .poll :: after) ++ [y] := by simpa using heq
      obtain ⟨rfl, -⟩ := List.append_inj' hsplit rfl
      exact .inl ⟨before, after, rfl, hlooked⟩
  · rintro (⟨before, after, rfl, hlooked⟩ | ⟨rfl, hlooked⟩)
    · exact ⟨before, after ++ [x], by simp, hlooked⟩
    · exact ⟨es, [], rfl, hlooked⟩

/-- Whom the owner collects at an event. -/
def collects (p : Pool) : Event → List (IpAddr × End)
  | .poll => if p.stage = .waiting ∨ p.stage = .closing then p.ended else []
  | _ => []

/-- What a step adds to the collected workers are those that it collects, behind the others. -/
theorem joined_step (p : Pool) (e : Event) : (p.step e).1.joined = p.joined ++ p.collects e := by
  cases e with
  | turn ip m =>
    obtain hturn | ⟨w, s, -, -, hturn⟩ := turn_cases p ip m
    · simp [step, hturn, collects]
    · simp [step, hturn, stepped, collects]
  | cancel => simp [step, collects]
  -- Of all events only the look of the owner collects.
  | poll =>
    obtain ⟨hpoll, hstage⟩ | ⟨hpoll, -, hstage⟩ | ⟨hpoll, -, hstage⟩ | ⟨hpoll, -, hstage⟩ :=
      poll_cases p
    · rcases hstage with hstage | hstage <;> simp [step, hpoll, collects, hstage]
    all_goals simp [step, hpoll, collects, hstage, collect]
  | close => simp only [step, close]; split <;> simp [collects]
  | deadline =>
    obtain ⟨hdeadline, -⟩ | ⟨-, hdeadline, -⟩ := deadline_cases p <;>
      simp [step, hdeadline, collects]

/-- What one event adds to the workers that were collected. -/
theorem Roster.mem_joined_step_iff (h : p.Roster) (x : Event) (ip : IpAddr) (e : End) :
    (ip, e) ∈ (p.step x).1.joined ↔
      (ip, e) ∈ p.joined ∨ x = .poll ∧ p.stage ≠ .closed ∧ p.HasEnded ip e := by
  rw [joined_step, List.mem_append]
  cases x with
  | poll =>
    have hlisted := h.listed ip e
    rw [List.mem_append] at hlisted
    cases hstage : p.stage with
    | waiting => simp [collects, hstage, ← hlisted]
    | closing => simp [collects, hstage, ← hlisted]
    | closed => simp [collects, hstage]
    | waited =>
      -- The wait is over, and whoever has ended was collected.
      suffices p.HasEnded ip e → (ip, e) ∈ p.joined by simpa [collects, hstage]
      rintro ⟨w, hw, rfl, hphase⟩
      obtain ⟨f, hjoined, hphase'⟩ := h.exists_joined (h.waited hstage).1 hw
      rwa [phase_injective (hphase'.symm.trans hphase)] at hjoined
  | _ => simp [collects]

/-- A worker is collected exactly if the owner looked after its end and before the pool was
    closed. -/
theorem Roster.mem_joined_iff (h : p.Roster) (fresh : p.joined = []) (es : List Event)
    (ip : IpAddr) (e : End) : (ip, e) ∈ (p.run es).1.joined ↔ Collected p es ip e := by
  induction es using List.reverseRecOn with
  | nil => simp [Pool.run, Machine.run, Collected, fresh]
  | append_singleton es x ih =>
    rw [run_snoc, (h.run es).mem_joined_step_iff, collected_snoc_iff, ih]

/-- Who was collected once stays collected, in the same place. -/
theorem joined_run_isPrefix (p : Pool) (es : List Event) : p.joined <+: (p.run es).1.joined :=
  Machine.run_induction (motive := fun (q : Pool) _ => p.joined <+: q.joined) List.prefix_rfl
    (fun q _ e h => h.trans (joined_step q e ▸ List.prefix_append _ _)) es

/-! ## Stopped and failed -/

/-- The workers that were collected after a fault. -/
def failed (p : Pool) : List (IpAddr × Stats.Fault) :=
  p.joined.filterMap fun
    | (_, .stopped _) => none
    | (ip, .faulted fault) => some (ip, fault)

/-- The workers listed as stopped are those that were collected after they stopped. -/
theorem mem_stopped_iff {reason : StopReason} :
    (ip, reason) ∈ p.stopped ↔ (ip, .stopped reason) ∈ p.joined := by
  simp only [stopped, List.mem_filterMap]
  constructor
  · rintro ⟨⟨other, e⟩, hmem, hsome⟩
    cases e <;> cases hsome
    exact hmem
  · exact fun hmem => ⟨_, hmem, rfl⟩

/-- The workers listed as failed are those that were collected after they failed. -/
theorem mem_failed_iff {fault : Stats.Fault} :
    (ip, fault) ∈ p.failed ↔ (ip, .faulted fault) ∈ p.joined := by
  simp only [failed, List.mem_filterMap]
  constructor
  · rintro ⟨⟨other, e⟩, hmem, hsome⟩
    cases e <;> cases hsome
    exact hmem
  · exact fun hmem => ⟨_, hmem, rfl⟩

/-- Whoever was collected either stopped or failed. -/
theorem length_stopped_add_failed (p : Pool) :
    p.stopped.length + p.failed.length = p.joined.length := by
  unfold stopped failed
  induction p.joined with
  | nil => rfl
  | cons x xs ih =>
    obtain ⟨ip, e⟩ := x
    cases e <;> simp <;> omega

/-- The workers that stopped stand in the order in which they were collected. -/
theorem stopped_sublist (p : Pool) : (p.stopped.map Prod.fst).Sublist (p.joined.map Prod.fst) := by
  unfold stopped
  induction p.joined with
  | nil => exact .slnil
  | cons x xs ih =>
    obtain ⟨ip, e⟩ := x
    cases e with
    | stopped reason => exact ih.cons_cons ip
    | faulted fault => exact ih.cons ip

/-! ## The end -/

/-- From a closed pool nothing comes any more. -/
theorem run_of_closed (h : p.Roster) (hstage : p.stage = .closed) (es : List Event) :
    (p.run es).1.stage = .closed ∧ (p.run es).1.registry = p.registry ∧ (p.run es).2 = [] := by
  -- The roster goes along the run, for it says that nobody runs in a closed pool.
  refine (Machine.run_induction (motive := fun (q : Pool) (past : Trace) => q.Roster ∧
    q.stage = .closed ∧ q.registry = p.registry ∧ past = []) ⟨h, hstage, rfl, rfl⟩ ?_ es).2
  rintro q past e ⟨hroster, hclosed, hregistry, rfl⟩
  refine ⟨hroster.step e, ?_⟩
  cases e with
  | turn ip m =>
    obtain hturn | ⟨w, s, hmember, hrunning, -⟩ := turn_cases q ip m
    · rw [step, hturn]
      exact ⟨hclosed, hregistry, rfl⟩
    · have hw : w ∈ q.workers := mem_of_member? hmember
      rw [(hroster.closed hclosed).2 w hw] at hrunning
      cases hrunning
  | cancel => exact ⟨hclosed, hregistry, rfl⟩
  | poll => simp [step, poll, hclosed, hregistry]
  | close => simp [step, close, hclosed, hregistry]
  | deadline => simp [step, deadline, hclosed, hregistry]

/-- A turn of a worker does not change what the owner is doing. -/
theorem stage_turn (p : Pool) (ip : IpAddr) (m : Moment) :
    (p.step (.turn ip m)).1.stage = p.stage := by
  obtain hturn | ⟨w, s, -, -, hturn⟩ := turn_cases p ip m
  · rw [step, hturn]
  · rw [step, hturn]
    rfl

/-- A pool that is being closed stays so until it is closed. -/
theorem closing_step (hstage : p.stage = .closing ∨ p.stage = .closed) (e : Event) :
    (p.step e).1.stage = .closing ∨ (p.step e).1.stage = .closed := by
  cases e with
  | turn ip m => rwa [stage_turn]
  | cancel => exact hstage
  | poll =>
    -- A look cannot end a wait here, and the end of the closing is what it may bring.
    obtain ⟨hpoll, -⟩ | ⟨hpoll, -, -⟩ | ⟨-, -, hwaiting⟩ | ⟨hpoll, -, -⟩ := poll_cases p
    · rwa [step, hpoll]
    · rwa [step, hpoll]
    · simp [hwaiting] at hstage
    · rw [step, hpoll]
      exact .inr rfl
  | close => rcases hstage with hstage | hstage <;> simp [step, close, hstage]
  | deadline =>
    obtain ⟨hdeadline, -⟩ | ⟨-, hdeadline, -⟩ := deadline_cases p <;> rw [step, hdeadline]
    · exact hstage
    · exact .inr rfl

/-- A pool that is being closed is closed or being closed ever after. -/
theorem closing_run (hstage : p.stage = .closing ∨ p.stage = .closed) (es : List Event) :
    (p.run es).1.stage = .closing ∨ (p.run es).1.stage = .closed :=
  Machine.run_induction (motive := fun (q : Pool) _ => q.stage = .closing ∨ q.stage = .closed)
    hstage (fun _ _ e h => closing_step h e) es

/-- After closing has begun the pool is closed or being closed, whatever it did before. -/
theorem stage_close (p : Pool) : p.close.stage = .closing ∨ p.close.stage = .closed := by
  cases hstage : p.stage <;> simp [close, hstage]

/-- At the deadline the closing is over. -/
theorem stage_deadline (hstage : p.stage = .closing ∨ p.stage = .closed) :
    p.deadline.1.stage = .closed := by
  rcases hstage with hstage | hstage <;> simp [deadline, hstage]

/-- Once the owner closes a pool, the deadline is its end at the latest. -/
theorem closed_of_deadline (p : Pool) (es : List Event) :
    (p.run (.close :: es ++ [.deadline])).1.stage = .closed := by
  have hrest : (p.run (.close :: es)).1 = (p.close.run es).1 := rfl
  rw [run_snoc, hrest]
  exact stage_deadline (closing_run (stage_close p) es)

/-! ## Main result -/

/-- Every worker of a pool is accounted for, whatever happens to the pool. The report of the stopped
    workers has no address twice, and an entry for exactly those workers that had returned when the
    owner looked before the pool was closed, with the reason they returned; what the owner collected
    at any time stays in it. A wait that is over has left no worker and has cancelled the run.
    Closing comes to an end with the deadline, and in the end the stopped, the failed and the
    aborted workers are as many as there are devices; no worker runs then, and nothing that happens
    later changes a counter, sends a probe or makes a report. -/
theorem pool_accounts_for_workers {c : ProbeConfig} {registry : Registry} {cancelled : Bool}
    {socket : Nat → Except IoError Unit} {p : Pool} {opening : Trace}
    (spawned : spawn c registry cancelled socket = .ok (p, opening)) (es : List Event) :
    let q := (p.run es).1
    (q.stopped.map Prod.fst).Nodup ∧
    (∀ ip reason, (ip, reason) ∈ q.stopped ↔ Collected p es ip (.stopped reason)) ∧
    (∀ ip fault, (ip, fault) ∈ q.failed ↔ Collected p es ip (.faulted fault)) ∧
    (∀ before after, es = before ++ after → (p.run before).1.stopped <+: q.stopped) ∧
    (q.stage = .waited → q.isEmpty = true ∧ q.cancelled = true ∧
      ∀ w ∈ q.workers, w.phase.isRunning = false) ∧
    (q.stage = .closed →
      q.stopped.length + q.aborted + q.failed.length = registry.size ∧
      (∀ w ∈ q.workers, w.phase.isRunning = false) ∧
      ∀ fs, (q.run fs).1.registry = q.registry ∧ (q.run fs).2 = []) ∧
    ∀ before fs, es = before ++ .close :: fs ++ [.deadline] → q.stage = .closed := by
  intro q
  have hroster := roster_of_spawn spawned
  have hq : q.Roster := hroster.run es
  obtain ⟨hp, -⟩ := eq_of_spawn spawned
  have hfresh : p.joined = [] := by rw [hp]
  have hmem := hroster.mem_joined_iff hfresh es
  -- There are as many workers as devices, at the start and ever after.
  have hworkers : q.workers.length = registry.size := by
    have htargets := congrArg List.length (run_targets p es)
    rw [List.length_map, List.length_map] at htargets
    rw [htargets, hp, List.length_map]
    exact registry.toList_perm.length_eq
  refine ⟨?_, fun ip reason => ?_, fun ip fault => ?_, ?_, fun hstage => ?_, fun hstage => ?_, ?_⟩
  · -- The stopped are among the collected, and nobody is listed twice.
    have honce := hq.once
    rw [List.map_append] at honce
    exact honce.of_append_left.sublist (stopped_sublist q)
  · rw [mem_stopped_iff, hmem]
  · rw [mem_failed_iff, hmem]
  · -- Collected workers stay, and what comes later stands behind them.
    rintro before after rfl
    have hprefix := joined_run_isPrefix (p.run before).1 after
    rw [show ((p.run before).1.run after).1 = q by simp only [q, run_append]] at hprefix
    exact hprefix.filterMap _
  · obtain ⟨hall, hcancelled⟩ := hq.waited hstage
    exact ⟨hq.isEmpty_iff.mpr hall, hcancelled, hq.not_running hall⟩
  · -- Who was collected has stopped or failed, and all others were given up.
    obtain ⟨hcount, hstill⟩ := hq.closed hstage
    refine ⟨?_, hstill, fun fs => (run_of_closed hq hstage fs).2⟩
    rw [← hworkers, ← hcount, ← length_stopped_add_failed]
    omega
  · rintro before fs rfl
    have hclosed := closed_of_deadline (p.run before).1 fs
    simpa only [q, List.append_assoc, run_append] using hclosed

/-- A pool of three devices whose owner gives up its wait after a first worker has spent its budget.
    A second worker fails, and a third is still waiting when time is up. -/
theorem pool_accounts_for_three :
    let device (d : UInt8) (sent : UInt64) : Device :=
      ⟨.v4 10 0 0 d, .v2, .epoch, { sent }⟩
    let registry : Registry := ⟨[device 1 1, device 2 Stats.counterMax, device 3 0], by decide⟩
    let es : List Event := [.turn (.v4 10 0 0 1) {}, .poll, .turn (.v4 10 0 0 2) {},
      .turn (.v4 10 0 0 3) {}, .close, .poll, .deadline]
    ∃ p opening, spawn { maxProbes := 2 } registry false (fun _ => .ok ()) = .ok (p, opening) ∧
      (.v4 10 0 0 1, .budgetExhausted) ∈ (p.run es).1.stopped ∧
      (p.run es).1.stage = .closed ∧
      (p.run es).1.stopped.length + (p.run es).1.aborted + (p.run es).1.failed.length = 3 := by
  intro device registry es
  obtain ⟨⟨p, opening⟩, spawned⟩ : ∃ x, spawn { maxProbes := 2 } registry false (fun _ => .ok ()) =
    .ok x := ⟨_, rfl⟩
  refine ⟨p, opening, spawned, ?_⟩
  obtain ⟨-, hstopped, -, -, -, hclosed, hends⟩ := pool_accounts_for_workers spawned es
  -- The deadline comes behind the closing, so at its end the pool is closed.
  have hstage := hends (es.take 4) [.poll] rfl
  refine ⟨(hstopped _ _).mpr ⟨es.take 1, es.drop 2, rfl, ?_, ?_⟩, hstage, (hclosed hstage).1⟩
  · obtain ⟨rfl, -⟩ := eq_of_spawn spawned
    decide
  · obtain ⟨rfl, -⟩ := eq_of_spawn spawned
    exact ⟨⟨⟨.v4 10 0 0 1, .v2, 2335⟩, .stopped .budgetExhausted⟩, by decide, rfl, rfl⟩

end LossProbe.Pool
