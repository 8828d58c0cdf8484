import LossProbe.Registry

/-!
# What the counters of a device count

Counters that are updated in any way from zero are `Ordered`: a streak is made of losses, and only
a probe that was sent can be lost. In ordered counters an event is either recorded completely or
refused without a trace (`record_cases`), so after any history of updates each counter is a plain
count of the events that were recorded (`counters_of_history`), whichever of the updates failed
half-way.
-/

namespace LossProbe

namespace Stats

theorem toNat_counterMax : counterMax.toNat = 0xffffffffffffffff := rfl

/-- A word below the greatest one has a successor. -/
theorem toNat_succ {n : UInt64} (h : n ≠ counterMax) : (n + 1).toNat = n.toNat + 1 := by
  have hlt := n.toNat_lt
  have hne : n.toNat ≠ 0xffffffffffffffff := fun he =>
    h (UInt64.toNat_inj.1 (he.trans toNat_counterMax.symm))
  rw [UInt64.toNat_add, UInt64.toNat_one]
  exact Nat.mod_eq_of_lt (by omega)

/-- A word below another one is not the greatest. -/
theorem ne_counterMax_of_lt {n m : UInt64} (h : n < m) : n ≠ counterMax := by
  rintro rfl
  have hm := m.toNat_lt
  have := UInt64.lt_iff_toNat_lt.1 h
  rw [toNat_counterMax] at this
  omega

/-! ## Counting one event -/

variable {s : Stats}

/-- The counters with one more probe sent. -/
def addSent (s : Stats) : Stats := withRate { s with sent := s.sent + 1 }

/-- The counters after a reply. -/
def addReply (s : Stats) : Stats := withRate { s with streak := 0 }

/-- The counters with one more loss. -/
def addLoss (s : Stats) : Stats := withRate { s with lost := s.lost + 1, streak := s.streak + 1 }

/-- A probe that is counted is one more, as long as the counter has room. -/
theorem toNat_sent_addSent (h : s.sent ≠ counterMax) :
    s.addSent.sent.toNat = s.sent.toNat + 1 := toNat_succ h

@[simp] theorem lost_addSent (s : Stats) : s.addSent.lost = s.lost := rfl
@[simp] theorem streak_addSent (s : Stats) : s.addSent.streak = s.streak := rfl
@[simp] theorem sent_addReply (s : Stats) : s.addReply.sent = s.sent := rfl
@[simp] theorem lost_addReply (s : Stats) : s.addReply.lost = s.lost := rfl
@[simp] theorem streak_addReply (s : Stats) : s.addReply.streak = 0 := rfl
@[simp] theorem sent_addLoss (s : Stats) : s.addLoss.sent = s.sent := rfl

/-! ## Ordered counters -/

/-- Losses in a row are losses, and what was lost was sent. -/
structure Ordered (s : Stats) : Prop where
  streak_le_lost : s.streak ≤ s.lost
  lost_le_sent : s.lost ≤ s.sent

/-- Counters that begin at zero are in order. -/
theorem ordered_zero : Ordered {} := ⟨by decide, by decide⟩

/-- A loss that is counted is one more, for there are fewer losses than probes. -/
theorem toNat_lost_addLoss (h : s.lost < s.sent) : s.addLoss.lost.toNat = s.lost.toNat + 1 :=
  toNat_succ (ne_counterMax_of_lt h)

/-- The streak is at most the losses, so it has room whenever they have. -/
theorem Ordered.toNat_streak_addLoss (ho : s.Ordered) (h : s.lost < s.sent) :
    s.addLoss.streak.toNat = s.streak.toNat + 1 :=
  toNat_succ (ne_counterMax_of_lt (UInt64.lt_of_le_of_lt ho.streak_le_lost h))

/-- All that recording an event in ordered counters can come to: two refusals, which change nothing,
    and one success for each kind of event. -/
theorem record_cases (h : s.Ordered) (e : Event) :
    (e = .sent ∧ s.sent = counterMax ∧ s.record e = ⟨s, some .counterOverflow⟩) ∨
    (e = .timeout ∧ s.lost = s.sent ∧ s.record e = ⟨s, some .timeoutWithoutSend⟩) ∨
    (e = .sent ∧ s.sent ≠ counterMax ∧ s.record e = ⟨s.addSent, none⟩) ∨
    (e = .reply ∧ s.record e = ⟨s.addReply, none⟩) ∨
    (e = .timeout ∧ s.lost < s.sent ∧ s.record e = ⟨s.addLoss, none⟩) := by
  cases e with
  | sent =>
    by_cases hmax : s.sent = counterMax
    · exact .inl ⟨rfl, hmax, if_pos hmax⟩
    · exact .inr (.inr (.inl ⟨rfl, hmax, if_neg hmax⟩))
  | reply => exact .inr (.inr (.inr (.inl ⟨rfl, rfl⟩)))
  | timeout =>
    by_cases hle : s.sent ≤ s.lost
    · exact .inr (.inl ⟨rfl, UInt64.le_antisymm h.lost_le_sent hle, if_pos hle⟩)
    · have hlt : s.lost < s.sent := UInt64.not_le.1 hle
      -- The streak cannot overflow after the losses were raised: it is at most the losses.
      have hstreak : s.streak ≠ counterMax :=
        ne_counterMax_of_lt (UInt64.lt_of_le_of_lt h.streak_le_lost hlt)
      exact .inr (.inr (.inr (.inr ⟨rfl, hlt, (if_neg hle).trans (if_neg hstreak)⟩)))

/-- Counters stay in order when a probe is counted that has room. -/
theorem Ordered.addSent (h : s.Ordered) (hmax : s.sent ≠ counterMax) : s.addSent.Ordered := by
  refine ⟨h.streak_le_lost, UInt64.le_iff_toNat_le.2 ?_⟩
  have hlost := UInt64.le_iff_toNat_le.1 h.lost_le_sent
  rw [lost_addSent, toNat_sent_addSent hmax]
  omega

/-- Counters stay in order when a reply ends the losses in a row. -/
theorem Ordered.addReply (h : s.Ordered) : s.addReply.Ordered :=
  ⟨UInt64.le_iff_toNat_le.2 (Nat.zero_le _), h.lost_le_sent⟩

/-- Counters stay in order when a loss is counted, if a probe was sent for it. -/
theorem Ordered.addLoss (h : s.Ordered) (hlt : s.lost < s.sent) : s.addLoss.Ordered := by
  have hstreak := UInt64.le_iff_toNat_le.1 h.streak_le_lost
  have hlost := UInt64.lt_iff_toNat_lt.1 hlt
  -- Both counters are raised by one, and neither wraps.
  constructor <;> refine UInt64.le_iff_toNat_le.2 ?_
  · rw [h.toNat_streak_addLoss hlt, toNat_lost_addLoss hlt]
    omega
  · rw [sent_addLoss, toNat_lost_addLoss hlt]
    omega

/-- Recording keeps counters ordered. -/
theorem Ordered.record (h : s.Ordered) (e : Event) : (s.record e).stats.Ordered := by
  obtain ⟨-, -, hr⟩ | ⟨-, -, hr⟩ | ⟨-, hmax, hr⟩ | ⟨-, hr⟩ | ⟨-, hlt, hr⟩ := record_cases h e
  · rw [hr]; exact h
  · rw [hr]; exact h
  · rw [hr]; exact h.addSent hmax
  · rw [hr]; exact h.addReply
  · rw [hr]; exact h.addLoss hlt

/-- An event is refused for a loss beyond what was sent, or for a probe beyond the last count. -/
theorem record_fault_iff (h : s.Ordered) (e : Event) :
    (s.record e).fault ≠ none ↔
      e = .timeout ∧ s.lost = s.sent ∨ e = .sent ∧ s.sent = counterMax := by
  obtain ⟨rfl, hs, hr⟩ | ⟨rfl, hs, hr⟩ | ⟨rfl, hs, hr⟩ | ⟨rfl, hr⟩ | ⟨rfl, hs, hr⟩ :=
    record_cases h e
  · simp [hr, hs]
  · simp [hr, hs]
  · simp [hr, hs]
  · simp [hr]
  · have hne : s.lost ≠ s.sent := fun he => UInt64.lt_irrefl _ (he ▸ hs)
    simp [hr, hne]

/-- A refused event changes nothing. -/
theorem record_stats_of_fault (h : s.Ordered) {e : Event} (hf : (s.record e).fault ≠ none) :
    (s.record e).stats = s := by
  obtain ⟨-, -, hr⟩ | ⟨-, -, hr⟩ | ⟨-, -, hr⟩ | ⟨-, hr⟩ | ⟨-, -, hr⟩ := record_cases h e
  · rw [hr]
  · rw [hr]
  all_goals simp [hr] at hf

/-! ## Updates of several events -/

/-- The events of an update that are recorded: those before the first that is refused. -/
def recorded (s : Stats) : List Event → List Event
  | [] => []
  | e :: es => if (s.record e).fault = none then e :: (s.record e).stats.recorded es else []

/-- An update goes on from where its first events leave the counters, unless one was refused. -/
theorem recordAll_append {es : List Event} (fs : List Event) (h : (s.recordAll es).fault = none) :
    s.recordAll (es ++ fs) = (s.recordAll es).stats.recordAll fs := by
  induction es generalizing s with
  | nil => rfl
  | cons e es ih =>
    rcases hr : s.record e with ⟨s', _ | fault⟩
    · simp only [recordAll, hr, List.cons_append] at h ⊢
      exact ih h
    · simp [recordAll, hr] at h

/-- A refused event ends its update, and what was recorded before it stays. -/
theorem recordAll_of_fault (h : s.Ordered) {e : Event} (es : List Event)
    (hf : (s.record e).fault ≠ none) :
    s.recordAll (e :: es) = ⟨s, (s.record e).fault⟩ := by
  have hs := record_stats_of_fault h hf
  rcases hr : s.record e with ⟨s', _ | fault⟩
  · simp [hr] at hf
  · simp only [hr] at hs
    simp [recordAll, hr, hs]

/-- Counters stay in order through any events, also where one of them is refused. -/
theorem Ordered.recordAll (h : s.Ordered) (es : List Event) : (s.recordAll es).stats.Ordered := by
  induction es generalizing s with
  | nil => exact h
  | cons e es ih =>
    have he := h.record e
    rcases hr : s.record e with ⟨s', _ | fault⟩
    · simp only [Stats.recordAll, hr] at he ⊢
      exact ih he
    · simpa only [Stats.recordAll, hr] using he

/-! ## What counters say about the past -/

/-- How many probes were lost since the last reply. -/
def lossesSinceReply (es : List Event) : Nat := (es.reverse.takeWhile (· ≠ .reply)).count .timeout

/-- A reply ends the losses in a row, a loss adds one, and a probe that is sent changes nothing. -/
theorem lossesSinceReply_append (es : List Event) (e : Event) :
    lossesSinceReply (es ++ [e]) =
      match e with
      | .sent => lossesSinceReply es
      | .reply => 0
      | .timeout => lossesSinceReply es + 1 := by
  cases e <;> simp [lossesSinceReply]

/-- Counters count the events that were recorded, and their rate is the rate of the counts. -/
structure Counts (s : Stats) (done : List Event) : Prop where
  sent : s.sent.toNat = done.count .sent
  lost : s.lost.toNat = done.count .timeout
  streak : s.streak.toNat = lossesSinceReply done
  rate : s.rate = rateOf s.sent s.lost
  ordered : s.Ordered

/-- Counters at zero count an empty history. -/
theorem counts_zero : Counts {} [] := ⟨rfl, rfl, rfl, rfl, ordered_zero⟩

variable {done : List Event}

/-- Recording an event adds it to what is counted. -/
theorem Counts.record (h : s.Counts done) {e : Event} (hf : (s.record e).fault = none) :
    (s.record e).stats.Counts (done ++ [e]) := by
  have ho := h.ordered
  -- The refusals are out of the question; each success raises one count or ends a streak.
  obtain ⟨-, -, hr⟩ | ⟨-, -, hr⟩ | ⟨rfl, hmax, hr⟩ | ⟨rfl, hr⟩ | ⟨rfl, hlt, hr⟩ :=
    record_cases ho e
  · simp [hr] at hf
  · simp [hr] at hf
  · rw [hr]
    refine ⟨?_, ?_, ?_, rfl, ho.addSent hmax⟩
    · simp [toNat_sent_addSent hmax, h.sent]
    · simp [h.lost]
    · simp [h.streak, lossesSinceReply_append]
  · rw [hr]
    refine ⟨?_, ?_, ?_, rfl, ho.addReply⟩
    · simp [h.sent]
    · simp [h.lost]
    · simp [lossesSinceReply_append]
  · rw [hr]
    refine ⟨?_, ?_, ?_, rfl, ho.addLoss hlt⟩
    · simp [h.sent]
    · simp [toNat_lost_addLoss hlt, h.lost]
    · simp [ho.toNat_streak_addLoss hlt, h.streak, lossesSinceReply_append]

/-- An update adds the events it records, even when it ends in a refusal. -/
theorem Counts.recordAll (h : s.Counts done) (es : List Event) :
    (s.recordAll es).stats.Counts (done ++ s.recorded es) := by
  induction es generalizing s done with
  | nil => simpa [Stats.recordAll, recorded] using h
  | cons e es ih =>
    -- The run goes on behind an event without a fault and ends at the first one with a fault.
    by_cases hf : (s.record e).fault = none
    · have hrun : s.recordAll (e :: es) = (s.record e).stats.recordAll es := by
        rw [Stats.recordAll]
        rcases hr : s.record e with ⟨s', _ | fault⟩
        · rfl
        · simp [hr] at hf
      rw [hrun, recorded, if_pos hf, List.append_cons]
      exact ih (h.record hf)
    · rw [recordAll_of_fault h.ordered es hf, recorded, if_neg hf, List.append_nil]
      exact h

/-! ## Histories of updates -/

/-- The counters after several updates, each of which goes on from where the last one stopped. -/
def updates (s : Stats) (calls : List (List Event)) : Stats :=
  calls.foldl (fun s es => (s.recordAll es).stats) s

/-- The events that several updates recorded. -/
def history (s : Stats) : List (List Event) → List Event
  | [] => []
  | es :: calls => s.recorded es ++ (s.recordAll es).stats.history calls

/-- Counters that are updated count the history of all calls. -/
theorem Counts.updates (h : s.Counts done) (calls : List (List Event)) :
    (s.updates calls).Counts (done ++ s.history calls) := by
  induction calls generalizing s done with
  | nil => simpa [Stats.updates, history] using h
  | cons es calls ih =>
    -- The next update begins with what the last one left, refused or not.
    rw [history, ← List.append_assoc]
    exact ih (h.recordAll es)

end Stats

namespace Registry

open Stats

/-- Updates of the counters of one device. -/
def updates (r : Registry) (ip : IpAddr) (calls : List (List Event)) : Registry :=
  calls.foldl (fun r es => r.updateStats ip fun s => (s.recordAll es).stats) r

/-- An update is what is found at its address afterwards. -/
theorem get?_updateStats {r : Registry} {ip : IpAddr} {d : Device} (h : r.get? ip = some d)
    (f : Stats → Stats) : (r.updateStats ip f).get? ip = some { d with stats := f d.stats } := by
  have hip : d.ip = ip := by simpa using List.find?_some h
  -- An update keeps addresses, so it is found where it was.
  have hcomp : (fun e : Device => decide (e.ip = ip)) ∘
      (fun e => if e.ip = ip then { e with stats := f e.stats } else e) =
        fun e => decide (e.ip = ip) := by
    funext e
    simp only [Function.comp_apply]
    split <;> rfl
  rw [get?, updateStats, List.find?_map, hcomp]
  unfold get? at h
  rw [h, Option.map_some, if_pos hip]

/-- Updates through the registry are updates of the counters of the device. -/
theorem get?_updates {r : Registry} {ip : IpAddr} {d : Device} (h : r.get? ip = some d)
    (calls : List (List Event)) :
    (r.updates ip calls).get? ip = some { d with stats := d.stats.updates calls } := by
  induction calls generalizing r d with
  | nil => exact h
  | cons es calls ih => exact ih (get?_updateStats h _)

end Registry

namespace Stats

/-- The history of the counters of a device that starts from zero, whatever updates there were and
    however many of them were refused half-way. What is found in the registry counts exactly the
    events that were recorded, and its rate depends on the counts alone. The next event is refused
    exactly for a loss beyond what was sent or a probe beyond the last count, and then changes
    nothing. An update goes through its events one by one, and where it stands between two of them
    is the end of a history too; at the first refusal it ends and leaves what it recorded before. -/
theorem counters_of_history {r : Registry} {ip : IpAddr} {d : Device} (found : r.get? ip = some d)
    (fresh : d.stats = {}) (calls : List (List Event)) :
    ∃ s : Stats, (r.updates ip calls).get? ip = some { d with stats := s } ∧
      s.Counts (history {} calls) ∧
      (∀ calls', (updates {} calls').sent = s.sent → (updates {} calls').lost = s.lost →
        (updates {} calls').rate = s.rate) ∧
      (∀ e, (s.record e).fault ≠ none ↔
        e = .timeout ∧ s.lost = s.sent ∨ e = .sent ∧ s.sent = counterMax) ∧
      (∀ e, (s.record e).fault ≠ none → (s.record e).stats = s) ∧
      ∀ es, (s.recordAll es).fault = none →
        (s.recordAll es).stats = updates {} (calls ++ [es]) ∧
        (∀ fs, s.recordAll (es ++ fs) = (s.recordAll es).stats.recordAll fs) ∧
        ∀ e fs, ((s.recordAll es).stats.record e).fault ≠ none →
          s.recordAll (es ++ e :: fs) =
            ⟨(s.recordAll es).stats, ((s.recordAll es).stats.record e).fault⟩ := by
  have hget := Registry.get?_updates found calls
  rw [fresh] at hget
  have hcounts (cs : List (List Event)) : (updates {} cs).Counts (history {} cs) :=
    counts_zero.updates cs
  have ho := (hcounts calls).ordered
  refine ⟨updates {} calls, hget, hcounts calls, ?_, record_fault_iff ho,
    fun e => record_stats_of_fault ho, ?_⟩
  · -- Both rates are the rate of the same counts.
    intro calls' hsent hlost
    rw [(hcounts calls').rate, (hcounts calls).rate, hsent, hlost]
  · intro es hes
    refine ⟨by simp [updates], fun fs => recordAll_append fs hes, ?_⟩
    intro e fs hf
    rw [recordAll_append _ hes]
    exact recordAll_of_fault (ho.recordAll es) fs hf

/-- One probe, of which two losses are reported in one update: the second is refused and takes the
    reply behind it along, and the next update goes on from one loss in a row. -/
theorem counters_of_refused_loss :
    let d : Device := { ip := .v4 10 0 0 7, version := .v3, discoveredAt := .epoch }
    let r : Registry := ⟨[d], by simp⟩
    ∃ s : Stats,
      (r.updates d.ip [[.sent, .timeout, .timeout, .reply], [.sent]]).get? d.ip =
        some { d with stats := s } ∧
      s.sent.toNat = 2 ∧ s.lost.toNat = 1 ∧ s.streak.toNat = 1 ∧
      (s.record .timeout).fault = none := by
  intro d r
  have found : r.get? d.ip = some d := by simp [Registry.get?, r]
  obtain ⟨s, hget, hcounts, -, hfault, -⟩ :=
    counters_of_history found rfl [[.sent, .timeout, .timeout, .reply], [.sent]]
  have hsent : s.sent.toNat = 2 := hcounts.sent
  have hlost : s.lost.toNat = 1 := hcounts.lost
  -- There is a probe without a loss, so one more can be counted.
  refine ⟨s, hget, hsent, hlost, hcounts.streak, Decidable.byContradiction fun hf => ?_⟩
  obtain ⟨-, heq⟩ | ⟨he, -⟩ := (hfault .timeout).1 hf
  · rw [heq] at hlost
    omega
  · cases he

end Stats
end LossProbe
