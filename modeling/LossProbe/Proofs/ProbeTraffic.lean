import LossProbe.Proofs.MonitorReports
import LossProbe.Proofs.PoolDevices

/-!
# What is sent to whom

The version that a device announces in its first valid reply decides where its probes go and what
is in them, from the datagram that discovery hears (`Discovery.FirstReply`) over the registry
(`Discovery.firstReply_iff_mem`) to the targets of the workers (`Pool.run_sendings`). `SendBooks`
says that each attempt to send is counted: the turns of a worker keep the books
(`SendBooks.move`), so what a device was sent is what is counted for it, whenever one looks. Both
together are what a discovery and the pool after it do (`probes_follow_first_replies`).
-/

namespace LossProbe

open Probe

namespace Discovery

/-! ## The first reply of a device -/

/-- Whether the first valid reply of an address, before the window closes, announces this
    version. -/
inductive FirstReply (ip : IpAddr) (v : Version) : List Event → Prop
  | here {octets : List UInt8} {time : Timestamp} {es : List Event}
      (valid : Reply.parse (octets.take datagramLimit) = .ok v) :
    FirstReply ip v (.datagram ip octets time :: es)
  /-- Something else happened before it: no end of the window, and no valid reply of this
      address. -/
  | later {e : Event} {es : List Event} (opened : e.closes = false)
      (other : ∀ octets time w, e = .datagram ip octets time →
        Reply.parse (octets.take datagramLimit) ≠ .ok w)
      (rest : FirstReply ip v es) : FirstReply ip v (e :: es)

variable {ip : IpAddr} {v : Version} {es : List Event}

/-- What a valid reply announces. -/
theorem Event.announced?_of_valid {octets : List UInt8} {time : Timestamp}
    (valid : Reply.parse (octets.take datagramLimit) = .ok v) :
    (Event.datagram ip octets time).announced? = some { ip, version := v, discoveredAt := time } := by
  simp only [announced?, valid]

/-- What announces a device is a valid reply of it. -/
theorem Event.exists_of_announced? {e : Event} {d : Device} (h : e.announced? = some d) :
    ∃ octets, e = .datagram d.ip octets d.discoveredAt ∧
      Reply.parse (octets.take datagramLimit) = .ok d.version ∧ d.stats = {} := by
  cases e with
  | datagram source octets time =>
    simp only [announced?] at h
    split at h
    · rename_i hparse
      cases h
      exact ⟨octets, rfl, hparse, rfl⟩
    · cases h
  | _ => cases h

/-- The first valid reply of an address is the first of its own among those that were accepted. -/
theorem firstReply_iff_find? :
    FirstReply ip v es ↔ ∃ d, (accepted es).find? (fun d => d.ip = ip) = some d ∧ d.version = v := by
  constructor
  · intro h
    induction h with
    | @here octets time es valid =>
      refine ⟨{ ip, version := v, discoveredAt := time }, ?_, rfl⟩
      rw [accepted_cons rfl, Event.announced?_of_valid valid]
      exact List.find?_cons_of_pos (by simp)
    | @later e es opened other _ ih =>
      obtain ⟨d, hfind, hversion⟩ := ih
      refine ⟨d, ?_, hversion⟩
      -- What this event announces is another sender, for it is no valid reply of this one.
      have hnone : e.announced?.toList.find? (fun d => d.ip = ip) = none := by
        refine List.find?_eq_none.mpr fun a ha hip => ?_
        obtain ⟨octets, rfl, hparse, -⟩ := Event.exists_of_announced? (Option.mem_toList.mp ha)
        obtain rfl : a.ip = ip := by simpa using hip
        exact other octets _ _ rfl hparse
      rw [accepted_cons opened, List.find?_append, hnone, Option.none_or, hfind]
  · rintro ⟨d, hfind, rfl⟩
    induction es with
    | nil => cases hfind
    | cons e es ih =>
      cases hcloses : e.closes with
      | true =>
        rw [accepted_cons_of_closes hcloses] at hfind
        cases hfind
      | false =>
        rw [accepted_cons hcloses, List.find?_append] at hfind
        cases hfirst : e.announced?.toList.find? (fun d => d.ip = ip) with
        | some a =>
          -- This event is the reply.
          rw [hfirst, Option.some_or, Option.some.injEq] at hfind
          subst hfind
          obtain rfl : a.ip = ip := by simpa using List.find?_some hfirst
          have ha : e.announced? = some a :=
            Option.mem_toList.mp (List.mem_of_find?_eq_some hfirst)
          obtain ⟨octets, rfl, hparse, -⟩ := Event.exists_of_announced? ha
          exact .here hparse
        | none =>
          rw [hfirst, Option.none_or] at hfind
          refine .later hcloses ?_ (ih hfind)
          rintro octets time w rfl valid
          rw [Event.announced?_of_valid valid] at hfirst
          simp at hfirst

/-- An address announces one version first. -/
theorem FirstReply.version_unique {w : Version} (hv : FirstReply ip v es)
    (hw : FirstReply ip w es) : v = w := by
  obtain ⟨d, hd, rfl⟩ := firstReply_iff_find?.mp hv
  obtain ⟨e, he, rfl⟩ := firstReply_iff_find?.mp hw
  rw [Option.some.inj (hd.symm.trans he)]

/-- The devices of a discovery that began with none are the senders of valid replies, with the
    versions that these announced first. -/
theorem firstReply_iff_mem (c : DiscoveryConfig) (es : List Event) :
    FirstReply ip v es ↔
      ∃ d ∈ (run c {} (.ok ()) (.ok ()) es).registry.devices, d.ip = ip ∧ d.version = v := by
  -- The registry starts empty, so its devices are the newcomers.
  rw [firstReply_iff_find?, (run_sent c {} es).1]
  simp only [Registry.ips, EmptyCollection.emptyCollection, Registry.empty, List.map_nil,
    List.nil_append, mem_newcomers_iff, List.not_mem_nil, not_false_eq_true, true_and]
  constructor
  · rintro ⟨d, hfind, hversion⟩
    obtain rfl : d.ip = ip := by simpa using List.find?_some hfind
    exact ⟨d, hfind, rfl, hversion⟩
  · rintro ⟨d, hfind, rfl, hversion⟩
    exact ⟨d, hfind, hversion⟩

/-- A discovery that began without devices has found only senders of valid replies, for which
    nothing is counted yet. -/
theorem of_mem_run {c : DiscoveryConfig} {socket sent : Except IoError Unit} {d : Device}
    (hd : d ∈ (run c {} socket sent es).registry.devices) :
    FirstReply d.ip d.version es ∧ d.stats = {} := by
  cases socket with
  | error cause => cases hd
  | ok _ =>
    cases sent with
    | error cause => cases hd
    | ok _ =>
      refine ⟨(firstReply_iff_mem c es).mpr ⟨d, hd, rfl, rfl⟩, ?_⟩
      -- The registry was empty, so all of its devices are newcomers.
      have hmem : d ∈ newcomers [] (accepted es) := by
        have hdevices := (run_sent c {} es).1
        rw [hdevices] at hd
        exact hd
      obtain ⟨e, -, ha⟩ := List.mem_filterMap.mp
        (List.mem_of_find?_eq_some (mem_newcomers_iff.mp hmem).2)
      obtain ⟨octets, -, -, hstats⟩ := Event.exists_of_announced? ha
      exact hstats

end Discovery

/-! ## What is sent is counted -/

/-- The datagrams of a trace to an address. -/
def Trace.sendingsTo (t : Trace) (ip : IpAddr) : List Sending :=
  t.sendings.filter fun s => s.dest.ip = ip

/-- The probes to an address are those that are shown of its device. -/
theorem Trace.length_sendingsTo (t : Trace) (ip : IpAddr) :
    (t.sendingsTo ip).length = sendCount (t.about ip) := by
  -- Of a single entry: what is shown of the device is a datagram exactly if it went there.
  have hentry (a : Trace.Entry) :
      (Trace.sendingsTo [a] ip).length = sendCount (Trace.about [a] ip) := by
    cases a with
    | sending s =>
      by_cases hip : s.dest.ip = ip <;>
        simp [sendingsTo, sendings, about, sendCount, hip, Notice.isSending]
    | log e => rfl
    | report heading r =>
      cases heading with
      | lossEvent other =>
        by_cases hip : other = ip
        · cases hr : r.get? ip <;>
            simp [sendingsTo, sendings, about, sendCount, hip, hr, Notice.isSending]
        · simp [sendingsTo, sendings, about, sendCount, hip]
      | _ => rfl
  induction t with
  | nil => rfl
  | cons a t ih =>
    have hsendings : Trace.sendingsTo (a :: t) ip =
        Trace.sendingsTo [a] ip ++ Trace.sendingsTo t ip := by
      rw [sendingsTo, ← List.singleton_append, sendings_append, List.filter_append]
      rfl
    rw [hsendings, List.length_append, hentry, ih, ← sendCount_append, ← about_append,
      List.singleton_append]

namespace Probe

/-- Logs send nothing. -/
@[simp] theorem sendCount_shown (ns : List Notice) : sendCount (shown ns) = sendCount ns := by
  induction ns with
  | nil => rfl
  | cons n ns ih =>
    cases n <;> simpa [shown, sendCount, Notice.isSending, List.countP_cons] using ih

/-- The books of what a device was sent, where `start` was counted for it in the beginning. -/
structure SendBooks (start : Stats) (p : Phase) (s : Stats) (past : List Notice) : Prop where
  ordered : s.Ordered
  /-- There is room for the next probe. -/
  room : p.isRunning = true → s.sent ≠ Stats.counterMax
  counted : s.sent.toNat = start.sent.toNat + sendCount past

namespace SendBooks

variable {c : ProbeConfig} {t : Target} {start s : Stats} {p : Phase} {past : List Notice}

/-- Each turn keeps the books. -/
theorem move {turn : Turn} {step : Step Phase} (h : SendBooks start p s past)
    (hm : Move c t s turn p step) :
    SendBooks start step.outcome step.stats (past ++ shown step.notices) := by
  have hordered := (hm.grows h.ordered).1
  have hattempts := hm.attempts
  have hcounted := h.counted
  rw [attempts_singleton] at hattempts
  refine ⟨hordered, ?_, ?_⟩
  · -- Room is asked for only where the worker goes on, and a budget that is left leaves some.
    cases hm with
    | sent idle free room left => exact fun _ => Stats.ne_counterMax_of_lt left
    | replied answered => exact fun _ => h.room rfl
    | lost missed unlost => exact fun _ => h.room rfl
    | reported => exact fun _ => h.room rfl
    | ended stopped => exact h.room
    | _ => exact nofun
  · rw [sendCount_append, sendCount_shown, hattempts]
    -- Only a turn that begins a cycle attempts to send, and it counts one more.
    cases hm with
    | sent idle free room left =>
      simp [idle, free, Stats.toNat_sent_addSent room, hcounted, Nat.add_assoc]
    | sentLast idle free room spent =>
      simp [idle, free, Stats.toNat_sent_addSent room, hcounted, Nat.add_assoc]
    | halted idle seen => simpa [seen] using hcounted
    | overflowed idle free full => exact absurd full (h.room (Phase.isRunning_of_isIdle idle))
    | replied answered => simpa [Phase.isIdle] using hcounted
    | lost missed unlost => simpa [Phase.isIdle] using hcounted
    | refused missed full => simpa [Phase.isIdle] using hcounted
    | reported => simpa [Phase.isIdle] using hcounted
    | ended stopped =>
      have hidle : p.isIdle = false := by cases p <;> first | rfl | cases stopped
      simpa [hidle] using hcounted

/-- A worker that is aborted sends nothing more. -/
theorem abort (h : SendBooks start p s past) :
    SendBooks start .aborted s (past ++ owedNotices s p) := by
  have howed : sendCount (owedNotices s p) = 0 := by cases p <;> rfl
  exact ⟨h.ordered, nofun, by rw [sendCount_append, howed, h.counted]; rfl⟩

end SendBooks
end Probe

namespace Pool

variable {p : Pool}

/-- Every event sends to targets of workers only, each with the payload of its version. -/
theorem step_sendings (p : Pool) (e : Event) : ∀ x ∈ (p.step e).2.sendings,
    ∃ t ∈ p.workers.map Worker.target, x.dest = t.dest ∧ x.payload = t.version.probePayload := by
  intro x hx
  obtain ⟨a, ha, hsome⟩ := List.mem_filterMap.mp hx
  obtain ⟨l, rfl⟩ | ⟨w, hw, -, s, n, hown, rfl⟩ := step_entries p e a ha
  · cases hsome
  · cases n <;> cases hsome
    exact ⟨w.target, List.mem_map.mpr ⟨w, hw, rfl⟩, hown⟩

/-- Whatever a run sends goes to the target of a worker, with the payload of its version. -/
theorem run_sendings (p : Pool) (es : List Event) : ∀ x ∈ (p.run es).2.sendings,
    ∃ t ∈ p.workers.map Worker.target, x.dest = t.dest ∧ x.payload = t.version.probePayload := by
  -- The targets stay as they are, which carries the induction.
  refine (Machine.run_induction (motive := fun (q : Pool) (past : Trace) =>
    q.workers.map Worker.target = p.workers.map Worker.target ∧ ∀ x ∈ past.sendings,
      ∃ t ∈ p.workers.map Worker.target, x.dest = t.dest ∧ x.payload = t.version.probePayload)
    ⟨rfl, List.forall_mem_nil _⟩ ?_ es).2
  rintro q past e ⟨htargets, hpast⟩
  refine ⟨(step_targets q e).trans htargets, fun x hx => ?_⟩
  rw [Trace.sendings_append] at hx
  obtain hx | hx := List.mem_append.mp hx
  · exact hpast x hx
  · exact htargets ▸ step_sendings q e x hx

/-- In any run of a pool, the probes sent to a device are those counted for it. -/
theorem exists_sendBooks {c : ProbeConfig} {registry : Registry} {cancelled : Bool}
    {socket : Nat → Except IoError Unit} {opening : Trace} {d : Device}
    (spawned : spawn c registry cancelled socket = .ok (p, opening)) (hd : d ∈ registry.devices)
    (ordered : d.stats.Ordered) (room : d.stats.sent ≠ Stats.counterMax) (es : List Event) :
    ∃ phase s, (p.run es).1.member? d.ip = some (⟨.ofDevice c d, phase⟩, s) ∧
      SendBooks d.stats phase s ((p.run es).2.about d.ip) := by
  have hconfig : p.config = c := by rw [(eq_of_spawn spawned).1]
  refine run_member_induction (t := .ofDevice c d) (motive := SendBooks d.stats)
    (roster_of_spawn spawned) hconfig (member?_of_spawn spawned hd)
    ⟨ordered, fun _ => room, rfl⟩ ?_ ?_ es
  · intro phase s past turn _ h
    exact h.move (Worker.step_move h.ordered phase turn)
  · intro phase s past _ h
    exact h.abort

end Pool

/-! ## Main result -/

/-- What is sent to whom, in a discovery that begins without devices and a pool over those that it
    finds, whatever is heard, whatever the workers meet, in whatever order they take their turns and
    wherever the run is cancelled. Nothing is sent to an address without a valid reply. Where the
    first valid reply announced the third version, all probes go to the port of that version with
    the eight octets of its payload; all others go to the port of the second version with the one
    octet of its payload. As many attempts to send were made to a device as are counted for it. The
    devices are those that sent a valid reply in time, unless the search could not begin. -/
theorem probes_follow_first_replies (dc : DiscoveryConfig) (pc : ProbeConfig)
    {opened sent : Except IoError Unit} {heard : List Discovery.Event} {cancelled : Bool}
    {socket : Nat → Except IoError Unit} {p : Pool} {opening : Trace}
    (spawned : Pool.spawn pc (Discovery.run dc {} opened sent heard).registry cancelled socket =
      .ok (p, opening)) (es : List Pool.Event) :
    let registry := (Discovery.run dc {} opened sent heard).registry
    let t := opening ++ (p.run es).2
    (∀ s ∈ t.sendings, ∃ v, Discovery.FirstReply s.dest.ip v heard) ∧
    (∀ s ∈ t.sendings, Discovery.FirstReply s.dest.ip .v3 heard →
      s.dest.port = pc.v3Port ∧
        s.payload = [0x00, 0x00, 0x00, 0x02, 0x34, 0x83, 0x64, 0x87]) ∧
    (∀ s ∈ t.sendings, ¬ Discovery.FirstReply s.dest.ip .v3 heard →
      s.dest.port = pc.v2Port ∧ s.payload = [0x1d]) ∧
    (∀ d ∈ registry.devices, ∃ e, (p.run es).1.registry.get? d.ip = some e ∧
      (t.sendingsTo d.ip).length = e.stats.sent.toNat) ∧
    (opened = .ok () → sent = .ok () → ∀ ip v,
      Discovery.FirstReply ip v heard ↔ ∃ d ∈ registry.devices, d.ip = ip ∧ d.version = v) := by
  intro registry t
  obtain ⟨hp, hopening⟩ := Pool.eq_of_spawn spawned
  have ht : t.sendings = (p.run es).2.sendings := by
    simp only [t, Trace.sendings_append, hopening]
    rfl
  -- Whatever is sent goes to the target of a device.
  have htarget : ∀ s ∈ t.sendings, ∃ d ∈ registry.devices,
      s.dest = ⟨d.ip, pc.portFor d.version⟩ ∧ s.payload = d.version.probePayload := by
    intro s hs
    obtain ⟨target, htarget, hdest, hpayload⟩ := Pool.run_sendings p es s (ht ▸ hs)
    rw [hp, List.map_map] at htarget
    obtain ⟨d, hd, rfl⟩ := List.mem_map.mp htarget
    exact ⟨d, registry.toList_perm.mem_iff.mp hd, hdest, hpayload⟩
  -- Each device stands in the registry with the version that its first valid reply announced.
  have hfirst {d : Device} (hd : d ∈ registry.devices) :
      Discovery.FirstReply d.ip d.version heard := (Discovery.of_mem_run hd).1
  refine ⟨fun s hs => ?_, fun s hs hthird => ?_, fun s hs hother => ?_, fun d hd => ?_, ?_⟩
  · obtain ⟨d, hd, hdest, -⟩ := htarget s hs
    exact ⟨d.version, hdest ▸ hfirst hd⟩
  · obtain ⟨d, hd, hdest, hpayload⟩ := htarget s hs
    rw [hdest] at hthird
    have hversion : d.version = .v3 := (hfirst hd).version_unique hthird
    rw [hdest, hpayload, hversion]
    exact ⟨rfl, rfl⟩
  · obtain ⟨d, hd, hdest, hpayload⟩ := htarget s hs
    rw [hdest] at hother
    have hversion : d.version = .v2 := by
      have hreply := hfirst hd
      cases hv : d.version with
      | v2 => rfl
      | v3 => exact absurd (hv ▸ hreply) hother
    rw [hdest, hpayload, hversion]
    exact ⟨rfl, rfl⟩
  · -- The books of the worker say how often it has sent, and it began with counters at zero.
    have hstats := (Discovery.of_mem_run hd).2
    obtain ⟨phase, s, hmember, hbooks⟩ := Pool.exists_sendBooks spawned hd
      (hstats ▸ Stats.ordered_zero) (by rw [hstats]; decide) es
    obtain ⟨-, e, he, rfl⟩ := Pool.member?_eq_some_iff.mp hmember
    have hcounted := hbooks.counted
    refine ⟨e, he, ?_⟩
    rw [hcounted, hstats, Trace.sendingsTo, ht]
    exact (Trace.length_sendingsTo _ _).trans (Nat.zero_add _).symm
  · rintro rfl rfl ip v
    exact Discovery.firstReply_iff_mem dc heard

/-- A discovery that hears of one device, with both versions probed at one port. Before the run is
    cancelled the worker of the device sends a single probe. -/
theorem probes_follow_bare_reply :
    let ip : IpAddr := .v4 192 168 137 101
    let heard : List Discovery.Event := [.datagram ip [0x7b, 0x7d] .epoch, .timeUp]
    let pc : ProbeConfig := { v2Port := 4000, v3Port := 4000 }
    let registry := (Discovery.run {} {} (.ok ()) (.ok ()) heard).registry
    let es : List Pool.Event := [.turn ip {}, .cancel, .turn ip {}]
    ∃ p opening, Pool.spawn pc registry false (fun _ => .ok ()) = .ok (p, opening) ∧
      (∃ d ∈ registry.devices, d.ip = ip ∧ d.version = .v2) ∧
      (opening ++ (p.run es).2).sendings = [⟨⟨ip, 4000⟩, [0x1d], .ok ()⟩] ∧
      ∀ s ∈ (opening ++ (p.run es).2).sendings, ¬ Discovery.FirstReply s.dest.ip .v3 heard →
        s.dest.port = 4000 ∧ s.payload = [0x1d] := by
  intro ip heard pc registry es
  have hreply : Discovery.FirstReply ip .v2 heard := .here Reply.parse_braces
  have hregistry : registry = ⟨[⟨ip, .v2, .epoch, {}⟩], List.nodup_singleton ip⟩ := by
    have hreceive := Discovery.Window.receive_braces ip .epoch
    exact congrArg (fun x => x.1.registry) hreceive
  obtain ⟨p, opening, spawned⟩ | ⟨e, -, i, d, -, -, hfailed⟩ :=
    Pool.spawn_cases pc registry false (fun _ => .ok ())
  · obtain ⟨-, -, hsecond, -, hdevices⟩ :=
      probes_follow_first_replies {} pc spawned es
    refine ⟨p, opening, spawned, (hdevices rfl rfl ip .v2).mp hreply, ?_, hsecond⟩
    -- With the registry at hand the run can be evaluated.
    obtain ⟨rfl, rfl⟩ := Pool.eq_of_spawn spawned
    rw [hregistry]
    rfl
  · cases hfailed

end LossProbe
