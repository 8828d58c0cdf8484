import LossProbe.Discovery.Window
import LossProbe.Proofs.DiscoveryReplies

/-!
# What discovery adds to a registry

Of all that is sent to an open window only the first valid reply of each unknown sender matters.
`newcomers` picks these replies out, one after the other, and `Newcomers` says which they are
without saying how they are found. A window goes through the same choice event by event
(`Window.run_devices`), so discovery adds exactly the newcomers behind what was known, counts them,
and reports the result once (`discovery_adds_newcomers`).
-/

namespace LossProbe

/-- Registries with the same devices are the same. -/
theorem Registry.ext_devices {r s : Registry} (h : r.devices = s.devices) : r = s := by
  cases r
  cases s
  cases h
  rfl

/-- The addresses of the devices. -/
def Registry.ips (r : Registry) : List IpAddr := r.devices.map Device.ip

/-- A registry knows the addresses of its devices. -/
theorem Registry.contains_eq_true_iff {r : Registry} {ip : IpAddr} :
    r.contains ip = true ↔ ip ∈ r.ips := by
  simp [contains, ips]

/-- A registry does not know any other address. -/
theorem Registry.contains_eq_false_iff {r : Registry} {ip : IpAddr} :
    r.contains ip = false ↔ ip ∉ r.ips := by
  rw [← contains_eq_true_iff, Bool.not_eq_true]

/-- A known address is not added again. -/
theorem Registry.insert?_of_mem {r : Registry} {d : Device} (known : d.ip ∈ r.ips) :
    r.insert? d = none := by
  simp [insert?, contains_eq_true_iff.mpr known]

/-- An unknown device is added behind the others. -/
theorem Registry.exists_insert? {r : Registry} {d : Device} (unknown : d.ip ∉ r.ips) :
    ∃ s, r.insert? d = some s ∧ s.devices = r.devices ++ [d] := by
  simp [insert?, contains_eq_false_iff.mpr unknown]

namespace Trace

/-- The reports of two traces stand one behind the other. -/
@[simp] theorem reports_append (s t : Trace) : (s ++ t).reports = s.reports ++ t.reports :=
  List.filterMap_append

/-- The sendings of two traces stand one behind the other. -/
@[simp] theorem sendings_append (s t : Trace) : (s ++ t).sendings = s.sendings ++ t.sendings :=
  List.filterMap_append

end Trace

namespace Discovery

/-! ## The replies that count -/

/-- Whether an event ends the time for replies. -/
def Event.closes : Event → Bool
  | .cancelled | .timeUp => true
  | _ => false

/-- The device that a datagram announces, if it is a valid reply as far as it is looked at. -/
def Event.announced? : Event → Option Device
  | .datagram source octets time =>
    match Reply.parse (octets.take datagramLimit) with
    | .ok version => some { ip := source, version, discoveredAt := time }
    | .error _ => none
  | _ => none

/-- The devices that the valid replies announce, up to the end of the window. -/
def accepted (es : List Event) : List Device :=
  (es.takeWhile fun e => !e.closes).filterMap Event.announced?

/-- After the end of the window nothing is accepted. -/
theorem accepted_cons_of_closes {e : Event} (h : e.closes = true) (es : List Event) :
    accepted (e :: es) = [] := by
  simp [accepted, h]

/-- Before the end of the window a valid reply is accepted, and so are those behind it. -/
theorem accepted_cons {e : Event} (h : e.closes = false) (es : List Event) :
    accepted (e :: es) = e.announced?.toList ++ accepted es := by
  cases ha : e.announced? <;> simp [accepted, h, ha]

/-- Events that are put behind others are heard, unless one of these closes the window. -/
theorem accepted_append (es : List Event) :
    (∀ fs, accepted (es ++ fs) = accepted es ++ accepted fs) ∨
      ∀ fs, accepted (es ++ fs) = accepted es := by
  induction es with
  | nil => exact .inl fun fs => rfl
  | cons e es ih =>
    cases h : e.closes with
    | true =>
      -- Nothing is heard from here on, whatever follows.
      refine .inr fun fs => ?_
      rw [List.cons_append, accepted_cons_of_closes h, accepted_cons_of_closes h]
    | false =>
      refine ih.imp (fun ih fs => ?_) fun ih fs => ?_
      · rw [List.cons_append, accepted_cons h, accepted_cons h, ih, List.append_assoc]
      · rw [List.cons_append, accepted_cons h, accepted_cons h, ih]

/-- The devices among those announced that are new, where some addresses are known. -/
def newcomers (known : List IpAddr) : List Device → List Device
  | [] => []
  | d :: ds => if d.ip ∈ known then newcomers known ds else d :: newcomers (known ++ [d.ip]) ds

/-- The place of the first of the announced devices with an address. -/
def firstPlace (ds : List Device) (ip : IpAddr) : Nat := ds.findIdx fun d => d.ip = ip

/-- A newcomer is the first announcement of an address that is not known. -/
theorem mem_newcomers_iff {known : List IpAddr} {ds : List Device} {d : Device} :
    d ∈ newcomers known ds ↔ d.ip ∉ known ∧ ds.find? (fun e => e.ip = d.ip) = some d := by
  induction ds generalizing known with
  | nil => simp [newcomers]
  | cons a ds ih =>
    unfold newcomers
    by_cases hip : a.ip = d.ip
    · -- The first announcement of this address: it is new, or the address is known.
      rw [List.find?_cons_of_pos (by simpa using hip), hip]
      split
      · rename_i hknown
        simp [ih, hknown]
      · rename_i hknown
        simp [ih, hknown, eq_comm]
    · rw [List.find?_cons_of_neg (by simpa using hip)]
      split
      · exact ih
      · have hne : d ≠ a := fun h => hip (h ▸ rfl)
        simp [ih, hne, Ne.symm hip]

/-- New devices stand in the order in which they were announced first. -/
theorem pairwise_newcomers (known : List IpAddr) (ds : List Device) :
    (newcomers known ds).Pairwise fun d e => firstPlace ds d.ip < firstPlace ds e.ip := by
  -- Behind the first device all others have moved by one place.
  have hlater (a : Device) (ds : List Device) {d : Device} (h : d.ip ≠ a.ip) :
      firstPlace (a :: ds) d.ip = firstPlace ds d.ip + 1 := by
    simp [firstPlace, List.findIdx_cons, Ne.symm h]
  induction ds generalizing known with
  | nil => exact .nil
  | cons a ds ih =>
    unfold newcomers
    split
    · -- The first device is known, so it shares its address with no newcomer.
      rename_i hknown
      refine (ih known).imp_of_mem fun {d e} hd he h => ?_
      have hne {d : Device} (hd : d ∈ newcomers known ds) : d.ip ≠ a.ip := fun h =>
        (mem_newcomers_iff.mp hd).1 (h ▸ hknown)
      rw [hlater a ds (hne hd), hlater a ds (hne he)]
      omega
    · -- The first device is new, and its address is known to all that comes later.
      have hne {d : Device} (hd : d ∈ newcomers (known ++ [a.ip]) ds) : d.ip ≠ a.ip := fun h =>
        (mem_newcomers_iff.mp hd).1 (by simp [h])
      refine .cons (fun e he => ?_) ((ih _).imp_of_mem fun {d e} hd he h => ?_)
      · rw [hlater a ds (hne he)]
        simp [firstPlace, List.findIdx_cons]
      · rw [hlater a ds (hne hd), hlater a ds (hne he)]
        omega

/-- A device whose address is known or was announced before is no newcomer. -/
theorem newcomers_append_cons_of_known {known : List IpAddr} {d : Device} {ds : List Device}
    (h : d.ip ∈ known ∨ d.ip ∈ ds.map Device.ip) (es : List Device) :
    newcomers known (ds ++ d :: es) = newcomers known (ds ++ es) := by
  induction ds generalizing known with
  | nil => simpa [newcomers] using fun hd => absurd hd (by simpa using h)
  | cons a ds ih =>
    -- Whether `a` is new or not, the address of `d` stays known or announced before.
    rw [List.map_cons, List.mem_cons] at h
    simp only [List.cons_append, newcomers]
    split
    · rename_i hknown
      refine ih (h.elim .inl fun h => h.elim (fun h => .inl (h ▸ hknown)) .inr)
    · rw [ih (h.elim (fun h => .inl (List.mem_append_left _ h)) fun h =>
        h.elim (fun h => .inl (by simp [h])) .inr)]

/-- Who is new among later announcements depends on who was new among the earlier ones. -/
theorem newcomers_append (known : List IpAddr) (ds es : List Device) :
    newcomers known (ds ++ es) =
      newcomers known ds ++ newcomers (known ++ (newcomers known ds).map Device.ip) es := by
  induction ds generalizing known with
  | nil => simp [newcomers]
  | cons d ds ih =>
    simp only [List.cons_append, newcomers]
    split
    · exact ih known
    · rw [ih]
      simp

/-! ## A window, event by event -/

namespace Window

/-- A closed window stays as it is. -/
theorem run_of_closed {w : Window} (h : w.isOpen = false) (es : List Event) :
    run w es = (w, []) := by
  induction es with
  | nil => rfl
  | cons e es ih =>
    have hstep : w.step e = (w, []) := by simp [step, h]
    simp only [run, Machine.run, hstep] at ih ⊢
    simp [ih]

/-- An event that closes an open window leaves the registry as it is. -/
theorem step_of_closes {w : Window} (hopen : w.isOpen = true) {e : Event} (h : e.closes = true) :
    (w.step e).1 = { w with isOpen := false } := by
  cases e with
  | datagram => cases h
  | receiveFailed => cases h
  | cancelled => simp only [step, hopen, if_true]
  | timeUp => simp only [step, hopen, if_true]

/-- An event in an open window adds the device it announces, if that is new. -/
theorem step_of_not_closes {w : Window} (hopen : w.isOpen = true) {e : Event}
    (h : e.closes = false) :
    (w.step e).1.isOpen = true ∧
      (w.step e).1.registry.devices =
        w.registry.devices ++ newcomers w.registry.ips e.announced?.toList ∧
      (w.step e).1.added = w.added + (newcomers w.registry.ips e.announced?.toList).length := by
  cases e with
  | cancelled => cases h
  | timeUp => cases h
  | receiveFailed cause => simp [step, hopen, Event.announced?, newcomers]
  | datagram source octets time =>
    simp only [step, hopen, if_true, receive, Event.announced?]
    -- A valid reply adds its sender, unless that is known; anything else adds nobody.
    cases hparse : Reply.parse (octets.take datagramLimit) with
    | error f => simp [hopen, newcomers]
    | ok version =>
      by_cases hknown : source ∈ w.registry.ips
      · have hinsert := Registry.insert?_of_mem (r := w.registry)
          (d := { ip := source, version, discoveredAt := time }) hknown
        simp [hinsert, hopen, newcomers, hknown]
      · obtain ⟨s, hinsert, hdevices⟩ := Registry.exists_insert? (r := w.registry)
          (d := { ip := source, version, discoveredAt := time }) hknown
        simp [hinsert, newcomers, hknown, hdevices]

/-- An object without members enters its sender as a device of the second version. -/
theorem receive_braces (ip : IpAddr) (time : Timestamp) :
    receive { registry := {} } ip [0x7b, 0x7d] time =
      ({ registry := ⟨[⟨ip, .v2, time, {}⟩], List.nodup_singleton ip⟩, added := 1 },
        [.log (.discovered ip .v2)]) := by
  have hparse : Reply.parse (List.take datagramLimit [0x7b, 0x7d]) = .ok .v2 := Reply.parse_braces
  rw [receive, hparse]
  rfl

/-- Nothing is reported or sent while replies are collected. -/
theorem step_quiet (w : Window) (e : Event) :
    (w.step e).2.reports = [] ∧ (w.step e).2.sendings = [] := by
  -- All that a window writes are logs.
  unfold step
  split
  · cases e with
    | datagram source octets time =>
      simp only [receive]
      split
      · split <;> exact ⟨rfl, rfl⟩
      · exact ⟨rfl, rfl⟩
    | receiveFailed cause =>
      dsimp only
      split <;> exact ⟨rfl, rfl⟩
    | cancelled => exact ⟨rfl, rfl⟩
    | timeUp => exact ⟨rfl, rfl⟩
  · exact ⟨rfl, rfl⟩

/-- Nothing is reported or sent in the whole window. -/
theorem run_quiet (w : Window) (es : List Event) :
    (run w es).2.reports = [] ∧ (run w es).2.sendings = [] := by
  refine Machine.run_induction
    (motive := fun _ (past : Trace) => past.reports = [] ∧ past.sendings = []) ⟨rfl, rfl⟩ ?_ es
  intro w past e h
  have hstep := step_quiet w e
  exact ⟨by rw [Trace.reports_append, h.1, hstep.1]; rfl,
    by rw [Trace.sendings_append, h.2, hstep.2]; rfl⟩

/-- An open window adds the newcomers among the valid replies, and counts them. -/
theorem run_devices {w : Window} (hopen : w.isOpen = true) (es : List Event) :
    (run w es).1.registry.devices =
        w.registry.devices ++ newcomers w.registry.ips (accepted es) ∧
      (run w es).1.added = w.added + (newcomers w.registry.ips (accepted es)).length := by
  induction es generalizing w with
  | nil => simp [run, Machine.run, accepted, newcomers]
  | cons e es ih =>
    have hrun : (run w (e :: es)).1 = (run (w.step e).1 es).1 := rfl
    rw [hrun]
    cases h : e.closes with
    | true =>
      rw [step_of_closes hopen h, run_of_closed rfl, accepted_cons_of_closes h]
      simp [newcomers]
    | false =>
      obtain ⟨hstill, hdevices, hadded⟩ := step_of_not_closes hopen h
      obtain ⟨ihdevices, ihadded⟩ := ih hstill
      -- Whom this event adds is known to the rest of the window.
      have hips : (w.step e).1.registry.ips = w.registry.ips ++
          (newcomers w.registry.ips e.announced?.toList).map Device.ip := by
        simp [Registry.ips, hdevices]
      rw [accepted_cons h, newcomers_append, ← hips]
      refine ⟨?_, ?_⟩
      · rw [ihdevices, hdevices, List.append_assoc]
      · rw [ihadded, hadded, List.length_append, Nat.add_assoc]

end Window

/-! ## Main result -/

/-- The devices that are new among those announced: of each unknown address the first announcement,
    in the order of these. -/
structure Newcomers (registry : Registry) (replies new : List Device) : Prop where
  mem_iff : ∀ d, d ∈ new ↔
    registry.contains d.ip = false ∧ replies.find? (fun e => e.ip = d.ip) = some d
  ordered : new.Pairwise fun d e => firstPlace replies d.ip < firstPlace replies e.ip

/-- The devices that are picked out are the newcomers. -/
theorem newcomers_newcomers (registry : Registry) (replies : List Device) :
    Newcomers registry replies (newcomers registry.ips replies) where
  mem_iff d := by rw [mem_newcomers_iff, Registry.contains_eq_false_iff]
  ordered := pairwise_newcomers _ _

/-- A datagram announces its sender. -/
theorem Event.ip_of_announced {source : IpAddr} {octets : List UInt8} {time : Timestamp}
    {d : Device} (h : (Event.datagram source octets time).announced? = some d) :
    d.ip = source := by
  simp only [announced?] at h
  split at h
  · cases h
    rfl
  · cases h

/-- An event that announces nothing new is as good as none. -/
def Repeats (registry : Registry) (before : List Event) (e : Event) : Prop :=
  e.closes = false ∧
    ∀ d, e.announced? = some d → registry.contains d.ip = true ∨ ∃ a ∈ accepted before, a.ip = d.ip

/-- An event that announces nothing new makes no difference to who is new. -/
theorem newcomers_of_repeats {registry : Registry} {before : List Event} {e : Event}
    (h : Repeats registry before e) (after : List Event) :
    newcomers registry.ips (accepted (before ++ e :: after)) =
      newcomers registry.ips (accepted (before ++ after)) := by
  -- The window is open when the event comes, or it has closed before.
  rcases accepted_append before with heard | closed
  · rw [heard, heard, accepted_cons h.1]
    cases ha : e.announced? with
    | none => rfl
    | some d =>
      refine newcomers_append_cons_of_known ((h.2 d ha).imp ?_ ?_) _
      · exact Registry.contains_eq_true_iff.mp
      · rintro ⟨a, ha, hip⟩
        exact List.mem_map.mpr ⟨a, ha, hip⟩
  · rw [closed, closed]

/-- What discovery comes to, once its socket is open and its request is sent. -/
theorem run_sent (c : DiscoveryConfig) (registry : Registry) (events : List Event) :
    (run c registry (.ok ()) (.ok ()) events).registry.devices =
        registry.devices ++ newcomers registry.ips (accepted events) ∧
      (run c registry (.ok ()) (.ok ()) events).result =
        .ok (newcomers registry.ips (accepted events)).length ∧
      ∃ before : Trace, before.reports = [] ∧ (run c registry (.ok ()) (.ok ()) events).trace =
        before ++ [.report .searchResults (run c registry (.ok ()) (.ok ()) events).registry] := by
  obtain ⟨hdevices, hadded⟩ := Window.run_devices (w := { registry }) rfl events
  refine ⟨hdevices, ?_, _, ?_, rfl⟩
  · simp only [run, hadded, Nat.zero_add]
  · have hquiet : Trace.reports (Machine.run Window.step { registry } events).2 = [] :=
      (Window.run_quiet _ events).1
    rw [Trace.reports_append, Trace.reports_append, hquiet]
    simp only [Window.summary]
    split <;> rfl

/-- What discovery does with a registry. Without a socket there is no report, and without a request
    only what was known is reported. Otherwise the newcomers among the valid replies, up to the end
    of the window, are added behind the devices that were known, whose order and counters stay, in
    all and within each version; their number is the result; the one report is made at the very
    end. Any datagram that is no reply, or whose sender is known or has replied before, could as
    well have been left out. -/
theorem discovery_adds_newcomers (c : DiscoveryConfig) (registry : Registry)
    (events : List Event) :
    (∀ cause sent,
      (run c registry (.error cause) sent events).registry = registry ∧
      (run c registry (.error cause) sent events).result = .error (.socket cause) ∧
      (run c registry (.error cause) sent events).trace.reports = []) ∧
    (∀ cause,
      (run c registry (.ok ()) (.error cause) events).registry = registry ∧
      (run c registry (.ok ()) (.error cause) events).result = .error (.broadcast c.target cause) ∧
      (run c registry (.ok ()) (.error cause) events).trace.reports =
        [(.searchResults, registry)]) ∧
    let outcome := run c registry (.ok ()) (.ok ()) events
    (∃ new, Newcomers registry (accepted events) new ∧
      outcome.registry.devices = registry.devices ++ new ∧
      (∀ v, outcome.registry.list v = registry.list v ++ new.filter fun d => d.version = v) ∧
      outcome.result = .ok new.length ∧
      outcome.registry.size = registry.size + new.length) ∧
    (∃ before : Trace, before.reports = [] ∧
      outcome.trace = before ++ [.report .searchResults outcome.registry]) ∧
    ∀ before e after, events = before ++ e :: after → Repeats registry before e →
      (run c registry (.ok ()) (.ok ()) (before ++ after)).registry = outcome.registry ∧
      (run c registry (.ok ()) (.ok ()) (before ++ after)).result = outcome.result := by
  refine ⟨fun cause sent => ⟨rfl, rfl, rfl⟩, fun cause => ⟨rfl, rfl, rfl⟩, ?_⟩
  -- Where both the socket and the request succeed, all is said about the replies that were
  -- accepted.
  obtain ⟨hdevices, hresult, hreport⟩ := run_sent c registry events
  refine ⟨⟨_, newcomers_newcomers registry _, hdevices, fun v => ?_, hresult, ?_⟩, hreport, ?_⟩
  · rw [Registry.list, hdevices, List.filter_append]
    rfl
  · rw [Registry.size, hdevices, List.length_append]
    rfl
  · rintro before e after rfl hrepeats
    obtain ⟨hdevices', hresult', -⟩ := run_sent c registry (before ++ after)
    rw [newcomers_of_repeats hrepeats after] at hdevices hresult
    exact ⟨Registry.ext_devices (hdevices'.trans hdevices.symm), hresult'.trans hresult.symm⟩

/-- A window in which a stranger sends garbage, replies, and then announces another version. What it
    announces in the end could have been left out. -/
theorem discovery_adds_stranger_once :
    let known : Device := ⟨.v4 192 168 137 101, .v3, .epoch, { sent := 7, lost := 2 }⟩
    let registry : Registry := ⟨[known], by decide⟩
    let stranger : IpAddr := .v4 192 168 137 102
    let braces : List UInt8 := [0x7b, 0x7d]
    let before : List Event := [.datagram stranger (Utf8.encode "hello") .epoch,
      .datagram known.ip braces .epoch, .datagram stranger braces .epoch]
    let late : Event :=
      .datagram stranger (Utf8.encode "\x7b\"protocol_version\": 3\x7d") .epoch
    let after : List Event := [.cancelled, .datagram (.v4 192 168 137 103) braces .epoch]
    Repeats registry before late ∧
      (run {} registry (.ok ()) (.ok ()) (before ++ after)).registry =
        (run {} registry (.ok ()) (.ok ()) (before ++ late :: after)).registry ∧
      (run {} registry (.ok ()) (.ok ()) (before ++ after)).result =
        (run {} registry (.ok ()) (.ok ()) (before ++ late :: after)).result := by
  intro known registry stranger braces before late after
  have hreply : (Event.datagram stranger braces .epoch).announced? =
      some ⟨stranger, .v2, .epoch, {}⟩ := by
    have htake : braces.take datagramLimit = [0x7b, 0x7d] := rfl
    simp only [Event.announced?, htake, Reply.parse_braces]
  -- The late reply comes from a sender that was heard before, so its version does not matter.
  have hrepeats : Repeats registry before late := by
    have haccepted : ⟨stranger, .v2, .epoch, {}⟩ ∈ accepted before :=
      List.mem_filterMap.mpr ⟨_, .tail _ (.tail _ (.head _)), hreply⟩
    exact ⟨rfl, fun d hd => .inr ⟨_, haccepted, (Event.ip_of_announced hd).symm⟩⟩
  exact ⟨hrepeats, (discovery_adds_newcomers {} registry _).2.2.2.2 before late after rfl hrepeats⟩

end Discovery
end LossProbe
