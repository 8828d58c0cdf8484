import LossProbe.Proofs.PoolTurns
import Mathlib.Data.Finset.Card
import Mathlib.Data.List.Induction
import Mathlib.Data.List.TakeWhile

/-!
# What a registry holds after a history

However devices are found and counters are changed, of each address the first find counts, and the
counters of a device are what the changes of its own counters since then made of zero. `first?` and
`ownStats` say this of a list of operations, and `devices_replay` shows that a registry to which
these were done holds just that, in the order of the first finds. All that can be asked of a
registry follows (`replay_firstWins`).
-/

namespace LossProbe.Registry

open Discovery (newcomers firstPlace mem_newcomers_iff)

/-! ## The two lists -/

section Lists

variable {r s : Registry} {d : Device} {ip : IpAddr}

/-- The addresses of a registry are those under which a device is found. -/
theorem mem_ips_iff : ip ∈ r.ips ↔ ∃ d, r.get? ip = some d := by
  constructor
  · intro h
    obtain ⟨d, hd, rfl⟩ := List.mem_map.1 h
    exact ⟨d, get?_of_mem hd⟩
  · rintro ⟨d, hd⟩
    exact List.mem_map.2 ⟨d, List.mem_of_find?_eq_some hd, ip_of_get? hd⟩

/-- A list holds the devices of its version. -/
theorem mem_map_ip_list_iff {version : Version} :
    ip ∈ (r.list version).map Device.ip ↔ ∃ d, r.get? ip = some d ∧ d.version = version := by
  constructor
  · intro h
    obtain ⟨d, hd, rfl⟩ := List.mem_map.1 h
    obtain ⟨hmem, hversion⟩ := List.mem_filter.1 hd
    exact ⟨d, get?_of_mem hmem, by simpa using hversion⟩
  · rintro ⟨d, hd, hversion⟩
    have hmem := List.mem_of_find?_eq_some hd
    exact List.mem_map.2 ⟨d, List.mem_filter.2 ⟨hmem, by simpa using hversion⟩, ip_of_get? hd⟩

/-- A search may as well go through the lists. -/
theorem get?_eq_find?_toList (r : Registry) (ip : IpAddr) :
    r.get? ip = r.toList.find? fun d => d.ip = ip := by
  -- The list is a permutation of the devices, and no address is in it twice.
  cases h : r.get? ip with
  | none =>
    symm
    apply List.find?_eq_none.2
    intro d hd
    exact List.find?_eq_none.1 h d (r.toList_perm.mem_iff.1 hd)
  | some d =>
    have hmem : d ∈ r.toList := r.toList_perm.mem_iff.2 (List.mem_of_find?_eq_some h)
    rw [← ip_of_get? h]
    exact (find?_of_mem r.nodup_map_ip_toList hmem).symm

/-- The devices of both versions are all devices. -/
theorem size_eq_add (r : Registry) : r.size = (r.list .v2).length + (r.list .v3).length := by
  rw [← List.length_append]
  exact r.toList_perm.length_eq.symm

/-- A registry is empty where it has no devices. -/
theorem isEmpty_iff_size (r : Registry) : r.isEmpty = true ↔ r.size = 0 := by
  rw [isEmpty, List.isEmpty_iff, size, List.length_eq_zero_iff]

/-- A device is added only if it is unknown, and then behind the others. -/
theorem devices_of_insert? (h : r.insert? d = some s) :
    d.ip ∉ r.ips ∧ s.devices = r.devices ++ [d] := by
  by_cases hknown : d.ip ∈ r.ips
  · rw [insert?_of_mem hknown] at h
    cases h
  · obtain ⟨s', hs', hdevices⟩ := exists_insert? hknown
    rw [hs'] at h
    cases h
    exact ⟨hknown, hdevices⟩

/-- A device is entered where its address is not known. -/
theorem isSome_insert?_iff : (r.insert? d).isSome = true ↔ d.ip ∉ r.ips := by
  constructor
  · intro h
    obtain ⟨s, hs⟩ := Option.isSome_iff_exists.1 h
    exact (devices_of_insert? hs).1
  · intro h
    obtain ⟨s, hs, -⟩ := exists_insert? h
    rw [hs]
    rfl

/-- A device is added to the end of the list of its version. -/
theorem list_of_insert? (h : r.insert? d = some s) (version : Version) :
    s.list version = r.list version ++ if d.version = version then [d] else [] := by
  rw [list, (devices_of_insert? h).2, List.filter_append]
  by_cases hversion : d.version = version
  · simp [list, hversion]
  · simp [list, hversion]

/-- What was known is found as before. -/
theorem get?_of_insert? (h : r.insert? d = some s) {e : Device} (known : r.get? ip = some e) :
    s.get? ip = some e := by
  rw [get?, (devices_of_insert? h).2, List.find?_append]
  unfold get? at known
  rw [known]
  rfl

/-- An update goes through each list and keeps all but the counters of one device. -/
theorem list_updateStats (r : Registry) (ip : IpAddr) (f : Stats → Stats) (version : Version) :
    (r.updateStats ip f).list version =
      (r.list version).map fun d => if d.ip = ip then { d with stats := f d.stats } else d := by
  rw [list, updateStats, List.filter_map]
  congr 2
  funext d
  simp only [Function.comp_apply]
  split <;> rfl

end Lists

/-! ## Histories -/

/-- What can be done to a registry. -/
inductive Operation where
  /-- A device is found. It is added, unless its address is known. -/
  | insert (ip : IpAddr) (version : Version) (time : Timestamp)
  /-- The counters of a device are changed, if its address is known. -/
  | update (ip : IpAddr) (f : Stats → Stats)

namespace Operation

/-- The device that is found. -/
def found? : Operation → Option Device
  | insert ip version time => some { ip, version, discoveredAt := time }
  | update .. => none

/-- Whether a device with this address is found. -/
def finds (ip : IpAddr) (op : Operation) : Bool := op.found?.any fun d => d.ip = ip

/-- What is done to the counters of the device with this address. -/
def change? (ip : IpAddr) : Operation → Option (Stats → Stats)
  | insert .. => none
  | update other f => if other = ip then some f else none

def apply (r : Registry) : Operation → Registry
  | insert ip version time => (r.insert? { ip, version, discoveredAt := time }).getD r
  | update ip f => r.updateStats ip f

end Operation

/-- A registry that was empty in the beginning, after these operations. -/
def replay (ops : List Operation) : Registry := ops.foldl Operation.apply {}

/-- The devices that were found, whether they were new or not. -/
def found (ops : List Operation) : List Device := ops.filterMap Operation.found?

/-- The addresses at which devices were found. -/
def foundIps (ops : List Operation) : List IpAddr := (found ops).map Device.ip

/-- The first device that was found at this address. -/
def first? (ops : List Operation) (ip : IpAddr) : Option Device :=
  (found ops).find? fun d => d.ip = ip

/-- The changes of the counters of a device since it was found first. -/
def changes (ops : List Operation) (ip : IpAddr) : List (Stats → Stats) :=
  (ops.dropWhile fun op => !op.finds ip).filterMap (Operation.change? ip)

/-- What the changes of its counters alone make of a device. -/
def ownStats (ops : List Operation) (ip : IpAddr) : Stats :=
  (changes ops ip).foldl (fun s f => f s) {}

variable {ops : List Operation} {op : Operation} {ip : IpAddr}

/-- The last operation is applied to what the others made. -/
theorem replay_snoc (ops : List Operation) (op : Operation) :
    replay (ops ++ [op]) = op.apply (replay ops) := List.foldl_append

/-- What the last operation finds stands behind what the others found. -/
theorem found_snoc (ops : List Operation) (op : Operation) :
    found (ops ++ [op]) = found ops ++ op.found?.toList := by
  rw [found, List.filterMap_append]
  cases h : op.found? <;> simp [found, h]

/-- An address is found where some operation finds it. -/
theorem mem_foundIps_iff : ip ∈ foundIps ops ↔ ∃ op ∈ ops, op.finds ip = true := by
  constructor
  · intro h
    obtain ⟨d, hd, rfl⟩ := List.mem_map.1 h
    obtain ⟨op, hop, hfound⟩ := List.mem_filterMap.1 hd
    exact ⟨op, hop, by simp [Operation.finds, hfound]⟩
  · rintro ⟨op, hop, hfinds⟩
    obtain ⟨d, hfound, hip⟩ := (Option.any_eq_true ..).1 hfinds
    exact List.mem_map.2 ⟨d, List.mem_filterMap.2 ⟨op, hop, hfound⟩, by simpa using hip⟩

/-- An address is found where there is a first device with it. -/
theorem mem_foundIps_iff_first? : ip ∈ foundIps ops ↔ ∃ d, first? ops ip = some d := by
  rw [← Option.isSome_iff_exists, first?, List.find?_isSome]
  simp [foundIps]

/-- Nothing is left before the first find. -/
theorem dropWhile_finds_eq_nil_iff :
    (ops.dropWhile fun op => !op.finds ip) = [] ↔ ip ∉ foundIps ops := by
  rw [List.dropWhile_eq_nil_iff, mem_foundIps_iff]
  simp

/-- What finds a device changes no counters. -/
theorem Operation.change?_of_finds (h : op.finds ip = true) (other : IpAddr) :
    op.change? other = none := by
  cases op with
  | insert => rfl
  | update => cases h

/-- A change counts once the device was found. -/
theorem changes_snoc (ops : List Operation) (op : Operation) (ip : IpAddr) :
    changes (ops ++ [op]) ip =
      changes ops ip ++ if ip ∈ foundIps ops then (op.change? ip).toList else [] := by
  rw [changes, List.dropWhile_append]
  -- Either the first find lies behind, or the new operation may be it.
  by_cases h : ip ∈ foundIps ops
  · have hsome : ¬ (ops.dropWhile fun op => !op.finds ip).isEmpty = true := by
      rw [List.isEmpty_iff, dropWhile_finds_eq_nil_iff]
      exact not_not_intro h
    rw [if_neg hsome, if_pos h, List.filterMap_append]
    cases hchange : op.change? ip <;> simp [changes, hchange]
  · have hnone := dropWhile_finds_eq_nil_iff.2 h
    rw [if_pos (List.isEmpty_iff.2 hnone), if_neg h, changes, hnone]
    cases hfinds : op.finds ip with
    | true => simp [hfinds, Operation.change?_of_finds hfinds]
    | false => simp [hfinds]

/-- The last operation changes the counters of a device that was found, if it is about it. -/
theorem ownStats_snoc (ops : List Operation) (op : Operation) (ip : IpAddr) :
    ownStats (ops ++ [op]) ip =
      if ip ∈ foundIps ops then (op.change? ip).getD id (ownStats ops ip)
      else ownStats ops ip := by
  rw [ownStats, changes_snoc, List.foldl_append]
  by_cases h : ip ∈ foundIps ops
  · rw [if_pos h, if_pos h]
    cases op.change? ip <;> rfl
  · rw [if_neg h, if_neg h]
    rfl

/-- A device that was not found yet has no history. -/
theorem ownStats_of_not_mem (h : ip ∉ foundIps ops) : ownStats ops ip = {} := by
  rw [ownStats, changes, dropWhile_finds_eq_nil_iff.2 h]
  rfl

/-! ## What is in the registry -/

/-- Some find of an address is the first. -/
theorem mem_map_ip_newcomers_iff :
    ip ∈ (newcomers [] (found ops)).map Device.ip ↔ ip ∈ foundIps ops := by
  rw [mem_foundIps_iff_first?]
  constructor
  · intro h
    obtain ⟨d, hd, rfl⟩ := List.mem_map.1 h
    exact ⟨d, (mem_newcomers_iff.1 hd).2⟩
  · rintro ⟨d, hd⟩
    have hip : d.ip = ip := by simpa using List.find?_some hd
    exact List.mem_map.2 ⟨d, mem_newcomers_iff.2 ⟨nofun, hip ▸ hd⟩, hip⟩

/-- A device that is found is a newcomer unless its address was found before. -/
theorem newcomers_found_snoc (ops : List Operation) (op : Operation) :
    newcomers [] (found (ops ++ [op])) =
      newcomers [] (found ops) ++ op.found?.toList.filter fun d => d.ip ∉ foundIps ops := by
  rw [found_snoc, Discovery.newcomers_append, List.nil_append]
  -- An update finds nothing, and an insertion counts if its address is new.
  cases op.found? with
  | none => rfl
  | some d =>
    show _ ++ (if d.ip ∈ (newcomers [] (found ops)).map Device.ip then [] else [d]) = _
    by_cases h : d.ip ∈ foundIps ops
    · rw [if_pos (mem_map_ip_newcomers_iff.2 h)]
      simp [h]
    · rw [if_neg (mt mem_map_ip_newcomers_iff.1 h)]
      simp [h]

/-- A registry holds the first finds, in order, with the counters that their own changes made. -/
theorem devices_replay (ops : List Operation) :
    (replay ops).devices =
      (newcomers [] (found ops)).map fun d => { d with stats := ownStats ops d.ip } := by
  -- From the end, since each operation meets what the others before it have left.
  induction ops using List.reverseRecOn with
  | nil => rfl
  | append_singleton ops op ih =>
    have hips {ip : IpAddr} : ip ∈ (replay ops).ips ↔ ip ∈ foundIps ops := by
      rw [← mem_map_ip_newcomers_iff, ips, ih, List.map_map]
      rfl
    have hfound {d : Device} (hd : d ∈ newcomers [] (found ops)) : d.ip ∈ foundIps ops :=
      mem_map_ip_newcomers_iff.1 (List.mem_map.2 ⟨d, hd, rfl⟩)
    rw [replay_snoc, newcomers_found_snoc, List.map_append]
    cases op with
    | insert ip version time =>
      -- The counters of those that are known stay.
      have hkeep (e : Device) :
          ownStats (ops ++ [.insert ip version time]) e.ip = ownStats ops e.ip := by
        rw [ownStats_snoc]
        split <;> rfl
      simp only [hkeep, ← ih]
      by_cases hknown : ip ∈ foundIps ops
      · -- The device is known, and the registry stays as it is.
        have hinsert := insert?_of_mem (r := replay ops)
          (d := { ip, version, discoveredAt := time }) (hips.2 hknown)
        simp [Operation.apply, hinsert, Operation.found?, hknown]
      · -- The device is new. It starts from zero, as updates before its find are not its own.
        obtain ⟨s, hinsert, hdevices⟩ := exists_insert? (r := replay ops)
          (d := { ip, version, discoveredAt := time }) (mt hips.1 hknown)
        simp [Operation.apply, hinsert, hdevices, Operation.found?, hknown,
          ownStats_of_not_mem hknown]
    | update ip f =>
      show (replay ops).devices.map _ = _ ++ []
      rw [List.append_nil, ih, List.map_map]
      -- All these devices were found, so the update counts where the address is theirs.
      apply List.map_congr_left
      intro d hd
      rw [ownStats_snoc, if_pos (hfound hd)]
      simp only [Function.comp_apply, Operation.change?]
      by_cases hip : ip = d.ip
      · simp [hip]
      · simp [hip, Ne.symm hip]

/-- The addresses that are replayed are those that were found. -/
theorem mem_ips_replay_iff : ip ∈ (replay ops).ips ↔ ip ∈ foundIps ops := by
  rw [← mem_map_ip_newcomers_iff, ips, devices_replay, List.map_map]
  rfl

/-- At an address the first find of it is found. -/
theorem get?_replay (ops : List Operation) (ip : IpAddr) :
    (replay ops).get? ip = (first? ops ip).map fun d => { d with stats := ownStats ops ip } := by
  -- Either the address was never found, or the first device with it is the one that stays.
  cases h : first? ops ip with
  | none =>
    apply Option.eq_none_iff_forall_ne_some.2
    intro d hd
    have hmem := mem_ips_replay_iff.1 (mem_ips_iff.2 ⟨d, hd⟩)
    obtain ⟨e, he⟩ := mem_foundIps_iff_first?.1 hmem
    rw [h] at he
    cases he
  | some d =>
    have hip : d.ip = ip := by simpa using List.find?_some h
    subst hip
    have hmem : { d with stats := ownStats ops d.ip } ∈ (replay ops).devices := by
      rw [devices_replay]
      exact List.mem_map.2 ⟨d, mem_newcomers_iff.2 ⟨nofun, h⟩, rfl⟩
    exact get?_of_mem hmem

/-- New devices stand behind those that were found before them, also within a version. -/
theorem pairwise_list_replay (ops : List Operation) (version : Version) :
    ((replay ops).list version).Pairwise fun d e =>
      firstPlace (found ops) d.ip < firstPlace (found ops) e.ip := by
  apply List.Pairwise.filter
  rw [devices_replay]
  exact (Discovery.pairwise_newcomers [] (found ops)).map _ fun _ _ h => h

/-- There are as many devices as addresses at which one was found. -/
theorem size_replay (ops : List Operation) :
    (replay ops).size = (foundIps ops).toFinset.card := by
  -- What is held and what was found are the same addresses, and those that are held are distinct.
  have hsame : (replay ops).ips.toFinset = (foundIps ops).toFinset := by
    ext ip
    rw [List.mem_toFinset, List.mem_toFinset, mem_ips_replay_iff]
  have hcard : (replay ops).ips.toFinset.card = (replay ops).ips.length :=
    List.toFinset_card_of_nodup (replay ops).distinct
  rw [← hsame, hcard, ips, List.length_map, size]

/-- What is not about a device leaves it as it is. -/
theorem get?_replay_snoc {d : Device} (h : (replay ops).get? ip = some d)
    (unchanged : op.change? ip = none) : (replay (ops ++ [op])).get? ip = some d := by
  rw [replay_snoc]
  -- An insertion changes no device that is there, an update only its own.
  cases op with
  | insert other version time =>
    cases hinsert : (replay ops).insert? { ip := other, version, discoveredAt := time } with
    | none => simpa [Operation.apply, hinsert] using h
    | some s => simpa [Operation.apply, hinsert] using get?_of_insert? hinsert h
  | update other f =>
    have hne : ip ≠ other := by
      rintro rfl
      simp [Operation.change?] at unchanged
    show ((replay ops).updateStats other f).get? ip = some d
    rw [get?_updateStats_of_ne hne, h]

/-! ## Main result -/

/-- What a registry answers after a history. -/
structure FirstWins (ops : List Operation) (r : Registry) : Prop where
  /-- The list of a version holds the addresses that were found first with that version. -/
  mem_list_iff : ∀ version ip, ip ∈ (r.list version).map Device.ip ↔
    ∃ d, first? ops ip = some d ∧ d.version = version
  /-- It holds them in the order of their first finds. -/
  ordered : ∀ version, (r.list version).Pairwise fun d e =>
    firstPlace (found ops) d.ip < firstPlace (found ops) e.ip
  /-- All devices are those of the second version, and then those of the third. -/
  toList_eq : r.toList = r.list .v2 ++ r.list .v3
  distinct : (r.toList.map Device.ip).Nodup
  /-- At an address the first find is found, with what its own changes made of the counters. -/
  get?_eq : ∀ ip, r.get? ip = (first? ops ip).map fun d => { d with stats := ownStats ops ip }
  /-- A search that goes through the lists finds the same. -/
  find?_toList : ∀ ip, (r.toList.find? fun d => d.ip = ip) = r.get? ip
  contains_iff : ∀ ip, r.contains ip = true ↔ ip ∈ foundIps ops
  size_eq : r.size = (foundIps ops).toFinset.card
  length_lists : (r.list .v2).length + (r.list .v3).length = r.size
  isEmpty_iff : r.isEmpty = true ↔ r.size = 0
  /-- A device is added where no other was found before. -/
  isSome_insert?_iff : ∀ d, (r.insert? d).isSome = true ↔ d.ip ∉ foundIps ops

/-- A registry to which devices were added and whose counters were updated, in any order, has kept
    of each address what was found there first, and its version; it lists these devices by version,
    in the order of the first finds. A device is added exactly where none was found before, to the
    end of the list of its version, and this changes no other. An update keeps both lists but for
    the counters of one device. So the counters of a device are what its own updates alone have made
    of them since it was found. -/
theorem replay_firstWins (ops : List Operation) :
    FirstWins ops (replay ops) ∧
    (∀ d s, (replay ops).insert? d = some s → ∀ version,
      s.list version = (replay ops).list version ++ if d.version = version then [d] else []) ∧
    (∀ ip f version, ((replay ops).updateStats ip f).list version =
      ((replay ops).list version).map fun d =>
        if d.ip = ip then { d with stats := f d.stats } else d) ∧
    ∀ op ip d, (replay ops).get? ip = some d → op.change? ip = none →
      (replay (ops ++ [op])).get? ip = some d := by
  refine ⟨?_, fun d s => list_of_insert?, list_updateStats _, fun op ip d => get?_replay_snoc⟩
  -- The fields of the structure are lemmas on the replay, one for each.
  constructor
  case mem_list_iff =>
    intro version ip
    rw [mem_map_ip_list_iff, get?_replay]
    simp
  case ordered => exact pairwise_list_replay ops
  case toList_eq => rfl
  case distinct => exact nodup_map_ip_toList _
  case get?_eq => exact get?_replay ops
  case find?_toList => exact fun ip => (get?_eq_find?_toList _ ip).symm
  case contains_iff => exact fun ip => contains_eq_true_iff.trans mem_ips_replay_iff
  case size_eq => exact size_replay ops
  case length_lists => exact (size_eq_add _).symm
  case isEmpty_iff => exact isEmpty_iff_size _
  case isSome_insert?_iff => exact fun d => isSome_insert?_iff.trans (not_congr mem_ips_replay_iff)

/-- A device is found as one of the third version, between two probes, and later as one of the
    second. A probe before it was found is not its own. -/
theorem replay_firstWins_of_third :
    let a : IpAddr := .v4 192 168 137 10
    let b : IpAddr := .v4 192 168 137 20
    let probe : Stats → Stats := fun s => { s with sent := s.sent + 1 }
    let ops : List Operation := [.update a probe, .insert a .v3 .epoch, .update a probe,
      .insert b .v2 .epoch, .insert a .v2 .epoch, .update b probe, .update a probe]
    let late : Device := { ip := .v4 192 168 137 30, version := .v2, discoveredAt := .epoch }
    (replay ops).get? a = some ⟨a, .v3, .epoch, { sent := 2 }⟩ ∧
      (replay ops).size = 2 ∧
      (∃ s, (replay ops).insert? late = some s ∧ s.list .v2 = (replay ops).list .v2 ++ [late]) ∧
      (replay (ops ++ [.update b probe])).get? a = some ⟨a, .v3, .epoch, { sent := 2 }⟩ := by
  intro a b probe ops late
  obtain ⟨hfirst, hinsert, -, hframe⟩ := replay_firstWins ops
  -- The update before the device was found and the second version of it leave no trace.
  have hget : (replay ops).get? a = some ⟨a, .v3, .epoch, { sent := 2 }⟩ := hfirst.get?_eq a
  obtain ⟨s, hs⟩ := Option.isSome_iff_exists.1 ((hfirst.isSome_insert?_iff late).2 (by decide))
  have hlate := hinsert late s hs .v2
  exact ⟨hget, hfirst.size_eq, ⟨s, hs, hlate⟩, hframe (.update b probe) a _ hget rfl⟩

end LossProbe.Registry
