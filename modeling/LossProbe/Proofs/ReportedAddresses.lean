import LossProbe.Proofs.AddressText
import LossProbe.Proofs.RegistryHistory
import LossProbe.Report.Summary

/-!
# The addresses in a report

A report lists every device that was found under the text of its address. The text is read as this
address and no other (`IpAddr.parse?_toString`), so the device is found again by its text, and
whoever spells the address in another way means the same device. A device of four octets and one of
the eight groups that stand for these octets are two devices (`reported_addresses_identify`).
-/

namespace LossProbe

namespace IpAddr

/-- The eight groups that stand for four octets. -/
def mapped (a b c d : UInt8) : IpAddr :=
  .v6 #v[0, 0, 0, 0, 0, 0xffff, pairGroup a b, pairGroup c d]

/-- An address of four octets is not the one that maps it to eight groups. -/
theorem v4_ne_mapped (a b c d : UInt8) : v4 a b c d ≠ mapped a b c d := nofun

/-- What is accepted as an address are its spellings. -/
theorem parse?_eq_some_iff {text : String} {ip : IpAddr} :
    parse? text = some ip ↔ ∃ sp : Spelling, text.toList = sp.chars ∧ sp.address = ip :=
  ofChars?_eq_some_iff

end IpAddr

namespace Registry

/-! ## What a report lists -/

section

variable {r : Registry} {x : Snapshot} {ip : IpAddr}

/-- A report shows the devices of a registry in the order of its list. -/
theorem snapshots_eq (now : Timestamp) (r : Registry) :
    (Summary.ofRegistry now r).v2 ++ (Summary.ofRegistry now r).v3 =
      r.toList.map Device.snapshot :=
  List.map_append.symm

/-- The devices that are found are those that are listed. -/
theorem mem_snapshots_iff (now : Timestamp) :
    x ∈ (Summary.ofRegistry now r).v2 ++ (Summary.ofRegistry now r).v3 ↔
      ∃ d, r.get? d.ip = some d ∧ d.snapshot = x := by
  rw [snapshots_eq, List.mem_map]
  constructor
  · rintro ⟨d, hd, rfl⟩
    exact ⟨d, get?_of_mem (r.toList_perm.mem_iff.mp hd), rfl⟩
  · rintro ⟨d, hd, rfl⟩
    exact ⟨d, r.toList_perm.mem_iff.mpr (List.mem_of_find?_eq_some hd), rfl⟩

/-- The texts are those of the known addresses, in order. -/
theorem map_ip_snapshots (now : Timestamp) (r : Registry) :
    ((Summary.ofRegistry now r).v2 ++ (Summary.ofRegistry now r).v3).map Snapshot.ip =
      (r.toList.map Device.ip).map toString := by
  rw [snapshots_eq, List.map_map, List.map_map]
  rfl

/-- No two devices of a report show the same address. -/
theorem nodup_map_ip_snapshots (now : Timestamp) (r : Registry) :
    (((Summary.ofRegistry now r).v2 ++ (Summary.ofRegistry now r).v3).map Snapshot.ip).Nodup := by
  rw [map_ip_snapshots]
  exact r.nodup_map_ip_toList.map IpAddr.toString_injective

/-- A text is listed exactly if it is that of a known address. -/
theorem toString_mem_snapshots_iff (now : Timestamp) :
    toString ip ∈ ((Summary.ofRegistry now r).v2 ++ (Summary.ofRegistry now r).v3).map Snapshot.ip ↔
      ip ∈ r.ips := by
  rw [map_ip_snapshots, List.mem_map_of_injective IpAddr.toString_injective]
  exact (r.toList_perm.map Device.ip).mem_iff

end

/-! ## Main result -/

/-- What the texts of a report say about the devices that were found. -/
structure Identified (ops : List Operation) (s : Summary) : Prop where
  /-- The text of an address is listed exactly if a device was found there. -/
  listed_iff : ∀ ip, toString ip ∈ (s.v2 ++ s.v3).map Snapshot.ip ↔ ip ∈ foundIps ops
  /-- No two devices have the same text, not even across the versions. -/
  distinct : ((s.v2 ++ s.v3).map Snapshot.ip).Nodup
  /-- At the address that is read from its text a device is found again. -/
  found : ∀ x ∈ s.v2 ++ s.v3, ∃ ip d, IpAddr.parse? x.ip = some ip ∧
    (replay ops).get? ip = some d ∧ d.snapshot = x
  /-- However the address of a device is spelled, what is read from it adds no other device. -/
  refused : ∀ x ∈ s.v2 ++ s.v3, ∀ sp : IpAddr.Spelling, IpAddr.parse? x.ip = some sp.address →
    ∃ ip, IpAddr.parse? (String.ofList sp.chars) = some ip ∧ ∀ version time,
      (replay ops).insert? { ip, version, discoveredAt := time } = none ∧
        replay (ops ++ [.insert ip version time]) = replay ops
  /-- Four octets and the groups that stand for them are listed as two devices. -/
  apart : ∀ a b c d, .v4 a b c d ∈ foundIps ops → .mapped a b c d ∈ foundIps ops →
    ∃ x y, (replay ops).get? (.v4 a b c d) = some x ∧ x.snapshot ∈ s.v2 ++ s.v3 ∧
      (replay ops).get? (.mapped a b c d) = some y ∧ y.snapshot ∈ s.v2 ++ s.v3 ∧
      x ≠ y ∧ x.snapshot.ip ≠ y.snapshot.ip

variable {ops : List Operation} {ip : IpAddr}

/-- Where a device was found, it is listed. -/
theorem exists_snapshot_of_mem_foundIps (now : Timestamp) (h : ip ∈ foundIps ops) :
    ∃ d, (replay ops).get? ip = some d ∧ d.snapshot ∈
      (Summary.ofRegistry now (replay ops)).v2 ++ (Summary.ofRegistry now (replay ops)).v3 := by
  obtain ⟨d, hd⟩ := mem_ips_iff.mp (mem_ips_replay_iff.mpr h)
  obtain rfl := ip_of_get? hd
  exact ⟨d, hd, (mem_snapshots_iff now).mpr ⟨d, hd, rfl⟩⟩

/-- To find a known device again changes nothing. -/
theorem replay_insert_of_mem (h : ip ∈ foundIps ops) (version : Version) (time : Timestamp) :
    (replay ops).insert? { ip, version, discoveredAt := time } = none ∧
      replay (ops ++ [.insert ip version time]) = replay ops := by
  have hnone : (replay ops).insert? { ip, version, discoveredAt := time } = none :=
    insert?_of_mem (mem_ips_replay_iff.mpr h)
  refine ⟨hnone, ?_⟩
  rw [replay_snoc, Operation.apply, hnone]
  rfl

/-- In every report on a registry, the texts of the addresses identify its devices. -/
theorem identified_ofRegistry (ops : List Operation) (now : Timestamp) :
    Identified ops (Summary.ofRegistry now (replay ops)) := by
  constructor
  case listed_iff =>
    intro ip
    rw [toString_mem_snapshots_iff, mem_ips_replay_iff]
  case distinct => exact nodup_map_ip_snapshots now _
  case found =>
    intro x hx
    obtain ⟨d, hd, rfl⟩ := (mem_snapshots_iff now).mp hx
    exact ⟨d.ip, d, IpAddr.parse?_toString d.ip, hd, rfl⟩
  case refused =>
    intro x hx sp haddress
    obtain ⟨d, hd, rfl⟩ := (mem_snapshots_iff now).mp hx
    -- Both texts are read as the address of the listed device, which is known.
    have hip : d.ip = sp.address :=
      Option.some.inj ((IpAddr.parse?_toString d.ip).symm.trans haddress)
    have hread : IpAddr.parse? (String.ofList sp.chars) = some d.ip :=
      IpAddr.parse?_eq_some_iff.mpr ⟨sp, String.toList_ofList, hip.symm⟩
    have hfound : d.ip ∈ foundIps ops := mem_ips_replay_iff.mp (mem_ips_iff.mpr ⟨d, hd⟩)
    exact ⟨d.ip, hread, replay_insert_of_mem hfound⟩
  case apart =>
    intro a b c d hplain hmapped
    -- Each of the two finds is of its own address, so neither stands in the way of the other.
    obtain ⟨x, hx, hxlisted⟩ := exists_snapshot_of_mem_foundIps now hplain
    obtain ⟨y, hy, hylisted⟩ := exists_snapshot_of_mem_foundIps now hmapped
    have hne : x.ip ≠ y.ip := by
      rw [ip_of_get? hx, ip_of_get? hy]
      exact IpAddr.v4_ne_mapped a b c d
    refine ⟨x, y, hx, hxlisted, hy, hylisted, ?_, IpAddr.toString_injective.ne hne⟩
    rintro rfl
    exact hne rfl

/-- The text of an address in a report identifies a device. The address is read back from it, and
    what else is read as this address are its other spellings: capitals, zeros in front, a gap in
    another place or none, octets at the end. In a report of the devices that were found, no two
    have the same text, and by its text each is found again. To find a device again, however its
    address is spelled, adds none and changes nothing. But four octets and the groups that stand
    for them are two addresses, with two texts, of two devices. -/
theorem reported_addresses_identify (ops : List Operation) (now : Timestamp) :
    (∀ d : Device, IpAddr.parse? d.snapshot.ip = some d.ip) ∧
    (∀ text ip, IpAddr.parse? text = some ip ↔
      ∃ sp : IpAddr.Spelling, text.toList = sp.chars ∧ sp.address = ip) ∧
    (∀ a b c d, toString (IpAddr.v4 a b c d) ≠ toString (IpAddr.mapped a b c d)) ∧
    Identified ops (Summary.ofRegistry now (replay ops)) := by
  refine ⟨?_, fun _ _ => IpAddr.parse?_eq_some_iff, ?_, identified_ofRegistry ops now⟩
  · intro d
    exact IpAddr.parse?_toString d.ip
  · intro a b c d
    exact IpAddr.toString_injective.ne (IpAddr.v4_ne_mapped a b c d)

/-- One of three devices is found again with its address in capitals, with zeros in front, without
    a gap and with octets at the end. The other two are four octets and their groups. -/
theorem reported_addresses_identify_of_capitals :
    let groups : IpAddr := .v6 #v[0x2001, 0xdb8, 0, 0, 0, 0, 0, 1]
    let ops : List Operation := [.insert groups .v3 .epoch, .insert (.v4 10 0 0 1) .v2 .epoch,
      .insert (.mapped 10 0 0 1) .v2 .epoch]
    (∃ ip, IpAddr.parse? "2001:0DB8:0:0:0:0:0.0.0.1" = some ip ∧
      (replay ops).insert? { ip, version := .v2, discoveredAt := .epoch } = none ∧
      replay (ops ++ [.insert ip .v2 .epoch]) = replay ops) ∧
    ∃ x y, (replay ops).get? (.v4 10 0 0 1) = some x ∧
      (replay ops).get? (.mapped 10 0 0 1) = some y ∧ x ≠ y ∧ x.snapshot.ip ≠ y.snapshot.ip := by
  intro groups ops
  obtain ⟨hread, hspellings, -, h⟩ := reported_addresses_identify ops .epoch
  constructor
  · -- The spelling with capitals and four octets is another one of the same address.
    obtain ⟨sp, htext, haddress⟩ :=
      (hspellings "2001:0DB8:0:0:0:0:0.0.0.1" groups).mp (by decide)
    obtain ⟨x, hx, hxip⟩ := List.mem_map.mp ((h.listed_iff groups).mpr (by decide))
    obtain ⟨ip, hip, hsame⟩ := h.refused x hx sp (by
      rw [hxip, haddress]
      exact hread ⟨groups, .v3, .epoch, {}⟩)
    rw [← htext, String.ofList_toList] at hip
    exact ⟨ip, hip, hsame .v2 .epoch⟩
  · obtain ⟨x, y, hx, -, hy, -, hne, htexts⟩ := h.apart 10 0 0 1 (by decide) (by decide)
    exact ⟨x, y, hx, hy, hne, htexts⟩

end Registry

end LossProbe
