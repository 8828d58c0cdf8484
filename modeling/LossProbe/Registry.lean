import LossProbe.Net.IpAddr
import LossProbe.Stats
import LossProbe.Timestamp
import LossProbe.Version

/-! # The devices of a run

A `Registry` holds the devices in the order in which they were found, no address twice: a device
that is known already is not added again, whatever version it announces then. Reports and probes
go through the devices by version, the second before the third, each in order of discovery. -/

namespace LossProbe

/-- A device that answered discovery, and its counters. -/
structure Device where
  ip : IpAddr
  version : Version
  discoveredAt : Timestamp
  stats : Stats := {}
deriving DecidableEq, Repr

structure Registry where
  devices : List Device
  distinct : (devices.map Device.ip).Nodup

namespace Registry

def empty : Registry := ⟨[], by simp⟩

instance : Inhabited Registry := ⟨empty⟩
instance : EmptyCollection Registry := ⟨empty⟩

/-- The devices of one version. -/
def list (r : Registry) (version : Version) : List Device :=
  r.devices.filter fun d => d.version = version

/-- All devices, version by version. -/
def toList (r : Registry) : List Device := r.list .v2 ++ r.list .v3

/-- The device with this address. -/
def get? (r : Registry) (ip : IpAddr) : Option Device := r.devices.find? fun d => d.ip = ip

def contains (r : Registry) (ip : IpAddr) : Bool := r.devices.any fun d => d.ip = ip

def size (r : Registry) : Nat := r.devices.length

def isEmpty (r : Registry) : Bool := r.devices.isEmpty

/-- Add a device behind those of its version, unless its address is known. -/
def insert? (r : Registry) (d : Device) : Option Registry :=
  if h : r.contains d.ip then none
  else some ⟨r.devices ++ [d], by
    have := r.distinct
    simp only [contains, List.any_eq_true, decide_eq_true_eq, not_exists, not_and] at h
    simp only [List.map_append, List.map_cons, List.map_nil, List.nodup_append, this, true_and,
      List.nodup_cons, List.not_mem_nil, not_false_eq_true, List.nodup_nil, and_self]
    rintro a ha b hb rfl
    obtain ⟨e, he, rfl⟩ := List.mem_map.1 ha
    exact h e he (by simpa using hb)⟩

/-- Change the counters of the device with this address. -/
def updateStats (r : Registry) (ip : IpAddr) (f : Stats → Stats) : Registry :=
  ⟨r.devices.map fun d => if d.ip = ip then { d with stats := f d.stats } else d, by
    have h : (Device.ip ∘ fun d => if d.ip = ip then { d with stats := f d.stats } else d) =
        Device.ip := by
      funext d
      simp only [Function.comp_apply]
      split <;> rfl
    rw [List.map_map, h]
    exact r.distinct⟩

end Registry
end LossProbe
