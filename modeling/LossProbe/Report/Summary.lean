import LossProbe.Json.Basic
import LossProbe.Registry

/-! # Summaries of a registry

A `Summary` is what a report shows: the devices of each version as they were at one moment, how
many they were, and when that was. -/

namespace LossProbe

/-- One device at the moment of a report. -/
structure Snapshot where
  ip : String
  version : Version
  discoveredAt : Timestamp
  stats : Stats
deriving DecidableEq, Repr

def Device.snapshot (d : Device) : Snapshot := ⟨toString d.ip, d.version, d.discoveredAt, d.stats⟩

structure Summary where
  generatedAt : Timestamp
  v2 : List Snapshot
  v3 : List Snapshot
  count : Nat
deriving DecidableEq, Repr

namespace Summary

/-- The summary of a registry at the given time. -/
def ofRegistry (now : Timestamp) (r : Registry) : Summary :=
  ⟨now, (r.list .v2).map Device.snapshot, (r.list .v3).map Device.snapshot, r.size⟩

def isEmpty (s : Summary) : Bool := s.count = 0

end Summary

/-- Counters as members of an object. -/
def Stats.members (s : Stats) : List (String × Json) :=
  [("allCnt", .nat s.sent.toNat), ("timeoutCnt", .nat s.lost.toNat),
    ("continuousCnt", .nat s.streak.toNat), ("timeoutRate", .number (.float s.rate))]

def Stats.toJson (s : Stats) : Json := .object s.members

/-- A point in time as a text. -/
def Timestamp.toJson (t : Timestamp) : Json := .string (toString t)

/-- A device as an object that holds its counters, too. -/
def Snapshot.toJson (s : Snapshot) : Json :=
  .object ([("ip", .string s.ip), ("protocolVersion", .string s.version.name),
    ("discoveredAt", s.discoveredAt.toJson)] ++ s.stats.members)

def Summary.toJson (s : Summary) : Json :=
  .object [("generatedAt", s.generatedAt.toJson), ("v2", .array (s.v2.map Snapshot.toJson)),
    ("v3", .array (s.v3.map Snapshot.toJson)), ("count", .nat s.count)]

end LossProbe
