import LossProbe.Proofs.JsonWriting
import LossProbe.Report.JsonLine
import LossProbe.Version.Reader

/-!
# Lines of reports

A report is written as one line of JSON from which all that it tells can be read again
(`readReport`): the event, the device it names, how many devices there are, and each of them with
its address, version and counters. So reports that tell different things are different lines.
-/

namespace LossProbe.JsonReport

open Json

/-! ## What a report tells -/

/-- What a report tells about a device. -/
structure DeviceFacts where
  ip : String
  version : Version
  sent : Nat
  lost : Nat
  streak : Nat
  /-- Whether the loss rate is a number. -/
  rated : Bool
deriving DecidableEq

/-- What a report tells. -/
structure Facts where
  event : String
  /-- The address of the device that lost a probe. -/
  ip : Option String
  count : Nat
  v2 : List DeviceFacts
  v3 : List DeviceFacts
deriving DecidableEq

def deviceFacts (d : Snapshot) : DeviceFacts :=
  ⟨d.ip, d.version, d.stats.sent.toNat, d.stats.lost.toNat, d.stats.streak.toNat,
    d.stats.rate.isFinite⟩

def headingIp : Heading → Option String
  | .lossEvent ip => some (toString ip)
  | _ => none

def facts (h : Heading) (s : Summary) : Facts :=
  ⟨h.name, headingIp h, s.count, s.v2.map deviceFacts, s.v3.map deviceFacts⟩

/-! ## Reading it again -/

def readString : Json → Option String
  | .string s => some s
  | _ => none

def readNat : Json → Option Nat
  | .number (.integer n) => if 0 ≤ n then some n.toNat else none
  | _ => none

def readVersion (v : Json) : Option Version :=
  (readString v).bind fun name => (Version.ofName name).toOption

/-- Whether there is a number, where nothing stands for none. -/
def readRated : Json → Option Bool
  | .null => some false
  | .number _ => some true
  | _ => none

/-- An address, where nothing stands for none. -/
def readIp : Json → Option (Option String)
  | .null => some none
  | v => (readString v).map some

def readDevice (v : Json) : Option DeviceFacts := do
  return ⟨← readString (← v.get? "ip"), ← readVersion (← v.get? "protocolVersion"),
    ← readNat (← v.get? "allCnt"), ← readNat (← v.get? "timeoutCnt"),
    ← readNat (← v.get? "continuousCnt"), ← readRated (← v.get? "timeoutRate")⟩

def readDevices : Json → Option (List DeviceFacts)
  | .array vs => vs.mapM readDevice
  | _ => none

def readReport (v : Json) : Option Facts := do
  let s ← v.get? "report"
  return ⟨← readString (← v.get? "event"), ← readIp (← v.get? "ip"), ← readNat (← s.get? "count"),
    ← readDevices (← s.get? "v2"), ← readDevices (← s.get? "v3")⟩

@[simp] theorem readNat_nat (n : Nat) : readNat (.nat n) = some n := rfl

/-- A version is read from its name. -/
@[simp] theorem readVersion_name (v : Version) : readVersion (.string v.name) = some v := by
  cases v <;> decide

/-! ## Devices -/

/-- What is written of a device reads back, and tells its facts. -/
theorem readsBack_device {d : Snapshot} (h : RateInRange d.stats.rate) :
    ∃ v, ReadsBack 1 (device d) v ∧ readDevice v = some (deviceFacts d) := by
  obtain ⟨rate, hrate, hrated⟩ := readsBack_float h
  have hread : readRated rate = some d.stats.rate.isFinite := by
    rcases hrated with ⟨hfinite, y, rfl⟩ | ⟨hfinite, rfl⟩ <;> rw [hfinite] <;> rfl
  -- The members in the order in which they are written.
  refine ⟨_, readsBack_object (.cons ((readsBack_nat d.stats.sent.toNat_lt).named _)
    (.cons ((readsBack_nat d.stats.streak.toNat_lt).named _)
    (.cons ((readsBack_string _).named _) (.cons ((readsBack_string _).named _)
    (.cons ((readsBack_string _).named _)
    (.cons ((readsBack_nat d.stats.lost.toNat_lt).named _)
    (.cons (hrate.named _) .nil))))))), ?_⟩
  simp [readDevice, get?, member?, readString, hread, deviceFacts]

/-- What is written of devices reads back, and tells the facts of each in their order. -/
theorem readsBack_devices {ds : List Snapshot} (h : ∀ d ∈ ds, RateInRange d.stats.rate) :
    ∃ v, ReadsBack 2 (.array (ds.map device)) v ∧ readDevices v = some (ds.map deviceFacts) := by
  -- Reading a list is a `mapM`, so the induction is on its items and not on the array.
  suffices hall : ∃ vs, List.Forall₂ (ReadsBack 1) (ds.map device) vs ∧
      vs.mapM readDevice = some (ds.map deviceFacts) by
    obtain ⟨vs, hvs, hread⟩ := hall
    exact ⟨_, readsBack_array hvs, hread⟩
  induction ds with
  | nil => exact ⟨[], .nil, rfl⟩
  | cons d ds ih =>
    obtain ⟨hd, hds⟩ := List.forall_mem_cons.mp h
    obtain ⟨v, hv, hread⟩ := readsBack_device hd
    obtain ⟨vs, hvs, hreads⟩ := ih hds
    refine ⟨v :: vs, .cons hv hvs, ?_⟩
    rw [List.mapM_cons, hread, hreads]
    rfl

/-! ## Reports -/

/-- Whether the count has 64 bits and no rate is greater than `10 ^ 300`. -/
structure Writable (s : Summary) : Prop where
  count : s.count < 2 ^ 64
  v2 : ∀ d ∈ s.v2, RateInRange d.stats.rate
  v3 : ∀ d ∈ s.v3, RateInRange d.stats.rate

/-- The device that a heading names reads back, or that it names none. -/
theorem readsBack_headingDevice (depth : Nat) (h : Heading) :
    ReadsBack depth (headingDevice h) (headingDevice h) ∧
      readIp (headingDevice h) = some (headingIp h) := by
  cases h with
  | lossEvent ip => exact ⟨readsBack_string _, rfl⟩
  | searchResults => exact ⟨readsBack_null, rfl⟩
  | cancelled => exact ⟨readsBack_null, rfl⟩
  | finished => exact ⟨readsBack_null, rfl⟩

/-- A whole report reads back as an object, and tells all of its facts. -/
theorem readsBack_report (h : Heading) {s : Summary} (hs : Writable s) :
    ∃ members, ReadsBack 4 (report h s) (.object members) ∧
      readReport (.object members) = some (facts h s) := by
  obtain ⟨v2, hv2, hread2⟩ := readsBack_devices hs.v2
  obtain ⟨v3, hv3, hread3⟩ := readsBack_devices hs.v3
  obtain ⟨hip, hreadIp⟩ := readsBack_headingDevice 3 h
  have hsummary := readsBack_object (.cons ((readsBack_nat hs.count).named "count")
    (.cons ((readsBack_string (toString s.generatedAt)).named "generatedAt")
    (.cons (hv2.named "v2") (.cons (hv3.named "v3") .nil))))
  refine ⟨_, readsBack_object (.cons ((readsBack_string _).named _)
    (.cons (hip.named _) (.cons (hsummary.named _) .nil))), ?_⟩
  simp [readReport, get?, member?, readString, hreadIp, hread2, hread3, facts]

/-- A report is written as its object. -/
theorem toList_render (h : Heading) (s : Summary) : (render h s).toList = (report h s).chars :=
  String.toList_ofList

/-- The line of a report decides what it tells. -/
theorem facts_eq_of_render_eq {h h' : Heading} {s s' : Summary} (hs : Writable s)
    (hs' : Writable s') (heq : render h s = render h' s') : facts h s = facts h' s' := by
  obtain ⟨members, hback, hread⟩ := readsBack_report h hs
  obtain ⟨members', hback', hread'⟩ := readsBack_report h' hs'
  have hparse := hback.parseChars_eq (by decide)
  have hparse' := hback'.parseChars_eq (by decide)
  rw [← toList_render, heq, toList_render, hparse'] at hparse
  cases hparse
  rw [hread] at hread'
  exact Option.some.inj hread'

/-- A report is one line of JSON that tells all there is to tell, so reports that tell different
    things are different lines. -/
theorem report_line_tells (h : Heading) (s : Summary) (hs : Writable s) :
    Printable (render h s).toList ∧
      (∃ members, parseChars (render h s).toList = .ok (.object members) ∧
        readReport (.object members) = some (facts h s)) ∧
      ∀ h' s', Writable s' → facts h' s' ≠ facts h s → render h' s' ≠ render h s := by
  obtain ⟨members, hback, hread⟩ := readsBack_report h hs
  rw [toList_render]
  refine ⟨hback.1, ⟨members, hback.parseChars_eq (by decide), hread⟩, ?_⟩
  intro h' s' hs' hne heq
  exact hne (facts_eq_of_render_eq hs' hs heq)

/-- A device with an address of all kinds of characters and without a loss rate. -/
def oddDevice : Snapshot := ⟨"\"\\\n\x00é", .v3, .epoch, ⟨1, 0, Stats.counterMax, .nan⟩⟩

/-- A device whose name has quotes, control characters and a letter beyond ASCII in it, with the
    greatest counter there is and a rate that is no number. -/
theorem report_line_tells_odd_device :
    Writable ⟨.epoch, [], [oddDevice], 1⟩ ∧
      Printable (render .finished ⟨.epoch, [], [oddDevice], 1⟩).toList ∧
      (∃ members,
        parseChars (render .finished ⟨.epoch, [], [oddDevice], 1⟩).toList = .ok (.object members) ∧
          readReport (.object members) = some ⟨"finished", none, 1, [],
            [⟨"\"\\\n\x00é", .v3, 1, 0, 2 ^ 64 - 1, false⟩]⟩) ∧
      render .cancelled ⟨.epoch, [], [oddDevice], 1⟩ ≠
        render .finished ⟨.epoch, [], [oddDevice], 1⟩ := by
  have hwritable : Writable ⟨.epoch, [], [oddDevice], 1⟩ := by
    refine ⟨by decide, nofun, fun d hd hfinite => ?_⟩
    cases List.mem_singleton.mp hd
    exact absurd hfinite (by decide)
  obtain ⟨hprintable, hread, hdiffer⟩ := report_line_tells .finished _ hwritable
  exact ⟨hwritable, hprintable, hread, hdiffer .cancelled _ hwritable (by decide)⟩

end LossProbe.JsonReport
