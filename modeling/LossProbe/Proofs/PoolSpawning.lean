import LossProbe.Network.Host
import LossProbe.Proofs.MonitorReports

/-!
# A pool opens all its sockets or keeps none

`Pool.spawn` is told beforehand what opening each socket comes to. Here a `Process` creates the pool
step by step, with the sockets that it has left: it opens one for each device, and starts the
workers only when it has all of them; a failure on the way drops the workers that have sockets, and
these are closed. Both come to the same (`spawn_eq`), so a process that fails is as it was before
(`spawn_all_or_nothing`).
-/

namespace LossProbe

open Probe

/-- A process that creates pools, and all that doing so could touch. -/
structure Process where
  host : Host
  /-- How many sockets are open. -/
  opened : Nat := 0
  registry : Registry
  /-- Whether the run was cancelled. -/
  cancelled : Bool := false
  /-- The workers that were started. -/
  tasks : List Worker := []
  /-- What was sent, logged and reported. -/
  trace : Trace := []

namespace Process

/-! ## Step by step -/

/-- Make a worker for a device, with a socket of its own. -/
def bind (c : ProbeConfig) (x : Process) (d : Device) : Except BindError Worker × Process :=
  match x.host.openSocket x.opened with
  | .ok () => (.ok { target := .ofDevice c d }, { x with opened := x.opened + 1 })
  | .error cause => (.error ⟨d.ip, cause⟩, x)

/-- Drop workers that were not started. Their sockets are closed. -/
def drop (x : Process) (bound : List Worker) : Process :=
  { x with opened := x.opened - bound.length }

/-- Make a worker for each of some devices, behind those that were made before. The first failure
    drops them all. -/
def bindAll (c : ProbeConfig) (bound : List Worker) (x : Process) :
    List Device → Except BindError (List Worker) × Process
  | [] => (.ok bound, x)
  | d :: ds =>
    match x.bind c d with
    | (.ok w, x) => bindAll c (bound ++ [w]) x ds
    | (.error e, x) => (.error e, x.drop bound)

/-- Start a worker. -/
def start (x : Process) (w : Worker) : Process := { x with tasks := x.tasks ++ [w] }

/-- Create a pool for the devices of the registry. -/
def spawn (c : ProbeConfig) (x : Process) : Except BindError Pool × Process :=
  match x.bindAll c [] x.registry.toList with
  | (.error e, x) => (.error e, x)
  | (.ok workers, x) =>
    let x := workers.foldl start x
    (.ok ⟨c, x.registry, x.cancelled, workers, [], [], .waiting, 0⟩,
      { x with trace := x.trace ++ [.log (.poolStarted workers.length)] })

/-! ## What opening the sockets comes to -/

/-- What is wrong with the socket of a device of this number, if anything is. -/
def refusal (socket : Nat → Except IoError Unit) : Device × Nat → Option BindError := fun (d, i) =>
  match socket i with
  | .ok () => none
  | .error cause => some ⟨d.ip, cause⟩

/-- The first device without a socket is found by going through the list once. -/
theorem bindError?_eq (r : Registry) (socket : Nat → Except IoError Unit) :
    Pool.bindError? r socket = r.toList.zipIdx.findSome? (refusal socket) := rfl

/-- Workers are made one after the other, up to the first failure. This drops those that were made
    by then, also those before the first of these devices. -/
theorem bindAll_eq (c : ProbeConfig) (ds : List Device) (bound : List Worker) (x : Process)
    {before n : Nat} (opened : x.opened = before + n) :
    x.bindAll c bound ds =
      match (ds.zipIdx n).findSome? (refusal fun i => x.host.openSocket (before + i)) with
      | none => (.ok (bound ++ ds.map fun d => { target := .ofDevice c d }),
          { x with opened := x.opened + ds.length })
      | some e => (.error e, x.drop bound) := by
  -- The process changes with each socket, and so does the number of the next device.
  induction ds generalizing bound x n with
  | nil => simp [bindAll]
  | cons d ds ih =>
    rw [bindAll, bind, List.zipIdx_cons, List.findSome?_cons, refusal, ← opened]
    cases hsocket : x.host.openSocket x.opened with
    | error cause => rfl
    | ok _ =>
      have hnext : x.opened + 1 = before + (n + 1) := by omega
      have hrest := ih (bound ++ [(⟨.ofDevice c d, .created⟩ : Worker)])
        { x with opened := x.opened + 1 } hnext
      dsimp only at hrest ⊢
      rw [hrest]
      cases (ds.zipIdx (n + 1)).findSome? (refusal fun i => x.host.openSocket (before + i)) with
      | none => simp [Nat.add_right_comm, Nat.add_assoc]
      | some e =>
        -- The socket of `d` is closed with the others.
        simp [drop, Nat.add_sub_add_right]

/-- The workers are started one after the other, in the order of the list. -/
theorem foldl_start (x : Process) (ws : List Worker) :
    ws.foldl start x = { x with tasks := x.tasks ++ ws } := by
  induction ws generalizing x with
  | nil => simp
  | cons w ws ih => simp [ih, start]

/-- Creating a pool step by step comes to what `Pool.spawn` says, and a failure changes nothing. -/
theorem spawn_eq (c : ProbeConfig) (x : Process) :
    x.spawn c =
      match Pool.spawn c x.registry x.cancelled fun i => x.host.openSocket (x.opened + i) with
      | .error e => (.error e, x)
      | .ok (p, opening) => (.ok p, { x with
          opened := x.opened + p.workers.length
          tasks := x.tasks ++ p.workers
          trace := x.trace ++ opening }) := by
  rw [spawn, bindAll_eq c x.registry.toList [] x (Nat.add_zero x.opened).symm, Pool.spawn,
    bindError?_eq]
  cases x.registry.toList.zipIdx.findSome? (refusal fun i => x.host.openSocket (x.opened + i)) with
  | none => simp [foldl_start]
  | some e => rfl

/-- The first device without a socket is the one whose number is the number of sockets that are
    left. -/
theorem bindError?_of_limit {h : Host} {limit : Nat} (limited : h.socketLimit = some limit)
    (opened : Nat) (r : Registry) :
    Pool.bindError? r (fun i => h.openSocket (opened + i)) =
      r.toList[limit - opened]?.map fun d => ⟨d.ip, .tooManyOpenFiles⟩ := by
  suffices ∀ (ds : List Device) (n : Nat), n ≤ limit - opened →
      (ds.zipIdx n).findSome? (refusal fun i => h.openSocket (opened + i)) =
        ds[limit - opened - n]?.map fun d => ⟨d.ip, .tooManyOpenFiles⟩ from
    this r.toList 0 (Nat.zero_le _)
  intro ds
  induction ds with
  | nil => simp
  | cons d ds ih =>
    intro n hn
    rw [List.zipIdx_cons, List.findSome?_cons, refusal, Host.openSocket, limited]
    -- The sockets last up to the device whose number is how many were left in the beginning.
    by_cases hleft : n = limit - opened
    · have hfull : ¬ opened + n < limit := by omega
      have hfirst : limit - opened - n = 0 := by omega
      simp [hfull, hfirst]
    · have hfree : opened + n < limit := by omega
      have hlater : limit - opened - n = limit - opened - (n + 1) + 1 := by omega
      simp only [hfree, if_true]
      rw [ih (n + 1) (by omega), hlater, List.getElem?_cons_succ]

/-- A pool of which every device has one worker, which sends to the address of the device and to the
    port of its version. -/
structure OneEach (c : ProbeConfig) (r : Registry) (p : Pool) : Prop where
  targets : p.workers.map Worker.target = r.toList.map (Target.ofDevice c)
  once : ∀ d ∈ r.devices, p.workers.countP (fun w => w.target.ip = d.ip) = 1
  dest : ∀ w ∈ p.workers, ∃ d ∈ r.devices, w.target.dest = ⟨d.ip, c.portFor d.version⟩
  created : ∀ w ∈ p.workers, w.phase = .created

/-- A pool that was spawned has one worker for each device. -/
theorem oneEach_of_spawn {c : ProbeConfig} {r : Registry} {cancelled : Bool}
    {socket : Nat → Except IoError Unit} {p : Pool} {opening : Trace}
    (spawned : Pool.spawn c r cancelled socket = .ok (p, opening)) : OneEach c r p := by
  have hips := Pool.workerIps_of_spawn spawned
  obtain ⟨rfl, -⟩ := Pool.eq_of_spawn spawned
  constructor
  case targets => simp
  case once =>
    intro d hd
    have hmem : d.ip ∈ r.toList.map Device.ip :=
      List.mem_map.2 ⟨d, r.toList_perm.mem_iff.2 hd, rfl⟩
    -- The addresses of the workers are those of the devices, and these are distinct.
    have hcount := List.count_eq_one_of_mem r.nodup_map_ip_toList hmem
    rw [← hips, Pool.workerIps, List.count_eq_countP, List.countP_map] at hcount
    exact hcount
  case dest =>
    intro w hw
    obtain ⟨d, hd, rfl⟩ := List.mem_map.1 hw
    exact ⟨d, r.toList_perm.mem_iff.1 hd, rfl⟩
  case created =>
    intro w hw
    obtain ⟨d, -, rfl⟩ := List.mem_map.1 hw
    rfl

section Limited

variable {c : ProbeConfig} {x : Process} {limit : Nat}

/-- With a socket left for each device a pool is created. -/
theorem spawn_of_enough (limited : x.host.socketLimit = some limit)
    (enough : x.registry.toList.length ≤ limit - x.opened) : ∃ p,
      x.spawn c = (.ok p, { x with
        opened := x.opened + x.registry.toList.length
        tasks := x.tasks ++ p.workers
        trace := x.trace ++ [.log (.poolStarted x.registry.toList.length)] }) ∧
      OneEach c x.registry p ∧ p.registry = x.registry ∧ p.cancelled = x.cancelled := by
  -- There are sockets for all devices, so none of them is refused.
  have hnone := bindError?_of_limit limited x.opened x.registry
  rw [List.getElem?_eq_none enough] at hnone
  obtain ⟨⟨p, opening⟩, spawned⟩ : ∃ made, Pool.spawn c x.registry x.cancelled
      (fun i => x.host.openSocket (x.opened + i)) = .ok made := by
    rw [Pool.spawn, hnone]
    exact ⟨_, rfl⟩
  obtain ⟨hp, hopening⟩ := Pool.eq_of_spawn spawned
  have hspawn := spawn_eq c x
  rw [spawned] at hspawn
  refine ⟨p, ?_, oneEach_of_spawn spawned, ?_, ?_⟩
  · rw [hspawn, hopening, hp]
    simp
  · rw [hp]
  · rw [hp]

/-- With too few sockets left nothing has changed when the first device without one is named. -/
theorem spawn_of_short (limited : x.host.socketLimit = some limit)
    (short : limit - x.opened < x.registry.toList.length) :
    x.spawn c = (.error ⟨x.registry.toList[limit - x.opened].ip, .tooManyOpenFiles⟩, x) := by
  have hsome := bindError?_of_limit limited x.opened x.registry
  rw [List.getElem?_eq_getElem short] at hsome
  rw [spawn_eq, Pool.spawn, hsome]
  rfl

end Limited

/-! ## Main result -/

/-- Creating a pool is all or nothing. With a socket left for each device it succeeds: the sockets
    are open, and the workers were started, one for each device; nothing else has changed but for
    the log. With fewer it fails for the first device without one, in the order of the registry, and
    leaves the process as it was. So whatever comes between, a pool that is created later is not
    different for it. The result is that of `Pool.spawn`. -/
theorem spawn_all_or_nothing (c : ProbeConfig) (x : Process) {limit : Nat}
    (limited : x.host.socketLimit = some limit) :
    let devices := x.registry.toList
    let left := limit - x.opened
    (devices.length ≤ left → ∃ p,
      x.spawn c = (.ok p, { x with
        opened := x.opened + devices.length
        tasks := x.tasks ++ p.workers
        trace := x.trace ++ [.log (.poolStarted devices.length)] }) ∧
      OneEach c x.registry p ∧ p.registry = x.registry ∧ p.cancelled = x.cancelled) ∧
    (∀ h : left < devices.length,
      x.spawn c = (.error ⟨devices[left].ip, .tooManyOpenFiles⟩, x) ∧
      ∀ (between : Process → Process) (c' : ProbeConfig),
        (between (x.spawn c).2).spawn c' = (between x).spawn c') ∧
    (x.spawn c).1 = (Pool.spawn c x.registry x.cancelled
      fun i => x.host.openSocket (x.opened + i)).map Prod.fst := by
  intro devices left
  refine ⟨spawn_of_enough limited, ?_, ?_⟩
  · intro short
    have hfail := spawn_of_short (c := c) limited short
    constructor
    · exact hfail
    · intro between c'
      rw [hfail]
  · -- The loop over the sockets comes to what the pool alone would.
    rw [spawn_eq c x]
    cases Pool.spawn c x.registry x.cancelled fun i => x.host.openSocket (x.opened + i) <;> rfl

/-- With two sockets left for three devices the one of the third version has none, although it was
    found first. Once two more sockets were closed, all three get one. -/
theorem spawn_all_or_nothing_of_three :
    let third : Device := ⟨.v4 192 168 137 10, .v3, .epoch, { sent := 7, lost := 2 }⟩
    let registry : Registry := ⟨[third, ⟨.v4 192 168 137 20, .v2, .epoch, {}⟩,
      ⟨.v4 192 168 137 30, .v2, .epoch, {}⟩], by decide⟩
    let x : Process := { host := { socketLimit := some 5 }, opened := 3, registry }
    let free : Process → Process := fun y => { y with opened := y.opened - 2 }
    x.host.socketLimit = some 5 ∧ 5 - x.opened < x.registry.toList.length ∧
      x.spawn {} = (.error ⟨third.ip, .tooManyOpenFiles⟩, x) ∧
      (free x).host.socketLimit = some 5 ∧
      (free x).registry.toList.length ≤ 5 - (free x).opened ∧
      ∃ p, ((free (x.spawn {}).2).spawn {}).1 = .ok p ∧ OneEach {} registry p := by
  intro third registry x free
  have hshort : 5 - x.opened < x.registry.toList.length := by decide
  have henough : (free x).registry.toList.length ≤ 5 - (free x).opened := by decide
  have hlimit : x.host.socketLimit = some 5 := rfl
  have hlimit' : (free x).host.socketLimit = some 5 := rfl
  -- The two sockets that are left are not enough; after two others were closed they are.
  obtain ⟨-, hfail, -⟩ := spawn_all_or_nothing {} x hlimit
  obtain ⟨herror, hlater⟩ := hfail hshort
  obtain ⟨hsuccess, -⟩ := spawn_all_or_nothing {} (free x) hlimit'
  obtain ⟨p, hp, hone, -⟩ := hsuccess henough
  refine ⟨hlimit, hshort, herror, hlimit', henough, p, ?_, hone⟩
  rw [hlater free {}, hp]

end Process
end LossProbe
