import LossProbe.CommandLine.Color
import LossProbe.CommandLine.Parser
import LossProbe.Log.Filter
import LossProbe.Net.Socket
import Std.Async.Signal
import Std.Sync.Mutex
import Std.Time.DateTime.Timestamp

/-! # The program

Reads the command line and goes through the command with real sockets, the real clock and Ctrl+C.
What is done at each event is decided by `Monitor.step`; here the events are brought about, one at
a time, and what the run does is written. -/

namespace LossProbe

/-- The time it is. -/
def Timestamp.current : IO Timestamp := do
  let d := (← Std.Time.Timestamp.now).val
  return ⟨d.second.val, d.nano.val.toNat⟩

/-- A run under way. -/
structure Session where
  console : Console
  filter : Log.Filter
  logColors : Bool
  monitor : Std.Mutex Monitor

namespace Session

/-- How long a wait may go on before the run is looked at again, in milliseconds. -/
def slice : Nat := 20

/-- Write a line to the error output. -/
def writeError (line : String) : IO Unit := do
  let stream ← IO.getStderr
  stream.putStrLn line
  stream.flush

/-- Write what a run did. -/
def write (s : Session) (t : Trace) : IO Unit := do
  let now ← Timestamp.current
  for output in s.console.outputs now t do
    match output with
    | .print text =>
      let stream ← IO.getStdout
      stream.putStrLn text
      stream.flush
    | .log e => if s.filter.allows e then writeError (e.line s.logColors now.microChars)

/-- Go on by events that depend on the state of the run, with nobody in between. -/
def advance (s : Session) (events : Monitor → IO (List Monitor.Event)) : IO Unit :=
  s.monitor.atomically (m := IO) do
    let m ← get
    let (m, trace) := m.run (← events m)
    set m
    s.write trace

def apply (s : Session) (e : Monitor.Event) : IO Unit := s.advance fun _ => pure [e]

/-- The run as it is. -/
def look (s : Session) : IO Monitor := s.monitor.atomically (m := IO) get

/-- Ctrl+C ends the collecting of replies, and the workers stop on their own. -/
def interrupt (s : Session) : IO Unit :=
  s.advance fun _ => pure [.interrupt, .discovery .cancelled]

/-- Listen for Ctrl+C. -/
def listen (s : Session) : IO Unit := do
  let awaited : IO (Std.Async.AsyncTask Int) := do
    (← Std.Async.Signal.Waiter.mk .sigint true).wait
  match ← awaited.toBaseIO with
  | .ok signal => discard <| signal.mapIO fun _ => s.interrupt
  | .error e => s.write [.log (.notListening (.ofSystem e))]

/-- How long to pause after a failure to receive, in milliseconds. -/
def pause : UInt32 := 10

/-- Collect replies until the window closes. -/
partial def collect (s : Session) (socket : Socket) (deadline : Nat) : IO Unit := do
  if let .discovering _ := (← s.look).stage then
    let now ← IO.monoMsNow
    if deadline ≤ now then s.apply (.discovery .timeUp)
    else
      match ← socket.receive Discovery.datagramLimit (min slice (deadline - now)) with
      | .ok (some d) =>
        let time ← Timestamp.current
        s.apply (.discovery (.datagram d.source d.octets time))
      | .ok none => pure ()
      | .error cause =>
        s.apply (.discovery (.receiveFailed cause))
        IO.sleep pause
      s.collect socket deadline

/-- The phase of a device's worker. -/
def phase? (m : Monitor) (ip : IpAddr) : Option Probe.Phase := do
  return (← (← m.pool?).workers.find? fun w => w.target.ip = ip).phase

/-- Wait for the reply to a probe, unless the worker is aborted. -/
partial def await (s : Session) (t : Probe.Target) (socket : Socket) (deadline : Nat) :
    IO Probe.Reception := do
  let now ← IO.monoMsNow
  match ← socket.receive Discovery.datagramLimit (min slice (deadline - now)) with
  | .ok (some _) => return .datagram
  | .error cause => return .failed cause
  | .ok none =>
    if deadline ≤ now + slice then return .timedOut
    -- The wait of an aborted worker is given up; what it came to does not matter.
    match phase? (← s.look) t.ip with
    | some .awaiting => s.await t socket deadline
    | _ => return .timedOut

/-- The work of one worker: a probe is sent in the same moment in which it is counted. -/
partial def work (s : Session) (t : Probe.Target) (socket : Socket) (timeoutMs : Nat) :
    IO Unit := do
  match phase? (← s.look) t.ip with
  | some .created | some .ready =>
    s.advance fun m => do
      if m.isCancelled then return [.turn t.ip {}]
      let sent ← socket.send t.dest t.version.probePayload
      return [.turn t.ip { sent }]
    s.work t socket timeoutMs
  | some .awaiting =>
    let received ← s.await t socket ((← IO.monoMsNow) + timeoutMs)
    s.apply (.turn t.ip { received })
    s.work t socket timeoutMs
  | some .lost =>
    s.apply (.turn t.ip {})
    s.work t socket timeoutMs
  | _ => return

/-- Open a socket for every device, and start the workers. -/
def openSockets (s : Session) (c : ProbeConfig) (registry : Registry) : IO Unit := do
  let targets := (registry.toList.map (Probe.Target.ofDevice c)).toArray
  let sockets ← targets.mapM fun _ => (Socket.open? false : IO (Except IoError Socket))
  s.apply (.sockets fun i => (sockets.getD i (.error (.other ""))).map fun _ => ())
  if let .probing _ := (← s.look).stage then
    for (t, socket) in targets.zip sockets do
      if let .ok socket := socket then
        discard <| IO.asTask (s.work t socket c.receiveTimeoutMs.toNat) .dedicated

/-- Wait until the run begins to close. -/
partial def supervise (s : Session) : IO Unit := do
  s.apply (.wake .cancellation)
  if let .probing _ := (← s.look).stage then
    IO.sleep slice.toUInt32
    s.supervise

/-- Wait until all workers are collected, or the time for closing is over. -/
partial def close (s : Session) (deadline : Nat) : IO Unit := do
  s.apply (.wake .workers)
  if let .closing .. := (← s.look).stage then
    if deadline ≤ (← IO.monoMsNow) then s.apply .deadline
    else
      IO.sleep slice.toUInt32
      s.close deadline

/-- Probe the devices that were found. -/
def probe (s : Session) (o : Monitor.Options) : IO Unit := do
  s.apply .proceed
  if let .opening registry := (← s.look).stage then
    s.openSockets o.probe registry
    s.supervise
    s.close ((← IO.monoMsNow) + o.shutdownTimeoutMs.toNat)

end Session

/-- Go through a command. -/
def Invocation.perform (i : Invocation) (env : CommandLine.Environment) :
    IO (Except CommandError Unit) := do
  let o := i.command.options
  let colors := CommandLine.reportColors env (← (← IO.getStdout).isTty)
  let socket ← Socket.open? true
  let sent ← match socket with
    | .ok socket => socket.send o.discovery.target (Utf8.encode o.discovery.message)
    | .error cause => pure (.error cause)
  let (m, trace) := Monitor.start o false (socket.map fun _ => ()) sent
  let s : Session :=
    ⟨i.console colors, .choose (env "RUST_LOG") i.verbose, CommandLine.logColors env,
      ← Std.Mutex.new m⟩
  s.listen
  s.write trace
  if let .ok socket := socket then
    s.collect socket ((← IO.monoMsNow) + o.discovery.timeoutMs.toNat)
  if let .monitor o _ := i.command then s.probe o
  return Command.result (← s.look)

/-- The variables that the program reads. -/
def environmentNames : List String :=
  "RUST_LOG" :: CommandLine.colorVariables ++
    CommandLine.Scope.monitor.ownArguments.filterMap CommandLine.Argument.envName?

end LossProbe

open LossProbe in
def main (args : List String) : IO UInt32 := do
  let given ← environmentNames.filterMapM fun name => do
    return (← IO.getEnv name).map fun value => (name, value)
  let env : CommandLine.Environment := fun name => given.lookup name
  match CommandLine.parse env args with
  | .error e =>
    let stream ← if e.isAnswer then IO.getStdout else IO.getStderr
    stream.putStr (e.output env (CommandLine.messageColors env (← stream.isTty)))
    return e.exitCode.toUInt32
  | .ok i =>
    let result ← i.perform env
    if let .error e := result then Session.writeError s!"Error: {e.message}"
    return (ExitCode.ofResult result).toNat.toUInt32
