import PolledChannels.Failure.Basic
import PolledChannels.Log.Entry

/-!
# Writing logs

An emitter numbers the entries of a run: its trace ids are component, run and number, divided by
double colons. A sink writes the events of channels through an emitter and marks entries with the
scenario in force.

Lines go to a file, to nowhere, or to a device without room, which takes as many bytes as the buffer
before it holds and then fails.
-/

namespace PolledChannels.Log

inductive Target where
  /-- A file; `lines` holds what was written, last first. -/
  | file (lines : List String)
  | discard
  /-- A device without room, behind a buffer that holds `buffered` bytes. -/
  | full (buffered : Nat)
  deriving DecidableEq, Repr

namespace Target

def bufferSize : Nat := 8192

/-- Puts `size` bytes into the buffer before a device without room. -/
def putBytes (buffered size : Nat) : Except Nat Nat :=
  if size ≤ bufferSize - buffered ∧ size < bufferSize then .ok (buffered + size)
    else .error buffered

def writeLine (t : Target) (line : String) : Target × IoResult :=
  match t with
  | file lines => (file (line :: lines), .ok ())
  | discard => (discard, .ok ())
  | full buffered =>
    match putBytes buffered line.utf8ByteSize with
    | .error kept => (full kept, .error (.os .noSpace))
    | .ok buffered =>
      match putBytes buffered 1 with
      | .error kept => (full kept, .error (.os .noSpace))
      | .ok buffered => (full buffered, .ok ())

/-- Hands everything buffered to the file or the device. -/
def flush (t : Target) : IoResult :=
  match t with
  | full buffered => if buffered = 0 then .ok () else .error (.os .noSpace)
  | _ => .ok ()

def written : Target → List String
  | file lines => lines.reverse
  | _ => []

end Target

/-- Writes entries with trace ids of one run. -/
structure Emitter where
  component : String
  runId : String
  target : Target
  /-- The number that was taken last; the word goes round after the highest. -/
  count : UInt64 := 0
  deriving DecidableEq, Repr

namespace Emitter

def traceId (e : Emitter) (n : UInt64) : String :=
  e.component ++ "::" ++ e.runId ++ "::" ++ Text.padded 3 n.toNat

/-- Takes the next number. -/
def advance (e : Emitter) : Emitter × String :=
  let n := e.count + 1
  ({ e with count := n }, e.traceId n)

def writeEntry (e : Emitter) (entry : Entry) : Emitter × IoResult :=
  let r := e.target.writeLine entry.line
  ({ e with target := r.1 }, r.2)

/-- Writes an entry with the next trace id and nothing but level and event. -/
def emit (e : Emitter) (clock : Clock) (level : Level) (event : String) :
    Emitter × Except IoError Entry :=
  let (e, traceId) := e.advance
  let entry : Entry := { timestamp := clock.timestamp, traceId, level, event }
  let (e, r) := e.writeEntry entry
  (e, r.map fun _ => entry)

/-- Writes an entry; one without a trace id gets the next. -/
def emitEntry (e : Emitter) (entry : Entry) : Emitter × IoResult :=
  if entry.traceId.isEmpty then
    let (e, traceId) := e.advance
    e.writeEntry { entry with traceId }
  else e.writeEntry entry

def flush (e : Emitter) : IoResult := e.target.flush

end Emitter

/-- Writes the events of channels through an emitter. -/
structure Sink where
  emitter : Emitter
  stream : Stream
  scenario : Option String := none
  deriving DecidableEq, Repr

namespace Sink

/-- Marks later entries with a scenario, or with none. -/
def setScenario (s : Sink) (scenario : Option String) : Sink := { s with scenario }

/-- Writes an entry, marked with the scenario in force unless it has one. -/
def record (s : Sink) (entry : Entry) : Sink × IoResult :=
  let scenario := match entry.scenario with
    | some name => some name
    | none => s.scenario
  let r := s.emitter.emitEntry { entry with scenario }
  ({ s with emitter := r.1 }, r.2)

/-- Writes a channel event. A channel does not fail because its log does. -/
def emit (s : Sink) (clock : Clock) (e : Event) : Sink :=
  (s.record { Entry.ofEvent clock e with stream := some s.stream }).1

def flush (s : Sink) : IoResult := s.emitter.flush

def describe (s : Sink) : String :=
  s!"LogSink \x7b stream: {s.stream.describe}, .. \x7d"

end Sink
end PolledChannels.Log
