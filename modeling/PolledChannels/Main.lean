import PolledChannels.CommandLine.Run
import Std.Time.DateTime.Timestamp

/-!
# The program

Reads the arguments, opens the files that the command names and writes what the command
says. Scenarios run on the network of this library, with a machine that can reach itself; they open
no sockets of the system.
-/

namespace PolledChannels
namespace Program

/-- The failure behind a failure of the system, whose number some calls report negated. -/
def ioErrorOf : IO.Error → IoError
  | .alreadyExists _ n _ | .otherError n _ | .resourceBusy n _ | .resourceVanished n _
  | .unsupportedOperation n _ | .hardwareFault n _ | .unsatisfiedConstraints n _
  | .illegalOperation n _
  | .protocolError n _ | .timeExpired n _ | .interrupted _ n _ | .noFileOrDirectory _ n _
  | .invalidArgument _ n _ | .permissionDenied _ n _ | .resourceExhausted _ n _
  | .inappropriateType _ n _ | .noSuchThing _ n _ => .os ⟨n.toInt32.toInt.natAbs⟩
  | .unexpectedEof => .simple .unexpectedEof
  | .userError text => .custom .other text

def attempt {α : Type} (work : IO α) : IO (Except IoError α) := do
  match ← work.toBaseIO with
  | .ok a => return .ok a
  | .error e => return .error (ioErrorOf e)

def readClock : IO Clock := do
  let now := (← Std.Time.Timestamp.now).toNanosecondsSinceUnixEpoch.val
  return ⟨now / 1000000000, (now % 1000000000).toNat⟩

def writeLog (h : IO.FS.Handle) (sink : Option Log.Sink) : IO Unit := do
  h.putStr
    (String.join (((sink.map fun s => s.emitter.target.written).getD []).map fun l => l ++ "\n"))
  h.flush

def runLogged (only : Option String) (path runId : String) : IO CommandLine.Exit := do
  match ← attempt (IO.FS.Handle.mk path .write) with
  | .error e => return CommandLine.Exit.failing {} e.describe
  | .ok h =>
    let sink := CommandLine.sinkFor runId (.file [])
    let (outcome, sink) := Scenario.run .loopback (← readClock) only (some sink)
    match outcome, ← attempt (writeLog h sink) with
    | .ok _, .error e => return CommandLine.scenarioExit (some path) (.error (.io e))
    | outcome, _ => return CommandLine.scenarioExit (some path) outcome

def execute : CommandLine.Invocation → IO CommandLine.Exit
  | .validateLog path => return CommandLine.validate path (← attempt (IO.FS.readBinFile path))
  | .scenarios only (some path) runId => runLogged only path runId
  | other => return (other.run .loopback (← readClock) {}).1

def run (args : List String) : IO CommandLine.Exit :=
  match CommandLine.parse args with
  | none => return CommandLine.misuse
  | some invocation => execute invocation

end Program
end PolledChannels

def main (args : List String) : IO UInt32 := do
  let exit ← PolledChannels.Program.run args
  IO.print exit.stdout
  IO.eprint exit.stderr
  return exit.code.toUInt32
