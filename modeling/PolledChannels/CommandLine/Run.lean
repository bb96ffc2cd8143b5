import PolledChannels.CommandLine.Arguments
import PolledChannels.CommandLine.Directory
import PolledChannels.Log.Validation
import PolledChannels.Scenario.Run

/-!
# Running the command line

A command writes to two streams and ends with a code: 0 if all went well, 1 if the command failed, 2
if the arguments make no sense.
-/

namespace PolledChannels.CommandLine

structure Exit where
  code : Nat := 0
  stdout : String := ""
  stderr : String := ""
  deriving DecidableEq, Repr

namespace Exit

/-- The exit with a failure, which is shown last. -/
def failing (e : Exit) (shown : String) : Exit :=
  { e with code := 1, stderr := e.stderr ++ "Error: " ++ shown ++ "\n" }

end Exit

/-- The component under which the entries of a log stand. -/
def component : String := "frankennet"

def sinkFor (runId : String) (target : Log.Target) : Log.Sink :=
  { emitter := { component, runId, target }, stream := .endToEnd }

def scenarioExit (log : Option String) : Except Scenario.Problem Scenario.Summary → Exit
  | .error p => Exit.failing {} p.describe
  | .ok summary =>
    let written := match log with
      | some path => s!"Structured log written to {path}\n"
      | none => ""
    let e : Exit := { stdout := summary.text ++ "\n", stderr := written }
    if summary.allPassed then e
    else e.failing (Text.quoted s!"{summary.failed} of {summary.total} scenarios failed")

def validationExit (path : String) : Except IoError (Nat × List Log.Violation) → Exit
  | .error e => Exit.failing {} e.describe
  | .ok (lines, violations) =>
    let shown := String.join (violations.map fun v => v.render ++ "\n")
    if violations.isEmpty then { stderr := s!"{path}: {lines} line(s) valid\n" }
    else
      Exit.failing { stderr := shown }
        (Text.quoted s!"{violations.length} validation error(s) in {lines} line(s) of {path}")

def validate (path : String) (content : Except IoError ByteArray) : Exit :=
  validationExit path (content.bind fun bytes => Log.validateBytes (some bytes))

def programHelp : String :=
  "Loopback scenario runner and log validator for frankennet\n\n" ++
  "Usage: harness <COMMAND>\n\nCommands:\n" ++
  "  scenarios     Run the loopback end-to-end scenarios and print a JSON report\n" ++
  "  validate-log  Validate a JSONL file against the structured log contract\n" ++
  "  list          List scenario names\n" ++
  "  help          Print this message or the help of the given subcommand(s)\n\n" ++
  "Options:\n  -h, --help  Print help\n"

def commandHelp : String → String
  | "scenarios" =>
    "Run the loopback end-to-end scenarios and print a JSON report\n\n" ++
    "Usage: harness scenarios [OPTIONS]\n\nOptions:\n" ++
    "      --only <ONLY>      Run a single scenario by name\n" ++
    "      --log <LOG>        Write structured JSONL events to this path\n" ++
    "      --run-id <RUN_ID>  Run id embedded in trace ids [default: local]\n" ++
    "  -h, --help             Print help\n"
  | "validate-log" =>
    "Validate a JSONL file against the structured log contract\n\n" ++
    "Usage: harness validate-log --log <LOG>\n\nOptions:\n" ++
    "      --log <LOG>  \n  -h, --help       Print help\n"
  | "help" =>
    "Print this message or the help of the given subcommand(s)\n\n" ++
    "Usage: harness help [COMMAND]...\n\n" ++
    "Arguments:\n  [COMMAND]...  Print help for the subcommand(s)\n"
  | _ => "List scenario names\n\nUsage: harness list\n\nOptions:\n  -h, --help  Print help\n"

def misuse : Exit := { code := 2, stderr := programHelp }

def listing : String := String.join (Scenario.Name.all.map fun n => n.text ++ "\n")

def Invocation.run (host : Host) (clock : Clock) (d : Directory) : Invocation → Exit × Directory
  | .list => ({ stdout := listing }, d)
  | .help command => ({ stdout := (command.map commandHelp).getD programHelp }, d)
  | .validateLog path => (validate path (d.read path), d)
  | .scenarios only none _ => (scenarioExit none (Scenario.run host clock only none).1, d)
  | .scenarios only (some path) runId =>
    match d.create path with
    | (.error e, d) => (Exit.failing {} e.describe, d)
    | (.ok target, d) =>
      let (outcome, sink) := Scenario.run host clock only (some (sinkFor runId target))
      let lines := (sink.map fun s => s.emitter.target.written).getD []
      (scenarioExit (some path) outcome, d.store path lines)

def run (host : Host) (clock : Clock) (d : Directory) (args : List String) : Exit × Directory :=
  match parse args with
  | none => (misuse, d)
  | some invocation => invocation.run host clock d

end PolledChannels.CommandLine
