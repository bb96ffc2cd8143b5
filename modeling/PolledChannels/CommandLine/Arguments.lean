/-!
# Arguments of the command line

Three commands: run scenarios, validate a log, list the scenarios. Options are long; a value stands
in the same argument after an equals sign, or in the next argument, and then it does not start with
a dash unless it is one.
-/

namespace PolledChannels.CommandLine

inductive Invocation where
  | scenarios (only log : Option String) (runId : String)
  | validateLog (log : String)
  | list
  | help (command : Option String)
  deriving DecidableEq, Repr

def commands : List (String × List String) :=
  [("scenarios", ["only", "log", "run-id"]), ("validate-log", ["log"]), ("list", [])]

/-- The options whose values are paths, which are not empty. -/
def isPath (option : String) : Bool := option == "log"

/-- An argument that can be the value of the option before it. -/
def isValue (arg : String) : Bool := !arg.startsWith "-" || arg == "-"

def splitOption (arg : String) : Option (String × Option String) :=
  match arg.toList with
  | '-' :: '-' :: c :: rest =>
    let cs := c :: rest
    let name := String.ofList (cs.takeWhile (· != '='))
    match cs.dropWhile (· != '=') with
    | _ :: value => some (name, some (String.ofList value))
    | [] => some (name, none)
  | _ => none

/-- An argument that asks for help: the long option, or the short one with anything after it. -/
def asksHelp (arg : String) : Bool := arg == "--help" || arg.startsWith "-h"

/-- What the arguments of a command come to. -/
inductive Parsed where
  | options (values : List (String × String))
  | help
  | wrong
  deriving DecidableEq, Repr

/-- Takes the value of an option, unless the option was given before or the value is no value. -/
def add (values : List (String × String)) (option value : String) :
    Option (List (String × String)) :=
  if (values.lookup option).isSome || (isPath option && value.isEmpty) then none
  else some (values ++ [(option, value)])

/-- Reads the arguments of a command that takes the given options. -/
def parseOptions (known : List String) : List (String × String) → List String → Parsed
  | values, [] => .options values
  | values, arg :: rest =>
    if asksHelp arg then .help
    else if arg == "--" then (if rest.isEmpty then .options values else .wrong)
    else
      match splitOption arg, rest with
      | none, _ => .wrong
      | some (option, some value), rest =>
        if known.contains option then
          match add values option value with
          | some values => parseOptions known values rest
          | none => .wrong
        else .wrong
      | some (option, none), value :: rest =>
        if known.contains option && isValue value then
          match add values option value with
          | some values => parseOptions known values rest
          | none => .wrong
        else .wrong
      | some (_, none), [] => .wrong

def invocation (command : String) (values : List (String × String)) : Option Invocation :=
  match command with
  | "scenarios" =>
    some (.scenarios (values.lookup "only") (values.lookup "log")
      ((values.lookup "run-id").getD "local"))
  | "validate-log" => (values.lookup "log").map .validateLog
  | "list" => some .list
  | _ => none

/-- What the arguments ask for; nothing if they make no sense. -/
def parse (args : List String) : Option Invocation :=
  match args with
  | [] => none
  | ["help"] => some (.help none)
  | ["help", command] =>
    if command == "help" || (commands.lookup command).isSome then some (.help (some command))
      else none
  | command :: rest =>
    if asksHelp command then some (.help none)
    else match commands.lookup command with
    | none => none
    | some known =>
      match parseOptions known [] rest with
      | .options values => invocation command values
      | .help => some (.help (some command))
      | .wrong => none

end PolledChannels.CommandLine
