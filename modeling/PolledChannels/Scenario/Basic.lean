import PolledChannels.Log.Entry
import PolledChannels.Failure.Basic

/-!
# Scenarios and their reports

A scenario drives fresh channels and checks what can be observed of them. A report counts the
scenarios that passed and failed and lists their results.
-/

namespace PolledChannels.Scenario

/-- Why a scenario, or a run of scenarios, failed. -/
inductive Problem where
  | unknown (name : String)
  | check (text : String)
  | channel (failure : Failure)
  | io (error : IoError)
  | panicked
  deriving DecidableEq, Repr

namespace Problem

def name : Problem → String
  | unknown _ => "Unknown"
  | check _ => "Check"
  | channel _ => "Channel"
  | io _ => "Io"
  | panicked => "Panicked"

def message : Problem → String
  | unknown name => s!"unknown scenario '{name}'"
  | check text => "check failed: " ++ text
  | channel failure => failure.message
  | io error => error.message
  | panicked => "acceptor thread panicked"

def describe : Problem → String
  | unknown name => s!"Unknown({Text.quoted name})"
  | check text => s!"Check({Text.quoted text})"
  | channel failure => s!"Channel({failure.describe})"
  | io error => s!"Io({error.describe})"
  | panicked => "Panicked"

end Problem

structure Result where
  name : String
  outcome : Log.Outcome
  durationMs : UInt64
  error : Option String := none
  deriving DecidableEq, Repr

structure Summary where
  total : Nat
  passed : Nat
  failed : Nat
  results : List Result
  deriving DecidableEq, Repr

namespace Result

def record (r : Result) : Json :=
  .object ([("name", .string r.name), ("outcome", .string r.outcome.name),
    ("duration_ms", .int r.durationMs.toNat)] ++
    Event.optional "error" r.error .string)

end Result

namespace Summary

def allPassed (s : Summary) : Bool := s.failed == 0

def ofResults (results : List Result) : Summary :=
  let passed := (results.filter fun r => r.outcome == .pass).length
  { total := results.length, passed, failed := results.length - passed, results }

def record (s : Summary) : Json :=
  .object [("total", .int s.total), ("passed", .int s.passed), ("failed", .int s.failed),
    ("results", .array (s.results.map Result.record))]

def text (s : Summary) : String := s.record.toIndentedText

end Summary
end PolledChannels.Scenario
