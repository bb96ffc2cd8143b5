import PolledChannels.Failure.Basic
import PolledChannels.Json.Reader
import PolledChannels.Log.Typed
import PolledChannels.Text.Blank
import PolledChannels.Text.Lines

/-!
# Validation of logs

A line of a log is a JSON object with the four required members. Names of levels, outcomes and
streams are known ones, a trace id holds two colons in a row, the event of a channel says which
channel, and refusals and reports of invalid descriptors are warnings. All violations of these
rules are reported together; only a line without any is read as an entry, which can still fail by
the type of a member.

In a file blank lines are passed over, and lines are counted from one.
-/

namespace PolledChannels.Log

/-- A violation: the line, the member and what is wrong with it. -/
structure Violation where
  line : Nat
  field : String
  message : String
  deriving DecidableEq, Repr

namespace Violation

def render (v : Violation) : String :=
  s!"line {v.line}: field '{v.field}': {v.message}"

end Violation

/-- A rule that an object breaks: the member and what is wrong with it. -/
abbrev Complaint := String × String

def missing (members : Members) : List Complaint :=
  (["timestamp", "trace_id", "level", "event"].filter fun k => (members.lookup k).isNone).map
    fun k => (k, "required field missing")

def text? (members : Members) (key : String) : Option String :=
  (members.lookup key).bind Json.string?

/-- An enumerated member that names no known value. -/
def unknownName (members : Members) (key : String) (names : List String) :
    List Complaint :=
  match text? members key with
  | some s => if names.contains s then [] else [(key, s!"invalid {key}: '{s}'")]
  | none => []

def holdsDivider : List Char → Bool
  | ':' :: ':' :: _ => true
  | _ :: cs => holdsDivider cs
  | [] => false

/-- A trace id without its dividers. -/
def badTraceId (members : Members) : List Complaint :=
  match text? members "trace_id" with
  | some s =>
    if holdsDivider s.toList then []
    else
      [("trace_id",
        s!"trace_id should follow <component>::<run_id>::<seq> format, got: '{s}'")]
  | none => []

def isChannelEvent (name : String) : Bool :=
  EventKind.all.any fun k => k.name == name

/-- The name of an event that must be a warning. -/
def isWarningEvent (name : String) : Bool :=
  EventKind.all.any fun k => k.name == name && k.level == .warn

def isUnsigned : Json → Bool
  | .int n => 0 ≤ n
  | _ => false

/-- A channel event that does not say its channel. -/
def missingChannel (members : Members) : List Complaint :=
  if (text? members "event").any isChannelEvent &&
    !(members.lookup "channel_id").any isUnsigned then
    [("channel_id", "channel events must carry an unsigned channel_id")]
  else []

/-- A refusal, or a report of an invalid descriptor, that is no warning. -/
def mildWarning (members : Members) : List Complaint :=
  if (text? members "event").any isWarningEvent && text? members "level" != some "warn" then
    [("level", "denial and pollnval events must be logged at warn")]
  else []

def complaints (members : Members) : List Complaint :=
  missing members ++
    unknownName members "level" (Level.all.map Level.name) ++
    unknownName members "outcome" (Outcome.all.map Outcome.name) ++
    unknownName members "stream" (Stream.all.map Stream.name) ++
    badTraceId members ++ missingChannel members ++ mildWarning members

/-- The entry that the members of an object make, or every rule they break. -/
def entryOf (members : Members) : Except (List Complaint) Entry :=
  match complaints members with
  | [] =>
    match Entry.ofMembers members with
    | .ok e => .ok e
    | .error fault => .error [("<deserialization>", "failed to deserialize: " ++ fault)]
  | found => .error found

/-- The entry on a line, or every rule the line breaks. -/
def checkLine (line : String) : Except (List Complaint) Entry :=
  match Json.parse line with
  | .error fault => .error [("<json>", "invalid JSON: " ++ fault)]
  | .ok (.object members) => entryOf members
  | .ok _ => .error [("<root>", "expected JSON object")]

/-- The entry on a line, or the violations found in it. -/
def validateLine (line : String) (number : Nat) : Except (List Violation) Entry :=
  match checkLine line with
  | .ok e => .ok e
  | .error found => .error (found.map fun c => ⟨number, c.1, c.2⟩)

/-- The number of lines that are not blank and the violations found in them, for lines
numbered from `number` on. -/
def validateLines (number : Nat) : List (List Char) → Nat × List Violation
  | [] => (0, [])
  | l :: ls =>
    let (count, later) := validateLines (number + 1) ls
    match Text.strip l with
    | [] => (count, later)
    | cs =>
      match validateLine (String.ofList cs) number with
      | .ok _ => (count + 1, later)
      | .error found => (count + 1, found ++ later)

/-- The number of lines of a file that are not blank, and the violations found in them. -/
def validateFile (content : String) : Nat × List Violation :=
  validateLines 1 (Text.lines content.toList)

/-- `validateFile` for the bytes of a file, if there is one. -/
def validateBytes (file : Option ByteArray) : Except IoError (Nat × List Violation) :=
  match file with
  | none => .error (.os .noEntry)
  | some bytes =>
    match String.fromUTF8? bytes with
    | some content => .ok (validateFile content)
    | none => .error (.fixed .invalidData "stream did not contain valid UTF-8")

end PolledChannels.Log
