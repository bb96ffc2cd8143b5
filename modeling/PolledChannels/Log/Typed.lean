import PolledChannels.Log.Entry
import PolledChannels.Text.Quoted

/-!
# Entries from JSON objects

The members of an object are taken in the order of their keys, and the first one of the
wrong type is the fault. Members that an entry does not have are passed over. An
optional member may be null. 
An enumerated member is the name of its value, or an object whose only key is that name and whose
value there is null.
-/

namespace PolledChannels.Log

/-- A value as a type fault names it. -/
def nameOf : Json → String
  | .null => "null"
  | .bool b => s!"boolean `{b}`"
  | .int n => s!"integer `{n}`"
  | .float bits => s!"floating point `{Json.renderFloat bits}`"
  | .string s => "string " ++ Text.quoted s
  | .array _ => "sequence"
  | .object _ => "map"

def wrongType {α : Type} (v : Json) (expected : String) : Except String α :=
  .error s!"invalid type: {nameOf v}, expected {expected}"

/-- A value of the right type that is not allowed. -/
def wrongValue {α : Type} (v : Json) (expected : String) : Except String α :=
  .error s!"invalid value: {nameOf v}, expected {expected}"

def asString : Json → Except String String
  | .string s => .ok s
  | v => wrongType v "a string"

def asUnsigned (v : Json) : Except String UInt64 :=
  match v with
  | .int n => if 0 ≤ n ∧ n < UInt64.size then .ok n.toNat.toUInt64 else wrongValue v "u64"
  | _ => wrongType v "u64"

def asSigned (v : Json) : Except String Int32 :=
  match v with
  | .int n => if Int32.minValue.toInt ≤ n ∧ n ≤ Int32.maxValue.toInt then .ok (Int32.ofInt n)
    else wrongValue v "i32"
  | _ => wrongType v "i32"

/-- The value with a name, or the fault that lists the names. -/
def named {α : Type} (choices : List (String × α)) (name : String) : Except String α :=
  match choices.lookup name with
  | some a => .ok a
  | none =>
    let names := ", ".intercalate (choices.map fun c => s!"`{c.1}`")
    .error s!"unknown variant `{name}`, expected one of {names}"

def asNamed {α : Type} (choices : List (String × α)) (v : Json) : Except String α :=
  match v with
  | .string name => named choices name
  | .object [(name, content)] =>
    match named choices name, content with
    | .ok a, .null => .ok a
    | .ok _, content => wrongType content "unit"
    | .error e, _ => .error e
  | .object _ => wrongValue v "map with a single key"
  | _ => wrongType v "string or map"

/-- An optional value: null is none. -/
def asOptional {α : Type} (read : Json → Except String α) (v : Json) :
    Except String (Option α) :=
  match v with
  | .null => .ok none
  | v => (read v).map some

def levelChoices : List (String × Level) := Level.all.map fun l => (l.name, l)
def outcomeChoices : List (String × Outcome) := Outcome.all.map fun o => (o.name, o)
def streamChoices : List (String × Stream) := Stream.all.map fun s => (s.name, s)

namespace Entry

/-- The entry with one member read from an object. -/
def withMember (e : Entry) (key : String) (v : Json) : Except String Entry :=
  match key with
  | "timestamp" => (asString v).map fun x => { e with timestamp := x }
  | "trace_id" => (asString v).map fun x => { e with traceId := x }
  | "level" => (asNamed levelChoices v).map fun x => { e with level := x }
  | "event" => (asString v).map fun x => { e with event := x }
  | "stream" => (asOptional (asNamed streamChoices) v).map fun x => { e with stream := x }
  | "scenario" => (asOptional asString v).map fun x => { e with scenario := x }
  | "channel_id" => (asOptional asUnsigned v).map fun x => { e with channelId := x }
  | "fd" => (asOptional asSigned v).map fun x => { e with fd := x }
  | "local_addr" => (asOptional asString v).map fun x => { e with localAddress := x }
  | "remote_addr" => (asOptional asString v).map fun x => { e with remoteAddress := x }
  | "outcome" => (asOptional (asNamed outcomeChoices) v).map fun x => { e with outcome := x }
  | "errno" => (asOptional asSigned v).map fun x => { e with errno := x }
  | "duration_ms" => (asOptional asUnsigned v).map fun x => { e with durationMs := x }
  | "details" => (asOptional .ok v).map fun x => { e with details := x }
  | _ => .ok e

/-- The entry with the members of an object, or the first fault in their order. -/
def withMembers (e : Entry) : Members → Except String Entry
  | [] => .ok e
  | (key, v) :: rest =>
    match e.withMember key v with
    | .ok e => withMembers e rest
    | .error fault => .error fault

/-- An entry with nothing in it, which the members of an object fill. -/
def blank : Entry := { timestamp := "", traceId := "", level := .info, event := "" }

/-- The entry that the members of an object make. -/
def ofMembers (members : Members) : Except String Entry :=
  blank.withMembers members

end Entry
end PolledChannels.Log
