import PolledChannels.Json.Basic
import PolledChannels.Registration

/-!
# Records of outcomes

How outcomes are written as JSON: a success without a value is the text `ok`, a failure is an object
that says what failed, of which kind it is and how it reads.
-/

namespace PolledChannels.Record

/-- A success without a value. -/
def done : Json := .string "ok"

def optional {α : Type} (f : α → Json) : Option α → Json
  | some a => f a
  | none => .null

def count (n : Nat) : Json := .int n

def mask (m : Mask) : Json := .int m.toInt

/-- A request that makes no sense, with what is wrong about it. -/
def refused (reason : String) : Json :=
  Json.ofMembers [("error", .string "BadRequest"), ("message", .string reason)]

def malformedAddress : Json :=
  Json.ofMembers [("error", .string "AddrParse"),
    ("message", .string "invalid socket address syntax")]

def errno (n : Option Errno) : Json := optional (fun n => .int n.code) n

def io (e : IoError) : Json :=
  Json.ofMembers [("error", .string "Io"), ("io_kind", .string e.kind.name),
    ("message", .string e.message), ("os", errno e.errno?)]

def causeName : Failure → String
  | .closed => "Closed"
  | .asynchronousClose => "AsynchronousClose"
  | .closedByInterrupt => "ClosedByInterrupt"
  | .alreadyBound => "AlreadyBound"
  | .notYetBound => "NotYetBound"
  | .unsupportedAddress => "UnsupportedAddressType"
  | .illegalBlockingMode => "IllegalBlockingMode"
  | .invalidInterest _ => "InvalidInterestOps"
  | .illegalSelector => "IllegalSelector"
  | .denied _ => "Security"
  | .io _ => "Io"

def kindName : FailureKind → String
  | .closedChannel => "ClosedChannel"
  | .alreadyBound => "AlreadyBound"
  | .notYetBound => "NotYetBound"
  | .securityDenial => "SecurityDenial"
  | .ioFailure => "IoFailure"
  | .unsupportedAddress => "UnsupportedAddress"
  | .illegalBlockingMode => "IllegalBlockingMode"
  | .illegalArgument => "IllegalArgument"

def failureMembers (f : Failure) : Members :=
  [("error", .string (causeName f)), ("kind", .string (kindName f.kind)),
    ("message", .string f.message)] ++
    match f with
    | .io e => [("io_kind", .string e.kind.name), ("os", errno e.errno?)]
    | _ => []

def failure (f : Failure) : Json := Json.ofMembers (failureMembers f)

def ioResult {α : Type} (f : α → Json) : Except IoError α → Json
  | .ok a => f a
  | .error e => io e

def result {α : Type} (f : α → Json) : Except Failure α → Json
  | .ok a => f a
  | .error e => failure e

/-- An outcome of a channel operation, shown as one of a helper. -/
def plainResult {α : Type} (f : α → Json) : Except Failure α → Json
  | .ok a => f a
  | .error e => io e.toIoError

/-- A success without a value, for `result` and its like. -/
def unit (_ : Unit) : Json := done

/-- The letters of the operations that a ready set holds. -/
def letters (ready : Mask) : String :=
  let shown := [("a", Operation.accept), ("r", Operation.read), ("w", Operation.write),
    ("c", Operation.connect)]
  String.join ((shown.filter fun p => ready.meets p.2).map Prod.fst)

/-- A key, and whether its channel and its selector are still there. -/
def key (id : KeyId) (k : Key) (channel selector : Bool) : Json :=
  Json.ofMembers [("k", count id), ("valid", .bool k.valid), ("interest", mask k.interest),
    ("ready", mask k.ready),
    ("is", .string (letters k.ready)), ("channel", .bool channel), ("selector", .bool selector)]

end PolledChannels.Record
