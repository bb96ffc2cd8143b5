import PolledChannels.Failure.Denial
import PolledChannels.Failure.Errno
import PolledChannels.Readiness
import PolledChannels.Text.Quoted

/-!
# Failures

`IoError` is a failure of the system or of a helper; `Failure` is a failure of a
channel operation. Both are causes, with their texts in `message` and the form
diagnostics show in `describe`.
-/

namespace PolledChannels

inductive IoError where
  | os (errno : Errno)
  /-- A failure that says only its kind. -/
  | simple (kind : IoKind)
  /-- A failure with a fixed text. -/
  | fixed (kind : IoKind) (text : String)
  /-- A failure with a text made for the occasion. -/
  | custom (kind : IoKind) (text : String)
  deriving DecidableEq, Repr

/-- What a call comes to that answers nothing. -/
abbrev IoResult := Except IoError Unit

namespace IoError

def kind : IoError → IoKind
  | os errno => errno.kind
  | simple kind => kind
  | fixed kind _ => kind
  | custom kind _ => kind

def message : IoError → String
  | os errno => s!"{errno.text} (os error {errno.code})"
  | simple kind => kind.description
  | fixed _ text => text
  | custom _ text => text

def errno? : IoError → Option Errno
  | os errno => some errno
  | _ => none

def describe : IoError → String
  | os errno =>
    s!"Os \x7b code: {errno.code}, kind: {errno.kind.name}, message: {Text.quoted errno.text} \x7d"
  | simple kind => s!"Kind({kind.name})"
  | fixed kind text => s!"Error \x7b kind: {kind.name}, message: {Text.quoted text} \x7d"
  | custom kind text => s!"Custom \x7b kind: {kind.name}, error: {Text.quoted text} \x7d"

/-- The failure of every use of a released descriptor. -/
def socketClosed : IoError := fixed .notConnected "Socket is closed"

end IoError

inductive Failure where
  | closed
  | asynchronousClose
  | closedByInterrupt
  | alreadyBound
  | notYetBound
  | unsupportedAddress
  | illegalBlockingMode
  | invalidInterest (ops : Mask)
  | illegalSelector
  | denied (denial : Denial)
  | io (error : IoError)
  deriving DecidableEq, Repr

inductive FailureKind where
  | closedChannel
  | alreadyBound
  | notYetBound
  | securityDenial
  | ioFailure
  | unsupportedAddress
  | illegalBlockingMode
  | illegalArgument
  deriving DecidableEq, Repr

namespace Failure

def message : Failure → String
  | closed => "channel is closed"
  | asynchronousClose => "channel was closed by another thread during a blocking operation"
  | closedByInterrupt => "channel was closed because the blocked thread was interrupted"
  | alreadyBound => "channel is already bound"
  | notYetBound => "channel is not yet bound"
  | unsupportedAddress => "unsupported address type"
  | illegalBlockingMode => "operation not permitted in the current blocking mode"
  | invalidInterest ops => "invalid interest set 0x" ++ Text.hexadecimal ops.toNat
  | illegalSelector => "selector is closed or does not own this key"
  | denied denial => denial.message
  | io error => "io: " ++ error.message

def kind : Failure → FailureKind
  | closed | asynchronousClose | closedByInterrupt => .closedChannel
  | alreadyBound => .alreadyBound
  | notYetBound => .notYetBound
  | unsupportedAddress => .unsupportedAddress
  | illegalBlockingMode => .illegalBlockingMode
  | invalidInterest _ | illegalSelector => .illegalArgument
  | denied _ => .securityDenial
  | io _ => .ioFailure

/-- The channel was closed before or during the operation. -/
def isClosed (f : Failure) : Bool := f.kind == .closedChannel

def errno? : Failure → Option Errno
  | io error => error.errno?
  | _ => none

def toIoError (f : Failure) : IoError :=
  match f with
  | io error => error
  | closed | asynchronousClose | closedByInterrupt => .custom .notConnected f.message
  | denied _ => .custom .permissionDenied f.message
  | unsupportedAddress | invalidInterest _ | illegalSelector => .custom .invalidInput f.message
  | alreadyBound | notYetBound | illegalBlockingMode => .custom .other f.message

def os (errno : Errno) : Failure := io (.os errno)

def describe : Failure → String
  | closed => "Closed"
  | asynchronousClose => "AsynchronousClose"
  | closedByInterrupt => "ClosedByInterrupt"
  | alreadyBound => "AlreadyBound"
  | notYetBound => "NotYetBound"
  | unsupportedAddress => "UnsupportedAddressType"
  | illegalBlockingMode => "IllegalBlockingMode"
  | invalidInterest ops => s!"InvalidInterestOps({ops.toInt})"
  | illegalSelector => "IllegalSelector"
  | denied denial =>
    let action := match denial.action with
      | .listen => "Listen"
      | .accept => "Accept"
    s!"Security(SecurityDenial \x7b action: {action}, target: {Text.quoted denial.target} \x7d)"
  | io error => s!"Io({error.describe})"

end Failure
end PolledChannels
