/-!
# Status codes of channel primitives

A primitive answers with one signed 32-bit word: a word that is not negative counts progress, a
negative word is one of six sentinels. `Status.ofRaw?` and `Status.toRaw` are the two directions.
-/

namespace PolledChannels

/-- What a primitive reports. -/
inductive Status where
  | progress (count : UInt32)
  | endOfStream
  | unavailable
  | interrupted
  | unsupported
  | thrown
  | unsupportedCase
  deriving DecidableEq, Repr

namespace Status

/-- The word of a completed single step. -/
def rawOk : Int32 := 1
def rawEndOfStream : Int32 := -1
def rawUnavailable : Int32 := -2
def rawInterrupted : Int32 := -3
def rawUnsupported : Int32 := -4
def rawThrown : Int32 := -5
def rawUnsupportedCase : Int32 := -6

/-- The status that a word stands for; words below the last sentinel stand for none. -/
def ofRaw? (n : Int32) : Option Status :=
  if n = rawEndOfStream then some endOfStream
  else if n = rawUnavailable then some unavailable
  else if n = rawInterrupted then some interrupted
  else if n = rawUnsupported then some unsupported
  else if n = rawThrown then some thrown
  else if n = rawUnsupportedCase then some unsupportedCase
  else if 0 ≤ n then some (progress n.toUInt32)
  else none

/-- The word of a status. A count of 2^31 or more has no word of its own and wraps. -/
def toRaw : Status → Int32
  | progress count => count.toInt32
  | endOfStream => rawEndOfStream
  | unavailable => rawUnavailable
  | interrupted => rawInterrupted
  | unsupported => rawUnsupported
  | thrown => rawThrown
  | unsupportedCase => rawUnsupportedCase

/-- At least one step was made. -/
def progressed : Status → Bool
  | progress count => 0 < count
  | _ => false

/-- The word is one that a primitive may hand to its caller. -/
def check (n : Int32) : Bool :=
  0 ≤ n || n == rawUnavailable || n == rawInterrupted

/-- The word with the two retry sentinels counted as no progress. -/
def normalize (n : Int32) : Int32 :=
  if n = rawUnavailable ∨ n = rawInterrupted then 0 else n

def describe : Status → String
  | progress count => s!"Progress({count.toNat})"
  | endOfStream => "Eof"
  | unavailable => "Unavailable"
  | interrupted => "Interrupted"
  | unsupported => "Unsupported"
  | thrown => "Thrown"
  | unsupportedCase => "UnsupportedCase"

end Status
end PolledChannels
