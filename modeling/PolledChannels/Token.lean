import PolledChannels.Failure.Errno
import PolledChannels.Interrupt

/-!
# Tokens of threads

A token names the thread that is inside a call, so that another thread can knock it out of the call
with a signal. The token 0 names no thread, and signalling it does nothing.
-/

namespace PolledChannels

/-- Names a thread to the kernel. -/
structure Token where
  word : UInt64
  deriving DecidableEq, Repr

namespace Token

def highestSignal : Nat := 64

/-- The signal that knocks a thread out of a call. -/
def wakeSignal : Nat := highestSignal - 2

def none : Token := ⟨0⟩

def ofThread (t : ThreadId) : Token := ⟨(t + 1).toUInt64⟩

def isThread (t : Token) : Bool := t != none

/-- Signals a thread among those that live; the answer is the token whose call returns. -/
def signal (living : List Token) (t : Token) : Except Errno (Option Token) :=
  if t = none then .ok Option.none
  else if living.contains t then .ok (some t)
  else .error .noSuchProcess

end Token
end PolledChannels
