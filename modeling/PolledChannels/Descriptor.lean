/-!
# Guarded descriptors

A descriptor is passed to the kernel only under a use. One word guards it: the lowest bit says that
close was called, and every use counts two above it. The number goes back to the kernel once, by
the close that finds no use, or by the last use that ends after the close; a close that finds uses
only shuts the socket down.

`Guard.step` is one atomic access of one call, so calls can be interleaved; `acquire?`, `close` and
`release` run one call alone.
-/

namespace PolledChannels

/-- What a call does to the number itself. -/
inductive GuardEffect where
  /-- The number goes back to the kernel. -/
  | release
  /-- The socket is shut down in both directions. -/
  | shutDown
  deriving DecidableEq, Repr

namespace Guard

/-- Set once close was called. -/
def closedBit : UInt64 := 1

/-- What one use counts. -/
def oneUse : UInt64 := 2

def isClosed (word : UInt64) : Bool := word &&& closedBit != 0

def uses (word : UInt64) : Nat := word.toNat / 2

/-- Where a call stands. -/
inductive Call where
  /-- Taking a use: about to look at the word. -/
  | look
  /-- Taking a use: about to put it into the word, if that is still `seen`. -/
  | claim (seen : UInt64)
  | held
  | refused
  /-- Closing: about to set the bit. -/
  | mark
  /-- Ending a use: about to take it off the word. -/
  | leave
  /-- About to do something to the number. -/
  | act (effect : GuardEffect)
  | done
  deriving DecidableEq, Repr

/-- What taking a use does after it saw a word. -/
def weigh (word : UInt64) : Call :=
  if isClosed word then .refused else .claim word

/-- What closing does after it saw a word. -/
def afterMark (word : UInt64) : Call :=
  if isClosed word then .done
  else if word = 0 then .act .release
  else .act .shutDown

/-- What ending a use does after it saw a word. -/
def afterLeave (word : UInt64) : Call :=
  if word = closedBit + oneUse then .act .release else .done

/-- One atomic access: the word and the call afterwards, and what happens to the number. -/
def step (word : UInt64) : Call → UInt64 × Call × Option GuardEffect
  | .look => (word, weigh word, none)
  | .claim seen => if word = seen then (word + oneUse, .held, none) else (word, weigh word, none)
  | .mark => (word ||| closedBit, afterMark word, none)
  | .leave => (word - oneUse, afterLeave word, none)
  | .act effect => (word, .done, some effect)
  | .held => (word, .held, none)
  | .refused => (word, .refused, none)
  | .done => (word, .done, none)

end Guard

/-- A descriptor and the word that guards it. -/
structure Descriptor where
  /-- The number in the kernel; it stays readable after the close. -/
  number : Int
  word : UInt64 := 0
  deriving DecidableEq, Repr

namespace Descriptor

def isClosed (d : Descriptor) : Bool := Guard.isClosed d.word

/-- A call that runs alone, which comes to its end in two accesses: the descriptor and the call
afterwards, and what the call did to the number. -/
def alone (d : Descriptor) (call : Guard.Call) : Descriptor × Guard.Call × Option GuardEffect :=
  let (word, call, _) := Guard.step d.word call
  let (word, call, effect) := Guard.step word call
  ({ d with word }, call, effect)

/-- Takes a use, unless close was called. -/
def acquire? (d : Descriptor) : Option Descriptor :=
  match d.alone .look with
  | (d, .held, _) => some d
  | _ => none

def close (d : Descriptor) : Descriptor × Option GuardEffect :=
  let (d, _, effect) := d.alone .mark
  (d, effect)

def release (d : Descriptor) : Descriptor × Option GuardEffect :=
  let (d, _, effect) := d.alone .leave
  (d, effect)

end Descriptor
end PolledChannels
