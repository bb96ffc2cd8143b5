import PolledChannels.Settings.Modes

/-!
# Settings resolved once

A setting is kept in one byte: 0 before the first use, 255 while a caller reads its text,
and the resolved value afterwards. A caller that finds another one at work does not wait; it
goes on with the default.

`Cache.step` is one atomic access of one caller, so callers can be interleaved; `Cache.resolve` runs
one caller alone.
-/

namespace PolledChannels
namespace Cache

/-- No caller has come yet. -/
def unresolved : UInt8 := 0

/-- A caller is reading the text. -/
def resolving : UInt8 := 255

/-- The value in the byte, if it is resolved. -/
def value? (word : UInt8) : Option UInt8 :=
  if word = unresolved ∨ word = resolving then none else some word

/-- Where a caller stands. -/
inductive Call where
  /-- About to look at the byte. -/
  | load
  /-- About to claim the byte for itself. -/
  | claim
  /-- Another caller claimed it first: about to look again. -/
  | reload
  /-- About to read the text. -/
  | parse
  /-- About to store the value. -/
  | store (value : UInt8)
  /-- Done, with the value if one was there. -/
  | done (value : Option UInt8)
  deriving DecidableEq, Repr

/-- One atomic access of a caller whose text stands for `parsed`: the byte and
the caller afterwards. -/
def step (parsed : UInt8) (word : UInt8) : Call → UInt8 × Call
  | .load =>
    if word = unresolved then (word, .claim)
    else (word, .done (value? word))
  | .claim => if word = unresolved then (resolving, .parse) else (word, .reload)
  | .reload => (word, .done (value? word))
  | .parse => (word, .store parsed)
  | .store value => (value, .done (some value))
  | .done value => (word, .done value)

/-- One caller alone, from its first access to its answer: four steps are enough. -/
def resolve (parsed : UInt8) (word : UInt8) : UInt8 × Option UInt8 :=
  let s := step parsed word .load
  let s := step parsed s.1 s.2
  let s := step parsed s.1 s.2
  let s := step parsed s.1 s.2
  match s.2 with
  | .done value => (s.1, value)
  | _ => (s.1, none)

end Cache

structure Settings where
  logWord : UInt8 := Cache.unresolved
  policyWord : UInt8 := Cache.unresolved
  deriving DecidableEq, Repr

namespace Settings

/-- The log mode, from the given text on first use. -/
def logMode (s : Settings) (text : Option String) : Settings × LogMode :=
  let r := Cache.resolve ((text.map LogMode.ofText).getD .off).toByte s.logWord
  ({ s with logWord := r.1 }, (r.2.map LogMode.ofByte).getD .off)

/-- The policy on invalid descriptors, from the given text on first use. -/
def invalidPolicy (s : Settings) (text : Option String) : Settings × InvalidPolicy :=
  let r := Cache.resolve ((text.map InvalidPolicy.ofText).getD .lenient).toByte s.policyWord
  ({ s with policyWord := r.1 }, (r.2.map InvalidPolicy.ofByte).getD .lenient)

end Settings
end PolledChannels
