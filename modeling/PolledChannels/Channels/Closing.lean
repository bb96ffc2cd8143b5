import PolledChannels.Channels.Keys
import PolledChannels.Token

/-!
# Closing and killing listening channels

A close flips the channel once, gives its descriptor up, tells a waiting acceptor, and cancels every
key. The channel is killed as soon as it is closed and no key names it: by the close itself, or
when the last key is deregistered.
-/

namespace PolledChannels

/-- The outcome of a call that came after another; the first failure counts. -/
def firstFailure {ε : Type} (first second : Except ε Unit) : Except ε Unit := do
  first
  second

namespace Station

/-- What names a thread to the kernel: the main thread and those beside it. -/
def tokens (st : Station) : List Token := (List.range (st.threads.length + 1)).map Token.ofThread

/-- A signal waits for the thread that the token names. -/
def signal (st : Station) (found : Option Token) : Station :=
  { st with threads := st.threads.mapIdx fun t x =>
      if found = some (Token.ofThread (threadId t)) then { x with signalled := true } else x }

end Station

namespace Action

def eventOf (l : Listener) (kind : EventKind) : Event := { kind, channel := l.id.toUInt64 }

def shownNumber (d : Descriptor) : Option Int32 := some (Int32.ofInt d.number)

def shownErrno {α : Type} : Except IoError α → Option Int32
  | .ok _ => none
  | .error e => e.errno?.map fun n => Int32.ofInt n.code

/-- Kills a listening channel if it may be killed: the event to tell of, and the outcome of giving
the descriptor up. -/
def killLocked (c : ListenerId) : Action (Option Event × IoResult) := do
  let l ← listener c
  match l.lifecycle.killAction with
  | .alreadyKilled => return (none, .ok ())
  | .promoteOnly =>
    modify fun st => st.modifyListener c fun l => { l with lifecycle := .killed }
    return (none, .ok ())
  | .releaseAndPromote =>
    if l.lifecycle.killPermitted l.core.isOpen l.core.registered then
      let released ← closeDescriptor c
      modify fun st => st.modifyListener c fun l => { l with lifecycle := .killed }
      return (some { eventOf l .killed with
        fd := shownNumber l.descriptor, errno := shownErrno released }, released)
    else return (none, .ok ())

/-- Kills a listening channel that is closed and that no key names. -/
def kill (c : ListenerId) : Action Unit := do
  let r ← killLocked c
  match r.1 with
  | some event => emit (some c) event
  | none => pure ()
  demand r.2

/-- Takes a key off a listening channel, and kills a closed channel without keys. -/
def deregister (c : ListenerId) (k : KeyId) : Action Unit := do
  if ← removeKey c k then kill c else pure ()

def signalThread (t : ThreadId) : Action IoResult := do
  match Token.signal (← get).tokens (Token.ofThread t) with
  | .error e => return .error (.os e)
  | .ok found =>
    modify fun st => st.signal found
    return .ok ()

/-- What a close tells of and comes to once an acceptor was signalled, given what it was before.
The event has an error if both the descriptor and the signal failed. -/
def notified (closing : Event × IoResult) (sent : IoResult) : Event × IoResult :=
  ({ closing.1 with
      detail := some "signalled parked acceptor"
      errno := match closing.2 with
        | .ok _ => none
        | .error _ => shownErrno sent }, firstFailure closing.2 sent)

/-- Gives the descriptor up and tells a waiting acceptor; the answer is the event to tell
of, and the outcome. -/
def surrender (c : ListenerId) : Action (Event × IoResult) := do
  let l ← listener c
  let released ← if l.lifecycle = .killed then pure (.ok ()) else closeDescriptor c
  let event := { eventOf l .closed with fd := shownNumber l.descriptor }
  match l.acceptor with
  | none => return (event, released)
  | some t => return notified (event, released) (← signalThread t)

/-- Tells of a close and of the kill that came with it, if one did; the first failure counts. -/
def reportClose (c : ListenerId) (closing : Event × IoResult)
    (killing : Option Event × IoResult) : Action Unit := do
  emit (some c) closing.1
  match killing.1 with
  | some event => emit (some c) event
  | none => pure ()
  demand closing.2
  demand killing.2

/-- What a close does after the channel was flipped. -/
def finishClose (c : ListenerId) : Action Unit := do
  let closing ← surrender c
  let killing ← if (← listener c).core.registered then pure (none, .ok ()) else killLocked c
  reportClose c closing killing

/-- Closes a listening channel, on behalf of an interrupt aimed at a thread or of nobody. Only the
first close does anything; the keys are cancelled whether it fails or not. -/
def closeOnBehalf (c : ListenerId) (target : Option ThreadId) : Action Unit := do
  let l ← listener c
  match l.core.shut? target with
  | none => pure ()
  | some core =>
    modify fun st => st.modifyListener c fun l => { l with core }
    let outcome ← observe (finishClose c)
    for k in (← listener c).core.keys do cancelKey k
    outcome

def close (c : ListenerId) : Action Unit := closeOnBehalf c none

/-- A listening channel on which a thread is blocked hears of an interrupt aimed at it. -/
def interruptListener (c : ListenerId) (target : ThreadId) : Action Unit := do
  let l ← listener c
  emit (some c) { eventOf l .interrupted with detail := some s!"ThreadId({target})" }
  let _ ← observe (closeOnBehalf c (some target))

/-- One keeper lets go of a listening channel; with the last one the descriptor is
given up in silence. -/
def dropListener (c : ListenerId) : Action Unit := do
  let l ← listener c
  modify fun st => st.modifyListener c fun l => { l with owners := l.owners - 1 }
  if l.owners = 1 then
    let _ ← closeDescriptor c
  else pure ()

end Action
end PolledChannels
