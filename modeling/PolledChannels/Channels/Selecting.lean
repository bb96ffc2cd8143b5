import PolledChannels.Channels.Closing
import PolledChannels.Network.Poll

/-!
# Selecting

A selection deregisters cancelled keys, polls the valid ones together with the wake pipe, turns
what the poll reports into ready sets, and deregisters cancelled keys again. A key that was
selected before merges what is reported; any other key starts afresh and is selected if something
it waits for is ready.
-/

namespace PolledChannels

inductive PollAnswer where
  | failed (error : IoError)
  /-- The events of everything that was polled, and whether a wakeup came. -/
  | reported (events : Polled → Mask) (woken : Bool)
  /-- A wakeup came, and reading it failed. -/
  | wakeFailed (error : IoError)

namespace Action

def invalidEvent (l : Listener) (k : KeyId) (policy : InvalidPolicy) : Event :=
  { eventOf l .invalidDescriptor with
    fd := shownNumber l.descriptor
    detail := some s!"key={k.toUInt64} policy={policy.describe}" }

/-- An open channel was polled through a descriptor that is not open: this is told, and a strict
provider cancels the key. -/
def reportInvalid (c : ListenerId) (k : KeyId) : Action Unit := do
  let l ← listener c
  if l.core.isOpen then
    let policy := (← get).provider.invalid
    emit (some c) (invalidEvent l k policy)
    if policy.invalidatesKey then cancelKey k else pure ()
  else pure ()

/-- Turns reported events into the ready set of a key; the answer says whether a bit became ready.
-/
def translateReady (c : ListenerId) (k : KeyId) (events initial : Mask) : Action Bool := do
  match (← get).key? k with
  | none => return false
  | some key =>
    match Readiness.translate events initial key.interest key.ready with
    | .invalid =>
      reportInvalid c k
      return false
    | .ready ops changed =>
      setReady k ops
      return changed

def translateAndSet (c : ListenerId) (k : KeyId) (events : Mask) : Action Bool :=
  translateReady c k events 0

def translateAndUpdate (c : ListenerId) (k : KeyId) (events : Mask) : Action Bool := do
  match (← get).key? k with
  | none => return false
  | some key => translateReady c k events key.ready

/-- Hands the mask of an interest set to the selector of a key. -/
def translateInterest (k : KeyId) (ops : Mask) : Action Unit :=
  putEvents k (Readiness.acceptEvents ops)

/-- Runs an operation for every key; the first failure counts, and none of the others
is left out for it. -/
def forEveryKey (work : KeyId → Action Unit) : List KeyId → Action Unit
  | [] => pure ()
  | k :: rest => do
    let outcome ← observe (work k)
    let others ← observe (forEveryKey work rest)
    outcome
    others

/-- Deregisters a key from its channel, if that is still there. -/
def deregisterKey (k : KeyId) : Action Unit := do
  let st ← get
  match st.key? k with
  | none => pure ()
  | some key => if st.listenerAlive key.channel then deregister key.channel k else pure ()

def forgetKey (s : SelectorId) (k : KeyId) : Action Unit :=
  modify fun st => st.modifySelector s fun x => { x with
    registered := x.registered.filter fun p => p.1 != k
    selected := x.selected.filter fun y => y != k }

def takeCancelled (s : SelectorId) : Action (List KeyId) := do
  let x ← selector s
  modify fun st => st.modifySelector s fun x => { x with cancelled := [] }
  return x.cancelled

def processCancelled (s : SelectorId) : Action Unit := do
  forEveryKey (fun k => do forgetKey s k; deregisterKey k) (← takeCancelled s)

/-- What a selection polls: the valid keys whose channels are still there. -/
def snapshot (s : SelectorId) : Action (List Polled) := do
  let st ← get
  let x ← selector s
  return x.registered.filterMap fun p =>
    match st.key? p.1 with
    | none => none
    | some key =>
      if key.valid && st.listenerAlive key.channel then
        st.listeners[key.channel]?.map fun l => ⟨p.1, l.descriptor.number, p.2⟩
      else none

/-- The first part of a selection: what there is to poll. -/
def beginSelect (s : SelectorId) : Action (List Polled) := do
  if (← selector s).isOpen then
    processCancelled s
    snapshot s
  else throw .illegalSelector

def report (polled : List Polled) : Action (List (KeyId × Mask)) := do
  let st ← get
  return polled.map fun p => (p.key, st.network.polled p.number p.mask)

/-- Something holds a key: its ready set meets its interest set. -/
def isReady (k : KeyId) : Action Bool := do
  match (← get).key? k with
  | none => return false
  | some key => return key.ready.meets key.interest

/-- Takes in what was reported of one key: whether it counts, and whether it is newly selected. -/
def visit (already : List KeyId) (k : KeyId) (events : Mask) : Action (Bool × Bool) := do
  let st ← get
  match st.key? k with
  | none => return (false, false)
  | some key =>
    if events = 0 || !st.listenerAlive key.channel then return (false, false)
    else if already.contains k then return (← translateAndUpdate key.channel k events, false)
    else
      let _ ← translateAndSet key.channel k events
      let ready ← isReady k
      return (ready, ready)

/-- Takes in what was reported of every key: how many count, and the newly selected ones. -/
def visitAll (already : List KeyId) : List (KeyId × Mask) → Action (Nat × List KeyId)
  | [] => return (0, [])
  | (k, events) :: rest => do
    let (counts, selected) ← visit already k events
    let (n, more) ← visitAll already rest
    return ((if counts then 1 else 0) + n, if selected then k :: more else more)

def drainWake (s : SelectorId) : Action Unit :=
  modify fun st => st.modifySelector s fun x => { x with wake := x.wake.drain.1 }

/-- The last part of a selection, after the poll: how many keys gained something. -/
def finishSelect (s : SelectorId) (reported : List (KeyId × Mask)) : Action Nat := do
  let (n, selected) ← visitAll (← selector s).selected reported
  modify fun st => st.modifySelector s fun x => { x with selected := x.selected ++ selected }
  processCancelled s
  return n

/-- `finishSelect`, after the wake pipe was emptied if a wakeup came. -/
def finishWoken (s : SelectorId) (woken : Bool) (reported : List (KeyId × Mask)) : Action Nat := do
  if woken then drainWake s else pure ()
  finishSelect s reported

/-- The part of a selection after the poll, with its answer. A poll that was interrupted reports
nothing; any other failure ends the selection, and so does a wakeup that cannot be read. -/
def endSelect (s : SelectorId) (polled : List Polled) : PollAnswer → Action Nat
  | .failed e => if e = .os .interrupted then finishSelect s [] else throw (.io e)
  | .reported events woken => finishWoken s woken (polled.map fun p => (p.key, events p))
  | .wakeFailed e => throw (.io e)

/-- Closes a selector, once: every key becomes invalid and leaves its channel. -/
def closeSelector (s : SelectorId) : Action Unit := do
  let x ← selector s
  if x.isOpen then
    modify fun st => st.modifySelector s fun x =>
      { x with isOpen := false, registered := [], cancelled := [], selected := [] }
    wakeup s
    forEveryKey (fun k => do invalidate k; deregisterKey k) (x.keys ++ x.cancelled)
  else pure ()

/-- One keeper lets go of a selector; with the last one it is closed. -/
def dropSelector (s : SelectorId) : Action Unit := do
  let x ← selector s
  if x.owners = 1 then
    let _ ← observe (closeSelector s)
  else pure ()
  modify fun st => st.modifySelector s fun x => { x with owners := x.owners - 1 }

def openSelector : Action SelectorId := do
  let st ← get
  let x : Selector := {}
  set { st with selectors := st.selectors ++ [x] }
  return st.selectors.length

def clearSelected (s : SelectorId) : Action Unit :=
  modify fun st => st.modifySelector s fun x => { x with selected := [] }

/-- Forgets that a key was selected; the answer says whether it was. -/
def removeSelected (s : SelectorId) (k : KeyId) : Action Bool := do
  let x ← selector s
  modify fun st => st.modifySelector s fun x =>
    { x with selected := x.selected.filter fun y => y != k }
  return x.selected.contains k

end Action
end PolledChannels
