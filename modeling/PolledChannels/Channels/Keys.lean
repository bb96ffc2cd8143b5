import PolledChannels.Channels.Guarding

/-!
# Keys of a station

Interest sets, cancelling and registration of listening channels with polling selectors. A
cancelled key is queued with its selector and leaves it, and its channel, at the next selection.
-/

namespace PolledChannels.Action

/-- Wakes a selection that waits, or the next one. -/
def wakeup (s : SelectorId) : Action Unit :=
  modify fun st => st.modifySelector s fun x => { x with wake := x.wake.pushByte }

/-- Records the mask that a selector waits for on a key. -/
def recordMask (s : SelectorId) (k : KeyId) (mask : Mask) : Action Unit :=
  modify fun st => st.modifySelector s fun x =>
    { x with registered := x.registered.map fun p => if p.1 = k then (k, mask) else p }

/-- Hands a mask to the selector of a key, if it is still there. -/
def putEvents (k : KeyId) (mask : Mask) : Action Unit := do
  let st ← get
  match st.key? k with
  | some key => if st.selectorAlive key.selector then recordMask key.selector k mask else pure ()
  | none => pure ()

def setInterest (k : KeyId) (ops : Mask) : Action Unit := do
  let st ← get
  match st.key? k with
  | none => throw .illegalSelector
  | some key =>
    key.checkInterest (if st.listenerAlive key.channel then some Operation.ofListener else none) ops
    modify fun st => st.modifyKey k fun key => { key with interest := ops }
    putEvents k (Readiness.acceptEvents ops)

def setReady (k : KeyId) (ops : Mask) : Action Unit :=
  modify fun st => st.modifyKey k fun key => { key with ready := ops }

def invalidate (k : KeyId) : Action Unit :=
  modify fun st => st.modifyKey k fun key => { key with valid := false }

/-- Queues a registered key for deregistration and wakes the selection. -/
def queueCancelled (s : SelectorId) (k : KeyId) : Action Unit := do
  match (← get).selectors[s]? with
  | none => pure ()
  | some x =>
    if x.keys.contains k then
      modify fun st => st.modifySelector s fun x => { x with cancelled := x.cancelled ++ [k] }
      wakeup s
    else pure ()

def cancelKey (k : KeyId) : Action Unit := do
  let st ← get
  match st.key? k with
  | none => pure ()
  | some key =>
    if key.valid then
      invalidate k
      if st.selectorAlive key.selector then queueCancelled key.selector k else pure ()
    else pure ()

def keyFor (c : ListenerId) (s : SelectorId) : Action (Option KeyId) := do
  let st ← get
  let l ← listener c
  return l.core.keys.find? fun k =>
    match st.key? k with
    | some key => key.selector == s
    | none => false

/-- Makes a key object, under a number of its own. -/
def newKey (c : ListenerId) (s : SelectorId) : Action KeyId := do
  let st ← get
  let key : Key := { selector := s, channel := c }
  set { st with keys := st.keys ++ [key] }
  return st.keys.length + 1

/-- A selector adopts a key, unless it is closed. -/
def adoptKey (s : SelectorId) (k : KeyId) : Action Unit := do
  if (← selector s).isOpen then
    modify fun st => st.modifySelector s fun x =>
      { x with registered := x.registered ++ [(k, (0 : Mask))] }
  else throw .illegalSelector

/-- Registers a listening channel with a selector, or replaces the interest set of its key. -/
def register (c : ListenerId) (s : SelectorId) (ops : Mask) : Action KeyId := do
  let l ← listener c
  let st ← get
  let current := (← keyFor c s).filter st.keyValid
  match ← l.core.admission Operation.ofListener ops current (← selector s).isOpen with
  | .renew k =>
    setInterest k ops
    return k
  | .create =>
    let k ← newKey c s
    adoptKey s k
    modify fun st => st.modifyListener c fun l =>
      { l with core := { l.core with keys := l.core.keys ++ [k] } }
    setInterest k ops
    return k

/-- Takes a key off a listening channel; the answer says whether the channel is closed
and has no key left. -/
def removeKey (c : ListenerId) (k : KeyId) : Action Bool := do
  let l ← listener c
  let r := l.core.dropKey k
  modify fun st => st.modifyListener c fun l => { l with core := r.1 }
  invalidate k
  return r.2

def configureBlocking (c : ListenerId) (block : Bool) : Action Unit := do
  let l ← listener c
  let st ← get
  if ← l.core.changeMode (l.core.keys.any st.keyValid) block then
    demand (← calling c fun number => Net.setBlocking number block)
    modify fun st => st.modifyListener c fun l =>
      { l with core := { l.core with blocking := block } }
  else pure ()

end PolledChannels.Action
