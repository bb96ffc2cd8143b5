import PolledChannels.Registration

/-!
# A channel and selectors that record calls

One channel without a socket, and selectors that only write down what they are told. The channel
hands its interest set to the selector as it is. With them the rules of registration can be watched
one call at a time.
-/

namespace PolledChannels.Bench

inductive Call where
  | register (selector : SelectorId) (key : KeyId)
  | put (selector : SelectorId) (key : KeyId) (mask : Mask)
  | cancel (selector : SelectorId) (key : KeyId)
  | apply (block : Bool)
  | kill
  | closed
  /-- A blocker was told of an interrupt; `own` says that it was aimed at the running thread. -/
  | interrupt (own : Bool)
  deriving DecidableEq, Repr

structure Recorder where
  isOpen : Bool := true
  /-- It writes a new key down and then refuses it. -/
  refuses : Bool := false
  alive : Bool := true
  deriving DecidableEq, Repr

structure Channel where
  supported : Mask
  core : Core := {}
  /-- The script has not let go of the channel. -/
  held : Bool := true
  /-- The regions that are open. Each of them keeps the channel. -/
  regions : Nat := 0
  keys : List Key := []
  /-- The keys that a registration has returned, in order of their numbers. -/
  returned : List KeyId := []
  selectors : List Recorder := []
  interrupts : Interrupts Unit := {}
  calls : List Call := []
  deriving DecidableEq, Repr

abbrev Action := ExceptT Failure (StateM Channel)

def me : ThreadId := 0

def stranger : ThreadId := 1

def boom : Failure := .io (.custom .other "boom")

namespace Channel

/-- The channel is still kept. -/
def alive (b : Channel) : Bool := b.held || 0 < b.regions

def key? (b : Channel) (k : KeyId) : Option Key := if k = 0 then none else b.keys[k - 1]?

def modifyKey (b : Channel) (k : KeyId) (f : Key → Key) : Channel :=
  if k = 0 then b else { b with keys := b.keys.modify (k - 1) f }

def selectorAlive (b : Channel) (s : SelectorId) : Bool :=
  match b.selectors[s]? with
  | some r => r.alive
  | none => false

def keyFor (b : Channel) (s : SelectorId) : Option KeyId :=
  b.core.keys.find? fun k =>
    match b.key? k with
    | some key => key.selector == s
    | none => false

def keyValid (b : Channel) (k : KeyId) : Bool :=
  match b.key? k with
  | some key => key.valid
  | none => false

def addSelector (b : Channel) : Channel × SelectorId :=
  ({ b with selectors := b.selectors ++ [{}] }, b.selectors.length)

def setSelector (b : Channel) (s : SelectorId) (isOpen refuses : Bool) : Channel :=
  { b with selectors := b.selectors.modify s fun r => { r with isOpen, refuses } }

def dropSelector (b : Channel) (s : SelectorId) : Channel :=
  { b with selectors := b.selectors.modify s fun r => { r with alive := false } }

def drop (b : Channel) : Channel := { b with held := false }

def setReady (b : Channel) (k : KeyId) (ops : Mask) : Channel :=
  b.modifyKey k fun key => { key with ready := ops }

end Channel

def record (c : Call) : Action Unit := modify fun b => { b with calls := b.calls ++ [c] }

def failIf (fails : Bool) : Action Unit := if fails then throw boom else pure ()

/-- Hands a mask to the selector of a key, if it is still there. -/
def putEvents (k : KeyId) (mask : Mask) : Action Unit := do
  let b ← get
  match b.key? k with
  | some key => if b.selectorAlive key.selector then record (.put key.selector k mask) else pure ()
  | none => pure ()

def setInterest (k : KeyId) (ops : Mask) : Action Unit := do
  let b ← get
  match b.key? k with
  | none => pure ()
  | some key =>
    key.checkInterest (if b.alive then some b.supported else none) ops
    modify fun b => b.modifyKey k fun key => { key with interest := ops }
    putEvents k ops

def cancelKey (k : KeyId) : Action Unit := do
  let b ← get
  match b.key? k with
  | none => pure ()
  | some key =>
    if key.valid then
      modify fun b => b.modifyKey k fun key => { key with valid := false }
      if b.selectorAlive key.selector then record (.cancel key.selector k) else pure ()
    else pure ()

def configureBlocking (block fails : Bool) : Action Unit := do
  let b ← get
  if ← b.core.changeMode (b.core.keys.any b.keyValid) block then
    record (.apply block)
    failIf fails
    modify fun b => { b with core := { b.core with blocking := block } }
  else pure ()

def register (s : SelectorId) (ops supported : Mask) : Action KeyId := do
  let b ← get
  let recorder := b.selectors.getD s {}
  match ← b.core.admission supported ops ((b.keyFor s).filter b.keyValid) recorder.isOpen with
  | .renew k =>
    setInterest k ops
    return k
  | .create =>
    let k := b.keys.length + 1
    modify fun b => { b with keys := b.keys ++ [{ selector := s, channel := 0 }] }
    record (.register s k)
    if recorder.refuses then throw .illegalSelector else pure ()
    modify fun b => { b with core := { b.core with keys := b.core.keys ++ [k] } }
    setInterest k ops
    return k

/-- `register`, with the key remembered as returned. -/
def registerReturning (s : SelectorId) (ops supported : Mask) : Action KeyId := do
  let k ← register s ops supported
  modify fun b => if k ∈ b.returned then b else { b with returned := b.returned ++ [k] }
  return k

def removeKey (k : KeyId) : Action Bool := do
  let b ← get
  let r := b.core.dropKey k
  set ({ b with core := r.1 }.modifyKey k fun key => { key with valid := false })
  return r.2

/-- Takes a key off the channel, and kills a closed channel without keys. -/
def deregister (k : KeyId) (fails : Bool) : Action Unit := do
  if ← removeKey k then
    record .kill
    failIf fails
  else pure ()

/-- Closes the channel: `work` runs once, and then every key is cancelled, whether it failed or not.
-/
def closeWith (target : Option ThreadId) (work : Action Unit) : Action Unit := do
  let b ← get
  match b.core.shut? target with
  | none => pure ()
  | some core =>
    set { b with core }
    let outcome ← observing work
    for k in (← get).core.keys do cancelKey k
    outcome
where
  /-- Runs an operation and hands its outcome on as a value. -/
  observing (work : Action Unit) : Action (Except Failure Unit) :=
    tryCatch (do work; return .ok ()) fun f => return .error f

def close (fails : Bool) : Action Unit :=
  closeWith none do
    record .closed
    failIf fails

def closeOnInterrupt (target : ThreadId) : Action Unit := closeWith (some target) (pure ())

/-- The blocker of a region is told of an interrupt. -/
def notify (target : ThreadId) : Action Unit := do
  record (.interrupt (target == me))
  closeWith (some target) (record .closed)

def interrupt : Action Unit := do
  let b ← get
  let r := b.interrupts.interruptSelf me
  set { b with interrupts := r.1 }
  match r.2 with
  | some _ => notify me
  | none => pure ()

def takeFlag : Action Bool := do
  let b ← get
  let r := b.interrupts.takeFlag me
  set { b with interrupts := r.1 }
  return r.2

def enter : Action Unit := do
  let b ← get
  let r := b.interrupts.enter me ()
  set { b with interrupts := r.1, regions := b.regions + 1 }
  if r.2 then notify me else pure ()

def leave (completed : Bool) : Action Unit := do
  let b ← get
  let r := b.core.conclude me completed
  set { b with core := r.1, interrupts := b.interrupts.leave me, regions := b.regions - 1 }
  r.2

end PolledChannels.Bench
