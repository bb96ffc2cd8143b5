import PolledChannels.Channels.Selecting

/-!
# Calls access by access

Threads close a channel, take keys off it, register it and close its selector at once. Here each of
these calls is cut into accesses: one atomic access of a flag or a word, or one stretch under a lock
that no other call can look into.

A call that keeps a lock over several accesses keeps it by where it stands, so a lock is free if no
call stands where it is kept. An interleaving is a station and the calls under way on it; a move
lets one call do its next access, and does nothing if that call waits for a lock.
-/

namespace PolledChannels

/-- The locks that a call may keep from one access to the next. -/
inductive Lock where
  /-- Held by whoever closes the channel. -/
  | closing (c : ListenerId)
  /-- Held by whoever registers the channel. -/
  | registering (c : ListenerId)
  /-- Guards the lifecycle of the channel. -/
  | state (c : ListenerId)
  /-- Guards the keys that the channel lists. -/
  | keys (c : ListenerId)
  deriving DecidableEq, Repr

namespace Action

/-- One access of a call to the descriptor of a channel: where that call stands afterwards, and the
outcome of what it did to the number. -/
def accessDescriptor (c : ListenerId) (call : Guard.Call) :
    Action (Guard.Call × IoResult) := do
  let l ← listener c
  let r := Guard.step l.descriptor.word call
  modify fun st => st.modifyListener c fun l =>
    { l with descriptor := { l.descriptor with word := r.1 } }
  let released ← applyEffect l.descriptor.number r.2.2
  return (r.2.1, released)

end Action

open PolledChannels.Action

/-! ## Killing a channel -/

/-- Where a kill of a channel stands. -/
inductive KillPoint where
  /-- About to look at the lifecycle. -/
  | weigh
  | askOpen
  | askKeys (isOpen : Bool)
  /-- About to set the bit of the descriptor. -/
  | mark
  | act (effect : GuardEffect)
  | promote (released : IoResult)
  /-- Decided: the event to tell of, and the outcome of giving the descriptor up. -/
  | ended (event : Option Event) (released : IoResult)

namespace KillPoint

def step (c : ListenerId) : KillPoint → Action KillPoint
  | weigh => do
    match (← listener c).lifecycle.killAction with
    | .alreadyKilled => return ended none (.ok ())
    | .promoteOnly =>
      modify fun st => st.modifyListener c fun l => { l with lifecycle := .killed }
      return ended none (.ok ())
    | .releaseAndPromote => return askOpen
  | askOpen => do return askKeys (← listener c).core.isOpen
  | askKeys isOpen => do
    let l ← listener c
    if l.lifecycle.killPermitted isOpen l.core.registered then return mark
    else return ended none (.ok ())
  | mark => do
    match ← accessDescriptor c .mark with
    | (.act effect, _) => return act effect
    | (_, released) => return promote released
  | act effect => do
    let r ← accessDescriptor c (.act effect)
    return promote r.2
  | promote released => do
    let l ← listener c
    modify fun st => st.modifyListener c fun l => { l with lifecycle := .killed }
    return ended (some { eventOf l .killed with
      fd := shownNumber l.descriptor, errno := shownErrno released }) released
  | ended event released => return ended event released

/-- The lock that the next access needs, beside the lock on the lifecycle. -/
def wants (c : ListenerId) : KillPoint → Option Lock
  | askKeys _ => some (.keys c)
  | _ => none

def isOver : KillPoint → Bool
  | ended _ _ => true
  | _ => false

end KillPoint

/-! ## Cancelling a key -/

/-- Where a cancellation of a key stands. -/
inductive CancelPoint where
  /-- About to make the key invalid, unless it is. -/
  | swap (k : KeyId)
  | find (s : SelectorId) (k : KeyId)
  | queue (s : SelectorId) (k : KeyId)
  | wake (s : SelectorId)
  | ended

namespace CancelPoint

def step : CancelPoint → Action CancelPoint
  | swap k => do
    match (← get).key? k with
    | none => return ended
    | some key =>
      if key.valid then
        invalidate k
        return find key.selector k
      else return ended
  | find s k => do
    let st ← get
    match st.selectors[s]? with
    | none => return ended
    | some x => if st.selectorAlive s && x.keys.contains k then return queue s k else return ended
  | queue s k => do
    modify fun st => st.modifySelector s fun x => { x with cancelled := x.cancelled ++ [k] }
    return wake s
  | wake s => do
    wakeup s
    return ended
  | ended => return ended

def isOver : CancelPoint → Bool
  | ended => true
  | _ => false

end CancelPoint

/-! ## Closing a channel -/

/-- Where a close of a channel stands. -/
inductive ClosePoint where
  /-- About to flip the channel. -/
  | shut
  /-- About to look at the lifecycle. -/
  | look
  | mark
  | act (effect : GuardEffect)
  /-- About to see whether some thread waits in accept. -/
  | sample (released : IoResult)
  | signal (t : ThreadId) (closing : Event × IoResult)
  /-- About to see whether some key names the channel. -/
  | count (closing : Event × IoResult)
  | kill (closing : Event × IoResult) (point : KillPoint)
  | tell (closing : Event × IoResult) (killing : Option Event × IoResult)
  | tellKill (event : Event) (outcome : IoResult)
  /-- About to take the keys that are to be cancelled. -/
  | sweep (outcome : IoResult)
  | cancel (point : CancelPoint) (rest : List KeyId) (outcome : IoResult)
  | ended (outcome : IoResult)

namespace ClosePoint

/-- About to cancel the first of the keys, if there is one. -/
def cancelling (outcome : IoResult) : List KeyId → ClosePoint
  | [] => ended outcome
  | k :: rest => cancel (.swap k) rest outcome

def step (c : ListenerId) : ClosePoint → Action ClosePoint
  | shut => do
    match (← listener c).core.shut? none with
    | none => return ended (.ok ())
    | some core =>
      modify fun st => st.modifyListener c fun l => { l with core }
      return look
  | look => do if (← listener c).lifecycle = .killed then return sample (.ok ()) else return mark
  | mark => do
    match ← accessDescriptor c .mark with
    | (.act effect, _) => return act effect
    | (_, released) => return sample released
  | act effect => do
    let r ← accessDescriptor c (.act effect)
    return sample r.2
  | sample released => do
    let l ← listener c
    let event := { eventOf l .closed with fd := shownNumber l.descriptor }
    match l.acceptor with
    | none => return count (event, released)
    | some t => return signal t (event, released)
  | signal t closing => return count (notified closing (← signalThread t))
  | count closing => do
    if (← listener c).core.registered then return tell closing (none, .ok ())
    else return kill closing .weigh
  -- the lock on the lifecycle is let go of here
  | kill closing (.ended event released) => return tell closing (event, released)
  | kill closing point => return kill closing (← point.step c)
  | tell closing killing => do
    emit (some c) closing.1
    match killing.1 with
    | none => return sweep (firstFailure closing.2 killing.2)
    | some event => return tellKill event (firstFailure closing.2 killing.2)
  | tellKill event outcome => do
    emit (some c) event
    return sweep outcome
  | sweep outcome => return cancelling outcome (← listener c).core.keys
  | cancel .ended rest outcome => return cancelling outcome rest
  | cancel point rest outcome => return cancel (← point.step) rest outcome
  | ended outcome => return ended outcome

def wants (c : ListenerId) : ClosePoint → Option Lock
  | shut => some (.closing c)
  | look => some (.state c)
  | count _ => some (.keys c)
  | kill _ point => point.wants c
  | sweep _ => some (.keys c)
  | _ => none

def holds (c : ListenerId) : ClosePoint → List Lock
  | shut | ended _ => []
  | mark | act _ | sample _ | signal _ _ | count _ | kill _ _ => [.closing c, .state c]
  | _ => [.closing c]

/-- The event that the next access tells of. -/
def tells : ClosePoint → Option Event
  | tell closing _ => some closing.1
  | tellKill event _ => some event
  | _ => none

def isOver : ClosePoint → Bool
  | ended _ => true
  | _ => false

end ClosePoint

/-! ## Taking a key off a channel -/

/-- Where a deregistration of a key stands. -/
inductive LeavePoint where
  /-- About to take the key off the list. -/
  | strike
  | void
  /-- About to see whether the channel is closed and has no key left. -/
  | test
  | kill (point : KillPoint)
  | tell (event : Event) (released : IoResult)
  | ended (outcome : IoResult)

namespace LeavePoint

def step (c : ListenerId) (k : KeyId) : LeavePoint → Action LeavePoint
  | strike => do
    let l ← listener c
    modify fun st => st.modifyListener c fun l' => { l' with core := (l.core.dropKey k).1 }
    return void
  | void => do
    invalidate k
    return test
  | test => do
    let core := (← listener c).core
    if core.keys.isEmpty && !core.isOpen then return kill .weigh else return ended (.ok ())
  | kill (.ended (some event) released) => return tell event released
  | kill (.ended none released) => return ended released
  | kill point => return kill (← point.step c)
  | tell event released => do
    emit (some c) event
    return ended released
  | ended outcome => return ended outcome

def wants (c : ListenerId) : LeavePoint → Option Lock
  | strike => some (.keys c)
  | kill .weigh => some (.state c)
  | kill point => point.wants c
  | _ => none

def holds (c : ListenerId) : LeavePoint → List Lock
  | void | test => [.keys c]
  | kill .weigh => []
  | kill _ => [.state c]
  | _ => []

def tells : LeavePoint → Option Event
  | tell event _ => some event
  | _ => none

def isOver : LeavePoint → Bool
  | ended _ => true
  | _ => false

end LeavePoint

/-! ## Registering a channel -/

/-- Where a registration of a channel with a selector stands. -/
inductive RegisterPoint where
  /-- About to see whether the channel can be registered at all. -/
  | enter
  | find
  /-- About to see whether the key that was found is valid. -/
  | weigh (k : KeyId)
  | askSelector
  | make
  /-- About to see once more whether the selector is open. -/
  | askAgain (k : KeyId)
  /-- About to put the key into the selector's collection. -/
  | adopt (k : KeyId)
  /-- About to put the key onto the channel's list. -/
  | list (k : KeyId)
  | interest (k : KeyId)
  | store (k : KeyId)
  | hand (k : KeyId)
  | ended (outcome : Except Failure KeyId)

namespace RegisterPoint

def step (c : ListenerId) (s : SelectorId) (ops : Mask) : RegisterPoint → Action RegisterPoint
  | enter => do
    match (← listener c).core.admission Operation.ofListener ops none true with
    | .error e => return ended (.error e)
    | .ok _ => return find
  | find => do
    match ← keyFor c s with
    | some k => return weigh k
    | none => return askSelector
  | weigh k => do if (← get).keyValid k then return interest k else return askSelector
  | askSelector => do
    if (← selector s).isOpen then return make else return ended (.error .illegalSelector)
  | make => return askAgain (← newKey c s)
  | askAgain k => do
    if (← selector s).isOpen then return adopt k else return ended (.error .illegalSelector)
  | adopt k => do
    modify fun st => st.modifySelector s fun x =>
      { x with registered := x.registered ++ [(k, (0 : Mask))] }
    return list k
  | list k => do
    modify fun st => st.modifyListener c fun l =>
      { l with core := { l.core with keys := l.core.keys ++ [k] } }
    return interest k
  | interest k => do
    let st ← get
    match st.key? k with
    | none => return ended (.error .illegalSelector)
    | some key =>
      match key.checkInterest (if st.listenerAlive key.channel then some Operation.ofListener
        else none) ops with
      | .error e => return ended (.error e)
      | .ok _ => return store k
  | store k => do
    modify fun st => st.modifyKey k fun key => { key with interest := ops }
    return hand k
  | hand k => do
    putEvents k (Readiness.acceptEvents ops)
    return ended (.ok k)
  | ended outcome => return ended outcome

def wants (c : ListenerId) : RegisterPoint → Option Lock
  | enter => some (.registering c)
  | find | list _ => some (.keys c)
  | _ => none

def holds (c : ListenerId) : RegisterPoint → List Lock
  | enter | ended _ => []
  | _ => [.registering c]

def isOver : RegisterPoint → Bool
  | ended _ => true
  | _ => false

end RegisterPoint

/-! ## Closing a selector -/

/-- Where a close of a selector stands. -/
inductive EmptyPoint where
  /-- About to flip the selector. -/
  | shut
  /-- About to take everything out of the collection. -/
  | drain
  | unqueue (ks : List KeyId)
  | unselect (ks : List KeyId)
  | wake (ks : List KeyId)
  | void (k : KeyId) (rest : List KeyId) (outcome : IoResult)
  | leave (c : ListenerId) (k : KeyId) (point : LeavePoint) (rest : List KeyId)
      (outcome : IoResult)
  | ended (outcome : IoResult)

namespace EmptyPoint

/-- About to deregister the first of the keys, if there is one. -/
def voiding (outcome : IoResult) : List KeyId → EmptyPoint
  | [] => ended outcome
  | k :: rest => void k rest outcome

def step (s : SelectorId) : EmptyPoint → Action EmptyPoint
  | shut => do
    if (← selector s).isOpen then
      modify fun st => st.modifySelector s fun x => { x with isOpen := false }
      return drain
    else return ended (.ok ())
  | drain => do
    let x ← selector s
    modify fun st => st.modifySelector s fun x => { x with registered := [] }
    return unqueue x.keys
  | unqueue ks => do
    let x ← selector s
    modify fun st => st.modifySelector s fun x => { x with cancelled := [] }
    return unselect (ks ++ x.cancelled)
  | unselect ks => do
    modify fun st => st.modifySelector s fun x => { x with selected := [] }
    return wake ks
  | wake ks => do
    wakeup s
    return voiding (.ok ()) ks
  | void k rest outcome => do
    invalidate k
    let st ← get
    match st.key? k with
    | none => return voiding outcome rest
    | some key =>
      if st.listenerAlive key.channel then return leave key.channel k .strike rest outcome
      else return voiding outcome rest
  | leave _ _ (.ended result) rest outcome => return voiding (firstFailure outcome result) rest
  | leave c k point rest outcome => return leave c k (← point.step c k) rest outcome
  | ended outcome => return ended outcome

def wants : EmptyPoint → Option Lock
  | leave c _ point _ _ => point.wants c
  | _ => none

def holds : EmptyPoint → List Lock
  | leave c _ point _ _ => point.holds c
  | _ => []

def tells : EmptyPoint → Option Event
  | leave _ _ point _ _ => point.tells
  | _ => none

def isOver : EmptyPoint → Bool
  | ended _ => true
  | _ => false

end EmptyPoint

/-! ## Interleavings -/

/-- A call and where it stands. -/
inductive Call where
  | close (c : ListenerId) (point : ClosePoint)
  | deregister (c : ListenerId) (k : KeyId) (point : LeavePoint)
  | register (c : ListenerId) (s : SelectorId) (ops : Mask) (point : RegisterPoint)
  | closeSelector (s : SelectorId) (point : EmptyPoint)

namespace Call

def step : Call → Action Call
  | close c point => return close c (← point.step c)
  | deregister c k point => return deregister c k (← point.step c k)
  | register c s ops point => return register c s ops (← point.step c s ops)
  | closeSelector s point => return closeSelector s (← point.step s)

/-- The lock that the next access needs. -/
def wants : Call → Option Lock
  | close c point => point.wants c
  | deregister c _ point => point.wants c
  | register c _ _ point => point.wants c
  | closeSelector _ point => point.wants

/-- The locks that the call keeps. -/
def holds : Call → List Lock
  | close c point => point.holds c
  | deregister c _ point => point.holds c
  | register c _ _ point => point.holds c
  | closeSelector _ point => point.holds

/-- The event that the next access tells of. -/
def tells : Call → Option Event
  | close _ point => point.tells
  | deregister _ _ point => point.tells
  | register _ _ _ _ => none
  | closeSelector _ point => point.tells

def isOver : Call → Bool
  | close _ point => point.isOver
  | deregister _ _ point => point.isOver
  | register _ _ _ point => point.isOver
  | closeSelector _ point => point.isOver

end Call

/-- A station, the calls under way on it, and the events that they told of, oldest first. -/
structure Interleaving where
  station : Station
  calls : List Call
  told : List Event := []

namespace Interleaving

/-- The call waits for a lock that some call keeps. -/
def blocked (r : Interleaving) (call : Call) : Bool :=
  match call.wants with
  | none => false
  | some lock => r.calls.any fun other => other.holds.contains lock

/-- A call does its next access, unless it waits. -/
def play (r : Interleaving) (i : Nat) : Interleaving :=
  match r.calls[i]? with
  | none => r
  | some call =>
    if r.blocked call then r
    else
      match call.step.run r.station with
      | (.error _, _) => r
      | (.ok next, station) =>
        { station, calls := r.calls.set i next, told := r.told ++ call.tells.toList }

def after (r : Interleaving) (moves : List Nat) : Interleaving :=
  moves.foldl play r

theorem after_concat (r : Interleaving) (moves : List Nat) (i : Nat) :
    r.after (moves ++ [i]) = (r.after moves).play i := by
  simp [after]

end Interleaving
end PolledChannels
