import PolledChannels.Proofs.SoloCalls

/-!
# Mode changes and accepts through the view, access by access

A change of the blocking mode keeps the lock of registrations from its first access to its last, and
sets the mode of the descriptor under a use of its own. An accept through the blocking view that
has a timeout makes the channel non-blocking, waits for a connection, and makes the channel blocking
again; between the two mode changes it keeps no lock.

Both are cut into accesses here as the other calls are, and what these accesses are
made of keeps, they keep.
-/

namespace PolledChannels

open PolledChannels.Action

/-! ## Changing the mode -/

/-- Where a change of the blocking mode stands. -/
inductive ModePoint where
  /-- About to look at the open flag and at the mode. -/
  | enter
  /-- About to see whether the channel lists a valid key. -/
  | askKeys
  /-- Taking a use of the descriptor. -/
  | take (call : Guard.Call)
  /-- About to set the mode of the descriptor. -/
  | set
  /-- The mode of the descriptor is set, or could not be, and the use is to end. -/
  | leave (r : IoResult)
  /-- The use was the last one, and the number is to go back to the kernel. -/
  | give (r : IoResult)
  /-- About to write the mode down. -/
  | store
  | ended (outcome : Except Failure Unit)

namespace ModePoint

/-- What follows an access that takes a use. -/
def taking : Guard.Call → ModePoint
  | .held => set
  | .refused => ended (.error (.io .socketClosed))
  | call => take call

/-- What follows the use: a mode that could not be set is not written down. -/
def settled : IoResult → ModePoint
  | .ok _ => store
  | .error e => ended (.error (.io e))

/-- What follows the end of the use. -/
def left (r : IoResult) : Guard.Call → ModePoint
  | .act _ => give r
  | _ => settled r

def step (c : ListenerId) (block : Bool) : ModePoint → Action ModePoint
  | enter => do
    let core := (← listener c).core
    if !core.isOpen then return ended (.error .closed)
    else if core.blocking = block then return ended (.ok ())
    else if block then return askKeys
    else return take .look
  | askKeys => do
    let l ← listener c
    if l.core.keys.any (← get).keyValid then return ended (.error .illegalBlockingMode)
    else return take .look
  | take call => return taking (← accessDescriptor c call).1
  | set => do return leave (← network (Net.setBlocking (← listener c).descriptor.number block))
  | leave r => return left r (← accessDescriptor c .leave).1
  | give r => do
    let _ ← accessDescriptor c (.act .release)
    return settled r
  | store => do
    modify fun st => st.modifyListener c fun l =>
      { l with core := { l.core with blocking := block } }
    return ended (.ok ())
  | ended outcome => return ended outcome

/-- The lock that the next access needs. -/
def wants (c : ListenerId) : ModePoint → Option Lock
  | enter => some (.registering c)
  | askKeys => some (.keys c)
  | _ => none

def holds (c : ListenerId) : ModePoint → List Lock
  | enter | ended _ => []
  | _ => [.registering c]

def isOver : ModePoint → Bool
  | ended _ => true
  | _ => false

def call? : ModePoint → Option Guard.Call
  | take call => some call
  | leave _ => some .leave
  | give _ => some (.act .release)
  | _ => none

theorem keeps_step {P : Station → Prop} {c : ListenerId} {block : Bool} {p : ModePoint}
    (hcall : ∀ call, p.call? = some call → Keeps P (accessDescriptor c call).run)
    (hset : p = .set → ∀ number, Keeps P (network (Net.setBlocking number block)).run)
    (hstore : p = .store → Keeps P (modify fun st => st.modifyListener c fun l =>
      { l with core := { l.core with blocking := block } } : Action Unit).run) :
    Keeps P (p.step c block).run := by
  cases p with
  | enter =>
    refine keeps_bind (keeps_listener c) fun l => ?_
    dsimp only
    split
    · exact keeps_pure _
    split
    · exact keeps_pure _
    split <;> exact keeps_pure _
  | askKeys =>
    refine keeps_bind (keeps_listener c) fun l => keeps_bind keeps_get fun st => ?_
    split <;> exact keeps_pure _
  | take call | leave r | give r => exact keeps_bind (hcall _ rfl) fun _ => keeps_pure _
  | set =>
    exact keeps_bind (keeps_listener c) fun l =>
      keeps_bind (hset rfl _) fun _ => keeps_pure _
  | store => exact keeps_then (hstore rfl) _
  | ended outcome => exact keeps_pure _

theorem step_over {c : ListenerId} {block : Bool} {p : ModePoint} (hover : p.isOver = true) :
    p.step c block = pure p := by
  cases p with
  | ended outcome => rfl
  | _ => cases hover

end ModePoint

/-! ## Accepting through the view -/

/-- Where an accept through the blocking view stands. -/
inductive ViewPoint where
  /-- About to look the channel up, which the view does not keep. -/
  | enter
  | askBound
  | askMode
  | askTimeout
  /-- Makes the channel non-blocking. -/
  | loosen (timeout : Nat) (point : ModePoint)
  | accept (caller : Caller) (point : AcceptPoint)
  /-- About to see whether the channel is open, before another wait. -/
  | look (deadline : Nat)
  /-- About to see whether there is time left. -/
  | clock (deadline : Nat)
  /-- Taking a use of the descriptor. -/
  | take (deadline : Nat) (call : Guard.Call)
  | poll (deadline : Nat)
  /-- In the poll, which had nothing to report. -/
  | inside (deadline : Nat)
  /-- The poll said whether a connection waits, and its use is to end. -/
  | leave (deadline : Nat) (r : Except IoError Bool)
  /-- The use was the last one, and the number is to go back to the kernel. -/
  | give (deadline : Nat) (r : Except IoError Bool)
  /-- The answer is known, and an open channel is to block again. -/
  | askOpen (answer : Except Failure ConnectionId)
  /-- Makes the channel block again. -/
  | fasten (answer : Except Failure ConnectionId) (point : ModePoint)
  | drop (i : ConnectionId) (f : Failure)
  | ended (answer : Except Failure ConnectionId)

namespace ViewPoint

/-- What follows an access that takes a use. -/
def taking (deadline : Nat) : Guard.Call → ViewPoint
  | .held => poll deadline
  | .refused => askOpen (.error (.io .socketClosed))
  | call => take deadline call

/-- What follows the report of a poll. -/
def reported (deadline : Nat) : Except IoError Mask → ViewPoint
  | .error e => leave deadline (if e = .os .interrupted then .ok false else .error e)
  | .ok events => if events = 0 then inside deadline else leave deadline (.ok true)

/-- What follows the use that a poll was made under. -/
def polled (deadline : Nat) : Except IoError Bool → ViewPoint
  | .ok true => accept (.again deadline) .turn
  | .ok false => look deadline
  | .error e => askOpen (.error (.io e))

/-- What follows the end of a use. -/
def left (deadline : Nat) (r : Except IoError Bool) : Guard.Call → ViewPoint
  | .act _ => give deadline r
  | _ => polled deadline r

/-- What follows an accept that was made before a deadline. -/
def answered (deadline : Nat) : AcceptAnswer → ViewPoint
  | .ok (some i) => askOpen (.ok i)
  | .ok none => look deadline
  | .error f => askOpen (.error f)

/-- What follows an accept, given the time. -/
def returned (now : Nat) (r : AcceptAnswer) : Caller → ViewPoint
  | .channel | .view => ended (Step.viewedAnswer r)
  | .timed timeout => answered (now + timeout) r
  | .again deadline => answered deadline r

/-- What follows the first change of the mode. -/
def loosened (timeout : Nat) : Except Failure Unit → ViewPoint
  | .ok _ => accept (.timed timeout) .turn
  | .error f => ended (.error f)

/-- What follows the second change of the mode: if that fails, a connection that was taken is
lost. -/
def fastened (answer : Except Failure ConnectionId) : Except Failure Unit → ViewPoint
  | .ok _ => ended answer
  | .error f =>
    match answer with
    | .ok i => drop i f
    | .error _ => ended (.error f)

def step (me : ThreadId) (c : ListenerId) (signalled : Bool) : ViewPoint → Action ViewPoint
  | enter => do if (← listener c).alive then return askBound else return ended (.error .closed)
  | askBound => do
    if (← listener c).isBound then return askMode else return ended (.error .notYetBound)
  | askMode => do
    if (← listener c).core.blocking then return askTimeout
    else return ended (.error .illegalBlockingMode)
  | askTimeout => do
    let timeout := (← listener c).timeout.getD 0
    if timeout = 0 then return accept .view .turn else return loosen timeout.toNat .enter
  | loosen timeout (.ended outcome) => return loosened timeout outcome
  | loosen timeout point => return loosen timeout (← point.step c false)
  | accept caller (.ended r) => return returned (← get).now r caller
  | accept caller point => return accept caller (← point.step me c signalled)
  | look deadline => do
    if (← listener c).core.isOpen then return clock deadline else return askOpen (.error .closed)
  | clock deadline => do
    if deadline ≤ (← get).now then return askOpen (.error timedOut)
      else return take deadline .look
  | take deadline call => return taking deadline (← accessDescriptor c call).1
  | poll deadline => do
    return reported deadline
      (← network (Net.poll (← listener c).descriptor.number Native.input))
  | inside deadline => do
    let number := (← listener c).descriptor.number
    let st ← get
    if signalled then return leave deadline (.ok false)
    else if st.network.polled number Native.input ≠ 0 then return leave deadline (.ok true)
    else if deadline ≤ st.now then return leave deadline (.ok false)
    else return inside deadline
  | leave deadline r => return left deadline r (← accessDescriptor c .leave).1
  | give deadline r => do
    let _ ← accessDescriptor c (.act .release)
    return polled deadline r
  | askOpen answer => do
    if (← listener c).core.isOpen then return fasten answer .enter else return ended answer
  | fasten answer (.ended outcome) => return fastened answer outcome
  | fasten answer point => return fasten answer (← point.step c true)
  | drop i f => do
    dropConnection i
    return ended (.error f)
  | ended answer => return ended answer

/-- What the next access needs. -/
def wants (me : ThreadId) (c : ListenerId) : ViewPoint → Option Bar
  | askBound => some (.lock (.state c))
  | askMode => some (.lock (.registering c))
  | loosen _ point | fasten _ point => (point.wants c).map .lock
  | accept _ point => (Party.accept me c point).wants
  | _ => none

/-- What the call keeps. -/
def holds (me : ThreadId) (c : ListenerId) : ViewPoint → List Bar
  | loosen _ point | fasten _ point => (point.holds c).map .lock
  | accept _ point => (Party.accept me c point).holds
  | _ => []

def isOver : ViewPoint → Bool
  | ended _ => true
  | _ => false

def call? : ViewPoint → Option Guard.Call
  | take _ call => some call
  | leave _ _ => some .leave
  | give _ _ => some (.act .release)
  | _ => none

section Steps

variable {c : ListenerId} (me : ThreadId) (signalled : Bool) {point : ModePoint}

theorem step_loosen (timeout : Nat) (hbusy : point.isOver = false) :
    step me c signalled (.loosen timeout point) =
      (do return .loosen timeout (← point.step c false)) := by
  cases point with
  | ended outcome => cases hbusy
  | _ => rfl

theorem step_fasten (answer : Except Failure ConnectionId) (hbusy : point.isOver = false) :
    step me c signalled (.fasten answer point) =
      (do return .fasten answer (← point.step c true)) := by
  cases point with
  | ended outcome => cases hbusy
  | _ => rfl

theorem step_accept (caller : Caller) {point : AcceptPoint} (hbusy : point.isOver = false) :
    step me c signalled (.accept caller point) =
      (do return .accept caller (← point.step me c signalled)) := by
  cases point with
  | ended answer => cases hbusy
  | _ => rfl

theorem keeps_step {P : Station → Prop} {p : ViewPoint}
    (hloosen : ∀ timeout point, p = .loosen timeout point → Keeps P (point.step c false).run)
    (haccept : ∀ caller point, p = .accept caller point →
      Keeps P (point.step me c signalled).run)
    (hcall : ∀ call, p.call? = some call → Keeps P (accessDescriptor c call).run)
    (hpoll : ∀ number, Keeps P (network (Net.poll number Native.input)).run)
    (hfasten : ∀ answer point, p = .fasten answer point → Keeps P (point.step c true).run)
    (hdrop : ∀ i, Keeps P (dropConnection i).run) : Keeps P (p.step me c signalled).run := by
  cases p with
  | enter => exact keeps_ask _ _ Listener.alive
  | askBound => exact keeps_ask _ _ Listener.isBound
  | askMode => exact keeps_ask _ _ fun l => l.core.blocking
  | askTimeout =>
    refine keeps_bind (keeps_listener c) fun l => ?_
    dsimp only
    split <;> exact keeps_pure _
  | loosen timeout point =>
    cases point with
    | ended outcome => exact keeps_pure _
    | _ => exact keeps_bind (hloosen _ _ rfl) fun _ => keeps_pure _
  | accept caller point =>
    cases point with
    | ended answer => exact keeps_bind keeps_get fun _ => keeps_pure _
    | _ => exact keeps_bind (haccept _ _ rfl) fun _ => keeps_pure _
  | look deadline | askOpen answer => exact keeps_ask _ _ fun l => l.core.isOpen
  | clock deadline =>
    refine keeps_bind keeps_get fun st => ?_
    split <;> exact keeps_pure _
  | take deadline call | leave deadline r | give deadline r =>
    exact keeps_bind (hcall _ rfl) fun _ => keeps_pure _
  | poll deadline =>
    exact keeps_bind (keeps_listener c) fun l =>
      keeps_bind (hpoll _) fun _ => keeps_pure _
  | inside deadline =>
    refine keeps_bind (keeps_listener c) fun l => keeps_bind keeps_get fun st => ?_
    split
    · exact keeps_pure _
    split
    · exact keeps_pure _
    split <;> exact keeps_pure _
  | fasten answer point =>
    cases point with
    | ended outcome => exact keeps_pure _
    | _ => exact keeps_bind (hfasten _ _ rfl) fun _ => keeps_pure _
  | drop i f => exact keeps_then (hdrop i) _
  | ended answer => exact keeps_pure _

end Steps
end ViewPoint
end PolledChannels
