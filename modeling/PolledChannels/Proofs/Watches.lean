import PolledChannels.Proofs.Accesses

/-!
# Selections access by access

A thread selects over and over while others cancel keys, close channels and wake the selector. Here
a selection is cut into accesses as the other calls are: the queue of cancelled keys is taken, each
of these keys is forgotten and deregistered, what there is to poll is noted, the poll is answered,
the wake pipe is read until it is empty, each key that something was reported of is visited, and the
queue is taken once more.

A watch is a station, the selecting thread and the visitors at work on it. A move lets one of them
do its next access; what a poll answers comes with the move, so it may be anything. No move waits
for a lock: what holds of every order of accesses holds of the orders that locks allow.
-/

namespace PolledChannels

open PolledChannels.Action

/-! ## Selecting -/

/-- What a selection does once the cancelled keys are deregistered. -/
inductive Afterwards where
  | poll
  | answer (count : Nat)
  deriving DecidableEq, Repr

/-- Cancelled keys that a selection took: those to come, and the outcome of the others. -/
structure Batch where
  rest : List KeyId
  outcome : IoResult
  next : Afterwards

/-- What a poll reported: the keys to come, and what the others made. -/
structure Harvest where
  /-- The keys that were selected before. -/
  already : List KeyId
  rest : List (KeyId × Mask)
  count : Nat := 0
  newly : List KeyId := []

/-- Where a selection stands. -/
inductive SelectPoint where
  /-- About to see whether the selector is open. -/
  | enter
  /-- About to take the queue of cancelled keys. -/
  | take (next : Afterwards)
  /-- About to take a cancelled key out of the collection. -/
  | forget (k : KeyId) (batch : Batch)
  | unselect (k : KeyId) (batch : Batch)
  /-- About to see whether the channel of the key is still there. -/
  | look (k : KeyId) (batch : Batch)
  | leave (c : ListenerId) (k : KeyId) (point : LeavePoint) (batch : Batch)
  | snapshot
  /-- In the poll. -/
  | poll (polled : List Polled)
  /-- About to read from the wake pipe. -/
  | drain (reported : List (KeyId × Mask))
  /-- About to see which keys were selected before. -/
  | sample (reported : List (KeyId × Mask))
  | visit (harvest : Harvest)
  /-- The descriptor of the channel was not open: about to see whether the channel is. -/
  | blame (c : ListenerId) (k : KeyId) (harvest : Harvest)
  | tell (c : ListenerId) (k : KeyId) (policy : InvalidPolicy) (harvest : Harvest)
  | cancel (k : KeyId) (point : CancelPoint) (harvest : Harvest)
  /-- About to see whether something that the key waits for is ready. -/
  | weigh (k : KeyId) (harvest : Harvest)
  /-- About to select the keys that became ready. -/
  | select (harvest : Harvest)
  | ended (answer : Except Failure Nat)

namespace SelectPoint

/-- What follows the deregistration of a key. -/
def proceed : Batch → SelectPoint
  | ⟨k :: rest, outcome, next⟩ => forget k ⟨rest, outcome, next⟩
  | ⟨[], .error e, _⟩ => ended (.error (.io e))
  | ⟨[], .ok _, .poll⟩ => snapshot
  | ⟨[], .ok _, .answer count⟩ => ended (.ok count)

/-- What follows the answer of a poll. A poll that was interrupted reports nothing. -/
def answered (polled : List Polled) : PollAnswer → SelectPoint
  | .failed e => if e = .os .interrupted then sample [] else ended (.error (.io e))
  | .reported events woken =>
    let reported := polled.map fun p => (p.key, events p)
    if woken then drain reported else sample reported
  | .wakeFailed e => ended (.error (.io e))

/-- What follows a visit: a key that was selected before counts if a bit became ready. -/
def visited (k : KeyId) (changed : Bool) (h : Harvest) : SelectPoint :=
  if h.already.contains k then visit { h with count := h.count + if changed then 1 else 0 }
  else weigh k h

/-- Bytes that one read takes out of the wake pipe. -/
def chunk : Nat := 64

def step (s : SelectorId) (answer : PollAnswer) : SelectPoint → Action SelectPoint
  | enter => do
    if (← selector s).isOpen then return take .poll else return ended (.error .illegalSelector)
  | take next => return proceed ⟨← takeCancelled s, .ok (), next⟩
  | forget k batch => do
    modify fun st => st.modifySelector s fun x =>
      { x with registered := x.registered.filter fun p => p.1 != k }
    return unselect k batch
  | unselect k batch => do
    modify fun st => st.modifySelector s fun x =>
      { x with selected := x.selected.filter fun y => y != k }
    return look k batch
  | look k batch => do
    let st ← get
    match st.key? k with
    | none => return proceed batch
    | some key =>
      if st.listenerAlive key.channel then return leave key.channel k .strike batch
      else return proceed batch
  | leave _ _ (.ended result) batch =>
    return proceed { batch with outcome := firstFailure batch.outcome result }
  | leave c k point batch => return leave c k (← point.step c k) batch
  | snapshot => return poll (← Action.snapshot s)
  | poll polled => return answered polled answer
  | drain reported => do
    if (← selector s).wake.size = 0 then return sample reported
    else
      modify fun st => st.modifySelector s fun x =>
        { x with wake := { x.wake with size := x.wake.size - chunk } }
      return drain reported
  | sample reported => do
    let x ← selector s
    return visit { already := x.selected, rest := reported }
  | visit ⟨already, [], count, newly⟩ => return select ⟨already, [], count, newly⟩
  | visit ⟨already, (k, events) :: rest, count, newly⟩ => do
    let st ← get
    match st.key? k with
    | none => return visit ⟨already, rest, count, newly⟩
    | some key =>
      if events = 0 ||
        !st.listenerAlive key.channel then return visit ⟨already, rest, count, newly⟩
      else
        match Readiness.translate events (if already.contains k then key.ready else 0) key.interest
          key.ready with
        | .invalid => return blame key.channel k ⟨already, rest, count, newly⟩
        | .ready ops changed =>
          setReady k ops
          return visited k changed ⟨already, rest, count, newly⟩
  | blame c k harvest => do
    if (← listener c).core.isOpen then return tell c k (← get).provider.invalid harvest
    else return visited k false harvest
  | tell c k policy harvest => do
    let l ← listener c
    emit (some c) (invalidEvent l k policy)
    if policy.invalidatesKey then return cancel k (.swap k) harvest
    else return visited k false harvest
  | cancel k .ended harvest => return visited k false harvest
  | cancel k point harvest => return cancel k (← point.step) harvest
  | weigh k harvest => do
    if ← isReady k then
      return visit { harvest with count := harvest.count + 1, newly := harvest.newly ++ [k] }
    else return visit harvest
  | select harvest => do
    modify fun st => st.modifySelector s fun x => { x with selected := x.selected ++ harvest.newly }
    return take (.answer harvest.count)
  | ended _ => return enter

/-- The answer of a selection that is over. -/
def answer? : SelectPoint → Option (Except Failure Nat)
  | ended answer => some answer
  | _ => none

end SelectPoint

/-! ## Visitors -/

/-- Where the call of another thread stands. -/
inductive VisitPoint where
  | cancel (point : CancelPoint)
  | close (c : ListenerId) (point : ClosePoint)
  | wakeup (s : SelectorId) (written : Bool)

namespace VisitPoint

def step : VisitPoint → Action VisitPoint
  | cancel point => return cancel (← point.step)
  | close c point => return close c (← point.step c)
  | wakeup s false => do
    Action.wakeup s
    return wakeup s true
  | wakeup s true => return wakeup s true

/-- Where the cancellation stands that the call is in. -/
def cancelling : VisitPoint → Option CancelPoint
  | cancel point | close _ (.cancel point _ _) => some point
  | _ => none

/-- The key whose cancellation is about to begin. -/
def begins (p : VisitPoint) : Option KeyId :=
  match p.cancelling with
  | some (.swap k) => some k
  | _ => none

/-- In a cancellation that has made its key invalid. -/
def isCancelling (p : VisitPoint) : Bool :=
  match p.cancelling with
  | some (.find _ _) | some (.queue _ _) | some (.wake _) => true
  | _ => false

/-- A cancellation came back. -/
def isBack (p : VisitPoint) : Bool :=
  match p.cancelling with
  | some .ended => true
  | _ => false

end VisitPoint

/-- A call of another thread, and what was noted of it. -/
structure Visitor where
  point : VisitPoint
  /-- The key whose cancellation the call began last. -/
  key : Option KeyId
  /-- The keys that the call made invalid itself, and whose cancellation came back. -/
  cancelled : List KeyId := []
  /-- The keys that the call found invalid, so that there was nothing to do. -/
  spent : List KeyId := []

namespace Visitor

/-- The visitor after an access. -/
def advance (v : Visitor) (next : VisitPoint) : Visitor where
  point := next
  key := next.begins.or v.key
  cancelled := if v.point.isCancelling && next.isBack then v.key.toList ++ v.cancelled
    else v.cancelled
  spent := if v.point.begins.isSome && next.isBack then v.key.toList ++ v.spent else v.spent

end Visitor

/-- What a thread asks for. -/
inductive Request where
  | cancel (k : KeyId)
  | close (c : ListenerId)
  | wakeup (s : SelectorId)
  deriving DecidableEq, Repr

/-- A visitor that has done nothing yet. -/
def Request.visitor : Request → Visitor
  | cancel k => { point := .cancel (.swap k), key := some k }
  | close c => { point := .close c .shut, key := none }
  | wakeup s => { point := .wakeup s false, key := none }

/-! ## Watches -/

/-- A station, a thread that selects over and over, and the visitors. -/
structure Watch where
  station : Station
  /-- The selector. -/
  selector : SelectorId
  point : SelectPoint := .enter
  /-- What the selections before this one answered, oldest first. -/
  answers : List (Except Failure Nat) := []
  visitors : List Visitor

namespace Watch

/-- Whose turn it is. The answer is what a poll answers then. -/
inductive Move where
  | select (answer : PollAnswer)
  | visit (i : Nat)

/-- The thread is about to select for the first time, and no visitor has done anything yet. -/
def start (st : Station) (s : SelectorId) (requests : List Request) : Watch where
  station := st
  selector := s
  visitors := requests.map Request.visitor

/-- The selecting thread comes to a point. -/
def selectTo (r : Watch) (station : Station) (point : SelectPoint) : Watch :=
  { r with station, point, answers := r.answers ++ r.point.answer?.toList }

/-- A visitor becomes another. -/
def visitTo (r : Watch) (station : Station) (i : Nat) (v : Visitor) : Watch :=
  { r with station, visitors := r.visitors.set i v }

def play (r : Watch) : Move → Watch
  | .select answer =>
    match (r.point.step r.selector answer).run r.station with
    | (.error _, _) => r
    | (.ok point, station) => r.selectTo station point
  | .visit i =>
    match r.visitors[i]? with
    | none => r
    | some v =>
      match v.point.step.run r.station with
      | (.error _, _) => r
      | (.ok next, station) => r.visitTo station i (v.advance next)

/-- The watch after the moves. -/
def after (r : Watch) (moves : List Move) : Watch :=
  moves.foldl play r

end Watch
end PolledChannels
