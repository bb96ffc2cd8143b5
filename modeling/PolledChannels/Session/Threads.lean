import PolledChannels.Channels.Selecting
import PolledChannels.Channels.View

/-!
# Threads

Four operations may wait: binding and accepting wait for their turn at a channel, accepting waits
for a connection, and selecting waits for a key to become ready. A thread in such an operation
stands at a point; `Point.advance` moves it from one point to the next, or says that it waits, or
gives the answer of the operation.
-/

namespace PolledChannels

inductive Move where
  | goto (point : Point)
  /-- Nowhere: it waits at the point. -/
  | wait (point : Point)
  /-- To the end of its operation. -/
  | done (outcome : Outcome)

namespace Action

/-- Another thread has its turn at a channel. -/
def turnTaken (me : ThreadId) (c : ListenerId) : Action Bool := do
  match (← get).listeners[c]? with
  | some l => return l.turn.any fun t => t != me
  | none => return false

def takeTurn (me : ThreadId) (c : ListenerId) : Action Unit :=
  modify fun st => st.modifyListener c fun l => { l with turn := some me }

def giveTurn (c : ListenerId) : Action Unit :=
  modify fun st => st.modifyListener c fun l => { l with turn := none }

end Action

abbrev Step := StateM Station Move

namespace Step

/-- Runs an operation and goes on with its outcome. -/
def after {α : Type} (a : Action α) (next : Except Failure α → Step) : Step := do
  next (← a.run)

def finishView (c : ListenerId) (r : Except Failure ConnectionId) : Step :=
  after (Action.leaveView c r) fun r => return .done (.viewed r)

/-- The answer of an accept through a view that does not wait for a time. -/
def viewedAnswer : AcceptAnswer → Except Failure ConnectionId
  | .ok (some i) => .ok i
  | .ok none => .error .illegalBlockingMode
  | .error f => .error f

/-- An accept answers a view that waits until a deadline. -/
def answerTimed (c : ListenerId) (deadline : Nat) : AcceptAnswer → Step
  | .ok (some i) => finishView c (.ok i)
  | .ok none => return .goto (.timed c deadline)
  | .error f => finishView c (.error f)

def answer (c : ListenerId) (caller : Caller) (r : AcceptAnswer) : Step := do
  match caller with
  | .channel => return .done (.accepted r)
  | .view => return .done (.viewed (viewedAnswer r))
  | .timed timeout => answerTimed c ((← get).now + timeout) r
  | .again deadline => answerTimed c deadline r

/-- A thread leaves an accept, gives its turn back and answers its caller. -/
def leave (me : ThreadId) (c : ListenerId) (caller : Caller) (a : Attempt) : Step :=
  after (Action.leaveAccept me c a) fun r => do
    let _ ← (Action.giveTurn c).run
    answer c caller r

/-- What follows an attempt: an interrupted one is made again while the channel is open. -/
def afterAttempt (me : ThreadId) (c : ListenerId) (caller : Caller) :
    Except Failure (Option Attempt) → Step
  | .ok none => return .goto (.inAccept c caller)
  | .ok (some .interrupted) => do
    match (← get).listeners[c]? with
    | some l =>
      if l.core.isOpen then return .goto (.attempt c caller) else leave me c caller .interrupted
    | none => leave me c caller .interrupted
  | .ok (some a) => leave me c caller a
  | .error f => leave me c caller (.failed f.toIoError)

/-- A thread whose turn has come enters an accept. -/
def enter (me : ThreadId) (c : ListenerId) (caller : Caller) : Step :=
  after (do Action.takeTurn me c; Action.enterAccept me c) fun
    | .ok true => return .goto (.attempt c caller)
    | .ok false => leave me c caller .interrupted
    | .error f => do
      let _ ← (Action.giveTurn c).run
      answer c caller (.error f)

def startView (c : ListenerId) : Step :=
  after (Action.enterView c) fun
    | .error f => return .done (.viewed (.error f))
    | .ok timeout =>
      if timeout = 0 then return .goto (.accept c .view)
      else
        after (Action.configureBlocking c false) fun
          | .error f => return .done (.viewed (.error f))
          | .ok _ => return .goto (.accept c (.timed timeout.toNat))

/-- A view polls for a connection, if the channel is open and there is time left. -/
def pollTimed (c : ListenerId) (deadline : Nat) : Step := do
  let st ← get
  match st.listeners[c]? with
  | none => finishView c (.error .closed)
  | some l =>
    if !l.core.isOpen then finishView c (.error .closed)
    else if deadline ≤ st.now then finishView c (.error Action.timedOut)
    else
      after (Action.acquire c) fun
        | .error f => finishView c (.error f)
        | .ok number =>
          after (Action.network (Net.poll number Native.input)) fun
            | .ok (.error e) => do
              let _ ← (Action.release c).run
              if e = .os .interrupted then return .goto (.timed c deadline)
                else finishView c (.error (.io e))
            | .ok (.ok events) =>
              if events = 0 then return .goto (.inPoll c deadline)
              else do
                let _ ← (Action.release c).run
                return .goto (.accept c (.again deadline))
            | .error f => finishView c (.error f)

/-- A view that waits in a poll goes on, if a signal came, a connection came or the time is over. -/
def resumePoll (c : ListenerId) (deadline : Nat) (signalled : Bool) : Step := do
  let st ← get
  match st.listeners[c]? with
  | none => finishView c (.error .closed)
  | some l =>
    if signalled then
      let _ ← (Action.release c).run
      return .goto (.timed c deadline)
    else if st.network.polled l.descriptor.number Native.input ≠ 0 then
      let _ ← (Action.release c).run
      return .goto (.accept c (.again deadline))
    else if deadline ≤ st.now then
      let _ ← (Action.release c).run
      return .goto (.timed c deadline)
    else return .wait (.inPoll c deadline)

def startSelect (s : SelectorId) (timeout : Option Nat) : Step :=
  after (Action.beginSelect s) fun
    | .error f => return .done (.selected (.error f))
    | .ok polled =>
      after (Action.network Net.consult) fun
        | .ok (.error e) =>
          after (Action.endSelect s polled (.failed e)) fun r => return .done (.selected r)
        | _ => do
          let now := (← get).now
          return .goto (.inSelect s polled (timeout.map fun t => now + t))

/-- A selection that waits goes on, if a signal came, something is reported, it was woken
or the time is over. -/
def resumeSelect (s : SelectorId) (polled : List Polled) (deadline : Option Nat)
    (signalled : Bool) : Step := do
  let st ← get
  let woken := (st.selectors[s]?).any fun x => 0 < x.wake.size
  let events (p : Polled) := st.network.polled p.number p.mask
  let late := deadline.any fun d => d ≤ st.now
  if signalled then
    after (Action.endSelect s polled (.failed (.os .interrupted))) fun r =>
      return .done (.selected r)
  else if woken || late || polled.any fun p => events p != 0 then
    after (Action.endSelect s polled (.reported events woken)) fun r => return .done (.selected r)
  else return .wait (.inSelect s polled deadline)

end Step

namespace Point

/-- One step of thread `me` from a point. -/
def advance (me : ThreadId) (signalled : Bool) : Point → Step
  | bind c address backlog =>
    Step.after (Action.turnTaken me c) fun
      | .ok true => return .wait (bind c address backlog)
      | _ => Step.after (Action.bind c address backlog) fun r => return .done (.bound r)
  | accept c caller =>
    Step.after (Action.turnTaken me c) fun
      | .ok true => return .wait (accept c caller)
      | _ => Step.enter me c caller
  | attempt c caller => Step.after (Action.attemptAccept c) (Step.afterAttempt me c caller)
  | inAccept c caller =>
    Step.after (Action.resumeAccept c signalled) fun
      | .ok none => return .wait (inAccept c caller)
      | r => Step.afterAttempt me c caller r
  | view c => Step.startView c
  | timed c deadline => Step.pollTimed c deadline
  | inPoll c deadline => Step.resumePoll c deadline signalled
  | select s timeout => Step.startSelect s timeout
  | inSelect s polled deadline => Step.resumeSelect s polled deadline signalled

/-- When the wait at a point is over for lack of time. -/
def deadline? : Point → Option Nat
  | inPoll _ deadline => some deadline
  | inSelect _ _ deadline => deadline
  | _ => none

def listener? : Point → Option ListenerId
  | bind c _ _ | accept c _ | attempt c _ | inAccept c _ | view c | timed c _ | inPoll c _ => some c
  | select _ _ | inSelect _ _ _ => none

def selector? : Point → Option SelectorId
  | select s _ | inSelect s _ _ => some s
  | _ => none

/-- Moves a thread from point to point until it waits or is done, for at most `fuel` steps. A
signal is for the first of them. -/
def drive : Nat → ThreadId → Bool → Point → Step
  | 0, _, _, p => return .wait p
  | fuel + 1, me, signalled, p => do
    match ← p.advance me signalled with
    | .goto p => drive fuel me false p
    | move => return move

end Point
end PolledChannels
