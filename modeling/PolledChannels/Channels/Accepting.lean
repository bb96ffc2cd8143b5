import PolledChannels.Channels.Opening
import PolledChannels.Network.Poll

/-!
# Accepting connections

An accept has three parts: entering, one or more attempts, and leaving. A thread that enters is
open to interrupts until it leaves. An attempt on a blocking socket may have to wait in the kernel;
the use of the descriptor is then kept until it goes on.
-/

namespace PolledChannels

/-- What an attempt to accept came to. -/
inductive Attempt where
  | taken (number : FileNumber) (remote : Endpoint)
  | unavailable
  | interrupted
  | failed (error : IoError)
  deriving DecidableEq, Repr

namespace Attempt

def completed : Attempt → Bool
  | taken _ _ => true
  | _ => false

end Attempt

namespace Action

/-- A thread that is about to try writes itself down, unless the channel was closed. -/
def storeAcceptor (me : ThreadId) (c : ListenerId) : Action Bool := do
  if (← listener c).core.isOpen then
    modify fun st => st.modifyListener c fun l => { l with acceptor := some me }
    return true
  else return false

/-- A thread enters an accept. The answer says whether the channel is still open, so that an
attempt makes sense. -/
def enterAccept (me : ThreadId) (c : ListenerId) : Action Bool := do
  let l ← listener c
  if !l.core.isOpen then throw .closed
  else if !l.isBound then throw .notYetBound
  else
    let st ← get
    let r := st.interrupts.enter me c
    set { st with interrupts := r.1 }
    if r.2 then interruptListener c me else pure ()
    storeAcceptor me c

/-- What a failed accept call means: on a closed descriptor it means that the socket is closed. -/
def classify (closed : Bool) (e : IoError) : Attempt :=
  if e = .os .interrupted then .interrupted
  else if e = .os .again then .unavailable
  else if closed &&
    (e == .os .invalidArgument || e == .os .badDescriptor) then .failed .socketClosed
  else .failed e

/-- Ends the use that an attempt was made under. -/
def endAttempt (c : ListenerId) (a : Attempt) : Action (Option Attempt) := do
  release c
  return some a

/-- Calls accept under a use; without an answer the thread waits in the call. -/
def callAccept (c : ListenerId) (number : FileNumber) : Action (Option Attempt) := do
  match ← network (Net.accept number) with
  | .ok none => return none
  | .ok (some (taken, remote)) => endAttempt c (.taken taken remote)
  | .error e => endAttempt c (classify (← listener c).descriptor.isClosed e)

/-- One attempt. A socket that does not block is polled first, and one with nothing pending is left
alone. Without an answer the thread waits in the call, under its use. -/
def attemptAccept (c : ListenerId) : Action (Option Attempt) := do
  match ← observe (acquire c) with
  | .error f => return some (.failed f.toIoError)
  | .ok number =>
    match ← network (Net.isBlocking number) with
    | .error e => endAttempt c (.failed e)
    | .ok true => callAccept c number
    | .ok false =>
      match ← network (Net.poll number Native.input) with
      | .error e => endAttempt c (if e = .os .interrupted then .interrupted else .failed e)
      | .ok events => if events = 0 then endAttempt c .unavailable else callAccept c number

/-- A thread that waits in accept goes on, if a signal came or there is something to answer. -/
def resumeAccept (c : ListenerId) (signalled : Bool) : Action (Option Attempt) := do
  if signalled then endAttempt c .interrupted
  else
    let l ← listener c
    let number := l.descriptor.number
    if (← get).network.polled number Native.input = 0 then return none else callAccept c number

def connectionEvent (x : Connection) (kind : EventKind) : Event :=
  { kind, channel := x.id.toUInt64 }

/-- Closes a connection and tells of it, once. -/
def closeConnection (i : ConnectionId) : Action Unit := do
  match (← get).connections[i]? with
  | none => throw .closed
  | some x =>
    if x.descriptor.isClosed then pure ()
    else
      let released ← closeConnectionDescriptor i
      emit none { connectionEvent x .closed with
        fd := shownNumber x.descriptor, remoteAddress := some x.remote.render,
        errno := shownErrno released }
      demand released

/-- The connection over a descriptor that was taken. -/
def addConnection (number : FileNumber) (remote : Endpoint) : Action ConnectionId := do
  let id ← takeId
  let x : Connection := { id, descriptor := { number }, remote }
  let st ← get
  set { st with connections := st.connections ++ [x] }
  return st.connections.length

/-- Makes a connection of a descriptor that was taken, if the policy lets it be kept. -/
def keepConnection (c : ListenerId) (number : FileNumber) (remote : Endpoint) :
    Action ConnectionId := do
  match ← network (Net.setBlocking number true) with
  | .error e =>
    let _ ← network (Net.close number)
    throw (.io e)
  | .ok _ =>
    let l ← listener c
    let i ← addConnection number remote
    match (← get).provider.checkAccept remote with
    | .error denial =>
      emit (some c) { eventOf l .acceptDenied with
        remoteAddress := some remote.render, detail := some denial.message }
      let _ ← observe (closeConnection i)
      throw (.denied denial)
    | .ok _ =>
      let address ← network (Net.localAddress number)
      emit (some c) { eventOf l .accepted with
        fd := some (Int32.ofInt number), localAddress := address.toOption.map Endpoint.render
        remoteAddress := some remote.render }
      return i

/-- A thread leaves an accept with what its last attempt came to. A connection that was taken goes
back if the thread's own interrupt closed the channel. -/
def leaveAccept (me : ThreadId) (c : ListenerId) (a : Attempt) : Action (Option ConnectionId) := do
  modify fun st => { st.modifyListener c fun l => { l with acceptor := none } with
    interrupts := st.interrupts.leave me }
  let l ← listener c
  let r := l.core.conclude me a.completed
  modify fun st => st.modifyListener c fun l => { l with core := r.1 }
  match r.2, a with
  | .error f, .taken number _ =>
    let _ ← network (Net.close number)
    throw f
  | .error f, _ => throw f
  | .ok _, .taken number remote => return some (← keepConnection c number remote)
  | .ok _, .failed e => throw (.io e)
  | .ok _, _ => return none

end Action
end PolledChannels
