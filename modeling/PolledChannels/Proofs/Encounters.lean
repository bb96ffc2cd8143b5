import PolledChannels.Proofs.Accesses
import PolledChannels.Session.Schedule

/-!
# Accepts, closes and interrupts access by access

A thread accepts on a channel while others close the channel and interrupt the thread. Here an
accept and an interrupt are cut into accesses as the other calls are, and so is a close that is
made on behalf of an interrupt, where the flag is flipped in one access and the thread is
written down in another.

An encounter is a station, the parties at work on it, and what was noted of their accesses.
A beat lets one party do its next access, with or without a signal that hits it there, or
lets the network become anything: so the calls of the network may have any outcomes, and a
signal may come to nothing.
-/

namespace PolledChannels

open PolledChannels.Action

/-! ## Closing on somebody's behalf -/

/-- Where a close stands that is made on behalf of an interrupt or of nobody. -/
inductive ShutPoint where
  | flip
  /-- About to write down whose interrupt flipped the channel. -/
  | credit (t : ThreadId)
  /-- The rest is that of every close. -/
  | rest (point : ClosePoint)

namespace ShutPoint

def flipped : Option ThreadId → ShutPoint
  | some t => credit t
  | none => rest .look

def step (c : ListenerId) (target : Option ThreadId) : ShutPoint → Action ShutPoint
  | flip => do
    if (← listener c).core.isOpen then
      modify fun st => st.modifyListener c fun l =>
        { l with core := { l.core with isOpen := false } }
      return flipped target
    else return rest (.ended (.ok ()))
  | credit t => do
    modify fun st => st.modifyListener c fun l =>
      { l with core := { l.core with interruptedBy := some t } }
    return rest .look
  | rest point => return rest (← point.step c)

def wants (c : ListenerId) : ShutPoint → Option Lock
  | flip => some (.closing c)
  | credit _ => none
  | rest point => point.wants c

def holds (c : ListenerId) : ShutPoint → List Lock
  | flip => []
  | credit _ => [.closing c]
  | rest point => point.holds c

def isOver : ShutPoint → Bool
  | rest point => point.isOver
  | _ => false

end ShutPoint

/-! ## Interrupts -/

namespace Action

/-- Tells of an interrupt aimed at a thread that is blocked on the channel. -/
def tellInterrupt (c : ListenerId) (target : ThreadId) : Action Unit := do
  let l ← listener c
  emit (some c) { eventOf l .interrupted with detail := some s!"ThreadId({target})" }

end Action

/-- Where an interrupt of another thread stands. -/
inductive InterruptPoint where
  /-- About to look the thread's slot up. -/
  | find
  /-- About to take the slot's lock, set the flag and look at the blocker. -/
  | mark
  | tell (c : ListenerId)
  | shut (c : ListenerId) (point : ShutPoint)
  | ended

namespace InterruptPoint

/-- What follows the look at the blocker. -/
def found : Option ListenerId → InterruptPoint
  | some c => tell c
  | none => ended

def step (t : ThreadId) : InterruptPoint → Action InterruptPoint
  | find => do
    match (← get).interrupts.slot? t with
    | some _ => return mark
    | none => return ended
  | mark => do
    let st ← get
    let r := st.interrupts.interruptOther t
    set { st with interrupts := r.1 }
    return found r.2
  | tell c => do
    tellInterrupt c t
    return shut c .flip
  -- the slot's lock is let go of here
  | shut _ (.rest (.ended _)) => return ended
  | shut c point => return shut c (← point.step c (some t))
  | ended => return ended

def isOver : InterruptPoint → Bool
  | ended => true
  | _ => false

end InterruptPoint

/-! ## Accepting -/

/-- Where an accept stands. -/
inductive AcceptPoint where
  /-- About to take its turn at the channel. -/
  | turn
  | askOpen
  | askBound
  /-- About to enter the region in which the channel is the thread's blocker. -/
  | register
  /-- Found an interrupt pending, which is told first. -/
  | tell
  | own (point : ShutPoint)
  | askAgain
  /-- About to write down which thread accepts. -/
  | store
  /-- Taking a use of the descriptor. -/
  | take (call : Guard.Call)
  | mode
  | poll
  | request
  /-- In the call, which had nothing to answer. -/
  | inside
  | fault (e : IoError)
  /-- The attempt came to something, and its use is to end. -/
  | leave (a : Attempt)
  /-- The use was the last one, and the number is to go back to the kernel. -/
  | give (a : Attempt)
  /-- Interrupted, and about to see whether to try again. -/
  | again
  | clear (a : Attempt)
  /-- About to leave the region. -/
  | exit (a : Attempt)
  /-- About to see whether the thread's own interrupt closed the channel. -/
  | hear (a : Attempt)
  /-- About to see whether the channel is open, since nothing was taken. -/
  | test (a : Attempt)
  | drop (number : FileNumber)
  | keep (number : FileNumber) (remote : Endpoint)
  /-- About to give the turn back. -/
  | back (answer : AcceptAnswer)
  | ended (answer : AcceptAnswer)

namespace AcceptPoint

/-- What follows an attempt: one that was interrupted may be made again. -/
def tried : Attempt → AcceptPoint
  | .interrupted => again
  | a => clear a

/-- What follows an access that takes a use. -/
def taking : Guard.Call → AcceptPoint
  | .held => mode
  | .refused => clear (.failed .socketClosed)
  | call => take call

/-- What follows the end of a use. -/
def left (a : Attempt) : Guard.Call → AcceptPoint
  | .act _ => give a
  | _ => tried a

/-- What follows the look whose interrupt closed the channel. -/
def heard (mine : Bool) : Attempt → AcceptPoint
  | .taken number remote => if mine then drop number else keep number remote
  | a => if mine then back (.error .closedByInterrupt) else test a

/-- What an accept answers on an open channel if it took nothing. -/
def unanswered : Attempt → AcceptAnswer
  | .failed e => .error (.io e)
  | _ => .ok none

/-- Calls accept; without an answer the thread is in the call. -/
def enterCall (number : FileNumber) : Action AcceptPoint := do
  match ← network (Net.accept number) with
  | .ok none => return inside
  | .ok (some (taken, remote)) => return leave (.taken taken remote)
  | .error e => return fault e

def step (me : ThreadId) (c : ListenerId) (signalled : Bool) : AcceptPoint → Action AcceptPoint
  | turn => do
    takeTurn me c
    return askOpen
  | askOpen => do
    if (← listener c).core.isOpen then return askBound else return back (.error .closed)
  | askBound => do
    if (← listener c).isBound then return register else return back (.error .notYetBound)
  | register => do
    let st ← get
    let r := st.interrupts.enter me c
    set { st with interrupts := r.1 }
    if r.2 then return tell else return askAgain
  | tell => do
    tellInterrupt c me
    return own .flip
  | own (.rest (.ended _)) => return askAgain
  | own point => return own (← point.step c (some me))
  | askAgain => do
    if (← listener c).core.isOpen then return store else return clear .interrupted
  | store => do
    modify fun st => st.modifyListener c fun l => { l with acceptor := some me }
    return take .look
  | take call => return taking (← accessDescriptor c call).1
  | mode => do
    match ← network (Net.isBlocking (← listener c).descriptor.number) with
    | .error e => return leave (.failed e)
    | .ok true => return request
    | .ok false => return poll
  | poll => do
    match ← network (Net.poll (← listener c).descriptor.number Native.input) with
    | .error e => return leave (if e = .os .interrupted then .interrupted else .failed e)
    | .ok events => if events = 0 then return leave .unavailable else return request
  | request => do enterCall (← listener c).descriptor.number
  | inside => do
    let number := (← listener c).descriptor.number
    if signalled then return leave .interrupted
    else if (← get).network.polled number Native.input = 0 then return inside
    else enterCall number
  | fault e => do return leave (classify (← listener c).descriptor.isClosed e)
  | leave a => return left a (← accessDescriptor c .leave).1
  | give a => do
    let _ ← accessDescriptor c (.act .release)
    return tried a
  | again => do
    if (← listener c).core.isOpen then return take .look else return clear .interrupted
  | clear a => do
    modify fun st => st.modifyListener c fun l => { l with acceptor := none }
    return exit a
  | exit a => do
    modify fun st => { st with interrupts := st.interrupts.leave me }
    return hear a
  | hear a => do
    if (← listener c).core.interruptedBy = some me then
      modify fun st => st.modifyListener c fun l =>
        { l with core := { l.core with interruptedBy := none } }
      return heard true a
    else return heard false a
  | test a => do
    if (← listener c).core.isOpen then return back (unanswered a)
    else return back (.error .asynchronousClose)
  | drop number => do
    let _ ← network (Net.close number)
    return back (.error .closedByInterrupt)
  -- the connection is nobody else's, so what is done to it counts as one access
  | keep number remote => do
    let r ← observe (keepConnection c number remote)
    return back (r.map some)
  | back answer => do
    giveTurn c
    return ended answer
  | ended answer => return ended answer

/-- What the accept answers, once nothing can change that. -/
def answer? : AcceptPoint → Option AcceptAnswer
  | back answer | ended answer => some answer
  | _ => none

def isOver : AcceptPoint → Bool
  | ended _ => true
  | _ => false

end AcceptPoint

/-! ## Encounters -/

/-- What parties see of a channel. -/
structure Gate where
  number : FileNumber
  word : UInt64
  lifecycle : Lifecycle
  isOpen : Bool
  interruptedBy : Option ThreadId
  acceptor : Option ThreadId
  deriving DecidableEq, Repr

def Listener.gate (l : Listener) : Gate where
  number := l.descriptor.number
  word := l.descriptor.word
  lifecycle := l.lifecycle
  isOpen := l.core.isOpen
  interruptedBy := l.core.interruptedBy
  acceptor := l.acceptor

/-- What encounters are decided by: the channels as parties see them, and the slots of threads. -/
@[ext]
structure Front where
  gate : ListenerId → Option Gate
  slot : ThreadId → Option (Slot ListenerId)

def Station.front (st : Station) : Front where
  gate c := st.listeners[c]?.map Listener.gate
  slot := st.interrupts.slot?

def Front.isOpen (v : Front) (c : ListenerId) : Bool :=
  (v.gate c).any Gate.isOpen

/-- What a party may keep from one access to the next. -/
inductive Bar where
  /-- Held by whoever accepts on the channel. -/
  | turn (c : ListenerId)
  /-- Guards the blocker of the thread. -/
  | slot (t : ThreadId)
  | lock (lock : Lock)
  deriving DecidableEq, Repr

/-- A thread and where it stands in its call. -/
inductive Party where
  | accept (me : ThreadId) (c : ListenerId) (point : AcceptPoint)
  | close (c : ListenerId) (point : ShutPoint)
  | interrupt (t : ThreadId) (point : InterruptPoint)

/-- What is noted of an access. -/
inductive Note where
  /-- A thread entered its region and found its interrupt flag so. -/
  | entered (flag : Bool)
  /-- An attempt to accept was over. -/
  | tried (a : Attempt)
  /-- An accept took its thread off the channel. -/
  | cleared (c : ListenerId) (t : ThreadId)
  /-- An accept that ends looked whose interrupt closed the channel. -/
  | heard (mine : Bool)
  /-- An accept that ends and took nothing looked whether the channel is open. -/
  | tested (isOpen : Bool)
  /-- An interrupt took the slot of the thread and found this blocker. -/
  | caught (t : ThreadId) (blocker : Option ListenerId)
  /-- An open channel was flipped, on behalf of an interrupt aimed at the thread or of nobody. -/
  | flipped (c : ListenerId) (target : Option ThreadId)
  /-- A close found that the thread accepts on the channel. -/
  | sampled (c : ListenerId) (t : ThreadId)
  | signalled (c : ListenerId) (t : ThreadId)
  /-- Something was done to the number of the channel. -/
  | did (c : ListenerId) (effect : GuardEffect)
  deriving DecidableEq, Repr

def ShutPoint.note (v : Front) (c : ListenerId) (target : Option ThreadId) :
    ShutPoint → Option Note
  | flip => if v.isOpen c then some (.flipped c target) else none
  | rest (.act effect) | rest (.kill _ (.act effect)) => some (.did c effect)
  | rest (.sample _) => ((v.gate c).bind Gate.acceptor).map (.sampled c)
  | rest (.signal t _) => some (.signalled c t)
  | _ => none

def InterruptPoint.note (v : Front) (t : ThreadId) : InterruptPoint → Option Note
  | mark => some (.caught t ((v.slot t).bind Slot.blocker))
  | shut c point => point.note v c (some t)
  | _ => none

def AcceptPoint.note (v : Front) (me : ThreadId) (c : ListenerId) : AcceptPoint → Option Note
  | register => some (.entered ((v.slot me).any Slot.interrupted))
  | own point => point.note v c (some me)
  | take call =>
    if (v.gate c).any fun g => (Guard.step g.word call).2.1 == .refused then
      some (.tried (.failed .socketClosed))
    else none
  | leave a => some (.tried a)
  | give _ => some (.did c .release)
  | clear _ => some (.cleared c me)
  | hear _ => some (.heard ((v.gate c).any fun g => g.interruptedBy == some me))
  | test _ => some (.tested (v.isOpen c))
  | _ => none

namespace Party

def step (signalled : Bool) : Party → Action Party
  | accept me c point => return accept me c (← point.step me c signalled)
  | close c point => return close c (← point.step c none)
  | interrupt t point => return interrupt t (← point.step t)

/-- What the next access needs. -/
def wants : Party → Option Bar
  | accept _ c .turn => some (.turn c)
  | accept _ c .askBound => some (.lock (.state c))
  | accept me _ .register | accept me _ (.exit _) => some (.slot me)
  | accept _ c (.own point) => (point.wants c).map .lock
  | accept _ _ _ => none
  | close c point => (point.wants c).map .lock
  | interrupt t .mark => some (.slot t)
  | interrupt _ (.shut c point) => (point.wants c).map .lock
  | interrupt _ _ => none

/-- What the party keeps. -/
def holds : Party → List Bar
  | accept _ _ .turn | accept _ _ (.ended _) => []
  | accept _ c (.own point) => .turn c :: (point.holds c).map .lock
  | accept _ c _ => [.turn c]
  | close c point => (point.holds c).map .lock
  | interrupt t (.tell _) => [.slot t]
  | interrupt t (.shut c point) => .slot t :: (point.holds c).map .lock
  | interrupt _ _ => []

def note (v : Front) : Party → Option Note
  | accept me c point => point.note v me c
  | close c point => point.note v c none
  | interrupt t point => point.note v t

/-- The party waits for what one of the parties keeps. -/
def waits (party : Party) (parties : List Party) : Bool :=
  match party.wants with
  | none => false
  | some bar => parties.any fun other => other.holds.contains bar

def isOver : Party → Bool
  | accept _ _ point => point.isOver
  | close _ point => point.isOver
  | interrupt _ point => point.isOver

/-- What an accept answers, once nothing can change that. -/
def answer? : Party → Option AcceptAnswer
  | accept _ _ point => point.answer?
  | _ => none

def isNew : Party → Bool
  | accept _ _ .turn | close _ .flip | interrupt _ .find => true
  | _ => false

end Party

/-- One thing that happens in an encounter. -/
inductive Beat where
  /-- The party at a place does its next access, where a signal may hit it. -/
  | access (i : Nat) (signalled : Bool)
  /-- The network becomes something else. -/
  | world (network : Network)

/-- What a log has of the party at a place. -/
def notesOf (log : List (Nat × Note)) (i : Nat) : List Note :=
  log.filterMap fun entry => if entry.1 = i then some entry.2 else none

/-- A station, the parties at work on it, and what was noted of them, oldest first. -/
structure Encounter where
  station : Station
  parties : List Party
  log : List (Nat × Note) := []

namespace Encounter

/-- A party does its next access, unless it waits. -/
def access (e : Encounter) (i : Nat) (signalled : Bool) : Encounter :=
  match e.parties[i]? with
  | none => e
  | some party =>
    if party.waits e.parties then e
    else
      match (party.step signalled).run e.station with
      | (.error _, _) => e
      | (.ok next, station) =>
        { station, parties := e.parties.set i next
          log := e.log ++ ((party.note e.station.front).map fun note => (i, note)).toList }

def play (e : Encounter) : Beat → Encounter
  | .access i signalled => e.access i signalled
  | .world network => { e with station := { e.station with network } }

def after (e : Encounter) (beats : List Beat) : Encounter :=
  beats.foldl play e

theorem after_concat (e : Encounter) (beats : List Beat) (beat : Beat) :
    e.after (beats ++ [beat]) = (e.after beats).play beat := by
  simp [after]

/-- What was noted of the party at a place, oldest first. -/
def notes (e : Encounter) (i : Nat) : List Note :=
  notesOf e.log i

/-- What the accept at a place answers. -/
def answer? (e : Encounter) (i : Nat) : Option AcceptAnswer :=
  e.parties[i]?.bind Party.answer?

/-- The call at a place has returned. -/
def isOver (e : Encounter) (i : Nat) : Bool :=
  e.parties[i]?.any Party.isOver

end Encounter
end PolledChannels
