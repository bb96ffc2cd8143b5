import PolledChannels.Record

/-!
# Workers and counting blockers

Threads that run one command at a time, and three blockers that count how often they are told of an
interrupt and remember the thread that it was aimed at.
-/

namespace PolledChannels.Bench

structure Counter where
  hits : Nat := 0
  target : Option ThreadId := none
  deriving DecidableEq, Repr

structure Worker where
  exited : Bool := false
  regions : Nat := 0
  deriving DecidableEq, Repr

/-- The workers, the table of interrupts and the blockers. -/
structure Workers where
  workers : List Worker := []
  interrupts : Interrupts Nat := {}
  blockers : List Counter := [{}, {}, {}]
  deriving DecidableEq, Repr

namespace Workers

def notify (w : Workers) (blocker : Option Nat) (t : ThreadId) : Workers :=
  match blocker with
  | none => w
  | some b => { w with blockers := w.blockers.modify b fun c => ⟨c.hits + 1, some t⟩ }

def spawn (w : Workers) : Workers × ThreadId :=
  ({ w with workers := w.workers ++ [{}] }, w.workers.length)

def exited (w : Workers) (t : ThreadId) : Bool :=
  match w.workers[t]? with
  | some x => x.exited
  | none => true

/-- A worker exits: its regions end and its slot goes. -/
def exit (w : Workers) (t : ThreadId) : Workers :=
  { w with workers := w.workers.modify t fun _ => { exited := true }
           interrupts := w.interrupts.remove t }

def interrupt (w : Workers) (t : ThreadId) : Workers :=
  let r := w.interrupts.interruptOther t
  { w with interrupts := r.1 }.notify r.2 t

def selfInterrupt (w : Workers) (t : ThreadId) : Workers :=
  let r := w.interrupts.interruptSelf t
  { w with interrupts := r.1 }.notify r.2 t

def takeFlag (w : Workers) (t : ThreadId) : Workers × Bool :=
  let r := w.interrupts.takeFlag t
  ({ w with interrupts := r.1 }, r.2)

/-- A worker enters a region with a blocker, which hears at once of a pending interrupt. -/
def enter (w : Workers) (t : ThreadId) (blocker : Nat) : Workers :=
  let r := w.interrupts.enter t blocker
  let w := { w with
    interrupts := r.1
    workers := w.workers.modify t fun x => { x with regions := x.regions + 1 } }
  if r.2 then w.notify (some blocker) t else w

/-- A worker leaves its newest region; the answer says whether there was one. -/
def leave (w : Workers) (t : ThreadId) : Workers × Bool :=
  match w.workers[t]? with
  | some ⟨false, n + 1⟩ =>
    ({ w with workers := w.workers.modify t fun x => { x with regions := n }
              interrupts := w.interrupts.leave t }, true)
  | _ => (w, false)

inductive Order where
  | exit
  | interrupt
  | isInterrupted
  | selfInterrupt
  | selfIsInterrupted
  | takeFlag
  | enter (blocker : Nat)
  | leave
  deriving DecidableEq, Repr

/-- Gives a command to a worker. One that has exited hears nothing, but it can still be interrupted
and looked at, and told once more to exit. -/
def order (w : Workers) (t : ThreadId) (o : Order) : Workers × Json :=
  match o with
  | .exit => (w.exit t, Record.done)
  | .interrupt => (w.interrupt t, Record.done)
  | .isInterrupted => (w, .bool (w.interrupts.isInterrupted t))
  | _ =>
    if w.exited t then (w, .string "exited")
    else
      match o with
      | .selfInterrupt => (w.selfInterrupt t, Record.done)
      | .takeFlag => ((w.takeFlag t).1, .bool (w.takeFlag t).2)
      | .enter blocker => (w.enter t blocker, Record.done)
      | .leave => ((w.leave t).1, .bool (w.leave t).2)
      | _ => (w, .bool (w.interrupts.isInterrupted t))

def counts (w : Workers) : Json :=
  .array
    (w.blockers.map fun c => .array [Record.count c.hits, Record.optional Record.count c.target])

end Workers
end PolledChannels.Bench
