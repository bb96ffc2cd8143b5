import PolledChannels.Session.Threads

/-!
# Running threads

After every operation of the main thread the other threads run until each of them waits or is
done. Time passes only when the main thread has to wait: the clock then jumps to the next deadline.
-/

namespace PolledChannels.Station

/-- Steps that a thread may make before it waits: every fault that the network was told
to meet costs a few. -/
def patience (st : Station) : Nat := 16 + 4 * st.network.faults.length

/-- Somebody else keeps what an operation is about. -/
def retain (p : Point) : StateM Station Unit :=
  modify fun st =>
    match p.listener?, p.selector? with
    | some c, _ =>
      st.modifyListener c fun l => if l.alive then { l with owners := l.owners + 1 } else l
    | none, some s =>
      st.modifySelector s fun x => if x.alive then { x with owners := x.owners + 1 } else x
    | none, none => st

/-- A thread lets go of what its operation was about. -/
def letGo (p : Point) : StateM Station Unit := do
  match p.listener?, p.selector? with
  | some c, _ => let _ ← (Action.dropListener c).run
  | none, some s => let _ ← (Action.dropSelector s).run
  | none, none => pure ()

/-- Starts a thread at a point; the answer is its place. With `touch` it first tests its interrupt
flag, with `interrupted` it first interrupts itself. -/
def spawn (p : Point) (touch interrupted : Bool) : StateM Station Nat := do
  retain p
  let st ← get
  let t := st.threads.length
  let me := threadId t
  let interrupts := if touch then (st.interrupts.takeFlag me).1 else st.interrupts
  let interrupts := if interrupted then (interrupts.interruptSelf me).1 else interrupts
  let thread : Thread := { activity := .running p }
  set { st with threads := st.threads ++ [thread], interrupts }
  return t

/-- A thread's operation is over: it tests its interrupt flag, its slot goes, and it lets go
of what it worked on. -/
def finish (t : Nat) (p : Point) (outcome : Outcome) : StateM Station Unit := do
  let st ← get
  let r := st.interrupts.takeFlag (threadId t)
  set { st with
    threads := st.threads.modify t fun x => { x with activity := .finished outcome r.2 }
    interrupts := r.1.remove (threadId t) }
  letGo p

/-- Runs the thread at a place until it waits or is done. -/
def runThread (t : Nat) : StateM Station Unit := do
  let st ← get
  match st.threads[t]? with
  | none => pure ()
  | some x =>
    match x.activity with
    | .finished _ _ => pure ()
    | .running p =>
      modify fun st =>
        { st with threads := st.threads.modify t fun x => { x with signalled := false } }
      match ← p.drive st.patience (threadId t) x.signalled with
      | .done outcome => finish t p outcome
      | .goto p | .wait p =>
        modify fun st =>
          { st with threads := st.threads.modify t fun x => { x with activity := .running p } }

def runAll : List Nat → StateM Station Unit
  | [] => pure ()
  | t :: rest => do
    runThread t
    runAll rest

def runRounds : Nat → StateM Station Unit
  | 0 => pure ()
  | rounds + 1 => do
    runAll (List.range (← get).threads.length)
    runRounds rounds

/-- Runs all threads until each of them waits or is done: a thread that moves on lets others move at
most a few times. -/
def settle : StateM Station Unit := do
  runRounds (3 * (← get).threads.length + 1)

def isFinished (st : Station) (t : Nat) : Bool :=
  match st.threads[t]? with
  | some x =>
    match x.activity with
    | .finished _ _ => true
    | .running _ => false
  | none => true

/-- The next moment at which a waiting thread runs out of time. -/
def nextDeadline (st : Station) (own : Option Nat) : Option Nat :=
  (own.toList ++ st.threads.filterMap fun x =>
    match x.activity with
    | .running p => p.deadline?
    | .finished _ _ => none).min?

def passTo (moment : Nat) : StateM Station Unit := do
  modify fun st => { st with now := max st.now moment }
  settle

/-- The main thread waits at a point until it goes on; `fuel` bounds how often the clock jumps. -/
def awaitMain : Nat → Point → StateM Station Move
  | 0, p => return .wait p
  | fuel + 1, p => do
    match (← get).nextDeadline p.deadline? with
    | none => return .wait p
    | some moment =>
      passTo moment
      match ← p.drive (← get).patience mainThread false with
      | .goto p | .wait p => awaitMain fuel p
      | .done outcome => return .done outcome

def runMain (p : Point) : StateM Station Move := do
  match ← p.drive (← get).patience mainThread false with
  | .goto p | .wait p => awaitMain ((← get).threads.length + 2) p
  | .done outcome => return .done outcome

/-- The main thread waits for the thread at a place to be done. -/
def awaitThread : Nat → Nat → StateM Station Unit
  | 0, _ => pure ()
  | fuel + 1, t => do
    let st ← get
    if st.isFinished t then pure ()
    else
      match st.nextDeadline none with
      | none => pure ()
      | some moment =>
        passTo moment
        awaitThread fuel t

/-- Waits for the thread at a place; the answer of its operation, and whether it was
interrupted at its end. -/
def join (t : Nat) : StateM Station (Option (Outcome × Bool)) := do
  awaitThread ((← get).threads.length + 2) t
  match (← get).threads[t]? with
  | some ⟨.finished outcome interrupted, _⟩ => return some (outcome, interrupted)
  | _ => return none

def interrupt (target : ThreadId) : StateM Station Unit := do
  let st ← get
  let r := st.interrupts.interruptOther target
  set { st with interrupts := r.1 }
  match r.2 with
  | some c => let _ ← (Action.interruptListener c target).run
  | none => pure ()

def interruptThread (t : Nat) : StateM Station Unit := interrupt (threadId t)

def interruptMain : StateM Station Unit :=
  modify fun st => { st with interrupts := (st.interrupts.interruptSelf mainThread).1 }

def takeMainFlag : StateM Station Bool := do
  let st ← get
  let r := st.interrupts.takeFlag mainThread
  set { st with interrupts := r.1 }
  return r.2

/-- An accept of the main thread would wait without end. -/
def acceptWouldWait (st : Station) (c : ListenerId) : Bool :=
  match st.listeners[c]? with
  | none => false
  | some l =>
    l.core.isOpen && l.isBound && l.core.blocking && !st.interrupts.isInterrupted mainThread &&
      st.network.polled l.descriptor.number Native.input == 0

end PolledChannels.Station
