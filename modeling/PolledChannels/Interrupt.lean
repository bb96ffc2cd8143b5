/-!
# Interrupts

Every thread may have a slot: a flag that says it was interrupted, and what it is blocked on. Only
the thread itself makes its slot, on the first call that touches it, and the slot goes when the
thread exits. Interrupting a thread without a slot changes nothing.

The table does not know what a blocker is: whoever interrupts a thread gets its
blocker back and acts on it.
-/

namespace PolledChannels

abbrev ThreadId := Nat

structure Slot (β : Type) where
  interrupted : Bool := false
  blocker : Option β := none
  deriving DecidableEq, Repr

structure Interrupts (β : Type) where
  slots : List (ThreadId × Slot β) := []
  deriving DecidableEq, Repr

namespace Interrupts

variable {β : Type}

def slot? (i : Interrupts β) (t : ThreadId) : Option (Slot β) :=
  (i.slots.find? fun s => s.1 == t).map Prod.snd

/-- The slot that a thread finds for itself. -/
def own (i : Interrupts β) (t : ThreadId) : Slot β := (i.slot? t).getD {}

def put (i : Interrupts β) (t : ThreadId) (s : Slot β) : Interrupts β :=
  ⟨(t, s) :: i.slots.filter fun x => x.1 != t⟩

def remove (i : Interrupts β) (t : ThreadId) : Interrupts β :=
  ⟨i.slots.filter fun x => x.1 != t⟩

/-- A thread interrupts another: its flag is set if it has a slot, and its blocker is handed out. -/
def interruptOther (i : Interrupts β) (t : ThreadId) : Interrupts β × Option β :=
  match i.slot? t with
  | some s => (i.put t { s with interrupted := true }, s.blocker)
  | none => (i, none)

/-- A thread interrupts itself: the slot is made if need be. -/
def interruptSelf (i : Interrupts β) (t : ThreadId) : Interrupts β × Option β :=
  let s := i.own t
  (i.put t { s with interrupted := true }, s.blocker)

def takeFlag (i : Interrupts β) (t : ThreadId) : Interrupts β × Bool :=
  let s := i.own t
  (i.put t { s with interrupted := false }, s.interrupted)

/-- The flag of a thread, left as it is. -/
def isInterrupted (i : Interrupts β) (t : ThreadId) : Bool :=
  match i.slot? t with
  | some s => s.interrupted
  | none => false

/-- A thread enters a region in which `b` is its blocker; the answer says whether an
interrupt is pending. -/
def enter (i : Interrupts β) (t : ThreadId) (b : β) : Interrupts β × Bool :=
  let s := i.own t
  (i.put t { s with blocker := some b }, s.interrupted)

/-- A thread leaves a region: whatever its blocker was, it has none now. -/
def leave (i : Interrupts β) (t : ThreadId) : Interrupts β :=
  match i.slot? t with
  | some s => i.put t { s with blocker := none }
  | none => i

end Interrupts
end PolledChannels
