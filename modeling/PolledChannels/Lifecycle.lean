/-!
# Lifecycle of a channel

A channel moves from uninitialized to in use to killed and never back. The raw words are
kept in the same order.
-/

namespace PolledChannels

inductive Lifecycle where
  /-- The descriptor is not yet a usable socket. -/
  | uninitialized
  /-- Open, or closed and still registered with a selector. -/
  | inUse
  /-- The descriptor is released and no selector holds the channel. -/
  | killed
  deriving DecidableEq, Repr, Inhabited

/-- What killing a channel has to do. -/
inductive KillAction where
  | alreadyKilled
  | promoteOnly
  | releaseAndPromote
  deriving DecidableEq, Repr

namespace Lifecycle

def toRaw : Lifecycle → Int
  | uninitialized => -1
  | inUse => 0
  | killed => 1

def ofRaw? (raw : Int) : Option Lifecycle :=
  if raw = -1 then some uninitialized
  else if raw = 0 then some inUse
  else if raw = 1 then some killed
  else none

/-- The state may be followed by `next`. -/
def mayAdvance (state next : Lifecycle) : Bool :=
  state.toRaw ≤ next.toRaw

def order (a b : Lifecycle) : Ordering :=
  compare a.toRaw b.toRaw

/-- What killing a channel in this state has to do. -/
def killAction : Lifecycle → KillAction
  | killed => .alreadyKilled
  | uninitialized => .promoteOnly
  | inUse => .releaseAndPromote

/-- A channel in use may be killed only when it is closed and unregistered. -/
def killPermitted (state : Lifecycle) (isOpen registered : Bool) : Bool :=
  match state with
  | inUse => !isOpen && !registered
  | _ => true

def describe : Lifecycle → String
  | uninitialized => "Uninitialized"
  | inUse => "InUse"
  | killed => "Killed"

end Lifecycle

namespace KillAction

def describe : KillAction → String
  | alreadyKilled => "AlreadyKilled"
  | promoteOnly => "PromoteOnly"
  | releaseAndPromote => "ReleaseAndPromote"

end KillAction
end PolledChannels
