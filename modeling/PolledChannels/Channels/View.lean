import PolledChannels.Channels.Accepting

/-!
# The blocking view of a listening channel

A view does not keep its channel: once the channel is gone it counts as closed. It has a timeout
for accepts in milliseconds, where 0 waits without end, and short cuts to two options.
-/

namespace PolledChannels
namespace View

def longest : Nat := UInt32.size - 1

/-- The timeout kept for a duration in nanoseconds: whole milliseconds, at most the largest. -/
def timeoutOf (nanoseconds : Nat) : UInt32 := (min (nanoseconds / 1000000) longest).toUInt32

/-- The digits of a fraction of a second given in milliseconds, without zeros at the end. -/
def fraction (ms : Nat) : String :=
  let digits := (Text.padded 3 ms).toList.reverse.dropWhile (· == '0')
  if digits.isEmpty then "" else "." ++ String.ofList digits.reverse

/-- A duration in milliseconds as diagnostics show it: in seconds from one second on. -/
def duration (ms : Nat) : String :=
  if ms = 0 then "0ns"
  else if ms < 1000 then s!"{ms}ms"
  else s!"{ms / 1000}{fraction (ms % 1000)}s"

/-- The text of a view of a channel, if that is still there. -/
def render (l : Option Listener) : String :=
  match l.bind Listener.localAddress with
  | some e => "ServerSocket[addr=" ++ e.render ++ "]"
  | none => "ServerSocket[unbound]"

def describe (timeout : UInt32) : String :=
  s!"ServerSocketAdaptor \x7b timeout: {duration timeout.toNat}, .. \x7d"

end View

namespace Action

def viewed (c : ListenerId) : Action Listener := do
  let l ← listener c
  if l.alive then return l else throw .closed

/-- Makes the view of a channel, unless it is there. -/
def openView (c : ListenerId) : Action Unit :=
  modify fun st => st.modifyListener c fun l => { l with timeout := some (l.timeout.getD 0) }

def setTimeout (c : ListenerId) (timeout : UInt32) : Action Unit :=
  modify fun st => st.modifyListener c fun l => { l with timeout := some timeout }

/-- Closes the channel of a view, if it is still there. -/
def closeViewed (c : ListenerId) : Action Unit := do
  if (← listener c).alive then close c else pure ()

def getOption (c : ListenerId) (o : SocketOption) : Action Int := do
  if (← listener c).alive then demand (← calling c fun number => Net.getOption number o)
  else throw (.io .socketClosed)

/-- Writes an option of a channel's socket through its typed setter. -/
def setOption (c : ListenerId) (o : SocketOption) (value : Int) : Action Unit := do
  let word ← demand (o.checked value)
  if (← listener c).alive then demand (← calling c fun number => Net.setOption number o word)
  else throw (.io .socketClosed)

def getViewedOption (c : ListenerId) (o : SocketOption) : Action Int := do
  let _ ← viewed c
  getOption c o

def setViewedOption (c : ListenerId) (o : SocketOption) (value : Int) : Action Unit := do
  let _ ← viewed c
  setOption c o value

/-- Whether the view has to wait for a time: checks that an accept through it makes sense,
and gives its timeout. -/
def enterView (c : ListenerId) : Action UInt32 := do
  let l ← viewed c
  if !l.isBound then throw .notYetBound
  else if !l.core.blocking then throw .illegalBlockingMode
  else return l.timeout.getD 0

def timedOut : Failure := .io (.custom .timedOut "Accept timed out")

/-- Gives a connection up in silence. -/
def dropConnection (i : ConnectionId) : Action Unit := do
  let _ ← closeConnectionDescriptor i

/-- Ends an accept with a timeout: an open channel blocks again. If that fails, a connection that
was taken is lost. -/
def leaveView (c : ListenerId) (r : Except Failure ConnectionId) : Action ConnectionId := do
  if (← listener c).core.isOpen then
    match ← observe (configureBlocking c true) with
    | .ok _ => r
    | .error f =>
      match r with
      | .ok i => dropConnection i
      | .error _ => pure ()
      throw f
  else r

end Action
end PolledChannels
