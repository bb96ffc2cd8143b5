import PolledChannels.Channels.Streams
import PolledChannels.Scenario.Basic
import PolledChannels.Session.Schedule

/-!
# The scenarios

Each scenario opens a channel on a loopback address and a port that the system picks,
and closes it at the end.
-/

namespace PolledChannels.Scenario

/-- The scenarios, in the order in which they run. -/
inductive Name where
  | bindEphemeral
  | nonblockingAcceptIdle
  | acceptRoundTrip
  | closeUnblocksAccept
  | selectorReadiness
  | zeroBacklog
  deriving DecidableEq, Repr

namespace Name

def all : List Name :=
  [bindEphemeral, nonblockingAcceptIdle, acceptRoundTrip, closeUnblocksAccept,
    selectorReadiness, zeroBacklog]

def text : Name → String
  | bindEphemeral => "bind_ephemeral"
  | nonblockingAcceptIdle => "nonblocking_accept_idle"
  | acceptRoundTrip => "accept_round_trip"
  | closeUnblocksAccept => "close_unblocks_accept"
  | selectorReadiness => "selector_translation"
  | zeroBacklog => "zero_backlog"

def ofText? (s : String) : Option Name := all.find? fun n => n.text == s

end Name

abbrev Drill := ExceptT Problem (StateM Station)

/-- Pending connections opened against a channel that asks for no queue. -/
def backlogClients : Nat := 20

/-- How long a waiting acceptor may take to notice a close, in milliseconds. -/
def closeDeadline : Nat := 1000

/-- How long an acceptor is waited for, in milliseconds. -/
def acceptDeadline : Nat := 5000

def act {α : Type} (a : Action α) : Drill α := do
  match ← (a.run : StateM Station (Except Failure α)) with
  | .ok x => return x
  | .error f => throw (.channel f)

def call {α : Type} (a : Net α) : Drill α := do
  match ← act (Action.network a) with
  | .ok x => return x
  | .error e => throw (.io e)

/-- Runs a part of a scenario and keeps its failure as a value. -/
def attempt {α : Type} (work : Drill α) : Drill (Except Problem α) :=
  ExceptT.mk do
    let outcome ← work.run
    return .ok outcome

def ensure (holds : Bool) (text : String) : Drill Unit := if holds then pure ()
  else throw (.check text)

/-- A loopback address and a port that the system picks. -/
def loopback : Endpoint := .v4 Ipv4.loopback 0

/-- Opens a channel and binds it to a loopback address. -/
def boundListener : Drill ListenerId := do
  let c ← act Action.openListener
  act (Action.bind c (some loopback) 0)
  return c

def addressOf (c : ListenerId) : Drill Endpoint := do
  match (← act (Action.listener c)).localAddress with
  | some e => return e
  | none => throw (.check "bound channel has no local address")

def accept (c : ListenerId) : Drill (Option ConnectionId) := do
  match ← (Station.runMain (.accept c .channel) : StateM Station Move) with
  | .done (.accepted (.ok r)) => return r
  | .done (.accepted (.error f)) => throw (.channel f)
  | _ => throw .panicked

/-- Lets another thread accept, and gives it time to begin. -/
def startAcceptor (c : ListenerId) (ms : Nat) : Drill Nat := do
  let t ← (Station.spawn (.accept c .channel) false false : StateM Station Nat)
  (Station.settle : StateM Station Unit)
  let now := (← get).now
  (Station.passTo (now + ms) : StateM Station Unit)
  return t

def awaitAcceptor (t : Nat) : Drill AcceptAnswer := do
  (Station.settle : StateM Station Unit)
  match ← (Station.join t : StateM Station (Option (Outcome × Bool))) with
  | some (.accepted r, _) => return r
  | _ => throw .panicked

def connect (target : Endpoint) : Drill FileNumber := call (Net.connect loopback target)

/-- Lets go of a channel at the end of a scenario, whether it passed or not. -/
def releasing (c : ListenerId) (work : Drill Unit) : Drill Unit := do
  let outcome ← attempt work
  act (Action.dropListener c)
  MonadExcept.ofExcept outcome

/-- Binding picks a port and records it. -/
def bindEphemeral : Drill Unit := do
  let c ← boundListener
  releasing c do
    ensure ((← addressOf c).port != 0) "ephemeral port was not recorded"
    ensure (← act (Action.listener c)).isBound "is_bound() false after bind"
    act (Action.close c)

/-- An accept that does not block answers at once. -/
def nonblockingAcceptIdle : Drill Unit := do
  let c ← boundListener
  releasing c do
    act (Action.configureBlocking c false)
    let started := (← get).now
    ensure (← accept c).isNone "accept produced a connection nobody made"
    let spent := (← get).now - started
    ensure (spent < closeDeadline) s!"non-blocking accept took {View.duration spent}"
    act (Action.close c)

/-- A waiting acceptor takes a connection, and sees the address of the client. -/
def acceptRoundTrip : Drill Unit := do
  let c ← boundListener
  releasing c do
    let address ← addressOf c
    let t ← startAcceptor c 50
    let client ← connect address
    match ← awaitAcceptor t with
    | .error f => throw (.channel f)
    | .ok none => throw (.check "blocking accept returned nothing")
    | .ok (some i) =>
      let clientAddress ← call (Net.localAddress client)
      match (← get).connections[i]? with
      | none => throw .panicked
      | some x =>
        ensure (x.remote == clientAddress)
          s!"remote {x.remote.render} does not match client {clientAddress.render}"
        act (Action.closeConnection i)
        act (Action.close c)

/-- A close lets a waiting acceptor go. -/
def closeUnblocksAccept : Drill Unit := do
  let c ← boundListener
  releasing c do
    let t ← startAcceptor c 100
    let started := (← get).now
    act (Action.close c)
    let r ← awaitAcceptor t
    let spent := (← get).now - started
    ensure (spent < closeDeadline) s!"acceptor took {View.duration spent} to return after close"
    match r with
    | .ok none => pure ()
    | .ok (some _) => throw (.check "accept succeeded after close")
    | .error f => if f.isClosed then pure () else throw (.channel f)
    match ← attempt (accept c) with
    | .error (.channel .closed) => pure ()
    | _ => throw (.check "accept after close did not fail with a closed channel")

def recordedMask (s : SelectorId) (k : KeyId) : Drill Mask := do
  return ((← act (Action.selector s)).registered.lookup k).getD 0

def readySet (k : KeyId) : Drill Key := do
  match (← get).key? k with
  | some key => return key
  | none => throw .panicked

/-- Interest sets become masks, and reported events become ready sets. -/
def selectorReadiness : Drill Unit := do
  let s ← act Action.openSelector
  let c ← boundListener
  releasing c do
    act (Action.configureBlocking c false)
    let k ← act (Action.register c s Operation.accept)
    let mask ← recordedMask s k
    ensure (mask.meets Native.input)
      ("accept interest produced native mask 0x" ++ Text.hexadecimal mask.toNat)
    act (Action.setReady k 0)
    let changed ← act (Action.translateAndSet c k Native.input)
    let key ← readySet k
    ensure (changed && key.ready == Operation.accept)
      ("POLLIN translated to ready 0x" ++ Text.hexadecimal key.ready.toNat ++
        s!" (changed={changed})")
    act (Action.setReady k 0)
    let _ ← act (Action.translateAndSet c k Native.failed)
    let key ← readySet k
    ensure (key.ready == key.interest)
      ("POLLERR translated to ready 0x" ++ Text.hexadecimal key.ready.toNat)
    act (Action.closeSelector s)
    act (Action.close c)

def connectAll (target : Endpoint) : Nat → Drill Unit
  | 0 => pure ()
  | n + 1 => do
    let _ ← connect target
    connectAll target n

/-- Takes at most `n` connections and closes them; the answer is how many there were. Nobody
connects in the meantime, so with none left the deadline passes. -/
def acceptAll (c : ListenerId) (deadline : Nat) : Nat → Drill Nat
  | 0 => return 0
  | n + 1 => do
    match ← accept c with
    | none =>
      (Station.passTo deadline : StateM Station Unit)
      return 0
    | some i =>
      act (Action.closeConnection i)
      return (← acceptAll c deadline n) + 1

/-- A channel that asks for no queue still keeps clients waiting. -/
def zeroBacklog : Drill Unit := do
  let c ← boundListener
  releasing c do
    connectAll (← addressOf c) backlogClients
    act (Action.configureBlocking c false)
    let deadline := (← get).now + acceptDeadline
    let accepted ← acceptAll c deadline backlogClients
    ensure (accepted == backlogClients)
      s!"accepted {accepted} of {backlogClients} pending connections"
    act (Action.close c)

def Name.run : Name → Drill Unit
  | bindEphemeral => Scenario.bindEphemeral
  | nonblockingAcceptIdle => Scenario.nonblockingAcceptIdle
  | acceptRoundTrip => Scenario.acceptRoundTrip
  | closeUnblocksAccept => Scenario.closeUnblocksAccept
  | selectorReadiness => Scenario.selectorReadiness
  | zeroBacklog => Scenario.zeroBacklog

end PolledChannels.Scenario
