import PolledChannels.Channels.Accepting
import PolledChannels.Network.Transfer

/-!
# Using connections
-/

namespace PolledChannels
namespace Action

/-- Makes a call of the network on a connection that counts as closed once its descriptor is. -/
def callingOpen {α : Type} (i : ConnectionId) (call : FileNumber → Net α) : Action α := do
  match (← get).connections[i]? with
  | none => throw .closed
  | some x => if x.descriptor.isClosed then throw .closed else demand (← callingConnection i call)

def configureConnection (i : ConnectionId) (block : Bool) : Action Unit := do
  callingOpen i fun number => Net.setBlocking number block
  modify fun st => st.modifyConnection i fun x => { x with blocking := block }

def connectionAddress (i : ConnectionId) : Action Endpoint := callingOpen i Net.localAddress

/-- Ends what a connection sends; it may still be read. -/
def shutdownOutput (i : ConnectionId) : Action Unit :=
  callingOpen i fun number => Net.shutdown number 1

def readConnection (i : ConnectionId) (n : Nat) : Action Link.Received := do
  demand (← callingConnection i fun number => Net.receive number n)

def writeConnection (i : ConnectionId) (bytes : List UInt8) : Action Nat := do
  demand (← callingConnection i fun number => Net.write number bytes)

end Action

namespace Connection

def isOpen (x : Connection) : Bool := !x.descriptor.isClosed

/-- The text of a connection with a local address, if that can be read. -/
def render (x : Connection) (address : Option Endpoint) : String :=
  if x.isOpen then
    let here := match address with
      | some e => " local=" ++ e.render
      | none => ""
    "SocketChannel[connected" ++ here ++ " remote=" ++ x.remote.render ++ "]"
  else "SocketChannel[closed]"

def describe (x : Connection) : String :=
  s!"SocketChannel \x7b id: {x.id.toUInt64}, fd: {x.descriptor.number}, " ++
    s!"remote: {x.remote.render}, .. \x7d"

end Connection
end PolledChannels
