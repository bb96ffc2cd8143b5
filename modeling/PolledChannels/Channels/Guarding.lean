import PolledChannels.Channels.State
import PolledChannels.Network.Calls

/-!
# Descriptors of channels in use

Calls of the network are made under a use of the channel's descriptor. When a use ends or the
descriptor is closed, the guard says what happens to the number.
-/

namespace PolledChannels.Action

def applyEffect (number : FileNumber) : Option GuardEffect → Action IoResult
  | none => return .ok ()
  | some .release => network (Net.close number)
  | some .shutDown => do
    let _ ← network (Net.shutdown number 2)
    return .ok ()

def acquire (c : ListenerId) : Action FileNumber := do
  let l ← listener c
  match l.descriptor.acquire? with
  | none => throw (.io .socketClosed)
  | some descriptor =>
    modify fun st => st.modifyListener c fun l => { l with descriptor }
    return descriptor.number

def release (c : ListenerId) : Action Unit := do
  let l ← listener c
  let r := l.descriptor.release
  modify fun st => st.modifyListener c fun l => { l with descriptor := r.1 }
  let _ ← applyEffect r.1.number r.2

def closeDescriptor (c : ListenerId) : Action IoResult := do
  let l ← listener c
  let r := l.descriptor.close
  modify fun st => st.modifyListener c fun l => { l with descriptor := r.1 }
  applyEffect r.1.number r.2

/-- Makes a call of the network under a use. -/
def calling {α : Type} (c : ListenerId) (call : FileNumber → Net α) :
    Action (Except IoError α) := do
  let number ← acquire c
  let r ← network (call number)
  release c
  return r

def acquireConnection (i : ConnectionId) : Action FileNumber := do
  match (← get).connections[i]? with
  | none => throw .closed
  | some x =>
    match x.descriptor.acquire? with
    | none => throw (.io .socketClosed)
    | some descriptor =>
      modify fun st => st.modifyConnection i fun x => { x with descriptor }
      return descriptor.number

def releaseConnection (i : ConnectionId) : Action Unit := do
  match (← get).connections[i]? with
  | none => pure ()
  | some x =>
    let r := x.descriptor.release
    modify fun st => st.modifyConnection i fun x => { x with descriptor := r.1 }
    let _ ← applyEffect r.1.number r.2

def closeConnectionDescriptor (i : ConnectionId) : Action IoResult := do
  match (← get).connections[i]? with
  | none => return .ok ()
  | some x =>
    let r := x.descriptor.close
    modify fun st => st.modifyConnection i fun x => { x with descriptor := r.1 }
    applyEffect r.1.number r.2

/-- Makes a call of the network under a use of a connection. -/
def callingConnection {α : Type} (i : ConnectionId) (call : FileNumber → Net α) :
    Action (Except IoError α) := do
  let number ← acquireConnection i
  let r ← network (call number)
  releaseConnection i
  return r

end PolledChannels.Action
