import PolledChannels.Channels.Closing

/-!
# Opening and binding listening channels
-/

namespace PolledChannels.Action

def addListener (number : FileNumber) (address : Option Endpoint) : Action ListenerId := do
  let id ← takeId
  let l : Listener := { id, descriptor := { number }, localAddress := address }
  let st ← get
  set { st with listeners := st.listeners ++ [l] }
  emit none { eventOf l .opened with
    fd := shownNumber l.descriptor, localAddress := address.map Endpoint.render }
  return st.listeners.length

def openListener : Action ListenerId := do
  addListener (← demand (← network (Net.serverSocket true))) none

/-- Makes a listening channel of an open socket; port 0 says that it is not bound. -/
def adoptSocket (number : FileNumber) : Action ListenerId := do
  match ← network (Net.localAddress number) with
  | .error e =>
    let _ ← network (Net.close number)
    throw (.io e)
  | .ok address => addListener number (if address.port = 0 then none else some address)

/-- Binds a socket, makes it listen and asks for its address. -/
def establish (number : FileNumber) (address : Endpoint) (backlog : Int) : Net Endpoint := do
  Net.bind number address
  Net.listen number backlog
  Net.localAddress number

/-- The address that a bind asks for, if the channel may be bound to it. -/
def bindable (c : ListenerId) (requested : Option Endpoint) : Action Endpoint := do
  let l ← listener c
  if !l.core.isOpen then throw .closed
  else if l.isBound then throw .alreadyBound
  else
    match Listening.address? requested with
    | none => throw .unsupportedAddress
    | some address =>
      match (← get).provider.checkListen address.port with
      | .ok _ => return address
      | .error denial =>
        emit (some c) { eventOf l .listenDenied with detail := some denial.message }
        throw (.denied denial)

def bind (c : ListenerId) (requested : Option Endpoint) (backlog : Int) : Action Unit := do
  let address ← bindable c requested
  let depth := Listening.effectiveBacklog backlog
  let number ← acquire c
  match ← network (establish number address depth) with
  | .error e =>
    release c
    throw (.io e)
  | .ok bound =>
    modify fun st => st.modifyListener c fun l => { l with localAddress := some bound }
    let l ← listener c
    emit (some c) { eventOf l .bound with
      fd := shownNumber l.descriptor, localAddress := some bound.render,
      detail := some s!"backlog={depth}" }
    release c

end PolledChannels.Action
