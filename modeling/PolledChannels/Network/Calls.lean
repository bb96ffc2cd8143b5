import PolledChannels.Network.Binding

/-!
# Calls on sockets

Opening, binding, listening, accepting, connecting, shutting down and closing; options and blocking
mode. A call that would wait says so instead: `accept` and `receive` answer `none` or `nothing`,
and whoever calls them decides how to wait.
-/

namespace PolledChannels.Net

def newSocket (ipv6 reuse : Bool) : Net FileNumber := do
  consult
  openFile { kind := .socket { ipv6, settings := { reuseAddress := reuse } } }

/-- A new socket to listen with: a stream socket whose address may be used again. -/
def serverSocket (stream : Bool) : Net FileNumber :=
  if stream then newSocket false true
  else throw (.custom .unsupported "datagram sockets are not supported")

/-- A new pipe: its reading and its writing end. -/
def pipe (blocking : Bool) : Net (FileNumber × FileNumber) := do
  consult
  let r := (← get).addPipe
  set r.1
  let reader ← openFile { kind := .pipeReader r.2, blocking }
  let writer ← openFile { kind := .pipeWriter r.2, blocking }
  return (reader, writer)

def newLink : Net Nat := do
  let r := (← get).addLink
  set r.1
  return r.2

def socketPair : Net (FileNumber × FileNumber) := do
  consult
  let l ← newLink
  let first ← openFile { kind := .pair l .first .ofPair }
  let second ← openFile { kind := .pair l .second .ofPair }
  return (first, second)

/-- Binds a socket to an endpoint; port 0 lets the system pick. -/
def bind (fd : FileNumber) (e : Endpoint) : Net Unit := do
  consult
  let s ← socket fd (fail .invalidArgument)
  let n ← get
  match Network.addressFault? n.host s e with
  | some errno => fail errno
  | none =>
    if s.holdsPort || s.state matches .connected _ _ _ then fail .invalidArgument
    else if e.port = 0 then
      let port ← pickPort
      setSocket fd { s with address := some (e.withPort port), holdsPort := true }
    else if n.inUse fd s e then fail .addressInUse
    else setSocket fd { s with address := some e, holdsPort := true, fixedPort := true }

def longestQueue : Nat := 4096

def queueLength (backlog : Int) : Nat :=
  if backlog < 0 then longestQueue else min backlog.toNat longestQueue

/-- Makes a socket listen; one without a port gets a free one. -/
def listen (fd : FileNumber) (backlog : Int) : Net Unit := do
  consult
  let s ← socket fd (fail .invalidArgument)
  match s.state with
  | .connected _ _ _ => fail .invalidArgument
  | .listening _ pending =>
    setSocket fd { s with state := .listening (queueLength backlog) pending }
  | .idle _ _ =>
    if s.holdsPort then
      if (← get).inUse fd s s.shown then fail .addressInUse
      else setSocket fd { s with state := .listening (queueLength backlog) [] }
    else
      let port ← pickPort
      setSocket fd { s with address := some (s.shown.withPort port), holdsPort := true
                            state := .listening (queueLength backlog) [] }

/-- Takes a connection from a listening socket, or says that there is none yet and
the call would wait. -/
def accept (fd : FileNumber) : Net (Option (FileNumber × Endpoint)) := do
  consult
  let f ← file fd
  let s ← socket fd (fail .invalidArgument)
  match s.state with
  | .listening backlog (p :: rest) =>
    setSocket fd { s with state := .listening backlog rest }
    let taken ← openFile ⟨.socket (s.taking p), true⟩
    named taken p.remoteAddress
  | .listening _ [] => if f.blocking then return none else fail .again
  | _ => fail .invalidArgument
where
  /-- The peer of a connection that was taken; if its address cannot be read, the
  connection is given up. -/
  named (taken : FileNumber) (remote : Endpoint) : Net (Option (FileNumber × Endpoint)) :=
    tryCatch (do consult; return some (taken, remote)) fun _ => do
      modify fun n => n.eraseFile taken
      throw Storage.unreadable

/-- The name under which the kernel knows a socket, in the form of the kernel. -/
def nameOf (f : File) : Except Errno (Storage × Nat) :=
  match f.kind with
  | .socket s => .ok (Storage.ofEndpoint s.shown)
  | .pair _ _ _ => .ok (⟨Storage.unix, Storage.padded []⟩, 2)
  | _ => .error .notSocket

/-- The name of the peer of a socket, in the form of the kernel. -/
def peerOf (f : File) : Except Errno (Storage × Nat) :=
  match f.kind with
  | .socket s =>
    match s.state with
    | .connected _ _ remote => .ok (Storage.ofEndpoint remote)
    | _ => .error .notConnected
  | .pair _ _ _ => .ok (⟨Storage.unix, Storage.padded []⟩, 2)
  | _ => .error .notSocket

/-- Reads an endpoint in the form of the kernel. -/
def endpointOf : Except Errno (Storage × Nat) → Net Endpoint
  | .ok (storage, length) => storage.toEndpoint length
  | .error errno => fail errno

def localAddress (fd : FileNumber) : Net Endpoint := do
  consult
  endpointOf (nameOf (← file fd))

def remoteAddress (fd : FileNumber) : Net Endpoint := do
  consult
  endpointOf (peerOf (← file fd))

/-- Resets the connections that wait. -/
def resetPending (pending : List Pending) : Net Unit :=
  for p in pending do modifyLink p.link fun l => l.reset .second

/-- Shuts directions down: 0 receiving, 1 sending, 2 both. A listening socket that may not receive
stops to listen, and gives up a port that the system picked. -/
def shutdown (fd : FileNumber) (how : Int) : Net Unit := do
  consult
  let f ← file fd
  let receive := how == 0 || how == 2
  let send := how == 1 || how == 2
  let known := receive || send
  match f.kind with
  | .pipeReader _ | .pipeWriter _ => fail .notSocket
  | .pair link side _ =>
    if known then modifyLink link fun l =>
      let l := if send then l.finish side else l
      if receive then l.finish side.other else l
    else fail .invalidArgument
  | .socket s =>
    if !known then fail .invalidArgument
    else
      match s.state with
      | .idle r w =>
        setSocket fd { s with state := .idle (r || receive) (w || send) }
        fail .notConnected
      | .listening _ pending =>
        if receive then
          resetPending pending
          setSocket fd { s with state := .idle false false, holdsPort := s.fixedPort }
        else pure ()
      | .connected link side _ =>
        modifyLink link fun l =>
          let l := if send then l.finish side else l
          if receive then l.modify side fun x => { x with ended := true } else l

def setBlocking (fd : FileNumber) (block : Bool) : Net Unit := do
  consult
  let _ ← file fd
  modify fun n => n.modifyFile fd fun f => { f with blocking := block }

def isBlocking (fd : FileNumber) : Net Bool := do
  consult
  return (← file fd).blocking

def dismantle (f : File) : Net Unit :=
  match f.kind with
  | .pipeReader p => modifyPipe p fun x => { x with readerOpen := false }
  | .pipeWriter p => modifyPipe p fun x => { x with writerOpen := false }
  | .pair link side _ => modifyLink link fun l => l.close side
  | .socket s =>
    match s.state with
    | .idle _ _ => pure ()
    | .listening _ pending => resetPending pending
    | .connected link side _ => modifyLink link fun l => l.close side

/-- Closes a file. The number is gone even when the call fails; an interrupted
close counts as done. -/
def close (fd : FileNumber) : Net Unit := do
  let f ← file fd
  modify fun n => n.eraseFile fd
  dismantle f
  tryCatch consult fun e => if e = .os .interrupted then pure () else throw e

def getOption (fd : FileNumber) (o : SocketOption) : Net Int := do
  consult
  match (← file fd).kind with
  | .socket s => return s.settings.get o
  | .pair _ _ settings =>
    if o = .noDelay ∨ o = .typeOfService then fail .notSupported else return settings.get o
  | _ => fail .notSocket

def setOption (fd : FileNumber) (o : SocketOption) (value : Int) : Net Unit := do
  consult
  match (← file fd).kind with
  | .socket s => setSocket fd { s with settings := s.settings.set o value }
  | .pair link side settings =>
    if o = .noDelay ∨ o = .typeOfService then fail .notSupported
    else modify fun n => n.modifyFile fd fun f =>
      { f with kind := .pair link side (settings.set o value) }
  | _ => fail .notSocket

end PolledChannels.Net
