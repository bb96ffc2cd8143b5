import PolledChannels.Network.Calls

/-!
# Connecting and moving bytes

Connections between sockets of one machine, reading and writing, and the pipe with which a
waiting thread is woken.
-/

namespace PolledChannels
namespace Network

/-- A listening socket takes connections to the endpoint. -/
def serves (s : Socket) (target : Endpoint) : Bool :=
  match s.address with
  | some e => s.isListening && e.port == target.port && overlap e target
  | none => false

/-- The socket that a connection to the endpoint reaches: one bound to the address itself before one
bound to every address. -/
def server? (n : Network) (target : Endpoint) : Option (FileNumber × Socket) :=
  match n.sockets.find? fun p => serves p.2 target && p.2.shown.ip == target.ip with
  | some p => some p
  | none => n.sockets.find? fun p => serves p.2 target

/-- An endpoint as a socket of a family shows it. -/
def shownTo (ipv6 : Bool) (e : Endpoint) : Endpoint :=
  match ipv6, e with
  | true, .v4 ip port => .v6 (Ipv6.ofMapped ip) port 0 0
  | _, e => e

end Network

namespace Net

/-- A new socket, bound to an address of the machine and connected to an endpoint. Connections that
nobody serves are refused, and one that finds the queue full times out. -/
def connect (source target : Endpoint) : Net FileNumber := do
  let n ← get
  match n.host with
  | .isolated => fail .networkUnreachable
  | .loopback =>
    let port ← pickPort
    let source := source.withPort port
    match n.server? target with
    | none => fail .connectionRefused
    | some (fd, s) =>
      match s.state with
      | .listening backlog pending =>
        if backlog < pending.length then fail .timedOut
        else
          let link ← newLink
          let entry : Pending :=
            ⟨link, Network.shownTo s.ipv6 target, Network.shownTo s.ipv6 source⟩
          setSocket fd { s with state := .listening backlog (pending ++ [entry]) }
          openFile { kind := .socket {
            ipv6 := source matches .v6 _ _ _ _, address := some source, holdsPort := true
            state := .connected link .first target } }
      | _ => fail .connectionRefused

def write (fd : FileNumber) (bytes : List UInt8) : Net Nat := do
  consultAgain
  let f ← file fd
  match f.kind with
  | .pipeReader _ => fail .badDescriptor
  | .pipeWriter p =>
    match (← get).pipes[p]? with
    | none => fail .badDescriptor
    | some pipe =>
      if !pipe.readerOpen then fail .brokenPipe
      else if pipe.size + bytes.length ≤ Pipe.capacity then
        modifyPipe p fun x => { x with size := x.size + bytes.length }
        return bytes.length
      else fail .again
  | .pair link side settings => transmit link side fun l => l.takesMore side settings.sendBuffer
  | .socket s =>
    match s.state with
    | .connected link side _ => transmit link side fun _ => true
    | _ => fail .brokenPipe
where
  /-- Sends the bytes on a link that takes them now. -/
  transmit (link : Nat) (side : LinkEnd) (takes : Link → Bool) : Net Nat := do
    match (← get).links[link]? with
    | none => fail .badDescriptor
    | some l =>
      match l.send side bytes with
      | .ok sent =>
        if takes l then
          modifyLink link fun _ => sent
          return bytes.length
        else fail .again
      | .error errno => fail errno

def receive (fd : FileNumber) (n : Nat) : Net Link.Received := do
  consultAgain
  let f ← file fd
  match f.kind with
  | .pipeWriter _ => fail .badDescriptor
  | .pipeReader p =>
    match (← get).pipes[p]? with
    | none => fail .badDescriptor
    | some pipe =>
      if 0 < pipe.size then
        modifyPipe p fun x => { x with size := x.size - n }
        return .bytes (List.replicate (min n pipe.size) 1)
      else if pipe.writerOpen then return .nothing
      else return .bytes []
  | .pair link side _ => take link side
  | .socket s =>
    match s.state with
    | .connected link side _ => take link side
    | .idle true _ => return .bytes []
    | _ => fail .notConnected
where
  take (link : Nat) (side : LinkEnd) : Net Link.Received := do
    match (← get).links[link]? with
    | none => fail .badDescriptor
    | some l =>
      let r := l.receive side n
      modifyLink link fun _ => r.1
      return r.2

/-- Writes one byte to wake a thread. A full pipe already holds a wakeup. -/
def signal (fd : FileNumber) : Net Unit :=
  tryCatch (do let _ ← write fd [1]) fun e => if e = .os .again then pure () else throw e

/-- Takes out everything that can be read without waiting; the answer is how many bytes. What the
next read would meet after them is met here, and the bytes are lost. -/
def drain (fd : FileNumber) : Net Nat := do
  consultAgain
  match (← file fd).kind with
  | .pipeReader p =>
    match (← get).pipes[p]? with
    | none => fail .badDescriptor
    | some pipe => modifyPipe p (fun x => x.drain.1); return pipe.size
  | .pipeWriter _ => fail .badDescriptor
  | .pair link side _ => takeAll link side
  | .socket s =>
    match s.state with
    | .connected link side _ => takeAll link side
    | .idle true _ => return 0
    | _ => fail .notConnected
where
  takeAll (link : Nat) (side : LinkEnd) : Net Nat := do
    match (← get).links[link]? with
    | none => fail .badDescriptor
    | some l =>
      modifyLink link fun x => x.modify side fun s => { s with inbox := [], fault := none }
      match (l.side side).fault with
      | some errno => fail errno
      | none => return (l.side side).inbox.length

end Net
end PolledChannels
