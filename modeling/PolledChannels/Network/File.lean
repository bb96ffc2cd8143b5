import PolledChannels.Address.Storage
import PolledChannels.Options

/-!
# Files of the network

What a descriptor number can stand for: an end of a pipe, an end of a pair of sockets inside the
machine, or a stream socket of the internet families. Pipes count bytes; two-way streams keep them.
-/

namespace PolledChannels

/-- A one-way queue of bytes with two ends. -/
structure Pipe where
  size : Nat := 0
  readerOpen : Bool := true
  writerOpen : Bool := true
  deriving DecidableEq, Repr

namespace Pipe

def capacity : Nat := 65536

def page : Nat := 4096

/-- Another page can be begun. -/
def hasRoom (p : Pipe) : Bool := (p.size + page - 1) / page < capacity / page

/-- Puts one byte in; a full pipe drops it. -/
def pushByte (p : Pipe) : Pipe := if p.size < capacity then { p with size := p.size + 1 } else p

def drain (p : Pipe) : Pipe × Nat := ({ p with size := 0 }, p.size)

end Pipe

structure Side where
  /-- Bytes that have arrived and were not yet read. -/
  inbox : List UInt8 := []
  /-- The other end sends nothing more. -/
  ended : Bool := false
  /-- This end sends nothing more. -/
  shut : Bool := false
  /-- What the next call meets after the bytes are read. -/
  fault : Option Errno := none
  isOpen : Bool := true
  deriving DecidableEq, Repr

inductive LinkEnd where
  | first
  | second
  deriving DecidableEq, Repr

namespace LinkEnd

def other : LinkEnd → LinkEnd
  | first => second
  | second => first

end LinkEnd

structure Link where
  first : Side := {}
  second : Side := {}
  deriving DecidableEq, Repr

namespace Link

def side (l : Link) : LinkEnd → Side
  | .first => l.first
  | .second => l.second

def modify (l : Link) (e : LinkEnd) (f : Side → Side) : Link :=
  match e with
  | .first => { l with first := f l.first }
  | .second => { l with second := f l.second }

def finish (l : Link) (e : LinkEnd) : Link :=
  (l.modify e fun s => { s with shut := true }).modify e.other fun s => { s with ended := true }

/-- An end is reset: its peer meets the error, and what it had not read is lost. -/
def reset (l : Link) (e : LinkEnd) : Link :=
  ((l.finish e).modify e.other fun s => { s with fault := some .connectionReset }).modify e
    fun s => { s with isOpen := false, inbox := [] }

/-- An end is closed; bytes it had not read turn the close into a reset. -/
def close (l : Link) (e : LinkEnd) : Link :=
  if (l.side e).inbox.isEmpty then (l.finish e).modify e fun s => { s with isOpen := false }
  else l.reset e

/-- What a byte that waits to be read counts against the buffer of the end that sent it, in a pair
of sockets inside the machine. -/
def byteCost : Nat := 768

/-- What the bytes count that an end has sent and that wait to be read. -/
def backlog (l : Link) (e : LinkEnd) : Nat := (l.side e.other).inbox.length * byteCost

/-- An end with a buffer of a size takes another byte. -/
def takesMore (l : Link) (e : LinkEnd) (buffer : Nat) : Bool := l.backlog e < buffer

/-- An end with a buffer of a size counts as writable: three quarters of the buffer are free. -/
def hasRoom (l : Link) (e : LinkEnd) (buffer : Nat) : Bool := (l.backlog e + 1) * 4 ≤ buffer

def send (l : Link) (e : LinkEnd) (bytes : List UInt8) : Except Errno Link :=
  if (l.side e).shut then .error .brokenPipe
  else if (l.side e.other).isOpen then
    .ok (l.modify e.other fun s => { s with inbox := s.inbox ++ bytes })
  else .error .brokenPipe

inductive Received where
  /-- The bytes taken; none at the end of the stream. -/
  | bytes (taken : List UInt8)
  | failed (errno : Errno)
  | nothing
  deriving DecidableEq, Repr

def receive (l : Link) (e : LinkEnd) (n : Nat) : Link × Received :=
  let s := l.side e
  if !s.inbox.isEmpty then
    (l.modify e fun s => { s with inbox := s.inbox.drop n }, .bytes (s.inbox.take n))
  else
    match s.fault with
    | some errno => (l.modify e fun s => { s with fault := none }, .failed errno)
    | none => if s.ended then (l, .bytes []) else (l, .nothing)

end Link

structure SocketSettings where
  reuseAddress : Bool := false
  keepAlive : Bool := false
  noDelay : Bool := false
  typeOfService : UInt8 := 0
  receiveBuffer : Nat := 131072
  sendBuffer : Nat := 131072
  deriving DecidableEq, Repr

namespace SocketSettings

/-- The buffers of a pair of sockets inside the machine. -/
def ofPair : SocketSettings := { receiveBuffer := 212992, sendBuffer := 212992 }

def bufferLimit : Nat := 212992

/-- The least buffer that a socket keeps for what it receives. -/
def receiveFloor : Nat := 2304

/-- The least buffer that a socket keeps for what it sends. -/
def sendFloor : Nat := 4608

/-- The buffer kept for a size asked for: twice the size, between a floor and a limit. A negative
size asks for the most. -/
def buffer (floor : Nat) (asked : Int) : Nat :=
  max (2 * if asked < 0 then bufferLimit else min asked.toNat bufferLimit) floor

def get (s : SocketSettings) : SocketOption → Int
  | .reuseAddress => SocketOption.flagWord s.reuseAddress
  | .receiveBufferSize => s.receiveBuffer
  | .sendBufferSize => s.sendBuffer
  | .keepAlive => SocketOption.flagWord s.keepAlive
  | .noDelay => SocketOption.flagWord s.noDelay
  | .typeOfService => s.typeOfService.toNat

/-- Writes an option. The two lowest bits of the type of service belong to the transport and stay.
-/
def set (s : SocketSettings) (o : SocketOption) (value : Int) : SocketSettings :=
  match o with
  | .reuseAddress => { s with reuseAddress := value != 0 }
  | .receiveBufferSize => { s with receiveBuffer := buffer receiveFloor value }
  | .sendBufferSize => { s with sendBuffer := buffer sendFloor value }
  | .keepAlive => { s with keepAlive := value != 0 }
  | .noDelay => { s with noDelay := value != 0 }
  | .typeOfService =>
    let word := (BitVec.ofInt 8 value).toNat.toUInt8
    { s with typeOfService := word &&& 0xFC ||| s.typeOfService &&& 3 }

end SocketSettings

structure Pending where
  link : Nat
  localAddress : Endpoint
  remoteAddress : Endpoint
  deriving DecidableEq, Repr

inductive SocketState where
  /-- Neither listening nor connected; the flags say which directions were shut down. -/
  | idle (receiveShut sendShut : Bool)
  | listening (backlog : Nat) (pending : List Pending)
  | connected (link : Nat) (side : LinkEnd) (remote : Endpoint)
  deriving DecidableEq, Repr

structure Socket where
  /-- The socket has IPv6 addresses, and takes IPv4 connections on the wildcard address. -/
  ipv6 : Bool := false
  /-- The address that the socket shows. -/
  address : Option Endpoint := none
  /-- The port of the address is taken by this socket. -/
  holdsPort : Bool := false
  /-- The port was asked for by number. -/
  fixedPort : Bool := false
  state : SocketState := .idle false false
  settings : SocketSettings := {}
  deriving DecidableEq, Repr

namespace Socket

def isListening (s : Socket) : Bool :=
  match s.state with
  | .listening _ _ => true
  | _ => false

/-- The wildcard address of the family, with port 0. -/
def unspecified (s : Socket) : Endpoint := if s.ipv6 then .v6 Ipv6.any 0 0 0 else .wildcard

/-- The address that the socket shows, the wildcard address before it is bound. -/
def shown (s : Socket) : Endpoint := s.address.getD s.unspecified

/-- The socket of a connection that the listening socket takes. -/
def taking (s : Socket) (p : Pending) : Socket :=
  { s with address := some p.localAddress, holdsPort := false, fixedPort := false
           state := .connected p.link .second p.remoteAddress }

end Socket

/-- What a descriptor number stands for. -/
inductive FileKind where
  | pipeReader (pipe : Nat)
  | pipeWriter (pipe : Nat)
  /-- An end of a pair of sockets inside the machine. -/
  | pair (link : Nat) (side : LinkEnd) (settings : SocketSettings)
  | socket (socket : Socket)
  deriving DecidableEq, Repr

structure File where
  kind : FileKind
  blocking : Bool := true
  deriving DecidableEq, Repr

end PolledChannels
