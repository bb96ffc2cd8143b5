import PolledChannels.Network.File

/-!
# The state of the network

Open files by number, the pipes and links behind them, and the ports in use. A number is
never given out twice.

A network can be told to fail: `faults` says, call after call, whether the next call fails
and how, so that every outcome of a call is an outcome of some network. An empty list lets
every call take its course.
-/

namespace PolledChannels

/-- What addresses the machine has. -/
inductive Host where
  /-- The loopback addresses, and connections between them. -/
  | loopback
  /-- No interface is up: every IPv4 address can be bound, and nothing can be reached. -/
  | isolated
  deriving DecidableEq, Repr

abbrev FileNumber := Int

structure Network where
  host : Host := .loopback
  files : List (FileNumber × File) := []
  pipes : List Pipe := []
  links : List Link := []
  nextNumber : Nat := 3
  nextPort : Nat := 40687
  faults : List (Option IoError) := []
  deriving DecidableEq, Repr

abbrev Net := ExceptT IoError (StateM Network)

namespace Network

def file? (n : Network) (fd : FileNumber) : Option File := n.files.lookup fd

def modifyFile (n : Network) (fd : FileNumber) (f : File → File) : Network :=
  { n with files := n.files.map fun p => if p.1 = fd then (p.1, f p.2) else p }

def eraseFile (n : Network) (fd : FileNumber) : Network :=
  { n with files := n.files.filter fun p => p.1 != fd }

def addFile (n : Network) (file : File) : Network × FileNumber :=
  ({ n with files := n.files ++ [((n.nextNumber : Int), file)], nextNumber := n.nextNumber + 1 },
    (n.nextNumber : Int))

/-- Adds an empty pipe; the answer is its number. -/
def addPipe (n : Network) : Network × Nat :=
  ({ n with pipes := n.pipes ++ [({} : Pipe)] }, n.pipes.length)

/-- Adds a link over which nothing was sent; the answer is its number. -/
def addLink (n : Network) : Network × Nat :=
  ({ n with links := n.links ++ [({} : Link)] }, n.links.length)

def sockets (n : Network) : List (FileNumber × Socket) :=
  n.files.filterMap fun p =>
    match p.2.kind with
    | .socket s => some (p.1, s)
    | _ => none

def portsInUse (n : Network) : List Nat :=
  n.sockets.filterMap fun p => if p.2.holdsPort then p.2.address.map fun e => e.port.toNat else none

/-- The first free port that the system would pick. -/
def freePort (n : Network) : Nat :=
  let candidates := (List.range (n.portsInUse.length + 1)).map (· + n.nextPort)
  (candidates.find? fun p => !n.portsInUse.contains p).getD n.nextPort

end Network

namespace Net

def fail {α : Type} (errno : Errno) : Net α := throw (.os errno)

/-- Asks whether the next call is to fail. -/
def consult : Net Unit := do
  let n ← get
  match n.faults with
  | [] => pure ()
  | fault :: rest =>
    set { n with faults := rest }
    match fault with
    | some e => throw e
    | none => pure ()

/-- `consult` for a call that is made again as long as it is interrupted. -/
def consultAgain : Net Unit := do
  modify fun n => { n with faults := n.faults.dropWhile fun f => f == some (.os .interrupted) }
  consult

def file (fd : FileNumber) : Net File := do
  match (← get).file? fd with
  | some f => return f
  | none => fail .badDescriptor

/-- The internet socket with a number; `other` is how the call fails on a pair of sockets
inside the machine. -/
def socket (fd : FileNumber) (other : Net Socket) : Net Socket := do
  match (← file fd).kind with
  | .socket s => return s
  | .pair _ _ _ => other
  | _ => fail .notSocket

def setSocket (fd : FileNumber) (s : Socket) : Net Unit :=
  modify fun n => n.modifyFile fd fun f => { f with kind := .socket s }

def openFile (f : File) : Net FileNumber := do
  let r := (← get).addFile f
  set r.1
  return r.2

/-- Takes a free port that the system picks. -/
def pickPort : Net UInt16 := do
  let n ← get
  let p := n.freePort
  set { n with nextPort := p + 1 }
  return p.toUInt16

def modifyLink (link : Nat) (f : Link → Link) : Net Unit :=
  modify fun n => { n with links := n.links.modify link f }

def modifyPipe (pipe : Nat) (f : Pipe → Pipe) : Net Unit :=
  modify fun n => { n with pipes := n.pipes.modify pipe f }

end Net
end PolledChannels
