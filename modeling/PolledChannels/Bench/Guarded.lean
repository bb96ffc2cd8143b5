import PolledChannels.Descriptor
import PolledChannels.Network.Transfer
import PolledChannels.Record

/-!
# A guarded descriptor and its peer

One end of a pipe or of a pair of sockets under a guard, with the other end read from outside. The
peer shows when the number really goes back to the kernel.
-/

namespace PolledChannels.Bench

/-- A guarded descriptor, the uses handed out, and the other end. -/
structure Guarded where
  network : Network
  descriptor : Descriptor
  peer : FileNumber
  /-- Whether each use handed out is still held. -/
  uses : List Bool := []
  deriving Repr

inductive Reading where
  /-- Nothing, and the other end is open. -/
  | waiting
  | ended
  | bytes (count : Nat)
  deriving DecidableEq, Repr

namespace Guarded

def ofPipe : Option Guarded :=
  match (Net.pipe true).run {} with
  | (.ok (reader, writer), network) =>
    some { network, descriptor := { number := writer }, peer := reader }
  | _ => none

def ofPair : Option Guarded :=
  match Net.socketPair.run {} with
  | (.ok (first, second), network) =>
    some { network, descriptor := { number := second }, peer := first }
  | _ => none

/-- Does to the number what a call asks for. -/
def apply (g : Guarded) (effect : Option GuardEffect) : Guarded × IoResult :=
  match effect with
  | none => (g, .ok ())
  | some .release =>
    let r := (Net.close g.descriptor.number).run g.network
    ({ g with network := r.2 }, r.1)
  | some .shutDown =>
    let r := (Net.shutdown g.descriptor.number 2).run g.network
    ({ g with network := r.2 }, .ok ())

def acquire (g : Guarded) : Guarded × Except IoError Nat :=
  match g.descriptor.acquire? with
  | none => (g, .error .socketClosed)
  | some descriptor => ({ g with descriptor, uses := g.uses ++ [true] }, .ok g.uses.length)

def held (g : Guarded) (u : Nat) : Bool := g.uses.getD u false

/-- Ends a use; the answer says whether it was held. -/
def release (g : Guarded) (u : Nat) : Guarded × Bool :=
  if g.held u then
    let r := g.descriptor.release
    (({ g with descriptor := r.1, uses := g.uses.set u false }.apply r.2).1, true)
  else (g, false)

def write (g : Guarded) : Guarded × Except IoError Nat :=
  let r := (Net.write g.descriptor.number [1, 2, 3]).run g.network
  ({ g with network := r.2 }, r.1)

def close (g : Guarded) : Guarded × IoResult :=
  let r := g.descriptor.close
  { g with descriptor := r.1 }.apply r.2

def releaseAll (g : Guarded) : Guarded :=
  (List.range g.uses.length).foldl (fun g u => (g.release u).1) g

def readPeer (g : Guarded) : Guarded × Reading :=
  match (Net.receive g.peer 64).run g.network with
  | (.ok (.bytes []), network) => ({ g with network }, .ended)
  | (.ok (.bytes taken), network) => ({ g with network }, .bytes taken.length)
  | (_, network) => ({ g with network }, .waiting)

inductive Command where
  | acquire
  | release (use : Nat)
  | write (use : Nat)
  | close
  deriving DecidableEq, Repr

def perform (g : Guarded) : Command → Guarded × Json
  | .acquire =>
    let r := g.acquire
    (r.1, Record.ioResult
      (fun u => Json.ofMembers [("use", Record.count u), ("same_raw", .bool true)]) r.2)
  | .release u => ((g.release u).1, .bool (g.release u).2)
  | .write u =>
    if g.held u then (g.write.1, Record.ioResult Record.count g.write.2)
      else (g, .string "released")
  | .close => (g.close.1, Record.ioResult Record.unit g.close.2)

def Reading.record : Reading → Json
  | .waiting => .string "open"
  | .ended => .string "eof"
  | .bytes n => Record.count n

/-- Runs commands; an entry for each, with what the peer reads after it. -/
def performAll (g : Guarded) : List Command → Guarded × List Json
  | [] => (g, [])
  | command :: rest =>
    let r := g.perform command
    let peer := r.1.readPeer
    let entry := Json.ofMembers [("r", r.2), ("closed", .bool peer.1.descriptor.isClosed),
      ("same_raw", .bool true), ("peer", Reading.record peer.2)]
    let others := peer.1.performAll rest
    (others.1, entry :: others.2)

/-- Runs commands, then ends every use, then closes the descriptor; what the peer reads all along.
-/
def transcript (g : Guarded) (commands : List Command) : Json :=
  let r := g.performAll commands
  let unused := r.1.releaseAll.readPeer
  let dropped := unused.1.close.1.readPeer
  Json.ofMembers [("steps", .array r.2), ("after_uses", Reading.record unused.2),
    ("after_drop", Reading.record dropped.2)]

end Guarded
end PolledChannels.Bench
