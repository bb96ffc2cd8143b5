import PolledChannels.Address.Text
import PolledChannels.Network.Poll
import PolledChannels.Network.Transfer
import PolledChannels.Record

/-!
# Scripts for the network

Commands on files named by the order in which they were opened. A file that was closed, or never
opened, is no file.
-/

namespace PolledChannels.Bench

/-- A network, and the numbers of the files opened so far. -/
structure Files where
  network : Network
  numbers : List (Option FileNumber) := []
  deriving Repr

inductive FileCall where
  | close
  | bind (e : Endpoint)
  | listen (backlog : Int)
  | accept
  | localAddress
  | remoteAddress
  | shutdown (how : Int)
  | setBlocking (block : Bool)
  | isBlocking
  | poll (events : Mask)
  | signal (times : Nat)
  | drain
  | getOption (o : SocketOption)
  | setOption (o : SocketOption) (value : Int)
  deriving Repr

inductive FileCommand where
  | serverSocket (stream : Bool)
  | wakeupPipe
  | pipe
  | socketPair
  | pollAll
  | call (file : Option Nat) (call : FileCall)
  deriving Repr

/-- An address without its port, and whether it has one. -/
def addressRecord (e : Endpoint) : Json :=
  Json.ofMembers [("ip", .string e.ip.render), ("ephemeral", .bool (e.port != 0))]

def signalTimes (number : FileNumber) : Nat → Net Unit
  | 0 => pure ()
  | n + 1 => do
    Net.signal number
    signalTimes number n

namespace Files

def run {α : Type} (f : α → Json) (a : Net α) : StateM Files Json := do
  let s ← get
  let r := a.run s.network
  set { s with network := r.2 }
  return Record.ioResult f r.1

/-- Names files that were opened. -/
def adopt (numbers : List FileNumber) : StateM Files (List Json) := do
  let s ← get
  set { s with numbers := s.numbers ++ numbers.map some }
  return (List.range numbers.length).map fun i => Record.count (s.numbers.length + i)

def openWith (a : Net (List FileNumber)) (shown : List Json → Json) : StateM Files Json := do
  let s ← get
  let r := a.run s.network
  set { s with network := r.2 }
  match r.1 with
  | .ok numbers => return shown (← adopt numbers)
  | .error e => return Record.io e

/-- The number of a file; no file has a negative number. -/
def number (s : Files) (file : Option Nat) : FileNumber :=
  ((file.bind fun i => (s.numbers[i]?).join)).getD (-1)

/-- A call on the file that waits for something to read would wait. -/
def wouldWait (n : Network) (number : FileNumber) : Bool :=
  (n.file? number).any fun f => f.blocking && n.polled number Native.input == 0

/-- Takes a connection. The call is not made on a file, of whatever kind, where it would wait. -/
def accept (number : FileNumber) : StateM Files Json := do
  let s ← get
  if wouldWait s.network number then return .string "would_block"
  else
    let r := (Net.accept number).run s.network
    set { s with network := r.2 }
    match r.1 with
    | .error e => return Record.io e
    | .ok none => return .string "would_block"
    | .ok (some (taken, remote)) =>
      return Json.ofMembers [("f", .array (← adopt [taken])), ("remote", addressRecord remote)]

def call (number : FileNumber) : FileCall → StateM Files Json
  | .close => do
    if number < 0 then return .bool false
    else
      let _ ← run Record.unit (Net.close number)
      modify fun s =>
        { s with numbers := s.numbers.map fun x => if x = some number then none else x }
      return .bool true
  | .bind e => run Record.unit (Net.bind number e)
  | .listen backlog => run Record.unit (Net.listen number backlog)
  | .accept => accept number
  | .localAddress => run addressRecord (Net.localAddress number)
  | .remoteAddress => run addressRecord (Net.remoteAddress number)
  | .shutdown how => run Record.unit (Net.shutdown number how)
  | .setBlocking block => run Record.unit (Net.setBlocking number block)
  | .isBlocking => run .bool (Net.isBlocking number)
  | .poll events => run Record.mask (Net.poll number events)
  | .signal times => run Record.unit (signalTimes number times)
  | .drain => run Record.count (Net.drain number)
  | .getOption o =>
    run (fun n => if o.isSize then .bool (0 < n) else .int n) (Net.getOption number o)
  | .setOption o value => run Record.unit (Net.setOption number o value)

def pollAll : StateM Files Json := do
  let s ← get
  let reported := s.numbers.map fun x => s.network.polled (x.getD (-1)) Native.input
  let n := (reported.filter fun m => m != 0).length
  return Json.ofMembers [("n", Record.count n), ("revents", .array (reported.map Record.mask))]

def both (p : FileNumber × FileNumber) : List FileNumber := [p.1, p.2]

def perform : FileCommand → StateM Files Json
  | .serverSocket stream =>
    openWith (do return [← Net.serverSocket stream]) fun names => names.headD .null
  | .wakeupPipe => openWith (do return both (← Net.pipe false)) .array
  | .pipe => openWith (do return both (← Net.pipe true)) .array
  | .socketPair => openWith (do return both (← Net.socketPair)) .array
  | .pollAll => pollAll
  | .call file c => do call ((← get).number file) c

def performAll : List FileCommand → StateM Files (List Json)
  | [] => return []
  | command :: rest => do
    let r ← perform command
    return r :: (← performAll rest)

end Files
end PolledChannels.Bench
