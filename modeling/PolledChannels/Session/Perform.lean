import PolledChannels.Record
import PolledChannels.Session.Command

/-!
# Running commands

Each command answers with a record. A name that stands for nothing is refused; until every
thread is joined, the main thread does not bind or accept; and an accept that would wait
without end says so instead.
-/

namespace PolledChannels.Session

abbrev Running := StateM Session

def onStation {α : Type} (a : StateM Station α) : Running α := do
  let s ← get
  let r := a.run s.station
  set { s with station := r.2 }
  return r.1

def act {α : Type} (a : Action α) : Running (Except Failure α) := onStation a.run

def record {α : Type} (f : α → Json) (a : Action α) : Running Json :=
  return Record.result f (← act a)

def recordUnit (a : Action Unit) : Running Json := record Record.unit a

def setProvider (f : Provider → Provider) : Running Unit :=
  onStation (modify fun st => { st with provider := f st.provider })

/-- Names with one more for a port, unless the port has a name. -/
def named (ports : List (Nat × String)) (port : UInt16) (name : String) : List (Nat × String) :=
  if ports.any fun p => p.1 == port.toNat then ports else ports ++ [(port.toNat, name)]

/-- Gives the port of the next binding its name. A port that has a name keeps it. -/
def namePort (port : UInt16) : Running Unit :=
  modify fun s =>
    { s with ports := named s.ports port s!"L{s.bindings}", bindings := s.bindings + 1 }

/-- Takes down the next client, which is connected if it has a file, and names its port. -/
def addClient (number : Option FileNumber) (port : Option UInt16) : Running Unit :=
  modify fun s =>
    { s with ports := port.elim s.ports fun p => named s.ports p s!"C{s.clients.length}"
             clients := s.clients ++ [number] }

def nameBinding (c : ListenerId) : Running Unit := do
  match ((← get).station.listeners[c]?).bind Listener.localAddress with
  | some e => namePort e.port
  | none => pure ()

def port? (s : Session) (name : String) : Option Nat :=
  (s.ports.find? fun p => p.2 == name).map Prod.fst

/-- An address text with the port behind a name put in its place, if there is a port of that
name. -/
def resolve (s : Session) (text : String) : Option String :=
  let start := text.toList.takeWhile (· != '@')
  if start.length = text.length then some text
  else
    let name := text.toList.drop (start.length + 1)
    (s.port? (String.ofList name)).map fun port =>
      String.ofList start ++ String.ofList (Text.decimalDigits port)

def withAddress (text : Option String) (work : Option Endpoint → Running Json) :
    Running Json := do
  match text with
  | none => work none
  | some text =>
    match (← get).resolve text with
    | none => return Record.refused "addr"
    | some resolved =>
      match Endpoint.parse? resolved with
      | some e => work (some e)
      | none => return Record.malformedAddress

def bind (c : ListenerId) (text : Option String) (backlog : Int)
    (operation : Option Endpoint → Int → Action Unit) :
    Running Json :=
  withAddress text fun address => do
    let r ← act (operation address backlog)
    match r with
    | .ok _ => nameBinding c
    | .error _ => pure ()
    return Record.result Record.unit r

def keepAccepted (i : ConnectionId) : Running Json := do
  let s ← get
  set { s with accepted := s.accepted ++ [some i] }
  match s.station.connections[i]? with
  | none => return .null
  | some x =>
    return Json.ofMembers [("sc", Record.count s.accepted.length), ("id", Record.count x.id),
      ("remote", .string x.remote.render), ("blocking", .bool x.blocking), ("open", .bool x.isOpen)]

def recordOutcome : Outcome → Running Json
  | .bound r => return Record.result Record.unit r
  | .accepted (.ok none) => return .null
  | .accepted (.ok (some i)) => keepAccepted i
  | .accepted (.error f) => return Record.failure f
  | .viewed (.ok i) => keepAccepted i
  | .viewed (.error f) => return Record.failure f
  | .selected r => return Record.result Record.count r

def runMain (p : Point) : Running Json := do
  match ← onStation (Station.runMain p) with
  | .done outcome => recordOutcome outcome
  | _ => return .string "would_block"

def opened (c : ListenerId) : Running Json := do
  return Json.ofMembers [("c", Record.count c),
    ("id", Record.optional (fun (l : Listener) => Record.count l.id)
      ((← get).station.listeners[c]?))]

def listening6 (ip : Ipv6) : Net FileNumber := do
  let number ← Net.newSocket true true
  Net.bind number (.v6 ip 0 0 0)
  Net.listen number 8
  return number

def boundSocket : Net FileNumber := do
  let number ← Net.serverSocket true
  Net.bind number (.v4 Ipv4.loopback 0)
  return number

def SocketKind.make : SocketKind → Net FileNumber
  | unbound => Net.serverSocket true
  | bound => boundSocket
  | listening => do
    let number ← boundSocket
    Net.listen number 8
    return number
  | listening6 => Session.listening6 Ipv6.loopback
  | dual6 => Session.listening6 Ipv6.any
  | pipe => do return (← Net.pipe true).1
  | socketPair => do return (← Net.socketPair).1

/-- Makes a channel of a socket; there is no answer if the socket cannot be made. -/
def adopt (kind : SocketKind) : Running (Option Json) := do
  match ← act (Action.network kind.make) with
  | .ok (.ok number) =>
    match ← act (Action.adoptSocket number) with
    | .ok c =>
      nameBinding c
      return some (← opened c)
    | .error f => return some (Record.failure f)
  | _ => return none

/-- Where a client comes from, and what it connects to, to reach an address. -/
def route (e : Endpoint) : Endpoint × Endpoint :=
  match e with
  | .v4 ip port => (.v4 Ipv4.loopback 0, .v4 (if ip = Ipv4.any then Ipv4.loopback else ip) port)
  | .v6 ip port _ _ =>
    if ip = Ipv6.any then (.v4 Ipv4.loopback 0, .v4 Ipv4.loopback port)
    else (.v6 Ipv6.loopback 0 0 0, .v6 ip port 0 0)

def connect (source : Option Ipv4) (address : Endpoint) : Running Json := do
  let path := route address
  let source := match source with
    | some ip => .v4 ip 0
    | none => path.1
  let r ← act (Action.network (Net.connect source path.2))
  match r with
  | .ok (.ok number) =>
    let name ← act (Action.network (Net.localAddress number))
    let place := (← get).clients.length
    addClient (some number) (name.toOption.bind fun e => e.toOption.map Endpoint.port)
    return Record.count place
  | .ok (.error e) =>
    addClient none none
    return Record.io e
  | .error f => return Record.failure f

def onListener (c : ListenerId) (l : Listener) : ListenerCommand → Running Json
  | .bind address backlog => bind c address backlog (Action.bind c)
  | .accept => do
    if (← get).station.acceptWouldWait c then return .string "would_block"
      else runMain (.accept c .channel)
  | .configureBlocking block => recordUnit (Action.configureBlocking c block)
  | .close => recordUnit (Action.close c)
  | .kill => recordUnit (Action.kill c)
  | .drop => do
    modify fun s => { s with droppedListeners := c :: s.droppedListeners }
    recordUnit (Action.dropListener c)
  | .show => return Json.ofMembers [("display", .string l.render), ("debug", .string l.describe),
      ("valid_ops", Record.mask Operation.ofListener), ("fd", .bool true),
      ("same_provider", .bool true)]
  | .register s ops => onSelector s do
      let r ← act (Action.register c s ops)
      match r with
      | .ok k =>
        modify fun x => if k ∈ x.returned then x else { x with returned := x.returned ++ [k] }
      | .error _ => pure ()
      return Record.result Record.count r
  | .keyFor s => onSelector s (record (Record.optional Record.count) (Action.keyFor c s))
  | .translateInterest k ops => onKey k (recordUnit (Action.translateInterest k ops))
  | .translateSet k events => onKey k (record .bool (Action.translateAndSet c k events))
  | .translateUpdate k events => onKey k (record .bool (Action.translateAndUpdate c k events))
  | .deregister k => onKey k (recordUnit (Action.deregister c k))
  | .connect source =>
    match l.localAddress with
    | some e => connect source e
    | none => return Record.refused "unbound"
where
  /-- Goes on only if the session holds the selector. -/
  onSelector (s : SelectorId) (work : Running Json) : Running Json := do
    if ((← get).selector? s).isSome then work else return Record.refused "s"
  /-- Goes on only with a key that was returned. -/
  onKey (k : KeyId) (work : Running Json) : Running Json := do
    if (← get).returned.contains k then work else return Record.refused "k"

/-- Runs a command on the view of a channel, which may be gone; `held` says whether the session
holds the channel. -/
def onView (c : ListenerId) (l : Listener) (held : Bool) : ViewCommand → Running Json
  | .bind address backlog =>
    bind c address backlog fun address backlog => do
      let _ ← Action.viewed c
      Action.bind c address backlog
  | .accept => do
    if l.alive && l.timeout == some 0 &&
      (← get).station.acceptWouldWait c then return .string "would_block"
    else runMain (.view c)
  | .setTimeout ms => do
    let timeout := View.timeoutOf (ms * 1000000)
    record (fun _ => Record.count timeout.toNat) (Action.setTimeout c timeout)
  | .close => recordUnit (Action.closeViewed c)
  | .reuseAddress => record (fun n => .bool (n != 0)) (Action.getViewedOption c .reuseAddress)
  | .setReuseAddress on =>
    recordUnit (Action.setViewedOption c .reuseAddress (SocketOption.flagWord on))
  | .receiveBuffer => record (fun n => .bool (0 < n)) (Action.getViewedOption c .receiveBufferSize)
  | .setReceiveBuffer size => recordUnit (Action.setViewedOption c .receiveBufferSize size)
  | .show =>
    let there := if l.alive then some l else none
    return Json.ofMembers [("display", .string (View.render there)),
      ("debug", .string (View.describe (l.timeout.getD 0))),
      ("bound", .bool (there.any Listener.isBound)),
      ("closed", .bool !(there.any fun l => l.core.isOpen)),
      ("local", Record.optional (fun (e : Endpoint) => .string e.render)
        (there.bind Listener.localAddress)),
      ("same", if held then .bool true else .null)]

/-- The options of a channel, with the sizes of its buffers hidden. -/
def optionListing (st : Station) (c : ListenerId) : String :=
  let items := SocketOption.all.filterMap fun o =>
    match (Action.getOption c o).run st with
    | (.ok n, _) => some (if o.isSize then o.name ++ "=#" else o.shown n)
    | (.error _, _) => none
  "TcpOptions[" ++ " ".intercalate items ++ "]"

/-- Runs a command on the options of a channel, which may be gone. -/
def onOptions (c : ListenerId) : OptionCommand → Running Json
  | .get o => return Record.plainResult (fun n => if o.isSize then .bool (0 < n)
      else .int n) (← act (Action.getOption c o))
  | .set o value => return Record.plainResult Record.unit (← act (Action.setOption c o value))
  | .show => return .string (optionListing (← get).station c)

def onSelector (s : SelectorId) (x : Selector) : SelectorCommand → Running Json
  | .select ms => runMain (.select s (some ms))
  | .wakeup => recordUnit (Action.wakeup s)
  | .close => recordUnit (Action.closeSelector s)
  | .drop => do
    modify fun x => { x with droppedSelectors := s :: x.droppedSelectors }
    recordUnit (Action.dropSelector s)
  | .show => return Json.ofMembers [("debug", .string x.describe), ("same_provider", .bool true)]
  | .clearSelected => recordUnit (Action.clearSelected s)
  | .removeSelected k => do
    if (← get).returned.contains k then record .bool (Action.removeSelected s k)
      else return Record.refused "k"

def onKey (k : KeyId) (key : Key) : KeyCommand → Running Json
  | .setInterest ops => recordUnit (Action.setInterest k ops)
  | .setReady ops => recordUnit (Action.setReady k ops)
  | .putEvents events => recordUnit (Action.putEvents k events)
  | .cancel => recordUnit (Action.cancelKey k)
  | .show => return .string (key.describe k)

def textOf (bytes : List UInt8) : String := (String.fromUTF8? (ByteArray.mk bytes.toArray)).getD ""

def received : Link.Received → Json
  | .bytes taken => .string (textOf taken)
  | .failed errno => Record.io (.os errno)
  | .nothing => .string "would_block"

def onClient (number : FileNumber) : ClientCommand → Running Json
  | .write data =>
    record (Record.ioResult Record.count) (Action.network (Net.write number data.toUTF8.toList))
  | .read n => record (Record.ioResult received) (Action.network (Net.receive number n))
  | .close => do
    modify fun s => { s with clients := s.clients.map fun x => if x = some number then none else x }
    record (fun _ => .bool true) (Action.network (Net.close number))

def onConnection (i : ConnectionId) (x : Connection) : ConnectionCommand → Running Json
  | .write data =>
    return Record.plainResult Record.count (← act (Action.writeConnection i data.toUTF8.toList))
  | .read n => return Record.plainResult received (← act (Action.readConnection i n))
  | .configureBlocking block => recordUnit (Action.configureConnection i block)
  | .shutdown => recordUnit (Action.shutdownOutput i)
  | .close => recordUnit (Action.closeConnection i)
  | .drop => do
    modify fun s => { s with accepted := s.accepted.map fun y => if y = some i then none else y }
    recordUnit (Action.dropConnection i)
  | .show => do
    let address ← act (Action.connectionAddress i)
    let mode := ((← get).station.network.file? x.descriptor.number).map File.blocking
    return Json.ofMembers [("display", .string (x.render address.toOption)),
      ("debug", .string x.describe),
      ("open", .bool x.isOpen), ("blocking", .bool x.blocking),
      ("fd_blocking", Record.optional .bool mode), ("remote", .string x.remote.render),
      ("local", Record.result (fun (e : Endpoint) => .string e.render) address),
      ("flush", Record.done)]

def start (p : Point) (touch interrupted : Bool) : Running Json := do
  let t ← onStation (Station.spawn p touch interrupted)
  modify fun s => { s with joined := s.joined ++ [false] }
  return Record.count t

def onThread (t : Nat) : ThreadCommand → Running Json
  | .finished => return .bool ((← get).station.isFinished t)
  | .interrupt => do
    onStation (Station.interruptThread t)
    return Record.done
  | .signal => recordUnit (do Action.demand (← Action.signalThread (Station.threadId t)))
  | .join => do
    match ← onStation (Station.join t) with
    | none => return .null
    | some (outcome, interrupted) =>
      modify fun s => { s with joined := s.joined.set t true }
      return Json.ofMembers [("result", ← recordOutcome outcome),
        ("interrupted", .bool interrupted)]

/-- A channel whose view or options can be asked for: the session holds it, or they
were asked for before. -/
def known (s : Session) (c : ListenerId) (before : Listener → Bool) : Option Listener :=
  (s.station.listeners[c]?).filter fun l => (s.listener? c).isSome || before l

def spawn (task : Task) (touch interrupted : Bool) : Running Json := do
  let s ← get
  match task with
  | .accept c =>
    if (s.listener? c).isSome then start (.accept c .channel) touch interrupted
      else return Record.refused "c"
  | .viewAccept c =>
    match s.known c fun l => l.timeout.isSome with
    | some _ =>
      let _ ← act (Action.openView c)
      start (.view c) touch interrupted
    | none => return Record.refused "c"
  | .bind c address backlog =>
    if (s.listener? c).isSome then
      withAddress address fun e => start (.bind c e backlog) touch interrupted
    else return Record.refused "c"
  | .select x ms =>
    if (s.selector? x).isSome then start (.select x ms) touch interrupted
      else return Record.refused "s"

/-- The command makes the main thread bind or accept. -/
def bindsOrAccepts : Command → Bool
  | .listener _ (.bind _ _) | .listener _ .accept | .view _ (.bind _ _) | .view _ .accept => true
  | _ => false

/-- Runs a command that the main thread is free to run; there is no answer if a socket to adopt
cannot be made. -/
def performFreely : Command → Running (Option Json)
  | .setPolicy policy => do
    setProvider fun p => { p with policy }
    return some Record.done
  | .setInvalid invalid => do
    setProvider fun p => { p with invalid }
    return some (.string invalid.describe)
  | .setLogging logging => do
    setProvider fun p => { p with logging }
    return some (.string (← get).station.provider.describe)
  | .openListener => do
    match ← act Action.openListener with
    | .ok c => return some (← opened c)
    | .error f => return some (Record.failure f)
  | .adopt kind => adopt kind
  | .openSelector => return some (← record Record.count Action.openSelector)
  | .listener c command => do
    match (← get).listener? c with
    | some l => return some (← onListener c l command)
    | none => return some (Record.refused "c")
  | .view c command => do
    match (← get).known c fun l => l.timeout.isSome with
    | some l =>
      let _ ← act (Action.openView c)
      let held := ((← get).listener? c).isSome
      return some (← onView c { l with timeout := some (l.timeout.getD 0) } held command)
    | none => return some (Record.refused "c")
  | .options c command => do
    let users := (← get).optionUsers
    match (← get).known c fun _ => users.contains c with
    | some _ =>
      modify fun s => { s with optionUsers := c :: s.optionUsers }
      return some (← onOptions c command)
    | none => return some (Record.refused "c")
  | .selector s command => do
    match (← get).selector? s with
    | some x => return some (← onSelector s x command)
    | none => return some (Record.refused "s")
  | .key k command => do
    let s ← get
    match if s.returned.contains k then s.station.key? k else none with
    | some key => return some (← onKey k key command)
    | none => return some (Record.refused "k")
  | .client x command => do
    match (← get).clients[x]?, command with
    | some (some number), command => return some (← onClient number command)
    | some none, .close => return some (.bool false)
    | _, _ => return some (Record.refused "x")
  | .connection sc command => do
    let s ← get
    match (s.accepted[sc]?).join with
    | none => return some (Record.refused "sc")
    | some i =>
      match s.station.connections[i]? with
      | some x => return some (← onConnection i x command)
      | none => return some (Record.refused "sc")
  | .spawn task touch interrupted => return some (← spawn task touch interrupted)
  | .thread t command => do
    if (← get).joined.getD t true then return some (Record.refused "t")
    else return some (← onThread t command)
  | .interruptSelf => do
    onStation Station.interruptMain
    return some Record.done
  | .takeFlag => return some (.bool (← onStation Station.takeMainFlag))
  | .malformed reason => return some (Record.refused reason)

/-- Runs a command; there is no answer if a socket to adopt cannot be made. -/
def perform (command : Command) : Running (Option Json) := do
  if bindsOrAccepts command && !(← get).isFree then return some (.string "busy")
  else performFreely command

end PolledChannels.Session
