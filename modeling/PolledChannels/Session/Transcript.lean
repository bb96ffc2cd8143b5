import PolledChannels.Session.Perform

/-!
# Transcripts of sessions

A transcript has an entry for every command: its answer, the events since the last entry, and the
state of everything that can be named. While a thread was started and not joined an entry has only
the answer, and the events wait.

What the machine picks is hidden: ports have names, and numbers of descriptors
and threads are left out.
-/

namespace PolledChannels.Session

def word (b : Bool) (yes no : String) : String := if b then yes else no

def sightingText (x : Sighting) : String :=
  " ".intercalate [word x.isOpen "open" "closed", word x.bound "bound" "unbound",
    word x.registered "registered" "unregistered", x.lifecycle.describe]

/-- The descriptor of the channel that an event names: a listening channel, or a connection
that was handed out. -/
def ownNumber (s : Session) (channel : UInt64) : Option FileNumber :=
  let listeners := s.station.listeners.map fun l => (l.id.toUInt64, l.descriptor.number)
  let kept := s.accepted.filterMap fun i => i.bind fun i => s.station.connections[i]?
  (listeners ++ kept.map fun x => (x.id.toUInt64, x.descriptor.number)).lookup channel

/-- An event, with its descriptor shown as the channel's own or another one. What a close found out
about a waiting thread depends on timing and is left out. -/
def report (s : Session) (r : Report) : Json :=
  let own := (s.ownNumber r.event.channel).map Int32.ofInt
  let event := if r.event.kind = .closed then { r.event with detail := none } else r.event
  let members := event.members.map fun p =>
    if p.1 = "fd" then (p.1, .string (word (own == r.event.fd) "self" "other")) else p
  Json.ofMembers
    (members ++ [("seen", Record.optional (fun x => .string (sightingText x)) r.sighting)])

def listenerText (l : Listener) : String :=
  " ".intercalate [word l.core.isOpen "open" "closed",
    (l.localAddress.map Endpoint.render).getD "unbound",
    word l.core.blocking "blocking" "nonblocking",
    word l.core.registered "registered" "unregistered", l.lifecycle.describe, l.render]

def selectorState (s : Session) (x : Selector) : Json :=
  let sorted (ks : List KeyId) : Json := .array (ks.mergeSort.map Record.count)
  let masks :=
    (x.registered.filter fun p => s.returned.contains p.1).mergeSort fun a b => a.1 ≤ b.1
  Json.ofMembers [("open", .bool x.isOpen), ("keys", sorted x.keys),
    ("selected", sorted x.selected),
    ("events", .array (masks.map fun p => .array [Record.count p.1, Record.mask p.2]))]

/-- A list that is left out if it is empty. -/
def present (name : String) (items : List Json) : Members :=
  if items.isEmpty then [] else [(name, .array items)]

def state (s : Session) : Json :=
  let st := s.station
  let keys := s.returned.mergeSort.filterMap fun k =>
    (st.key? k).map fun key => Record.key k key (st.listenerAlive key.channel)
      (st.selectorAlive key.selector)
  let channels := (List.range st.listeners.length).map fun c =>
    Record.optional (fun l => .string (listenerText l)) (s.listener? c)
  let selectors :=
    (List.range st.selectors.length).map fun x => Record.optional s.selectorState (s.selector? x)
  Json.ofMembers
    (present "channels" channels ++ present "keys" keys ++ present "selectors" selectors)

/-- The name of a number that is written with these digits. -/
def portName? (ports : List (Nat × String)) (digits : List Char) : Option String :=
  (ports.find? fun p => Text.decimalDigits p.1 == digits).map Prod.snd

/-- Names the ports that follow a colon or a space. `digits` holds the digits
since then, last first. -/
def namePorts (ports : List (Nat × String)) : Option (List Char) → List Char → List Char
  | digits, [] => settle digits
  | some digits, c :: cs =>
    if c.isDigit then namePorts ports (some (c :: digits)) cs
    else settle (some digits) ++ c :: namePorts ports (start c) cs
  | none, c :: cs => c :: namePorts ports (start c) cs
where
  /-- Digits count after a colon or a space. -/
  start (c : Char) : Option (List Char) := if c = ':' ∨ c = ' ' then some [] else none
  settle : Option (List Char) → List Char
    | none => []
    | some digits =>
      match portName? ports digits.reverse with
      | some name => name.toList
      | none => digits.reverse

/-- The text behind a mark, if it starts with it. -/
def behind? : List Char → List Char → Option (List Char)
  | [], cs => some cs
  | m :: ms, c :: cs => if m = c then behind? ms cs else none
  | _ :: _, [] => none

/-- Hides the digits behind a mark. -/
def hideDigits (mark : List Char) : Nat → List Char → List Char
  | 0, cs => cs
  | _ + 1, [] => []
  | fuel + 1, c :: cs =>
    match behind? mark (c :: cs) with
    | some (d :: rest) =>
      if d.isDigit then mark ++ '#' :: hideDigits mark fuel (rest.dropWhile Char.isDigit)
      else c :: hideDigits mark fuel cs
    | _ => c :: hideDigits mark fuel cs

def renameText (ports : List (Nat × String)) (text : String) : String :=
  let cs := namePorts ports none text.toList
  let cs := hideDigits "fd: ".toList cs.length cs
  String.ofList (hideDigits "ThreadId(".toList cs.length cs)

mutual

/-- A record with the ports in its texts named and numbers hidden. -/
def rename (ports : List (Nat × String)) : Json → Json
  | .string s => .string (renameText ports s)
  | .array xs => .array (renameItems ports xs)
  | .object members => .object (renameMembers ports members)
  | .null => .null
  | .bool b => .bool b
  | .int n => .int n
  | .float bits => .float bits

def renameItems (ports : List (Nat × String)) : List Json → List Json
  | [] => []
  | x :: xs => rename ports x :: renameItems ports xs

def renameMembers (ports : List (Nat × String)) : Members → Members
  | [] => []
  | (k, x) :: xs => (k, rename ports x) :: renameMembers ports xs

end

def entry (command : Command) : Running (Option Json) := do
  match ← perform command with
  | none => return none
  | some r =>
    onStation Station.settle
    let s ← get
    if s.isFree then
      set { s with station := { s.station with reports := [] } }
      return some (rename s.ports
        (Json.ofMembers [("r", r), ("events", .array (s.station.reports.map s.report)),
        ("state", s.state)]))
    else return some (rename s.ports (Json.ofMembers [("r", r)]))

def entries : List Command → Running (Option (List Json))
  | [] => return some []
  | command :: rest => do
    match ← entry command with
    | none => return none
    | some e => return (← entries rest).map (e :: ·)

/-- The transcript of a session on a machine: a new provider that keeps events,
and then the commands. -/
def transcript (host : Host) (commands : List Command) : Option (List Json) :=
  ((entries commands).run { station := { network := { host }, provider := { logging := true } } }).1

end PolledChannels.Session
