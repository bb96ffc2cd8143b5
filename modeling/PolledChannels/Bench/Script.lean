import PolledChannels.Bench.Channel
import PolledChannels.Record

/-!
# Scripts for the recording channel

A script is a list of commands; each adds an entry with its outcome, the state of the
channel, the keys that were returned and the calls written down since the last entry. A
region brackets commands of its own.
-/

namespace PolledChannels.Bench

inductive Command where
  | addSelector
  | setSelector (s : SelectorId) (isOpen refuses : Bool)
  | dropSelector (s : SelectorId)
  | dropChannel
  | configureBlocking (block fails : Bool)
  | register (s : SelectorId) (ops : Mask) (supported : Option Mask)
  | keyFor (s : SelectorId)
  | belongsTo (k : KeyId) (s : SelectorId)
  | setInterest (k : KeyId) (ops : Mask)
  | setReady (k : KeyId) (ops : Mask)
  | putEvents (k : KeyId) (events : Mask)
  | cancel (k : KeyId)
  | removeKey (k : KeyId)
  | deregister (k : KeyId) (fails : Bool)
  | close (fails : Bool)
  | closeOnInterrupt (other : Bool)
  | interrupt
  | takeFlag
  | isInterrupted
  | describe (k : KeyId)
  /-- A region around commands; `completed` says how it ends. -/
  | region (completed : Bool) (inner : List Command)
  | malformed (reason : String)
  deriving Inhabited

def Call.record : Call → Json
  | .register s k => .array [.string "register", Record.count s, Record.count k]
  | .put s k m => .array [.string "put", Record.count s, Record.count k, Record.mask m]
  | .cancel s k => .array [.string "cancel", Record.count s, Record.count k]
  | .apply block => .array [.string "apply", .bool block]
  | .kill => .array [.string "kill"]
  | .closed => .array [.string "close_impl"]
  | .interrupt own => .array [.string "interrupt", .bool own]

def takeCalls : StateM Channel Json := do
  let b ← get
  set { b with calls := [] }
  return .array (b.calls.map Call.record)

def entry (r : Json) : StateM Channel Json := do
  let calls ← takeCalls
  let b ← get
  let channel :=
    if b.held then
      Json.ofMembers [("open", .bool b.core.isOpen), ("blocking", .bool b.core.blocking),
        ("registered", .bool b.core.registered)]
    else .null
  let keys := b.returned.mergeSort.filterMap fun k =>
    (b.key? k).map fun key => Record.key k key b.alive (b.selectorAlive key.selector)
  return Json.ofMembers [("r", r), ("channel", channel), ("keys", .array keys), ("log", calls)]

def outcome {α : Type} (f : α → Json) (a : Action α) : StateM Channel Json :=
  return Record.result f (← a.run)

/-- Goes on only if the script still holds the channel. -/
def withChannel (work : StateM Channel Json) : StateM Channel Json := do
  if (← get).held then work else return Record.refused "channel"

/-- Goes on only if the selector is still there. -/
def withSelector (s : SelectorId) (work : StateM Channel Json) : StateM Channel Json := do
  if (← get).selectorAlive s then work else return Record.refused "s"

/-- Goes on only with a key that was returned. -/
def withKey (k : KeyId) (work : Key → StateM Channel Json) : StateM Channel Json := do
  let b ← get
  match if b.returned.contains k then b.key? k else none with
  | some key => work key
  | none => return Record.refused "k"

def change (f : Channel → Channel) : StateM Channel Json := do
  modify f
  return Record.done

def performSimple : Command → StateM Channel Json
  | .addSelector => do
    let r := (← get).addSelector
    set r.1
    return Record.count r.2
  | .setSelector s isOpen refuses => withSelector s (change fun b => b.setSelector s isOpen refuses)
  | .dropSelector s => withSelector s (change fun b => b.dropSelector s)
  | .dropChannel => withChannel (change Channel.drop)
  | .configureBlocking block fails =>
    withChannel (outcome Record.unit (configureBlocking block fails))
  | .register s ops supported => withChannel (withSelector s do
      outcome Record.count (registerReturning s ops (supported.getD (← get).supported)))
  | .keyFor s =>
    withChannel (withSelector s do return Record.optional Record.count ((← get).keyFor s))
  | .belongsTo k s => withKey k fun key => withSelector s (return .bool (key.selector == s))
  | .setInterest k ops => withKey k fun _ => outcome Record.unit (setInterest k ops)
  | .setReady k ops => withKey k fun _ => change fun b => b.setReady k ops
  | .putEvents k events => withKey k fun _ => outcome Record.unit (putEvents k events)
  | .cancel k => withKey k fun _ => outcome Record.unit (cancelKey k)
  | .removeKey k => withChannel (withKey k fun _ => outcome .bool (removeKey k))
  | .deregister k fails => withChannel (withKey k fun _ => outcome Record.unit (deregister k fails))
  | .close fails => withChannel (outcome Record.unit (close fails))
  | .closeOnInterrupt other =>
    withChannel (outcome Record.unit (closeOnInterrupt (if other then stranger else me)))
  | .interrupt => outcome Record.unit interrupt
  | .takeFlag => outcome .bool takeFlag
  | .isInterrupted => return .bool ((← get).interrupts.isInterrupted me)
  | .describe k => withKey k fun key => return .string (key.describe k)
  | .region _ _ => return .null
  | .malformed reason => return Record.refused reason

mutual

def perform : Command → StateM Channel (List Json)
  | .region completed inner => do
    if (← get).held then
      let _ ← enter.run
      let start := Json.ofMembers [("r", .string "begin"), ("log", ← takeCalls)]
      let entries ← performAll inner
      let last ← entry (← outcome Record.unit (leave completed))
      return start :: entries ++ [last]
    else return [← entry (Record.refused "channel")]
  | command => do return [← entry (← performSimple command)]

def performAll : List Command → StateM Channel (List Json)
  | [] => return []
  | command :: rest => do
    let entries ← perform command
    return entries ++ (← performAll rest)

end

end PolledChannels.Bench
