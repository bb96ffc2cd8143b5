import PolledChannels.Failure.Basic

/-!
# Socket options

Six integer options with typed setters. The setters check ranges before they
write: a buffer size is positive, a type of service lies between 0 and 255, and a
flag is written as 0 or 1. 
`OptionStore` keeps options in a finite map, with a list of options that may not be written. What a
setter leaves behind is part of its answer, also where it fails.
-/

namespace PolledChannels

inductive SocketOption where
  | reuseAddress
  | receiveBufferSize
  | sendBufferSize
  | keepAlive
  | noDelay
  | typeOfService
  deriving DecidableEq, Repr

/-- What typed setters take and typed getters give. -/
inductive OptionValue where
  | flag (on : Bool)
  | number (n : Int)
  deriving DecidableEq, Repr

namespace SocketOption

def all : List SocketOption :=
  [reuseAddress, receiveBufferSize, sendBufferSize, keepAlive, noDelay, typeOfService]

def levelAndNumber : SocketOption → Nat × Nat
  | reuseAddress => (1, 2)
  | receiveBufferSize => (1, 8)
  | sendBufferSize => (1, 7)
  | keepAlive => (1, 9)
  | noDelay => (6, 1)
  | typeOfService => (0, 1)

def name : SocketOption → String
  | reuseAddress => "reuseAddress"
  | receiveBufferSize => "receiveBufferSize"
  | sendBufferSize => "sendBufferSize"
  | keepAlive => "keepAlive"
  | noDelay => "noDelay"
  | typeOfService => "typeOfService"

def isFlag : SocketOption → Bool
  | reuseAddress | keepAlive | noDelay => true
  | _ => false

def isSize : SocketOption → Bool
  | receiveBufferSize | sendBufferSize => true
  | _ => false

def ofName? (s : String) : Option SocketOption :=
  all.find? fun o => o.name == s

def flagWord (on : Bool) : Int := if on then 1 else 0

/-- The word to write for a value given to the typed setter, or why the value is refused. -/
def checked (o : SocketOption) (value : Int) : Except IoError Int :=
  if o.isFlag then .ok (flagWord (value != 0))
  else if o.isSize then
    if value ≤ 0 then .error (.custom .invalidInput s!"{o.name} must be positive, got {value}")
    else .ok value
  else if 0 ≤ value && value ≤ 255 then .ok value
  else .error (.custom .invalidInput s!"typeOfService out of range: {value}")

/-- The value of a word that was read. -/
def typed (o : SocketOption) (word : Int) : OptionValue :=
  if o.isFlag then .flag (word != 0) else .number word

def shown (o : SocketOption) (value : Int) : String :=
  if o.isFlag then s!"{o.name}={value != 0}" else s!"{o.name}={value}"

/-- The options that can be read, in order, with their values. -/
def listing (read : SocketOption → Except IoError Int) : String :=
  let items := all.filterMap fun o =>
    match read o with
    | .ok value => some (o.shown value)
    | .error _ => none
  "TcpOptions[" ++ " ".intercalate items ++ "]"

def describeAccess : String := "TcpOptions \x7b .. \x7d"

end SocketOption

/-- Options over a finite map. An option that was never written cannot be read. -/
structure OptionStore where
  values : List (SocketOption × Int) := []
  readOnly : List SocketOption := []
  deriving DecidableEq, Repr

namespace OptionStore

def get (s : OptionStore) (o : SocketOption) : Except IoError Int :=
  match s.values.lookup o with
  | some value => .ok value
  | none => .error (.os .noProtocolOption)

def getTyped (s : OptionStore) (o : SocketOption) : Except IoError OptionValue :=
  (s.get o).map o.typed

def set (s : OptionStore) (o : SocketOption) (value : Int) : OptionStore × IoResult :=
  if s.readOnly.contains o then (s, .error (.os .notPermitted))
  else ({ s with values := (o, value) :: s.values.filter fun p => p.1 != o }, .ok ())

def setTyped (s : OptionStore) (o : SocketOption) (value : Int) : OptionStore × IoResult :=
  match o.checked value with
  | .ok word => s.set o word
  | .error e => (s, .error e)

def render (s : OptionStore) : String :=
  SocketOption.listing s.get

end OptionStore
end PolledChannels
