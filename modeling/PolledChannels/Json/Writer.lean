import PolledChannels.Decimal.Shortest
import PolledChannels.Json.Basic
import PolledChannels.Text.Numeral

/-!
# Writing JSON

`Json.render` writes a value without blanks; `Json.renderIndented` puts every item and member on a
line of its own, two blanks deeper for each level.

In a string the quote, the backslash and the control characters below the blank are escaped, five of
them by a letter; everything else stands as it is. A double is written with its shortest digits,
positionally where its leading digit has an exponent from -5 to 15, and scientifically otherwise.
-/

namespace PolledChannels.Json

/-- A character as it stands in a string. -/
def escapedChar (c : Char) : List Char :=
  if c = '"' then ['\\', '"']
  else if c = '\\' then ['\\', '\\']
  else if c = '\n' then ['\\', 'n']
  else if c = '\r' then ['\\', 'r']
  else if c = '\t' then ['\\', 't']
  else if c.toNat = 8 then ['\\', 'b']
  else if c.toNat = 12 then ['\\', 'f']
  else if c.toNat < 32 then
    ['\\', 'u', '0', '0', Nat.digitChar (c.toNat / 16), Nat.digitChar (c.toNat % 16)]
  else [c]

def renderString (s : String) : List Char :=
  '"' :: s.toList.flatMap escapedChar ++ ['"']

def renderInt (n : Int) : List Char :=
  if n < 0 then '-' :: Nat.toDigits 10 n.natAbs else Nat.toDigits 10 n.natAbs

/-- The magnitude of a double in the notation that its size asks for. -/
def renderMagnitude (bits : UInt64) : String :=
  match Binary.ofBits? bits with
  | none => "0.0"
  | some x =>
    let d := x.shortest
    if -5 ≤ d.magnitude ∧ d.magnitude ≤ 15 then d.positional else d.scientific

def renderFloat (bits : UInt64) : String :=
  if bits.toNat < UInt64.size / 2 then renderMagnitude bits else "-" ++ renderMagnitude bits

mutual

def render : Json → List Char
  | null => ['n', 'u', 'l', 'l']
  | bool true => ['t', 'r', 'u', 'e']
  | bool false => ['f', 'a', 'l', 's', 'e']
  | int n => renderInt n
  | float bits => (renderFloat bits).toList
  | string s => renderString s
  | array items => '[' :: renderItems true items ++ [']']
  | object members => '\x7b' :: renderMembers true members ++ ['\x7d']

/-- Items with commas between them; `first` says that none stands before. -/
def renderItems (first : Bool) : List Json → List Char
  | [] => []
  | v :: vs => (if first then [] else [',']) ++ render v ++ renderItems false vs

/-- Members with commas between them; `first` says that none stands before. -/
def renderMembers (first : Bool) : Members → List Char
  | [] => []
  | (k, v) :: ms =>
    (if first then [] else [',']) ++ renderString k ++ ':' :: render v ++ renderMembers false ms

end

def newLine (depth : Nat) : List Char :=
  '\n' :: List.replicate (2 * depth) ' '

mutual

/-- A value at a depth, with items and members on lines of their own. -/
def renderIndented (depth : Nat) : Json → List Char
  | array [] => ['[', ']']
  | object [] => ['\x7b', '\x7d']
  | array (v :: vs) =>
    '[' :: newLine (depth + 1) ++ renderIndented (depth + 1) v ++ moreItems depth vs
  | object ((k, v) :: ms) =>
    '\x7b' :: newLine (depth + 1) ++ renderString k ++ ':' :: ' ' :: renderIndented (depth + 1) v ++
      moreMembers depth ms
  | v => render v

/-- The items after the first, and the closing bracket. -/
def moreItems (depth : Nat) : List Json → List Char
  | [] => newLine depth ++ [']']
  | v :: vs => ',' :: newLine (depth + 1) ++ renderIndented (depth + 1) v ++ moreItems depth vs

/-- The members after the first, and the closing brace. -/
def moreMembers (depth : Nat) : Members → List Char
  | [] => newLine depth ++ ['\x7d']
  | (k, v) :: ms =>
    ',' :: newLine (depth + 1) ++ renderString k ++ ':' :: ' ' :: renderIndented (depth + 1) v ++
      moreMembers depth ms

end

def toText (v : Json) : String := String.ofList v.render

def toIndentedText (v : Json) : String := String.ofList (renderIndented 0 v)

end PolledChannels.Json
