import PolledChannels.Address.Basic
import PolledChannels.Text.Numeral

/-!
# The text of addresses

Writing: an IPv4 address as four decimal octets; an IPv6 address as groups of hexadecimal digits,
where the longest run of two or more zero groups (the first of equals) is left out, and a mapped
IPv4 address keeps its dotted form; an endpoint as address and port, an IPv6 address standing in
brackets with its scope when that is not zero.

Reading accepts every such text and a little more: groups of up to four digits of either case, one
gap anywhere, an embedded dotted tail, and ports and scopes with leading zeros. An octet has no
leading zero. A text is read only as a whole.
-/

namespace PolledChannels

namespace Ipv4

def render (ip : Ipv4) : String :=
  s!"{ip.a.toNat}.{ip.b.toNat}.{ip.c.toNat}.{ip.d.toNat}"

end Ipv4

namespace Ipv6

/-- The run of zero groups that starts at `start` and has length `length`. -/
structure ZeroRun where
  start : Nat
  length : Nat
  deriving DecidableEq, Repr

/-- The longest run of zeros, the first of equals. `current` is the run that ends before the head
of the list, which stands at position `position`. -/
def longestZeroRun (longest current : ZeroRun) (position : Nat) : List UInt16 → ZeroRun
  | [] => longest
  | g :: gs =>
    if g = 0 then
      let start := if current.length = 0 then position else current.start
      let run := ⟨start, current.length + 1⟩
      longestZeroRun (if run.length > longest.length then run else longest) run (position + 1) gs
    else
      longestZeroRun longest ⟨0, 0⟩ (position + 1) gs

def renderGroups (gs : List UInt16) : String :=
  ":".intercalate (gs.map fun g => Text.hexadecimal g.toNat)

def render (ip : Ipv6) : String :=
  match ip.mapped? with
  | some v4 => "::ffff:" ++ v4.render
  | none =>
    let gs := ip.groups.toList
    let run := longestZeroRun ⟨0, 0⟩ ⟨0, 0⟩ 0 gs
    if run.length > 1 then
      renderGroups (gs.take run.start) ++ "::" ++ renderGroups (gs.drop (run.start + run.length))
    else
      renderGroups gs

end Ipv6

namespace Ip

def render : Ip → String
  | v4 ip => ip.render
  | v6 ip => ip.render

end Ip

namespace Endpoint

def render : Endpoint → String
  | v4 ip port => s!"{ip.render}:{port.toNat}"
  | v6 ip port _ scope =>
    if scope = 0 then s!"[{ip.render}]:{port.toNat}"
    else s!"[{ip.render}%{scope.toNat}]:{port.toNat}"

end Endpoint

namespace Address

/-- A reader takes a value off the front of a text, or fails. -/
abbrev Reader (α : Type) := List Char → Option (α × List Char)

def character (c : Char) : Reader Unit
  | d :: cs => if c = d then some ((), cs) else none
  | [] => none

/-- The number that a list of digits writes in a radix. -/
def digitsValue (value? : Char → Option Nat) (radix : Nat) (digits : List Char) : Nat :=
  digits.foldl (fun n c => n * radix + (value? c).getD 0) 0

/-- Takes the longest run of digits and reads it as a number below `bound`. The run has at least
one digit and, where `most` is given, at most that many; a leading zero is taken where `zeros`
allows it or the run is the zero itself. -/
def number (value? : Char → Option Nat) (radix : Nat) (most : Option Nat) (zeros : Bool)
    (bound : Nat) : Reader Nat := fun cs =>
  let digits := cs.takeWhile fun c => (value? c).isSome
  let n := digitsValue value? radix digits
  if digits.isEmpty || most.any (· < digits.length) then none
  else if !zeros && digits.head? == some '0' && 1 < digits.length then none
  else if n < bound then some (n, cs.dropWhile fun c => (value? c).isSome)
  else none

/-- An octet: at most three digits and no leading zero. -/
def octet : Reader UInt8 := fun cs => do
  let (n, cs) ← number Text.digitValue? 10 (some 3) false 256 cs
  return (n.toUInt8, cs)

def group : Reader UInt16 := fun cs => do
  let (n, cs) ← number Text.hexValue? 16 (some 4) true 65536 cs
  return (n.toUInt16, cs)

/-- A decimal number below `bound`, leading zeros allowed. -/
def decimal (bound : Nat) : Reader Nat :=
  number Text.digitValue? 10 none true bound

def ipv4 : Reader Ipv4 := fun cs => do
  let (a, cs) ← octet cs
  let (_, cs) ← character '.' cs
  let (b, cs) ← octet cs
  let (_, cs) ← character '.' cs
  let (c, cs) ← octet cs
  let (_, cs) ← character '.' cs
  let (d, cs) ← octet cs
  return (⟨a, b, c, d⟩, cs)

/-- Takes the colon before every group but the first. -/
def divider (first : Bool) : Reader Unit := fun cs =>
  if first then some ((), cs) else character ':' cs

/-- Takes groups divided by colons, at most `room` of them. Where two or more groups are left, a
dotted tail may stand for the last two. The answer is the groups, whether the last two were
dotted, and the rest. -/
def groupRun (first : Bool) : Nat → List Char → List UInt16 × Bool × List Char
  | 0, cs => ([], false, cs)
  | room + 1, cs =>
    match (if 0 < room then (divider first cs).bind fun r => ipv4 r.2 else none) with
    | some (ip, rest) => ([Ipv6.joinBytes ip.a ip.b, Ipv6.joinBytes ip.c ip.d], true, rest)
    | none =>
      match (divider first cs).bind fun r => group r.2 with
      | some (g, rest) =>
        let (gs, dotted, rest) := groupRun false room rest
        (g :: gs, dotted, rest)
      | none => ([], false, cs)

def ofGroupList? (gs : List UInt16) : Option Ipv6 :=
  if h : gs.length = 8 then some ⟨⟨gs.toArray, by simpa using h⟩⟩ else none

/-- Eight groups, or fewer around one gap that stands for at least one group of zeros. -/
def ipv6 : Reader Ipv6 := fun cs =>
  let (head, dotted, rest) := groupRun true 8 cs
  if head.length = 8 then
    (ofGroupList? head).map fun ip => (ip, rest)
  else if dotted then
    none
  else do
    let (_, rest) ← character ':' rest
    let (_, rest) ← character ':' rest
    let (tail, _, rest) := groupRun true (7 - head.length) rest
    let zeros := List.replicate (8 - head.length - tail.length) 0
    let ip ← ofGroupList? (head ++ zeros ++ tail)
    return (ip, rest)

def port : Reader UInt16 := fun cs => do
  let (_, cs) ← character ':' cs
  let (n, cs) ← decimal 65536 cs
  return (n.toUInt16, cs)

def scope : Reader UInt32 := fun cs => do
  let (_, cs) ← character '%' cs
  let (n, cs) ← decimal 4294967296 cs
  return (n.toUInt32, cs)

def endpointV4 : Reader Endpoint := fun cs => do
  let (ip, cs) ← ipv4 cs
  let (p, cs) ← port cs
  return (.v4 ip p, cs)

def endpointV6 : Reader Endpoint := fun cs => do
  let (_, cs) ← character '[' cs
  let (ip, cs) ← ipv6 cs
  let (s, cs) := (scope cs).getD (0, cs)
  let (_, cs) ← character ']' cs
  let (p, cs) ← port cs
  return (.v6 ip p 0 s, cs)

def whole {α : Type} (reader : Reader α) (s : String) : Option α :=
  match reader s.toList with
  | some (a, []) => some a
  | _ => none

end Address

def Endpoint.parse? (s : String) : Option Endpoint :=
  Address.whole (fun cs => Address.endpointV4 cs <|> Address.endpointV6 cs) s

def Ip.parse? (s : String) : Option Ip :=
  Address.whole
    (fun cs =>
      ((Address.ipv4 cs).map fun r => (Ip.v4 r.1, r.2)) <|>
        ((Address.ipv6 cs).map fun r => (Ip.v6 r.1, r.2))) s

end PolledChannels
