/-!
# The shortest decimal of a binary fraction

A finite double is `m * 2 ^ q`. The reals that round to it form an interval, whose ends belong to
it exactly when `m` is even. Of the decimals in that interval `shortest` takes one with the fewest
digits, and of those the one nearest to the value.

It looks at the multiples of `10 ^ k` for falling `k`. If any multiple lies in the interval, one of
the two neighbours of the value does, so two tests for each `k` are enough.
-/

namespace PolledChannels

/-- The number `digits * 10 ^ exponent`. -/
structure Decimal where
  digits : Nat
  exponent : Int
  deriving DecidableEq, Repr

/-- A finite binary fraction other than zero: `mantissa * 2 ^ exponent`, and whether it is the least
of its binade, so that its lower neighbour is only half as far away. -/
structure Binary where
  mantissa : Nat
  exponent : Int
  least : Bool
  deriving DecidableEq, Repr

namespace Binary

/-- The magnitude of a double, by its bits, if it is finite and not zero. -/
def ofBits? (bits : UInt64) : Option Binary :=
  let fraction : Nat := bits.toNat % Nat.pow 2 52
  let biased : Nat := bits.toNat / Nat.pow 2 52 % Nat.pow 2 11
  if biased = 2047 then none
  else if biased = 0 then
    if fraction = 0 then none else some ⟨fraction, -1074, false⟩
  else
    some ⟨Nat.pow 2 52 + fraction, (biased : Int) - 1075, fraction == 0 && 1 < biased⟩

/-- The multiple of `10 ^ k` nearest to the value among those that round to it, if there is
one. All quantities are scaled by four times the denominators of `2 ^ exponent` and `10 ^ k`. -/
def multiple? (x : Binary) (k : Int) : Option Nat :=
  let q := x.exponent - 2
  let scale := Nat.pow 2 q.toNat * Nat.pow 10 (-k).toNat
  let unit := Nat.pow 2 (-q).toNat * Nat.pow 10 k.toNat
  let value := 4 * x.mantissa * scale
  let low := (4 * x.mantissa - (if x.least then 1 else 2)) * scale
  let high := (4 * x.mantissa + 2) * scale
  let inside (n : Nat) : Bool :=
    if x.mantissa % 2 = 0 then low ≤ n * unit && n * unit ≤ high
    else low < n * unit && n * unit < high
  let below := value / unit
  let above := below + 1
  let nearer := value - below * unit < above * unit - value ||
    (value - below * unit == above * unit - value && below % 2 == 0)
  if inside below && (nearer || !inside above) then some below
  else if inside above then some above
  else none

/-- The first multiple found for falling powers of ten. -/
def search (x : Binary) : Nat → Int → Decimal
  | 0, k => ⟨x.mantissa, k⟩
  | fuel + 1, k =>
    match x.multiple? k with
    | some n => ⟨n, k⟩
    | none => search x fuel (k - 1)

/-- The shortest decimal that reads back as the value. Every double lies below `10 ^ 309`, and
every double is a multiple of `10 ^ -1074`. -/
def shortest (x : Binary) : Decimal :=
  search x 1400 309

end Binary

namespace Decimal

def text (d : Decimal) : String := toString d.digits

def magnitude (d : Decimal) : Int :=
  (d.text.length : Int) - 1 + d.exponent

/-- Positional notation, with a digit on both sides of the point. -/
def positional (d : Decimal) : String :=
  let digits := d.text
  let zeros (n : Nat) : String := String.ofList (List.replicate n '0')
  if 0 ≤ d.exponent then
    digits ++ zeros d.exponent.toNat ++ ".0"
  else if 0 ≤ d.magnitude then
    let whole := d.magnitude.toNat + 1
    String.ofList (digits.toList.take whole) ++ "." ++ String.ofList (digits.toList.drop whole)
  else
    "0." ++ zeros (-d.magnitude - 1).toNat ++ digits

def scientific (d : Decimal) : String :=
  let mantissa := match d.text.toList with
    | [c] => String.ofList [c]
    | c :: cs => String.ofList (c :: '.' :: cs)
    | [] => ""
  let sign := if d.magnitude < 0 then "-" else "+"
  mantissa ++ "e" ++ sign ++ toString d.magnitude.natAbs

end Decimal
end PolledChannels
