/-!
# Numerals

Fixed ways of writing a natural number: padded decimal, lower-case hexadecimal, and the digits of a
decimal text read back.
-/

namespace PolledChannels.Text

/-- The decimal digits of `n`, most significant first. -/
def decimalDigits (n : Nat) : List Char :=
  Nat.toDigits 10 n

/-- `n` in decimal, filled with zeros on the left to at least `width` digits. -/
def padded (width n : Nat) : String :=
  let digits := decimalDigits n
  String.ofList (List.replicate (width - digits.length) '0' ++ digits)

def hexadecimal (n : Nat) : String :=
  String.ofList (Nat.toDigits 16 n)

/-- The value of an ASCII decimal digit. -/
def digitValue? (c : Char) : Option Nat :=
  if '0' ≤ c ∧ c ≤ '9' then some (c.toNat - '0'.toNat) else none

/-- The value of an ASCII hexadecimal digit of either case. -/
def hexValue? (c : Char) : Option Nat :=
  if '0' ≤ c ∧ c ≤ '9' then some (c.toNat - '0'.toNat)
  else if 'a' ≤ c ∧ c ≤ 'f' then some (c.toNat - 'a'.toNat + 10)
  else if 'A' ≤ c ∧ c ≤ 'F' then some (c.toNat - 'A'.toNat + 10)
  else none

/-- The number written by a list of decimal digits, continuing from `start`. -/
def decimalValue (start : Nat) : List Char → Nat
  | [] => start
  | c :: cs => decimalValue (start * 10 + (c.toNat - '0'.toNat)) cs

end PolledChannels.Text
