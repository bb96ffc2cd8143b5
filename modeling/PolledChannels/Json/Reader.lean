import PolledChannels.Json.Basic
import PolledChannels.Text.Numeral

/-!
# Reading JSON

A text is read from the front; a fault says its cause and how many bytes of the text were
left when it was noticed, from which `Fault.place` gives the line and the column. Containers
may be nested 127 deep.

Integers that fit 64 bits stay integers. Every other number becomes a double: its first digits, as
many as fit 64 bits, are rounded to a double and multiplied or divided by a power of ten.
-/

namespace PolledChannels.Json

inductive Cause where
  | endOfValue
  | endOfList
  | endOfObject
  | endOfString
  | expectedValue
  | expectedWord
  | expectedColon
  | expectedCommaOrBracket
  | expectedCommaOrBrace
  | keyNotString
  | trailingComma
  | trailingCharacters
  | controlCharacter
  | invalidEscape
  | unfinishedPair
  | loneSurrogate
  | invalidNumber
  | numberOutOfRange
  | tooDeep
  deriving DecidableEq, Repr

/-- A cause and the number of bytes that were left. -/
structure Fault where
  cause : Cause
  left : Nat
  deriving DecidableEq, Repr

/-- A reader takes a value off the front of a text. -/
abbrev Reader (α : Type) := List Char → Except Fault (α × List Char)

def byteSize (cs : List Char) : Nat :=
  cs.foldl (fun n c => n + c.utf8Size) 0

/-- A fault noticed before the rest of the text. -/
def faultAt (cause : Cause) (rest : List Char) : Fault := ⟨cause, byteSize rest⟩

/-- A fault noticed at the next byte, or at the end if there is none. -/
def faultNext (cause : Cause) (rest : List Char) : Fault := ⟨cause, byteSize rest - 1⟩

def isBlank (c : Char) : Bool :=
  c == ' ' || c == '\n' || c == '\t' || c == '\r'

def skipBlanks (cs : List Char) : List Char := cs.dropWhile isBlank

def word (expected : List Char) : Reader Unit := fun cs =>
  match expected, cs with
  | [], cs => .ok ((), cs)
  | _ :: _, [] => .error (faultAt .endOfValue [])
  | e :: es, c :: rest =>
    if e = c then word es rest else .error (faultNext .expectedWord (c :: rest))

/-! ## Strings -/

/-- Four hexadecimal digits. Four bytes must be left. -/
def fourHex (cs : List Char) : Except Fault (Nat × List Char) :=
  if byteSize (cs.take 4) < 4 then .error ⟨.endOfString, 0⟩
  else
    match cs.take 4 |>.mapM Text.hexValue? with
    | some digits =>
      .ok (digits.foldl (fun n d => n * 16 + d) 0, cs.drop 4)
    | none => .error ⟨.invalidEscape, byteSize cs - 4⟩

/-- The second half of a surrogate pair, after the first half `high`. -/
def lowHalf (high : Nat) : Reader Char := fun cs =>
  match cs with
  | [] => .error (faultAt .endOfString [])
  | c :: rest =>
    if c ≠ '\\' then .error (faultNext .unfinishedPair cs)
    else
      match rest with
      | [] => .error (faultAt .endOfString [])
      | d :: rest' =>
        if d ≠ 'u' then .error (faultNext .unfinishedPair rest)
        else
          match fourHex rest' with
          | .error e => .error e
          | .ok (low, rest'') =>
            if 0xDC00 ≤ low ∧ low ≤ 0xDFFF then
              .ok (Char.ofNat ((high - 0xD800) * 1024 + (low - 0xDC00) + 0x10000), rest'')
            else .error (faultAt .loneSurrogate rest'')

/-- The character of a numbered escape, after its letter. -/
def numbered : Reader Char := fun cs =>
  match fourHex cs with
  | .error e => .error e
  | .ok (n, rest) =>
    if 0xDC00 ≤ n ∧ n ≤ 0xDFFF then .error (faultAt .loneSurrogate rest)
    else if 0xD800 ≤ n ∧ n ≤ 0xDBFF then lowHalf n rest
    else .ok (Char.ofNat n, rest)

/-- The character of an escape, after its backslash. -/
def escape : Reader Char := fun cs =>
  match cs with
  | [] => .error (faultAt .endOfString [])
  | c :: rest =>
    if c = '"' ∨ c = '\\' ∨ c = '/' then .ok (c, rest)
    else if c = 'b' then .ok (Char.ofNat 8, rest)
    else if c = 'f' then .ok (Char.ofNat 12, rest)
    else if c = 'n' then .ok ('\n', rest)
    else if c = 'r' then .ok ('\r', rest)
    else if c = 't' then .ok ('\t', rest)
    else if c = 'u' then numbered rest
    else .error (faultNext .invalidEscape cs)

/-- The rest of a string after its opening quote. `taken` holds the characters so far, last first;
`fuel` bounds the number of characters. -/
def stringRest : Nat → List Char → Reader String
  | 0, _, cs => .error (faultAt .endOfString cs)
  | fuel + 1, taken, cs =>
    match cs with
    | [] => .error (faultAt .endOfString [])
    | c :: rest =>
      if c = '"' then .ok (String.ofList taken.reverse, rest)
      else if c = '\\' then
        match escape rest with
        | .ok (e, rest') => stringRest fuel (e :: taken) rest'
        | .error e => .error e
      else if c.toNat < 32 then .error (faultNext .controlCharacter cs)
      else stringRest fuel (c :: taken) rest

/-- A string after its opening quote. -/
def stringBody : Reader String := fun cs => stringRest (cs.length + 1) [] cs

/-! ## Numbers -/

def maxSignificand : Nat := UInt64.size - 1

/-- Takes digits as long as the number fits 64 bits. -/
def significand (n : Nat) : List Char → Nat × List Char
  | [] => (n, [])
  | c :: cs =>
    match Text.digitValue? c with
    | some d => if n * 10 + d ≤ maxSignificand then significand (n * 10 + d) cs else (n, c :: cs)
    | none => (n, c :: cs)

def startsWithDigit (cs : List Char) : Bool :=
  cs.head?.any fun c => (Text.digitValue? c).isSome

def skipDigits (cs : List Char) : List Char :=
  cs.dropWhile fun c => (Text.digitValue? c).isSome

def startsExponent (cs : List Char) : Bool :=
  cs.head?.any fun c => c == 'e' || c == 'E'

/-- The number `x * 10 ^ exponent`, by one product or quotient, or by quotients of `10 ^ 308`
first. There is none where the product leaves the doubles. -/
def scale (x : Float) : Nat → Int → Option Float
  | 0, _ => some x
  | fuel + 1, exponent =>
    if exponent.natAbs ≤ 308 then
      if 0 ≤ exponent then
        let y := x * Float.ofScientific 1 false exponent.natAbs
        if y.isInf then none else some y
      else some (x / Float.ofScientific 1 false exponent.natAbs)
    else if x == 0.0 then some x
    else if 0 ≤ exponent then none
    else scale (x / Float.ofScientific 1 false 308) fuel (exponent + 308)

/-- The double with a significand and a power of ten. -/
def double (positive : Bool) (digits : Nat) (exponent : Int) (rest : List Char) :
    Except Fault (Json × List Char) :=
  match scale digits.toUInt64.toFloat (exponent.natAbs / 308 + 2) exponent with
  | some x => .ok (float (if positive then x else -x).toBits, rest)
  | none => .error (faultAt .numberOutOfRange rest)

def clampExponent (e : Int) : Int :=
  if e > 2147483647 then 2147483647 else if e < -2147483648 then -2147483648 else e

/-- The digits of an exponent. The answer is the exponent, or none where it does not fit 32
bits, and the rest. -/
def exponentDigits (n : Nat) : List Char → Option Nat × List Char
  | [] => (some n, [])
  | c :: cs =>
    match Text.digitValue? c with
    | some d => if n * 10 + d ≤ 2147483647 then exponentDigits (n * 10 + d) cs else (none, cs)
    | none => (some n, c :: cs)

def exponentSign (cs : List Char) : Bool × List Char :=
  match cs with
  | '+' :: rest => (true, rest)
  | '-' :: rest => (false, rest)
  | rest => (true, rest)

/-- A number whose exponent follows, after the letter. -/
def withExponent (positive : Bool) (digits : Nat) (start : Int) : Reader Json := fun cs =>
  let (upward, rest) := exponentSign cs
  if rest.isEmpty then .error (faultAt .endOfValue [])
  else if !startsWithDigit rest then .error (faultNext .invalidNumber rest)
  else
    match exponentDigits 0 rest with
    | (some e, rest) =>
      double positive digits (clampExponent (if upward then start + e else start - e)) rest
    | (none, rest) =>
      if digits ≠ 0 ∧ upward then .error (faultAt .numberOutOfRange rest)
      else .ok (float (if positive then (0.0 : Float) else -0.0).toBits, skipDigits rest)

/-- A number whose integer part is over and whose fraction, if any, has been read. -/
def finishDouble (positive : Bool) (digits : Nat) (exponent : Int) : Reader Json := fun cs =>
  if startsExponent cs then withExponent positive digits exponent (cs.drop 1)
  else double positive digits exponent cs

/-- A number whose fraction follows, after the point. -/
def withFraction (positive : Bool) (digits : Nat) (start : Int) : Reader Json := fun cs =>
  let (digits, rest) := significand digits cs
  let exponent := start - ((cs.length : Int) - rest.length)
  if startsWithDigit rest then finishDouble positive digits exponent (skipDigits rest)
  else if cs.length = rest.length then
    .error (faultNext (if rest.isEmpty then .endOfValue else .invalidNumber) rest)
  else finishDouble positive digits exponent rest

/-- A number whose integer part has been read. -/
def afterInteger (positive : Bool) (digits : Nat) : Reader Json := fun cs =>
  match cs with
  | '.' :: rest => withFraction positive digits 0 rest
  | _ =>
    if startsExponent cs then withExponent positive digits 0 (cs.drop 1)
    else if positive then .ok (int digits, cs)
    else if 0 < digits ∧ digits ≤ UInt64.size / 2 then .ok (int (-digits), cs)
    else .ok (float (-digits.toUInt64.toFloat).toBits, cs)

/-- A number whose integer part does not fit 64 bits: each further digit counts as a power of ten.
-/
def longInteger (positive : Bool) (digits : Nat) : Reader Json := fun cs =>
  let rest := skipDigits cs
  let exponent : Int := (cs.length : Int) - rest.length
  match rest with
  | '.' :: rest => withFraction positive digits exponent rest
  | _ => finishDouble positive digits exponent rest

/-- A number after its sign. -/
def number (positive : Bool) : Reader Json := fun cs =>
  match cs with
  | [] => .error (faultAt .endOfValue [])
  | '0' :: rest =>
    if startsWithDigit rest then .error (faultNext .invalidNumber rest)
    else afterInteger positive 0 rest
  | c :: rest =>
    match Text.digitValue? c with
    | none => .error (faultNext .invalidNumber (c :: rest))
    | some d =>
      let (digits, rest) := significand d rest
      if startsWithDigit rest then longInteger positive digits rest
      else afterInteger positive digits rest

/-! ## Values -/

/-- The items of an array after its bracket or after an item. `fuel` bounds their number. -/
def itemsRest (item : Reader Json) : Nat → Bool → List Json → Reader Json
  | 0, _, _, cs => .error (faultAt .endOfList cs)
  | fuel + 1, first, taken, cs =>
    match skipBlanks cs with
    | [] => .error (faultNext .endOfList [])
    | c :: rest =>
      if c = ']' then .ok (array taken.reverse, rest)
      else if first then
        match item (c :: rest) with
        | .ok (v, rest) => itemsRest item fuel false (v :: taken) rest
        | .error e => .error e
      else if c = ',' then
        match skipBlanks rest with
        | [] => .error (faultNext .endOfValue [])
        | d :: rest =>
          if d = ']' then .error (faultNext .trailingComma (d :: rest))
          else
            match item (d :: rest) with
            | .ok (v, rest) => itemsRest item fuel false (v :: taken) rest
            | .error e => .error e
      else .error (faultNext .expectedCommaOrBracket (c :: rest))

/-- A member after the opening quote of its key. -/
def member (item : Reader Json) : Reader (String × Json) := fun cs =>
  match stringBody cs with
  | .error e => .error e
  | .ok (key, rest) =>
    match skipBlanks rest with
    | [] => .error (faultNext .endOfObject [])
    | c :: rest =>
      if c ≠ ':' then .error (faultNext .expectedColon (c :: rest))
      else
        match item rest with
        | .ok (v, rest) => .ok ((key, v), rest)
        | .error e => .error e

/-- The members of an object after its brace or after a member. `fuel` bounds their number. -/
def membersRest (item : Reader Json) : Nat → Bool → Members → Reader Json
  | 0, _, _, cs => .error (faultAt .endOfObject cs)
  | fuel + 1, first, taken, cs =>
    match skipBlanks cs with
    | [] => .error (faultNext .endOfObject [])
    | c :: rest =>
      if c = '\x7d' then .ok (object taken, rest)
      else if first then
        if c ≠ '"' then .error (faultNext .keyNotString (c :: rest))
        else
          match member item rest with
          | .ok ((k, v), rest) => membersRest item fuel false (insert k v taken) rest
          | .error e => .error e
      else if c = ',' then
        match skipBlanks rest with
        | [] => .error (faultNext .endOfValue [])
        | d :: rest =>
          if d = '"' then
            match member item rest with
            | .ok ((k, v), rest) => membersRest item fuel false (insert k v taken) rest
            | .error e => .error e
          else if d = '\x7d' then .error (faultNext .trailingComma (d :: rest))
          else .error (faultNext .keyNotString (d :: rest))
      else .error (faultNext .expectedCommaOrBrace (c :: rest))

/-- A value whose containers are read by `inner`, where they may be nested at all. -/
def valueWith (inner : Option (Reader Json)) : Reader Json := fun cs =>
  match skipBlanks cs with
  | [] => .error (faultNext .endOfValue [])
  | c :: rest =>
    if c = 'n' then (word ['u', 'l', 'l'] rest).map fun r => (null, r.2)
    else if c = 't' then (word ['r', 'u', 'e'] rest).map fun r => (bool true, r.2)
    else if c = 'f' then (word ['a', 'l', 's', 'e'] rest).map fun r => (bool false, r.2)
    else if c = '-' then number false rest
    else if (Text.digitValue? c).isSome then number true (c :: rest)
    else if c = '"' then (stringBody rest).map fun r => (string r.1, r.2)
    else if c = '[' ∨ c = '\x7b' then
      match inner with
      | none => .error (faultNext .tooDeep (c :: rest))
      | some item =>
        if c = '[' then itemsRest item (rest.length + 1) true [] rest
        else membersRest item (rest.length + 1) true [] rest
    else .error (faultNext .expectedValue (c :: rest))

/-- A value whose containers are nested at most `depth` deep. -/
def value : Nat → Reader Json
  | 0 => valueWith none
  | depth + 1 => valueWith (some (value depth))

def depthLimit : Nat := 127

/-- The value that a whole text writes. -/
def read (cs : List Char) : Except Fault Json :=
  match value depthLimit cs with
  | .error e => .error e
  | .ok (v, rest) =>
    match skipBlanks rest with
    | [] => .ok v
    | c :: rest => .error (faultNext .trailingCharacters (c :: rest))

/-! ## Places and messages -/

/-- The line and the column after `n` bytes of a text: lines count from one, columns count bytes. -/
def placeAfter (line column : Nat) : Nat → List Char → Nat × Nat
  | _, [] => (line, column)
  | n, c :: cs =>
    if n = 0 then (line, column)
    else if c = '\n' then placeAfter (line + 1) 0 (n - 1) cs
    else placeAfter line (column + min n c.utf8Size) (n - c.utf8Size) cs

/-- The line and the column of a fault in a text. -/
def Fault.place (f : Fault) (text : List Char) : Nat × Nat :=
  placeAfter 1 0 (byteSize text - f.left) text

def Cause.message : Cause → String
  | endOfValue => "EOF while parsing a value"
  | endOfList => "EOF while parsing a list"
  | endOfObject => "EOF while parsing an object"
  | endOfString => "EOF while parsing a string"
  | expectedValue => "expected value"
  | expectedWord => "expected ident"
  | expectedColon => "expected `:`"
  | expectedCommaOrBracket => "expected `,` or `]`"
  | expectedCommaOrBrace => "expected `,` or `\x7d`"
  | keyNotString => "key must be a string"
  | trailingComma => "trailing comma"
  | trailingCharacters => "trailing characters"
  | controlCharacter => "control character (\\u0000-\\u001F) found while parsing a string"
  | invalidEscape => "invalid escape"
  | unfinishedPair => "unexpected end of hex escape"
  | loneSurrogate => "lone leading surrogate in hex escape"
  | invalidNumber => "invalid number"
  | numberOutOfRange => "number out of range"
  | tooDeep => "recursion limit exceeded"

/-- The text of a fault, with its place in the text read. -/
def Fault.message (f : Fault) (text : List Char) : String :=
  let place := f.place text
  s!"{f.cause.message} at line {place.1} column {place.2}"

/-- The value that a string writes, or the text of the fault. -/
def parse (s : String) : Except String Json :=
  match read s.toList with
  | .ok v => .ok v
  | .error f => .error (f.message s.toList)

end PolledChannels.Json
