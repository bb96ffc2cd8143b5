import PolledChannels.Text.Blank

/-!
# Settings read from text

Two settings come from the environment: where channel events go, and what an invalid descriptor does
to a registration. Texts are compared without surrounding blanks and without regard to ASCII case;
a text that names no mode means the default.
-/

namespace PolledChannels

/-- Where the events of channels go when no sink is installed. -/
inductive LogMode where
  | off
  | jsonLines
  deriving DecidableEq, Repr, Inhabited

/-- What an invalid descriptor on an open channel does to the registration. -/
inductive InvalidPolicy where
  /-- Nothing but a warning. -/
  | lenient
  /-- The registration is cancelled as well. -/
  | strict
  deriving DecidableEq, Repr, Inhabited

namespace LogMode

def ofText (s : String) : LogMode :=
  if ["jsonl", "json", "stderr", "on"].contains (Text.asciiLower (Text.trimmed s)) then jsonLines
  else off

/-- Events are written somewhere. -/
def enabled : LogMode → Bool
  | off => false
  | jsonLines => true

def describe : LogMode → String
  | off => "Off"
  | jsonLines => "Jsonl"

/-- The byte that a resolved mode is kept as. -/
def toByte : LogMode → UInt8
  | off => 1
  | jsonLines => 2

def ofByte (b : UInt8) : LogMode :=
  if b = 2 then jsonLines else off

end LogMode

namespace InvalidPolicy

def ofText (s : String) : InvalidPolicy :=
  if ["strict", "error", "invalidate"].contains (Text.asciiLower (Text.trimmed s)) then strict
  else lenient

def invalidatesKey : InvalidPolicy → Bool
  | lenient => false
  | strict => true

def describe : InvalidPolicy → String
  | lenient => "Lenient"
  | strict => "Strict"

def toByte : InvalidPolicy → UInt8
  | lenient => 1
  | strict => 2

def ofByte (b : UInt8) : InvalidPolicy :=
  if b = 2 then strict else lenient

end InvalidPolicy
end PolledChannels
