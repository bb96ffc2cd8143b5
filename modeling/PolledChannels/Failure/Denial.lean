/-!
# Denials

What a policy answers when it refuses to let a channel listen, or refuses a connection.
-/

namespace PolledChannels

inductive Denied where
  | listen
  | accept
  deriving DecidableEq, Repr

/-- A refusal: what was refused, and for which port or peer. -/
structure Denial where
  action : Denied
  target : String
  deriving DecidableEq, Repr

namespace Denied

def name : Denied → String
  | listen => "listen"
  | accept => "accept"

end Denied

namespace Denial

def listen (port : UInt16) : Denial :=
  ⟨.listen, toString port.toNat⟩

def accept (host : String) (port : UInt16) : Denial :=
  ⟨.accept, s!"{host}:{port.toNat}"⟩

def message (d : Denial) : String :=
  s!"security policy denied {d.action.name} for {d.target}"

end Denial
end PolledChannels
