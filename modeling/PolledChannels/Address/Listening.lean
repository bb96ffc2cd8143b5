import PolledChannels.Address.Basic

/-!
# Addresses to listen on

Listening channels take IPv4 addresses, and IPv6 addresses that stand for one. A queue depth below
one asks for the usual depth.
-/

namespace PolledChannels.Listening

/-- The queue depth of a listener that asks for none. -/
def defaultBacklog : Int := 50

def effectiveBacklog (backlog : Int) : Int :=
  if backlog < 1 then defaultBacklog else backlog

/-- The address that a request asks for, or none if its family is not supported. No address asks
for every interface and a port that the system picks. -/
def address? : Option Endpoint → Option Endpoint
  | none => some Endpoint.wildcard
  | some (.v4 ip port) => some (.v4 ip port)
  | some (.v6 ip port _ _) => ip.mapped?.map fun ip => .v4 ip port

def isEphemeral (port : UInt16) : Bool := port == 0

end PolledChannels.Listening
