import PolledChannels.Address.Text
import PolledChannels.Failure.Denial

/-!
# Security policies

A policy is asked before a channel listens and after it has taken a connection. An allow list with
no ports lets every port listen, and one with no hosts takes every peer; a peer is compared by
address, after its text has been read.
-/

namespace PolledChannels

inductive Policy where
  | permissive
  | denyAll
  | allowList (hosts : List Ip) (ports : List UInt16)
  deriving DecidableEq, Repr

namespace Policy

def checkListen (p : Policy) (port : UInt16) : Except Denial Unit :=
  match p with
  | permissive => .ok ()
  | denyAll => .error (.listen port)
  | allowList _ ports =>
    if ports.isEmpty || ports.contains port then .ok () else .error (.listen port)

def checkAccept (p : Policy) (host : String) (port : UInt16) : Except Denial Unit :=
  match p with
  | permissive => .ok ()
  | denyAll => .error (.accept host port)
  | allowList hosts _ =>
    if hosts.isEmpty then .ok ()
    else
      match Ip.parse? host with
      | some ip => if hosts.contains ip then .ok () else .error (.accept host port)
      | none => .error (.accept host port)

def allowHost (p : Policy) (host : Ip) : Policy :=
  match p with
  | allowList hosts ports => allowList (hosts ++ [host]) ports
  | other => other

def allowPort (p : Policy) (port : UInt16) : Policy :=
  match p with
  | allowList hosts ports => allowList hosts (ports ++ [port])
  | other => other

end Policy
end PolledChannels
