import PolledChannels.Network.Basic

/-!
# Polling

What a poll reports of a file: the bits asked for that hold, and errors and hang-ups whether asked
for or not. A negative number is passed over; a number that is not open is reported as invalid.
-/

namespace PolledChannels
namespace Native

/-- Ordinary data can be read. -/
def inputNormal : Mask := 0x40
/-- Ordinary data can be written. -/
def outputNormal : Mask := 0x100
/-- Data of a band can be written. -/
def outputBand : Mask := 0x200
/-- The other side sends nothing more. -/
def readHangUp : Mask := 0x2000

def readable : Mask := input ||| inputNormal
def writable : Mask := output ||| outputNormal

/-- The bits that are reported whether asked for or not. -/
def always : Mask := failed ||| hangUp

def whenever (b : Bool) (m : Mask) : Mask := if b then m else 0

end Native

namespace Network

open Native

/-- The state of one end of a link as a poll sees it. -/
def sideEvents (s : Side) (writableNow : Bool) : Mask :=
  whenever s.fault.isSome failed ||| whenever (s.ended && s.shut) hangUp |||
    whenever s.ended (readable ||| readHangUp) ||| whenever (!s.inbox.isEmpty) readable |||
    whenever writableNow writable

def fileEvents (n : Network) (f : File) : Mask :=
  match f.kind with
  | .pipeReader p =>
    match n.pipes[p]? with
    | some pipe => whenever (0 < pipe.size) readable ||| whenever (!pipe.writerOpen) hangUp
    | none => 0
  | .pipeWriter p =>
    match n.pipes[p]? with
    | some pipe => whenever pipe.hasRoom writable ||| whenever (!pipe.readerOpen) failed
    | none => 0
  | .pair link side settings =>
    match n.links[link]? with
    | some l =>
      let s := l.side side
      let room := l.hasRoom side settings.sendBuffer
      let hungUp := s.ended && !(l.side side.other).isOpen
      sideEvents s room ||| whenever hungUp hangUp ||| whenever room outputBand
    | none => 0
  | .socket s =>
    match s.state with
    | .idle receiveShut _ => hangUp ||| writable ||| whenever receiveShut (readable ||| readHangUp)
    | .listening _ pending => whenever (!pending.isEmpty) readable
    | .connected link side _ =>
      match n.links[link]? with
      | some l => sideEvents (l.side side) true
      | none => 0

/-- A mask of events as a poll takes it: its lowest sixteen bits. -/
def asked (events : Mask) : Mask := (events.setWidth 16).signExtend 32

/-- What a poll reports of a number, given the events asked for. -/
def polled (n : Network) (fd : FileNumber) (events : Mask) : Mask :=
  if fd < 0 then 0
  else
    match n.file? fd with
    | none => invalid
    | some f => n.fileEvents f &&& (asked events ||| always)

end Network

namespace Net

def poll (fd : FileNumber) (events : Mask) : Net Mask := do
  consult
  return (← get).polled fd events

end Net
end PolledChannels
