import PolledChannels.Channels.Environment
import PolledChannels.Channels.Selecting
import PolledChannels.Channels.Opening

/-!
# What the environment decides

A rehearsal with the shared provider: a registered channel meets an invalid descriptor, and the
selector and the channel are closed.
-/

namespace PolledChannels

structure Startup where
  mode : LogMode
  /-- The mode when it is asked for once more. -/
  again : LogMode
  provider : Provider
  /-- The provider when it is asked for once more. -/
  sameProvider : Bool
  keyValid : Bool
  events : List Event

namespace Startup

/-- A registered channel meets an invalid descriptor; the answer is whether its key is still valid.
-/
def meetInvalid : Action Bool := do
  let c ← Action.openListener
  Action.configureBlocking c false
  let s ← Action.openSelector
  let k ← Action.register c s Operation.accept
  let _ ← Action.translateAndSet c k Native.invalid
  let valid := (← get).keyValid k
  Action.closeSelector s
  Action.close c
  return valid

def rehearse (host : Host) (e : Environment) : Startup :=
  let (settings, mode) := ({} : Settings).logMode e.log
  let (settings, again) := settings.logMode e.log
  let (settings, provider) := e.provider settings
  let second := (e.provider settings).2
  let (valid, station) := meetInvalid.run { network := { host }, provider }
  { mode, again, provider
    sameProvider := provider == second
    keyValid := valid.toOption.getD false
    events := station.reports.map Report.event }

end Startup
end PolledChannels
