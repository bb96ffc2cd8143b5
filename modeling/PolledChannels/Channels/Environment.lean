import PolledChannels.Channels.State
import PolledChannels.Settings.Cache

/-!
# The provider of the environment

Channels that are opened without a provider of their own share one. It has no policy, and the
environment says whether it keeps events and what an invalid descriptor does to a registration.
-/

namespace PolledChannels

structure Environment where
  log : Option String := none
  invalid : Option String := none
  deriving DecidableEq, Repr

namespace Environment

/-- The provider that channels share, from settings that are resolved on the way. -/
def provider (e : Environment) (s : Settings) : Settings × Provider :=
  let (s, mode) := s.logMode e.log
  let (s, invalid) := s.invalidPolicy e.invalid
  (s, { logging := mode.enabled, invalid })

end Environment
end PolledChannels
