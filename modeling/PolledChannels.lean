import PolledChannels.Bench.Files
import PolledChannels.Bench.Guarded
import PolledChannels.Bench.Script
import PolledChannels.Bench.Workers
import PolledChannels.Main
import PolledChannels.Scenario.Startup
import PolledChannels.Session.Transcript
import PolledChannels.Proofs.Consistency
import PolledChannels.Proofs.Lives
import PolledChannels.Proofs.AcceptorSignals
import PolledChannels.Proofs.InterruptedAccepts
import PolledChannels.Proofs.BindRaces
import PolledChannels.Proofs.SelectionOrder
import PolledChannels.Proofs.RepeatedSelections
import PolledChannels.Proofs.InvalidReports
import PolledChannels.Proofs.Deregistrations
import PolledChannels.Proofs.InterestWrites
import PolledChannels.Proofs.TakenDescriptors
import PolledChannels.Proofs.JoinedLogs
import PolledChannels.Proofs.RestoredModes
import PolledChannels.Proofs.Storages
import PolledChannels.Proofs.OptionStores
import PolledChannels.Proofs.TraceIds
import PolledChannels.Proofs.StatusWords
import PolledChannels.Proofs.CachedSettings
import PolledChannels.Proofs.MergedReports
import PolledChannels.Proofs.ViewTimeouts
import PolledChannels.Proofs.EnactedAccepts
