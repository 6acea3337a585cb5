import DaemonLaunch.Main
import DaemonLaunch.Launch.Delegate
import DaemonLaunch.Activity.Script
import DaemonLaunch.Activity.Trace
import DaemonLaunch.Proofs.FallibleRuns
import DaemonLaunch.Proofs.PipeTraffic
import DaemonLaunch.Proofs.HandoffRecord
import DaemonLaunch.Proofs.DelegateRuns
import DaemonLaunch.Proofs.HandoffAgreement
import DaemonLaunch.Proofs.GenerationRuns
import DaemonLaunch.Proofs.Restraint
import DaemonLaunch.Proofs.SameProtocol
import DaemonLaunch.Proofs.Polling
import DaemonLaunch.Proofs.Stopping
import DaemonLaunch.Activity.Family
import DaemonLaunch.Proofs.FamilyViews
import DaemonLaunch.Proofs.OneDaemon
import DaemonLaunch.Proofs.StatusLines
import DaemonLaunch.Proofs.NameIndependence
import DaemonLaunch.Proofs.CallerReaps
import DaemonLaunch.Proofs.SoleAddressee
import DaemonLaunch.Proofs.FailStop
import DaemonLaunch.Proofs.NoReturn
import DaemonLaunch.Proofs.PermanentDeath
import DaemonLaunch.Proofs.Masking
import DaemonLaunch.Proofs.Preparing
import DaemonLaunch.Proofs.Observation
import DaemonLaunch.Proofs.PollingLaw
import DaemonLaunch.FileSystem.Growth
import DaemonLaunch.Proofs.StandingLog
import DaemonLaunch.CommandLine.Spelling
import DaemonLaunch.Proofs.Precedence
import DaemonLaunch.Settings.Document
import DaemonLaunch.Proofs.TomlDocuments
import DaemonLaunch.Proofs.FormatAgreement
import DaemonLaunch.Proofs.HandoffCodec
import DaemonLaunch.Proofs.AnnouncementGrammar
import DaemonLaunch.Proofs.LimitedWriting
import DaemonLaunch.Proofs.CheckedLogFile
import DaemonLaunch.Proofs.StatusGrammar
import DaemonLaunch.Proofs.LoggedRuns
import DaemonLaunch.Proofs.LogAcrossDetachment
import DaemonLaunch.Proofs.TwoRuns
import DaemonLaunch.Proofs.LogIndependence
