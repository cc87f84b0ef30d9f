import Passthrough.CommandLine.Execution
import Passthrough.Host.Faulty
import Passthrough.Host.Mobile.Basic
import Passthrough.Main
import Passthrough.Proofs.Engine.Alarms
import Passthrough.Proofs.Engine.DeviceChange
import Passthrough.Proofs.Engine.EffectMark
import Passthrough.Proofs.Engine.Handles
import Passthrough.Proofs.Engine.InForce
import Passthrough.Proofs.Engine.Order
import Passthrough.Proofs.Engine.Playback
import Passthrough.Proofs.Engine.Restart
import Passthrough.Proofs.Engine.StaleEvents
import Passthrough.Proofs.Engine.Telling
import Passthrough.Proofs.Engine.WholePeriods
import Passthrough.Proofs.Period.History
import Passthrough.Proofs.Period.TapHistory
import Passthrough.Wire.Config
import Passthrough.Wire.Error
import Passthrough.Wire.Event
import Passthrough.Wire.Machine
import Passthrough.Proofs.Host.Mobile.Frames
import Passthrough.Proofs.Host.Mobile.Loopback
import Passthrough.Proofs.Host.Desktop.Diary
import Passthrough.Proofs.Host.Desktop.Gate
import Passthrough.Proofs.Host.Desktop.Leftovers
import Passthrough.Proofs.Engine.FaultReports
import Passthrough.Proofs.Engine.Obliged
import Passthrough.Proofs.CommandLine.LossFree
import Passthrough.Proofs.Recording.WaveFile
import Passthrough.Proofs.Engine.Observed
import Passthrough.Proofs.Recording.Recorded
import Passthrough.Proofs.Json.Grammar
import Passthrough.Proofs.Json.Numerals
import Passthrough.Proofs.Json.Strings
import Passthrough.Proofs.Json.Lexing
import Passthrough.Proofs.Json.Reading
import Passthrough.Proofs.Json.Access
import Passthrough.Proofs.Wire.RoundTrip
import Passthrough.Proofs.Wire.OptionFiles
import Passthrough.Proofs.Config.Verdict
import Passthrough.Proofs.Host.Answering
import Passthrough.Proofs.Host.Minuted
import Passthrough.Proofs.Engine.Minutes
import Passthrough.Proofs.Engine.Upright
import Passthrough.Proofs.Engine.Closing
import Passthrough.Proofs.Engine.Opening
import Passthrough.Proofs.Host.Desktop.Listening
import Passthrough.Proofs.Host.Desktop.Playing
import Passthrough.Proofs.Engine.FaultedSession
import Passthrough.Proofs.Engine.OutputReplaced
import Passthrough.Proofs.Engine.Bursts
import Passthrough.Proofs.Engine.Starting
import Passthrough.Proofs.Line.Latching
import Passthrough.Proofs.Line.Drift
import Passthrough.Proofs.Engine.Devices
import Passthrough.Proofs.Engine.Observers
import Passthrough.Proofs.Host.Simulated.Bookkeeping
import Passthrough.Proofs.Host.Desktop.Negotiation
import Passthrough.Proofs.Host.Desktop.Catalogue
