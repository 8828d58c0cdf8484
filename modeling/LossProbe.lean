import LossProbe.Main
import LossProbe.Simulation.CommandRun
import LossProbe.Simulation.Lone
import LossProbe.Simulation.MonitorRun
import LossProbe.Simulation.PoolRun
import LossProbe.Log.Filter
import LossProbe.Net.IpAddr.Parser
import LossProbe.Report.Console
import LossProbe.Version.Reader
import LossProbe.Proofs.Counters
import LossProbe.Proofs.WorkerTurns
import LossProbe.Proofs.WorkerLife
import LossProbe.Proofs.Utf8
import LossProbe.Proofs.JsonSyntax
import LossProbe.Proofs.JsonNumerals
import LossProbe.Proofs.JsonStrings
import LossProbe.Proofs.JsonTrees
import LossProbe.Proofs.DoubleRange
import LossProbe.Proofs.JsonNumberRange
import LossProbe.Proofs.DiscoveryReplies
import LossProbe.Proofs.DiscoveryWindow
import LossProbe.Proofs.PoolTurns
import LossProbe.Proofs.PoolRoster
import LossProbe.Proofs.PoolWorkers
import LossProbe.Proofs.MonitorReports
import LossProbe.Proofs.PoolDevices
import LossProbe.Proofs.LossReports
import LossProbe.Proofs.ProbeTraffic
import LossProbe.Proofs.DecimalText
import LossProbe.Proofs.JsonWriting
import LossProbe.Proofs.ReportLines
import LossProbe.Proofs.FinishedRuns
import LossProbe.Proofs.LateReplies
import LossProbe.Proofs.LossStreaks
import LossProbe.Proofs.PoolSpawning
import LossProbe.Proofs.RegistryHistory
import LossProbe.Proofs.NearestDouble
import LossProbe.Proofs.LossRates
import LossProbe.Proofs.AddressText
import LossProbe.Proofs.OptionNumbers
import LossProbe.Proofs.CommandLines
import LossProbe.Proofs.ClockReadings
import LossProbe.Proofs.MutedReports
import LossProbe.Proofs.GridLines
import LossProbe.Proofs.TableReports
import LossProbe.Proofs.HeadingLines
import LossProbe.Proofs.NearestEven
import LossProbe.Proofs.RateTexts
import LossProbe.Proofs.PrintedRates
import LossProbe.Proofs.NumberTexts
import LossProbe.Proofs.NumericOptions
import LossProbe.Proofs.AddressSpellings
import LossProbe.Proofs.ReportedAddresses
