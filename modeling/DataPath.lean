import DataPath.Bench.Arbiter
import DataPath.Bench.Channel
import DataPath.Bench.Modem
import DataPath.Bench.Service
import DataPath.Bench.Station
import DataPath.Files.Tree
import DataPath.Main
import DataPath.Proofs.Arbiter.Bystanders
import DataPath.Proofs.Arbiter.Contest
import DataPath.Proofs.Arbiter.Parked
import DataPath.Proofs.Arbiter.Recovery
import DataPath.Proofs.Arbiter.Rejection
import DataPath.Proofs.Channel.Correlation
import DataPath.Proofs.Link
import DataPath.Proofs.Modem.Sequence
import DataPath.Proofs.Service.Answered
import DataPath.Proofs.Service.Termination
import DataPath.Proofs.Service.Waiting
import DataPath.Proofs.Settings.RoundTrip
import DataPath.Proofs.Station.Observers
import DataPath.Proofs.Switch.Deferral
import DataPath.Proofs.Switch.Feedback
import DataPath.Proofs.Switch.Finality
import DataPath.Proofs.Switch.Handles
import DataPath.Proofs.Switch.Retry
import DataPath.Proofs.Switch.Run
