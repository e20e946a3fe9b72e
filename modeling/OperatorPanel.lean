import OperatorPanel.Bench.Host
import OperatorPanel.Bench.Step
import OperatorPanel.Main
import OperatorPanel.Proofs.Session
import OperatorPanel.Proofs.Serial
import OperatorPanel.Proofs.Edges
import OperatorPanel.Proofs.Shutdown
import OperatorPanel.Proofs.PanelExit
import OperatorPanel.Proofs.Following
import OperatorPanel.Proofs.Mirror
import OperatorPanel.Proofs.Acknowledgement
import OperatorPanel.Proofs.Jogs
import OperatorPanel.Proofs.Releases
import OperatorPanel.Proofs.Progress
import OperatorPanel.Proofs.Standstill
import OperatorPanel.Proofs.Contact
import OperatorPanel.Proofs.Restart
import OperatorPanel.Proofs.RoundTrip
import OperatorPanel.Proofs.Coherence
import OperatorPanel.Proofs.Twins
import OperatorPanel.Proofs.Policies
import OperatorPanel.Proofs.Canonical
import OperatorPanel.Proofs.SegmentLedger
import OperatorPanel.Proofs.PanelFollowed
import OperatorPanel.Proofs.PanelReplaced
import OperatorPanel.Proofs.Registered
import OperatorPanel.Proofs.FailedConnect
import OperatorPanel.Proofs.Delivery
import OperatorPanel.Proofs.StatusMailbox
import OperatorPanel.Proofs.NoticeMailbox
import OperatorPanel.Proofs.Unstarted
import OperatorPanel.Proofs.RetryBudget
import OperatorPanel.Proofs.Publication
import OperatorPanel.Proofs.ChannelsApart
import OperatorPanel.Proofs.Overrides
import OperatorPanel.Proofs.OpenProgram
import OperatorPanel.Proofs.Truncation
import OperatorPanel.Proofs.PinNames
import OperatorPanel.Proofs.Deadlines
import OperatorPanel.Proofs.Velocities
import OperatorPanel.Proofs.NamedSamples
import OperatorPanel.Proofs.SegmentForm
import OperatorPanel.Proofs.OutputNames
import OperatorPanel.Proofs.OutputEcho
import OperatorPanel.Proofs.ManualLines
import OperatorPanel.Proofs.NoticeTexts
import OperatorPanel.Proofs.SegmentRecognition
import OperatorPanel.Proofs.Completion
import OperatorPanel.Proofs.CycleFigures
