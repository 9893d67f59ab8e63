import NodusVision.Guarantees.Quiescence
import NodusVision.Guarantees.Connections
import NodusVision.Guarantees.PilotSessions
import NodusVision.Guarantees.PilotContract
import NodusVision.Guarantees.StoredRequests
import NodusVision.Guarantees.PointClouds
import NodusVision.Guarantees.Endpoints
import NodusVision.Guarantees.Acceptance
import NodusVision.Guarantees.Configurations
import NodusVision.Guarantees.MountTransforms
import NodusVision.Adapters.FakeFrames
import NodusVision.Guarantees.AdapterAgreement
import NodusVision.Guarantees.IdleTimers
import NodusVision.Guarantees.Sweeps
import NodusVision.Guarantees.LatestFrames
import NodusVision.Guarantees.Previews
import NodusVision.Guarantees.ProviderStates
import NodusVision.Guarantees.PilotFaults
import NodusVision.Guarantees.StopOutcomes
import NodusVision.Guarantees.PilotRequests
import NodusVision.Guarantees.PilotBudgets
import NodusVision.Guarantees.Heartbeats
import NodusVision.Guarantees.RequestTargets
import NodusVision.Guarantees.FakeIdentities
import NodusVision.Guarantees.Origins
import NodusVision.Guarantees.ThreadExceptions
import NodusVision.Guarantees.Starts
import NodusVision.Guarantees.Evidence
import NodusVision.Guarantees.Reports
import NodusVision.Guarantees.TerminalStates
import NodusVision.Guarantees.FrameRings
import NodusVision.Guarantees.SingleStarts
import NodusVision.Guarantees.RecordingBodies
import NodusVision.Guarantees.FirstClosers
import NodusVision.Guarantees.Acknowledgements
import NodusVision.Guarantees.FrameAccounting
import NodusVision.Guarantees.Draining
import NodusVision.Guarantees.PathConfinement
import NodusVision.Guarantees.StreamBodies
