import FlowWeave.Vpn.RoundTrip
import FlowWeave.Vpn.FamilyPolicy
import FlowWeave.Vpn.RateBound
import FlowWeave.Vpn.ClientSupervisor
import FlowWeave.Vpn.PathContinuity
import FlowWeave.Vpn.PacketQueue
import FlowWeave.Vpn.PacketPump
import FlowWeave.Vpn.RuntimeStop
import FlowWeave.Vpn.NetworkSets
import FlowWeave.Vpn.AdmissionPrediction
import FlowWeave.Vpn.BurstAdmission
import FlowWeave.Vpn.WholePackets
import FlowWeave.Vpn.Handshakes
import FlowWeave.Vpn.NetworkStateFile
import FlowWeave.Proxy.Shutdown
import FlowWeave.Proxy.PublicSoak
import FlowWeave.Proxy.Jsonl
import FlowWeave.Proxy.Request
import FlowWeave.Proxy.RunEvents
import FlowWeave.Realtime.Batch
import FlowWeave.Realtime.V12Recovery
import FlowWeave.Realtime.V4Recovery
import FlowWeave.Realtime.FrameDigest
import FlowWeave.Failover.SustainedRecords
import FlowWeave.Failover.RecoveryGap
