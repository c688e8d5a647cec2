/-
# Vpn.DatagramRuntime — how the tasks of a datagram runtime end (`src/vpn_datagram_runtime.rs`)

The exits of the two loops of a runtime, and the reason that a supervisor reports for the runtime
from the exits of both.
-/
import Mathlib.Logic.Basic

namespace FlowWeave.Vpn

set_option autoImplicit false

inductive VpnDatagramRuntimeStopReason where
  | shutdownRequested
  | connectionClosed
  | connectionFailed
  | dataPathStale
  | resourceInvariant
  | datagramSendFailed
  | packetIdExhausted
  | inboundConsumerClosed
  | workerFailed
  deriving DecidableEq, Repr

inductive VpnRuntimeTaskExit where
  | stopped
  | connectionClosed
  | connectionFailed
  | dataPathStale
  | resourceInvariant
  | datagramSendFailed
  | packetIdExhausted
  | inboundConsumerClosed
  | workerFailed
  deriving DecidableEq, Repr

def VpnRuntimeTaskExit.stopReason : VpnRuntimeTaskExit → VpnDatagramRuntimeStopReason
  | .stopped => .shutdownRequested
  | .connectionClosed => .connectionClosed
  | .connectionFailed => .connectionFailed
  | .dataPathStale => .dataPathStale
  | .resourceInvariant => .resourceInvariant
  | .datagramSendFailed => .datagramSendFailed
  | .packetIdExhausted => .packetIdExhausted
  | .inboundConsumerClosed => .inboundConsumerClosed
  | .workerFailed => .workerFailed

/-- The exit that counts: a failed worker, or else the one that was not asked for. -/
def combineTaskExits (first second : VpnRuntimeTaskExit) : VpnRuntimeTaskExit :=
  if first = .workerFailed ∨ second = .workerFailed then .workerFailed
  else if first = .stopped then second
  else first

end FlowWeave.Vpn
