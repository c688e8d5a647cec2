/-
# Vpn.AddressOwnership — no two live clients speak for one tunnel address

The end of a packet that is the client's own, the source of an uplink packet and the
destination of a downlink one, is checked against the policy of the handle. By
`Vpn.CoordinatorSafety` that policy is the one the current registry has for the
client, and by `Vpn.Registry` two identities of a registry have no address in common,
nor with the server. A reload that moves an address from one client to another
therefore cannot leave both of them able to use it.
-/
import FlowWeave.Vpn.CoordinatorSafety

namespace FlowWeave.Vpn

open VpnIdentityRegistry

set_option autoImplicit false

/-- An operation on the handle would let a packet through whose own end is this
address: `ingest_datagram` one from it, uplink, or `encode_ip_packet` one to it,
downlink. -/
def VpnSessionCoordinator.SpeaksFor (self : VpnSessionCoordinator) (dataPath : Nat)
    (address : IpAddr) : Prop :=
  ∃ op operated direction packet metadata,
    self.heap.operate self.globalBudget dataPath op = some operated ∧
      op.passed operated.reply = some (direction, packet) ∧
      inspectVpnIpPacket packet = .ok metadata ∧ metadata.clientSide direction = address

namespace VpnSessionCoordinator

variable {self : VpnSessionCoordinator} {commits : Nat} {dataPath : Nat} {address : IpAddr}

/-- A handle speaks only for addresses that its policy permits, and only while it is
active. -/
theorem SpeaksFor.permitted (speaks : self.SpeaksFor dataPath address) :
    self.heap.ActiveAt dataPath ∧ ∃ handle, self.heap.handles[dataPath]? = some handle ∧
      handle.inner.policy.permitsSource address = true := by
  obtain ⟨op, operated, direction, packet, metadata, ran, passed, inspected, rfl⟩ := speaks
  obtain ⟨handle, after, found, returned⟩ := DataPathHeap.operate_returns ran
  obtain ⟨active, checked, allowed⟩ := DataPathOp.passed_policy returned passed
  obtain ⟨same, permits, -⟩ := validateVpnIpPacketPolicy_iff.mp allowed
  cases same.symm.trans inspected
  exact ⟨⟨handle, found, active⟩, handle, found, permits⟩

end VpnSessionCoordinator

/-- The policy of an active session's handle is the one the current registry has for
its client. -/
theorem Safe.policy {self : VpnSessionCoordinator} {commits : Nat} (safe : Safe self commits)
    {clientId : String} {entry : ActiveVpnSession}
    (listed : self.state.active.lookup clientId = some entry) :
    ∃ handle identity, self.heap.handles[entry.dataPath]? = some handle ∧
      self.state.registry.authorize entry.session.fingerprint = .ok identity ∧
      identity.clientId = clientId ∧ handle.inner.policy = identity.dataPolicy := by
  obtain ⟨handle, found, inner, -⟩ := safe.linked.handle clientId entry listed
  obtain ⟨identity, authorized, sameClient, samePolicy⟩ := safe.authorized clientId entry listed
  obtain ⟨-, -, policy, -⟩ := VpnIdentity.hasSameSessionPolicy_iff.mp samePolicy
  exact ⟨handle, identity, found, authorized, sameClient, by rw [inner, ← policy]; rfl⟩

/-- **A tunnel address has one live owner.** In every state that the coordinator
reaches, a handle that lets a packet of an address through is the one of an active
session; the address is that client's in the current registry and not the server's;
and the handle of no other active session permits it or would let such a packet
through. -/
theorem tunnelAddress_exclusive {registry : VpnIdentityRegistry} {initialGeneration : UInt64}
    {globalReassemblyLimit globalInflightLimit : Nat} {first self : VpnSessionCoordinator}
    {log : List CoordinatorEvent}
    (built : VpnSessionCoordinator.withResourceLimits registry initialGeneration
      globalReassemblyLimit globalInflightLimit = .ok first)
    (run : CoordinatorRun first log self) {dataPath : Nat} {address : IpAddr}
    (speaks : self.SpeaksFor dataPath address) :
    ∃ clientId entry identity, self.state.active.lookup clientId = some entry ∧
      entry.dataPath = dataPath ∧
      self.state.registry.authorize entry.session.fingerprint = .ok identity ∧
      identity.clientId = clientId ∧
      identity.clientAddress address.family = some address ∧
      self.state.registry.serverAddress address.family ≠ some address ∧
      ∀ otherId other, self.state.active.lookup otherId = some other → otherId ≠ clientId →
        ¬ self.SpeaksFor other.dataPath address ∧
          ∀ handle, self.heap.handles[other.dataPath]? = some handle →
            handle.inner.policy.permitsSource address = false := by
  have safe := run.safe (.start built)
  obtain ⟨isActive, handle, found, permits⟩ := speaks.permitted
  obtain ⟨clientId, entry, listed, rfl⟩ := safe.linked.current dataPath isActive
  obtain ⟨same, identity, isHandle, authorized, sameClient, policy⟩ := safe.policy listed
  cases found.symm.trans isHandle
  rw [policy] at permits
  have member := (authorize_iff.mp authorized).1
  refine ⟨clientId, entry, identity, listed, rfl, authorized, sameClient,
    permits_iff_clientAddress.mp permits,
    address_ne_server member permits, fun otherId other isListed different => ?_⟩
  have refuses : ∀ handle, self.heap.handles[other.dataPath]? = some handle →
      handle.inner.policy.permitsSource address = false := by
    intro otherHandle isOther
    obtain ⟨_, owner, otherFound, otherAuthorized, otherClient, otherPolicy⟩ :=
      safe.policy isListed
    cases isOther.symm.trans otherFound
    by_contra allows
    rw [Bool.not_eq_false, otherPolicy] at allows
    have ownerMember := (authorize_iff.mp otherAuthorized).1
    -- both identities own the address, so that they are one
    have one := identity_eq_of_address ownerMember member allows permits
    exact different (otherClient.symm.trans (one ▸ sameClient))
  refine ⟨fun otherSpeaks => ?_, refuses⟩
  obtain ⟨-, otherHandle, otherFound, otherPermits⟩ := otherSpeaks.permitted
  rw [refuses otherHandle otherFound] at otherPermits
  cases otherPermits

/-! After the reload the example session sends a packet from its address. -/

def exampleIpPacket : List UInt8 :=
  [0x45, 0, 0, 20, 0, 0, 0, 0, 64, 17, 0, 0, 10, 66, 0, 2, 8, 8, 8, 8]

def exampleUplink : DataPathOp :=
  .ingestDatagram .uplink ([0x46, 0x57, 0x49, 0x31, 0, 0, 0, 7, 0, 20, 0, 0] ++ exampleIpPacket) 200

theorem tunnelAddress_exclusive_example :
    ∃ self clientId entry, exampleReloaded = some self ∧ self.SpeaksFor 0 (.v4 ⟨0x0a420002⟩) ∧
      self.state.active.lookup clientId = some entry ∧ entry.dataPath = 0 := by
  have evaluated : (exampleReloaded.bind fun self =>
      (self.heap.operate self.globalBudget 0 exampleUplink).map fun operated =>
        exampleUplink.passed operated.reply) = some (some (.uplink, exampleIpPacket)) := by
    decide +kernel
  obtain ⟨self, made, operates⟩ := Option.bind_eq_some_iff.mp evaluated
  obtain ⟨operated, ran, passed⟩ := Option.map_eq_some_iff.mp operates
  have inspected : inspectVpnIpPacket exampleIpPacket =
      .ok ⟨.v4 ⟨0x0a420002⟩, .v4 ⟨0x08080808⟩⟩ := by decide +kernel
  have speaks : self.SpeaksFor 0 (.v4 ⟨0x0a420002⟩) :=
    ⟨exampleUplink, operated, .uplink, exampleIpPacket, _, ran, passed, inspected, rfl⟩
  obtain ⟨log, run⟩ := exampleReloaded_run made
  obtain ⟨clientId, entry, -, listed, here, -⟩ :=
    tunnelAddress_exclusive exampleCoordinator_built run speaks
  exact ⟨self, clientId, entry, made, speaks, listed, here⟩

end FlowWeave.Vpn
