/-
# Vpn.ClientDataPath — the client's data paths (`src/vpn_client_data_path.rs`)

A client has a factory that lives longer than its sessions: the rate limiter, the
reassembly budget and the metrics are the factory's, and every handle it builds shares
them. The policy of a handle is made from the addresses of the ACCEPT and the client's
own list of destinations.

As with the coordinator, handles and the limiter live on a `DataPathHeap`, and `none`
is a panic. A run of a client is any sequence of `build` and of operations on the
handles; `ClientRun.extends` says that no handle changes its policy, and `client_total`
that there is no panic.
-/
import FlowWeave.Vpn.HeapTrace

namespace FlowWeave.Vpn

open DataPathHeap

set_option autoImplicit false

def vpnDefaultGlobalReassemblyBytes : Nat := 64 * 1024 * 1024

def vpnDefaultGlobalInflightPackets : Nat := 8192

/-! ## Config -/

inductive VpnClientDataPathConfigError where
  | invalidGlobalReassemblyBytes
  | invalidGlobalInflightPackets
  deriving DecidableEq, Repr

structure VpnClientDataPathConfig where
  allowedDestinations : List VpnIpNetwork
  limits : VpnIdentityLimits
  globalReassemblyBytes : Nat
  globalInflightPackets : Nat

namespace VpnClientDataPathConfig

/-- `VpnClientDataPathConfig::new`. -/
def new (allowedDestinations : List VpnIpNetwork) (limits : VpnIdentityLimits) :
    VpnClientDataPathConfig where
  allowedDestinations := allowedDestinations
  limits := limits
  globalReassemblyBytes := vpnDefaultGlobalReassemblyBytes
  globalInflightPackets := vpnDefaultGlobalInflightPackets

def validate (config : VpnClientDataPathConfig) : Except VpnClientDataPathConfigError Unit :=
  if ¬ (vpnMaxIpPacketLen ≤ config.globalReassemblyBytes ∧
      config.globalReassemblyBytes ≤ vpnMaxGlobalReassemblyBytes) then
    .error .invalidGlobalReassemblyBytes
  else if config.globalInflightPackets = 0 ∨
      config.globalInflightPackets > vpnMaxGlobalInflightPackets then
    .error .invalidGlobalInflightPackets
  else .ok ()

def withGlobalReassemblyLimits (config : VpnClientDataPathConfig) (bytes packets : Nat) :
    Except VpnClientDataPathConfigError VpnClientDataPathConfig := do
  let config := { config with globalReassemblyBytes := bytes, globalInflightPackets := packets }
  config.validate
  .ok config

end VpnClientDataPathConfig

/-! ## The factory -/

inductive VpnClientDataPathError where
  | invalidAccept (error : VpnControlError)
  | invalidPolicy (error : VpnIdentityError)
  | dataPath (error : VpnPacketError)
  deriving DecidableEq, Repr

/-- The factory, its limiter (the first of the heap) and the handles it has built. -/
structure VpnClientDataPathFactory where
  config : VpnClientDataPathConfig
  globalBudget : VpnGlobalReassemblyBudget
  heap : DataPathHeap

namespace VpnClientDataPathFactory

def newAt (config : VpnClientDataPathConfig) (now : Nat) :
    Except VpnClientDataPathConfigError VpnClientDataPathFactory := do
  config.validate
  match VpnGlobalReassemblyBudget.new config.globalReassemblyBytes config.globalInflightPackets with
  | none =>
    if ¬ (vpnMaxIpPacketLen ≤ config.globalReassemblyBytes ∧
        config.globalReassemblyBytes ≤ vpnMaxGlobalReassemblyBytes) then
      .error .invalidGlobalReassemblyBytes
    else .error .invalidGlobalInflightPackets
  | some globalBudget => .ok ⟨config, globalBudget, empty.newLimiter config.limits now⟩

/-- The inactive handle that `build` then activates. -/
def inactiveHandle (self : VpnClientDataPathFactory) (accept : VpnAccept) :
    Except VpnClientDataPathError VpnDataPathHandle :=
  match accept.validate with
  | .error error => .error (.invalidAccept error)
  | .ok () =>
    match VpnDataPolicy.new accept.clientIpv4 accept.clientIpv6
        self.config.allowedDestinations with
    | .error error => .error (.invalidPolicy error)
    | .ok policy =>
      match newPolicyInactive policy self.config.limits accept.maxIpPacketLen.toNat
          accept.sessionGeneration with
      | .error error => .error (.dataPath error)
      | .ok (inner, state) => .ok ⟨inner, state, 0⟩

/-- `build`: the place of the new handle. -/
def build (self : VpnClientDataPathFactory) (accept : VpnAccept) :
    Option (Except VpnClientDataPathError Nat × VpnClientDataPathFactory) :=
  match self.inactiveHandle accept with
  | .error error => some (.error error, self)
  | .ok handle => do
    let dataPath := self.heap.handles.length
    let heap ← (self.heap.newHandle handle).activate self.globalBudget dataPath
    some (.ok dataPath, { self with heap := heap })

end VpnClientDataPathFactory

open VpnClientDataPathFactory

/-! ## Runs -/

inductive ClientEvent where
  | built (accept : VpnAccept) (result : Except VpnClientDataPathError Nat)
  | operated (dataPath : Nat) (op : DataPathOp) (reply : DataPathReply) (admitted : List Nat)
  | rehashed

inductive ClientStep (self : VpnClientDataPathFactory) :
    ClientEvent → VpnClientDataPathFactory → Prop
  | build {accept : VpnAccept} {result : Except VpnClientDataPathError Nat}
      {after : VpnClientDataPathFactory} (returned : self.build accept = some (result, after)) :
      ClientStep self (.built accept result) after
  | operate {dataPath : Nat} {op : DataPathOp} {operated : Operated} (allowed : op ≠ .activate)
      (returned : self.heap.operate self.globalBudget dataPath op = some operated) :
      ClientStep self (.operated dataPath op operated.reply operated.admitted)
        { self with heap := operated.heap }
  | rehash {heap : DataPathHeap} (rehash : self.heap.Rehash heap) :
      ClientStep self .rehashed { self with heap := heap }

/-- A sequence of steps with what happened, newest first. -/
inductive ClientRun (first : VpnClientDataPathFactory) :
    List ClientEvent → VpnClientDataPathFactory → Prop
  | start : ClientRun first [] first
  | step {log : List ClientEvent} {self after : VpnClientDataPathFactory} {event : ClientEvent}
      (earlier : ClientRun first log self) (next : ClientStep self event after) :
      ClientRun first (event :: log) after

namespace VpnClientDataPathFactory

variable {self after : VpnClientDataPathFactory} {accept : VpnAccept}

/-- What a built handle is: it has the addresses and the packet size of a valid ACCEPT
and the factory's destinations and limiter, and it is not active yet. -/
theorem inactiveHandle_ok {handle : VpnDataPathHandle}
    (made : self.inactiveHandle accept = .ok handle) :
    accept.validate = .ok () ∧ handle.inner.policy.clientIpv4 = accept.clientIpv4 ∧
      handle.inner.policy.clientIpv6 = accept.clientIpv6 ∧
      handle.inner.policy.allowedDestinations = self.config.allowedDestinations ∧
      handle.inner.maxIpPacketLen = accept.maxIpPacketLen.toNat ∧
      VpnDataPathState.Good handle.inner handle.state ∧ handle.state.active = false ∧
      handle.rateLimiter = 0 := by
  unfold inactiveHandle at made
  split at made
  · cases made
  rename_i valid
  split at made
  · cases made
  rename_i policy isPolicy
  split at made
  · cases made
  · rename_i inner state built
    cases made
    obtain ⟨books, inactive, rfl⟩ := VpnDataPathState.newPolicyInactive_good built
    obtain ⟨ipv4, ipv6, destinations⟩ := VpnDataPolicy.new_eq_ok isPolicy
    exact ⟨valid, ipv4, ipv6, destinations, rfl, books, inactive, rfl⟩

/-- A handle that was built is made and switched on. -/
theorem build_run {dataPath : Nat} (returned : self.build accept = some (.ok dataPath, after)) :
    ∃ handle, self.inactiveHandle accept = .ok handle ∧
      dataPath = self.heap.handles.length ∧ after.globalBudget = self.globalBudget ∧
      (self.heap.newHandle handle).SwitchesTo self.globalBudget after.heap := by
  unfold build at returned
  split at returned
  · cases returned
  · rename_i handle made
    simp only [Option.bind_eq_bind, Option.bind_eq_some_iff] at returned
    obtain ⟨heap, activates, same⟩ := returned
    cases same
    exact ⟨handle, made, rfl, rfl, activate_switches activates⟩

theorem build_refused {error : VpnClientDataPathError}
    (returned : self.build accept = some (.error error, after)) : after = self := by
  unfold build at returned
  split at returned
  · cases returned
    rfl
  · simp only [Option.bind_eq_bind, Option.bind_eq_some_iff] at returned
    obtain ⟨_, _, same⟩ := returned
    cases same

/-- The handle that `build` returns. -/
theorem build_handle {dataPath : Nat} (returned : self.build accept = some (.ok dataPath, after)) :
    ∃ handle, after.heap.handles[dataPath]? = some handle ∧ accept.validate = .ok () ∧
      handle.inner.policy.clientIpv4 = accept.clientIpv4 ∧
      handle.inner.policy.clientIpv6 = accept.clientIpv6 := by
  obtain ⟨handle, made, rfl, -, step⟩ := build_run returned
  obtain ⟨later, isLater, inner, -⟩ := step.extends _ handle (newHandle_new handle)
  obtain ⟨valid, ipv4, ipv6, -⟩ := inactiveHandle_ok made
  exact ⟨later, isLater, valid, by rw [inner, ipv4], by rw [inner, ipv6]⟩

end VpnClientDataPathFactory

theorem ClientStep.extends {self after : VpnClientDataPathFactory} {event : ClientEvent}
    (step : ClientStep self event after) : self.heap.Extends after.heap := by
  cases step with
  | @build accept result _ returned =>
    cases result with
    | error error =>
      cases build_refused returned
      exact .refl _
    | ok dataPath =>
      obtain ⟨handle, -, -, -, step⟩ := build_run returned
      exact .trans (.newHandle handle) step.extends
  | operate allowed returned => exact (HeapStep.operate returned).extends
  | rehash rehash =>
    have step : HeapStep self.globalBudget self.heap .rehashed _ := .rehash rehash
    exact step.extends

theorem ClientRun.extends {first self : VpnClientDataPathFactory} {log : List ClientEvent}
    (run : ClientRun first log self) : first.heap.Extends self.heap := by
  induction run with
  | start => exact .refl _
  | step earlier next ih => exact ih.trans next.extends

/-! ## No panic -/

/-- The invariant of a client: its heap is good, and the limiter is there. -/
structure VpnClientDataPathFactory.Good (factory : VpnClientDataPathFactory) : Prop where
  heap : factory.heap.Good
  limiter : 0 < factory.heap.rateLimiters.length

namespace VpnClientDataPathFactory

variable {self after : VpnClientDataPathFactory}

theorem newAt_good {config : VpnClientDataPathConfig} {now : Nat}
    (made : newAt config now = .ok self) : self.Good := by
  unfold newAt at made
  cases validated : config.validate with
  | error error =>
    rw [validated] at made
    cases made
  | ok value =>
    rw [validated] at made
    change (match VpnGlobalReassemblyBudget.new _ _ with | none => _ | some _ => _) = _ at made
    split at made
    · split at made <;> cases made
    · cases made
      exact ⟨newLimiter_good empty_good config.limits now, Nat.one_pos⟩

/-- **`build`** runs through. -/
theorem Good.build (good : self.Good) (accept : VpnAccept) :
    ∃ result after, self.build accept = some (result, after) ∧ after.Good := by
  unfold VpnClientDataPathFactory.build
  cases made : self.inactiveHandle accept with
  | error error => exact ⟨.error error, self, rfl, good⟩
  | ok handle =>
    obtain ⟨-, -, -, -, -, books, inactive, limiter⟩ := inactiveHandle_ok made
    have newGood := newHandle_good good.heap books inactive
      (by rw [limiter]; exact good.limiter)
    obtain ⟨heap, activates, heapGood, frame, -⟩ := activate_spec newGood
      self.globalBudget (newHandle_new handle)
    simp only [activates, Option.bind_eq_bind, Option.bind_some]
    refine ⟨_, _, rfl, heapGood, ?_⟩
    rw [frame.rateLimiters]
    exact good.limiter

end VpnClientDataPathFactory

theorem ClientStep.good {self after : VpnClientDataPathFactory} {event : ClientEvent}
    (good : self.Good) (step : ClientStep self event after) : after.Good := by
  cases step with
  | build returned =>
    obtain ⟨result, later, runs, laterGood⟩ := good.build _
    cases returned.symm.trans runs
    exact laterGood
  | operate allowed returned =>
    obtain ⟨heapGood, frame, -⟩ := operate_frame good.heap returned
    exact ⟨heapGood, by rw [frame.rateLimiters]; exact good.limiter⟩
  | rehash rehash =>
    obtain ⟨heapGood, frame, -⟩ := rehash.spec good.heap
    exact ⟨heapGood, by rw [frame.rateLimiters]; exact good.limiter⟩

theorem ClientRun.good {first self : VpnClientDataPathFactory} {log : List ClientEvent}
    (good : first.Good) (run : ClientRun first log self) : self.Good := by
  induction run with
  | start => exact good
  | step earlier next ih => exact next.good ih

/-- **A client does not panic**: in every state it reaches the shared counters are what its handles
hold, `build` returns, and so does every operation of a handle that was built. -/
theorem client_total {config : VpnClientDataPathConfig} {now : Nat}
    {first self : VpnClientDataPathFactory} {log : List ClientEvent}
    (made : VpnClientDataPathFactory.newAt config now = .ok first)
    (run : ClientRun first log self) :
    (∀ counter, self.heap.counters counter =
        (self.heap.handles.map fun handle => handle.state.owned counter).sum) ∧
      (∀ accept, self.build accept ≠ none) ∧
      ∀ dataPath < self.heap.handles.length, ∀ op,
        self.heap.operate self.globalBudget dataPath op ≠ none := by
  have good := run.good (newAt_good made)
  refine ⟨good.heap.ledger, ?_, ?_⟩
  · intro accept panics
    obtain ⟨result, after, runs, -⟩ := good.build accept
    cases panics.symm.trans runs
  · intro dataPath inside op panics
    obtain ⟨operated, state, runs, -⟩ := operate_spec good.heap self.globalBudget
      (List.getElem?_eq_getElem inside) op
    cases panics.symm.trans runs

def exampleClientFactory : VpnClientDataPathFactory :=
  ⟨⟨[.exampleAnyV4], ⟨1, 1000, 1000000, 65535, by decide⟩, 65535, 1⟩, exampleSmallBudget,
    empty.newLimiter ⟨1, 1000, 1000000, 65535, by decide⟩ 0⟩

/-- A packet from 10.66.0.2 to 8.8.8.8. -/
def exampleEncode : DataPathOp :=
  .encodeIpPacket .uplink 1
    [0x45, 0, 0, 20, 0, 0, 0, 0, 64, 17, 0, 0, 10, 66, 0, 2, 8, 8, 8, 8] 1200 0

/-- After a handle has been built and a packet encoded with it. -/
theorem client_total_example :
    ∃ self datagram, ClientRun exampleClientFactory
        [.operated 0 exampleEncode (.encoded (.ok [datagram])) [32],
          .built exampleAccept (.ok 0)] self ∧
      (∀ accept, self.build accept ≠ none) ∧
      ∀ op, self.heap.operate self.globalBudget 0 op ≠ none := by
  have made : newAt exampleClientFactory.config 0 =
      .ok exampleClientFactory := rfl
  have built : ClientRun exampleClientFactory [.built exampleAccept (.ok 0)] _ :=
    .step .start (.build rfl)
  have operated := built.step (@ClientStep.operate _ 0 exampleEncode _ nofun rfl)
  obtain ⟨-, builds, operates⟩ := client_total made operated
  exact ⟨_, _, operated, builds, operates 0 (by decide)⟩

end FlowWeave.Vpn
