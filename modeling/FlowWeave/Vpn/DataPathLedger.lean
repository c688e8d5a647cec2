/-
# Vpn.DataPathLedger — what the programs of a data path do to the shared counters

Each program of `Vpn.DataPath` has one specification, a `Wp`. The ones of whole
operations start from `Good` and end in `Ends`: the state is `Good` again, exactly
its accounted amounts are held in the shared counters, and the result is none of
the three errors that would mean a fault of the accounting itself.
-/
import FlowWeave.Vpn.DataPathInvariant

namespace FlowWeave.Vpn

open Theory.MachineInt VpnDataPathState VpnReassembler
open Theory.SharedLedger (Program)
open Theory.SharedLedger.Program (Wp deposit withdraw)
open VpnReassembler (Prunes)
open VpnDataPathState (Buffers Covered Good Shrinks)

set_option autoImplicit false

/-! ## The two counters -/

@[simp] theorem amounts_zero : amounts 0 0 = 0 := by
  funext counter
  cases counter <;> rfl

theorem amounts_add (bytes packets moreBytes morePackets : Nat) :
    amounts bytes packets + amounts moreBytes morePackets =
      amounts (bytes + moreBytes) (packets + morePackets) := by
  funext counter
  cases counter <;> rfl

@[simp] theorem withdraw_bytes (bytes packets amount : Nat) :
    withdraw (amounts bytes packets) .bytes amount = amounts (bytes - amount) packets := by
  funext counter
  cases counter <;> rfl

@[simp] theorem withdraw_packets (bytes packets amount : Nat) :
    withdraw (amounts bytes packets) .packets amount = amounts bytes (packets - amount) := by
  funext counter
  cases counter <;> rfl

@[simp] theorem deposit_bytes (bytes packets amount : Nat) :
    deposit (amounts bytes packets) .bytes amount = amounts (bytes + amount) packets := by
  funext counter
  cases counter <;> rfl

@[simp] theorem deposit_packets (bytes packets amount : Nat) :
    deposit (amounts bytes packets) .packets amount = amounts bytes (packets + amount) := by
  funext counter
  cases counter <;> rfl

/-! ## Calls and books -/

theorem record_wp (event : MetricEvent) (own : LedgerCounter → Nat) :
    Wp (record event) own fun _ held => held = own := fun _ => rfl

theorem admitDatagrams_wp (direction : VpnPacketDirection) (datagramLengths : List Nat)
    (now : Nat) (own : LedgerCounter → Nat) :
    Wp (admitDatagrams direction datagramLengths now) own fun answer held =>
      IdentityRateState.RateAnswer answer ∧ held = own := fun answer => ⟨answer.2, rfl⟩

theorem book_wp {accounted reserved own : LedgerCounter → Nat}
    (exact_ : accounted + reserved = own) :
    Wp (book accounted reserved) own fun _ held => held = own := ⟨exact_, rfl⟩

/-! ## The budget -/

/-- `subtract` leaves a counter alone for the amount zero, which is the same as
taking zero from it. -/
theorem subtract_wp {counter : LedgerCounter} {amount : Nat} {own : LedgerCounter → Nat}
    (covered : amount ≤ own counter) :
    Wp (subtract counter amount) own fun _ held => held = withdraw own counter amount := by
  unfold subtract
  split
  · rename_i zero
    subst zero
    exact (Function.update_eq_self counter own).symm
  · exact ⟨covered, rfl⟩

theorem release_wp {bytes packets ownBytes ownPackets : Nat} (coversBytes : bytes ≤ ownBytes)
    (coversPackets : packets ≤ ownPackets) :
    Wp (release bytes packets) (amounts ownBytes ownPackets) fun _ held =>
      held = amounts (ownBytes - bytes) (ownPackets - packets) := by
  refine (subtract_wp coversBytes).seq fun _ held taken => ?_
  rw [withdraw_bytes] at taken
  subst taken
  refine (subtract_wp coversPackets).mono fun _ held taken => ?_
  rw [taken, withdraw_packets]

/-- A reservation adds to both counters or, after a roll-back, to neither. -/
theorem tryReserve_wp (bytes packets ownBytes ownPackets : Nat) :
    Wp (tryReserve bytes packets) (amounts ownBytes ownPackets) fun result held =>
      (result = .ok ⟨bytes, packets⟩ ∧
        held = amounts (ownBytes + bytes) (ownPackets + packets)) ∨
      ((result = .error .globalReassemblyLimit ∨ result = .error .globalInflightLimit) ∧
        held = amounts ownBytes ownPackets) := by
  refine ⟨fun currentBytes => ⟨fun currentPackets => ?_, ?_⟩, ?_⟩
  · exact fun _ => .inl ⟨rfl, by rw [deposit_bytes, deposit_packets]⟩
  · rw [deposit_bytes]
    refine (subtract_wp (Nat.le_add_left bytes ownBytes)).seq fun _ held taken => ?_
    refine fun _ => .inr ⟨.inr rfl, ?_⟩
    rw [taken, withdraw_bytes, Nat.add_sub_cancel]
  · exact fun _ => .inr ⟨.inl rfl, rfl⟩

/-- A reservation that covers what was added is settled exactly. -/
theorem VpnGlobalReassemblyReservation.reconcile_wp (reservation : VpnGlobalReassemblyReservation)
    {accountedBytes accountedPackets actualBytes actualPackets : Nat}
    (bytesFit : accountedBytes + reservation.bytes ≤ usizeMax)
    (packetsFit : accountedPackets + reservation.packets ≤ usizeMax)
    (bytes : actualBytes ≤ accountedBytes + reservation.bytes)
    (packets : actualPackets ≤ accountedPackets + reservation.packets) :
    Wp (reservation.reconcile accountedBytes accountedPackets actualBytes actualPackets)
      (amounts (accountedBytes + reservation.bytes) (accountedPackets + reservation.packets))
      fun result held => result = some (actualBytes, actualPackets) ∧
        held = amounts actualBytes actualPackets := by
  have within : ¬ (actualBytes > accountedBytes + reservation.bytes ∨
      actualPackets > accountedPackets + reservation.packets) := by omega
  simp only [reconcile, checkedAdd_eq_some bytesFit, checkedAdd_eq_some packetsFit,
    if_neg within]
  refine (release_wp (Nat.sub_le _ _) (Nat.sub_le _ _)).seq fun _ held released => ?_
  rw [Nat.sub_sub_self bytes, Nat.sub_sub_self packets] at released
  subst released
  refine (book_wp (add_zero _)).seq fun _ held booked => ?_
  subst booked
  refine (release_wp (Nat.zero_le _) (Nat.zero_le _)).seq fun _ held released => ?_
  exact ⟨rfl, released⟩

/-! ## Accounting -/

namespace VpnDataPathState

/-- The state with its books adjusted to what it buffers. -/
def settled (state : VpnDataPathState) : VpnDataPathState :=
  { state with accountedBytes := state.heldBytes, accountedPackets := state.heldPackets }

@[simp] theorem settled_reassembler (state : VpnDataPathState) (direction : VpnPacketDirection) :
    state.settled.reassembler direction = state.reassembler direction := by
  cases direction <;> rfl

theorem Buffers.settled {inner : VpnDataPathInner} {state : VpnDataPathState}
    (buffers : Buffers inner state) (bytes_le : state.heldBytes ≤ inner.maxReassemblyBytes)
    (packets_le : state.heldPackets ≤ vpnDefaultMaxInflightPackets)
    (inactive : state.active = false → state.heldBytes = 0 ∧ state.heldPackets = 0) :
    Good inner state.settled where
  buffers := fun direction => by
    rw [settled_reassembler]
    exact buffers direction
  bytes := le_rfl
  packets := le_rfl
  bytes_le := bytes_le
  packets_le := packets_le
  inactive := inactive
  exactBytes := rfl
  exactPackets := rfl

theorem Covered.settled {inner : VpnDataPathInner} {state : VpnDataPathState}
    (covered : Covered inner state) : Good inner state.settled := by
  have bytes := covered.bytes
  have packets := covered.packets
  refine covered.buffers.settled (le_trans bytes covered.bytes_le)
    (le_trans packets covered.packets_le) fun inactive => ?_
  obtain ⟨noBytes, noPackets⟩ := covered.inactive inactive
  omega

end VpnDataPathState

theorem reconcileShrink_wp {inner : VpnDataPathInner} {state : VpnDataPathState}
    (covered : Covered inner state) :
    Wp (reconcileShrink state) state.owned fun result held =>
      result = some state.settled ∧ held = state.settled.owned := by
  obtain ⟨sameBytes, samePackets⟩ := covered.buffers.usage
  have bytes := covered.bytes
  have packets := covered.packets
  have within : ¬ (state.heldBytes > state.accountedBytes ∨
      state.heldPackets > state.accountedPackets) := by omega
  simp only [reconcileShrink, sameBytes, samePackets, if_neg within]
  refine (release_wp (Nat.sub_le _ _) (Nat.sub_le _ _)).seq fun _ held released => ?_
  rw [Nat.sub_sub_self bytes, Nat.sub_sub_self packets] at released
  subst released
  exact ⟨add_zero _, rfl, rfl⟩

/-- A check that cannot fail, and the rest from the adjusted books. -/
theorem reconcileShrinkElseFail_wp {α : Type} {inner : VpnDataPathInner}
    {state : VpnDataPathState} (covered : Covered inner state)
    {rest : VpnDataPathState → DataPathM (Except VpnDataPathError α × VpnDataPathState)}
    {Q : Except VpnDataPathError α × VpnDataPathState → (LedgerCounter → Nat) → Prop}
    (continues : Wp (rest state.settled) state.settled.owned Q) :
    Wp (reconcileShrinkElseFail state rest) state.owned Q := by
  refine (reconcileShrink_wp covered).seq fun result held promised => ?_
  obtain ⟨rfl, rfl⟩ := promised
  exact continues

theorem releaseAllAccounted_wp (state : VpnDataPathState) :
    Wp (releaseAllAccounted state) state.owned fun after held =>
      after = { state with accountedBytes := 0, accountedPackets := 0 } ∧ held = 0 := by
  refine (release_wp le_rfl le_rfl).seq fun _ held released => ?_
  rw [Nat.sub_self, Nat.sub_self, amounts_zero] at released
  subst released
  exact ⟨add_zero _, rfl, rfl⟩

/-! ## Ingesting under the lock -/

namespace VpnDataPathState

@[simp] theorem ingestAt_snd (state : VpnDataPathState) (direction : VpnPacketDirection)
    (now : Nat) (datagram : List UInt8) :
    (state.ingestAt direction now datagram).2 =
      state.setReassembler direction ((state.reassembler direction).ingest now datagram).2 := rfl

variable {datagram : List UInt8} {now : Nat} {state : VpnDataPathState}
  {direction : VpnPacketDirection} {inner : VpnDataPathInner}

/-- A datagram that announces nothing to buffer only removes packets. -/
theorem ingestAt_shrinks (fresh : (state.reassembler direction).Fresh now)
    (refused : ∀ fragment, decodeVpnIpFragment datagram = .ok fragment →
      ∃ error, (state.reassembler direction).additionalBufferedBytes fragment = .error error) :
    Shrinks state (state.ingestAt direction now datagram).2 :=
  setReassembler_shrinks state (ingest_prunes_of_refused refused fresh).1

theorem ingestAt_buffers (buffers : Buffers inner state) (direction : VpnPacketDirection)
    (now : Nat) (datagram : List UInt8) :
    Buffers inner (state.ingestAt direction now datagram).2 := by
  rw [ingestAt_snd]
  refine forall_direction direction ?_ ?_
  · rw [setReassembler_same, ingest_limits]
    exact ⟨ingest_good (buffers direction).1 now datagram, (buffers direction).2⟩
  · rw [setReassembler_other]
    exact buffers _

/-- What is announced covers what is buffered. -/
theorem ingestAt_usage (buffers : Buffers inner state) {fragment : VpnFragment} {additional : Nat}
    (fresh : (state.reassembler direction).Fresh now)
    (decoded : decodeVpnIpFragment datagram = .ok fragment)
    (announced : (state.reassembler direction).additionalBufferedBytes fragment = .ok additional) :
    (state.ingestAt direction now datagram).2.heldBytes ≤
        state.heldBytes + (state.reassembler direction).announcedBytes fragment additional ∧
      (state.ingestAt direction now datagram).2.heldPackets ≤
        state.heldPackets + (state.reassembler direction).announcedPackets fragment := by
  have within := ingest_usage_le (buffers direction).1 fresh decoded announced
  rw [ingestAt_snd, heldBytes_split state direction, heldPackets_split state direction,
    heldBytes_split _ direction, heldPackets_split _ direction, setReassembler_same,
    setReassembler_other]
  obtain ⟨bytes, packets⟩ := within
  omega

@[simp] theorem setReassembler_owned (state : VpnDataPathState) (direction : VpnPacketDirection)
    (reassembler : VpnReassembler) :
    (state.setReassembler direction reassembler).owned = state.owned := by
  cases direction <;> rfl

/-- An ingest that adds nothing stays covered. -/
theorem Covered.ingestAt (covered : Covered inner state)
    (bytes : (state.ingestAt direction now datagram).2.heldBytes ≤ state.heldBytes)
    (packets : (state.ingestAt direction now datagram).2.heldPackets ≤ state.heldPackets) :
    Covered inner (state.ingestAt direction now datagram).2 where
  buffers := ingestAt_buffers covered.buffers direction now datagram
  bytes := by
    rw [ingestAt_snd, setReassembler_accountedBytes]
    exact le_trans bytes covered.bytes
  packets := by
    rw [ingestAt_snd, setReassembler_accountedPackets]
    exact le_trans packets covered.packets
  bytes_le := by rw [ingestAt_snd, setReassembler_accountedBytes]; exact covered.bytes_le
  packets_le := by rw [ingestAt_snd, setReassembler_accountedPackets]; exact covered.packets_le
  inactive := by
    rw [ingestAt_snd, setReassembler_active, setReassembler_accountedBytes,
      setReassembler_accountedPackets]
    exact covered.inactive

end VpnDataPathState

/-- The errors that would mean that the accounting itself is wrong. -/
def VpnDataPathError.isInternal : VpnDataPathError → Bool
  | .resourceAccountingInvariant => true
  | .quota .identityReassemblyLimit => true
  | .quota .identityInflightLimit => true
  | _ => false

theorem IdentityRateState.RateAnswer.external {rejection : VpnQuotaRejection}
    (rate : RateAnswer (.error rejection)) :
    (VpnDataPathError.quota rejection).isInternal = false := by
  have ofRate := rate rejection rfl
  cases rejection <;> first | rfl | cases ofRate

/-- How an operation ends. -/
structure Ends {α : Type} (inner : VpnDataPathInner) (before : VpnDataPathState)
    (outcome : Except VpnDataPathError α × VpnDataPathState) (held : LedgerCounter → Nat) :
    Prop where
  good : Good inner outcome.2
  owned : held = outcome.2.owned
  active : outcome.2.active = before.active
  external : ∀ error, outcome.1 = .error error → error.isInternal = false

namespace VpnDataPathInner

variable {inner : VpnDataPathInner} {state : VpnDataPathState} {direction : VpnPacketDirection}
  {now : Nat} {datagram : List UInt8} {fragment : VpnFragment}

/-- With room for what is announced, ingesting and then settling keeps the
invariant, and a reservation of the additional bytes covers what is added. -/
theorem ingestAt_reserved {additionalBytes : Nat} (good : Good inner state)
    (active : state.active = true) (fresh : (state.reassembler direction).Fresh now)
    (decoded : decodeVpnIpFragment datagram = .ok fragment)
    (announced : (state.reassembler direction).additionalBufferedBytes fragment =
      .ok additionalBytes)
    (byteRoom : state.heldBytes +
      (state.reassembler direction).announcedBytes fragment additionalBytes ≤
        inner.maxReassemblyBytes)
    (packetRoom : state.heldPackets + (state.reassembler direction).announcedPackets fragment ≤
      vpnDefaultMaxInflightPackets) :
    Good inner (state.ingestAt direction now datagram).2.settled ∧
      (state.ingestAt direction now datagram).2.heldBytes ≤
        state.accountedBytes + additionalBytes ∧
      (state.ingestAt direction now datagram).2.heldPackets ≤ state.accountedPackets +
        if !(state.reassembler direction).containsPacket fragment.packetId then 1 else 0 := by
  obtain ⟨bytes, packets⟩ :=
    ingestAt_usage good.buffers fresh decoded announced
  have buffers := ingestAt_buffers good.buffers direction now datagram
  refine ⟨buffers.settled (le_trans bytes byteRoom) (le_trans packets packetRoom) ?_, ?_, ?_⟩
  · intro inactive
    rw [ingestAt_snd, setReassembler_active, active] at inactive
    cases inactive
  · rw [good.exactBytes]
    refine le_trans bytes (Nat.add_le_add_left ?_ _)
    unfold announcedBytes
    split <;> omega
  · rw [good.exactPackets]
    refine le_trans packets (Nat.add_le_add_left ?_ _)
    unfold announcedPackets
    cases (state.reassembler direction).containsPacket fragment.packetId <;>
      cases (state.reassembler direction).fragmentWillComplete fragment <;> decide

/-- A reservation that covers what an ingest adds is settled to what is buffered then. -/
theorem reconcile_ingestAt_wp (good : Good inner state) {bytes packets : Nat}
    (few : bytes ≤ vpnMaxIpPacketLen) (one : packets ≤ 1)
    {after : VpnDataPathState} (ingested : after = (state.ingestAt direction now datagram).2)
    (bytesCovered : after.heldBytes ≤ state.accountedBytes + bytes)
    (packetsCovered : after.heldPackets ≤ state.accountedPackets + packets) :
    Wp (VpnGlobalReassemblyReservation.reconcile ⟨bytes, packets⟩ after.accountedBytes
        after.accountedPackets after.bufferedBytes after.inflightPackets)
      (amounts (state.accountedBytes + bytes) (state.accountedPackets + packets))
      fun result held => result = some (after.heldBytes, after.heldPackets) ∧
        held = after.settled.owned := by
  obtain ⟨sameUsage, samePacketUsage⟩ :=
    (ingestAt_buffers good.buffers direction now datagram).usage
  obtain ⟨bytesSmall, packetsSmall⟩ := good.buffers.small
  have bytesFit : state.accountedBytes + bytes ≤ usizeMax := by
    rw [good.exactBytes]
    simp only [vpnMaxIpPacketLen, usizeMax] at bytesSmall few ⊢
    omega
  have packetsFit : state.accountedPackets + packets ≤ usizeMax := by
    rw [good.exactPackets]
    simp only [vpnDefaultMaxInflightPackets, usizeMax] at packetsSmall ⊢
    omega
  have accountedBytes : after.accountedBytes = state.accountedBytes := by
    rw [ingested]
    exact setReassembler_accountedBytes _ _ _
  have accountedPackets : after.accountedPackets = state.accountedPackets := by
    rw [ingested]
    exact setReassembler_accountedPackets _ _ _
  rw [← ingested] at sameUsage samePacketUsage
  rw [sameUsage, samePacketUsage, accountedBytes, accountedPackets]
  exact VpnGlobalReassemblyReservation.reconcile_wp ⟨bytes, packets⟩ bytesFit packetsFit
    bytesCovered packetsCovered

theorem ingestReserved_wp {additionalBytes : Nat} (good : Good inner state)
    (active : state.active = true) (fresh : (state.reassembler direction).Fresh now)
    (decoded : decodeVpnIpFragment datagram = .ok fragment)
    (announced : (state.reassembler direction).additionalBufferedBytes fragment =
      .ok additionalBytes) :
    Wp (inner.ingestReserved direction now datagram fragment additionalBytes state) state.owned
      (Ends inner state) := by
  have wellFormed := decodeVpnIpFragment_wellFormed decoded
  have fits := additional_fits (good.buffers direction).1 wellFormed announced
  set existing := (state.reassembler direction).containsPacket fragment.packetId with existingDef
  set completes := (state.reassembler direction).fragmentWillComplete fragment with completesDef
  have atMost : (if !existing && !completes then 1 else 0) ≤ if existing then 0 else 1 := by
    cases existing <;> cases completes <;> decide
  have bytesFit : (state.reassembler direction).receivedBytesOf fragment.packetId +
      (if completes then 0 else additionalBytes) ≤ vpnMaxIpPacketLen := by
    split <;> omega
  obtain ⟨roomy, ran, shrinks, same, byteRoom, packetRoom⟩ :=
    inner.makeIdentityRoom_room atMost (state.inflightPackets + 1) good.buffers
      existingDef.symm bytesFit (by rw [good.buffers.usage.2]; exact Nat.lt_succ_self _)
  have roomyCovered := shrinks.covered good.toCovered
  have settledGood := roomyCovered.settled
  obtain ⟨sameAdditional, sameExisting, sameCompletes⟩ :=
    announced_congr fragment same
  -- the fragment announces to the settled state what it announced before
  have sameBytes : (roomy.settled.reassembler direction).announcedBytes fragment
      additionalBytes = if completes then 0 else additionalBytes := by
    rw [settled_reassembler, announcedBytes, sameCompletes]
  have samePackets : (roomy.settled.reassembler direction).announcedPackets fragment =
      if !existing && !completes then 1 else 0 := by
    rw [settled_reassembler, announcedPackets, sameExisting,
      sameCompletes, ← existingDef, ← completesDef]
    cases existing <;> cases completes <;> rfl
  have fresh' : (roomy.settled.reassembler direction).Fresh now := by
    rw [settled_reassembler]
    exact (shrinks.prunes direction).fresh fresh
  have announced' : (roomy.settled.reassembler direction).additionalBufferedBytes fragment =
      .ok additionalBytes := by
    rw [settled_reassembler, sameAdditional, announced]
  obtain ⟨ingestedGood, bytesCovered, packetsCovered⟩ :=
    ingestAt_reserved settledGood (shrinks.active.trans active) fresh' decoded announced'
      (sameBytes ▸ byteRoom) (samePackets ▸ packetRoom)
  rw [settled_reassembler, sameExisting, ← existingDef] at packetsCovered
  unfold ingestReserved
  simp only [← existingDef, ← completesDef, ran]
  rw [← shrinks.owned_eq]
  show Wp (reconcileShrinkElseFail roomy _) _ _
  refine reconcileShrinkElseFail_wp roomyCovered ?_
  refine (tryReserve_wp _ _ _ _).seq fun result held promised => ?_
  rcases promised with ⟨rfl, rfl⟩ | ⟨rejected, rfl⟩
  · refine (book_wp (amounts_add _ _ _ _)).seq fun _ held booked => ?_
    subst booked
    refine (reconcile_ingestAt_wp settledGood (by omega) (by split <;> decide) rfl bytesCovered
      packetsCovered).seq fun result held promised => ?_
    obtain ⟨rfl, rfl⟩ := promised
    refine ⟨ingestedGood, rfl, ?_, fun error isError => by cases isError⟩
    show (roomy.settled.setReassembler direction _).active = state.active
    rw [setReassembler_active]
    exact shrinks.active
  · rcases rejected with rfl | rfl
    · exact ⟨settledGood, rfl, shrinks.active, fun error isError => by cases isError; rfl⟩
    · exact ⟨settledGood, rfl, shrinks.active, fun error isError => by cases isError; rfl⟩

/-- An operation that ends with adjusting the books. -/
theorem settle_ends {α : Type} {after : VpnDataPathState} (covered : Covered inner after)
    (active : after.active = state.active) {result : Except VpnDataPathError α}
    (external : ∀ error, result = .error error → error.isInternal = false) :
    Wp (reconcileShrinkElseFail after fun settled => pure (result, settled)) after.owned
      (Ends inner state) :=
  reconcileShrinkElseFail_wp covered ⟨covered.settled, rfl, active, external⟩

theorem ingestFragment_wp (good : Good inner state) (active : state.active = true)
    (fresh : (state.reassembler direction).Fresh now)
    (decoded : decodeVpnIpFragment datagram = .ok fragment) :
    Wp (inner.ingestFragment direction now datagram fragment state) state.owned
      (Ends inner state) := by
  have wellFormed := decodeVpnIpFragment_wellFormed decoded
  unfold ingestFragment
  split
  · -- larger than negotiated: the partial packet of that id is discarded
    have shrinks := state.setReassembler_shrinks
      ((state.reassembler direction).rejectDecodedFragment_prunes fragment.packetId)
    rw [← shrinks.owned_eq]
    exact settle_ends (shrinks.covered good.toCovered) shrinks.active
      fun error isError => by cases isError; rfl
  · cases announced : (state.reassembler direction).additionalBufferedBytes fragment with
    | error error =>
      have shrinks : Shrinks state (state.ingestAt direction now datagram).2 := by
        apply ingestAt_shrinks fresh
        intro other decodedOther
        rw [decoded] at decodedOther
        cases decodedOther
        exact ⟨error, announced⟩
      rw [← shrinks.owned_eq]
      exact settle_ends (shrinks.covered good.toCovered) shrinks.active
        fun error isError => by cases isError
    | ok additionalBytes =>
      cases additionalBytes with
      | zero =>
        -- a copy of a stored fragment
        have contains := containsPacket_of_nothing wellFormed announced
        obtain ⟨bytes, packets⟩ :=
          ingestAt_usage good.buffers fresh decoded announced
        simp only [announcedBytes, announcedPackets, contains,
          true_or, if_true, ite_self, Nat.add_zero] at bytes packets
        have covered := good.toCovered.ingestAt bytes packets
        have owned : (state.ingestAt direction now datagram).2.owned = state.owned :=
          setReassembler_owned _ _ _
        rw [← owned]
        exact settle_ends covered (setReassembler_active _ _ _)
          fun error isError => by cases isError
      | succ additionalBytes =>
        exact ingestReserved_wp good active fresh decoded announced

theorem ingestLocked_wp (good : Good inner state) :
    Wp (inner.ingestLocked direction now datagram state) state.owned (Ends inner state) := by
  unfold ingestLocked
  cases active : state.active with
  | false =>
    refine (record_wp _ _).seq fun _ held unchanged => ?_
    subst unchanged
    exact ⟨good, rfl, rfl, fun error isError => by cases isError; rfl⟩
  | true =>
    refine (admitDatagrams_wp _ _ _ _).seq fun answer held admitted => ?_
    obtain ⟨rate, rfl⟩ := admitted
    cases answer with
    | error rejection =>
      refine ⟨good, rfl, rfl, fun error isError => ?_⟩
      cases isError
      exact rate.external
    | ok admitted =>
      have shrinks := state.expire_shrinks now
      have covered := shrinks.covered good.toCovered
      have settledGood := covered.settled
      have fresh : ((state.expire now).settled.reassembler direction).Fresh now := by
        rw [settled_reassembler]
        cases direction with
        | uplink => exact expire_fresh _ _
        | downlink => exact expire_fresh _ _
      rw [← shrinks.owned_eq]
      refine reconcileShrinkElseFail_wp covered ?_
      cases decoded : decodeVpnIpFragment datagram with
      | error expected =>
        have pruned : Shrinks (state.expire now).settled
            ((state.expire now).settled.ingestAt direction now datagram).2 := by
          apply ingestAt_shrinks fresh
          intro fragment decodedOther
          rw [decoded] at decodedOther
          cases decodedOther
        rw [← pruned.owned_eq]
        exact settle_ends (pruned.covered settledGood.toCovered)
          (pruned.active.trans shrinks.active) fun error isError => by cases isError; rfl
      | ok fragment =>
        refine (ingestFragment_wp settledGood (shrinks.active.trans active) fresh
          decoded).mono fun outcome held ends => ?_
        exact ⟨ends.good, ends.owned, ends.active.trans shrinks.active, ends.external⟩

/-! ## Whole operations -/

theorem deliver_wp (result : Except VpnPacketError (Option (List UInt8)))
    (own : LedgerCounter → Nat) :
    Wp (inner.deliver direction result) own fun delivered held => held = own ∧
      ∀ error, delivered = .error error → error.isInternal = false := by
  cases result with
  | error error =>
    simp only [deliver]
    split
    · refine (record_wp _ _).seq fun _ held unchanged => ?_
      exact ⟨unchanged, fun error isError => by cases isError; rfl⟩
    · exact ⟨rfl, fun error isError => by cases isError; rfl⟩
  | ok packet =>
    cases packet with
    | none => exact ⟨rfl, fun error isError => by cases isError⟩
    | some packet =>
      refine (record_wp _ _).seq fun _ held unchanged => ?_
      cases validateVpnIpPacketPolicy inner.policy direction packet with
      | error error => exact ⟨unchanged, fun error isError => by cases isError; rfl⟩
      | ok metadata => exact ⟨unchanged, fun error isError => by cases isError⟩

theorem ingestDatagram_wp (good : Good inner state) :
    Wp (inner.ingestDatagram direction datagram now state) state.owned (Ends inner state) := by
  refine (ingestLocked_wp good).seq fun outcome held ends => ?_
  obtain ⟨result, after⟩ := outcome
  cases result with
  | error error =>
    exact ⟨ends.good, ends.owned, ends.active, fun other isError => by
      cases isError
      exact ends.external error rfl⟩
  | ok result =>
    refine (deliver_wp result held).seq fun delivered held' promised => ?_
    obtain ⟨rfl, external⟩ := promised
    exact ⟨ends.good, ends.owned, ends.active, external⟩

end VpnDataPathInner

section Operations

variable {inner : VpnDataPathInner} {state : VpnDataPathState}

theorem expireReassembly_wp (good : Good inner state) (now : Nat) :
    Wp (expireReassembly now state) state.owned fun outcome held =>
      Good inner outcome.2 ∧ held = outcome.2.owned ∧ outcome.2.active = state.active := by
  have shrinks := state.expire_shrinks now
  have covered := shrinks.covered good.toCovered
  rw [← shrinks.owned_eq]
  refine (reconcileShrink_wp covered).seq fun result held promised => ?_
  obtain ⟨rfl, rfl⟩ := promised
  exact ⟨covered.settled, rfl, shrinks.active⟩

theorem activate_wp (good : Good inner state) :
    Wp (activate state) state.owned fun after held =>
      Good inner after ∧ held = after.owned ∧ after.active = true :=
  ⟨good.activated, rfl, rfl⟩

theorem deactivate_wp (good : Good inner state) :
    Wp (deactivate state) state.owned fun after held =>
      Good inner after ∧ held = after.owned ∧ after.active = false := by
  refine (releaseAllAccounted_wp _).mono fun after held promised => ?_
  obtain ⟨rfl, rfl⟩ := promised
  have buffers : Buffers inner { state with active := false } := by
    intro direction
    cases direction with
    | uplink => exact good.buffers .uplink
    | downlink => exact good.buffers .downlink
  exact ⟨buffers.cleared, amounts_zero.symm, rfl⟩

theorem dropInner_wp (state : VpnDataPathState) :
    Wp (dropInner state) state.owned fun _ held => held = 0 := by
  refine (releaseAllAccounted_wp state).seq fun after held promised => ?_
  exact promised.2

end Operations

end FlowWeave.Vpn
