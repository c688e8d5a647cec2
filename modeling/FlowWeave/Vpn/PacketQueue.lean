/-
# Vpn.PacketQueue — the budget of a packet queue (`src/vpn_datagram_runtime.rs`)

A bounded channel with a budget of packets and bytes beside it, used by any number of threads. A
sender reserves bytes, then a packet, raises the peaks and sends; every one of these is an atomic
step of its own, and so are those of a reservation that is taken back and of a lease that is
released. An entry carries its lease through the channel to whoever receives it. Dropping the
receiver closes the channel and drops what is in it, entry by entry.

`queue_sound` is the invariant of all interleavings: the counters are exactly what the threads and
the entries hold, within the limits. What is reserved bounds what is queued, so the channel, which
has as many places as the budget has packets, is never full (`QueueBalanced.not_full`). Together
with what follows for the drops this is `packet_queue_exact`.
-/
import Mathlib.Algebra.BigOperators.Pi
import FlowWeave.Theory.Threads
import FlowWeave.Vpn.Control

namespace FlowWeave.Vpn

open Theory.MachineInt Theory.Threads

set_option autoImplicit false

inductive VpnPacketQueueError where
  | invalidPacketSize
  | packetLimit
  | byteLimit
  | closed
  deriving DecidableEq, Repr

/-- The limits of a budget. The channel has `packetLimit` places. -/
structure QueueLimits where
  packetLimit : Nat
  byteLimit : Nat

/-- The counters of `VpnPacketQueueBudgetInner`, and the channel: the bytes of the leases of its
entries, whether it is closed, and whether its receiver has been dropped for good. -/
structure PacketQueue where
  currentPackets : Nat
  currentBytes : Nat
  peakPackets : Nat
  peakBytes : Nat
  entries : List Nat
  closed : Bool
  dropped : Bool
  deriving DecidableEq, Repr

open PacketQueue

/-- `VpnPacketQueueBudget::new`, and a new channel. -/
def PacketQueue.new : PacketQueue := ⟨0, 0, 0, 0, [], false, false⟩

/-- `try_add_bounded`: the new value of the counter. -/
def PacketQueue.tryAddBounded (counter amount limit : Nat) : Option Nat :=
  (checkedAdd usizeMax counter amount).filter (· ≤ limit)

/-- What comes of a packet that is sent. A full channel is reported as `PacketLimit`, too. -/
inductive SendOutcome where
  | accepted
  | refused (error : VpnPacketQueueError)
  | channelFull
  deriving DecidableEq, Repr

/-- What `try_send` returns. -/
def SendOutcome.result : SendOutcome → Except VpnPacketQueueError Unit
  | .accepted => .ok ()
  | .refused error => .error error
  | .channelFull => .error .packetLimit

/-- What a thread that has released a lease goes on with. -/
inductive AfterRelease where
  | rest
  | finish (outcome : SendOutcome)
  | drain
  deriving DecidableEq, Repr

/-- Where a thread is: before the atomic step that the name says, or holding a received packet. -/
inductive QueueThread where
  | idle
  | checkSize (bytes : Nat)
  | addBytes (bytes : Nat)
  | addPacket (bytes currentBytes : Nat)
  | takeBackBytes (bytes : Nat)
  | raisePeakBytes (bytes currentBytes currentPackets : Nat)
  | raisePeakPackets (bytes currentPackets : Nat)
  | send (bytes : Nat)
  | finished (outcome : SendOutcome)
  | holding (bytes : Nat)
  | subtractBytes (bytes : Nat) (next : AfterRelease)
  | subtractPacket (next : AfterRelease)
  | drain
  | panicked
  deriving DecidableEq, Repr

/-- What an idle thread may begin with. -/
inductive QueueAction where
  | trySend (bytes : Nat)
  | queueInbound (bytes : Nat)
  | receive
  | dropReceiver
  deriving DecidableEq, Repr

namespace QueueThread

/-- The first step of an action. `VpnPacketSender::try_send` checks the size of the packet, the
inbound loop does not; `recv` removes an entry; the drop of the receiver closes the channel. -/
def begin (action : QueueAction) (queue : PacketQueue) : Option (PacketQueue × QueueThread) :=
  match action with
  | .trySend bytes => some (queue, .checkSize bytes)
  | .queueInbound bytes => some (queue, .addBytes bytes)
  | .receive =>
    match queue.entries with
    | [] => none
    | bytes :: rest => some ({ queue with entries := rest }, .holding bytes)
  | .dropReceiver => some ({ queue with closed := true }, .drain)

/-- The step after a release. -/
def afterRelease : AfterRelease → QueueThread
  | .rest => .idle
  | .finish outcome => .finished outcome
  | .drain => .drain

/-- The next step of a thread that is in the middle of something. -/
def next (limits : QueueLimits) (queue : PacketQueue) :
    QueueThread → Option (PacketQueue × QueueThread)
  | .idle => none
  | .checkSize bytes =>
    if bytes = 0 ∨ bytes > vpnMaxIpPacketLen then
      some (queue, .finished (.refused .invalidPacketSize))
    else some (queue, .addBytes bytes)
  | .addBytes bytes =>
    match tryAddBounded queue.currentBytes bytes limits.byteLimit with
    | none => some (queue, .finished (.refused .byteLimit))
    | some currentBytes =>
      some ({ queue with currentBytes }, .addPacket bytes currentBytes)
  | .addPacket bytes currentBytes =>
    match tryAddBounded queue.currentPackets 1 limits.packetLimit with
    | none => some (queue, .takeBackBytes bytes)
    | some currentPackets =>
      some ({ queue with currentPackets }, .raisePeakBytes bytes currentBytes currentPackets)
  | .takeBackBytes bytes =>
    if bytes ≤ queue.currentBytes then
      some ({ queue with currentBytes := queue.currentBytes - bytes },
        .finished (.refused .packetLimit))
    else some (queue, .panicked)
  | .raisePeakBytes bytes currentBytes currentPackets =>
    some ({ queue with peakBytes := max queue.peakBytes currentBytes },
      .raisePeakPackets bytes currentPackets)
  | .raisePeakPackets bytes currentPackets =>
    some ({ queue with peakPackets := max queue.peakPackets currentPackets }, .send bytes)
  | .send bytes =>
    if queue.closed then some (queue, .subtractBytes bytes (.finish (.refused .closed)))
    else if queue.entries.length < limits.packetLimit then
      some ({ queue with entries := queue.entries ++ [bytes] }, .finished .accepted)
    else some (queue, .subtractBytes bytes (.finish .channelFull))
  | .finished _ => some (queue, .idle)
  | .holding bytes => some (queue, .subtractBytes bytes .rest)
  | .subtractBytes bytes next =>
    if bytes ≤ queue.currentBytes then
      some ({ queue with currentBytes := queue.currentBytes - bytes }, .subtractPacket next)
    else some (queue, .panicked)
  | .subtractPacket next =>
    if 1 ≤ queue.currentPackets then
      some ({ queue with currentPackets := queue.currentPackets - 1 }, afterRelease next)
    else some (queue, .panicked)
  | .drain =>
    match queue.entries with
    | [] => some ({ queue with dropped := true }, .idle)
    | bytes :: rest => some ({ queue with entries := rest }, .subtractBytes bytes .drain)
  | .panicked => none

end QueueThread

open QueueThread

/-- The atomic steps. -/
def QueueStep (limits : QueueLimits) (queue : PacketQueue) (thread : QueueThread)
    (queue' : PacketQueue) (thread' : QueueThread) : Prop :=
  thread.next limits queue = some (queue', thread') ∨
    ∃ action, thread = .idle ∧ begin action queue = some (queue', thread')

/-! ## What a thread holds -/

/-- The bytes and packets of the counters that a thread has to give back or to pass on: those of a
lease, or of half a reservation or half a release. -/
def QueueThread.own : QueueThread → Nat × Nat
  | .addPacket bytes _ => (bytes, 0)
  | .takeBackBytes bytes => (bytes, 0)
  | .raisePeakBytes bytes _ _ => (bytes, 1)
  | .raisePeakPackets bytes _ => (bytes, 1)
  | .send bytes => (bytes, 1)
  | .holding bytes => (bytes, 1)
  | .subtractBytes bytes _ => (bytes, 1)
  | .subtractPacket _ => (0, 1)
  | _ => (0, 0)

attribute [simp] own

/-- The counters are what the threads hold and what the entries hold, within the limits. -/
structure QueueBalanced (limits : QueueLimits) (queue : PacketQueue) (held : Nat × Nat) : Prop where
  bytes : queue.currentBytes = held.1 + queue.entries.sum
  packets : queue.currentPackets = held.2 + queue.entries.length
  byteLimit : queue.currentBytes ≤ limits.byteLimit
  packetLimit : queue.currentPackets ≤ limits.packetLimit
  dropped : queue.dropped = true → queue.closed = true ∧ queue.entries = []

/-- What is left to do does not come of a full channel, and a channel is dropped when closed. -/
def AfterRelease.Fits (queue : PacketQueue) : AfterRelease → Prop
  | .rest => True
  | .finish outcome => outcome ≠ .channelFull
  | .drain => queue.closed = true

/-- And the thread has not underflowed a counter. -/
def QueueThread.Fits (queue : PacketQueue) : QueueThread → Prop
  | .panicked => False
  | .finished outcome => outcome ≠ .channelFull
  | .subtractBytes _ next => next.Fits queue
  | .subtractPacket next => next.Fits queue
  | .drain => queue.closed = true
  | _ => True

/-! ## Steps -/

section Steps

variable {limits : QueueLimits} {queue queue' : PacketQueue} {thread thread' other : QueueThread}
variable {rest : Nat × Nat}

theorem PacketQueue.tryAddBounded_eq_some {counter amount limit sum : Nat}
    (added : tryAddBounded counter amount limit = some sum) :
    sum = counter + amount ∧ sum ≤ limit := by
  obtain ⟨checked, bounded⟩ := Option.filter_eq_some_iff.mp added
  exact ⟨(checkedAdd_some_iff.mp checked).1, by simpa using bounded⟩

namespace QueueBalanced

variable {held held' : Nat × Nat} {size : Nat} {later : List Nat}
  (balanced : QueueBalanced limits queue held)

include balanced

theorem addBytes {sum : Nat}
    (added : tryAddBounded queue.currentBytes size limits.byteLimit = some sum)
    (bytes : held'.1 = size + held.1) (packets : held'.2 = held.2) :
    QueueBalanced limits { queue with currentBytes := sum } held' := by
  obtain ⟨rfl, bounded⟩ := tryAddBounded_eq_some added
  have exact := balanced.bytes
  exact { balanced with
    bytes := by simp only; omega
    packets := by rw [packets]; exact balanced.packets
    byteLimit := bounded }

theorem addPacket {sum : Nat}
    (added : tryAddBounded queue.currentPackets 1 limits.packetLimit = some sum)
    (bytes : held'.1 = held.1) (packets : held'.2 = 1 + held.2) :
    QueueBalanced limits { queue with currentPackets := sum } held' := by
  obtain ⟨rfl, bounded⟩ := tryAddBounded_eq_some added
  have exact := balanced.packets
  exact { balanced with
    bytes := by rw [bytes]; exact balanced.bytes
    packets := by simp only; omega
    packetLimit := bounded }

theorem subtractBytes (bytes : held.1 = size + held'.1) (packets : held'.2 = held.2) :
    size ≤ queue.currentBytes ∧
      QueueBalanced limits { queue with currentBytes := queue.currentBytes - size } held' := by
  obtain ⟨exactBytes, exactPackets, byteLimit, packetLimit, dropped⟩ := balanced
  refine ⟨by omega, ⟨?_, ?_, ?_, packetLimit, dropped⟩⟩
  · simp only
    omega
  · simp only
    omega
  · simp only
    omega

theorem subtractPacket (bytes : held'.1 = held.1) (packets : held.2 = 1 + held'.2) :
    1 ≤ queue.currentPackets ∧
      QueueBalanced limits { queue with currentPackets := queue.currentPackets - 1 } held' := by
  obtain ⟨exactBytes, exactPackets, byteLimit, packetLimit, dropped⟩ := balanced
  refine ⟨by omega, ⟨?_, ?_, byteLimit, ?_, dropped⟩⟩
  · simp only
    omega
  · simp only
    omega
  · simp only
    omega

/-- An entry passes its lease to the thread that takes it out. -/
theorem pop (entries : queue.entries = size :: later) (bytes : held'.1 = size + held.1)
    (packets : held'.2 = 1 + held.2) :
    QueueBalanced limits { queue with entries := later } held' := by
  obtain ⟨exactBytes, exactPackets, byteLimit, packetLimit, dropped⟩ := balanced
  simp only [entries, List.sum_cons, List.length_cons] at exactBytes exactPackets
  refine ⟨by simp only; omega, by simp only; omega, byteLimit, packetLimit, fun gone => ?_⟩
  have empty := (dropped gone).2
  simp [entries] at empty

/-- A thread passes its lease to the entry that it sends. -/
theorem push (isOpen : ¬ queue.closed = true) (bytes : held.1 = size + held'.1)
    (packets : held.2 = 1 + held'.2) :
    QueueBalanced limits { queue with entries := queue.entries ++ [size] } held' := by
  obtain ⟨exactBytes, exactPackets, byteLimit, packetLimit, dropped⟩ := balanced
  refine ⟨?_, ?_, byteLimit, packetLimit, fun gone => absurd (dropped gone).1 isOpen⟩
  · simp only [List.sum_append, List.sum_singleton]
    omega
  · simp only [List.length_append, List.length_singleton]
    omega

/-- **The channel is not full for a thread with a lease.** The lease counts, and is not queued. -/
theorem not_full (leased : 1 ≤ held.2) : queue.entries.length < limits.packetLimit := by
  have exact := balanced.packets
  have bounded := balanced.packetLimit
  omega

end QueueBalanced

/-- What an idle thread begins with moves nothing but an entry. -/
theorem begin_sound {action : QueueAction}
    (balanced : QueueBalanced limits queue (idle.own + rest))
    (begins : begin action queue = some (queue', thread')) :
    QueueBalanced limits queue' (thread'.own + rest) ∧ thread'.Fits queue' := by
  cases action with
  | trySend size | queueInbound size =>
    cases begins
    exact ⟨balanced, trivial⟩
  | receive =>
    simp only [begin] at begins
    split at begins
    · cases begins
    · rename_i entries
      cases begins
      exact ⟨balanced.pop entries (by simp) (by simp),
        trivial⟩
  | dropReceiver =>
    cases begins
    exact ⟨{ balanced with dropped := fun gone => ⟨rfl, (balanced.dropped gone).2⟩ }, rfl⟩

/-- What a thread goes on with keeps the balance, and does not come to the branches that should
not be reached. -/
theorem next_sound (balanced : QueueBalanced limits queue (thread.own + rest))
    (fits : thread.Fits queue) (next : thread.next limits queue = some (queue', thread')) :
    QueueBalanced limits queue' (thread'.own + rest) ∧ thread'.Fits queue' := by
  cases thread with
  | idle | panicked => cases next
  | checkSize size =>
    simp only [QueueThread.next] at next
    split_ifs at next
    · cases next
      exact ⟨balanced, by simp [QueueThread.Fits]⟩
    · cases next
      exact ⟨balanced, trivial⟩
  | addBytes size =>
    simp only [QueueThread.next] at next
    split at next
    · cases next
      exact ⟨balanced, by simp [QueueThread.Fits]⟩
    · rename_i added
      cases next
      exact ⟨balanced.addBytes added (by simp) rfl, trivial⟩
  | addPacket size currentBytes =>
    simp only [QueueThread.next] at next
    split at next
    · cases next
      exact ⟨balanced, trivial⟩
    · rename_i added
      cases next
      exact ⟨balanced.addPacket added rfl (by simp), trivial⟩
  | takeBackBytes size =>
    obtain ⟨enough, after⟩ : size ≤ queue.currentBytes ∧
        QueueBalanced limits { queue with currentBytes := queue.currentBytes - size }
          ((0, 0) + rest) :=
      balanced.subtractBytes (by simp) rfl
    simp only [QueueThread.next, if_pos enough] at next
    cases next
    exact ⟨after, by simp [QueueThread.Fits]⟩
  | raisePeakBytes size currentBytes currentPackets =>
    cases next
    exact ⟨{ balanced with }, trivial⟩
  | raisePeakPackets size currentPackets =>
    cases next
    exact ⟨{ balanced with }, trivial⟩
  | send size =>
    have free := balanced.not_full (by simp)
    simp only [QueueThread.next, if_pos free] at next
    split_ifs at next with isClosed
    · cases next
      exact ⟨balanced, by simp [QueueThread.Fits, AfterRelease.Fits]⟩
    · cases next
      exact ⟨balanced.push isClosed (by simp) (by simp),
        by simp [QueueThread.Fits]⟩
  | finished outcome =>
    cases next
    exact ⟨balanced, trivial⟩
  | holding size =>
    cases next
    exact ⟨balanced, trivial⟩
  | subtractBytes size after =>
    obtain ⟨enough, released⟩ : size ≤ queue.currentBytes ∧
        QueueBalanced limits { queue with currentBytes := queue.currentBytes - size }
          ((0, 1) + rest) :=
      balanced.subtractBytes (by simp) rfl
    simp only [QueueThread.next, if_pos enough] at next
    cases next
    exact ⟨released, fits⟩
  | subtractPacket after =>
    obtain ⟨enough, released⟩ : 1 ≤ queue.currentPackets ∧
        QueueBalanced limits { queue with currentPackets := queue.currentPackets - 1 }
          ((0, 0) + rest) :=
      balanced.subtractPacket rfl (by simp)
    simp only [QueueThread.next, if_pos enough] at next
    cases next
    cases after <;> exact ⟨released, fits⟩
  | drain =>
    simp only [QueueThread.next] at next
    split at next
    · rename_i empty
      cases next
      exact ⟨{ balanced with dropped := fun _ => ⟨fits, empty⟩ }, trivial⟩
    · rename_i entries
      cases next
      exact ⟨balanced.pop entries (by simp) (by simp), fits⟩

/-- A channel that is closed stays closed. -/
theorem closed_stays (step : QueueStep limits queue thread queue' thread')
    (isClosed : queue.closed = true) : queue'.closed = true := by
  rcases step with next | ⟨action, rfl, begins⟩
  · cases thread <;> grind [next]
  · cases action <;> grind [begin]

/-- A step of one thread is none of the others' business. -/
theorem fits_spared (fits : other.Fits queue) (step : QueueStep limits queue thread queue' thread')
    : other.Fits queue' := by
  have stays := closed_stays step
  cases other with
  | subtractBytes _ next | subtractPacket next =>
    cases next with
    | drain => exact stays fits
    | rest | finish => exact fits
  | drain => exact stays fits
  | _ => exact fits

end Steps

/-! ## All interleavings -/

/-- Threads at rest, and nothing queued. -/
def queueStart {ι : Type} : Config ι PacketQueue QueueThread := ⟨.new, fun _ => .idle⟩

/-- In every interleaving the counters are what threads and entries hold. -/
theorem queue_sound {ι : Type} [Fintype ι] [DecidableEq ι] {limits : QueueLimits}
    {config : Config ι PacketQueue QueueThread}
    (reaches : Reaches (QueueStep limits) queueStart config) :
    Sound own (QueueBalanced limits) Fits config := by
  have start : Sound own (QueueBalanced limits) Fits
      (queueStart : Config ι PacketQueue QueueThread) := by
    refine ⟨⟨?_, ?_, Nat.zero_le _, Nat.zero_le _, by simp [queueStart, new]⟩,
      fun _ => trivial⟩
    · simp [queueStart, new]
    · simp [queueStart, new]
  refine start.reaches ?_ (fun _ _ _ _ _ _ _ _ fits step => fits_spared fits step) reaches
  intro queue thread queue' thread' rest balanced fits step
  rcases step with next | ⟨action, rfl, begins⟩
  · exact next_sound balanced fits next
  · exact begin_sound balanced begins

/-- The outcome of a packet that will not be queued, once that is decided. -/
def QueueThread.refusal : QueueThread → Option SendOutcome
  | .takeBackBytes _ => some (.refused .packetLimit)
  | .finished .accepted => none
  | .finished outcome => some outcome
  | .subtractBytes _ (.finish outcome) => some outcome
  | .subtractPacket (.finish outcome) => some outcome
  | _ => none

/-- Why a packet is dropped: its own size, before anything is reserved, the byte budget, the packet
budget, or a closed channel. -/
inductive DropCause (limits : QueueLimits) (queue : PacketQueue) :
    QueueThread → SendOutcome → Prop
  | size {bytes : Nat} : bytes = 0 ∨ bytes > vpnMaxIpPacketLen →
      DropCause limits queue (.checkSize bytes) (.refused .invalidPacketSize)
  | byteBudget {bytes : Nat} :
      min limits.byteLimit usizeMax < queue.currentBytes + bytes →
      DropCause limits queue (.addBytes bytes) (.refused .byteLimit)
  | packetBudget {bytes currentBytes : Nat} :
      min limits.packetLimit usizeMax < queue.currentPackets + 1 →
      DropCause limits queue (.addPacket bytes currentBytes) (.refused .packetLimit)
  | closed {bytes : Nat} : queue.closed = true →
      DropCause limits queue (.send bytes) (.refused .closed)

section Drops

variable {limits : QueueLimits} {queue queue' : PacketQueue} {thread thread' : QueueThread}

theorem PacketQueue.tryAddBounded_eq_none {counter amount limit : Nat}
    (refused : tryAddBounded counter amount limit = none) :
    min limit usizeMax < counter + amount := by
  unfold tryAddBounded checkedAdd at refused
  split_ifs at refused with fits
  · simp only [Option.filter_some] at refused
    split_ifs at refused with bounded
    simp only [decide_eq_true_eq] at bounded
    omega
  · omega

/-- A packet that is dropped has a cause. -/
theorem QueueStep.cause {rest : Nat × Nat}
    (balanced : QueueBalanced limits queue (thread.own + rest))
    (step : QueueStep limits queue thread queue' thread') (before : thread.refusal = none)
    {outcome : SendOutcome} (after : thread'.refusal = some outcome) :
    DropCause limits queue thread outcome := by
  rcases step with next | ⟨action, rfl, begins⟩
  · cases thread with
    | checkSize bytes =>
      simp only [QueueThread.next] at next
      split_ifs at next with invalid
      · cases next
        cases after
        exact .size invalid
      · cases next
        cases after
    | addBytes bytes =>
      simp only [QueueThread.next] at next
      split at next
      · rename_i refused
        cases next
        cases after
        exact .byteBudget (tryAddBounded_eq_none refused)
      · cases next
        cases after
    | addPacket bytes currentBytes =>
      simp only [QueueThread.next] at next
      split at next
      · rename_i refused
        cases next
        cases after
        exact .packetBudget (tryAddBounded_eq_none refused)
      · cases next
        cases after
    | send bytes =>
      have free := balanced.not_full (by simp)
      simp only [QueueThread.next, if_pos free] at next
      split_ifs at next with isClosed
      · cases next
        cases after
        exact .closed isClosed
      · cases next
        cases after
    | takeBackBytes bytes => cases before
    | subtractBytes bytes later =>
      cases later with
      | finish outcome => cases before
      | rest | drain =>
        simp only [QueueThread.next] at next
        split_ifs at next
        all_goals cases next; cases after
    | subtractPacket later =>
      cases later with
      | finish outcome => cases before
      | rest | drain =>
        simp only [QueueThread.next] at next
        split_ifs at next
        all_goals cases next; cases after
    | drain =>
      simp only [QueueThread.next] at next
      split at next
      all_goals cases next; cases after
    | raisePeakBytes | raisePeakPackets | finished | holding => cases next; cases after
    | idle | panicked => cases next
  · cases action with
    | receive =>
      simp only [QueueThread.begin] at begins
      split at begins
      all_goals cases begins
      cases after
    | trySend | queueInbound | dropReceiver => cases begins; cases after

end Drops

/-- A thread that is about to subtract finds enough, and one that is about to send a free place. -/
structure QueueThreadSafe (limits : QueueLimits) (queue : PacketQueue) (thread : QueueThread) :
    Prop where
  notPanicked : thread ≠ .panicked
  takesBack : ∀ bytes, thread = .takeBackBytes bytes → bytes ≤ queue.currentBytes
  subtractsBytes : ∀ bytes next, thread = .subtractBytes bytes next → bytes ≤ queue.currentBytes
  subtractsPacket : ∀ next, thread = .subtractPacket next → 1 ≤ queue.currentPackets
  findsPlace : ∀ bytes, thread = .send bytes → queue.entries.length < limits.packetLimit
  notFull : thread.refusal ≠ some .channelFull

theorem QueueThread.Fits.safe {limits : QueueLimits} {queue : PacketQueue} {thread : QueueThread}
    {rest : Nat × Nat} (fits : thread.Fits queue)
    (balanced : QueueBalanced limits queue (thread.own + rest)) :
    QueueThreadSafe limits queue thread where
  notPanicked := by rintro rfl; exact fits
  takesBack := by
    rintro bytes rfl
    have exact := balanced.bytes
    simp only [own, Prod.fst_add] at exact
    omega
  subtractsBytes := by
    rintro bytes next rfl
    have exact := balanced.bytes
    simp only [own, Prod.fst_add] at exact
    omega
  subtractsPacket := by
    rintro next rfl
    have exact := balanced.packets
    simp only [own, Prod.snd_add] at exact
    omega
  findsPlace := by
    rintro bytes rfl
    exact balanced.not_full (by simp [own])
  notFull := by
    intro full
    match thread with
    | .finished .channelFull => exact fits rfl
    | .subtractBytes _ (.finish _) => exact fits (Option.some.inj full)
    | .subtractPacket (.finish _) => exact fits (Option.some.inj full)
    | .takeBackBytes _ => cases full
    | .finished .accepted => cases full

/-- **The budget of a packet queue is exact.** For any number of threads and in every interleaving
of their atomic steps: the counters are what leases and half-done reservations and releases add up
to, within the limits; no subtraction underflows and no send finds the channel full; when nothing
is held and the channel is empty or dropped, both counters are zero; and a packet is dropped only
for its size, for the byte budget, for the packet budget or for a closed channel. -/
theorem packet_queue_exact {ι : Type} [Fintype ι] [DecidableEq ι] {limits : QueueLimits}
    {config : Config ι PacketQueue QueueThread}
    (reaches : Reaches (QueueStep limits) queueStart config) :
    (config.shared.currentBytes =
        ∑ i, (config.locals i).own.1 + config.shared.entries.sum ∧
      config.shared.currentPackets =
        ∑ i, (config.locals i).own.2 + config.shared.entries.length) ∧
    (config.shared.currentBytes ≤ limits.byteLimit ∧
      config.shared.currentPackets ≤ limits.packetLimit) ∧
    (∀ i, QueueThreadSafe limits config.shared (config.locals i)) ∧
    ((∀ i, (config.locals i).own = 0) → config.shared.entries = [] ∨ config.shared.dropped = true →
      config.shared.currentBytes = 0 ∧ config.shared.currentPackets = 0) ∧
    ∀ i after outcome, StepBy (QueueStep limits) i config after →
      (config.locals i).refusal = none → (after.locals i).refusal = some outcome →
      DropCause limits config.shared (config.locals i) outcome := by
  have sound := queue_sound reaches
  have totals : (∑ i, (config.locals i).own).1 = ∑ i, (config.locals i).own.1 ∧
      (∑ i, (config.locals i).own).2 = ∑ i, (config.locals i).own.2 :=
    ⟨Prod.fst_sum, Prod.snd_sum⟩
  have balanced (i : ι) := sum_own own config.locals i ▸ sound.inv
  refine ⟨⟨totals.1 ▸ sound.inv.bytes, totals.2 ▸ sound.inv.packets⟩,
    ⟨sound.inv.byteLimit, sound.inv.packetLimit⟩, fun i => (sound.fits i).safe (balanced i),
    ?_, ?_⟩
  · intro nothing empty
    have none : ∑ i, (config.locals i).own = 0 := Finset.sum_eq_zero fun i _ => nothing i
    have entries : config.shared.entries = [] :=
      empty.elim id fun gone => (sound.inv.dropped gone).2
    have bytes := sound.inv.bytes
    have packets := sound.inv.packets
    rw [none, entries] at bytes packets
    exact ⟨bytes, packets⟩
  · intro i after outcome step before refused
    exact step.stepped.cause (balanced i) before refused

/-- Two threads. The first has reserved the bytes of a packet and not yet the packet, and the second
has an empty packet to send, which is dropped. -/
theorem packet_queue_exact_example :
    ∃ config : Config (Fin 2) PacketQueue QueueThread,
      Reaches (QueueStep ⟨4, 6000⟩) queueStart config ∧
        100 = ∑ i, (config.locals i).own.1 + config.shared.entries.sum ∧
        config.shared.currentBytes ≤ 6000 ∧
        QueueThreadSafe ⟨4, 6000⟩ config.shared (.addPacket 100 100) ∧
        DropCause ⟨4, 6000⟩ config.shared (.checkSize 0) (.refused .invalidPacketSize) := by
  obtain ⟨config, reached, bytes, first, second⟩ :
      ∃ config : Config (Fin 2) PacketQueue QueueThread,
      Reaches (QueueStep ⟨4, 6000⟩) queueStart config ∧ config.shared.currentBytes = 100 ∧
        config.locals 0 = .addPacket 100 100 ∧ config.locals 1 = .checkSize 0 := by
    refine exists_reaches_step 0 (.inr ⟨.trySend 100, rfl, rfl⟩) ?_
    refine exists_reaches_step 0 (.inl rfl) ?_
    refine exists_reaches_step 0 (.inl rfl) ?_
    refine exists_reaches_step 1 (.inr ⟨.trySend 0, rfl, rfl⟩) ?_
    exact ⟨_, .refl, rfl, rfl, rfl⟩
  obtain ⟨counted, within, safe, -, drops⟩ := packet_queue_exact reached
  have refuses : StepBy (QueueStep ⟨4, 6000⟩) 1 config ⟨config.shared,
      Function.update config.locals 1 (.finished (.refused .invalidPacketSize))⟩ :=
    ⟨_, _, .inl (by rw [second]; rfl), rfl⟩
  exact ⟨config, reached, bytes ▸ counted.1, within.1, first ▸ safe 0,
    second ▸ drops 1 _ _ refuses (by rw [second]; rfl) (by simp [refusal])⟩

/-- An empty packet is dropped, although nothing is reserved and the channel is open. -/
theorem empty_packet_dropped :
    ∃ config : Config (Fin 1) PacketQueue QueueThread,
      Reaches (QueueStep ⟨4, 6000⟩) queueStart config ∧ config.shared = .new ∧
        (config.locals 0).refusal = some (.refused .invalidPacketSize) := by
  refine exists_reaches_step 0 (.inr ⟨.trySend 0, rfl, rfl⟩) ?_
  refine exists_reaches_step 0 (.inl rfl) ?_
  exact ⟨_, .refl, rfl, rfl⟩

end FlowWeave.Vpn
