/-
# Vpn.PacketPump — attachments of the client's packet pump (`src/vpn_packet_bridge.rs`)

The pump outlives the connections of a client. A connection attaches its outbound queue to it
under a mutex and gets a generation. A detach clears the flag of the attachment; a drop detaches if
the flag is still set. The pump reads packets from the device, looks up the published target after
each and drops the packet when there is none. Any number of threads attach and detach in any order;
each access to the shared state is an atomic step of its own, so the locked updates are seen half
done.

`pump_sound` is the invariant of all interleavings. From it:

* `packet_pump_exact` — attachments are exclusive, the published target is that of the active
  generation, only its own attachment clears it, generations are not used twice, and each packet
  meets one fate, by the target that was published when it was looked up;
* `read_offline_sent_online` — the look-up is what counts: a packet that was read before an
  attachment is offered to it when it is looked up after.
-/
import Mathlib.Algebra.BigOperators.Pi
import FlowWeave.Theory.Threads
import FlowWeave.Vpn.Control

namespace FlowWeave.Vpn

open Theory.MachineInt Theory.Threads

set_option autoImplicit false

variable {Q : Type}

/-! ## The steps -/

/-- `VpnClientPacketPumpTarget`, with any type of queues. -/
structure PumpTarget (Q : Type) where
  maxPacketLen : Nat
  outbound : Q

/-- What becomes of a packet that was read. -/
inductive PacketFate where
  | offline
  | oversized
  | queueDropped
  | queueAccepted
  deriving DecidableEq, Repr

/-- A packet by its number, with what its look-up found and what became of it. -/
structure PacketRecord (Q : Type) where
  number : Nat
  bytes : Nat
  found : Option (PumpTarget Q)
  fate : PacketFate

structure Tally where
  packets : Nat
  bytes : Nat
  deriving DecidableEq, Repr

def Tally.add (tally : Tally) (bytes : Nat) : Tally := ⟨tally.packets + 1, tally.bytes + bytes⟩

/-- What the threads share: the mutex with the state that it guards, the published target and the
counters. `issued` and `records` are not in the source: the generations that were given away and
the packets that have met their fate. -/
structure PumpShared (Q : Type) where
  maxPacketLen : Nat
  locked : Bool
  nextGeneration : UInt64
  activeGeneration : Option UInt64
  target : Option (PumpTarget Q)
  deviceRead : Tally
  counted : PacketFate → Tally
  issued : List UInt64
  records : List (PacketRecord Q)

namespace PumpShared

/-- `VpnClientPacketPumpControl::new`. -/
def new (maxPacketLen : Nat) : PumpShared Q :=
  ⟨maxPacketLen, false, 1, none, none, ⟨0, 0⟩, fun _ => ⟨0, 0⟩, [], []⟩

/-- The counter of a fate is raised. -/
def record (shared : PumpShared Q) (packet : PacketRecord Q) : PumpShared Q :=
  { shared with
    counted := Function.update shared.counted packet.fate
      ((shared.counted packet.fate).add packet.bytes)
    records := packet :: shared.records }

end PumpShared

/-- Where a thread is: before the step that the name says, between calls, or with an attachment and
its flag. A detach is one by a call, which leaves the attachment, or by its drop. `reading` is the
pump between packets. -/
inductive PumpThread (Q : Type) where
  | idle
  | attachLock (target : PumpTarget Q)
  | attachCheck (target : PumpTarget Q)
  | attachActivate (target : PumpTarget Q) (generation : UInt64)
  | attachPublish (target : PumpTarget Q) (generation : UInt64)
  | attachUnlock (target : PumpTarget Q) (generation : UInt64)
  | attachment (target : PumpTarget Q) (generation : UInt64) (attached : Bool)
  | detachLock (target : PumpTarget Q) (generation : UInt64) (drops : Bool)
  | detachCheck (target : PumpTarget Q) (generation : UInt64) (drops : Bool)
  | detachPublish (target : PumpTarget Q) (generation : UInt64) (drops : Bool)
  | detachUnlock (target : PumpTarget Q) (generation : UInt64) (drops : Bool)
  | unlock
  | reading
  | lookUp (number bytes : Nat)
  | deliver (number bytes : Nat) (found : Option (PumpTarget Q))
  | stopped

/-- What can become of a packet, by what its look-up found. The queue accepts it or not. -/
def PacketFate.Allowed (bytes : Nat) (found : Option (PumpTarget Q)) (fate : PacketFate) : Prop :=
  match found with
  | none => fate = .offline
  | some target =>
    if target.maxPacketLen < bytes then fate = .oversized
    else fate = .queueDropped ∨ fate = .queueAccepted

/-- The atomic steps of `attach`, of `detach` and `Drop` of an attachment, and of the pump. -/
inductive PumpStep (shared : PumpShared Q) : PumpThread Q → PumpShared Q → PumpThread Q → Prop
  | refuseLength (target : PumpTarget Q)
      (unfit : ¬(vpnMinIpPacketLen ≤ target.maxPacketLen ∧
        target.maxPacketLen ≤ shared.maxPacketLen)) : PumpStep shared .idle shared .idle
  | attach (target : PumpTarget Q)
      (fits : vpnMinIpPacketLen ≤ target.maxPacketLen ∧
        target.maxPacketLen ≤ shared.maxPacketLen) :
      PumpStep shared .idle shared (.attachLock target)
  | attachLock (target : PumpTarget Q) (free : shared.locked = false) :
      PumpStep shared (.attachLock target) { shared with locked := true } (.attachCheck target)
  | refuseAttached (target : PumpTarget Q)
      (taken : shared.activeGeneration.isSome = true) :
      PumpStep shared (.attachCheck target) shared .unlock
  | refuseExhausted (target : PumpTarget Q)
      (free : shared.activeGeneration = none) (last : shared.nextGeneration.toNat = u64Max) :
      PumpStep shared (.attachCheck target) shared .unlock
  | number (target : PumpTarget Q)
      (free : shared.activeGeneration = none) (more : shared.nextGeneration.toNat ≠ u64Max) :
      PumpStep shared (.attachCheck target)
        { shared with
          nextGeneration := shared.nextGeneration + 1
          issued := shared.nextGeneration :: shared.issued }
        (.attachActivate target shared.nextGeneration)
  | activate (target : PumpTarget Q) (generation : UInt64) :
      PumpStep shared (.attachActivate target generation)
        { shared with activeGeneration := some generation } (.attachPublish target generation)
  | publish (target : PumpTarget Q) (generation : UInt64) :
      PumpStep shared (.attachPublish target generation) { shared with target := some target }
        (.attachUnlock target generation)
  | attachUnlock (target : PumpTarget Q) (generation : UInt64) :
      PumpStep shared (.attachUnlock target generation) { shared with locked := false }
        (.attachment target generation true)
  | detach (target : PumpTarget Q) (generation : UInt64) (drops : Bool) :
      PumpStep shared (.attachment target generation true) shared
        (.detachLock target generation drops)
  | detachAgain (target : PumpTarget Q) (generation : UInt64) :
      PumpStep shared (.attachment target generation false) shared
        (.attachment target generation false)
  | dropDetached (target : PumpTarget Q) (generation : UInt64) :
      PumpStep shared (.attachment target generation false) shared .idle
  | detachLock (target : PumpTarget Q) (generation : UInt64)
      (drops : Bool) (free : shared.locked = false) :
      PumpStep shared (.detachLock target generation drops) { shared with locked := true }
        (.detachCheck target generation drops)
  | clear (target : PumpTarget Q) (generation : UInt64) (drops : Bool)
      (own : shared.activeGeneration = some generation) :
      PumpStep shared (.detachCheck target generation drops)
        { shared with activeGeneration := none } (.detachPublish target generation drops)
  | keep (target : PumpTarget Q) (generation : UInt64) (drops : Bool)
      (other : shared.activeGeneration ≠ some generation) :
      PumpStep shared (.detachCheck target generation drops) shared
        (.detachUnlock target generation drops)
  | unpublish (target : PumpTarget Q) (generation : UInt64)
      (drops : Bool) :
      PumpStep shared (.detachPublish target generation drops) { shared with target := none }
        (.detachUnlock target generation drops)
  | detachUnlock (target : PumpTarget Q) (generation : UInt64) :
      PumpStep shared (.detachUnlock target generation false) { shared with locked := false }
        (.attachment target generation false)
  | dropUnlock (target : PumpTarget Q) (generation : UInt64) :
      PumpStep shared (.detachUnlock target generation true) { shared with locked := false } .idle
  | unlock :
      PumpStep shared .unlock { shared with locked := false } .idle
  | read (bytes : Nat) (some_bytes : 0 < bytes) :
      PumpStep shared .reading { shared with deviceRead := shared.deviceRead.add bytes }
        (.lookUp shared.deviceRead.packets bytes)
  | lookUp (number bytes : Nat) :
      PumpStep shared (.lookUp number bytes) shared (.deliver number bytes shared.target)
  | deliver (packet : PacketRecord Q)
      (allowed : packet.fate.Allowed packet.bytes packet.found) :
      PumpStep shared (.deliver packet.number packet.bytes packet.found) (shared.record packet)
        .reading
  | stop : PumpStep shared .reading shared .stopped

/-! ## What a thread holds -/

namespace PumpThread

/-- The lock, the active generation, and the packets that have not met their fate. -/
def own : PumpThread Q → Nat × Nat × Multiset Nat
  | attachCheck _ | attachActivate _ _ | detachPublish _ _ _ | detachUnlock _ _ _
  | unlock => (1, 0, 0)
  | attachPublish _ _ | attachUnlock _ _ | detachCheck _ _ _ => (1, 1, 0)
  | attachment _ _ true | detachLock _ _ _ => (0, 1, 0)
  | lookUp number _ | deliver number _ _ => (0, 0, {number})
  | _ => (0, 0, 0)

attribute [simp] own

/-- What a thread knows about the guarded state and the published target. -/
def Fits (shared : PumpShared Q) : PumpThread Q → Prop
  | attachCheck _ | detachUnlock _ _ _ | unlock =>
    shared.target.isSome = shared.activeGeneration.isSome
  | attachActivate _ generation =>
    shared.activeGeneration = none ∧ shared.target = none ∧ generation ∈ shared.issued
  | attachPublish _ generation =>
    shared.activeGeneration = some generation ∧ shared.target = none ∧ generation ∈ shared.issued
  | attachUnlock target generation | attachment target generation true
  | detachLock target generation _ | detachCheck target generation _ =>
    shared.activeGeneration = some generation ∧ shared.target = some target ∧
      generation ∈ shared.issued
  | detachPublish target _ _ => shared.activeGeneration = none ∧ shared.target = some target
  | _ => True

end PumpThread

open PumpThread

def tallyOf (fate : PacketFate) (records : List (PacketRecord Q)) : Tally :=
  records.foldr (fun packet tally => if packet.fate = fate then tally.add packet.bytes else tally)
    ⟨0, 0⟩

/-- The shared state and what the threads hold together. -/
structure PumpBalanced (shared : PumpShared Q) (held : Nat × Nat × Multiset Nat) : Prop where
  lock : held.1 = if shared.locked then 1 else 0
  owner : held.2.1 = if shared.activeGeneration.isSome then 1 else 0
  published : shared.locked = false → shared.target.isSome = shared.activeGeneration.isSome
  packets : Multiset.ofList (shared.records.map PacketRecord.number) + held.2.2 =
    Multiset.range shared.deviceRead.packets
  tallies : ∀ fate, shared.counted fate = tallyOf fate shared.records
  allowed : ∀ packet ∈ shared.records, packet.fate.Allowed packet.bytes packet.found
  below : ∀ generation ∈ shared.issued, generation.toNat < shared.nextGeneration.toNat
  distinct : shared.issued.Nodup

section Steps

variable {shared shared' : PumpShared Q} {thread thread' other : PumpThread Q}
  {rest : Nat × Nat × Multiset Nat}

variable {held : Nat × Nat × Multiset Nat}

/-- Who holds the lock. -/
theorem PumpBalanced.locked (balanced : PumpBalanced shared held) (holds : 1 ≤ held.1) :
    shared.locked = true := by
  have lock := balanced.lock
  cases locked : shared.locked with
  | true => rfl
  | false =>
    rw [locked] at lock
    simp only [Bool.false_eq_true, if_false] at lock
    omega

/-- Whoever holds the lock may leave for later what others rely on. -/
theorem PumpBalanced.unobserved {relied : Prop} (balanced : PumpBalanced shared held)
    (holds : 1 ≤ held.1) (free : shared.locked = false) : relied := by
  cases free.symm.trans (balanced.locked holds)

/-- The lock is given back when target and generation agree. -/
theorem PumpBalanced.release (balanced : PumpBalanced shared ((1, 0, 0) + held))
    (agrees : shared.target.isSome = shared.activeGeneration.isSome) :
    PumpBalanced { shared with locked := false } held := by
  have lock := balanced.lock
  rw [balanced.locked (by simp)] at lock
  exact { balanced with
    lock := by simpa using lock
    owner := by simpa using balanced.owner
    published := fun _ => agrees
    packets := by simpa using balanced.packets }

theorem PumpBalanced.acquire (balanced : PumpBalanced shared held) (free : shared.locked = false) :
    PumpBalanced { shared with locked := true } ((1, 0, 0) + held) := by
  have lock := balanced.lock
  rw [free] at lock
  exact { balanced with
    lock := by simpa using lock
    owner := by simpa using balanced.owner
    published := nofun
    packets := by simpa using balanced.packets }

theorem tallyOf_cons (fate : PacketFate) (packet : PacketRecord Q)
    (records : List (PacketRecord Q)) :
    tallyOf fate (packet :: records) =
      if packet.fate = fate then (tallyOf fate records).add packet.bytes
      else tallyOf fate records := rfl

theorem pump_step (balanced : PumpBalanced shared (thread.own + rest)) (fits : thread.Fits shared)
    (step : PumpStep shared thread shared' thread') :
    PumpBalanced shared' (thread'.own + rest) ∧ thread'.Fits shared' := by
  cases step with
  | refuseLength | attach | stop => exact ⟨balanced, trivial⟩
  | detachAgain | dropDetached => exact ⟨balanced, trivial⟩
  | refuseAttached | refuseExhausted | detach => exact ⟨balanced, fits⟩
  | attachLock target free =>
    have after := balanced.acquire free
    rw [← add_assoc] at after
    exact ⟨after, balanced.published free⟩
  | detachLock target generation drops free =>
    have after := balanced.acquire free
    rw [← add_assoc] at after
    exact ⟨after, fits⟩
  | number target free more =>
    have bound := shared.nextGeneration.toNat_lt
    have next : (shared.nextGeneration + 1).toNat = shared.nextGeneration.toNat + 1 := by
      rw [UInt64.toNat_add, UInt64.toNat_one]
      simp only [u64Max] at more
      omega
    have unpublished : shared.target.isSome = shared.activeGeneration.isSome := fits
    refine ⟨{ balanced with below := ?_, distinct := ?_ }, free, ?_, List.mem_cons_self⟩
    · intro generation listed
      rw [next]
      rcases List.mem_cons.mp listed with rfl | old
      · exact Nat.lt_succ_self _
      · exact Nat.lt_succ_of_lt (balanced.below generation old)
    · exact List.nodup_cons.mpr ⟨fun old => absurd (balanced.below _ old) (lt_irrefl _),
        balanced.distinct⟩
    · rw [free] at unpublished
      simpa using unpublished
  | activate target generation =>
    have owner := balanced.owner
    rw [fits.1] at owner
    exact ⟨{ balanced with
      owner := by simpa using owner
      published := balanced.unobserved (by simp) }, rfl, fits.2⟩
  | publish target generation =>
    exact ⟨{ balanced with published := balanced.unobserved (by simp) }, fits.1, rfl, fits.2.2⟩
  | attachUnlock target generation =>
    refine ⟨PumpBalanced.release ?_ ?_, fits⟩
    · rw [← add_assoc]
      exact balanced
    · rw [fits.1, fits.2.1]
      rfl
  | clear target generation drops own =>
    have owner := balanced.owner
    rw [own] at owner
    exact ⟨{ balanced with
      owner := by simpa using owner
      published := balanced.unobserved (by simp) }, rfl, fits.2.1⟩
  | keep target generation drops other => exact absurd fits.1 other
  | unpublish target generation drops =>
    exact ⟨{ balanced with published := balanced.unobserved (by simp) },
      by simp [Fits, fits.1]⟩
  | unlock | detachUnlock | dropUnlock =>
    refine ⟨PumpBalanced.release ?_ fits, trivial⟩
    rw [← add_assoc]
    exact balanced
  | read bytes some_bytes =>
    refine ⟨{ balanced with packets := ?_ }, trivial⟩
    have packets := balanced.packets
    simp only [own, Prod.snd_add, zero_add] at packets
    simp only [own, Prod.snd_add, Tally.add, Multiset.range_succ, ← packets,
      Multiset.singleton_add, Multiset.add_cons]
  | lookUp number bytes => exact ⟨balanced, trivial⟩
  | deliver packet allowed =>
    refine ⟨{ balanced with packets := ?_, tallies := ?_, allowed := ?_ }, trivial⟩
    · have packets := balanced.packets
      simp only [own, Prod.snd_add, zero_add, Multiset.singleton_add,
        Multiset.add_cons] at packets ⊢
      rw [PumpShared.record, List.map_cons, ← Multiset.cons_coe, Multiset.cons_add]
      exact packets
    · intro fate
      simp only [PumpShared.record, tallyOf_cons]
      by_cases same : packet.fate = fate
      · subst same
        rw [Function.update_self, if_pos rfl, balanced.tallies]
      · rw [Function.update_of_ne (Ne.symm same), if_neg same, balanced.tallies]
    · intro other listed
      rcases List.mem_cons.mp listed with rfl | old
      · exact allowed
      · exact balanced.allowed other old

/-- Two threads do not both hold the lock, nor the active generation. -/
theorem PumpBalanced.exclusive
    (balanced : PumpBalanced shared (thread.own + (other.own + rest))) :
    thread.own.1 + other.own.1 ≤ 1 ∧ thread.own.2.1 + other.own.2.1 ≤ 1 := by
  have lock := balanced.lock
  have owner := balanced.owner
  simp only [Prod.fst_add, Prod.snd_add] at lock owner
  split_ifs at lock owner <;> omega

/-- Other threads see no change that matters to them. -/
theorem pump_spares (balanced : PumpBalanced shared (thread.own + (other.own + rest)))
    (fits : thread.Fits shared) (otherFits : other.Fits shared)
    (step : PumpStep shared thread shared' thread') : other.Fits shared' := by
  obtain ⟨oneLock, oneOwner⟩ := balanced.exclusive
  cases step with
  | number target free more =>
    cases other with
    | attachActivate | attachPublish | attachUnlock | detachLock | detachCheck =>
      exact ⟨otherFits.1, otherFits.2.1, List.mem_cons_of_mem _ otherFits.2.2⟩
    | attachment target generation attached =>
      cases attached with
      | true => exact ⟨otherFits.1, otherFits.2.1, List.mem_cons_of_mem _ otherFits.2.2⟩
      | false => trivial
    | _ => exact otherFits
  | activate | publish | clear | unpublish =>
    -- the thread holds the lock, so only an attachment could object, which owns the generation
    cases other with
    | attachment target generation attached =>
      cases attached with
      | true => simp_all [own, Fits]
      | false => trivial
    | detachLock => simp_all [own, Fits]
    | idle | attachLock | reading | lookUp | deliver | stopped => trivial
    | _ => exact absurd oneLock (by simp)
  | _ => exact otherFits

end Steps

/-! ## All interleavings -/

section Runs

variable {ι : Type} [DecidableEq ι]
  {start config before after last : Config ι (PumpShared Q) (PumpThread Q)}

/-- A new control block; some threads are pumps, the others have no attachment yet. -/
def PumpStart (maxPacketLen : Nat) (start : Config ι (PumpShared Q) (PumpThread Q)) : Prop :=
  start.shared = .new maxPacketLen ∧ ∀ i, start.locals i = .idle ∨ start.locals i = .reading

omit [DecidableEq ι] in
theorem PumpStart.own {maxPacketLen : Nat} (begins : PumpStart maxPacketLen start) (i : ι) :
    (start.locals i).own = 0 ∧ (start.locals i).Fits start.shared := by
  rcases begins.2 i with idle | reading
  · rw [idle]
    exact ⟨rfl, trivial⟩
  · rw [reading]
    exact ⟨rfl, trivial⟩

/-! ### Where packets go -/

/-- A packet was looked up while a target, or none, was published, and what was found is what it
is delivered to. -/
def LookedUp (start config : Config ι (PumpShared Q) (PumpThread Q)) (number bytes : Nat)
    (found : Option (PumpTarget Q)) : Prop :=
  ∃ before after i, Reaches PumpStep start before ∧ before.locals i = .lookUp number bytes ∧
    before.shared.target = found ∧ StepBy PumpStep i before after ∧
    after.locals i = .deliver number bytes found ∧ Reaches PumpStep after config

theorem LookedUp.moves {number bytes : Nat} {found : Option (PumpTarget Q)}
    (looked : LookedUp start config number bytes found) (moves : Moves PumpStep config after) :
    LookedUp start after number bytes found := by
  obtain ⟨before, middle, i, reached, looking, target, step, found, reaches⟩ := looked
  exact ⟨before, middle, i, reached, looking, target, step, found, reaches.tail moves⟩

section OneStep

variable {shared shared' : PumpShared Q} {thread thread' : PumpThread Q}

variable {number bytes : Nat}

theorem PumpStep.deliver_inv {found : Option (PumpTarget Q)}
    (step : PumpStep shared thread shared' (.deliver number bytes found)) :
    thread = .lookUp number bytes ∧ shared.target = found := by
  cases step
  exact ⟨rfl, rfl⟩

/-- Packets are recorded by the thread that has looked them up. -/
theorem PumpStep.records_inv (step : PumpStep shared thread shared' thread') :
    shared'.records = shared.records ∨
      ∃ packet, thread = .deliver packet.number packet.bytes packet.found ∧
        shared'.records = packet :: shared.records := by
  cases step with
  | deliver packet allowed => exact .inr ⟨packet, rfl, rfl⟩
  | _ => exact .inl rfl

theorem PumpStep.lookUp_inv (step : PumpStep shared (.lookUp number bytes) shared' thread') :
    thread' = .deliver number bytes shared.target := by
  cases step
  rfl

theorem PumpStep.recorded {found : Option (PumpTarget Q)}
    (step : PumpStep shared (.deliver number bytes found) shared' thread') :
    ∃ packet ∈ shared'.records, packet.number = number ∧ packet.found = found := by
  cases step with
  | deliver packet allowed => exact ⟨packet, List.mem_cons_self, rfl, rfl⟩

/-- The target is only replaced under the lock. -/
theorem PumpStep.target_inv (step : PumpStep shared thread shared' thread') :
    shared'.target = shared.target ∨
      (∃ target generation, thread = .attachPublish target generation) ∨
      ∃ target generation drops, thread = .detachPublish target generation drops := by
  cases step with
  | publish target generation => exact .inr (.inl ⟨target, generation, rfl⟩)
  | unpublish target generation drops => exact .inr (.inr ⟨target, generation, drops, rfl⟩)
  | _ => exact .inl rfl

/-- And so is the generation. -/
theorem PumpStep.activeGeneration_inv (step : PumpStep shared thread shared' thread') :
    shared'.activeGeneration = shared.activeGeneration ∨
      (∃ target generation, thread = .attachActivate target generation) ∨
      ∃ target generation drops, thread = .detachCheck target generation drops ∧
        shared.activeGeneration = some generation := by
  cases step with
  | activate target generation => exact .inr (.inl ⟨target, generation, rfl⟩)
  | clear target generation drops own => exact .inr (.inr ⟨target, generation, drops, rfl, own⟩)
  | _ => exact .inl rfl

end OneStep

variable {maxPacketLen : Nat}

theorem looked_up (begins : PumpStart maxPacketLen start)
    (reaches : Reaches PumpStep start config) :
    (∀ i number bytes found, config.locals i = .deliver number bytes found →
        LookedUp start config number bytes found) ∧
      ∀ packet ∈ config.shared.records,
        LookedUp start config packet.number packet.bytes packet.found := by
  induction reaches with
  | refl =>
    constructor
    · intro i number bytes found delivering
      rcases begins.2 i with idle | reading <;> simp_all
    · rw [begins.1]
      nofun
  | tail reached moves ih =>
    obtain ⟨delivering, recorded⟩ := ih
    obtain ⟨i, step⟩ := id moves
    have stepped := step.stepped
    constructor
    · intro j number bytes found now
      by_cases same : j = i
      · subst same
        rw [now] at stepped
        obtain ⟨looking, target⟩ := stepped.deliver_inv
        exact ⟨_, _, j, reached, looking, target, step, now, .refl⟩
      · rw [step.locals_ne same] at now
        exact (delivering j number bytes found now).moves moves
    · intro packet listed
      rcases stepped.records_inv with same | ⟨fresh, delivers, grown⟩
      · rw [same] at listed
        exact (recorded packet listed).moves moves
      · rw [grown] at listed
        rcases List.mem_cons.mp listed with rfl | old
        · exact (delivering i _ _ _ delivers).moves moves
        · exact (recorded packet old).moves moves

/-! ### The invariant -/

variable [Fintype ι]

theorem pump_sound (begins : PumpStart maxPacketLen start)
    (reaches : Reaches PumpStep start config) :
    Sound own PumpBalanced Fits config := by
  refine Sound.reaches ⟨?_, fun i => (begins.own i).2⟩
    (fun _ _ _ _ _ balanced fits step => pump_step balanced fits step)
    (fun _ _ _ _ _ _ balanced fits otherFits step => pump_spares balanced fits otherFits step)
    reaches
  rw [Finset.sum_eq_zero fun i _ => (begins.own i).1, begins.1]
  exact ⟨rfl, rfl, fun _ => rfl, rfl, fun _ => rfl, nofun, nofun, List.nodup_nil⟩

/-! ### What follows -/

omit [DecidableEq ι] in
theorem sum_own_fst (locals : ι → PumpThread Q) :
    (∑ i, (locals i).own).1 = ∑ i, (locals i).own.1 ∧
      (∑ i, (locals i).own).2.1 = ∑ i, (locals i).own.2.1 := by
  rw [Prod.fst_sum, Prod.snd_sum, Prod.fst_sum]
  exact ⟨rfl, rfl⟩

/-- Who owns the active generation without the lock. -/
theorem PumpThread.owner_cases {thread : PumpThread Q} (noLock : thread.own.1 = 0)
    (owns : thread.own.2.1 ≠ 0) :
    ∃ target generation, thread = .attachment target generation true ∨
      ∃ drops, thread = .detachLock target generation drops := by
  cases thread with
  | attachment target generation attached =>
    cases attached with
    | true => exact ⟨target, generation, .inl rfl⟩
    | false => exact absurd rfl owns
  | detachLock target generation drops => exact ⟨target, generation, .inr ⟨drops, rfl⟩⟩
  | attachPublish | attachUnlock | detachCheck => cases noLock
  | _ => exact absurd rfl owns

/-- What holds in every state of a pump. -/
structure PumpExact (config : Config ι (PumpShared Q) (PumpThread Q)) : Prop where
  /-- At most one attachment is live. -/
  exclusive : ∀ i j target generation other otherGeneration,
    config.locals i = .attachment target generation true →
      config.locals j = .attachment other otherGeneration true → i = j
  /-- A live attachment has the active generation, and its target is published. -/
  live : ∀ i target generation, config.locals i = .attachment target generation true →
    config.shared.activeGeneration = some generation ∧ config.shared.target = some target ∧
      generation ∈ config.shared.issued
  /-- Outside a locked update a target is published exactly when a generation is active. -/
  published : config.shared.locked = false →
    config.shared.target.isSome = config.shared.activeGeneration.isSome
  /-- And then it is the target of the attachment of that generation, which is live or about to
  take the lock to detach. -/
  belongs : ∀ generation, config.shared.locked = false →
    config.shared.activeGeneration = some generation →
      ∃ i target, (config.locals i = .attachment target generation true ∨
          ∃ drops, config.locals i = .detachLock target generation drops) ∧
        config.shared.target = some target
  /-- A published target is only taken away by the detach of its own attachment. -/
  cleared : ∀ i after target, StepBy PumpStep i config after →
    config.shared.target = some target → after.shared.target ≠ some target →
      ∃ generation drops, config.locals i = .detachPublish target generation drops
  /-- And so is an active generation. -/
  deactivated : ∀ i after generation, StepBy PumpStep i config after →
    config.shared.activeGeneration = some generation →
      after.shared.activeGeneration ≠ some generation →
        ∃ target drops, config.locals i = .detachCheck target generation drops
  /-- No generation is given away twice. -/
  generations : config.shared.issued.Nodup
  /-- Each packet that was read is recorded once or still on its way. -/
  packets : Multiset.ofList (config.shared.records.map PacketRecord.number) +
      (∑ i, (config.locals i).own).2.2 = Multiset.range config.shared.deviceRead.packets
  /-- The counters count the records of their fate. -/
  counted : ∀ fate, config.shared.counted fate = tallyOf fate config.shared.records
  /-- The fate of a packet is that of the target that its look-up found. -/
  allowed : ∀ packet ∈ config.shared.records, packet.fate.Allowed packet.bytes packet.found

theorem PumpExact.of_sound (sound : Sound own PumpBalanced Fits config) : PumpExact config where
  exclusive i j target generation other otherGeneration first second := by
    by_contra apart
    have balanced := sound.inv
    rw [sum_own_pair own config.locals (Ne.symm apart)] at balanced
    have one := balanced.exclusive.2
    rw [first, second] at one
    simp at one
  live i target generation attached := by
    have fits := sound.fits i
    rwa [attached] at fits
  published := sound.inv.published
  belongs generation free active := by
    obtain ⟨locks, owners⟩ := sum_own_fst config.locals
    have noLock : ∑ i, (config.locals i).own.1 = 0 := by
      rw [← locks, sound.inv.lock, free]
      rfl
    have someOwner : ∑ i, (config.locals i).own.2.1 ≠ 0 := by
      rw [← owners, sound.inv.owner, active]
      exact one_ne_zero
    obtain ⟨i, -, owns⟩ := Finset.exists_ne_zero_of_sum_ne_zero someOwner
    obtain ⟨target, own, thread⟩ := owner_cases
      (Finset.sum_eq_zero_iff.mp noLock i (Finset.mem_univ i)) owns
    have fits : config.shared.activeGeneration = some own ∧ config.shared.target = some target ∧
        own ∈ config.shared.issued := by
      have fits := sound.fits i
      rcases thread with attached | ⟨drops, detaching⟩
      · rwa [attached] at fits
      · rwa [detaching] at fits
    rw [fits.1] at active
    cases active
    exact ⟨i, target, thread, fits.2.1⟩
  cleared i after target step published gone := by
    have fits := sound.fits i
    rcases step.stepped.target_inv with same | ⟨own, generation, thread⟩ |
      ⟨own, generation, drops, thread⟩
    · rw [same] at gone
      exact absurd published gone
    · rw [thread] at fits
      rw [fits.2.1] at published
      cases published
    · rw [thread] at fits
      rw [fits.2] at published
      cases published
      exact ⟨generation, drops, thread⟩
  deactivated i after generation step active gone := by
    have fits := sound.fits i
    rcases step.stepped.activeGeneration_inv with same | ⟨target, own, thread⟩ |
      ⟨target, own, drops, thread, isOwn⟩
    · rw [same] at gone
      exact absurd active gone
    · rw [thread] at fits
      rw [fits.1] at active
      cases active
    · cases isOwn.symm.trans active
      exact ⟨target, drops, thread⟩
  generations := sound.inv.distinct
  packets := sound.inv.packets
  counted := sound.inv.tallies
  allowed := sound.inv.allowed

/-- A packet is recorded at most once, and not while it is on its way. -/
theorem PumpExact.record_unique (exact : PumpExact config) :
    (config.shared.records.map PacketRecord.number).Nodup ∧
      ∀ i number bytes found, config.locals i = .deliver number bytes found →
        number ∉ config.shared.records.map PacketRecord.number := by
  have once := Multiset.nodup_range config.shared.deviceRead.packets
  rw [← exact.packets, Multiset.nodup_add] at once
  obtain ⟨records, -, apart⟩ := once
  refine ⟨Multiset.coe_nodup.mp records, fun i number bytes found delivering listed => ?_⟩
  refine Multiset.disjoint_left.mp apart (Multiset.mem_coe.mpr listed) ?_
  rw [sum_own own config.locals i, delivering]
  simp

/-- A packet whose look-up found no target is not offered to any, however the run goes on. -/
theorem offline_of_lookUp (begins : PumpStart maxPacketLen start)
    (reached : Reaches PumpStep start before) {i : ι} {number bytes : Nat}
    (looking : before.locals i = .lookUp number bytes) (offline : before.shared.target = none)
    (step : StepBy PumpStep i before after) (reaches : Reaches PumpStep after last) :
    ∀ packet ∈ last.shared.records, packet.number = number → packet.fate = .offline := by
  have tracked : last.locals i = .deliver number bytes none ∨
      ∃ packet ∈ last.shared.records, packet.number = number ∧ packet.found = none := by
    induction reaches with
    | refl =>
      have stepped := step.stepped
      rw [looking] at stepped
      refine .inl ?_
      rw [stepped.lookUp_inv, offline]
    | tail _ moves ih =>
      obtain ⟨j, step⟩ := moves
      have kept := step.stepped.records_inv
      rcases ih with delivering | ⟨packet, listed, own⟩
      · by_cases same : i = j
        · subst same
          have stepped := step.stepped
          rw [delivering] at stepped
          exact .inr stepped.recorded
        · rw [step.locals_ne same]
          exact .inl delivering
      · refine .inr ⟨packet, ?_, own⟩
        rcases kept with same | ⟨fresh, -, grown⟩
        · rwa [same]
        · rw [grown]
          exact List.mem_cons_of_mem _ listed
  have exact := PumpExact.of_sound (pump_sound begins ((reached.tail ⟨i, step⟩).trans reaches))
  obtain ⟨once, onItsWay⟩ := exact.record_unique
  intro packet listed same
  rcases tracked with delivering | ⟨own, recorded, ownNumber, offline⟩
  · exact absurd (same ▸ List.mem_map_of_mem listed) (onItsWay i number bytes none delivering)
  · have only := List.inj_on_of_nodup_map once listed recorded (same.trans ownNumber.symm)
    have allowed := exact.allowed packet listed
    rw [only, offline] at allowed
    rw [only]
    exact allowed

/-- **The packet pump.** In every interleaving attachments are exclusive and every packet meets
one fate. It is decided by the target that was published when the packet was looked up after it
was read; a packet that was looked up while none was published is never offered to one. -/
theorem packet_pump_exact (maxPacketLen : Nat) (begins : PumpStart maxPacketLen start)
    (reaches : Reaches PumpStep start config) :
    PumpExact config ∧
      (∀ packet ∈ config.shared.records,
        LookedUp start config packet.number packet.bytes packet.found) ∧
      ∀ i number bytes after last, config.locals i = .lookUp number bytes →
        config.shared.target = none → StepBy PumpStep i config after →
        Reaches PumpStep after last →
        ∀ packet ∈ last.shared.records, packet.number = number → packet.fate = .offline := by
  refine ⟨.of_sound (pump_sound begins reaches), (looked_up begins reaches).2, ?_⟩
  intro i number bytes after last looking offline step later
  exact offline_of_lookUp begins reaches looking offline step later

end Runs

/-! ### A packet between a read and a look-up -/

def exampleTarget : PumpTarget Unit := ⟨1400, ()⟩

/-- A pump and a thread without an attachment. -/
def examplePump : Config Bool (PumpShared Unit) (PumpThread Unit) :=
  ⟨.new 1500, fun pump => if pump then .reading else .idle⟩

theorem examplePump_start : PumpStart 1500 examplePump := by
  refine ⟨rfl, ?_⟩
  rintro (_ | _)
  · exact .inl rfl
  · exact .inr rfl

/-- The pump has read a packet. -/
def examplePumpRead : Config Bool (PumpShared Unit) (PumpThread Unit) :=
  ⟨{ PumpShared.new 1500 with deviceRead := ⟨1, 100⟩ },
    Function.update examplePump.locals true (.lookUp 0 100)⟩

theorem examplePump_read : Moves PumpStep examplePump examplePumpRead :=
  ⟨true, _, _, .read 100 (by decide), rfl⟩

/-- A thread attaches, the packet is looked up and delivered, and the attachment is detached. -/
theorem examplePump_attached :
    ∃ last, Reaches PumpStep examplePumpRead last ∧
      last.locals false = .attachment exampleTarget 1 true ∧
      last.shared.records = [⟨0, 100, some exampleTarget, .queueAccepted⟩] ∧
      ∃ later, Reaches PumpStep last later ∧
        later.locals false = .attachment exampleTarget 1 false ∧ later.shared.target = none ∧
        later.shared.records = last.shared.records := by
  refine exists_reaches_step false (.attach exampleTarget (by decide)) ?_
  refine exists_reaches_step false (.attachLock exampleTarget rfl) ?_
  refine exists_reaches_step false (.number exampleTarget rfl (by decide)) ?_
  refine exists_reaches_step false (.activate exampleTarget 1) ?_
  refine exists_reaches_step false (.publish exampleTarget 1) ?_
  refine exists_reaches_step false (.attachUnlock exampleTarget 1) ?_
  refine exists_reaches_step true (.lookUp 0 100) ?_
  refine exists_reaches_step true (.deliver ⟨0, 100, some exampleTarget, .queueAccepted⟩
    (.inr rfl)) ?_
  refine ⟨_, .refl, rfl, rfl, ?_⟩
  refine exists_reaches_step false (.detach exampleTarget 1 false) ?_
  refine exists_reaches_step false (.detachLock exampleTarget 1 _ rfl) ?_
  refine exists_reaches_step false (.clear exampleTarget 1 _ rfl) ?_
  refine exists_reaches_step false (.unpublish exampleTarget 1 _) ?_
  refine exists_reaches_step false (.detachUnlock exampleTarget 1) ?_
  exact ⟨_, .refl, rfl, rfl, rfl⟩

theorem packet_pump_exact_example :
    (∃ last, Reaches PumpStep examplePump last ∧
      last.locals false = .attachment exampleTarget 1 false ∧ PumpExact last ∧
      LookedUp examplePump last 0 100 (some exampleTarget)) ∧
    ∃ after, StepBy PumpStep true examplePumpRead after ∧
      after.locals true = .deliver 0 100 none ∧
      ∀ last, Reaches PumpStep after last →
        ∀ packet ∈ last.shared.records, packet.number = 0 → packet.fate = .offline := by
  refine ⟨?_, _, ⟨_, _, .lookUp 0 100, rfl⟩, rfl, fun last reaches => ?_⟩
  · obtain ⟨last, reaches, -, records, later, goesOn, detached, -, same⟩ := examplePump_attached
    have reached := (Relation.ReflTransGen.head examplePump_read reaches).trans goesOn
    obtain ⟨exact, looked, -⟩ := packet_pump_exact 1500 examplePump_start reached
    refine ⟨later, reached, detached, exact, looked ⟨0, 100, some exampleTarget, .queueAccepted⟩ ?_⟩
    rw [same, records]
    exact List.mem_singleton_self _
  · obtain ⟨-, -, offline⟩ := packet_pump_exact 1500 examplePump_start (.single examplePump_read)
    exact offline true 0 100 _ last rfl rfl ⟨_, _, .lookUp 0 100, rfl⟩ reaches

/-- A packet is read while the pump is offline, then a target is attached, then the packet is
looked up: the new target gets it. -/
theorem read_offline_sent_online :
    PumpStart 1500 examplePump ∧ Reaches PumpStep examplePump examplePumpRead ∧
      examplePumpRead.locals true = .lookUp 0 100 ∧ examplePumpRead.shared.target = none ∧
      examplePumpRead.shared.activeGeneration = none ∧
      ∃ last, Reaches PumpStep examplePumpRead last ∧
        last.locals false = .attachment exampleTarget 1 true ∧
        last.shared.records = [⟨0, 100, some exampleTarget, .queueAccepted⟩] := by
  obtain ⟨last, reaches, attached, records, -⟩ := examplePump_attached
  exact ⟨examplePump_start, .single examplePump_read, rfl, rfl, rfl, last, reaches, attached,
    records⟩

end FlowWeave.Vpn
