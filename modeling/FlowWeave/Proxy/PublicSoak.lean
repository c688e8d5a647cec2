/-
# Proxy.PublicSoak — the byte budget of the public soak (`src/proxy_soak.rs`)

Workers send flows through the proxy and count what they send and what comes back. Before a flow a
worker reserves the bytes of both directions from the budget with a compare-exchange loop; nothing
is given back. The counters are atomic and every access is a step of its own. The peer decides how
much a write or a read moves and when it fails, a flow may be dropped by its timeout where it
awaits, and a worker may panic or be aborted (`Worker.gone`).

`soak_sound` is the invariant of all interleavings: every flow has its reservation, and what it has
not yet moved is still reserved. `public_soak_within_budget` says what follows at every moment,
after the workers are joined, and for the stop code.
-/
import FlowWeave.Proxy.RatePacer
import FlowWeave.Theory.Checks
import Mathlib.Algebra.BigOperators.Pi
import Mathlib.Data.Fintype.Option

namespace FlowWeave.Proxy

open Theory.Checks Theory.MachineInt Theory.Threads

set_option autoImplicit false

/-! ## Configuration -/

def maxSoakDuration : Nat := 7 * 24 * 60 * 60 * 1000000000

def maxSoakPayloadBytes : Nat := 4 * 1024 * 1024

def maxPublicSoakWorkers : Nat := 8

def maxPublicSoakUploadRateBps : Nat := 1000000000

def maxPublicSoakApplicationByteBudget : Nat := 2 ^ 40

def maxPublicSoakCheckpointInterval : Nat := 60 * 60 * 1000000000

def maxPublicSoakPacingWindow : Nat := 10 * 1000000000

def publicSoakWriteChunkBytes : Nat := 16 * 1024

structure ProxyPublicSoakConfig where
  /-- Whether the client's address is a loopback address. -/
  clientLoopback : Bool
  duration : Nat
  workers : Nat
  payloadBytes : Nat
  uploadRateBps : Nat
  applicationByteBudget : Nat
  checkpointInterval : Nat

def applicationBytesPerFlow (payloadBytes : Nat) : Except String Nat :=
  match checkedMul u64Max payloadBytes 2 with
  | some bytes => .ok bytes
  | none => .error "公网 soak 单流应用字节数溢出"

def ProxyPublicSoakConfig.validate (config : ProxyPublicSoakConfig) : Except String Unit := do
  refuseIf (config.clientLoopback = false) "公网 soak workload 只能连接本机 loopback 代理端口"
  refuseIf (config.duration = 0 ∨ config.duration > maxSoakDuration)
    "公网 soak duration 必须在 1 ns 到 7 天之间"
  refuseIf (¬(1 ≤ config.workers ∧ config.workers ≤ maxPublicSoakWorkers))
    s!"公网 soak workers 必须在 1 到 {maxPublicSoakWorkers} 之间"
  refuseIf (¬(1 ≤ config.payloadBytes ∧ config.payloadBytes ≤ maxSoakPayloadBytes))
    s!"公网 soak payload_bytes 必须在 1 到 {maxSoakPayloadBytes} 之间"
  refuseIf (¬(1 ≤ config.uploadRateBps ∧ config.uploadRateBps ≤ maxPublicSoakUploadRateBps))
    s!"公网 soak upload_rate_bps 必须在 1 到 {maxPublicSoakUploadRateBps} 之间"
  let flowApplicationBytes ← applicationBytesPerFlow config.payloadBytes
  refuseIf (¬(flowApplicationBytes ≤ config.applicationByteBudget ∧
      config.applicationByteBudget ≤ maxPublicSoakApplicationByteBudget))
    s!"公网 soak application_byte_budget 必须至少容纳一条往返流，且不得超过 {maxPublicSoakApplicationByteBudget}"
  refuseIf (config.checkpointInterval = 0 ∨
      config.checkpointInterval > maxPublicSoakCheckpointInterval)
    "公网 soak checkpoint_interval 必须大于零且不得超过 1 小时"
  refuseIf (durationForRate (saturatingMul u128Max config.payloadBytes config.workers)
      config.uploadRateBps > maxPublicSoakPacingWindow)
    "公网 soak workers × payload_bytes 在当前限速下不得占用超过 10 秒发送窗口"

/-- The bytes of a flow in both directions. -/
def ProxyPublicSoakConfig.flowApplicationBytes (config : ProxyPublicSoakConfig) : Nat :=
  config.payloadBytes * 2

theorem ProxyPublicSoakConfig.validate_ok {config : ProxyPublicSoakConfig}
    (valid : config.validate = .ok ()) :
    applicationBytesPerFlow config.payloadBytes = .ok config.flowApplicationBytes ∧
      1 ≤ config.payloadBytes ∧ config.applicationByteBudget ≤ 2 ^ 40 := by
  simp only [validate, bind_eq_ok, refuseIf_eq_ok, applicationBytesPerFlow] at valid
  obtain ⟨_, -, _, -, _, -, _, payload, _, -, bytes, product, _, budget, -⟩ := valid
  split at product
  · rename_i found
    obtain ⟨rfl, -⟩ := checkedMul_some_iff.mp found
    refine ⟨by rw [applicationBytesPerFlow, found]; rfl, (not_not.mp payload).1, ?_⟩
    exact (not_not.mp budget).2
  · cases product

/-! ## Flows -/

def rotateLeft64 (word count : UInt64) : UInt64 := word <<< count ||| word >>> (64 - count)

def makePayload (workerId sequence : UInt64) (length : Nat) : List UInt8 :=
  (List.range length).map fun index =>
    let mixed := UInt64.ofNat index * 0x9e3779b9 + rotateLeft64 sequence 17 +
      rotateLeft64 workerId 9
    (mixed ^^^ mixed >>> 8 ^^^ mixed >>> 24).toUInt8

/-- The variables of `run_public_soak_flow`. -/
structure Flow where
  sequence : UInt64
  payload : List UInt8
  offset : Nat
  echoed : List UInt8
  deriving DecidableEq, Repr

def Flow.new (workerId sequence : UInt64) (payloadBytes : Nat) : Flow :=
  ⟨sequence, makePayload workerId sequence payloadBytes, 0, []⟩

def Flow.chunkEnd (flow : Flow) : Nat :=
  min flow.payload.length (saturatingAdd usizeMax flow.offset publicSoakWriteChunkBytes)

/-! ## Workers -/

inductive ProxyPublicSoakStopReason where
  | durationElapsed
  | applicationByteBudgetExhausted
  | flowFailed
  | interrupted
  deriving DecidableEq, Repr

/-- `WorkloadCounters`, the stop code (0 is none) and the value of the stop channel. Beside them
the reasons of all stop requests, in the order of their compare-exchanges. -/
structure SoakState where
  attemptedFlows : Nat
  completedFlows : Nat
  failedFlows : Nat
  timedOutFlows : Nat
  reservedApplicationBytes : Nat
  sentBytes : Nat
  echoedBytes : Nat
  stopCode : Option ProxyPublicSoakStopReason
  stop : Bool
  requests : List ProxyPublicSoakStopReason
  deriving DecidableEq, Repr

def SoakState.new : SoakState := ⟨0, 0, 0, 0, 0, 0, 0, none, false, []⟩

/-- The check of `reserve_application_budget`: the value that the exchange would store. -/
def nextReserved (config : ProxyPublicSoakConfig) (current : Nat) : Option Nat :=
  (checkedAdd u64Max current config.flowApplicationBytes).filter
    (· ≤ config.applicationByteBudget)

/-- The compare-exchange of `request_public_soak_stop`, and whether it succeeds. -/
def SoakState.requestStop (soak : SoakState) (reason : ProxyPublicSoakStopReason) :
    SoakState × Bool :=
  match soak.stopCode with
  | none =>
    ({ soak with stopCode := some reason, requests := soak.requests ++ [reason] }, true)
  | some _ => ({ soak with requests := soak.requests ++ [reason] }, false)

/-- Where a worker is: before the access or the await that the name says. -/
inductive Worker where
  | checkStop (sequence : UInt64)
  | loadReserved (sequence : UInt64)
  | exchange (sequence : UInt64) (current : Nat)
  | countAttempt (sequence : UInt64)
  | connect (flow : Flow)
  | pace (flow : Flow)
  | write (flow : Flow) (chunkEnd : Nat)
  | countSent (flow : Flow) (chunkEnd written : Nat)
  | shutdown (flow : Flow)
  | read (flow : Flow)
  | countEchoed (flow : Flow) (bytes : List UInt8)
  | countCompleted (flow : Flow)
  | countFailed (flow : Flow) (timedOut : Bool)
  | countTimedOut
  | requestStop (reason : ProxyPublicSoakStopReason)
  | sendStop
  | done
  | gone (last : Worker)
  deriving DecidableEq, Repr

open Worker

/-- The flow at the head of its outer loop. -/
def Worker.writeLoop (flow : Flow) : Worker :=
  if flow.offset < flow.payload.length then .pace flow else .shutdown flow

/-- The flow at the head of its inner loop. -/
def Worker.chunkLoop (flow : Flow) (chunkEnd : Nat) : Worker :=
  if flow.offset < chunkEnd then .write flow chunkEnd else .writeLoop flow

/-- The flow whose future is suspended, so that its timeout may drop it. -/
def Worker.suspended : Worker → Option Flow
  | .connect flow | .pace flow | .write flow _ | .shutdown flow | .read flow => some flow
  | _ => none

/-- The steps of a worker. What the peer and the clock decide is not determined. -/
inductive WorkerStep (config : ProxyPublicSoakConfig) (workerId : UInt64) (soak : SoakState) :
    Worker → SoakState → Worker → Prop
  | stopped {sequence : UInt64} : soak.stop = true →
      WorkerStep config workerId soak (.checkStop sequence) soak .done
  | goOn {sequence : UInt64} : soak.stop = false →
      WorkerStep config workerId soak (.checkStop sequence) soak (.loadReserved sequence)
  | loaded {sequence : UInt64} :
      WorkerStep config workerId soak (.loadReserved sequence) soak
        (.exchange sequence soak.reservedApplicationBytes)
  | exhausted {sequence : UInt64} {current : Nat} :
      nextReserved config current = none →
      WorkerStep config workerId soak (.exchange sequence current) soak
        (.requestStop .applicationByteBudgetExhausted)
  | exchanged {sequence : UInt64} {current next : Nat} :
      nextReserved config current = some next → soak.reservedApplicationBytes = current →
      WorkerStep config workerId soak (.exchange sequence current)
        { soak with reservedApplicationBytes := next } (.countAttempt sequence)
  -- the exchange is a weak one, which may fail without reason
  | notExchanged {sequence : UInt64} {current next : Nat} :
      nextReserved config current = some next →
      WorkerStep config workerId soak (.exchange sequence current) soak
        (.exchange sequence soak.reservedApplicationBytes)
  | attempted {sequence : UInt64} :
      WorkerStep config workerId soak (.countAttempt sequence)
        { soak with attemptedFlows := soak.attemptedFlows + 1 }
        (.connect (.new workerId sequence config.payloadBytes))
  | connected {flow : Flow} :
      WorkerStep config workerId soak (.connect flow) soak (.writeLoop flow)
  | paced {flow : Flow} :
      WorkerStep config workerId soak (.pace flow) soak (.chunkLoop flow flow.chunkEnd)
  | wrote {flow : Flow} {chunkEnd : Nat} (written : Nat) : written ≠ 0 →
      flow.offset + written ≤ chunkEnd →
      WorkerStep config workerId soak (.write flow chunkEnd) soak
        (.countSent flow chunkEnd written)
  | sent {flow : Flow} {chunkEnd written : Nat} :
      WorkerStep config workerId soak (.countSent flow chunkEnd written)
        { soak with sentBytes := soak.sentBytes + written }
        (.chunkLoop { flow with offset := flow.offset + written } chunkEnd)
  | shut {flow : Flow} :
      WorkerStep config workerId soak (.shutdown flow) soak (.read flow)
  | received {flow : Flow} (bytes : List UInt8) : bytes ≠ [] →
      bytes.length ≤ publicSoakWriteChunkBytes →
      ¬flow.echoed.length + bytes.length > flow.payload.length →
      WorkerStep config workerId soak (.read flow) soak (.countEchoed flow bytes)
  | excess {flow : Flow} (bytes : List UInt8) :
      flow.echoed.length + bytes.length > flow.payload.length →
      WorkerStep config workerId soak (.read flow) soak (.countFailed flow false)
  | echoed {flow : Flow} {bytes : List UInt8} :
      WorkerStep config workerId soak (.countEchoed flow bytes)
        { soak with echoedBytes := soak.echoedBytes + bytes.length }
        (.read { flow with echoed := flow.echoed ++ bytes })
  | same {flow : Flow} : flow.echoed = flow.payload →
      WorkerStep config workerId soak (.read flow) soak (.countCompleted flow)
  | different {flow : Flow} : flow.echoed ≠ flow.payload →
      WorkerStep config workerId soak (.read flow) soak (.countFailed flow false)
  -- an operation of the flow fails, or writes nothing, or its timeout drops the flow
  | dropped {worker : Worker} {flow : Flow} (timedOut : Bool) :
      worker.suspended = some flow →
      WorkerStep config workerId soak worker soak (.countFailed flow timedOut)
  | completed {flow : Flow} :
      WorkerStep config workerId soak (.countCompleted flow)
        { soak with completedFlows := soak.completedFlows + 1 }
        (.checkStop (flow.sequence + 1))
  | failed {flow : Flow} {timedOut : Bool} :
      WorkerStep config workerId soak (.countFailed flow timedOut)
        { soak with failedFlows := soak.failedFlows + 1 }
        (if timedOut then .countTimedOut else .requestStop .flowFailed)
  | timedOut :
      WorkerStep config workerId soak .countTimedOut
        { soak with timedOutFlows := soak.timedOutFlows + 1 } (.requestStop .flowFailed)
  | requested {reason : ProxyPublicSoakStopReason} :
      WorkerStep config workerId soak (.requestStop reason) (soak.requestStop reason).1
        (if (soak.requestStop reason).2 then .sendStop else .done)
  | stopSent :
      WorkerStep config workerId soak .sendStop { soak with stop := true } .done
  -- a panic, or the abort of the task
  | lost {worker : Worker} :
      WorkerStep config workerId soak worker soak (.gone worker)

/-- Where the soak itself is: in its `select!` loop, in a stop request, and after it. -/
inductive SoakMain where
  | waiting
  | requestStop (reason : ProxyPublicSoakStopReason)
  | sendStop
  | finalStop
  | joining
  deriving DecidableEq, Repr

inductive MainStep (soak : SoakState) : SoakMain → SoakState → SoakMain → Prop
  | seesStop : soak.stop = true → MainStep soak .waiting soak .finalStop
  | interrupted : MainStep soak .waiting soak (.requestStop .interrupted)
  | deadline : MainStep soak .waiting soak (.requestStop .durationElapsed)
  | requested {reason : ProxyPublicSoakStopReason} :
      MainStep soak (.requestStop reason) (soak.requestStop reason).1
        (if (soak.requestStop reason).2 then .sendStop else .finalStop)
  | stopSent : MainStep soak .sendStop { soak with stop := true } .finalStop
  | finalSent : MainStep soak .finalStop { soak with stop := true } .joining

/-- A task of the soak. -/
inductive SoakTask where
  | worker (workerId : UInt64) (worker : Worker)
  | main (main : SoakMain)
  deriving DecidableEq, Repr

inductive SoakStep (config : ProxyPublicSoakConfig) :
    SoakState → SoakTask → SoakState → SoakTask → Prop
  | worker {soak soak' : SoakState} {workerId : UInt64} {worker worker' : Worker} :
      WorkerStep config workerId soak worker soak' worker' →
      SoakStep config soak (.worker workerId worker) soak' (.worker workerId worker')
  | main {soak soak' : SoakState} {main main' : SoakMain} : MainStep soak main soak' main' →
      SoakStep config soak (.main main) soak' (.main main')

/-- The soak when its workers have been spawned. -/
def soakStart {ι : Type} (ids : ι → UInt64) : Config (Option ι) SoakState SoakTask :=
  ⟨.new, fun task => task.elim (.main .waiting) fun i => .worker (ids i) (.checkStop 0)⟩

/-! ## What a worker holds -/

/-- The shares of the counters that belong to flows in progress: flows that are reserved and not
yet counted as attempted, those that are attempted and neither completed nor failed, those that
are failed and not yet counted as timed out, the bytes that they have moved and those that they
may still move. -/
inductive SoakShare where
  | reserved
  | active
  | late
  | sent
  | echoed
  | left
  deriving DecidableEq, Repr

/-- What a flow in progress holds. -/
def Flow.own (config : ProxyPublicSoakConfig) (flow : Flow) : SoakShare → Nat
  | .reserved => 0
  | .active => 1
  | .late => 0
  | .sent => flow.offset
  | .echoed => flow.echoed.length
  | .left => config.flowApplicationBytes - (flow.offset + flow.echoed.length)

def Worker.own (config : ProxyPublicSoakConfig) : Worker → SoakShare → Nat
  | .countAttempt _ => fun
      | .reserved => 1
      | .left => config.flowApplicationBytes
      | _ => 0
  | .connect flow | .pace flow | .write flow _ | .countSent flow _ _ | .shutdown flow | .read flow
  | .countEchoed flow _ | .countCompleted flow | .countFailed flow _ => flow.own config
  | .countTimedOut => fun
      | .late => 1
      | _ => 0
  | .gone last => last.own config
  | _ => 0

def SoakTask.own (config : ProxyPublicSoakConfig) : SoakTask → SoakShare → Nat
  | .worker _ state => state.own config
  | .main _ => 0

structure SoakBalanced (config : ProxyPublicSoakConfig) (soak : SoakState)
    (held : SoakShare → Nat) : Prop where
  reserved : soak.reservedApplicationBytes =
    config.flowApplicationBytes * (soak.attemptedFlows + held .reserved)
  attempted : soak.attemptedFlows = soak.completedFlows + soak.failedFlows + held .active
  timedOut : soak.timedOutFlows + held .late ≤ soak.failedFlows
  budget : soak.reservedApplicationBytes ≤ config.applicationByteBudget
  moved : soak.sentBytes + soak.echoedBytes + held .left ≤ soak.reservedApplicationBytes
  sent : soak.failedFlows = 0 →
    soak.sentBytes = soak.completedFlows * config.payloadBytes + held .sent
  echoed : soak.failedFlows = 0 →
    soak.echoedBytes = soak.completedFlows * config.payloadBytes + held .echoed
  stopCode : soak.stopCode = soak.requests.head?

/-- A flow that has not moved more than its payload in either direction. -/
structure Flow.Fits (config : ProxyPublicSoakConfig) (flow : Flow) : Prop where
  payload : flow.payload.length = config.payloadBytes
  offset : flow.offset ≤ config.payloadBytes
  echoed : flow.echoed.length ≤ config.payloadBytes

def Worker.Fits (config : ProxyPublicSoakConfig) : Worker → Prop
  | .connect flow | .pace flow | .countFailed flow _ => flow.Fits config
  | .write flow chunkEnd => flow.Fits config ∧ chunkEnd ≤ config.payloadBytes
  | .countSent flow chunkEnd written =>
    flow.Fits config ∧ chunkEnd ≤ config.payloadBytes ∧ flow.offset + written ≤ chunkEnd
  | .shutdown flow | .read flow => flow.Fits config ∧ flow.offset = config.payloadBytes
  | .countEchoed flow bytes => flow.Fits config ∧ flow.offset = config.payloadBytes ∧
      flow.echoed.length + bytes.length ≤ config.payloadBytes
  | .countCompleted flow => flow.Fits config ∧ flow.offset = config.payloadBytes ∧
      flow.echoed.length = config.payloadBytes
  | .gone last => last.Fits config
  | _ => True

def SoakTask.Fits (config : ProxyPublicSoakConfig) : SoakTask → Prop
  | .worker _ state => state.Fits config
  | .main _ => True

/-! ## Steps -/

section Steps

variable {config : ProxyPublicSoakConfig} {soak soak' : SoakState} {rest : SoakShare → Nat}
variable {workerId : UInt64} {worker worker' : Worker} {flow : Flow}

theorem nextReserved_eq_some {current next : Nat}
    (found : nextReserved config current = some next) :
    next = current + config.flowApplicationBytes ∧ next ≤ config.applicationByteBudget := by
  obtain ⟨sum, bounded⟩ := Option.filter_eq_some_iff.mp found
  exact ⟨(checkedAdd_some_iff.mp sum).1, by simpa using bounded⟩

theorem Flow.new_fits (workerId sequence : UInt64) :
    (Flow.new workerId sequence config.payloadBytes).Fits config where
  payload := by simp [Flow.new, makePayload]
  offset := Nat.zero_le _
  echoed := Nat.zero_le _

theorem Worker.own_countAttempt (sequence : UInt64) :
    (countAttempt sequence).own config = fun
      | .reserved => 1
      | .left => config.flowApplicationBytes
      | _ => 0 := rfl

theorem Worker.own_countTimedOut : countTimedOut.own config = fun
      | .late => 1
      | _ => 0 := rfl

theorem Worker.own_requestStop (reason : ProxyPublicSoakStopReason) :
    (requestStop reason).own config = 0 := rfl

theorem Worker.own_writeLoop (flow : Flow) : (writeLoop flow).own config = flow.own config := by
  unfold writeLoop
  split <;> rfl

theorem Worker.own_chunkLoop (flow : Flow) (chunkEnd : Nat) :
    (chunkLoop flow chunkEnd).own config = flow.own config := by
  unfold chunkLoop
  split
  · rfl
  · exact own_writeLoop flow

theorem Flow.Fits.writeLoop (fits : flow.Fits config) : (Worker.writeLoop flow).Fits config := by
  unfold Worker.writeLoop
  split
  · exact fits
  · rename_i atEnd
    have payload := fits.payload
    have offset := fits.offset
    exact ⟨fits, by omega⟩

theorem Flow.Fits.chunkLoop (fits : flow.Fits config) {chunkEnd : Nat}
    (inside : chunkEnd ≤ config.payloadBytes) : (Worker.chunkLoop flow chunkEnd).Fits config := by
  unfold Worker.chunkLoop
  split
  · exact ⟨fits, inside⟩
  · exact fits.writeLoop

/-- A worker that is suspended holds what its flow does. -/
theorem Worker.own_suspended (suspended : worker.suspended = some flow) :
    worker.own config = flow.own config := by
  cases worker <;> cases suspended <;> rfl

theorem Worker.Fits.suspended (fits : worker.Fits config)
    (suspended : worker.suspended = some flow) : flow.Fits config := by
  cases worker <;> cases suspended
  · exact fits
  · exact fits
  · exact fits.1
  · exact fits.1
  · exact fits.1

namespace SoakBalanced

theorem reserve {sequence : UInt64} {next : Nat} (balanced : SoakBalanced config soak (0 + rest))
    (found : nextReserved config soak.reservedApplicationBytes = some next) :
    SoakBalanced config { soak with reservedApplicationBytes := next }
      ((countAttempt sequence).own config + rest) := by
  obtain ⟨rfl, bounded⟩ := nextReserved_eq_some found
  have more : config.flowApplicationBytes * (soak.attemptedFlows + (1 + rest .reserved)) =
      config.flowApplicationBytes * (soak.attemptedFlows + rest .reserved) +
        config.flowApplicationBytes := by
    rw [Nat.add_left_comm, Nat.add_comm 1, Nat.mul_succ]
  obtain ⟨reserved, attempted, timedOut, budget, moved, sent, echoed, stopCode⟩ := balanced
  simp only [Pi.add_apply, Pi.zero_apply,
    Nat.zero_add] at reserved attempted timedOut moved sent echoed
  constructor
  case stopCode => exact stopCode
  case budget => exact bounded
  case reserved =>
    simp only [Pi.add_apply, own_countAttempt]
    omega
  all_goals
    simp only [Pi.add_apply, own_countAttempt]
    omega

theorem attempt {sequence : UInt64}
    (balanced : SoakBalanced config soak ((countAttempt sequence).own config + rest)) :
    SoakBalanced config { soak with attemptedFlows := soak.attemptedFlows + 1 }
      ((Flow.new workerId sequence config.payloadBytes).own config + rest) := by
  obtain ⟨reserved, attempted, timedOut, budget, moved, sent, echoed, stopCode⟩ := balanced
  simp only [Pi.add_apply, own_countAttempt] at reserved attempted timedOut moved sent echoed
  constructor
  case stopCode => exact stopCode
  case reserved => simpa only [Pi.add_apply, Flow.own, Nat.zero_add, Nat.add_assoc] using reserved
  all_goals
    simp only [Pi.add_apply, Flow.own, Flow.new, List.length_nil]
    omega

section Running

variable (balanced : SoakBalanced config soak (flow.own config + rest))

include balanced

theorem send {written : Nat} (fits : flow.Fits config)
    (inside : flow.offset + written ≤ config.payloadBytes) :
    SoakBalanced config { soak with sentBytes := soak.sentBytes + written }
      (Flow.own config { flow with offset := flow.offset + written } + rest) := by
  have room := fits.echoed
  have total : config.flowApplicationBytes = config.payloadBytes * 2 := rfl
  have moved := balanced.moved
  have sent := balanced.sent
  simp only [Pi.add_apply, Flow.own] at moved sent
  refine { balanced with moved := ?_, sent := ?_ }
  all_goals
    simp only [Pi.add_apply, Flow.own]
    omega

theorem echo {bytes : List UInt8} (fits : flow.Fits config)
    (inside : flow.echoed.length + bytes.length ≤ config.payloadBytes) :
    SoakBalanced config { soak with echoedBytes := soak.echoedBytes + bytes.length }
      (Flow.own config { flow with echoed := flow.echoed ++ bytes } + rest) := by
  have room := fits.offset
  have total : config.flowApplicationBytes = config.payloadBytes * 2 := rfl
  have moved := balanced.moved
  have echoed := balanced.echoed
  simp only [Pi.add_apply, Flow.own] at moved echoed
  refine { balanced with moved := ?_, echoed := ?_ }
  all_goals
    simp only [Pi.add_apply, Flow.own, List.length_append]
    omega

theorem complete (wrote : flow.offset = config.payloadBytes)
    (read : flow.echoed.length = config.payloadBytes) :
    SoakBalanced config { soak with completedFlows := soak.completedFlows + 1 } (0 + rest) := by
  obtain ⟨reserved, attempted, timedOut, budget, moved, sent, echoed, stopCode⟩ := balanced
  simp only [Pi.add_apply, Flow.own] at reserved attempted timedOut moved sent echoed
  constructor
  case stopCode => exact stopCode
  case reserved => exact reserved
  all_goals
    simp only [Pi.add_apply, Pi.zero_apply, Nat.succ_mul]
    omega

theorem fail {timedOut : Bool} :
    SoakBalanced config { soak with failedFlows := soak.failedFlows + 1 }
      ((if timedOut then countTimedOut else requestStop .flowFailed).own config +
        rest) := by
  obtain ⟨reserved, attempted, late, budget, moved, sent, echoed, stopCode⟩ := balanced
  simp only [Pi.add_apply, Flow.own] at reserved attempted late moved
  constructor
  case stopCode => exact stopCode
  case reserved => cases timedOut <;> exact reserved
  all_goals
    cases timedOut
    all_goals
      simp only [Pi.add_apply, own_countTimedOut, own_requestStop, if_true, if_false,
        Bool.false_eq_true, Pi.zero_apply]
      omega

end Running

theorem timeOut (balanced : SoakBalanced config soak (countTimedOut.own config + rest)) :
    SoakBalanced config { soak with timedOutFlows := soak.timedOutFlows + 1 } (0 + rest) := by
  have late := balanced.timedOut
  simp only [Pi.add_apply, own_countTimedOut] at late
  refine { balanced with timedOut := ?_ }
  simp only [Pi.add_apply, Pi.zero_apply]
  omega

/-- The first request sets the code, the others do not. -/
theorem request {held : SoakShare → Nat} (balanced : SoakBalanced config soak held)
    (reason : ProxyPublicSoakStopReason) :
    SoakBalanced config (soak.requestStop reason).1 held := by
  have head := balanced.stopCode
  unfold SoakState.requestStop
  split
  · rename_i none
    rw [none] at head
    have first : soak.requests = [] := List.head?_eq_none_iff.mp head.symm
    exact { balanced with stopCode := by simp [first] }
  · rename_i earlier set
    rw [set] at head
    exact { balanced with stopCode := by simp [set, ← head] }

end SoakBalanced

theorem WorkerStep.sound (step : WorkerStep config workerId soak worker soak' worker')
    (balanced : SoakBalanced config soak (worker.own config + rest)) (fits : worker.Fits config) :
    SoakBalanced config soak' (worker'.own config + rest) ∧ worker'.Fits config := by
  cases step with
  | stopped | goOn | loaded | exhausted | notExchanged => exact ⟨balanced, trivial⟩
  | exchanged found current =>
    subst current
    exact ⟨balanced.reserve found, trivial⟩
  | attempted => exact ⟨balanced.attempt, Flow.new_fits workerId _⟩
  | connected =>
    rw [own_writeLoop]
    exact ⟨balanced, fits.writeLoop⟩
  | paced =>
    refine ⟨?_, fits.chunkLoop ((Nat.min_le_left _ _).trans fits.payload.le)⟩
    rw [own_chunkLoop]
    exact balanced
  | wrote written some inside => exact ⟨balanced, fits.1, fits.2, inside⟩
  | @sent flow chunkEnd written =>
    obtain ⟨flowFits, chunk, inside⟩ := fits
    have moved : Flow.Fits config { flow with offset := flow.offset + written } :=
      ⟨flowFits.payload, inside.trans chunk, flowFits.echoed⟩
    rw [own_chunkLoop]
    exact ⟨balanced.send flowFits (inside.trans chunk), moved.chunkLoop chunk⟩
  | shut => exact ⟨balanced, fits⟩
  | received bytes some small fitting =>
    exact ⟨balanced, fits.1, fits.2, fits.1.payload ▸ Nat.not_lt.mp fitting⟩
  | excess => exact ⟨balanced, fits.1⟩
  | echoed =>
    obtain ⟨flowFits, wrote, inside⟩ := fits
    exact ⟨balanced.echo flowFits inside,
      { flowFits with echoed := by rw [List.length_append]; exact inside }, wrote⟩
  | same equal => exact ⟨balanced, fits.1, fits.2, by rw [equal, fits.1.payload]⟩
  | different => exact ⟨balanced, fits.1⟩
  | dropped timedOut suspended =>
    rw [own_suspended suspended] at balanced
    exact ⟨balanced, fits.suspended suspended⟩
  | completed => exact ⟨balanced.complete fits.2.1 fits.2.2, trivial⟩
  | @failed _ timedOut =>
    refine ⟨balanced.fail, ?_⟩
    cases timedOut <;> trivial
  | timedOut => exact ⟨balanced.timeOut, trivial⟩
  | @requested reason =>
    have requested := balanced.request reason
    split
    · exact ⟨requested, trivial⟩
    · exact ⟨requested, trivial⟩
  | stopSent => exact ⟨{ balanced with }, trivial⟩
  | lost => exact ⟨balanced, fits⟩

theorem SoakStep.sound {task task' : SoakTask} (step : SoakStep config soak task soak' task')
    (balanced : SoakBalanced config soak (task.own config + rest)) (fits : task.Fits config) :
    SoakBalanced config soak' (task'.own config + rest) ∧ task'.Fits config := by
  cases step with
  | worker step => exact step.sound balanced fits
  | main step =>
    cases step with
    | seesStop | interrupted | deadline => exact ⟨balanced, trivial⟩
    | @requested reason => exact ⟨balanced.request reason, trivial⟩
    | stopSent | finalSent => exact ⟨{ balanced with }, trivial⟩

end Steps

/-- In every interleaving each flow has its reservation. -/
theorem soak_sound {ι : Type} [Fintype ι] [DecidableEq ι] {config : ProxyPublicSoakConfig}
    {ids : ι → UInt64} {state : Config (Option ι) SoakState SoakTask}
    (reaches : Reaches (SoakStep config) (soakStart ids) state) :
    Sound (SoakTask.own config) (SoakBalanced config) (fun _ => SoakTask.Fits config) state := by
  have start : Sound (SoakTask.own config) (SoakBalanced config) (fun _ => SoakTask.Fits config)
      (soakStart ids) := by
    have nothing : ∑ task, ((soakStart ids).locals task).own config = 0 :=
      Finset.sum_eq_zero fun task _ => by cases task <;> rfl
    refine ⟨nothing ▸ ?_, fun task => by cases task <;> trivial⟩
    exact ⟨by simp [soakStart, SoakState.new], rfl, le_rfl, Nat.zero_le _, le_rfl,
      fun _ => by simp [soakStart, SoakState.new], fun _ => by simp [soakStart, SoakState.new], rfl⟩
  exact start.reaches (fun _ _ _ _ _ balanced fits step => step.sound balanced fits)
    (fun _ _ _ _ _ _ _ _ fits _ => fits) reaches

/-! ## The budget -/

section Outcome

variable {ι : Type} [DecidableEq ι] {config : ProxyPublicSoakConfig}
variable {state later : Config (Option ι) SoakState SoakTask}

/-- All workers have come to their end. -/
def WorkersDone (state : Config (Option ι) SoakState SoakTask) : Prop :=
  ∀ task workerId worker, state.locals task = .worker workerId worker → worker = .done

variable {first : ProxyPublicSoakStopReason}

theorem SoakState.requestStop_stopCode {soak : SoakState} {reason : ProxyPublicSoakStopReason}
    (set : soak.stopCode = some first) : (soak.requestStop reason).1.stopCode = some first := by
  simp only [requestStop, set]

theorem SoakStep.stopCode_kept {soak soak' : SoakState} {task task' : SoakTask}
    (step : SoakStep config soak task soak' task') (set : soak.stopCode = some first) :
    soak'.stopCode = some first := by
  cases step with
  | worker step =>
    cases step with
    | requested => exact SoakState.requestStop_stopCode set
    | _ => exact set
  | main step =>
    cases step with
    | requested => exact SoakState.requestStop_stopCode set
    | _ => exact set

theorem stopCode_kept (reaches : Reaches (SoakStep config) state later)
    (set : state.shared.stopCode = some first) : later.shared.stopCode = some first := by
  induction reaches with
  | refl => exact set
  | tail _ moves ih =>
    obtain ⟨task, step⟩ := moves
    exact step.stepped.stopCode_kept ih

omit [DecidableEq ι] in
theorem WorkersDone.nothing_held [Fintype ι] (done : WorkersDone state) :
    ∑ task, (state.locals task).own config = 0 := by
  refine Finset.sum_eq_zero fun task _ => ?_
  cases found : state.locals task with
  | worker workerId worker =>
    rw [done task workerId worker found]
    rfl
  | main => rfl

/-- **The public soak keeps to its byte budget.** For any number of workers and in every
interleaving of their steps: what has been sent and echoed is reserved, and what is reserved is
within the budget, so that no counter wraps. When the workers are done, every attempted flow is
completed or failed, and without a failed flow all bytes are those of the completed flows. The stop
code is the reason of the first request and stays. -/
theorem public_soak_within_budget [Fintype ι] (valid : config.validate = .ok ()) {ids : ι → UInt64}
    (reaches : Reaches (SoakStep config) (soakStart ids) state) :
    (state.shared.sentBytes + state.shared.echoedBytes ≤ state.shared.reservedApplicationBytes ∧
      state.shared.reservedApplicationBytes ≤ config.applicationByteBudget) ∧
    (state.shared.attemptedFlows ≤ u64Max ∧ state.shared.completedFlows ≤ u64Max ∧
      state.shared.failedFlows ≤ u64Max ∧ state.shared.timedOutFlows ≤ u64Max ∧
      state.shared.reservedApplicationBytes ≤ u64Max ∧ state.shared.sentBytes ≤ u64Max ∧
      state.shared.echoedBytes ≤ u64Max) ∧
    (WorkersDone state →
      state.shared.attemptedFlows = state.shared.completedFlows + state.shared.failedFlows ∧
      (state.shared.failedFlows = 0 →
        state.shared.sentBytes = state.shared.completedFlows * config.payloadBytes ∧
        state.shared.echoedBytes = state.shared.completedFlows * config.payloadBytes ∧
        state.shared.reservedApplicationBytes =
          state.shared.sentBytes + state.shared.echoedBytes)) ∧
    state.shared.stopCode = state.shared.requests.head? ∧
    ∀ later, Reaches (SoakStep config) state later → ∀ first,
      state.shared.stopCode = some first → later.shared.stopCode = some first := by
  obtain ⟨-, payload, budget⟩ := ProxyPublicSoakConfig.validate_ok valid
  obtain ⟨reserved, attempted, timedOut, within, moved, sent, echoed, stopCode⟩ :=
    (soak_sound reaches).inv
  have flowBytes : config.flowApplicationBytes = config.payloadBytes * 2 := rfl
  have attempts : state.shared.attemptedFlows ≤ state.shared.reservedApplicationBytes :=
    calc state.shared.attemptedFlows
      _ ≤ config.flowApplicationBytes * state.shared.attemptedFlows :=
          Nat.le_mul_of_pos_left _ (by omega)
      _ ≤ state.shared.reservedApplicationBytes := by
          rw [reserved]
          exact Nat.mul_le_mul_left _ (Nat.le_add_right _ _)
  have bound : config.applicationByteBudget ≤ u64Max := budget.trans (by decide)
  refine ⟨⟨by omega, within⟩, ⟨by omega, by omega, by omega, by omega, by omega, by omega,
    by omega⟩, ?_, stopCode, fun later further first set => stopCode_kept further set⟩
  intro done
  rw [done.nothing_held] at reserved attempted sent echoed
  simp only [Pi.zero_apply, Nat.add_zero] at reserved attempted sent echoed
  refine ⟨attempted, fun none => ?_⟩
  have sentAll := sent none
  have echoedAll := echoed none
  refine ⟨sentAll, echoedAll, ?_⟩
  rw [reserved, attempted, none, Nat.add_zero, flowBytes, sentAll, echoedAll, Nat.mul_comm,
    ← Nat.mul_assoc, Nat.mul_two]

end Outcome

/-! ## A run with two workers -/

/-- A budget for one flow of two bytes. -/
def exampleSoakConfig : ProxyPublicSoakConfig where
  clientLoopback := true
  duration := 1
  workers := 2
  payloadBytes := 2
  uploadRateBps := 1000
  applicationByteBudget := 4
  checkpointInterval := 1

def exampleIds (isFirst : Bool) : UInt64 := bif isFirst then 0 else 1

/-- One flow has been completed, and another did not fit into the budget. -/
def exampleSoakEnd : SoakState where
  attemptedFlows := 1
  completedFlows := 1
  failedFlows := 0
  timedOutFlows := 0
  reservedApplicationBytes := 4
  sentBytes := 2
  echoedBytes := 2
  stopCode := some .applicationByteBudgetExhausted
  stop := true
  requests := [.applicationByteBudgetExhausted]

/-- Both workers have seen the whole budget before the first one reserves it. The second one stops
the soak, and the first one ends its flow. -/
theorem exampleSoak_runs :
    ∃ last, Reaches (SoakStep exampleSoakConfig) (soakStart exampleIds) last ∧
    last.shared = exampleSoakEnd ∧ WorkersDone last := by
  refine exists_reaches_step (some true) (.worker (.goOn rfl)) ?_
  refine exists_reaches_step (some true) (.worker .loaded) ?_
  refine exists_reaches_step (some false) (.worker (.goOn rfl)) ?_
  refine exists_reaches_step (some false) (.worker .loaded) ?_
  refine exists_reaches_step (some true) (.worker (.exchanged rfl rfl)) ?_
  refine exists_reaches_step (some false) (.worker (.notExchanged rfl)) ?_
  refine exists_reaches_step (some true) (.worker .attempted) ?_
  refine exists_reaches_step (some false) (.worker (.exhausted rfl)) ?_
  refine exists_reaches_step (some true) (.worker .connected) ?_
  refine exists_reaches_step (some true) (.worker .paced) ?_
  refine exists_reaches_step (some true) (.worker (.wrote 2 (by decide) (by decide))) ?_
  refine exists_reaches_step (some false) (.worker .requested) ?_
  refine exists_reaches_step (some true) (.worker .sent) ?_
  refine exists_reaches_step (some true) (.worker .shut) ?_
  refine exists_reaches_step (some true)
    (.worker (.received (makePayload 0 0 2) (by decide) (by decide) (by decide))) ?_
  refine exists_reaches_step (some false) (.worker .stopSent) ?_
  refine exists_reaches_step (some true) (.worker .echoed) ?_
  refine exists_reaches_step (some true) (.worker (.same rfl)) ?_
  refine exists_reaches_step (some true) (.worker .completed) ?_
  refine exists_reaches_step (some true) (.worker (.stopped rfl)) ?_
  refine ⟨_, .refl, rfl, ?_⟩
  rintro (_ | _ | _) workerId worker found <;> cases found <;> rfl

theorem public_soak_within_budget_example :
    exampleSoakConfig.validate = .ok () ∧
      ∃ last, Reaches (SoakStep exampleSoakConfig) (soakStart exampleIds) last ∧
        last.shared = exampleSoakEnd ∧ WorkersDone last ∧
        last.shared.sentBytes + last.shared.echoedBytes ≤ last.shared.reservedApplicationBytes ∧
        last.shared.attemptedFlows = last.shared.completedFlows + last.shared.failedFlows := by
  have valid : exampleSoakConfig.validate = .ok () := by rfl
  obtain ⟨last, reaches, isEnd, done⟩ := exampleSoak_runs
  obtain ⟨⟨moved, -⟩, -, joined, -⟩ := public_soak_within_budget valid reaches
  exact ⟨valid, last, reaches, isEnd, done, moved, (joined done).1⟩

end FlowWeave.Proxy
