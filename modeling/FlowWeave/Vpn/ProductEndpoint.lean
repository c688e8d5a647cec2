/-
# Vpn.ProductEndpoint — the paths of a client's connection (`src/vpn_product_endpoint.rs`)

A client has a slot for each configured local address, and a slot records the path that was opened
for it. `connectVpnClientAddress` opens the paths; `rebindNetworkPaths` binds a new socket and
replaces the paths slot by slot: the new path is opened and inspected, then the old one is closed
and waited for, and a failure on the way discards the new path.

The transport is asked (`Theory.Dialogue`). It opens a path under an id that it has never used, or
fails and opens nothing; an open that times out is not taken back, so its path is open and the
client does not know it. The transport closes a path unless that is the only open one; an
inspection or a wait may end in any way; and a path may close by itself at any moment
(`Transport.VanishesTo`).
-/
import FlowWeave.Theory.Dialogue
import FlowWeave.Vpn.ProductConfig

namespace FlowWeave.Vpn

open Theory Theory.MachineInt

set_option autoImplicit false

/-! ## Errors -/

/-- The kinds of `std::io::ErrorKind` that the supervisor tells apart. -/
inductive IoErrorKind where
  | addrInUse
  | addrNotAvailable
  | connectionAborted
  | hostUnreachable
  | interrupted
  | networkDown
  | networkUnreachable
  | timedOut
  | wouldBlock
  | invalidInput
  | invalidData
  | permissionDenied
  | unsupported
  | other
  deriving DecidableEq, Repr

inductive VpnProductConnectFailure where
  | versionMismatch
  | transportUnavailable
  | transportProtocol
  | cryptoValidation
  | peerClosed
  | reset
  | timedOut
  | locallyClosed
  | cidsExhausted
  deriving DecidableEq, Repr

inductive VpnProductPathOpenError where
  | multipathNotNegotiated
  | serverSideNotAllowed
  | maxPathIdReached
  | remoteCidsExhausted
  | validationFailed
  | invalidRemoteAddress
  deriving DecidableEq, Repr

/-- Why a connection was not started. Only the error of the session is looked at. -/
inductive VpnProductConnectionStartError where
  | runtimeAlreadyActive
  | serverSession
  | clientSession (error : VpnSessionError)
  | assignedAddressMismatch
  | clientDataPath
  | datagramConfig
  | datagramRuntime
  | packetBridgeConfig
  | packetBridgeRuntime
  deriving DecidableEq, Repr

inductive VpnProductEndpointError where
  | limits
  | serverBind
  | clientBind (kind : IoErrorKind)
  | localAddress
  | dnsLookup (kind : IoErrorKind)
  | dnsTimeout
  | noCompatibleServerAddress
  | connectStart
  | connectFailed (error : VpnProductConnectFailure)
  | connectTimeout
  | handshakeConfirmationFailed
  | handshakeConfirmationTimeout
  | multipathNotNegotiated
  | pathOpen (error : VpnProductPathOpenError)
  | pathOpenTimeout
  | bootstrapPathMissing
  | bootstrapPathClose
  | productConnection (error : VpnProductConnectionStartError)
  | workerFailed
  deriving DecidableEq, Repr

inductive VpnClientProductPathRebindError where
  | connectionUnavailable
  | socketBind (kind : IoErrorKind)
  | socketConfigure (kind : IoErrorKind)
  | socketRebind (kind : IoErrorKind)
  | localAddress (kind : IoErrorKind)
  | implicitPathMissing
  | implicitPathPing
  | pathOpen (slot : Nat) (error : VpnProductPathOpenError)
  | pathOpenTimeout (slot : Nat)
  | pathInspect
  | explicitSourceMismatch
  | pathClose
  | pathEventLagged
  | pathEventClosed
  | pathAbandonTimeout
  deriving DecidableEq, Repr

/-! ## The transport -/

abbrev PathId := Nat

/-- Which paths are open, and for every path that has been opened the local address it was opened
with. The first path has the address that the socket was bound to. -/
structure Transport where
  opened : Table PathId IpAddr
  openPaths : Finset PathId
  openPaths_opened : ∀ path ∈ openPaths, path ∈ opened

inductive ClosePathError where
  | multipathNotNegotiated
  | lastOpenPath
  | closedPath
  deriving DecidableEq, Repr

/-- An item of the path events of a connection, before the deadline. -/
inductive PathEventItem where
  | abandoned (path : PathId)
  | other
  | lagged
  | closed
  deriving DecidableEq, Repr

namespace Transport

/-- Before there is a connection. -/
def empty : Transport := ⟨∅, ∅, by simp⟩

/-- A path is opened. -/
def openPath (transport : Transport) (path : PathId) (localIp : IpAddr) : Transport where
  opened := transport.opened.insert path localIp
  openPaths := insert path transport.openPaths
  openPaths_opened := by
    intro other isOpen
    rcases Finset.mem_insert.mp isOpen with rfl | before
    · exact (AList.mem_insert _).mpr (.inl rfl)
    · exact (AList.mem_insert _).mpr (.inr (transport.openPaths_opened other before))

/-- A path is gone. -/
def shut (transport : Transport) (path : PathId) : Transport where
  opened := transport.opened
  openPaths := transport.openPaths.erase path
  openPaths_opened := fun other isOpen =>
    transport.openPaths_opened other (Finset.mem_of_mem_erase isOpen)

/-- `Path::close`. -/
def close (transport : Transport) (path : PathId) : Except ClosePathError Unit × Transport :=
  if path ∉ transport.openPaths then (.error .closedPath, transport)
  else if transport.openPaths.card = 1 then (.error .lastOpenPath, transport)
  else (.ok (), transport.shut path)

end Transport

/-- What a client asks its endpoint and its connection. `discardPath` is a close whose result is
not looked at. -/
inductive TransportOp where
  | bindEndpoint (bindIp : IpAddr)
  | connect (bindIp : IpAddr) (server : IpAddr × UInt16)
  | closeEndpoint
  | rebindSocket (bindIp : IpAddr) (preservingPaths : Bool)
  | openPath (server : IpAddr × UInt16) (localIp : IpAddr)
  | path (path : PathId)
  | ping (path : PathId)
  | networkPath (path : PathId)
  | closePath (path : PathId)
  | discardPath (path : PathId)
  | pathEvents (awaited : PathId)

/-- How a path is not opened. After a timeout the transport goes on with it, which is not part of
what the client sees. -/
inductive OpenPathFailure where
  | failed (error : VpnProductPathOpenError)
  | timedOut (left : PathId)
  deriving DecidableEq, Repr

/-- The answers. A connection comes with whether multipath was negotiated and with its identity,
a path with whether the connection knows it, a network path with its local address. -/
def TransportOp.Answer : TransportOp → Type
  | .bindEndpoint _ => Except VpnProductEndpointError (IpAddr × UInt16)
  | .connect _ _ => Except VpnProductEndpointError Bool
  | .closeEndpoint => Unit
  | .rebindSocket _ _ => Except VpnClientProductPathRebindError (IpAddr × UInt16)
  | .openPath _ _ => Except OpenPathFailure PathId
  | .path _ => Bool
  | .ping _ => Bool
  | .networkPath _ => Option (Option IpAddr)
  | .closePath _ => Except ClosePathError Unit
  | .discardPath _ => Unit
  | .pathEvents _ => List PathEventItem

abbrev PathDialogue := Dialogue TransportOp TransportOp.Answer

namespace Transport

/-- What an answer says about the transport, and what it leaves behind. -/
def Does (transport : Transport) : (op : TransportOp) → op.Answer → Transport → Prop
  | .connect bindIp _, .ok _, after =>
    0 ∉ transport.opened ∧ after = transport.openPath 0 bindIp
  | .closeEndpoint, _, after =>
    after.opened = transport.opened ∧ after.openPaths = ∅
  | .openPath _ localIp, .ok path, after =>
    path ∉ transport.opened ∧ after = transport.openPath path localIp
  | .openPath _ localIp, .error (.timedOut path), after =>
    path ∉ transport.opened ∧ after = transport.openPath path localIp
  | .path path, found, after =>
    (found = false → path ∉ transport.openPaths) ∧ after = transport
  | .closePath path, result, after => transport.close path = (result, after)
  | .discardPath path, _, after => after = (transport.close path).2
  | _, _, after => after = transport

/-- A path closes by itself. -/
def VanishesTo (before after : Transport) : Prop :=
  ∃ path ∈ before.openPaths, after = before.shut path

end Transport

/-! ## Opening paths -/

structure VpnClientConfiguredPath where
  localIp : IpAddr
  pathId : PathId
  deriving DecidableEq

/-- The part of `VpnClientProductEndpointRuntime` that has to do with paths; a connection is known
by its stable id and the generation of its session. -/
structure VpnClientProductEndpointRuntime where
  connection : Option (Nat × UInt64)
  localAddr : IpAddr × UInt16
  bindIp : IpAddr
  serverAddr : IpAddr × UInt16
  configuredPaths : List VpnClientConfiguredPath
  implicitPath : Option PathId
  socketGeneration : UInt64
  establishedPathCount : Nat

/-- One attempt of `open_configured_path`. There may be no room for the path yet. -/
def tryOpenPath (server : IpAddr × UInt16) (localIp : IpAddr)
    (noRoom : VpnProductPathOpenError → PathDialogue (Except VpnProductEndpointError PathId)) :
    PathDialogue (Except VpnProductEndpointError PathId) :=
  .ask (.openPath server localIp) fun
    | .ok path => return .ok path
    | .error (.timedOut _) => return .error .pathOpenTimeout
    | .error (.failed error) =>
      if error = .remoteCidsExhausted ∨ error = .maxPathIdReached then noRoom error
      else return .error (.pathOpen error)

/-- `open_configured_path`, when the deadline leaves time for `retries` retries. -/
def openConfiguredPath (server : IpAddr × UInt16) (localIp : IpAddr) :
    (retries : Nat) → PathDialogue (Except VpnProductEndpointError PathId)
  | 0 => tryOpenPath server localIp fun error => return .error (.pathOpen error)
  | retries + 1 => tryOpenPath server localIp fun _ => openConfiguredPath server localIp retries

/-- The paths of a new connection are opened one after another. They share a deadline, so each
has its own number of retries. -/
def openConfiguredPaths (server : IpAddr × UInt16) (retries : Nat → Nat) :
    (slot : Nat) → List IpAddr →
      PathDialogue (Except VpnProductEndpointError (List VpnClientConfiguredPath))
  | _, [] => return .ok []
  | slot, localIp :: rest => do
    match ← openConfiguredPath server localIp (retries slot) with
    | .error error => return .error error
    | .ok path =>
      match ← openConfiguredPaths server retries (slot + 1) rest with
      | .error error => return .error error
      | .ok paths => return .ok (⟨localIp, path⟩ :: paths)

def unspecifiedFor : IpAddr → IpAddr
  | .v4 _ => .v4 .unspecified
  | .v6 _ => .v6 .unspecified

/-- The first path is replaced by explicit ones if the primary address is not the only one. -/
def VpnClientProductConfig.replaceBootstrapPath (config : VpnClientProductConfig) : Bool :=
  config.primaryLocalIp.isSome && !config.additionalLocalIps.isEmpty

def VpnClientProductConfig.explicitLocalIps (config : VpnClientProductConfig) : List IpAddr :=
  config.primaryLocalIp.toList ++ config.additionalLocalIps

def VpnClientProductConfig.bindIp (config : VpnClientProductConfig) (server : IpAddr × UInt16) :
    IpAddr :=
  if config.replaceBootstrapPath then unspecifiedFor server.1
  else config.primaryLocalIp.getD (unspecifiedFor server.1)

/-- The slot of the first path, if it keeps it. -/
def VpnClientProductConfig.bootstrapSlots (config : VpnClientProductConfig) :
    List VpnClientConfiguredPath :=
  match config.primaryLocalIp with
  | some primary => if config.replaceBootstrapPath then [] else [⟨primary, 0⟩]
  | none => []

def VpnClientProductConfig.pathsToOpen (config : VpnClientProductConfig) : List IpAddr :=
  if config.replaceBootstrapPath then config.explicitLocalIps else config.additionalLocalIps

/-- The first path is closed once the explicit ones are there. -/
def closeBootstrapPath (config : VpnClientProductConfig) :
    PathDialogue (Except VpnProductEndpointError Unit) :=
  if config.replaceBootstrapPath then
    .ask (.path 0) fun
      | false => return .error .bootstrapPathMissing
      | true => .ask (.closePath 0) fun
          | .ok () => return .ok ()
          | .error _ => return .error .bootstrapPathClose
  else return .ok ()

/-- The paths of a connection that has just been made. -/
def establishPaths (config : VpnClientProductConfig) (server : IpAddr × UInt16)
    (retries : Nat → Nat) :
    PathDialogue (Except VpnProductEndpointError (List VpnClientConfiguredPath)) := do
  match ← openConfiguredPaths server retries 0 config.pathsToOpen with
  | .error error => return .error error
  | .ok paths =>
    match ← closeBootstrapPath config with
    | .error error => return .error error
    | .ok () => return .ok (config.bootstrapSlots ++ paths)

/-- `connect_vpn_client_address`, and the runtime that is made of its result for a session of
generation `session` on the connection `stableId`. -/
def connectVpnClientAddress (config : VpnClientProductConfig) (server : IpAddr × UInt16)
    (retries : Nat → Nat) (stableId : Nat) (session : UInt64) :
    PathDialogue (Except VpnProductEndpointError VpnClientProductEndpointRuntime) :=
  .ask (.bindEndpoint (config.bindIp server)) fun
    | .error error => return .error error
    | .ok localAddr => .ask (.connect (config.bindIp server) server) fun
        | .error error => .ask .closeEndpoint fun () => return .error error
        | .ok false => .ask .closeEndpoint fun () => return .error .multipathNotNegotiated
        | .ok true => do
          match ← establishPaths config server retries with
          | .error error => .ask .closeEndpoint fun () => return .error error
          | .ok configuredPaths =>
            let implicitPath := if config.primaryLocalIp.isNone then some 0 else none
            return .ok {
              connection := some (stableId, session)
              localAddr
              bindIp := config.bindIp server
              serverAddr := server
              configuredPaths
              implicitPath
              socketGeneration := 0
              establishedPathCount := configuredPaths.length + implicitPath.isSome.toNat }

/-! ## Replacing paths -/

structure VpnClientProductPathReplacement where
  slot : Nat
  oldPathId : PathId
  newPathId : PathId
  oldPathAbandoned : Bool
  explicitSourceVerified : Bool
  deriving DecidableEq

structure VpnClientProductPathRebindReport where
  connectionStableId : Nat
  sessionGeneration : UInt64
  socketGeneration : UInt64
  implicitPathPinged : Bool
  replacements : List VpnClientProductPathReplacement
  deriving DecidableEq

/-- `map_path_rebind_open_error`; opening a path has no other errors. -/
def mapPathRebindOpenError (slot : Nat) : VpnProductEndpointError → VpnClientProductPathRebindError
  | .pathOpen error => .pathOpen slot error
  | _ => .pathOpenTimeout slot

/-- `wait_for_path_abandoned`, with the events that come before the deadline. -/
def waitForPathAbandoned (expected : PathId) :
    List PathEventItem → Except VpnClientProductPathRebindError Unit
  | [] => .error .pathAbandonTimeout
  | .abandoned path :: rest =>
    if path = expected then .ok () else waitForPathAbandoned expected rest
  | .other :: rest => waitForPathAbandoned expected rest
  | .lagged :: _ => .error .pathEventLagged
  | .closed :: _ => .error .pathEventClosed

/-- The old path of a slot goes. A path that is not there any more needs no close. -/
def closeOldPath (old : PathId) : PathDialogue (Except VpnClientProductPathRebindError Unit) :=
  .ask (.path old) fun
    | false => return .ok ()
    | true => .ask (.closePath old) fun
        | .ok () => .ask (.pathEvents old) fun events => return waitForPathAbandoned old events
        | .error .closedPath => return .ok ()
        | .error _ => return .error .pathClose

/-- `new_path.close()` before an error is returned. -/
def giveUpPath (new : PathId) (error : VpnClientProductPathRebindError) :
    PathDialogue (Except VpnClientProductPathRebindError VpnClientProductPathReplacement) :=
  .ask (.discardPath new) fun () => return .error error

/-- One round of `rebind_network_paths`, for one slot. -/
def rebindSlot (server : IpAddr × UInt16) (retries slot : Nat)
    (configured : VpnClientConfiguredPath) :
    PathDialogue (Except VpnClientProductPathRebindError VpnClientProductPathReplacement) := do
  match ← openConfiguredPath server configured.localIp retries with
  | .error error => return .error (mapPathRebindOpenError slot error)
  | .ok new => .ask (.networkPath new) fun
      | none => giveUpPath new .pathInspect
      | some localIp =>
        if localIp ≠ some configured.localIp then giveUpPath new .explicitSourceMismatch
        else do
          match ← closeOldPath configured.pathId with
          | .error error => giveUpPath new error
          | .ok () => return .ok ⟨slot, configured.pathId, new, true, true⟩

/-- The rounds from `slot` on: the slots after them, and the replacements or the first error. A
slot keeps its path until its round has succeeded. -/
def rebindSlots (server : IpAddr × UInt16) (retries : Nat → Nat) :
    (slot : Nat) → List VpnClientConfiguredPath →
      PathDialogue (List VpnClientConfiguredPath ×
        Except VpnClientProductPathRebindError (List VpnClientProductPathReplacement))
  | _, [] => return ([], .ok [])
  | slot, configured :: rest => do
    match ← rebindSlot server (retries slot) slot configured with
    | .error error => return (configured :: rest, .error error)
    | .ok replacement =>
      let (others, result) ← rebindSlots server retries (slot + 1) rest
      return ({ configured with pathId := replacement.newPathId } :: others,
        result.map (replacement :: ·))

/-- The pings of `rebind_network_paths` to the configured paths, which may fail. -/
def pingPaths : List VpnClientConfiguredPath → PathDialogue Unit
  | [] => return ()
  | configured :: rest => .ask (.path configured.pathId) fun
      | false => pingPaths rest
      | true => .ask (.ping configured.pathId) fun _ => pingPaths rest

/-- Whether the implicit path was pinged. -/
def pingImplicitPath : Option PathId → PathDialogue (Except VpnClientProductPathRebindError Bool)
  | none => return .ok false
  | some path => .ask (.path path) fun
      | false => return .error .implicitPathMissing
      | true => .ask (.ping path) fun
          | false => return .error .implicitPathPing
          | true => return .ok true

/-- A question that leaves the paths alone. -/
def TransportOp.Pings : TransportOp → Prop
  | .path _ | .ping _ => True
  | _ => False

theorem TransportOp.Pings.same {op : TransportOp} (pings : op.Pings) {transport after : Transport}
    {answer : op.Answer} (does : transport.Does op answer after) : after = transport := by
  cases op with
  | path => exact does.2
  | ping => exact does
  | _ => exact pings.elim

theorem pingPaths_asks (slots : List VpnClientConfiguredPath) :
    (pingPaths slots).Asks TransportOp.Pings := by
  induction slots with
  | nil => exact trivial
  | cons configured rest ih =>
    exact ⟨trivial, fun
      | false => ih
      | true => ⟨trivial, fun _ => ih⟩⟩

theorem pingImplicitPath_asks (path : Option PathId) :
    (pingImplicitPath path).Asks TransportOp.Pings := by
  cases path with
  | none => exact trivial
  | some path =>
    exact ⟨trivial, fun
      | false => trivial
      | true => ⟨trivial, fun answer => by cases answer <;> trivial⟩⟩

/-- The replacement of all paths, after the socket has been bound again. -/
def replacePaths (runtime : VpnClientProductEndpointRuntime) (retries : Nat → Nat)
    (connection : Nat × UInt64) :
    PathDialogue (VpnClientProductEndpointRuntime ×
      Except VpnClientProductPathRebindError VpnClientProductPathRebindReport) := do
  match ← pingImplicitPath runtime.implicitPath with
  | .error error => return (runtime, .error error)
  | .ok implicitPathPinged => do
    pingPaths runtime.configuredPaths
    let (configuredPaths, result) ←
      rebindSlots runtime.serverAddr retries 0 runtime.configuredPaths
    let after := { runtime with configuredPaths }
    match result with
    | .error error => return (after, .error error)
    | .ok replacements =>
      if after.connection ≠ some connection then
        return (after, .error .connectionUnavailable)
      else
        return (after, .ok ⟨connection.1, connection.2, runtime.socketGeneration,
          implicitPathPinged, replacements⟩)

/-- `VpnClientProductEndpointRuntime::rebind_network_paths`. -/
def VpnClientProductEndpointRuntime.rebindNetworkPaths
    (runtime : VpnClientProductEndpointRuntime) (retries : Nat → Nat) :
    PathDialogue (VpnClientProductEndpointRuntime ×
      Except VpnClientProductPathRebindError VpnClientProductPathRebindReport) :=
  match runtime.connection with
  | none => return (runtime, .error .connectionUnavailable)
  | some connection =>
    .ask (.rebindSocket runtime.bindIp (!runtime.configuredPaths.isEmpty)) fun
      | .error error => return (runtime, .error error)
      | .ok localAddr =>
        replacePaths { runtime with
          localAddr
          socketGeneration :=
            UInt64.ofNat (saturatingAdd u64Max runtime.socketGeneration.toNat 1) }
          retries connection

end FlowWeave.Vpn
