import StmmInputBt.Client.CircularBuffer
import StmmInputBt.Foundation.Int32
import StmmInputBt.KeyPacket

/-!
# The client

The class `BtKeyClient` (`stmm-input-btkb/src/btkeyclient.cc`) with the sources of the main loop
that it creates (`btclientsources.cc`): connecting, buffering and sending keys, and the interval
timer. The asserts are no-ops.

Every operation takes the results of the system calls that it makes. The pending sources created
so far stay in `sources`, each at the index that is its unique id. Signal handlers do not call
back into the client.

`serial`, `nextSerial`, `fault` and `trace` are not in the program. The serial numbers tell the
entries of `m_aBufferedKeys` apart, `fault` says that the program has died and `trace` records
what happened, the latest event first. No operation decides anything by them, except that a
program that has died does nothing more.

## Main definitions

* `BtKeyClient`: the members of the class.
* `BtKeyClient.connectToServer`, `BtKeyClient.disconnectFromServer`,
  `BtKeyClient.sendKeyToServer`, `BtKeyClient.sendRemoveToServer`,
  `BtKeyClient.doIntervalTimeout`, `BtKeyClient.doPendingConnect`, `BtKeyClient.doPendingSend`.
* `BtKeyClient.sendPacketsFromBufferedKeys`, as `stagePackets` followed by `offerPackets`.
* `ClientOp`, `BtKeyClient.step`: what happens to the client.
-/

namespace StmmInputBt

/-! ### Keys and packets -/

/-- `hk::KEY_INPUT_TYPE`. -/
inductive Hk.KeyInputType
  | removeDevice
  | noop
  | press
  | release
  | releaseCancel
  deriving DecidableEq, Inhabited

/-- `static_cast<char>` of the enumerator. -/
def Hk.KeyInputType.toChar : Hk.KeyInputType → Byte
  | .removeDevice => -77
  | .noop => -33
  | .press => keyPress
  | .release => keyRelease
  | .releaseCancel => keyReleaseCancel

/-- An entry of `m_aBufferedKeys`. -/
structure BufferedKey where
  keyType : Hk.KeyInputType
  key : HardwareKey
  serial : ℕ
  deriving DecidableEq, Inhabited

/-- An element of `m_aPackets`, with the serial number of the entry it was made from. -/
structure StagedPacket where
  packet : KeyPacket
  serial : ℕ
  deriving DecidableEq

/-- Write an entry over a packet. The key fields of a command keep what they held. -/
def encodePacket (oEntry : BufferedKey) (oKeyPacket : StagedPacket) : StagedPacket where
  serial := oEntry.serial
  packet :=
    match oEntry.keyType with
    | .removeDevice => { oKeyPacket.packet with magic1, magic2, cmd := packetCmdRemoveDevice }
    | .noop => { oKeyPacket.packet with magic1, magic2, cmd := packetCmdNoop }
    | eType => ⟨magic1, magic2, packetCmdKey, eType.toChar, oEntry.key⟩

/-! ### System calls, sources and events -/

/-- What `::send` returns; an error other than `EAGAIN` comes with its text. -/
inductive SendResult
  | accepted
  | again
  | failed (sError : String)
  deriving DecidableEq

/-- What `::connect` returns; an error other than `EINPROGRESS` comes with its text. -/
inductive ConnectResult
  | connected
  | inProgress
  | failed (sError : String)
  deriving DecidableEq

/-- How the system calls of `connectToServer` go, with the descriptor that `::socket` returns. -/
inductive SocketCalls
  | socketFailed (sError : String)
  | getFlagsFailed (nFD : ℕ) (sError : String)
  | setFlagsFailed (nFD : ℕ) (sError : String)
  | opened (nFD : ℕ) (result : ConnectResult)
  deriving DecidableEq

/-- The events that poll reports on the socket of a pending source. -/
structure WriteCondition where
  ioOut : Bool
  ioHup : Bool
  ioErr : Bool
  ioNval : Bool

/-- The callback of a `PendingWriteSource`. -/
inductive PendingSlot
  | doPendingConnect
  | doPendingSend
  deriving DecidableEq

/-- A `PendingWriteSource` and what the main loop knows about it. -/
structure PendingWriteSource where
  clientFD : ℤ
  slot : Option PendingSlot
  /-- The callback has not returned false yet. -/
  attached : Bool
  destroyed : Bool
  deriving DecidableEq

inductive ClientState
  | disconnected
  | connecting
  | connected
  | sending
  | removing
  deriving DecidableEq

/-- What ends a run of the client. -/
inductive ClientFault
  /-- A write past the end of `m_aPackets`. -/
  | packetsOverrun
  /-- A call on a null `m_refIntervalTimeout`. -/
  | nullTimer
  deriving DecidableEq

inductive ClientEvent
  /-- `::socket` returned a descriptor. -/
  | opened (nFD : ℤ)
  /-- `::close` was called. -/
  | closed (nFD : ℤ)
  /-- A connection was established, with some entries in `m_aBufferedKeys`. -/
  | established (nBuffered : ℕ)
  /-- `sendKeyToServer` was called. -/
  | passed (oKey : BufferedKey)
  /-- `m_aBufferedKeys.write` was called, on a full buffer or not. -/
  | put (oKey : BufferedKey) (bFull : Bool)
  /-- `::send` was called. -/
  | sent (nFD : ℤ) (aPackets : List StagedPacket) (result : SendResult)
  /-- `m_oStateChangedSignal`, with the state at that moment. -/
  | stateChanged (eState : ClientState)
  /-- `m_oErrorSignal`, with the last error at that moment. -/
  | error (sError : String)
  deriving DecidableEq

/-- `s_nSendBufferSize`. -/
def sendBufferSize : ℕ := 20

/-- The members of `BtKeyClient`, the sources it has created, and the history. -/
structure BtKeyClient where
  timeoutConnect : ℤ
  timeoutSend : ℤ
  interval : ℤ
  noopAfter : ℤ
  state : ClientState
  lastError : String
  clientFD : ℤ
  btAddr : BitVec 48
  l2capPort : ℤ
  startedConnectingTime : ℤ
  startedSendingTime : ℤ
  lastSentTime : ℤ
  bufferedKeys : CircularBuffer BufferedKey
  packets : Vector StagedPacket sendBufferSize
  /-- Number of packets in `packets`. -/
  totPackets : ℕ
  refPendingConnect : Option ℕ
  refPendingSend : Option ℕ
  /-- The elapsed time of the interval timer, once there is one. -/
  refIntervalTimeout : Option ℤ
  sources : List PendingWriteSource
  nextSerial : ℕ
  fault : Option ClientFault
  trace : List ClientEvent

namespace BtKeyClient

/-- The constructor. The address and the packets are not initialised. -/
def new (nTimeoutConnect nTimeoutSend nInterval nNoopAfter : ℤ) (btAddr : BitVec 48)
    (packets : Vector StagedPacket sendBufferSize) : BtKeyClient where
  timeoutConnect := nTimeoutConnect
  timeoutSend := nTimeoutSend
  interval := nInterval
  noopAfter := nNoopAfter
  state := .disconnected
  lastError := ""
  clientFD := -1
  btAddr
  l2capPort := -1
  startedConnectingTime := 0
  startedSendingTime := 0
  lastSentTime := -1
  bufferedKeys := .new sendBufferSize
  packets
  totPackets := 0
  refPendingConnect := none
  refPendingSend := none
  refIntervalTimeout := none
  sources := []
  nextSerial := 0
  fault := none
  trace := []

def emit (e : ClientEvent) (s : BtKeyClient) : BtKeyClient := { s with trace := e :: s.trace }

/-- `m_oStateChangedSignal()`. -/
def signalStateChanged (s : BtKeyClient) : BtKeyClient := s.emit (.stateChanged s.state)

/-- `m_oErrorSignal()`. -/
def signalError (s : BtKeyClient) : BtKeyClient := s.emit (.error s.lastError)

/-- The packets that `::send` is given. -/
def batch (s : BtKeyClient) : List StagedPacket := s.packets.toList.take s.totPackets

/-! ### Connecting and disconnecting -/

/-- A new `PendingWriteSource` on the socket, connected to `slot` and attached; its id is the
former number of sources. -/
def attachPendingWriteSource (slot : PendingSlot) (s : BtKeyClient) : BtKeyClient :=
  { s with
    sources := s.sources ++
      [⟨s.clientFD, if s.clientFD < 0 then none else some slot, true, false⟩] }

/-- `connectToServer` from the call of `::connect` on. -/
def connectSocket (s : BtKeyClient) : ConnectResult → BtKeyClient
  | .inProgress =>
    let nElapsed := s.refIntervalTimeout.getD 0
    { s.attachPendingWriteSource .doPendingConnect with
      refPendingConnect := some s.sources.length
      refIntervalTimeout := some nElapsed
      startedConnectingTime := nElapsed
      state := .connecting }.signalStateChanged
  | .failed sError =>
    { s.emit (.closed s.clientFD) with
      clientFD := -1
      lastError := "Failed to connect: " ++ sError }.signalError
  | .connected =>
    { s.emit (.established s.bufferedKeys.size) with
      lastError := ""
      state := .connected }.signalStateChanged

/-- A descriptor that `fcntl` refuses is closed at once. -/
def closeRefused (nFD : ℕ) (sError : String) (s : BtKeyClient) : BtKeyClient :=
  { (s.emit (.opened nFD)).emit (.closed nFD) with
    clientFD := -1
    lastError := sError }.signalError

def connectToServer (oBtAddr : BitVec 48) (nL2capPort : ℤ) (calls : SocketCalls)
    (s : BtKeyClient) : BtKeyClient :=
  if s.state = .removing then s
  else if 0 ≤ s.clientFD then s
  else match calls with
    | .socketFailed sError =>
      { s with clientFD := -1, lastError := "Socket failed: " ++ sError }.signalError
    | .getFlagsFailed nFD sError => s.closeRefused nFD ("Socket fcntl get failed: " ++ sError)
    | .setFlagsFailed nFD sError => s.closeRefused nFD ("Socket fcntl set failed: " ++ sError)
    | .opened nFD result =>
      { s.emit (.opened nFD) with
        clientFD := nFD
        btAddr := oBtAddr
        l2capPort := nL2capPort }.connectSocket result

def disconnectInternal (sErrorString : String) (s : BtKeyClient) : BtKeyClient :=
  if s.clientFD < 0 then s
  else
    let s := { s.emit (.closed s.clientFD) with
      clientFD := -1
      refPendingConnect := none
      refPendingSend := none
      lastError := sErrorString
      state := .disconnected }
    (if sErrorString = "" then s else s.signalError).signalStateChanged

def disconnectFromServer (s : BtKeyClient) : BtKeyClient :=
  if s.state = .removing then s else s.disconnectInternal ""

/-- The callback of the source of a pending connection. The returned flag says whether the source
stays attached. -/
def doPendingConnect (nSourceId : ℕ) (bError : Bool) (s : BtKeyClient) : Bool × BtKeyClient :=
  match s.refPendingConnect with
  | none => (false, s)
  | some nId =>
    if nSourceId ≠ nId then (false, s)
    else if bError then (false, s.disconnectInternal "Failed to connect")
    else
      (false, { s.emit (.established s.bufferedKeys.size) with
        sources := s.sources.modify nId fun src => { src with clientFD := -1 }
        refPendingConnect := none
        lastError := ""
        state := .connected }.signalStateChanged)

/-! ### Sending -/

/-- Move `n` entries from the ring buffer to `m_aPackets`, which is the loop of
`sendPacketsFromBufferedKeys` for a buffer of that size. The state says what sending them leads
to. -/
def stagePackets : ℕ → ClientState → BtKeyClient → ClientState × BtKeyClient
  | 0, eNewState, s => (eNewState, s)
  | n + 1, eNewState, s =>
    let (oPair, bufferedKeys) := s.bufferedKeys.read
    if h : s.totPackets < sendBufferSize then
      stagePackets n (if oPair.keyType = .removeDevice then .removing else eNewState)
        { s with
          bufferedKeys
          packets := s.packets.set s.totPackets (encodePacket oPair s.packets[s.totPackets])
          totPackets := s.totPackets + 1 }
    else (eNewState, { s with bufferedKeys, fault := some .packetsOverrun })

/-- `if (!m_refPendingSend)`, create one. -/
def ensurePendingSend (s : BtKeyClient) : BtKeyClient :=
  if s.refPendingSend.isSome then s
  else { s.attachPendingWriteSource .doPendingSend with refPendingSend := some s.sources.length }

/-- Enter a state and signal it if it differs from the old one. -/
def changeState (eOldState eNewState : ClientState) (s : BtKeyClient) : BtKeyClient :=
  if eOldState ≠ eNewState then { s with state := eNewState }.signalStateChanged
  else { s with state := eNewState }

/-- `sendPacketsFromBufferedKeys` from the call of `::send` on. -/
def offerPackets (eOldState eNewState : ClientState) (res : SendResult) (s : BtKeyClient) :
    BtKeyClient :=
  let s := s.emit (.sent s.clientFD s.batch res)
  match res with
  | .again =>
    let s := s.ensurePendingSend
    match s.refIntervalTimeout with
    | none => { s with fault := some .nullTimer }
    | some nElapsed => { s with startedSendingTime := nElapsed }.changeState eOldState eNewState
  | .failed sError => s.disconnectInternal ("Failed to send: " ++ sError)
  | .accepted =>
    match s.refIntervalTimeout with
    | none => { s with fault := some .nullTimer }
    | some nElapsed =>
      let s := { s with lastSentTime := nElapsed, lastError := "" }
      if eNewState ≠ .sending then s.disconnectInternal ""
      else s.changeState eOldState .connected

def sendPacketsFromBufferedKeys (res : SendResult) (s : BtKeyClient) : BtKeyClient :=
  let (eNewState, staged) := stagePackets s.bufferedKeys.size .sending { s with totPackets := 0 }
  if staged.fault.isSome then staged else staged.offerPackets s.state eNewState res

/-- `m_aBufferedKeys.write`. -/
def putBufferedKey (oKey : BufferedKey) (s : BtKeyClient) : BtKeyClient :=
  { s.emit (.put oKey s.bufferedKeys.isFull) with bufferedKeys := s.bufferedKeys.write oKey }

/-- `m_aBufferedKeys.write` of a command. -/
def putCommand (eType : Hk.KeyInputType) (s : BtKeyClient) : BtKeyClient :=
  { s.putBufferedKey ⟨eType, hkNull, s.nextSerial⟩ with nextSerial := s.nextSerial + 1 }

/-- `if (m_aBufferedKeys.isFull()) m_aBufferedKeys.read()`. -/
def makePlace (s : BtKeyClient) : BtKeyClient :=
  if s.bufferedKeys.isFull then { s with bufferedKeys := s.bufferedKeys.read.2 } else s

def sendKeyToServer (eType : Hk.KeyInputType) (eKey : HardwareKey) (res : SendResult)
    (s : BtKeyClient) : BtKeyClient :=
  let oKey : BufferedKey := ⟨eType, eKey, s.nextSerial⟩
  let s := { s.emit (.passed oKey) with nextSerial := s.nextSerial + 1 }
  match s.state with
  | .sending => s.makePlace.putBufferedKey oKey
  | .connected => (s.makePlace.putBufferedKey oKey).sendPacketsFromBufferedKeys res
  | .disconnected | .connecting | .removing => s

def sendRemoveToServer (res : SendResult) (s : BtKeyClient) : BtKeyClient :=
  if s.state = .connecting ∨ s.state = .disconnected then s
  else
    let s := if s.state = .sending then { s with bufferedKeys := s.bufferedKeys.clear } else s
    (s.putCommand .removeDevice).sendPacketsFromBufferedKeys res

/-- `doPendingSend` from the call of `::send` on; `res'` is what the `::send` for the keys that
accumulated in the meantime returns. -/
def offerPending (res res' : SendResult) (s : BtKeyClient) : Bool × BtKeyClient :=
  let s := s.emit (.sent s.clientFD s.batch res)
  match res with
  | .again =>
    (false, s.disconnectInternal "Sending packet failed: Resource temporarily unavailable")
  | .failed sError => (false, s.disconnectInternal ("Sending packet failed: " ++ sError))
  | .accepted =>
    match s.refIntervalTimeout with
    | none => (false, { s with fault := some .nullTimer })
    | some nElapsed =>
      let s := { s with lastSentTime := nElapsed }
      if s.bufferedKeys.isEmpty then (true, { s with state := .connected }.signalStateChanged)
      else (true, s.sendPacketsFromBufferedKeys res')

/-- The callback of the source of a pending send. -/
def doPendingSend (nSourceId : ℕ) (bError : Bool) (res res' : SendResult) (s : BtKeyClient) :
    Bool × BtKeyClient :=
  match s.refPendingSend with
  | none => (false, s)
  | some nId =>
    if nSourceId ≠ nId then (false, s)
    else if bError then (false, s.disconnectInternal "Sending packet failed")
    else s.offerPending res res'

/-- `nElapsed - m_nLastSentTime > std::max(m_nNoopAfter, m_nTimeoutSend * 2)`, where the product is
an `int32_t`. -/
def noopIsDue (nElapsed : ℤ) (s : BtKeyClient) : Bool :=
  0 < s.noopAfter ∧ max s.noopAfter (int32OfInt (s.timeoutSend * 2)) < nElapsed - s.lastSentTime

def doIntervalTimeout (nElapsed : ℤ) (res : SendResult) (s : BtKeyClient) : BtKeyClient :=
  match s.state with
  | .connecting =>
    if s.timeoutConnect < nElapsed - s.startedConnectingTime then
      s.disconnectInternal "Connecting timed out"
    else s
  | .connected =>
    if s.noopIsDue nElapsed then (s.putCommand .noop).sendPacketsFromBufferedKeys res else s
  | .sending =>
    if s.timeoutSend < nElapsed - s.startedSendingTime then
      { s with
        lastError := "Sending timed out"
        state := .connected }.signalError.signalStateChanged
    else s
  | .disconnected | .removing => s

/-! ### The main loop -/

/-- The interval timer fires, if there is one. -/
def intervalCallback (res : SendResult) (s : BtKeyClient) : BtKeyClient :=
  match s.refIntervalTimeout with
  | none => s
  | some nTotMillisec =>
    let nElapsed := nTotMillisec + s.interval
    { s with refIntervalTimeout := some nElapsed }.doIntervalTimeout nElapsed res

/-- `PendingWriteSource::dispatch`. -/
def dispatchSlot (nSourceId : ℕ) (slot : Option PendingSlot) (nIOFlags : WriteCondition)
    (res res' : SendResult) (s : BtKeyClient) : Bool × BtKeyClient :=
  let bSomeError := nIOFlags.ioHup || nIOFlags.ioErr || nIOFlags.ioNval
  match slot with
  | none => (false, s)
  | some slot =>
    if !nIOFlags.ioOut && !bSomeError then (false, s)
    else match slot with
      | .doPendingConnect => s.doPendingConnect nSourceId bSomeError
      | .doPendingSend => s.doPendingSend nSourceId bSomeError res res'

/-- The main loop dispatches a source that is attached and detaches it if asked to. -/
def dispatch (nSourceId : ℕ) (nIOFlags : WriteCondition) (res res' : SendResult)
    (s : BtKeyClient) : BtKeyClient :=
  match s.sources[nSourceId]? with
  | none => s
  | some src =>
    if !src.attached then s
    else
      let (bContinue, s) := s.dispatchSlot nSourceId src.slot nIOFlags res res'
      if bContinue then s
      else
        { s with
          sources := s.sources.modify nSourceId fun src => { src with attached := false } }

/-- A source that is detached and that no `RefPtr` holds is destroyed. -/
def destroySource (nSourceId : ℕ) (s : BtKeyClient) : BtKeyClient :=
  match s.sources[nSourceId]? with
  | none => s
  | some src =>
    if src.attached || src.destroyed || s.refPendingConnect = some nSourceId ||
        s.refPendingSend = some nSourceId then s
    else
      let s := { s with
        sources := s.sources.modify nSourceId fun src => { src with destroyed := true } }
      if 0 ≤ src.clientFD then s.emit (.closed src.clientFD) else s

end BtKeyClient

/-- What can happen to the client. An operation that does not come to call `::send` ignores the
results. -/
inductive ClientOp
  | connectToServer (oBtAddr : BitVec 48) (nL2capPort : ℤ) (calls : SocketCalls)
  | disconnectFromServer
  | sendKeyToServer (eType : Hk.KeyInputType) (eKey : HardwareKey) (res : SendResult)
  | sendRemoveToServer (res : SendResult)
  | intervalTick (res : SendResult)
  | dispatch (nSourceId : ℕ) (nIOFlags : WriteCondition) (res res' : SendResult)
  | destroySource (nSourceId : ℕ)

namespace BtKeyClient

def perform (s : BtKeyClient) : ClientOp → BtKeyClient
  | .connectToServer oBtAddr nL2capPort calls => s.connectToServer oBtAddr nL2capPort calls
  | .disconnectFromServer => s.disconnectFromServer
  | .sendKeyToServer eType eKey res => s.sendKeyToServer eType eKey res
  | .sendRemoveToServer res => s.sendRemoveToServer res
  | .intervalTick res => s.intervalCallback res
  | .dispatch nSourceId nIOFlags res res' => s.dispatch nSourceId nIOFlags res res'
  | .destroySource nSourceId => s.destroySource nSourceId

/-- One thing happens to the client, unless it has died. -/
def step (s : BtKeyClient) (op : ClientOp) : Except ClientFault BtKeyClient :=
  match s.fault with
  | some f => .error f
  | none => .ok (s.perform op)

end BtKeyClient

end StmmInputBt
