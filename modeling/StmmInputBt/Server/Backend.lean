import StmmInputBt.KeyPacket
import StmmInputBt.BdAddr

/-!
# The bluetooth backend of the server

The class `GtkBackend` (`btgtkbackend.cc`) and the sources of the main loop that it creates
(`bluetoothsources.cc`): accepting a client, receiving a message on its socket, and what the
backend tells its owner. The owner, `BtGtkDeviceManager` in the program, is an interface here,
so that the same code also runs against an owner that only writes down what it is told
(`recorder`).

The receive sources created so far are numbered by `SourceId` and stay in `sources` with what
the main loop knows about them: whether the source is attached, its socket and the peer of the
socket. Diagnostics on `std::cerr` are left out.

## Main definitions

* `Owner`: what the backend calls on `m_p0Owner`.
* `GtkBackend`: `m_aPermanentAddrs`, `m_aInputSources`, the owner and the receive sources.
* `GtkBackend.doServerAcceptClient`, `GtkBackend.doServerReceive`.
* `GtkBackend.closeConnection`, `GtkBackend.processPackets`, `GtkBackend.dispatch`: the
  functions of `BlueServerReceiveSource`.
-/

namespace StmmInputBt

/-- What ends a run of the server: a failed `assert`, or a call on a null `shared_ptr` of
`m_aBtDevices`. -/
inductive Fault
  | assertion
  | nullDevice
  deriving DecidableEq

/-- `assert(b)`. -/
def assertThat (b : Bool) : Except Fault Unit := if b then .ok () else .error .assertion

@[simp] theorem assertThat_true : assertThat true = .ok () := rfl

abbrev SourceId := ℕ

/-- The functions of `BtGtkDeviceManager` that the backend calls. -/
structure Owner (σ : Type) where
  onDeviceAdded : (sName : BdAddr) → (nBackendId : ℕ) → σ → Except Fault σ
  onDeviceRemoved : (nBackendId : ℕ) → σ → Except Fault σ
  onBlueKey : (nBackendId : ℕ) → KeyInputType → HardwareKey → σ → Except Fault (Bool × σ)

/-- A `BlueServerReceiveSource` as the main loop sees it. -/
structure BlueServerReceiveSource where
  backendId : ℕ
  /-- `m_nClientFD`, `-1` once closed. -/
  clientFD : ℤ
  /-- The remote address of the socket. -/
  peer : RemoteAddr
  /-- Neither `destroy()` was called nor did the callback return false. -/
  attached : Bool

structure GtkBackend (σ : Type) where
  owner : σ
  permanentAddrs : List BdAddr
  inputSources : List (Option SourceId)
  sources : List BlueServerReceiveSource

/-- The events that poll reports on a socket. -/
structure IOCondition where
  ioIn : Bool
  ioHup : Bool
  ioErr : Bool
  ioNval : Bool

/-- What `::recv` returns. -/
inductive RecvResult
  | error
  | received (bytes : List Byte)

/-- `nToRead`, the packets that a dispatch has room for; `L2CAP_DEFAULT_MTU` is 672. -/
def nToRead : ℕ := 672 / 8 - 1

/-- What `::recv` returns for a whole message: its bytes as far as there is room. -/
def recvMessage (bytes : List Byte) : RecvResult := .received (bytes.take (nToRead * 8))

namespace GtkBackend

variable {σ : Type} (O : Owner σ)

/-- `Glib::Source::destroy()` together with the closing of the socket. -/
def destroySource (sid : SourceId) (b : GtkBackend σ) : GtkBackend σ :=
  { b with sources := b.sources.modify sid fun s => { s with attached := false, clientFD := -1 } }

/-- `getBackendId`, `none` for `-1`. -/
def getBackendId (aAddrs : List BdAddr) (oBdAddr : BdAddr) : Option ℕ :=
  aAddrs.findIdx? (· = oBdAddr)

/-- The last part of `doServerAcceptClient`: a new source for the connection, attached. -/
def attachNewSource (nBackendId : ℕ) (nClientFD : ℕ) (oClientBdAddr : RemoteAddr)
    (b : GtkBackend σ) : GtkBackend σ :=
  { b with
    inputSources := b.inputSources.set nBackendId (some b.sources.length)
    sources := b.sources ++ [⟨nBackendId, nClientFD, oClientBdAddr, true⟩] }

def doServerAcceptClient (nClientFD : ℕ) (oClientBdAddr : RemoteAddr) (b : GtkBackend σ) :
    Except Fault (GtkBackend σ) :=
  match getBackendId b.permanentAddrs oClientBdAddr with
  | some nBackendId =>
    -- a known device: its old source, if any, is destroyed and dropped
    let b := match b.inputSources.getD nBackendId none with
      | some sid =>
        { b.destroySource sid with inputSources := b.inputSources.set nBackendId none }
      | none => b
    .ok (b.attachNewSource nBackendId nClientFD oClientBdAddr)
  | none =>
    match getBackendId b.permanentAddrs emptyBdAddr with
    | none => do
      let nBackendId := b.permanentAddrs.length
      let b := { b with
        permanentAddrs := b.permanentAddrs ++ [oClientBdAddr.1]
        inputSources := b.inputSources ++ [none] }
      let b := b.attachNewSource nBackendId nClientFD oClientBdAddr
      let owner ← O.onDeviceAdded oClientBdAddr nBackendId b.owner
      return { b with owner }
    | some nBackendId => do
      let b := { b with permanentAddrs := b.permanentAddrs.set nBackendId oClientBdAddr }
      assertThat (b.inputSources[nBackendId]? = some none)
      let b := b.attachNewSource nBackendId nClientFD oClientBdAddr
      let owner ← O.onDeviceAdded oClientBdAddr nBackendId b.owner
      return { b with owner }

def doServerReceive (nBackendId : ℕ) (bRemove : Bool) (oPkt : KeyPacket) (b : GtkBackend σ) :
    Except Fault (Bool × GtkBackend σ) := do
  assertThat (nBackendId < b.inputSources.length)
  if oPkt.cmd = packetCmdKey then
    let (bContinue, owner) ← O.onBlueKey nBackendId oPkt.keyType oPkt.hardwareKey b.owner
    return (bContinue, { b with owner })
  let b := { b with inputSources := b.inputSources.set nBackendId none }
  if bRemove then
    assertThat (oPkt.cmd = packetCmdRemoveDevice)
    assertThat (nBackendId < b.permanentAddrs.length)
    let b := { b with permanentAddrs := b.permanentAddrs.set nBackendId emptyBdAddr }
    let owner ← O.onDeviceRemoved nBackendId b.owner
    return (false, { b with owner })
  return (false, b)

/-- `closeConnection`; `bSlot` tells whether `p0Slot` is non-null. -/
def closeConnection (sid : SourceId) (nBackendId : ℕ) (bSlot bRemove : Bool) (oPkt : KeyPacket)
    (b : GtkBackend σ) : Except Fault (Bool × GtkBackend σ) :=
  let b := b.destroySource sid
  if bSlot then doServerReceive O nBackendId bRemove oPkt b else .ok (false, b)

/-- The loop of `dispatch` over the packets of `aPackets` that were received whole, and the test
for a rest after it. -/
def processPackets (order : ByteOrder) (sid : SourceId) (nBackendId : ℕ) (oDummyPacket : KeyPacket)
    (nBytesReceived : ℕ) :
    (aPackets : List KeyPacket) → (nBufPos : ℕ) → GtkBackend σ → Except Fault (Bool × GtkBackend σ)
  | [], nBufPos, b =>
    if nBufPos < nBytesReceived then closeConnection O sid nBackendId true false oDummyPacket b
    else .ok (true, b)
  | oPacket :: aPackets, nBufPos, b =>
    let oPacket := oPacket.btohl order
    if !oPacket.hasMagic then closeConnection O sid nBackendId true false oPacket b
    else if oPacket.cmd = packetCmdRemoveDevice then
      closeConnection O sid nBackendId true true oPacket b
    else if oPacket.cmd ≠ packetCmdNoop then
      if oPacket.cmd ≠ packetCmdKey then closeConnection O sid nBackendId true false oPacket b
      else do
        let (bContinue, b) ← doServerReceive O nBackendId false oPacket b
        if !bContinue then closeConnection O sid nBackendId false false oPacket b
        else
          processPackets order sid nBackendId oDummyPacket nBytesReceived aPackets (nBufPos + 8) b
    else processPackets order sid nBackendId oDummyPacket nBytesReceived aPackets (nBufPos + 8) b

/-- `BlueServerReceiveSource::dispatch` of a source whose slot is connected. The local packets
that the code declares without initialising them are the argument `oDummyPacket`: a dispatch
uses at most one of them. -/
def dispatch (order : ByteOrder) (sid : SourceId) (nBackendId : ℕ) (nIOFlags : IOCondition)
    (recv : RecvResult) (oDummyPacket : KeyPacket) (b : GtkBackend σ) :
    Except Fault (Bool × GtkBackend σ) :=
  if nIOFlags.ioHup || nIOFlags.ioErr || nIOFlags.ioNval then
    closeConnection O sid nBackendId true false oDummyPacket b
  else if !nIOFlags.ioIn then .ok (true, b)
  else match recv with
    | .error => closeConnection O sid nBackendId true false oDummyPacket b
    | .received bytes =>
      processPackets O order sid nBackendId oDummyPacket bytes.length (packetsOfMemory order bytes)
        0 b

/-- The main loop dispatches an attached source and detaches it when the callback returns
false. -/
def dispatchSource (order : ByteOrder) (sid : SourceId) (nIOFlags : IOCondition)
    (recv : RecvResult) (oDummyPacket : KeyPacket) (b : GtkBackend σ) :
    Except Fault (GtkBackend σ) :=
  match b.sources[sid]? with
  | none => .ok b
  | some src =>
    if !src.attached then .ok b
    else do
      let (bContinue, b) ← dispatch O order sid src.backendId nIOFlags recv oDummyPacket b
      if bContinue then return b
      else return { b with sources := b.sources.modify sid fun s => { s with attached := false } }

end GtkBackend

/-! ### An owner that writes down what it is told -/

/-- A call that the backend makes on its owner. -/
inductive OwnerCall
  | onDeviceAdded (sName : BdAddr) (nBackendId : ℕ)
  | onDeviceRemoved (nBackendId : ℕ)
  | onBlueKey (nBackendId : ℕ) (eType : KeyInputType) (eHK : HardwareKey)
  deriving DecidableEq

/-- The owner that records the calls, in order, and lets every key continue. -/
def recorder : Owner (List OwnerCall) where
  onDeviceAdded sName nBackendId calls := .ok (calls ++ [.onDeviceAdded sName nBackendId])
  onDeviceRemoved nBackendId calls := .ok (calls ++ [.onDeviceRemoved nBackendId])
  onBlueKey nBackendId eType eHK calls := .ok (true, calls ++ [.onBlueKey nBackendId eType eHK])

end StmmInputBt
