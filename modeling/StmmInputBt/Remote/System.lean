import StmmInputBt.Client.Messages
import StmmInputBt.Server.HandedKeys
import StmmInputBt.WireRoundTrip

/-!
# Clients and server together

Any number of clients, each on a host of its own, and the server with its device manager. A
connection joins a socket of a client with a receive source of the server. It is a reliable one: it
carries the messages that `::send` has accepted on the socket in their order, and the server
receives them one by one, as far as it reads before its end is closed. Apart from that all of them
do what they do in any order.

## Main definitions

* `Peers`: the hosts.
* `RemoteSystem`: the clients, the server and the connections between them.
* `RemoteOp`, `RemoteSystem.step`: what happens, and what it does.
* `RemoteSystem.deliveredKeys`: the keys of a client in the messages that the server received.
-/

namespace StmmInputBt

open BtGtkDeviceManager BtKeyClient GtkBackend

/-- The hosts of the clients and of the server. -/
structure Peers (ι : Type) where
  addr : ι → RemoteAddr
  injective : Function.Injective addr
  order : ι → ByteOrder
  serverOrder : ByteOrder

/-- A connection that the server has accepted. -/
structure Channel (ι : Type) where
  client : ι
  /-- Which of the sockets of the client it is. -/
  nSocket : ℕ
  /-- How many messages the server has received. -/
  nReceived : ℕ

structure RemoteSystem (ι : Type) where
  clients : ι → BtKeyClient
  server : Server
  /-- The connections of the receive sources. -/
  channels : List (Channel ι)

/-- What can happen. -/
inductive RemoteOp (ι : Type)
  | client (i : ι) (op : ClientOp)
  /-- The server accepts the connection of a socket of the client. -/
  | accept (i : ι) (nSocket : ℕ) (nClientFD : ℕ)
  /-- The server dispatches a source. `::recv`, if it is called, fails or returns what there is. -/
  | dispatch (sid : SourceId) (nIOFlags : IOCondition) (bRecvFails : Bool)
      (oDummyPacket : KeyPacket)
  | ui (op : UiOp)

/-- The packets that a dispatch declares without initialising them do not look like keys. -/
def RemoteOp.Clean {ι : Type} : RemoteOp ι → Prop
  | .dispatch _ _ _ oDummyPacket => oDummyPacket.cmd ≠ packetCmdKey
  | _ => True

/-- The arguments of a constructor of `BtKeyClient`, and what it does not initialise. -/
structure ClientSettings where
  timeoutConnect : ℤ
  timeoutSend : ℤ
  interval : ℤ
  noopAfter : ℤ
  btAddr : BitVec 48
  packets : Vector StagedPacket sendBufferSize

def ClientSettings.client (p : ClientSettings) : BtKeyClient :=
  new p.timeoutConnect p.timeoutSend p.interval p.noopAfter p.btAddr p.packets

/-- The dispatch calls `::recv`. -/
def IOCondition.reads (nIOFlags : IOCondition) : Bool :=
  !(nIOFlags.ioHup || nIOFlags.ioErr || nIOFlags.ioNval) && nIOFlags.ioIn

/-- The keys in the packets up to the first removal. -/
def keysUpToRemove (ps : List StagedPacket) : List SentKey :=
  (ps.takeWhile (·.packet.cmd ≠ packetCmdRemoveDevice)).filterMap packetKey

/-- A key as the server is meant to be handed it. -/
def wireSentKey (o : ByteOrder) (k : SentKey) : KeyInputType × HardwareKey :=
  (k.keyType, wireKey o k.key)

namespace RemoteSystem

variable {ι : Type}

/-- Before the first client connects. -/
def start (settings : ι → ClientSettings) (enabledEventClasses : EventClass → Bool)
    (windows : Window → WindowState) : RemoteSystem ι :=
  ⟨fun i => (settings i).client, GtkBackend.start (create enabledEventClasses windows), []⟩

/-- The messages that a client has sent over a connection. -/
def sent (s : RemoteSystem ι) (c : Channel ι) : List (List StagedPacket) :=
  messages c.nSocket (s.clients c.client).trace

/-- The messages that the server has received over a connection. -/
def received (s : RemoteSystem ι) (c : Channel ι) : List (List StagedPacket) :=
  (s.sent c).take c.nReceived

/-- The message that the server receives next on a source. -/
def nextMessage (s : RemoteSystem ι) (sid : SourceId) : Option (List StagedPacket) :=
  s.channels[sid]?.bind fun c => (s.sent c)[c.nReceived]?

/-- The dispatch takes a message off its connection. -/
def takes (s : RemoteSystem ι) (sid : SourceId) (nIOFlags : IOCondition) (bRecvFails : Bool) :
    Bool :=
  s.server.sources[sid]?.any (·.attached) && nIOFlags.reads && !bRecvFails &&
    (s.nextMessage sid).isSome

/-- What `::recv` returns on a source. A connection on which nothing is left to receive reads as an
empty message. -/
def recvResult (peers : Peers ι) (s : RemoteSystem ι) (sid : SourceId) (bRecvFails : Bool) :
    RecvResult :=
  if bRecvFails then .error
  else match s.channels[sid]? with
    | none => .received []
    | some c =>
      match s.nextMessage sid with
      | none => .received []
      | some aPackets => recvMessage (wireBytes (peers.order c.client) aPackets)

variable [DecidableEq ι]

/-- The client has opened the socket, after those that the server has accepted already. -/
def Connects (s : RemoteSystem ι) (i : ι) (nSocket : ℕ) : Prop :=
  1 ≤ nSocket ∧ nSocket ≤ socketsOpened (s.clients i).trace ∧
    ∀ c ∈ s.channels, c.client = i → c.nSocket < nSocket

instance (s : RemoteSystem ι) (i : ι) (nSocket : ℕ) : Decidable (s.Connects i nSocket) :=
  inferInstanceAs (Decidable (_ ∧ _ ∧ _))

variable (peers : Peers ι)

/-- What happens to the server, if something does. -/
def serverOp (s : RemoteSystem ι) : RemoteOp ι → Option SystemOp
  | .client .. => none
  | .accept i nSocket nClientFD =>
    if s.Connects i nSocket then some (.accept nClientFD (peers.addr i)) else none
  | .dispatch sid nIOFlags bRecvFails oDummyPacket =>
    some (.dispatch sid nIOFlags (s.recvResult peers sid bRecvFails) oDummyPacket)
  | .ui op => some (.ui op)

/-- A client that has died does nothing more. -/
def clientsAfter (s : RemoteSystem ι) : RemoteOp ι → ι → BtKeyClient
  | .client i op =>
    match (s.clients i).step op with
    | .ok t => Function.update s.clients i t
    | .error _ => s.clients
  | _ => s.clients

def channelsAfter (s : RemoteSystem ι) : RemoteOp ι → List (Channel ι)
  | .accept i nSocket _ =>
    if s.Connects i nSocket then s.channels ++ [⟨i, nSocket, 0⟩] else s.channels
  | .dispatch sid nIOFlags bRecvFails _ =>
    if s.takes sid nIOFlags bRecvFails then
      s.channels.modify sid fun c => { c with nReceived := c.nReceived + 1 }
    else s.channels
  | _ => s.channels

/-- One thing happens. -/
def step (s : RemoteSystem ι) (op : RemoteOp ι) : Except Fault (RemoteSystem ι) :=
  match s.serverOp peers op with
  | none => .ok { s with clients := s.clientsAfter op }
  | some serverOp => (s.server.step peers.serverOrder serverOp).map fun server =>
    { s with server, channels := s.channelsAfter op }

/-- The keys that the manager is handed in the course of a step. None are counted of a step that
ends in a fault. -/
def handedKeys (s : RemoteSystem ι) (op : RemoteOp ι) : List KeyCall :=
  match s.serverOp peers op with
  | none => []
  | some serverOp => GtkBackend.handedKeys peers.serverOrder s.server serverOp

/-- The keys of a client in the messages that the server has received over its connections, one
connection after the other. -/
def deliveredKeys (s : RemoteSystem ι) (i : ι) : List SentKey :=
  (s.channels.filter (·.client = i)).flatMap fun c => (s.received c).flatMap keysUpToRemove

end RemoteSystem

end StmmInputBt
