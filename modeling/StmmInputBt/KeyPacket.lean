import StmmInputBt.Foundation.ByteOrder

/-!
# The packets of the btkeys protocol

The struct `KeyPacket` of the protocol, declared in the same words by the client
(`stmm-input-btkb/src/keypacket.h`) and by the server (`libstmm-input-gtk-bt/src/keypacket.h`),
its commands, and its eight bytes in the memory of a host.

* `KeyPacket.toMemory` and `packetsOfMemory` are the two directions between packets and bytes;
  both read and write `m_nHardwareKey` in the byte order of the host.
* `packetsOfWire` reads the packets of a message as the server means them: the hardware key is
  little-endian. `packetsOfMemory_ofLittle` says that reading in host order and applying `btohl`
  gives the same packets on every host.
-/

namespace StmmInputBt

/-- An `enum HARDWARE_KEY`, which travels as an `int32_t`. -/
abbrev HardwareKey := BitVec 32

/-- `HK_NULL`. -/
def hkNull : HardwareKey := 0

/-- A `KEY_INPUT_TYPE` as it travels in the `char` `m_nKeyType`. -/
abbrev KeyInputType := Byte

def keyPress : KeyInputType := 1
def keyRelease : KeyInputType := 2
def keyReleaseCancel : KeyInputType := 3

/-- `s_nMagic1`, the character `7`. -/
def magic1 : Byte := 0x37

/-- `s_nMagic2`, the character `A`. -/
def magic2 : Byte := 0x41

def packetCmdKey : Byte := 0
def packetCmdNoop : Byte := 1
def packetCmdRemoveDevice : Byte := 3

/-- The struct `KeyPacket`. -/
structure KeyPacket where
  /-- `'7'` in a valid packet. -/
  magic1 : Byte
  /-- `'A'` in a valid packet. -/
  magic2 : Byte
  cmd : Byte
  keyType : KeyInputType
  hardwareKey : HardwareKey
  deriving DecidableEq

namespace KeyPacket

/-- The magic numbers are those of the protocol. -/
def hasMagic (p : KeyPacket) : Bool := p.magic1 = StmmInputBt.magic1 ∧ p.magic2 = StmmInputBt.magic2

/-- The bytes of a packet in the memory of a host. -/
def toMemory (o : ByteOrder) (p : KeyPacket) : List Byte :=
  let k := o.store p.hardwareKey
  [p.magic1, p.magic2, p.cmd, p.keyType, k.b0, k.b1, k.b2, k.b3]

/-- `oPacket.m_nHardwareKey = btohl(oPacket.m_nHardwareKey)` on a host. -/
def btohl (o : ByteOrder) (p : KeyPacket) : KeyPacket :=
  { p with hardwareKey := o.ofLittle p.hardwareKey }

@[simp] theorem length_toMemory (o : ByteOrder) (p : KeyPacket) : (p.toMemory o).length = 8 := rfl

end KeyPacket

/-- The whole packets that a run of bytes contains, read in host order. A rest of less than
eight bytes is left over. -/
def packetsOfMemory (o : ByteOrder) : List Byte → List KeyPacket
  | m1 :: m2 :: c :: t :: k0 :: k1 :: k2 :: k3 :: rest =>
      ⟨m1, m2, c, t, o.load ⟨k0, k1, k2, k3⟩⟩ :: packetsOfMemory o rest
  | _ => []

/-- The whole packets of a message of the protocol: the hardware key is little-endian. -/
abbrev packetsOfWire : List Byte → List KeyPacket := packetsOfMemory .little

/-- Reading a message in host order and converting every key gives its packets. -/
theorem packetsOfMemory_ofLittle (o : ByteOrder) (bytes : List Byte) :
    (packetsOfMemory o bytes).map (KeyPacket.btohl o) = packetsOfWire bytes := by
  fun_induction packetsOfMemory o bytes with
  | case1 m1 m2 c t k0 k1 k2 k3 rest ih =>
    rw [packetsOfWire, packetsOfMemory, List.map_cons, ih]
    simp only [KeyPacket.btohl, ByteOrder.ofLittle_load]
  | case2 bytes h =>
    rw [packetsOfWire, packetsOfMemory, List.map_nil]
    exact h

/-- What one host writes, another one reads with the key loaded in its own byte order. -/
theorem packetsOfMemory_flatMap_toMemory (o o' : ByteOrder) (ps : List KeyPacket) :
    packetsOfMemory o (ps.flatMap (KeyPacket.toMemory o')) =
      ps.map fun p => { p with hardwareKey := o.load (o'.store p.hardwareKey) } := by
  induction ps with
  | nil => rfl
  | cons p ps ih =>
    simp only [List.flatMap_cons, KeyPacket.toMemory, List.cons_append, List.nil_append,
      packetsOfMemory, ih, List.map_cons]

theorem length_flatMap_toMemory (o : ByteOrder) (ps : List KeyPacket) :
    (ps.flatMap (KeyPacket.toMemory o)).length = 8 * ps.length := by
  induction ps with
  | nil => rfl
  | cons p ps ih =>
    rw [List.flatMap_cons, List.length_append, ih, KeyPacket.length_toMemory, List.length_cons]
    ring

end StmmInputBt
