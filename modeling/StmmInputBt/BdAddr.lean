import Mathlib.Tactic
import StmmInputBt.Foundation.ByteOrder

/-!
# Bluetooth addresses

The `bdaddr_t` of client and server and its text. The functions `::ba2str` and `::str2ba` that
convert between the two come from the bluez library. Here they are any `AddrText`: a text that
`::ba2str` makes is read as the address it was made of, and an empty text is not an address.
`AddrText.bluez` is what that library documents.

## Main results

* `AddrText.ba2str_injective`: the text of an address stands for it.
-/

namespace StmmInputBt

/-- A `bdaddr_t`. The text that `getBdAddrAsString` makes of it is one to one, so the address
also stands for the name of the device. -/
abbrev BdAddr := BitVec 48

/-- The address that `resetBdAddr` writes, `[0,0,0,0,0,0]`. -/
def emptyBdAddr : BdAddr := 0

/-- The address of the peer of an accepted connection, never all zero. -/
abbrev RemoteAddr := {oBdAddr : BdAddr // oBdAddr ≠ emptyBdAddr}

namespace BdAddr

/-- The byte `b[nIdx]`. -/
def byte (oBtAddr : BdAddr) (nIdx : ℕ) : Byte := oBtAddr.extractLsb' (8 * nIdx) 8

def ofBytes (b5 b4 b3 b2 b1 b0 : Byte) : BdAddr := b5 ++ b4 ++ b3 ++ b2 ++ b1 ++ b0

theorem ofBytes_byte (a : BdAddr) :
    ofBytes (byte a 5) (byte a 4) (byte a 3) (byte a 2) (byte a 1) (byte a 0) = a := by
  refine BitVec.eq_of_getLsbD_eq fun i hi => ?_
  simp only [ofBytes, byte, BitVec.getLsbD_append, BitVec.getLsbD_extractLsb']
  grind

end BdAddr

/-- `::ba2str` and `::str2ba`. -/
structure AddrText where
  ba2str : BdAddr → List Char
  /-- Nothing where `::str2ba` does not return `0`. -/
  str2ba : List Char → Option BdAddr
  str2ba_ba2str : ∀ oBtAddr, str2ba (ba2str oBtAddr) = some oBtAddr
  str2ba_nil : str2ba [] = none

namespace AddrText

/-- The text of an address stands for it. -/
theorem ba2str_injective (oText : AddrText) : Function.Injective oText.ba2str := by
  intro a b h
  have hb : oText.str2ba (oText.ba2str a) = some b := h ▸ oText.str2ba_ba2str b
  rw [oText.str2ba_ba2str, Option.some.injEq] at hb
  exact hb

/-! ### The functions of bluez -/

def hexDigit (n : ℕ) : Char :=
  if n < 10 then Char.ofNat (48 + n) else Char.ofNat (55 + n)

def hexValue (c : Char) : Option ℕ :=
  if '0' ≤ c ∧ c ≤ '9' then some (c.toNat - 48)
  else if 'A' ≤ c ∧ c ≤ 'F' then some (c.toNat - 55)
  else if 'a' ≤ c ∧ c ≤ 'f' then some (c.toNat - 87)
  else none

def readByte (c d : Char) : Option Byte :=
  (hexValue c).bind fun n => (hexValue d).map fun m => BitVec.ofNat 8 (16 * n + m)

theorem readByte_hexDigit :
    ∀ b : Byte, readByte (hexDigit (b.toNat / 16)) (hexDigit (b.toNat % 16)) = some b := by
  decide +kernel

/-- Two hexadecimal digits for each byte, the last byte first, with colons between them. -/
def bluezBa2str (oBtAddr : BdAddr) : List Char :=
  let sHigh (nIdx : ℕ) := hexDigit ((oBtAddr.byte nIdx).toNat / 16)
  let sLow (nIdx : ℕ) := hexDigit ((oBtAddr.byte nIdx).toNat % 16)
  [sHigh 5, sLow 5, ':', sHigh 4, sLow 4, ':', sHigh 3, sLow 3, ':',
    sHigh 2, sLow 2, ':', sHigh 1, sLow 1, ':', sHigh 0, sLow 0]

/-- Exactly such a text is read, with small letters too. -/
def bluezStr2ba : List Char → Option BdAddr
  | [h5, l5, c5, h4, l4, c4, h3, l3, c3, h2, l2, c2, h1, l1, c1, h0, l0] =>
    if c5 = ':' ∧ c4 = ':' ∧ c3 = ':' ∧ c2 = ':' ∧ c1 = ':' then
      match readByte h5 l5, readByte h4 l4, readByte h3 l3, readByte h2 l2, readByte h1 l1,
        readByte h0 l0 with
      | some b5, some b4, some b3, some b2, some b1, some b0 =>
        some (BdAddr.ofBytes b5 b4 b3 b2 b1 b0)
      | _, _, _, _, _, _ => none
    else none
  | _ => none

def bluez : AddrText where
  ba2str := bluezBa2str
  str2ba := bluezStr2ba
  str2ba_ba2str oBtAddr := by
    simp only [bluezBa2str, bluezStr2ba, readByte_hexDigit, and_self, if_true,
      BdAddr.ofBytes_byte]
  str2ba_nil := rfl

end AddrText

end StmmInputBt
