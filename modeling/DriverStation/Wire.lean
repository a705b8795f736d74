import Mathlib.Data.Nat.Defs
import Mathlib.Tactic.Ring

/-!
# Bytes on the wire

Bytes are `BitVec 8` and the 16-bit sequence number is `BitVec 16`. A call of the source
ends with a value, with the `DecodeError` of a failed read, or with a panic; `Fault`
names the last two. The big-endian writers of `bytes::BufMut` and the readers of the
crate's `BufExt` are modelled here once, with the facts every codec proof uses.
-/

set_option autoImplicit false

namespace DS.Wire

abbrev Byte := BitVec 8

/-- How a call ends without a value: the crate's `DecodeError`, or a panic with its message. -/
inductive Fault where
  | decodeError
  | panic (msg : String)
  deriving DecidableEq, Repr

def byte (n : ℕ) : Byte := BitVec.ofNat 8 n

def be16 (x : BitVec 16) : List Byte := [byte (x.toNat / 256), byte x.toNat]

def be32 (x : BitVec 32) : List Byte :=
  [byte (x.toNat / 2^24), byte (x.toNat / 2^16), byte (x.toNat / 2^8), byte x.toNat]

/-- Modelled from the spec: `BufExt::read_u8`, absent from the sources. A read past the
end of the buffer is a `DecodeError`. -/
def readU8 : List Byte → Except Fault (Byte × List Byte)
  | [] => .error .decodeError
  | b :: rest => .ok (b, rest)

/-- Modelled from the spec: `BufExt::read_u16_be`, absent from the sources: two bytes,
high byte first. -/
def readU16Be (buf : List Byte) : Except Fault (BitVec 16 × List Byte) :=
  match buf with
  | hi :: lo :: rest => .ok (BitVec.ofNat 16 (hi.toNat * 256 + lo.toNat), rest)
  | _ => .error .decodeError

@[simp] theorem readU8_cons (b : Byte) (rest : List Byte) : readU8 (b :: rest) = .ok (b, rest) :=
  rfl

@[simp] theorem byte_toNat (n : ℕ) : (byte n).toNat = n % 256 := BitVec.toNat_ofNat n 8

@[simp] theorem byte_toNat_self (b : Byte) : byte b.toNat = b := by
  apply BitVec.eq_of_toNat_eq
  simp [Nat.mod_eq_of_lt b.isLt]

@[simp] theorem readU16Be_be16 (x : BitVec 16) (rest : List Byte) :
    readU16Be (be16 x ++ rest) = .ok (x, rest) := by
  have hx := x.isLt
  simp only [be16, List.cons_append, List.nil_append, readU16Be, byte_toNat, Except.ok.injEq,
    Prod.mk.injEq, and_true]
  apply BitVec.eq_of_toNat_eq
  simp only [BitVec.toNat_ofNat]
  omega

/-- A `bitflags!` type over `u8` whose declared flags together are `all`. A value holds
no bit outside them; `from_bits` is the only way to make one from a byte. -/
structure Flags (all : Byte) where
  bits : Byte
  declared : bits &&& ~~~all = 0
  deriving DecidableEq, Repr

namespace Flags

variable {all : Byte}

def fromBits (all b : Byte) : Option (Flags all) :=
  if h : b &&& ~~~all = 0 then some ⟨b, h⟩ else none

def contains (f : Flags all) (flag : Byte) : Bool := f.bits &&& flag == flag

def empty : Flags all := ⟨0, by simp⟩

theorem fromBits_bits (b : Byte) (h : b &&& ~~~all = 0) :
    (fromBits all b).map Flags.bits = some b := by
  simp [fromBits, h]

theorem fromBits_of_declared (b : Byte) (h : b &&& ~~~all = 0) :
    fromBits all b = some ⟨b, h⟩ :=
  dif_pos h

theorem fromBits_eq_none (b : Byte) : fromBits all b = none ↔ b &&& ~~~all ≠ 0 := by
  unfold fromBits
  split <;> simp_all

end Flags

end DS.Wire
