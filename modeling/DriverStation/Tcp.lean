import DriverStation.Wire

/-!
# Outbound TCP tags

Two copies of `OutgoingTcpTag::construct` frame a tag as `be16(1 + |data|) · id · data`:
the `Bytes` copy in `proto/tcp/outbound.rs`, which asserts that the length fits 16 bits,
and the `Vec` copy in `outbound/tcp/mod.rs`, which casts it with `as u16`. Their tags'
`data` agree. A `String` is modelled by its UTF-8 bytes.
-/

set_option autoImplicit false

namespace DS.Tcp
open DS.Wire

inductive MatchType where
  | none
  | practice
  | qualifications
  | eliminations
  deriving DecidableEq, Repr

def MatchType.byte : MatchType → Byte
  | .none => 0
  | .practice => 1
  | .qualifications => 2
  | .eliminations => 3

structure MatchInfo where
  competition : List Byte
  matchType : MatchType
  deriving DecidableEq, Repr

structure GameData where
  gsm : List Byte
  deriving DecidableEq, Repr

inductive TcpTag where
  | matchInfo (m : MatchInfo)
  | gameData (g : GameData)
  deriving DecidableEq, Repr

def MatchInfo.data (m : MatchInfo) : List Byte :=
  byte m.competition.length :: m.competition ++ [m.matchType.byte]

def GameData.data (g : GameData) : List Byte := g.gsm

def TcpTag.id : TcpTag → Byte
  | .matchInfo _ => 0x07
  | .gameData _ => 0x0e

def TcpTag.data : TcpTag → List Byte
  | .matchInfo m => m.data
  | .gameData g => g.data

/-- `construct` of `proto/tcp/outbound.rs`. -/
def TcpTag.construct (t : TcpTag) : Except Fault (List Byte) :=
  let payloadLen := 1 + t.data.length
  if payloadLen ≤ 65535 then .ok (be16 (BitVec.ofNat 16 payloadLen) ++ t.id :: t.data)
  else .error (.panic "Payload too large for u16 length")

/-- `construct` of `outbound/tcp/mod.rs`. -/
def TcpTag.constructVec (t : TcpTag) : List Byte :=
  let buf := t.id :: t.data
  be16 (BitVec.ofNat 16 buf.length) ++ buf

/-! ### The two copies of `construct` -/

theorem construct_eq_constructVec (t : TcpTag) (h : 1 + t.data.length ≤ 65535) :
    t.construct = .ok t.constructVec := by
  simp [TcpTag.construct, TcpTag.constructVec, h, Nat.add_comm]

/-- Past the 16-bit length the `Bytes` copy panics, and the `Vec` copy writes the length
modulo 2^16 in front of the whole payload. -/
theorem construct_too_large (t : TcpTag) (h : 65535 < 1 + t.data.length) :
    t.construct = .error (.panic "Payload too large for u16 length") ∧
      t.constructVec = be16 (BitVec.ofNat 16 (1 + t.data.length)) ++ t.id :: t.data := by
  simp [TcpTag.construct, TcpTag.constructVec, Nat.not_le.mpr h, Nat.add_comm]

def longMessage : GameData := ⟨List.replicate 65535 0x4c⟩

theorem longMessage_length : (TcpTag.gameData longMessage).data.length = 65535 :=
  List.length_replicate _ _

/-- The two copies agree on every tag whose payload fits 16 bits, and part at a game message
of 65535 bytes: the `Bytes` copy panics, the `Vec` copy frames it with length 0. -/
theorem tcp_construct_copies_differ :
    (∀ t : TcpTag, 1 + t.data.length ≤ 65535 → t.construct = .ok t.constructVec) ∧
      (TcpTag.gameData longMessage).construct =
        .error (.panic "Payload too large for u16 length") ∧
      (TcpTag.gameData longMessage).constructVec = [0, 0, 0x0e] ++ longMessage.gsm := by
  have h := construct_too_large (.gameData longMessage) (by rw [longMessage_length]; decide)
  refine ⟨construct_eq_constructVec, h.1, ?_⟩
  rw [h.2, longMessage_length]
  rfl

/-! ### Reading a `MatchInfo` back -/

def MatchType.ofByte (b : Byte) : Option MatchType :=
  match b.toNat with
  | 0 => some .none
  | 1 => some .practice
  | 2 => some .qualifications
  | 3 => some .eliminations
  | _ => none

@[simp] theorem MatchType.ofByte_byte (t : MatchType) : MatchType.ofByte t.byte = some t := by
  cases t <;> rfl

end DS.Tcp
