import DriverStation.Util

/-!
# The outbound UDP control packet

`UdpControlPacket::encode` writes the sequence number, the comm version, the control,
request and alliance bytes, and then each tag framed by `Tag::construct` as
`length · id · data` with `length = 1 + |data|`. `construct` and `Joysticks::data` assert
their bounds, so encoding can panic; it is modelled in `Except Fault`.
-/

set_option autoImplicit false

namespace DS.Outbound
open DS.Wire DS.Util

def Control.ESTOP : Byte := 0x80
def Control.FMS_CONNECTED : Byte := 0x08
def Control.ENABLED : Byte := 0x04
def Control.TELEOP : Byte := 0x00
def Control.TEST : Byte := 0x01
def Control.AUTO : Byte := 0x02

def Control.all : Byte :=
  Control.ESTOP ||| Control.FMS_CONNECTED ||| Control.ENABLED ||| Control.TELEOP |||
    Control.TEST ||| Control.AUTO

abbrev Control := Flags Control.all

def Request.REBOOT_ROBORIO : Byte := 0x08
def Request.RESTART_CODE : Byte := 0x04

def Request.all : Byte := Request.REBOOT_ROBORIO ||| Request.RESTART_CODE

abbrev Request := Flags Request.all

/-- `Alliance(pub u8)`: 0..=2 red stations 1..3, 3..=5 blue stations 1..3. -/
structure Alliance where
  byte : Byte
  deriving DecidableEq, Repr

/-- Rust's `assert!`: a panic with the message when the condition fails. -/
def assert (c : Prop) [Decidable c] (msg : String) : Except Fault Unit :=
  if c then .ok () else .error (.panic msg)

def Alliance.newRed (position : Byte) : Except Fault Alliance := do
  assert (position.toNat ≤ 3 ∧ position.toNat ≠ 0) "assertion failed: position <= 3 && position != 0"
  return ⟨position - 1⟩

def Alliance.newBlue (position : Byte) : Except Fault Alliance := do
  assert (position.toNat ≤ 3 ∧ position.toNat ≠ 0) "assertion failed: position <= 3 && position != 0"
  return ⟨position + 2⟩

def Alliance.isRed (a : Alliance) : Bool := a.byte.toNat < 3

def Alliance.isBlue (a : Alliance) : Bool := !a.isRed

def Alliance.position (a : Alliance) : Byte := a.byte % 3 + 1

/-- `Countdown`: the `f32` is only written out, so it is modelled by its IEEE bits. -/
structure Countdown where
  secondsRemaining : BitVec 32
  deriving DecidableEq, Repr

/-- `Joysticks`: axes are `i8`, POVs `i16`, each by its two's complement bits. -/
structure Joysticks where
  axes : List Byte
  buttons : List Bool
  povs : List (BitVec 16)
  deriving DecidableEq, Repr

structure DateTime where
  micros : BitVec 32
  second : Byte
  minute : Byte
  hour : Byte
  day : Byte
  month : Byte
  year : Byte
  deriving DecidableEq, Repr

/-- `Timezone`: the zone's `String`, by its UTF-8 bytes. -/
structure Timezone where
  tz : List Byte
  deriving DecidableEq, Repr

inductive UdpTag where
  | countdown (c : Countdown)
  | joysticks (j : Joysticks)
  | dateTime (d : DateTime)
  | timezone (t : Timezone)
  deriving DecidableEq, Repr

def Countdown.data (c : Countdown) : List Byte := be32 c.secondsRemaining

def Joysticks.data (j : Joysticks) : Except Fault (List Byte) := do
  let buttonsPacked := toU8Vec j.buttons
  assert (j.axes.length ≤ 255) "Too many axes for u8 count"
  let buf := byte j.axes.length :: j.axes
  assert (j.buttons.length ≤ 255) "Too many buttons for u8 count"
  let buf := buf ++ byte j.buttons.length :: buttonsPacked
  assert (j.povs.length ≤ 255) "Too many POVs for u8 count"
  return buf ++ byte j.povs.length :: j.povs.flatMap be16

def DateTime.data (d : DateTime) : List Byte :=
  be32 d.micros ++ [d.second, d.minute, d.hour, d.day, d.month, d.year]

def UdpTag.id : UdpTag → Byte
  | .countdown _ => 0x07
  | .joysticks _ => 0x0c
  | .dateTime _ => 0x0f
  | .timezone _ => 0x10

def UdpTag.data : UdpTag → Except Fault (List Byte)
  | .countdown c => .ok c.data
  | .joysticks j => j.data
  | .dateTime d => .ok d.data
  | .timezone t => .ok t.tz

def UdpTag.construct (t : UdpTag) : Except Fault (List Byte) := do
  let dataBytes ← t.data
  let payloadLen := 1 + dataBytes.length
  assert (payloadLen ≤ 255) "Tag payload too large for u8 length field"
  return byte payloadLen :: t.id :: dataBytes

structure UdpControlPacket where
  seqnum : BitVec 16
  control : Control
  request : Option Request
  alliance : Alliance
  tags : List UdpTag
  deriving DecidableEq

def requestBits : Option Request → Byte
  | some r => r.bits
  | none => 0

def UdpControlPacket.encode (p : UdpControlPacket) : Except Fault (List Byte) := do
  let framed ← p.tags.mapM UdpTag.construct
  return be16 p.seqnum ++ [0x01, p.control.bits, requestBits p.request, p.alliance.byte] ++
    framed.flatten

/-! ### The framing grammar

A second reading of the packet, from the grammar the format promises:
`be16(seqnum) · 0x01 · control · request · alliance · (len · id · (len − 1) data bytes)*`.
It accepts a byte string only when the tags use up all of it. -/

def parseFramedTags (bs : List Byte) : Option (List (Byte × List Byte)) :=
  match bs with
  | [] => some []
  | [_] => none
  | len :: id :: rest =>
    if 1 ≤ len.toNat ∧ len.toNat - 1 ≤ rest.length then
      (parseFramedTags (rest.drop (len.toNat - 1))).map ((id, rest.take (len.toNat - 1)) :: ·)
    else none
termination_by bs.length
decreasing_by simp only [List.length_cons, List.length_drop]; omega

def parseControlPacket (bs : List Byte) :
    Option (BitVec 16 × Byte × Byte × Byte × List (Byte × List Byte)) :=
  match readU16Be bs with
  | .ok (seqnum, version :: control :: request :: alliance :: rest) =>
    if version = 0x01 then
      (parseFramedTags rest).map fun tags => (seqnum, control, request, alliance, tags)
    else none
  | _ => none

theorem construct_ok (t : UdpTag) (d : List Byte) (hd : t.data = .ok d) (hlen : d.length ≤ 254) :
    t.construct = .ok (byte (1 + d.length) :: t.id :: d) := by
  simp [UdpTag.construct, hd, assert, show 1 + d.length ≤ 255 by omega, bind, Except.bind, pure,
    Except.pure]

theorem construct_eq_ok {t : UdpTag} {bytes : List Byte} :
    t.construct = .ok bytes ↔
      ∃ d, t.data = .ok d ∧ 1 + d.length ≤ 255 ∧ bytes = byte (1 + d.length) :: t.id :: d := by
  cases hd : t.data with
  | error e => simp [UdpTag.construct, hd, bind, Except.bind]
  | ok d =>
    by_cases hl : 1 + d.length ≤ 255
    · simp [UdpTag.construct, hd, hl, assert, bind, Except.bind, pure, Except.pure, eq_comm]
    · simp [UdpTag.construct, hd, hl, assert, bind, Except.bind]

theorem parseFramedTags_frame (id : Byte) (d rest : List Byte) (hlen : d.length ≤ 254) :
    parseFramedTags (byte (1 + d.length) :: id :: (d ++ rest)) =
      (parseFramedTags rest).map ((id, d) :: ·) := by
  have h : (byte (1 + d.length)).toNat = 1 + d.length := by simp; omega
  rw [parseFramedTags]
  simp [h]

theorem encode_tags_parse (tags : List UdpTag)
    (h : ∀ t ∈ tags, ∃ d, t.data = .ok d ∧ d.length ≤ 254) :
    ∃ framed parsed, tags.mapM UdpTag.construct = .ok framed ∧
      parseFramedTags framed.flatten = some parsed ∧
      parsed.map (fun e => (e.1, (.ok e.2 : Except Fault (List Byte)))) =
        tags.map fun t => (t.id, t.data) := by
  induction tags with
  | nil => exact ⟨[], [], rfl, by simp [parseFramedTags], rfl⟩
  | cons t ts ih =>
    obtain ⟨d, hd, hlen⟩ := h t (List.mem_cons_self _ _)
    obtain ⟨framed, parsed, hm, hp, hmap⟩ := ih fun u hu => h u (List.mem_cons_of_mem _ hu)
    refine ⟨(byte (1 + d.length) :: t.id :: d) :: framed, (t.id, d) :: parsed, ?_, ?_, ?_⟩
    · rw [List.mapM_cons, construct_ok t d hd hlen, hm]
      rfl
    · rw [List.flatten_cons, List.cons_append, List.cons_append, parseFramedTags_frame _ _ _ hlen,
        hp]
      rfl
    · simp [hmap, hd]

/-- Every packet whose tags' payloads fit the length byte encodes, and the grammar reads
back its sequence number, control, request and alliance bytes, and each tag's id and
payload in order. -/
theorem encode_parses (p : UdpControlPacket)
    (h : ∀ t ∈ p.tags, ∃ d, t.data = .ok d ∧ d.length ≤ 254) :
    ∃ bytes parsed, p.encode = .ok bytes ∧
      parseControlPacket bytes =
        some (p.seqnum, p.control.bits, (match p.request with | some r => r.bits | none => 0),
          p.alliance.byte, parsed) ∧
      parsed.map (fun e => (e.1, (.ok e.2 : Except Fault (List Byte)))) =
        p.tags.map fun t => (t.id, t.data) := by
  obtain ⟨framed, parsed, hm, hp, hmap⟩ := encode_tags_parse p.tags h
  refine ⟨be16 p.seqnum ++ [0x01, p.control.bits, requestBits p.request, p.alliance.byte] ++
    framed.flatten, parsed, by rw [UdpControlPacket.encode, hm]; rfl, ?_, hmap⟩
  cases p.request <;> simp [parseControlPacket, List.append_assoc, hp, requestBits]

def datePacket : UdpControlPacket :=
  { seqnum := 7, control := ⟨0x04, by decide⟩, request := none, alliance := ⟨0⟩,
    tags := [.dateTime ⟨123456, 30, 55, 17, 23, 4, 124⟩] }

theorem encode_parses_date_packet :
    (∀ t ∈ datePacket.tags, ∃ d, t.data = .ok d ∧ d.length ≤ 254) ∧
    ∃ bytes parsed, datePacket.encode = .ok bytes ∧
      parseControlPacket bytes = some (datePacket.seqnum, datePacket.control.bits,
        (match datePacket.request with | some r => r.bits | none => 0),
        datePacket.alliance.byte, parsed) ∧
      parsed.map (fun e => (e.1, (.ok e.2 : Except Fault (List Byte)))) =
        datePacket.tags.map fun t => (t.id, t.data) :=
  have h : ∀ t ∈ datePacket.tags, ∃ d, t.data = .ok d ∧ d.length ≤ 254 := by
    simp [datePacket, UdpTag.data, DateTime.data, be32]
  ⟨h, encode_parses datePacket h⟩

/-! ### Joystick tags

`Joysticks::data` asserts each count fits its byte, and `Tag::construct` that the whole
payload fits the length byte. The reader below is the layout the format describes. -/

theorem length_flatMap_be16 (ps : List (BitVec 16)) :
    (ps.flatMap be16).length = 2 * ps.length := by
  induction ps with
  | nil => rfl
  | cons p ps ih => simp [be16, ih]; omega

theorem Joysticks.data_of_le (j : Joysticks) (ha : j.axes.length ≤ 255)
    (hb : j.buttons.length ≤ 255) (hp : j.povs.length ≤ 255) :
    j.data = .ok (byte j.axes.length :: j.axes ++ byte j.buttons.length :: toU8Vec j.buttons ++
      byte j.povs.length :: j.povs.flatMap be16) := by
  simp [Joysticks.data, assert, ha, hb, hp, bind, Except.bind, pure, Except.pure]

theorem Joysticks.le_of_data {j : Joysticks} {d : List Byte} (h : j.data = .ok d) :
    j.axes.length ≤ 255 ∧ j.buttons.length ≤ 255 ∧ j.povs.length ≤ 255 := by
  simp only [Joysticks.data, assert, bind, Except.bind] at h
  split_ifs at h with ha hb hp
  exact ⟨ha, hb, hp⟩

def takeExact (n : ℕ) (bs : List Byte) : Option (List Byte × List Byte) :=
  if n ≤ bs.length then some (bs.take n, bs.drop n) else none

def readPovs : ℕ → List Byte → Option (List (BitVec 16) × List Byte)
  | 0, bs => some ([], bs)
  | n + 1, bs => do
    let (pov, bs) ← (readU16Be bs).toOption
    let (povs, bs) ← readPovs n bs
    return (pov :: povs, bs)

/-- The spec's reading of a joystick tag: a length byte `1 + |data|` and the id `0x0c`;
then `axis_count` and that many `i8`, `button_count` and `⌈button_count/8⌉` packed bytes,
`pov_count` and that many big-endian `i16`, with every byte read. -/
def readJoysticksTag : List Byte → Option Joysticks
  | len :: id :: axCount :: rest =>
    if len.toNat = 1 + (axCount :: rest).length ∧ id = 0x0c then do
      let (axes, rest) ← takeExact axCount.toNat rest
      let (btnCount, rest) ← (readU8 rest).toOption
      let (packed, rest) ← takeExact ((btnCount.toNat + 7) / 8) rest
      let (povCount, rest) ← (readU8 rest).toOption
      let (povs, rest) ← readPovs povCount.toNat rest
      if rest = [] then some ⟨axes, unpackButtons btnCount.toNat packed, povs⟩ else none
    else none
  | _ => none

theorem takeExact_append (xs rest : List Byte) :
    takeExact xs.length (xs ++ rest) = some (xs, rest) := by
  simp [takeExact]

theorem readPovs_flatMap (ps : List (BitVec 16)) (rest : List Byte) :
    readPovs ps.length (ps.flatMap be16 ++ rest) = some (ps, rest) := by
  induction ps with
  | nil => rfl
  | cons p ps ih =>
    simp only [List.length_cons, readPovs, List.flatMap_cons, List.append_assoc, readU16Be_be16]
    simp [Except.toOption, ih]

theorem readPovs_flatMap_nil (ps : List (BitVec 16)) :
    readPovs ps.length (ps.flatMap be16) = some (ps, []) := by
  simpa using readPovs_flatMap ps []

theorem readJoysticksTag_layout (j : Joysticks) (ha : j.axes.length ≤ 255)
    (hb : j.buttons.length ≤ 255) (hp : j.povs.length ≤ 255) (len : Byte)
    (hlen : len.toNat = 1 + (byte j.axes.length :: (j.axes ++ byte j.buttons.length ::
      (toU8Vec j.buttons ++ byte j.povs.length :: j.povs.flatMap be16))).length) :
    readJoysticksTag (len :: 0x0c :: byte j.axes.length :: (j.axes ++ byte j.buttons.length ::
      (toU8Vec j.buttons ++ byte j.povs.length :: j.povs.flatMap be16))) = some j := by
  have hax : (byte j.axes.length).toNat = j.axes.length := by simp; omega
  have hbt : (j.buttons.length + 7) / 8 = (toU8Vec j.buttons).length := (toU8Vec_length _).symm
  have hbn : (byte j.buttons.length).toNat = j.buttons.length := by simp; omega
  have hpv : (byte j.povs.length).toNat = j.povs.length := by simp; omega
  rw [readJoysticksTag, if_pos ⟨hlen, rfl⟩, hax, takeExact_append]
  simp only [Option.bind_eq_bind, Option.some_bind, readU8_cons, Except.toOption, hbt,
    takeExact_append, hpv, readPovs_flatMap_nil, if_true, hbn, unpackButtons_toU8Vec]

theorem joysticks_construct (j : Joysticks) :
    ((∃ bytes, (UdpTag.joysticks j).construct = .ok bytes) ↔
      j.buttons.length ≤ 255 ∧
        4 + j.axes.length + (j.buttons.length + 7) / 8 + 2 * j.povs.length ≤ 255) ∧
      ∀ bytes, (UdpTag.joysticks j).construct = .ok bytes → readJoysticksTag bytes = some j := by
  set d := byte j.axes.length :: (j.axes ++ byte j.buttons.length ::
    (toU8Vec j.buttons ++ byte j.povs.length :: j.povs.flatMap be16)) with hd
  have hdl : d.length = 3 + j.axes.length + (j.buttons.length + 7) / 8 + 2 * j.povs.length := by
    simp only [hd, List.length_cons, List.length_append, toU8Vec_length, length_flatMap_be16]
    omega
  have hdata : ∀ ha hb hp, (UdpTag.joysticks j).data = .ok d := fun ha hb hp => by
    simpa [List.cons_append, List.append_assoc] using Joysticks.data_of_le j ha hb hp
  -- a construct that returns wrote the counts, the payload and its length byte
  have hok : ∀ bytes, (UdpTag.joysticks j).construct = .ok bytes →
      j.axes.length ≤ 255 ∧ j.buttons.length ≤ 255 ∧ j.povs.length ≤ 255 ∧
        1 + d.length ≤ 255 ∧ bytes = byte (1 + d.length) :: 0x0c :: d := by
    intro bytes h
    obtain ⟨d', hd', hlen, rfl⟩ := construct_eq_ok.mp h
    obtain ⟨ha, hb, hp⟩ := Joysticks.le_of_data hd'
    rw [hdata ha hb hp] at hd'
    cases hd'
    exact ⟨ha, hb, hp, hlen, rfl⟩
  refine ⟨⟨fun ⟨bytes, h⟩ => ?_, fun ⟨hb, hsum⟩ => ?_⟩, fun bytes h => ?_⟩
  · obtain ⟨-, hb, -, hlen, -⟩ := hok bytes h
    exact ⟨hb, by omega⟩
  · exact ⟨_, construct_ok _ _ (hdata (by omega) hb (by omega)) (by omega)⟩
  · obtain ⟨ha, hb, hp, hlen, rfl⟩ := hok bytes h
    exact readJoysticksTag_layout j ha hb hp _ (by rw [byte_toNat, Nat.mod_eq_of_lt (by omega)])

end DS.Outbound
