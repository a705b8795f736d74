import DriverStation.Wire
import DriverStation.Float32

/-!
# The RIO's UDP response

`UdpResponsePacket::decode` reads the fixed header, turns the status and trace bytes into
flags with `from_bits(..).unwrap()`, and then runs its tag loop: each recognised id is
followed by a fixed number of bytes that the loop reads and drops, any other id is read
and skipped, and the loop ends when no byte is left to read.
-/

set_option autoImplicit false

namespace DS.Inbound
open DS.Wire

def Status.ESTOP : Byte := 0x80
def Status.BROWNOUT : Byte := 0x10
def Status.CODE_START : Byte := 0x08
def Status.ENABLED : Byte := 0x04
def Status.TELEOP : Byte := 0x00
def Status.TEST : Byte := 0x01
def Status.AUTO : Byte := 0x02

def Status.all : Byte :=
  Status.ESTOP ||| Status.BROWNOUT ||| Status.CODE_START ||| Status.ENABLED |||
    Status.TELEOP ||| Status.TEST ||| Status.AUTO

abbrev Status := Flags Status.all

def Trace.ROBOT_CODE : Byte := 0x20
def Trace.IS_ROBORIO : Byte := 0x10
def Trace.TEST_MODE : Byte := 0x08
def Trace.AUTONOMOUS : Byte := 0x04
def Trace.TELEOP : Byte := 0x02
def Trace.DISABLED : Byte := 0x01

def Trace.all : Byte :=
  Trace.ROBOT_CODE ||| Trace.IS_ROBORIO ||| Trace.TEST_MODE ||| Trace.AUTONOMOUS |||
    Trace.TELEOP ||| Trace.DISABLED

abbrev Trace := Flags Trace.all

def Status.emergencyStopped (s : Status) : Bool := s.contains Status.ESTOP

def Trace.isCodeStarted (t : Trace) : Bool := t.contains Trace.ROBOT_CODE

structure UdpResponsePacket where
  seqnum : BitVec 16
  status : Status
  trace : Trace
  battery : ℚ
  needDate : Bool
  deriving DecidableEq

/-- `gen_stub_tags!`'s `chomp`: `n` calls of `read_u8`, the bytes dropped. -/
def chomp : ℕ → List Byte → Except Fault (List Byte)
  | 0, buf => .ok buf
  | n + 1, buf => do
    let (_, buf) ← readU8 buf
    chomp n buf

def PDPLog.chomp : List Byte → Except Fault (List Byte) := Inbound.chomp 25
def JoystickOutput.chomp : List Byte → Except Fault (List Byte) := Inbound.chomp 8
def DiskInfo.chomp : List Byte → Except Fault (List Byte) := Inbound.chomp 4
def CPUInfo.chomp : List Byte → Except Fault (List Byte) := Inbound.chomp 20
def RAMInfo.chomp : List Byte → Except Fault (List Byte) := Inbound.chomp 8
def Unknown.chomp : List Byte → Except Fault (List Byte) := Inbound.chomp 9
def CANMetrics.chomp : List Byte → Except Fault (List Byte) := Inbound.chomp 14

/-- The body of the tag loop once the id is read: the `match tag_id`. -/
def chompTag (id : Byte) (buf : List Byte) : Except Fault (List Byte) :=
  match id.toNat with
  | 0x01 => JoystickOutput.chomp buf
  | 0x04 => DiskInfo.chomp buf
  | 0x05 => CPUInfo.chomp buf
  | 0x06 => RAMInfo.chomp buf
  | 0x08 => PDPLog.chomp buf
  | 0x09 => Unknown.chomp buf
  | 0x0e => CANMetrics.chomp buf
  | _ => .ok buf

theorem chomp_eq (n : ℕ) (buf : List Byte) :
    chomp n buf = if n ≤ buf.length then .ok (buf.drop n) else .error .decodeError := by
  induction n generalizing buf with
  | zero => simp [chomp]
  | succ n ih =>
    cases buf with
    | nil => rfl
    | cons b rest => simp [chomp, ih, bind, Except.bind]

theorem chompTag_length {id : Byte} {buf r : List Byte} (h : chompTag id buf = .ok r) :
    r.length ≤ buf.length := by
  have hc : ∀ n, chomp n buf = .ok r → r.length ≤ buf.length := by
    intro n hn
    rw [chomp_eq] at hn
    split at hn <;> cases hn
    simp
  unfold chompTag at h
  split at h <;> first | exact hc _ h | (cases h; exact le_rfl)

/-- `while let Ok(tag_id) = buf.read_u8()`: the loop ends when no byte is left. -/
def tagLoop (buf : List Byte) : Except Fault (List Byte) :=
  match buf with
  | [] => .ok []
  | id :: rest =>
    match h : chompTag id rest with
    | .error e => .error e
    | .ok r =>
      have : r.length < (id :: rest).length := Nat.lt_succ_of_le (chompTag_length h)
      tagLoop r
termination_by buf.length

theorem tagLoop_cons (id : Byte) (rest : List Byte) :
    tagLoop (id :: rest) = (chompTag id rest).bind tagLoop := by
  rw [tagLoop]
  split <;> simp_all [Except.bind]

def unwrap {α : Type} : Option α → Except Fault α
  | some a => .ok a
  | none => .error (.panic "called `Option::unwrap()` on a `None` value")

def battery (high low : Byte) : ℚ :=
  Float32.add (Float32.ofNat high.toNat) (Float32.div (Float32.ofNat low.toNat) 256)

def decode (buf : List Byte) : Except Fault (UdpResponsePacket × List Byte) := do
  let (seqnum, buf) ← readU16Be buf
  let (_commVersion, buf) ← readU8 buf
  let (st, buf) ← readU8 buf
  let status ← unwrap (Flags.fromBits Status.all st)
  let (tr, buf) ← readU8 buf
  let trace ← unwrap (Flags.fromBits Trace.all tr)
  let (high, buf) ← readU8 buf
  let (low, buf) ← readU8 buf
  let (nd, buf) ← readU8 buf
  let buf ← tagLoop buf
  return ({ seqnum, status, trace, battery := battery high low, needDate := nd == 1 }, buf)

def recognisedTags : List (ℕ × ℕ) :=
  [(0x01, 8), (0x04, 4), (0x05, 20), (0x06, 8), (0x08, 25), (0x09, 9), (0x0e, 14)]

theorem chompTag_recognised (id : Byte) (payload rest : List Byte)
    (h : (id.toNat, payload.length) ∈ recognisedTags) :
    chompTag id (payload ++ rest) = .ok rest := by
  simp only [recognisedTags, List.mem_cons, Prod.mk.injEq, List.mem_nil_iff, or_false] at h
  rcases h with ⟨hi, hl⟩ | ⟨hi, hl⟩ | ⟨hi, hl⟩ | ⟨hi, hl⟩ | ⟨hi, hl⟩ | ⟨hi, hl⟩ | ⟨hi, hl⟩ <;>
    (simp only [chompTag, hi]
     simp [chomp_eq, ← hl, JoystickOutput.chomp, DiskInfo.chomp, CPUInfo.chomp, RAMInfo.chomp,
       PDPLog.chomp, Unknown.chomp, CANMetrics.chomp])

theorem tagLoop_append_recognised (tags : List (Byte × List Byte)) (rest : List Byte)
    (h : ∀ t ∈ tags, (t.1.toNat, t.2.length) ∈ recognisedTags) :
    tagLoop ((tags.flatMap fun t => t.1 :: t.2) ++ rest) = tagLoop rest := by
  induction tags with
  | nil => rfl
  | cons t tags ih =>
    rw [List.flatMap_cons, List.append_assoc, List.cons_append, tagLoop_cons,
      chompTag_recognised _ _ _ (h t (List.mem_cons_self _ _))]
    exact ih fun u hu => h u (List.mem_cons_of_mem _ hu)

theorem tagLoop_recognised (tags : List (Byte × List Byte))
    (h : ∀ t ∈ tags, (t.1.toNat, t.2.length) ∈ recognisedTags) :
    tagLoop (tags.flatMap fun t => t.1 :: t.2) = .ok [] := by
  simpa [tagLoop] using tagLoop_append_recognised tags [] h

theorem battery_exact (high low : Byte) : battery high low = high.toNat + low.toNat / 256 := by
  have hh : high.toNat < 256 := high.isLt
  have hl : low.toNat < 256 := low.isLt
  have hdiv : Float32.div (Float32.ofNat low.toNat) 256 = low.toNat / 256 := by
    rw [Float32.div, Float32.ofNat_exact _ (by omega)]
    exact_mod_cast Float32.round_nat_div_pow low.toNat 8 (by omega) (by norm_num)
  have hsum :
      (high.toNat : ℚ) + low.toNat / 256 = ((256 * high.toNat + low.toNat : ℕ) : ℚ) / 2 ^ 8 := by
    push_cast
    ring
  rw [battery, hdiv, Float32.ofNat_exact _ (by omega), Float32.add, hsum]
  exact Float32.round_nat_div_pow _ 8 (by omega) (by norm_num)

theorem decode_header_and_tags (s : BitVec 16) (v st tr hi lo nd : Byte)
    (tags : List (Byte × List Byte))
    (hst : st &&& ~~~Status.all = 0) (htr : tr &&& ~~~Trace.all = 0)
    (htags : ∀ t ∈ tags, (t.1.toNat, t.2.length) ∈ recognisedTags) :
    ∃ p, decode (be16 s ++ [v, st, tr, hi, lo, nd] ++ tags.flatMap fun t => t.1 :: t.2) =
        .ok (p, []) ∧
      p.seqnum = s ∧ p.status.bits = st ∧ p.trace.bits = tr ∧
      p.battery = hi.toNat + lo.toNat / 256 ∧ (p.needDate = true ↔ nd = 1) := by
  refine ⟨⟨s, ⟨st, hst⟩, ⟨tr, htr⟩, battery hi lo, nd == 1⟩, ?_, rfl, rfl, rfl,
    battery_exact hi lo, beq_iff_eq⟩
  simp [decode, readU16Be_be16, Flags.fromBits, hst, htr, unwrap, tagLoop_recognised _ htags,
    bind, Except.bind, pure, Except.pure]

theorem decode_header_and_tags_disk_info :
    (0x80#8 &&& ~~~Status.all = 0) ∧ (0x22#8 &&& ~~~Trace.all = 0) ∧
    (∀ t ∈ [(0x04#8, [1#8, 2, 3, 4])], (t.1.toNat, t.2.length) ∈ recognisedTags) ∧
    ∃ p, decode (be16 0x1234 ++ [1, 0x80, 0x22, 12, 128, 1] ++
        [(0x04#8, [1#8, 2, 3, 4])].flatMap fun t => t.1 :: t.2) = .ok (p, []) ∧
      p.seqnum = 0x1234 ∧ p.status.bits = 0x80 ∧ p.trace.bits = 0x22 ∧
      p.battery = (12#8).toNat + (128#8).toNat / 256 ∧ (p.needDate = true ↔ (1 : Byte) = 1) :=
  ⟨by decide, by decide, by decide,
    decode_header_and_tags _ _ _ _ _ _ _ _ (by decide) (by decide) (by decide)⟩

/-! ### Panics

`read_u8` and the tag loop fail only with a `DecodeError`; the two `unwrap`s of
`from_bits` are the decoder's only panics. -/

theorem chomp_ne_panic (n : ℕ) (buf : List Byte) (m : String) :
    chomp n buf ≠ .error (.panic m) := by
  rw [chomp_eq]; split <;> simp

theorem chompTag_ne_panic (id : Byte) (buf : List Byte) (m : String) :
    chompTag id buf ≠ .error (.panic m) := by
  unfold chompTag; split <;> first | exact chomp_ne_panic _ _ _ | simp

theorem tagLoop_ne_panic (buf : List Byte) (m : String) : tagLoop buf ≠ .error (.panic m) := by
  induction buf using tagLoop.induct with
  | case1 => simp [tagLoop]
  | case2 id rest e h =>
    rw [tagLoop_cons, h]
    rintro ⟨⟩
    exact chompTag_ne_panic id rest m h
  | case3 id rest r h _ ih => rw [tagLoop_cons, h]; exact ih

theorem decode_panics_iff (buf : List Byte) :
    (∃ m, decode buf = .error (.panic m)) ↔
      ∃ x0 x1 x2 st rest, buf = x0 :: x1 :: x2 :: st :: rest ∧
        (st &&& ~~~Status.all ≠ 0 ∨
          st &&& ~~~Status.all = 0 ∧ ∃ tr rest', rest = tr :: rest' ∧ tr &&& ~~~Trace.all ≠ 0) := by
  constructor
  · rintro ⟨m, h⟩
    match buf, h with
    | [], h | [_], h | [_, _], h | [_, _, _], h =>
      simp [decode, readU16Be, readU8, bind, Except.bind] at h
    | x0 :: x1 :: x2 :: st :: rest, h =>
      refine ⟨x0, x1, x2, st, rest, rfl, ?_⟩
      by_cases hst : st &&& ~~~Status.all = 0
      · refine .inr ⟨hst, ?_⟩
        match rest, h with
        | [], h =>
          simp [decode, readU16Be, readU8, Flags.fromBits_of_declared _ hst, unwrap, bind,
            Except.bind] at h
        | tr :: rest', h =>
          refine ⟨tr, rest', rfl, fun htr => ?_⟩
          simp only [decode, readU16Be, readU8_cons, Flags.fromBits_of_declared _ hst,
            Flags.fromBits_of_declared _ htr, unwrap, bind, Except.bind] at h
          match rest', h with
          | [], h | [_], h | [_, _], h => simp [readU8] at h
          | a :: b :: c :: r, h =>
            simp only [readU8_cons] at h
            cases hr : tagLoop r with
            | error e => rw [hr] at h; cases h; exact tagLoop_ne_panic r m hr
            | ok r' => rw [hr] at h; cases h
      · exact .inl hst
  · rintro ⟨x0, x1, x2, st, rest, rfl, hst | ⟨hst, tr, rest', rfl, htr⟩⟩
    · exact ⟨"called `Option::unwrap()` on a `None` value", by
        simp [decode, readU16Be, (Flags.fromBits_eq_none _).mpr hst, unwrap, bind, Except.bind]⟩
    · exact ⟨"called `Option::unwrap()` on a `None` value", by
        simp [decode, readU16Be, Flags.fromBits_of_declared _ hst,
          (Flags.fromBits_eq_none _).mpr htr, unwrap, bind, Except.bind]⟩

def undeclaredStatus : List Byte := [0, 0, 1, 0x40, 0, 0, 0, 0]

/-- The datagram panics the decoder, and the two `unwrap`s are the only ways any buffer
does. -/
theorem decode_undeclared_status_panics :
    decode undeclaredStatus = .error (.panic "called `Option::unwrap()` on a `None` value") ∧
      ∀ buf, (∃ m, decode buf = .error (.panic m)) ↔
        ∃ x0 x1 x2 st rest, buf = x0 :: x1 :: x2 :: st :: rest ∧
          (st &&& ~~~Status.all ≠ 0 ∨
            st &&& ~~~Status.all = 0 ∧ ∃ tr rest', rest = tr :: rest' ∧ tr &&& ~~~Trace.all ≠ 0) :=
  ⟨rfl, decode_panics_iff⟩

/-! ### Unrecognised tag ids

The `match tag_id` has no arm that leaves the loop: an id it does not recognise is
dropped and the next byte is read as an id. -/

theorem chompTag_unrecognised (id : Byte) (buf : List Byte)
    (h : id.toNat ∉ recognisedTags.map Prod.fst) : chompTag id buf = .ok buf := by
  simp only [recognisedTags, List.map_cons, List.map_nil, List.mem_cons, List.mem_nil_iff,
    or_false, not_or] at h
  unfold chompTag
  split <;> first | rfl | omega

theorem decode_header_append {h r r' : List Byte} (hl : h.length = 8)
    (hr : tagLoop r = tagLoop r') : decode (h ++ r) = decode (h ++ r') := by
  match h, hl with
  | [_, _, _, _, _, _, _, _], _ => simp [decode, readU16Be, hr, bind, Except.bind]

/-- Recognised tags, then an unrecognised id: decoding goes on with the bytes after the id
as if the id and the tags were not there. -/
theorem decode_skips_unrecognised (h : List Byte) (hl : h.length = 8)
    (tags : List (Byte × List Byte)) (htags : ∀ t ∈ tags, (t.1.toNat, t.2.length) ∈ recognisedTags)
    (x : Byte) (hx : x.toNat ∉ recognisedTags.map Prod.fst) (rest : List Byte) :
    decode (h ++ (tags.flatMap fun t => t.1 :: t.2) ++ x :: rest) = decode (h ++ rest) := by
  rw [List.append_assoc]
  refine decode_header_append hl ?_
  rw [tagLoop_append_recognised _ _ htags, tagLoop_cons, chompTag_unrecognised _ _ hx]
  rfl

def quietHeader : List Byte := [0, 0, 1, 0, 0, 0, 0, 0]

theorem unknown_id_then_truncated_tag :
    (∃ p, decode quietHeader = .ok (p, [])) ∧
      decode (quietHeader ++ [] ++ [0x02] ++ [0x01]) = .error .decodeError := by
  refine ⟨by simp [decode, quietHeader, readU16Be, Flags.fromBits, unwrap, tagLoop, bind, pure,
    Except.bind, Except.pure], ?_⟩
  rw [show quietHeader ++ [] ++ [0x02] ++ [0x01] =
      quietHeader ++ ([] : List (Byte × List Byte)).flatMap (fun t => t.1 :: t.2) ++ 0x02 :: [0x01]
      from rfl, decode_skips_unrecognised quietHeader rfl [] (by simp) 0x02 (by decide)]
  simp [decode, quietHeader, readU16Be, Flags.fromBits, unwrap, tagLoop_cons, chompTag,
    JoystickOutput.chomp, chomp_eq, bind, Except.bind]

end DS.Inbound
