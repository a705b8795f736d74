import DriverStation.Wire

/-!
# `util.rs`

`to_u8_vec` packs joystick buttons eight to a byte, least significant bit first, and
reverses the bytes; `ip_from_team_number` derives the RIO's address `10.TE.AM.2`.
-/

set_option autoImplicit false

namespace DS.Util
open DS.Wire

/-- The inner loop of `to_u8_vec` over `bit_pos`: a `true` sets bit `bit_pos`, and the
loop breaks at the end of the slice. -/
def packBits (v : List Bool) (chunkStart : ℕ) : List ℕ → Byte → Byte
  | [], byte => byte
  | bitPos :: rest, byte =>
    match v[chunkStart + bitPos]? with
    | some value => packBits v chunkStart rest (if value then byte ||| 1 <<< bitPos else byte)
    | none => byte

/-- `to_u8_vec`: one byte per chunk of eight, chunk starts `(0..len).step_by(8)`, and the
bytes reversed at the end. -/
def toU8Vec (v : List Bool) : List Byte :=
  ((List.range' 0 ((v.length + 7) / 8) 8).map fun chunkStart =>
    packBits v chunkStart (List.range 8) 0).reverse

/-! ### The bit layout of `to_u8_vec` -/

theorem getLsbD_bit {m : ℕ} (k : ℕ) (hm : m < 8) :
    ((1 <<< m : ℕ) : Byte).getLsbD k = decide (k = m) := by
  rw [Nat.one_shiftLeft]
  simp only [BitVec.natCast_eq_ofNat, BitVec.getLsbD_ofNat, Nat.testBit_two_pow]
  by_cases hkm : k = m
  · subst hkm; simp [hm]
  · simp [hkm, Ne.symm hkm]

theorem packBits_getLsbD (v : List Bool) (chunkStart k : ℕ) (m r : ℕ) (b : Byte)
    (h : m + r ≤ 8) :
    (packBits v chunkStart (List.range' m r) b).getLsbD k =
      (b.getLsbD k || decide (m ≤ k ∧ k < m + r) && v[chunkStart + k]?.getD false) := by
  induction r generalizing m b with
  | zero => simp [packBits]
  | succ r ih =>
    rw [List.range'_succ, packBits]
    cases hv : v[chunkStart + m]? with
    | none =>
      have hlen := List.getElem?_eq_none_iff.mp hv
      by_cases hk : m ≤ k
      · simp [List.getElem?_eq_none (show v.length ≤ chunkStart + k by omega)]
      · simp [hk]
    | some value =>
      simp only
      rw [ih (m + 1) _ (by omega)]
      have hset : (if value then b ||| 1 <<< m else b).getLsbD k =
          (b.getLsbD k || value && decide (k = m)) := by
        cases value
        · simp
        · rw [if_pos rfl, BitVec.getLsbD_or, getLsbD_bit k (by omega)]
          simp
      rw [hset]
      by_cases hkm : k = m
      · subst hkm
        simp [hv]
      · have : (m ≤ k ∧ k < m + (r + 1)) ↔ (m + 1 ≤ k ∧ k < m + 1 + r) := by omega
        simp [hkm, this]

theorem toU8Vec_length (v : List Bool) : (toU8Vec v).length = (v.length + 7) / 8 := by
  simp [toU8Vec]

theorem toU8Vec_getLsbD (v : List Bool) (j k : ℕ) (hk : k < 8) :
    ((toU8Vec v).getD j 0).getLsbD k =
      (decide (j < (v.length + 7) / 8) &&
        v[8 * ((v.length + 7) / 8 - 1 - j) + k]?.getD false) := by
  rw [List.getD_eq_getElem?_getD]
  by_cases hj : j < (v.length + 7) / 8
  · rw [toU8Vec, List.getElem?_reverse (by simpa using hj)]
    simp only [List.length_map, List.length_range', List.getElem?_map,
      List.getElem?_range' 0 8 (show (v.length + 7) / 8 - 1 - j < (v.length + 7) / 8 by omega),
      Option.map_some', Option.getD_some, List.range_eq_range', packBits_getLsbD _ _ _ 0 8 0 le_rfl]
    simp [hj, hk]
  · rw [List.getElem?_eq_none (by simp [toU8Vec_length]; omega)]
    simp [hj]

/-- The spec's unpacking of the buttons: least significant bit first, the byte order
reversed, `n` bits taken. -/
def unpackButtons (n : ℕ) (bytes : List Byte) : List Bool :=
  (List.range n).map fun i => (bytes.reverse.getD (i / 8) 0).getLsbD (i % 8)

theorem toU8Vec_bit (v : List Bool) (i : ℕ) (hi : i < v.length) :
    ((toU8Vec v).getD ((v.length + 7) / 8 - 1 - i / 8) 0).getLsbD (i % 8) = v[i] := by
  have hidx : 8 * ((v.length + 7) / 8 - 1 - ((v.length + 7) / 8 - 1 - i / 8)) + i % 8 = i := by
    omega
  have hj : (v.length + 7) / 8 - 1 - i / 8 < (v.length + 7) / 8 := by omega
  rw [toU8Vec_getLsbD _ _ _ (Nat.mod_lt _ (by decide)), hidx, List.getElem?_eq_getElem hi]
  simp [hj]

theorem toU8Vec_padding (v : List Bool) (j k : ℕ) (hk : k < 8)
    (hn : v.length ≤ 8 * ((v.length + 7) / 8 - 1 - j) + k) :
    ((toU8Vec v).getD j 0).getLsbD k = false := by
  rw [toU8Vec_getLsbD _ _ _ hk, List.getElem?_eq_none hn]
  simp

theorem unpackButtons_toU8Vec (v : List Bool) : unpackButtons v.length (toU8Vec v) = v := by
  apply List.ext_getElem (by simp [unpackButtons])
  intro i _ hi
  have hlt : i / 8 < (toU8Vec v).length := by rw [toU8Vec_length]; omega
  simp only [unpackButtons, List.getElem_map, List.getElem_range, List.getD_eq_getElem?_getD,
    List.getElem?_reverse hlt, toU8Vec_length]
  rw [← List.getD_eq_getElem?_getD]
  exact toU8Vec_bit v i hi

theorem toU8Vec_layout (v : List Bool) :
    (toU8Vec v).length = (v.length + 7) / 8 ∧
      (∀ i (hi : i < v.length),
        ((toU8Vec v).getD ((v.length + 7) / 8 - 1 - i / 8) 0).getLsbD (i % 8) = v[i]) ∧
      (∀ j k, k < 8 → v.length ≤ 8 * ((v.length + 7) / 8 - 1 - j) + k →
        ((toU8Vec v).getD j 0).getLsbD k = false) ∧
      unpackButtons v.length (toU8Vec v) = v :=
  ⟨toU8Vec_length v, toU8Vec_bit v, toU8Vec_padding v, unpackButtons_toU8Vec v⟩

def ipFromTeamNumber (team : BitVec 32) : Option String :=
  let t := team.toNat
  if t ≥ 100000 then none
  else if t < 100 then some s!"10.0.{t}.2"
  else some s!"10.{t / 100}.{t % 100}.2"

end DS.Util
