import Mathlib.Algebra.Group.Nat.Defs
import StandbyStream.Frame

/-!
# Frames on the wire

A frame on the wire is its timestamp in eight bytes, the most significant first, and then its
payload. Bytes and numbers of one width correspond (`ofBigEndian_bigEndian`,
`bigEndian_ofBigEndian`), so frames with a payload and messages of more than eight bytes do as well:
a message is read as a frame exactly if it is what that frame is written as (`ofWire_eq_ok`).
-/

namespace StandbyStream.Frame

/-! ## Numbers in bytes -/

@[simp] theorem length_bigEndian (width n : Nat) : (bigEndian width n).length = width := by
  induction width generalizing n with
  | zero => rfl
  | succ width ih => rw [bigEndian, List.length_cons, ih]

/-- The bytes before only add to the number. -/
theorem ofBigEndian_eq (acc : Nat) (bytes : Bytes) :
    ofBigEndian acc bytes = acc * 256 ^ bytes.length + ofBigEndian 0 bytes := by
  induction bytes generalizing acc with
  | nil => simp [ofBigEndian]
  | cons byte bytes ih =>
    have hcons (acc : Nat) :
        ofBigEndian acc (byte :: bytes) = ofBigEndian (acc * 256 + byte.toNat) bytes := rfl
    rw [hcons, hcons, ih, ih (0 * 256 + byte.toNat), List.length_cons, Nat.pow_succ', Nat.add_mul,
      Nat.mul_assoc, Nat.zero_mul, Nat.zero_add, Nat.add_assoc]

theorem ofBigEndian_cons (byte : UInt8) (bytes : Bytes) :
    ofBigEndian 0 (byte :: bytes) =
      byte.toNat * 256 ^ bytes.length + ofBigEndian 0 bytes := by
  have hcons : ofBigEndian 0 (byte :: bytes) = ofBigEndian (0 * 256 + byte.toNat) bytes := rfl
  rw [hcons, ofBigEndian_eq, Nat.zero_mul, Nat.zero_add]

theorem ofBigEndian_lt (bytes : Bytes) : ofBigEndian 0 bytes < 256 ^ bytes.length := by
  induction bytes with
  | nil => decide
  | cons byte bytes ih =>
    have hbyte : byte.toNat + 1 ≤ 256 := byte.toNat_lt
    calc
      ofBigEndian 0 (byte :: bytes)
        < byte.toNat * 256 ^ bytes.length + 256 ^ bytes.length := by
          rw [ofBigEndian_cons]
          exact Nat.add_lt_add_left ih _
      _ = (byte.toNat + 1) * 256 ^ bytes.length := (Nat.succ_mul _ _).symm
      _ ≤ 256 * 256 ^ bytes.length := Nat.mul_le_mul_right _ hbyte
      _ = 256 ^ (byte :: bytes).length := (Nat.pow_succ').symm

/-- A number that fits the width is read back. -/
theorem ofBigEndian_bigEndian {width n : Nat} (h : n < 256 ^ width) :
    ofBigEndian 0 (bigEndian width n) = n := by
  induction width generalizing n with
  | zero =>
    rw [Nat.pow_zero, Nat.lt_one_iff] at h
    rw [h]
    rfl
  | succ width ih =>
    have hpos : 0 < 256 ^ width := Nat.pow_pos (by decide)
    have hhigh : n / 256 ^ width < 256 := by
      rw [Nat.div_lt_iff_lt_mul hpos, ← Nat.pow_succ']
      exact h
    have hbyte : (UInt8.ofNat (n / 256 ^ width)).toNat = n / 256 ^ width :=
      UInt8.toNat_ofNat_of_lt' hhigh
    have hcons : bigEndian (width + 1) n =
        UInt8.ofNat (n / 256 ^ width) :: bigEndian width (n % 256 ^ width) := rfl
    rw [hcons, ofBigEndian_cons, length_bigEndian, ih (Nat.mod_lt _ hpos), hbyte,
      Nat.mul_comm, Nat.div_add_mod]

/-- Bytes are what the number that they stand for is written as. -/
theorem bigEndian_ofBigEndian (bytes : Bytes) :
    bigEndian bytes.length (ofBigEndian 0 bytes) = bytes := by
  induction bytes with
  | nil => rfl
  | cons byte bytes ih =>
    have hlow := ofBigEndian_lt bytes
    have hpos : 0 < 256 ^ bytes.length := Nat.zero_lt_of_lt hlow
    have hdiv : ofBigEndian 0 (byte :: bytes) / 256 ^ bytes.length = byte.toNat := by
      rw [ofBigEndian_cons, Nat.mul_comm, Nat.mul_add_div hpos, Nat.div_eq_of_lt hlow, Nat.add_zero]
    have hmod : ofBigEndian 0 (byte :: bytes) % 256 ^ bytes.length = ofBigEndian 0 bytes := by
      rw [ofBigEndian_cons, Nat.mul_comm, Nat.mul_add_mod, Nat.mod_eq_of_lt hlow]
    calc
      bigEndian (byte :: bytes).length (ofBigEndian 0 (byte :: bytes))
        = UInt8.ofNat (ofBigEndian 0 (byte :: bytes) / 256 ^ bytes.length) ::
            bigEndian bytes.length (ofBigEndian 0 (byte :: bytes) % 256 ^ bytes.length) := rfl
      _ = byte :: bytes := by rw [hdiv, hmod, UInt8.ofNat_toNat, ih]

/-! ## Frames -/

/-- The timestamp takes as many bytes as it has. -/
theorem length_toWire (frame : Frame) :
    frame.toWire.length = headerLength + frame.payload.length := by
  rw [toWire, List.length_append, length_bigEndian]

/-- Too short a message is refused with its length. -/
theorem ofWire_of_le {raw : Bytes} (h : raw.length ≤ headerLength) :
    ofWire raw = .error ⟨raw.length⟩ :=
  if_pos h

theorem ofWire_toWire {frame : Frame} (h : frame.payload ≠ []) :
    ofWire frame.toWire = .ok frame := by
  have hlong : ¬ frame.toWire.length ≤ headerLength := by
    have hpos := List.length_pos_iff.2 h
    rw [length_toWire]
    omega
  have hheader : (bigEndian headerLength frame.timestamp.toNat).length = headerLength :=
    length_bigEndian ..
  have hfits : frame.timestamp.toNat < 256 ^ headerLength := frame.timestamp.toNat_lt
  have htake : frame.toWire.take headerLength = bigEndian headerLength frame.timestamp.toNat :=
    List.take_left' hheader
  have hdrop : frame.toWire.drop headerLength = frame.payload := List.drop_left' hheader
  rw [ofWire, if_neg hlong, htake, hdrop, ofBigEndian_bigEndian hfits, UInt64.ofNat_toNat]

/-- A message is read as a frame exactly if it is what that frame, with a payload, is written as. -/
theorem ofWire_eq_ok {raw : Bytes} {frame : Frame} :
    ofWire raw = .ok frame ↔ frame.payload ≠ [] ∧ frame.toWire = raw := by
  constructor
  · intro h
    rw [ofWire] at h
    split at h
    · cases h
    next hlong =>
    cases h
    constructor
    · simpa [List.drop_eq_nil_iff] using hlong
    · have hheader : (raw.take headerLength).length = headerLength :=
        List.length_take_of_le (Nat.le_of_not_le hlong)
      have hlt := ofBigEndian_lt (raw.take headerLength)
      rw [hheader] at hlt
      have hstamp : (UInt64.ofNat (ofBigEndian 0 (raw.take headerLength))).toNat =
          ofBigEndian 0 (raw.take headerLength) := UInt64.toNat_ofNat_of_lt' hlt
      have hbytes := bigEndian_ofBigEndian (raw.take headerLength)
      rw [hheader] at hbytes
      rw [toWire, hstamp, hbytes]
      exact List.take_append_drop headerLength raw
  · rintro ⟨hpayload, rfl⟩
    exact ofWire_toWire hpayload

/-- Every message that is long enough is a frame. -/
theorem exists_ofWire {raw : Bytes} (h : headerLength < raw.length) :
    ∃ frame, ofWire raw = .ok frame :=
  ⟨_, if_neg (Nat.not_le.2 h)⟩

end StandbyStream.Frame
