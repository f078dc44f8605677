import Stablecoin.Proofs.Wire.RoundTrip

/-! # Lengths are read in their shortest spelling

A byte string is preceded by its length, which has four spellings, each longer than the one before.
Only the shortest that a length has is read, so lengths have one spelling each, and so have byte
strings.
-/

namespace Stablecoin

namespace Codec

private theorem limits :
    compactLimit 1 = 64 ∧ compactLimit 2 = 16384 ∧ compactLimit 4 = 1073741824 ∧
      Nat.pow 256 2 = 65536 ∧ Nat.pow 256 4 = UInt32.size ∧ UInt32.size = 4294967296 := by
  decide

/-- The two bits that tell the spellings apart are in the first byte. -/
private theorem toNat_first {width spelled : Nat} {first : UInt8} {bytes rest : Bytes}
    (written : first :: bytes = (littleEndian (width + 1)).encode spelled ++ rest) :
    first.toNat = spelled % 256 := by
  obtain rfl := (List.cons.inj written).1
  exact toNat_lowByte spelled

private theorem exists_first (width spelled : Nat) (rest : Bytes) :
    ∃ first bytes, (littleEndian (width + 1)).encode spelled ++ rest = first :: bytes ∧
      first.toNat = spelled % 256 :=
  ⟨_, _, rfl, toNat_lowByte spelled⟩

/-! ## The longer spellings

A longer spelling is read only of a length that has no shorter one. -/

theorem decodeMarked_encode {width mark length : Nat} (marked : mark < 4)
    (fits : 4 * length + mark < Nat.pow 256 width) (shorter : Nat) (rest : Bytes) :
    decodeMarked width shorter ((littleEndian width).encode (4 * length + mark) ++ rest) =
      if compactLimit shorter ≤ length then some (length, rest) else none := by
  have read := (exact_littleEndian width).readsBack fits rest
  have quotient : (4 * length + mark) / 4 = length := by omega
  simp only [decodeMarked, read, Option.bind_eq_bind, Option.bind_some, quotient]

theorem eq_encode_of_decodeMarked {width shorter length : Nat} {first : UInt8}
    {bytes rest : Bytes}
    (read : decodeMarked (width + 1) shorter (first :: bytes) = some (length, rest)) :
    compactLimit shorter ≤ length ∧ length < compactLimit (width + 1) ∧
      first :: bytes =
        (littleEndian (width + 1)).encode (4 * length + first.toNat % 4) ++ rest := by
  obtain ⟨⟨spelled, rest⟩, found, read⟩ := Option.bind_eq_some_iff.mp read
  obtain ⟨fits, written⟩ := (exact_littleEndian (width + 1) _ _ _).mp found
  obtain ⟨beyond, read⟩ := Option.ite_none_right_eq_some.mp read
  cases read
  have low := toNat_first written
  have whole : 4 * (spelled / 4) + first.toNat % 4 = spelled := by omega
  refine ⟨beyond, ?_, ?_⟩
  · have bytewise : Nat.pow 256 (width + 1) = Nat.pow 256 width * 256 := rfl
    unfold compactLimit
    omega
  · rw [whole]
    exact written

/-- The mark in the first byte says how a longer spelling is to be read. -/
theorem decode_compact_marked {width mark shorter length : Nat}
    (reads : ∀ (first : UInt8) (bytes : Bytes), first.toNat % 4 = mark →
      compact.decode (first :: bytes) = decodeMarked (width + 1) shorter (first :: bytes))
    (marked : mark < 4) (small : length < compactLimit (width + 1)) (rest : Bytes) :
    compact.decode ((littleEndian (width + 1)).encode (4 * length + mark) ++ rest) =
      if compactLimit shorter ≤ length then some (length, rest) else none := by
  have fits : 4 * length + mark < Nat.pow 256 (width + 1) := by
    unfold compactLimit at small
    omega
  obtain ⟨first, bytes, written, low⟩ := exists_first width (4 * length + mark) rest
  rw [← decodeMarked_encode marked fits, written]
  exact reads first bytes (by omega)

private theorem reads_two (first : UInt8) (bytes : Bytes) (mode : first.toNat % 4 = 1) :
    compact.decode (first :: bytes) = decodeMarked 2 1 (first :: bytes) := by
  simp only [compact, mode]

private theorem reads_four (first : UInt8) (bytes : Bytes) (mode : first.toNat % 4 = 2) :
    compact.decode (first :: bytes) = decodeMarked 4 2 (first :: bytes) := by
  simp only [compact, mode]

theorem decode_compact_five {length : Nat} (fits : length < UInt32.size) (rest : Bytes) :
    compact.decode (3 :: (littleEndian 4).encode length ++ rest) =
      if compactLimit 4 ≤ length then some (length, rest) else none := by
  have fitsWord : length < Nat.pow 256 4 := fits
  have read := (exact_littleEndian 4).readsBack fitsWord rest
  have mode : (3 : UInt8).toNat % 4 = 3 := rfl
  simp only [List.cons_append, compact, mode, read, Option.bind_eq_bind, Option.bind_some,
    reduceIte]

/-! ## The shortest spelling -/

/-- The spelling of a length: the shortest of four ways, told apart by two bits. -/
inductive LengthSpelling : Nat → Bytes → Prop
  | one {length : Nat} : length < compactLimit 1 →
      LengthSpelling length ((littleEndian 1).encode (4 * length))
  | two {length : Nat} : compactLimit 1 ≤ length → length < compactLimit 2 →
      LengthSpelling length ((littleEndian 2).encode (4 * length + 1))
  | four {length : Nat} : compactLimit 2 ≤ length → length < compactLimit 4 →
      LengthSpelling length ((littleEndian 4).encode (4 * length + 2))
  | five {length : Nat} : compactLimit 4 ≤ length → length < UInt32.size →
      LengthSpelling length (3 :: (littleEndian 4).encode length)

theorem LengthSpelling.eq_encode {length : Nat} {spelled : Bytes}
    (spelling : LengthSpelling length spelled) :
    length < UInt32.size ∧ spelled = compact.encode length := by
  have limits := limits
  cases spelling with
  | one small => exact ⟨by omega, by simp only [compact, if_pos small]⟩
  | two beyond small =>
    exact ⟨by omega, by simp only [compact, if_neg (Nat.not_lt.mpr beyond), if_pos small]⟩
  | four beyond small =>
    have beyondOne : ¬ length < compactLimit 1 := by omega
    refine ⟨by omega, ?_⟩
    simp only [compact, if_neg beyondOne, if_neg (Nat.not_lt.mpr beyond), if_pos small]
  | five beyond fits =>
    have beyondOne : ¬ length < compactLimit 1 := by omega
    have beyondTwo : ¬ length < compactLimit 2 := by omega
    refine ⟨fits, ?_⟩
    simp only [compact, if_neg beyondOne, if_neg beyondTwo, if_neg (Nat.not_lt.mpr beyond)]

theorem LengthSpelling.encode {length : Nat} (fits : length < UInt32.size) :
    LengthSpelling length (compact.encode length) := by
  simp only [compact]
  split
  · next small => exact .one small
  · next beyondOne =>
    split
    · next small => exact .two (Nat.not_lt.mp beyondOne) small
    · next beyondTwo =>
      split
      · next small => exact .four (Nat.not_lt.mp beyondTwo) small
      · next beyondFour => exact .five (Nat.not_lt.mp beyondFour) fits

theorem LengthSpelling.decode {length : Nat} {spelled : Bytes}
    (spelling : LengthSpelling length spelled) (rest : Bytes) :
    compact.decode (spelled ++ rest) = some (length, rest) := by
  have limits := limits
  cases spelling with
  | one small =>
    have first := toNat_lowByte (4 * length)
    have mode : (4 * length % 256).toUInt8.toNat % 4 = 0 := by omega
    have quotient : (4 * length % 256).toUInt8.toNat / 4 = length := by omega
    change compact.decode ((4 * length % 256).toUInt8 :: rest) = _
    simp only [compact, mode, quotient]
  | two beyond small =>
    exact (decode_compact_marked reads_two (by decide) small rest).trans (if_pos beyond)
  | four beyond small =>
    exact (decode_compact_marked reads_four (by decide) small rest).trans (if_pos beyond)
  | five beyond fits => rw [decode_compact_five fits, if_pos beyond]

theorem LengthSpelling.of_decode {bytes rest : Bytes} {length : Nat}
    (read : compact.decode bytes = some (length, rest)) :
    ∃ spelled, LengthSpelling length spelled ∧ bytes = spelled ++ rest := by
  have limits := limits
  cases bytes with
  | nil => contradiction
  | cons first bytes =>
    have bound := first.toNat_lt
    simp only [compact] at read
    split at read
    · next mode =>
      cases read
      refine ⟨_, .one (by omega), ?_⟩
      have whole : 4 * (first.toNat / 4) = first.toNat := by omega
      have byte : (first.toNat % 256).toUInt8 = first := by
        rw [Nat.mod_eq_of_lt bound]
        exact UInt8.ofNat_toNat
      rw [whole]
      exact congrArg (· :: _) byte.symm
    · next mode =>
      obtain ⟨beyond, small, written⟩ := eq_encode_of_decodeMarked read
      rw [mode] at written
      exact ⟨_, .two beyond small, written⟩
    · next mode =>
      obtain ⟨beyond, small, written⟩ := eq_encode_of_decodeMarked read
      rw [mode] at written
      exact ⟨_, .four beyond small, written⟩
    · obtain ⟨rfl, read⟩ := Option.ite_none_right_eq_some.mp read
      obtain ⟨⟨spelled, rest⟩, found, read⟩ := Option.bind_eq_some_iff.mp read
      obtain ⟨fits, written⟩ := (exact_littleEndian 4 _ _ _).mp found
      obtain ⟨beyond, read⟩ := Option.ite_none_right_eq_some.mp read
      cases read
      refine ⟨_, .five beyond fits, ?_⟩
      rw [written]
      rfl

/-- A length has its shortest spelling alone, and only lengths of 32 bits have one. -/
theorem exact_compact : compact.Exact (· < UInt32.size) := by
  intro bytes length rest
  constructor
  · intro read
    obtain ⟨spelled, spelling, rfl⟩ := LengthSpelling.of_decode read
    obtain ⟨fits, rfl⟩ := spelling.eq_encode
    exact ⟨fits, rfl⟩
  · rintro ⟨fits, rfl⟩
    exact (LengthSpelling.encode fits).decode rest

/-- Exactly the byte strings whose number of bytes is a length have a spelling. -/
theorem exact_bytes : bytes.Exact (·.length < UInt32.size) := by
  intro encoded value rest
  simp only [bytes, Option.bind_eq_bind, Option.bind_eq_some_iff, Prod.exists,
    Option.ite_none_right_eq_some, Option.some.injEq, Prod.mk.injEq]
  constructor
  · rintro ⟨length, following, read, enough, rfl, rfl⟩
    obtain ⟨fits, rfl⟩ := (exact_compact _ _ _).mp read
    rw [List.length_take_of_le enough, List.append_assoc, List.take_append_drop]
    exact ⟨fits, rfl⟩
  · rintro ⟨fits, rfl⟩
    rw [List.append_assoc]
    refine ⟨_, _, exact_compact.readsBack fits _, ?_, List.take_left, List.drop_left⟩
    rw [List.length_append]
    exact Nat.le_add_right _ _

/-- What starts with no length: one that is spelled too long, or the mark of a spelling that no
length has. -/
inductive MisspeltLength : Bytes → Prop
  | two {length : Nat} (rest : Bytes) : length < compactLimit 1 →
      MisspeltLength ((littleEndian 2).encode (4 * length + 1) ++ rest)
  | four {length : Nat} (rest : Bytes) : length < compactLimit 2 →
      MisspeltLength ((littleEndian 4).encode (4 * length + 2) ++ rest)
  | five {length : Nat} (rest : Bytes) : length < compactLimit 4 →
      MisspeltLength (3 :: (littleEndian 4).encode length ++ rest)
  | wider {first : UInt8} (rest : Bytes) : first.toNat % 4 = 3 → first ≠ 3 →
      MisspeltLength (first :: rest)

theorem MisspeltLength.decode {spelled : Bytes} (misspelt : MisspeltLength spelled) :
    compact.decode spelled = none := by
  have limits := limits
  cases misspelt with
  | @two length rest small =>
    have fits : length < compactLimit 2 := by omega
    exact (decode_compact_marked reads_two (by decide) fits rest).trans
      (if_neg (Nat.not_le.mpr small))
  | @four length rest small =>
    have fits : length < compactLimit 4 := by omega
    exact (decode_compact_marked reads_four (by decide) fits rest).trans
      (if_neg (Nat.not_le.mpr small))
  | five rest small => rw [decode_compact_five (by omega), if_neg (Nat.not_le.mpr small)]
  | wider rest mode other => simp only [compact, mode, if_neg other]

/-- No byte string is written in such a way. -/
theorem MisspeltLength.ne_append {spelled value : Bytes} (misspelt : MisspeltLength spelled)
    (fits : value.length < UInt32.size) (rest : Bytes) : spelled ≠ bytes.encode value ++ rest := by
  intro written
  have read := exact_compact.readsBack fits (value ++ rest)
  rw [← List.append_assoc] at read
  change compact.decode (bytes.encode value ++ rest) = _ at read
  rw [← written, misspelt.decode] at read
  contradiction

end Codec

end Stablecoin
