import Mathlib.Data.List.Forall2
import Stablecoin.Packet.Basic
import Stablecoin.Wire.Codec

/-! # Reading exactly what was written

A codec is exact on the values that fit it when just those bytes are read as a value, with some rest
left over, that are written for the value and followed by this rest. Codecs that are built from
others inherit exactness, so each combinator has one lemma. An exact codec gives every value that
fits one spelling of its own, and nothing is read from a spelling that is broken off. A local account
is thereby spelled by the bytes of its word, and by no others.
-/

namespace Stablecoin

namespace Codec

variable {α β : Type} {codec : Codec α} {other : Codec β}

/-- What the codec writes for a value is read as this value, and what follows is left over. -/
def ReadsBack (codec : Codec α) (value : α) : Prop :=
  ∀ rest : Bytes, codec.decode (codec.encode value ++ rest) = some (value, rest)

/-- A value that is read back takes up all of its bytes. -/
theorem ReadsBack.decodeAll?_encode {value : α} (back : codec.ReadsBack value) :
    codec.decodeAll? (codec.encode value) = some value := by
  have read := back []
  rw [List.append_nil] at read
  rw [decodeAll?, read]

/-- The codec reads what it writes for values that fit, and nothing else. -/
def Exact (codec : Codec α) (Fits : α → Prop) : Prop :=
  ∀ (bytes : Bytes) (value : α) (rest : Bytes),
    codec.decode bytes = some (value, rest) ↔ Fits value ∧ bytes = codec.encode value ++ rest

namespace Exact

variable {Fits : α → Prop} {OtherFits : β → Prop} {value : α}

theorem readsBack (exact : codec.Exact Fits) (fits : Fits value) : codec.ReadsBack value :=
  fun rest => (exact _ value rest).mpr ⟨fits, rfl⟩

theorem decodeAll?_eq_some_iff (exact : codec.Exact Fits) {bytes : Bytes} :
    codec.decodeAll? bytes = some value ↔ Fits value ∧ bytes = codec.encode value := by
  constructor
  · intro read
    unfold decodeAll? at read
    split at read
    · next found =>
      cases read
      rw [← List.append_nil (codec.encode value)]
      exact (exact _ _ _).mp found
    · contradiction
  · rintro ⟨fits, rfl⟩
    exact (exact.readsBack fits).decodeAll?_encode

/-- Bytes are refused when they start with no spelling. -/
theorem decode_eq_none (exact : codec.Exact Fits) {bytes : Bytes}
    (unwritten : ∀ value rest, Fits value → bytes ≠ codec.encode value ++ rest) :
    codec.decode bytes = none := by
  cases read : codec.decode bytes with
  | none => rfl
  | some found =>
    obtain ⟨value, rest⟩ := found
    obtain ⟨fits, written⟩ := (exact _ _ _).mp read
    exact absurd written (unwritten value rest fits)

/-- Two spellings that start alike are the same one. -/
theorem eq_of_append_eq (exact : codec.Exact Fits) {former later : α} {left right : Bytes}
    (fits : Fits former) (also : Fits later)
    (same : codec.encode former ++ left = codec.encode later ++ right) :
    former = later ∧ left = right := by
  have read := exact.readsBack fits left
  rw [same, exact.readsBack also right] at read
  cases read
  exact ⟨rfl, rfl⟩

/-- Nothing is read from a spelling that is broken off. -/
theorem decode_of_proper_prefix (exact : codec.Exact Fits) {front back : Bytes}
    (fits : Fits value) (written : codec.encode value = front ++ back) (broken : back ≠ []) :
    codec.decode front = none := by
  apply exact.decode_eq_none
  rintro early rest also rfl
  rw [← List.append_nil (codec.encode value), List.append_assoc] at written
  have ended := (exact.eq_of_append_eq fits also written).2
  exact broken (List.append_eq_nil_iff.mp ended.symm).2

/-! ## Combinators -/

theorem pair (first : codec.Exact Fits) (second : other.Exact OtherFits) :
    (codec.pair other).Exact fun value => Fits value.1 ∧ OtherFits value.2 := by
  rintro bytes ⟨left, right⟩ rest
  simp only [Codec.pair, Option.bind_eq_bind, Option.pure_def, Option.bind_eq_some_iff,
    Option.some.injEq, Prod.exists, Prod.mk.injEq]
  constructor
  · rintro ⟨left, middle, readLeft, right, rest, readRight, ⟨rfl, rfl⟩, rfl⟩
    obtain ⟨fitsLeft, rfl⟩ := (first _ _ _).mp readLeft
    obtain ⟨fitsRight, rfl⟩ := (second _ _ _).mp readRight
    exact ⟨⟨fitsLeft, fitsRight⟩, (List.append_assoc ..).symm⟩
  · rintro ⟨⟨fitsLeft, fitsRight⟩, rfl⟩
    rw [List.append_assoc]
    exact ⟨left, _, first.readsBack fitsLeft _, right, rest, second.readsBack fitsRight _,
      ⟨rfl, rfl⟩, rfl⟩

/-- A kind that fits is followed by values that fit the kind. -/
theorem tagged {values : α → Codec β} {ValuesFit : α → β → Prop} (kinds : codec.Exact Fits)
    (exact : ∀ kind, (values kind).Exact (ValuesFit kind)) :
    (codec.tagged values).Exact fun value => Fits value.1 ∧ ValuesFit value.1 value.2 := by
  rintro bytes ⟨kind, value⟩ rest
  simp only [Codec.tagged, Option.bind_eq_bind, Option.pure_def, Option.bind_eq_some_iff,
    Option.some.injEq, Prod.exists, Prod.mk.injEq]
  constructor
  · rintro ⟨kind, middle, readKind, value, rest, readValue, ⟨rfl, rfl⟩, rfl⟩
    obtain ⟨fitsKind, rfl⟩ := (kinds _ _ _).mp readKind
    obtain ⟨fitsValue, rfl⟩ := (exact kind _ _ _).mp readValue
    exact ⟨⟨fitsKind, fitsValue⟩, (List.append_assoc ..).symm⟩
  · rintro ⟨⟨fitsKind, fitsValue⟩, rfl⟩
    rw [List.append_assoc]
    exact ⟨kind, _, kinds.readsBack fitsKind _, value, rest, (exact kind).readsBack fitsValue _,
      ⟨rfl, rfl⟩, rfl⟩

/-- Values are seen as others exactly when those that fit and those that they are seen as are in
one-to-one correspondence. -/
theorem viaPartial {view : β → α} {ofView? : α → Option β} (exact : codec.Exact Fits)
    (seen : ∀ form value, Fits form ∧ ofView? form = some value ↔
      OtherFits value ∧ view value = form) :
    (codec.viaPartial view ofView?).Exact OtherFits := by
  intro bytes value rest
  simp only [Codec.viaPartial, Option.bind_eq_bind, Option.pure_def, Option.bind_eq_some_iff,
    Option.some.injEq, Prod.exists, Prod.mk.injEq]
  constructor
  · rintro ⟨form, rest, read, value, found, rfl, rfl⟩
    obtain ⟨fitsForm, rfl⟩ := (exact _ _ _).mp read
    obtain ⟨fits, rfl⟩ := (seen form value).mp ⟨fitsForm, found⟩
    exact ⟨fits, rfl⟩
  · rintro ⟨fits, rfl⟩
    obtain ⟨fitsForm, found⟩ := (seen (view value) value).mpr ⟨fits, rfl⟩
    exact ⟨view value, rest, exact.readsBack fitsForm rest, value, found, rfl, rfl⟩

theorem via {view : β → α} {ofView : α → β} (exact : codec.Exact Fits)
    (seen : ∀ form value, Fits form ∧ ofView form = value ↔ OtherFits value ∧ view value = form) :
    (codec.via view ofView).Exact OtherFits :=
  exact.viaPartial fun form value => by
    rw [Function.comp_apply, Option.some.injEq]
    exact seen form value

end Exact

/-! ## Words, flags and kinds -/

variable {Fits : α → Prop} {OtherFits : β → Prop}

theorem exact_byte : byte.Exact fun _ => True := by
  intro bytes value rest
  cases bytes with
  | nil => simp [byte]
  | cons first bytes => simp [byte]

theorem toNat_lowByte (value : Nat) : (value % 256).toUInt8.toNat = value % 256 :=
  UInt8.toNat_ofNat_of_lt (Nat.mod_lt value (by decide))

/-- Exactly the numbers that fit the width have a spelling. -/
theorem exact_littleEndian (width : Nat) : (littleEndian width).Exact (· < Nat.pow 256 width) := by
  induction width with
  | zero =>
    intro bytes value rest
    change some (0, bytes) = some (value, rest) ↔ value < 1 ∧ bytes = rest
    rw [Option.some.injEq, Prod.mk.injEq, Nat.lt_one_iff, eq_comm (a := 0)]
  | succ width ih =>
    intro bytes value rest
    change _ ↔ value < Nat.pow 256 width * 256 ∧
      bytes = (value % 256).toUInt8 :: ((littleEndian width).encode (value / 256) ++ rest)
    cases bytes with
    | nil => simp [littleEndian]
    | cons low bytes =>
      simp only [littleEndian, Option.bind_eq_bind, Option.pure_def, Option.bind_eq_some_iff,
        Option.some.injEq, Prod.exists, Prod.mk.injEq, List.cons.injEq]
      constructor
      · rintro ⟨high, rest, read, rfl, rfl⟩
        obtain ⟨fits, rfl⟩ := (ih _ _ _).mp read
        have bound := low.toNat_lt
        have split : (low.toNat + 256 * high) % 256 = low.toNat ∧
          (low.toNat + 256 * high) / 256 = high := by omega
        rw [split.1, split.2]
        exact ⟨by omega, UInt8.ofNat_toNat.symm, rfl⟩
      · rintro ⟨fits, rfl, rfl⟩
        have high : value / 256 < Nat.pow 256 width :=
          Nat.div_lt_of_lt_mul (Nat.mul_comm (Nat.pow 256 width) 256 ▸ fits)
        refine ⟨value / 256, rest, ih.readsBack high rest, ?_, rfl⟩
        rw [toNat_lowByte, Nat.mod_add_div]

theorem exact_word32 : word32.Exact fun _ => True := by
  refine (exact_littleEndian 4).via fun form word => ?_
  constructor
  · rintro ⟨fits, rfl⟩
    exact ⟨trivial, UInt32.toNat_ofNat_of_lt fits⟩
  · rintro ⟨_, rfl⟩
    exact ⟨word.toNat_lt, UInt32.ofNat_toNat⟩

theorem exact_word64 : word64.Exact fun _ => True := by
  refine (exact_littleEndian 8).via fun form word => ?_
  constructor
  · rintro ⟨fits, rfl⟩
    exact ⟨trivial, UInt64.toNat_ofNat_of_lt fits⟩
  · rintro ⟨_, rfl⟩
    exact ⟨word.toNat_lt, UInt64.ofNat_toNat⟩

theorem exact_flag : flag.Exact fun _ => True := by
  refine exact_byte.viaPartial fun form value => ?_
  simp only [true_and]
  constructor
  · intro found
    split at found
    · cases found
      rfl
    · cases found
      rfl
    · contradiction
  · rintro rfl
    cases value <;> rfl

/-- What is absent fits always. -/
theorem exact_option (exact : codec.Exact Fits) :
    codec.option.Exact fun value? => ∀ value ∈ value?, Fits value := by
  intro bytes value? rest
  simp only [Codec.option, Option.bind_eq_bind, Option.pure_def, Option.bind_eq_some_iff,
    Prod.exists]
  constructor
  · rintro ⟨present, middle, readFlag, read⟩
    obtain ⟨_, rfl⟩ := (exact_flag _ _ _).mp readFlag
    cases present with
    | false =>
      cases read
      exact ⟨nofun, rfl⟩
    | true =>
      obtain ⟨⟨value, rest⟩, readValue, found⟩ := Option.bind_eq_some_iff.mp read
      cases found
      obtain ⟨fits, rfl⟩ := (exact _ _ _).mp readValue
      exact ⟨fun _ same => Option.some.inj same ▸ fits, (List.append_assoc ..).symm⟩
  · rintro ⟨fits, rfl⟩
    cases value? with
    | none => exact ⟨false, rest, exact_flag.readsBack trivial rest, rfl⟩
    | some value =>
      rw [List.append_assoc]
      refine ⟨true, codec.encode value ++ rest, exact_flag.readsBack trivial _, ?_⟩
      exact Option.bind_eq_some_iff.mpr ⟨_, exact.readsBack (fits value rfl) rest, rfl⟩

/-- In a list that names no kind twice, the kinds are the first of as many bytes. -/
theorem exact_position [DecidableEq α] {kinds : List α} (nodup : kinds.Nodup)
    (few : kinds.length ≤ 256) : (position kinds).Exact (· ∈ kinds) := by
  refine exact_byte.viaPartial fun index kind => ?_
  rw [true_and]
  constructor
  · intro found
    obtain ⟨bound, rfl⟩ := List.getElem?_eq_some_iff.mp found
    refine ⟨List.getElem_mem bound, ?_⟩
    rw [nodup.idxOf_getElem]
    exact UInt8.ofNat_toNat
  · rintro ⟨member, rfl⟩
    have bound := List.idxOf_lt_length_of_mem member
    have word : (kinds.idxOf kind).toUInt8.toNat = kinds.idxOf kind :=
      UInt8.toNat_ofNat_of_lt (Nat.lt_of_lt_of_le bound few)
    rw [word]
    exact List.getElem?_idxOf member

/-- As many values as there are shapes fit, each its shape. -/
theorem exact_sequence {σ : Type} {codecOf : σ → Codec α} {ShapeFits : σ → α → Prop}
    (exact : ∀ shape, (codecOf shape).Exact (ShapeFits shape)) (shapes : List σ) :
    (sequence (shapes.map codecOf)).Exact (List.Forall₂ ShapeFits shapes) := by
  induction shapes with
  | nil =>
    intro bytes values rest
    change some ([], bytes) = some (values, rest) ↔ _
    rw [Option.some.injEq, Prod.mk.injEq, List.forall₂_nil_left_iff, eq_comm (a := [])]
    refine and_congr_right ?_
    rintro rfl
    rfl
  | cons shape shapes ih =>
    intro bytes values rest
    simp only [List.map_cons, sequence, Option.bind_eq_bind, Option.pure_def,
      Option.bind_eq_some_iff, Option.some.injEq, Prod.exists, Prod.mk.injEq]
    constructor
    · rintro ⟨value, middle, read, values, rest, readRest, rfl, rfl⟩
      obtain ⟨fits, rfl⟩ := (exact shape _ _ _).mp read
      obtain ⟨fitRest, rfl⟩ := (ih _ _ _).mp readRest
      exact ⟨.cons fits fitRest, (List.append_assoc ..).symm⟩
    · rintro ⟨fits, rfl⟩
      obtain ⟨value, others, fitsFirst, fitRest, rfl⟩ := List.forall₂_cons_left_iff.mp fits
      dsimp only
      rw [List.append_assoc]
      exact ⟨value, _, (exact shape).readsBack fitsFirst _, others, rest,
        ih.readsBack fitRest rest, rfl, rfl⟩

end Codec

namespace Account

/-- A local address is spelled by the bytes of its word, and by no others. -/
theorem ofBytes?_eq_some_iff {address : Bytes} {who : Account} :
    ofBytes? address = some who ↔ address = Codec.word64.encode who := by
  rw [ofBytes?, Codec.exact_word64.decodeAll?_eq_some_iff, true_and]

/-- An account is spelled by the bytes of its word. -/
theorem ofBytes?_encode (who : Account) : ofBytes? (Codec.word64.encode who) = some who :=
  ofBytes?_eq_some_iff.mpr rfl

end Account

namespace Packet

/-- A packet spells a local account as its sender or as its receiver. -/
def Spells (packet : Packet) (who : Account) : Prop :=
  packet.sender = Codec.word64.encode who ∨ packet.receiver = Codec.word64.encode who

instance {packet : Packet} {who : Account} : Decidable (packet.Spells who) :=
  inferInstanceAs (Decidable (_ ∨ _))

theorem spells_iff {packet : Packet} {who : Account} :
    packet.Spells who ↔
      Account.ofBytes? packet.sender = some who ∨ Account.ofBytes? packet.receiver = some who := by
  rw [Spells, Account.ofBytes?_eq_some_iff, Account.ofBytes?_eq_some_iff]

end Packet

end Stablecoin
