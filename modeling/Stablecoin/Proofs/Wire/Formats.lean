import Stablecoin.Proofs.Wire.Length
import Stablecoin.Wire.Formats

/-! # The formats are canonical

Everything that is written is read back, and nothing else is read: packets, acknowledgements, minter
records, calls, events and refusals have one spelling each. Hence bytes that are not written for any
value are refused, be it for an index that stands for nothing, for a byte that is no flag or for a
length that is spelled too long.
-/

namespace Stablecoin

namespace Codec

variable {α : Type} {codec : Codec α} {Fits OtherFits : α → Prop}

/-- Every value that fits has one spelling, which no other shares and no part of which is read. -/
structure Canonical (codec : Codec α) (Fits : α → Prop) : Prop where
  /-- What is written for a value is read as the value, and what follows is left over. -/
  readsBack : ∀ value, Fits value → ∀ rest,
    codec.decode (codec.encode value ++ rest) = some (value, rest)
  /-- Bytes that are read are what is written for the value, and what is left over. -/
  written : ∀ bytes value rest, codec.decode bytes = some (value, rest) →
    Fits value ∧ bytes = codec.encode value ++ rest
  oneSpelling : ∀ value, Fits value → ∀ bytes,
    codec.decode bytes = some (value, []) ↔ bytes = codec.encode value
  notShared : ∀ value other, Fits value → Fits other →
    codec.encode value = codec.encode other → value = other
  prefixFree : ∀ value, Fits value → ∀ front back, codec.encode value = front ++ back →
    back ≠ [] → codec.decode front = none

theorem Exact.canonical (exact : codec.Exact Fits) : codec.Canonical Fits where
  readsBack _ fits := exact.readsBack fits
  written _ _ _ := (exact _ _ _).mp
  oneSpelling value fits bytes := by
    rw [exact, List.append_nil]
    exact and_iff_right fits
  notShared value other fits also same :=
    (exact.eq_of_append_eq fits also (congrArg (· ++ []) same)).1
  prefixFree _ fits _ _ := exact.decode_of_proper_prefix fits

theorem Exact.congr (exact : codec.Exact Fits) (same : ∀ value, Fits value ↔ OtherFits value) :
    codec.Exact OtherFits := by
  intro bytes value rest
  rw [exact, same]

end Codec

/-! ## Packets, acknowledgements and minter records -/

/-- Both addresses have a length that can be spelled. -/
def Packet.Encodable (packet : Packet) : Prop :=
  packet.sender.length < UInt32.size ∧ packet.receiver.length < UInt32.size

instance (packet : Packet) : Decidable packet.Encodable := inferInstanceAs (Decidable (_ ∧ _))

/-- The bytes that an acknowledgement carries. -/
def Ack.carried : Ack → Bytes
  | .success result => result
  | .failure reason => reason

/-- What is carried has a length that can be spelled. -/
def Ack.Encodable (ack : Ack) : Prop := ack.carried.length < UInt32.size

theorem Ack.encode_eq (ack : Ack) :
    codec.encode ack =
      (Codec.position [true, false]).encode ack.isSuccess ++ Codec.bytes.encode ack.carried := by
  cases ack <;> rfl

open Codec in
theorem Packet.exact_codec : codec.Exact Encodable := by
  refine (exact_word32.pair (exact_word64.pair (exact_bytes.pair exact_bytes))).via ?_
  rintro ⟨denomination, amount, sender, receiver⟩ packet
  constructor
  · rintro ⟨⟨_, _, fits⟩, rfl⟩
    exact ⟨fits, rfl⟩
  · rintro ⟨fits, same⟩
    cases same
    exact ⟨⟨trivial, trivial, fits⟩, rfl⟩

open Codec in
theorem Ack.exact_codec : codec.Exact Encodable := by
  refine ((exact_position (by decide) (by decide)).pair exact_bytes).via ?_
  rintro ⟨taken, carried⟩ ack
  constructor
  · rintro ⟨⟨_, fits⟩, rfl⟩
    cases taken <;> exact ⟨fits, rfl⟩
  · rintro ⟨fits, same⟩
    cases ack <;> cases same <;> exact ⟨⟨by simp, fits⟩, rfl⟩

open Codec in
theorem MinterRecord.exact_codec : codec.Exact fun _ => True := by
  refine (exact_word64.pair exact_flag).via ?_
  rintro ⟨allowance, active⟩ record
  constructor
  · rintro ⟨_, rfl⟩
    exact ⟨trivial, rfl⟩
  · rintro ⟨_, same⟩
    cases same
    exact ⟨⟨trivial, trivial⟩, rfl⟩

/-! ## Calls, events and refusals -/

theorem Action.mem_all (action : Action) : action ∈ all :=
  List.mem_of_getElem? (ofIndex?_eq_some_iff.mpr rfl)

theorem Action.exact_codec : codec.Exact fun _ => True :=
  (Codec.exact_position (by decide) (by decide)).congr fun action =>
    iff_of_true action.mem_all trivial

theorem Refusal.mem_all (refusal : Refusal) : refusal ∈ all :=
  List.mem_of_getElem? (ofCode?_eq_some_iff.mpr rfl)

theorem Refusal.exact_codec : codec.Exact fun _ => True :=
  (Codec.exact_position (by decide) (by decide)).congr fun refusal =>
    iff_of_true refusal.mem_all trivial

/-- A call is read off its index and as many words as it has arguments. -/
theorem Call.exact_codec : codec.Exact fun _ => True := by
  refine (Action.exact_codec.tagged fun action =>
    Codec.exact_sequence (fun _ => Codec.exact_word64) action.parameters).viaPartial ?_
  rintro ⟨action, arguments⟩ call
  rw [ofArguments?_eq_some_iff, Prod.mk.injEq]
  constructor
  · rintro ⟨_, same⟩
    exact ⟨trivial, same⟩
  · rintro ⟨_, rfl, rfl⟩
    refine ⟨⟨trivial, ?_⟩, rfl, rfl⟩
    exact List.forall₂_iff_zip.mpr ⟨call.length_arguments.symm, fun _ => trivial⟩

theorem FieldShape.exact_codec (shape : FieldShape) : shape.codec.Exact (·.shape = shape) := by
  cases shape with
  | required =>
    refine Codec.exact_word64.via fun word field => ?_
    cases field <;> simp [Event.Field.shape, Event.Field.word?, eq_comm]
  | optional =>
    refine (Codec.exact_option Codec.exact_word64).via fun word? field => ?_
    cases field <;> simp [Event.Field.shape, Event.Field.word?, eq_comm]

/-- An event is read off its index and fields of the shapes that it announces. -/
theorem Event.exact_codec : codec.Exact fun _ => True := by
  refine (Action.exact_codec.tagged fun action =>
    Codec.exact_sequence (fun named => named.2.exact_codec) action.eventFields).viaPartial ?_
  rintro ⟨action, fields⟩ event
  rw [ofFields?_eq_some_iff, Prod.mk.injEq]
  constructor
  · rintro ⟨_, same⟩
    exact ⟨trivial, same⟩
  · rintro ⟨_, rfl, rfl⟩
    refine ⟨⟨trivial, ?_⟩, rfl, rfl⟩
    have shapes := event.map_shape_fields
    rw [← List.forall₂_eq_eq_eq, List.forall₂_map_left_iff, List.forall₂_map_right_iff] at shapes
    exact shapes.flip

/-! ## Bytes that nothing is written with -/

namespace Codec

variable {α : Type} {first : UInt8} {bytes rest : Bytes}

theorem toNat_lt_of_position [DecidableEq α] {kinds : List α} {kind : α} (member : kind ∈ kinds)
    (few : kinds.length ≤ 256)
    (written : first :: bytes = (position kinds).encode kind ++ rest) :
    first.toNat < kinds.length := by
  have bound := List.idxOf_lt_length_of_mem member
  have same : first = (kinds.idxOf kind).toUInt8 := (List.cons.inj written).1
  rw [same, UInt8.toNat_ofNat_of_lt' (Nat.lt_of_lt_of_le bound few)]
  exact bound

theorem toNat_lt_of_flag {value : Bool} (written : first :: bytes = flag.encode value ++ rest) :
    first.toNat < 2 := by
  obtain rfl := (List.cons.inj written).1
  cases value <;> decide

theorem toNat_lt_of_option {codec : Codec α} {value? : Option α}
    (written : first :: bytes = codec.option.encode value? ++ rest) : first.toNat < 2 := by
  cases value? with
  | none => exact toNat_lt_of_flag written
  | some value => exact toNat_lt_of_flag (written.trans (List.append_assoc ..))

end Codec

/-- A value that is written after the position of its kind is not read after a number that is the
position of none. -/
theorem Codec.Exact.decode_of_unknown {α κ : Type} [DecidableEq κ] {codec : Codec α}
    {Fits : α → Prop} {kinds : List κ} (exact : codec.Exact Fits) (few : kinds.length ≤ 256)
    (kindOf : α → κ) (listed : ∀ value, kindOf value ∈ kinds)
    (starts : ∀ value, ∃ tail, codec.encode value = (position kinds).encode (kindOf value) ++ tail)
    {index : UInt8} (unknown : kinds.length ≤ index.toNat) (rest : Bytes) :
    codec.decode (index :: rest) = none := by
  apply exact.decode_eq_none
  intro value following _ written
  obtain ⟨tail, begun⟩ := starts value
  rw [begun, List.append_assoc] at written
  exact absurd (toNat_lt_of_position (listed value) few written) (Nat.not_lt.mpr unknown)

section Unknown

variable {index : UInt8} (rest : Bytes)

theorem Call.decode_of_unknown (unknown : 15 ≤ index.toNat) : codec.decode (index :: rest) = none :=
  exact_codec.decode_of_unknown (by decide) action (fun call => call.action.mem_all)
    (fun _ => ⟨_, rfl⟩) unknown rest

theorem Event.decode_of_unknown (unknown : 15 ≤ index.toNat) :
    codec.decode (index :: rest) = none :=
  exact_codec.decode_of_unknown (by decide) action (fun event => event.action.mem_all)
    (fun _ => ⟨_, rfl⟩) unknown rest

theorem Refusal.decode_of_unknown (unknown : 20 ≤ index.toNat) :
    codec.decode (index :: rest) = none :=
  exact_codec.decode_of_unknown (by decide) id Refusal.mem_all
    (fun _ => ⟨[], (List.append_nil _).symm⟩) unknown rest

theorem Ack.decode_of_unknown (unknown : 2 ≤ index.toNat) : codec.decode (index :: rest) = none :=
  exact_codec.decode_of_unknown (by decide) isSuccess
    (fun ack => by cases ack.isSuccess <;> simp) (fun ack => ⟨_, ack.encode_eq⟩) unknown rest

end Unknown

theorem MinterRecord.decode_of_no_flag {flag : UInt8} (other : 2 ≤ flag.toNat) (allowance : Amount)
    (rest : Bytes) : codec.decode (Codec.word64.encode allowance ++ flag :: rest) = none := by
  apply exact_codec.decode_eq_none
  intro record following _ written
  have tail := written.trans (List.append_assoc ..)
  have known := Codec.toNat_lt_of_flag (Codec.exact_word64.eq_of_append_eq trivial trivial tail).2
  exact absurd known (Nat.not_lt.mpr other)

/-- An event whose first field may be absent starts, after its index, with a flag. -/
theorem Event.decode_of_no_flag {action : Action} {flag : UInt8} (other : 2 ≤ flag.toNat)
    (absentable : action.eventFields.head?.map (·.2) = some .optional) (rest : Bytes) :
    codec.decode (Action.codec.encode action ++ flag :: rest) = none := by
  apply exact_codec.decode_eq_none
  intro event following _ written
  obtain ⟨rfl, tail⟩ := Action.exact_codec.eq_of_append_eq trivial trivial
    (written.trans (List.append_assoc ..))
  have known : flag.toNat < 2 := by
    cases event with
    | ownershipAccepted previous owner =>
      exact Codec.toNat_lt_of_option (tail.trans (List.append_assoc ..))
    | appointed office previous holder =>
      exact Codec.toNat_lt_of_option (tail.trans (List.append_assoc ..))
    | _ => cases absentable
  exact absurd known (Nat.not_lt.mpr other)

section Misspelt

variable {spelled : Bytes} (misspelt : Codec.MisspeltLength spelled)
include misspelt

theorem Ack.decode_of_misspelt (index : UInt8) : codec.decode (index :: spelled) = none := by
  apply exact_codec.decode_eq_none
  intro ack following fits written
  rw [encode_eq, List.append_assoc] at written
  exact misspelt.ne_append fits _ (List.cons.inj written).2

open Codec in
theorem Packet.decode_of_misspelt_sender (denomination : Denomination) (amount : Amount) :
    codec.decode (word32.encode denomination ++ (word64.encode amount ++ spelled)) = none := by
  apply exact_codec.decode_eq_none
  intro packet following fits written
  obtain ⟨_, tail⟩ := exact_word32.eq_of_append_eq trivial trivial
    (written.trans (List.append_assoc ..))
  obtain ⟨_, tail⟩ := exact_word64.eq_of_append_eq trivial trivial
    (tail.trans (List.append_assoc ..))
  exact misspelt.ne_append fits.1 _ (tail.trans (List.append_assoc ..))

open Codec in
theorem Packet.decode_of_misspelt_receiver (denomination : Denomination) (amount : Amount)
    {sender : Bytes} (short : sender.length < UInt32.size) :
    codec.decode (word32.encode denomination ++
      (word64.encode amount ++ (bytes.encode sender ++ spelled))) = none := by
  apply exact_codec.decode_eq_none
  intro packet following fits written
  obtain ⟨_, tail⟩ := exact_word32.eq_of_append_eq trivial trivial
    (written.trans (List.append_assoc ..))
  obtain ⟨_, tail⟩ := exact_word64.eq_of_append_eq trivial trivial
    (tail.trans (List.append_assoc ..))
  obtain ⟨_, tail⟩ := exact_bytes.eq_of_append_eq short fits.1
    (tail.trans (List.append_assoc ..))
  exact misspelt.ne_append fits.2 _ tail

end Misspelt

open Codec in
/-- What is written for a value is read back as it is, and nothing else is read. -/
theorem formats_canonical :
    Packet.codec.Canonical Packet.Encodable ∧ Ack.codec.Canonical Ack.Encodable ∧
    MinterRecord.codec.Canonical (fun _ => True) ∧ Call.codec.Canonical (fun _ => True) ∧
    Event.codec.Canonical (fun _ => True) ∧ Refusal.codec.Canonical (fun _ => True) ∧
    (∀ (index : UInt8) (rest : Bytes),
      (15 ≤ index.toNat → Call.codec.decode (index :: rest) = none ∧
        Event.codec.decode (index :: rest) = none) ∧
      (20 ≤ index.toNat → Refusal.codec.decode (index :: rest) = none) ∧
      (2 ≤ index.toNat → Ack.codec.decode (index :: rest) = none)) ∧
    (∀ (byte : UInt8) (rest : Bytes), 2 ≤ byte.toNat →
      (∀ allowance, MinterRecord.codec.decode (word64.encode allowance ++ byte :: rest) = none) ∧
      ∀ action : Action, action.eventFields.head?.map (·.2) = some .optional →
        Event.codec.decode (Action.codec.encode action ++ byte :: rest) = none) ∧
    ∀ spelled, MisspeltLength spelled →
      (∀ index, Ack.codec.decode (index :: spelled) = none) ∧
      ∀ denomination amount,
        Packet.codec.decode
          (word32.encode denomination ++ (word64.encode amount ++ spelled)) = none ∧
        ∀ sender : Bytes, sender.length < UInt32.size →
          Packet.codec.decode (word32.encode denomination ++
            (word64.encode amount ++ (bytes.encode sender ++ spelled))) = none := by
  refine ⟨Packet.exact_codec.canonical, Ack.exact_codec.canonical,
    MinterRecord.exact_codec.canonical, Call.exact_codec.canonical, Event.exact_codec.canonical,
    Refusal.exact_codec.canonical, ?_, ?_, ?_⟩
  · intro index rest
    refine ⟨fun unknown => ?_, Refusal.decode_of_unknown rest, Ack.decode_of_unknown rest⟩
    exact ⟨Call.decode_of_unknown rest unknown, Event.decode_of_unknown rest unknown⟩
  · intro byte rest other
    refine ⟨fun allowance => MinterRecord.decode_of_no_flag other allowance rest, ?_⟩
    intro action absentable
    exact Event.decode_of_no_flag other absentable rest
  · intro spelled misspelt
    refine ⟨Ack.decode_of_misspelt misspelt, fun denomination amount => ⟨?_, ?_⟩⟩
    · exact Packet.decode_of_misspelt_sender misspelt denomination amount
    · intro sender short
      exact Packet.decode_of_misspelt_receiver misspelt denomination amount short

/-- A packet of sixteen bytes is read back, and four misspelt values are errors. -/
theorem formats_canonical_of_samples :
    let packet : Packet := ⟨controlled, 5, [7, 7], []⟩
    let written : Bytes := [1, 0, 0, 0, 5, 0, 0, 0, 0, 0, 0, 0, 8, 7, 7]
    packet.Encodable ∧ Packet.codec.encode packet = written ++ [0] ∧
      Packet.codec.decode (Packet.codec.encode packet ++ [9]) = some (packet, [9]) ∧
      Packet.codec.decode written = none ∧ Call.codec.decode [15] = none ∧
      MinterRecord.codec.decode (Codec.word64.encode 5 ++ [2]) = none ∧
      Event.codec.decode (Action.codec.encode .acceptOwnership ++ [2]) = none ∧
      Ack.codec.decode (0 :: (Codec.littleEndian 2).encode 1) = none := by
  intro packet written
  obtain ⟨packets, _, _, _, _, _, unknown, flags, lengths⟩ := formats_canonical
  have short : packet.Encodable := by decide
  have spelled : Packet.codec.encode packet = written ++ [0] := by decide
  have misspelt : Codec.MisspeltLength ((Codec.littleEndian 2).encode (4 * 0 + 1) ++ []) :=
    .two [] (by decide)
  refine ⟨short, spelled, packets.readsBack packet short [9], ?_, ?_, ?_, ?_, ?_⟩
  · exact packets.prefixFree packet short written [0] spelled (by decide)
  · exact ((unknown 15 []).1 (by decide)).1
  · exact (flags 2 [] (by decide)).1 5
  · exact (flags 2 [] (by decide)).2 .acceptOwnership rfl
  · exact (lengths _ misspelt).1 0

end Stablecoin
