import Mathlib.Data.Nat.Digits.Defs
import Mathlib.Data.Set.Function
import Stablecoin.Proofs.Blacklist.Freeze
import Stablecoin.Proofs.Packet.Passage

/-! # One address for each account

The address of an account is its number in eight bytes, the least significant first. Every account
has one address, every string of eight bytes is the address of one account, and no other string is a
local address at all. So there is no second way to write a frozen account into a packet: a relay
lets a packet of the controlled denomination through only when its local party is the address of an
account that is not frozen, and its remote party is such an address too or not a local one.
-/

namespace Stablecoin

/-! ## Words as strings of bytes -/

namespace Codec

theorem length_encode_littleEndian (width value : Nat) :
    ((littleEndian width).encode value).length = width := by
  induction width generalizing value with
  | zero => rfl
  | succ width ih => exact congrArg Nat.succ (ih (value / 256))

/-- The bytes of a number that fits are its digits, least significant first. -/
theorem ofDigits_encode_littleEndian {width value : Nat} (fits : value < Nat.pow 256 width) :
    Nat.ofDigits 256 (((littleEndian width).encode value).map UInt8.toNat) = value := by
  induction width generalizing value with
  | zero => exact (Nat.lt_one_iff.mp fits).symm
  | succ width ih =>
    have high : value / 256 < Nat.pow 256 width := by
      have split : Nat.pow 256 (width + 1) = Nat.pow 256 width * 256 := rfl
      omega
    change Nat.ofDigits 256 ((value % 256).toUInt8.toNat ::
      ((littleEndian width).encode (value / 256)).map UInt8.toNat) = value
    rw [Nat.ofDigits_cons, ih high, toNat_lowByte, Nat.mod_add_div]

end Codec

/-! ## Local addresses -/

/-- An address is the number of the account in eight bytes, the least significant first. -/
def Account.SpelledBy (who : Account) (address : Bytes) : Prop :=
  address.length = 8 ∧ Nat.ofDigits 256 (address.map UInt8.toNat) = who.toNat

namespace Account

variable {address : Bytes} {who : Account}

private theorem digit_lt (address : Bytes) : ∀ digit ∈ address.map UInt8.toNat, digit < 256 := by
  intro digit member
  obtain ⟨byte, _, rfl⟩ := List.mem_map.mp member
  exact byte.toNat_lt

theorem spelledBy_encode (who : Account) : who.SpelledBy (Codec.word64.encode who) := by
  have written : Codec.word64.encode who = (Codec.littleEndian 8).encode who.toNat := rfl
  have fits : who.toNat < Nat.pow 256 8 := who.toNat_lt
  rw [SpelledBy, written]
  exact ⟨Codec.length_encode_littleEndian 8 _, Codec.ofDigits_encode_littleEndian fits⟩

/-- An account has no second address. -/
theorem SpelledBy.unique {other : Bytes} (spelled : who.SpelledBy address)
    (also : who.SpelledBy other) : address = other := by
  have sameLength : (address.map UInt8.toNat).length = (other.map UInt8.toNat).length := by
    rw [List.length_map, List.length_map, spelled.1, also.1]
  have sameDigits : address.map UInt8.toNat = other.map UInt8.toNat :=
    Nat.ofDigits_inj_of_len_eq (by decide) sameLength (digit_lt address) (digit_lt other)
      (spelled.2.trans also.2.symm)
  exact List.map_injective_iff.mpr (fun _ _ => UInt8.toNat_inj.mp) sameDigits

/-- An address is that of one account only. -/
theorem SpelledBy.eq {other : Account} (spelled : who.SpelledBy address)
    (also : other.SpelledBy address) : who = other :=
  UInt64.toNat_inj.mp (spelled.2.symm.trans also.2)

theorem spelledBy_iff : who.SpelledBy address ↔ address = Codec.word64.encode who := by
  constructor
  · intro spelled
    exact spelled.unique (spelledBy_encode who)
  · rintro rfl
    exact spelledBy_encode who

theorem ofBytes?_eq_some_iff_spelledBy : ofBytes? address = some who ↔ who.SpelledBy address := by
  rw [ofBytes?_eq_some_iff, spelledBy_iff]

/-- Eight bytes are always an address. -/
theorem exists_spelledBy_iff :
    (∃ who : Account, who.SpelledBy address) ↔ address.length = 8 := by
  constructor
  · rintro ⟨who, spelled⟩
    exact spelled.1
  · intro eight
    -- Any eight bytes are the digits of a number that fits a word.
    have fits : Nat.ofDigits 256 (address.map UInt8.toNat) < UInt64.size := by
      have bound := Nat.ofDigits_lt_base_pow_length (by decide) (digit_lt address)
      rwa [List.length_map, eight] at bound
    exact ⟨_, eight, (UInt64.toNat_ofNat_of_lt fits).symm⟩

theorem ofBytes?_eq_none_iff : ofBytes? address = none ↔ address.length ≠ 8 := by
  rw [ne_eq, ← exists_spelledBy_iff, Option.eq_none_iff_forall_ne_some, not_exists]
  exact forall_congr' fun who => not_congr ofBytes?_eq_some_iff_spelledBy

/-- Reading is one-to-one between the strings of eight bytes and the accounts. -/
theorem bijOn_ofBytes? : Set.BijOn ofBytes? {address | address.length = 8} (Set.range some) := by
  refine ⟨?_, ?_, ?_⟩
  · intro address eight
    obtain ⟨who, spelled⟩ := exists_spelledBy_iff.mpr eight
    exact ⟨who, (ofBytes?_eq_some_iff_spelledBy.mpr spelled).symm⟩
  · -- Whichever account both strings are read as, it has only one address.
    intro address eight other _ same
    obtain ⟨who, spelled⟩ := exists_spelledBy_iff.mpr eight
    have read := ofBytes?_eq_some_iff_spelledBy.mpr spelled
    rw [same] at read
    exact spelled.unique (ofBytes?_eq_some_iff_spelledBy.mp read)
  · rintro _ ⟨who, rfl⟩
    exact ⟨Codec.word64.encode who, (spelledBy_encode who).1, ofBytes?_encode who⟩

end Account

/-! ## The parties of a packet -/

namespace Ledger

/-- An address is that of an account that is not frozen. -/
def Welcomes (ledger : Ledger) (address : Bytes) : Prop :=
  ∃ who : Account, who.SpelledBy address ∧ ledger.isBlacklisted who = false

variable {ledger : Ledger} {caller : Account} {packet : Packet} {address : Bytes}

/-- No frozen account is read from an address that is foreign or welcome, and from no other. -/
theorem forall_not_frozen_iff :
    (∀ who, Account.ofBytes? address = some who → ledger.isBlacklisted who = false) ↔
      address.length ≠ 8 ∨ ledger.Welcomes address := by
  simp only [Account.ofBytes?_eq_some_iff_spelledBy]
  constructor
  · intro free
    by_cases eight : address.length = 8
    · obtain ⟨who, spelled⟩ := Account.exists_spelledBy_iff.mpr eight
      exact .inr ⟨who, spelled, free who spelled⟩
    · exact .inl eight
  · rintro (foreign | ⟨other, also, free⟩) who spelled
    · exact absurd spelled.1 foreign
    · rw [spelled.eq also]
      exact free

theorem clearsInbound_iff_welcomes (inControl : packet.denomination = controlled) :
    ledger.ClearsInbound packet ↔
      ledger.paused = false ∧ ledger.Welcomes packet.receiver ∧
        (packet.sender.length ≠ 8 ∨ ledger.Welcomes packet.sender) := by
  rw [ClearsInbound, or_iff_right (not_not_intro inControl), forall_not_frozen_iff]
  simp only [Account.ofBytes?_eq_some_iff_spelledBy]
  constructor
  · rintro ⟨receiver, received, running, free, remote⟩
    exact ⟨running, ⟨receiver, received, free⟩, remote⟩
  · rintro ⟨running, ⟨receiver, received, free⟩, remote⟩
    exact ⟨receiver, received, running, free, remote⟩

theorem clearsOutbound_iff_welcomes (inControl : packet.denomination = controlled) :
    ledger.ClearsOutbound caller packet ↔
      ledger.paused = false ∧ ledger.isBlacklisted caller = false ∧
        ledger.Welcomes packet.sender ∧
        (packet.receiver.length ≠ 8 ∨ ledger.Welcomes packet.receiver) := by
  rw [ClearsOutbound, or_iff_right (not_not_intro inControl), forall_not_frozen_iff]
  simp only [Account.ofBytes?_eq_some_iff_spelledBy]
  constructor
  · rintro ⟨sender, sent, running, called, free, remote⟩
    exact ⟨running, called, ⟨sender, sent, free⟩, remote⟩
  · rintro ⟨running, called, ⟨sender, sent, free⟩, remote⟩
    exact ⟨sender, sent, running, called, free, remote⟩

section Relay

variable {σ ε : Type} (ofRefusal : Refusal → ε) (app : TransferApp σ ε) (state : σ)

/-- The application is shown the inbound packets that pass, and no others. -/
theorem receive_mem_recorded_iff :
    .receive packet ∈ (ledger.receivePacket app.recorded (state, []) packet).state.2 ↔
      ledger.ClearsInbound packet := by
  rw [receivePacket_recorded]
  by_cases clear : ledger.ClearsInbound packet <;> simp [clear]

theorem send_mem_recorded_iff :
    .send caller packet ∈
        (ledger.sendPacket ofRefusal app.recorded (state, []) caller packet).state.2 ↔
      ledger.ClearsOutbound caller packet := by
  rw [sendPacket_recorded]
  by_cases clear : ledger.ClearsOutbound caller packet <;> simp [clear]

end Relay

end Ledger

/-- An account is read from its eight bytes alone, so no other spelling gets a frozen account past a
relay. -/
theorem local_addresses_unique :
    (∀ (address : Bytes) (who : Account),
      (Account.ofBytes? address = some who ↔ who.SpelledBy address) ∧
        (who.SpelledBy address ↔ address = Codec.word64.encode who)) ∧
    (∀ address : Bytes, Account.ofBytes? address = none ↔ address.length ≠ 8) ∧
    (∀ (who : Account) (trailing : Bytes), trailing ≠ [] →
      Account.ofBytes? (Codec.word64.encode who ++ trailing) = none) ∧
    Set.BijOn Account.ofBytes? {address | address.length = 8} (Set.range some) ∧
    ∀ (ledger : Ledger) (packet : Packet), packet.denomination = controlled →
      (∀ who : Account, ledger.isBlacklisted who = true →
        who.SpelledBy packet.sender ∨ who.SpelledBy packet.receiver →
        ledger.TurnsAway packet ∧ ∀ caller, ledger.HoldsBack caller packet) ∧
      ∀ (σ ε : Type) (ofRefusal : Refusal → ε) (app : TransferApp σ ε) (state : σ),
        (.receive packet ∈ (ledger.receivePacket app.recorded (state, []) packet).state.2 ↔
          ledger.paused = false ∧ ledger.Welcomes packet.receiver ∧
            (packet.sender.length ≠ 8 ∨ ledger.Welcomes packet.sender)) ∧
        ∀ caller, .send caller packet ∈
            (ledger.sendPacket ofRefusal app.recorded (state, []) caller packet).state.2 ↔
          ledger.paused = false ∧ ledger.isBlacklisted caller = false ∧
            ledger.Welcomes packet.sender ∧
            (packet.receiver.length ≠ 8 ∨ ledger.Welcomes packet.receiver) := by
  refine ⟨fun address who => ⟨Account.ofBytes?_eq_some_iff_spelledBy, Account.spelledBy_iff⟩,
    fun address => Account.ofBytes?_eq_none_iff, ?_, Account.bijOn_ofBytes?, ?_⟩
  · intro who trailing more
    have longer := List.length_pos_iff.mpr more
    rw [Account.ofBytes?_eq_none_iff, List.length_append, (Account.spelledBy_encode who).1]
    omega
  · intro ledger packet inControl
    refine ⟨?_, fun σ ε ofRefusal app state => ⟨?_, fun caller => ?_⟩⟩
    · intro who frozen party
      have spells : packet.Spells who := party.imp Account.spelledBy_iff.mp Account.spelledBy_iff.mp
      have shut := Ledger.shutsOut_of_frozen frozen
      exact ⟨shut.inbound packet inControl spells,
        fun caller => shut.outbound caller packet inControl (.inr spells)⟩
    · exact (Ledger.receive_mem_recorded_iff app state).trans
        (Ledger.clearsInbound_iff_welcomes inControl)
    · exact (Ledger.send_mem_recorded_iff ofRefusal app state).trans
        (Ledger.clearsOutbound_iff_welcomes inControl)

open SampleHost in
/-- A frozen stranger is not read from seven bytes or nine, and gets no packet through. -/
theorem local_addresses_unique_of_frozen_stranger :
    let stranger : Account := 0x0102030405060708
    let address : Bytes := [8, 7, 6, 5, 4, 3, 2, 1]
    let frozen : Ledger := { firstLedger with blacklist := .ofList [stranger] }
    let app : TransferApp Nat CallError := .counting (.success []) true
    let own : Packet := ⟨controlled, 5, address, Codec.word64.encode alice⟩
    let padded : Packet := { own with sender := own.receiver, receiver := address ++ [0] }
    let foreign : Packet := { own with sender := address ++ [0] }
    Account.ofBytes? address = some stranger ∧
      Account.ofBytes? address.reverse = some 0x0807060504030201 ∧
      (address.take 7).length ≠ 8 ∧ Account.ofBytes? (address.take 7) = none ∧
      ([0] : Bytes) ≠ [] ∧ Account.ofBytes? (Codec.word64.encode stranger ++ [0]) = none ∧
      (own.denomination = controlled ∧ frozen.isBlacklisted stranger = true ∧
        stranger.SpelledBy own.sender ∧ frozen.TurnsAway own ∧ frozen.HoldsBack alice own) ∧
      .receive padded ∉ (frozen.receivePacket app.recorded (0, []) padded).state.2 ∧
      .receive foreign ∈ (frozen.receivePacket app.recorded (0, []) foreign).state.2 := by
  intro stranger address frozen app own padded foreign
  obtain ⟨spelling, notLocal, trailing, _, relay⟩ := local_addresses_unique
  have spelled : stranger.SpelledBy address := ⟨rfl, by decide⟩
  have backward : Account.SpelledBy 0x0807060504030201 address.reverse := ⟨rfl, by decide⟩
  have listed : frozen.isBlacklisted stranger = true := by decide +kernel
  have welcome : frozen.Welcomes own.receiver :=
    ⟨alice, Account.spelledBy_encode alice, by decide +kernel⟩
  obtain ⟨away, back⟩ := (relay frozen own rfl).1 stranger listed (.inl spelled)
  obtain ⟨passesPadded, _⟩ := (relay frozen padded rfl).2 Nat CallError .refused app 0
  obtain ⟨passesForeign, _⟩ := (relay frozen foreign rfl).2 Nat CallError .refused app 0
  refine ⟨(spelling _ _).1.mpr spelled, (spelling _ _).1.mpr backward, by decide,
    (notLocal _).mpr (by decide), by decide, trailing _ _ (by decide),
    ⟨rfl, listed, spelled, away, back alice⟩, ?_, ?_⟩
  · -- A receiver of nine bytes is welcome for no account at all.
    rw [passesPadded]
    rintro ⟨_, ⟨who, ⟨eight, _⟩, _⟩, _⟩
    exact absurd eight (by decide)
  · exact passesForeign.mpr ⟨rfl, welcome, .inl (by decide)⟩

end Stablecoin
