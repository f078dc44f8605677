import Mathlib.Tactic.MkIffOfInductiveProp
import Stablecoin.Proofs.Bank.Supply
import Stablecoin.Proofs.Minting.Execution

/-! # Batches of mints

Several amounts are created one after the other, by any minters and for any recipients. Whether all
of this succeeds is seen from the sums alone: what each minter creates must be within its allowance,
what each account receives must find room in its balance, and all of it must find room in the
issuance (`Chain.createsAll_iff`). A sum does not depend on the order of its parts, and not on
whether two parts of one minter for one recipient are written as one; neither does the ledger after
the batch.

Amounts must be positive for this. An amount of nothing is refused to an empty account, so it may
succeed behind another mint and fail in front of it.
-/

namespace Stablecoin

/-- A call that creates an amount, and the minter who signs it. -/
structure Mint where
  minter : Account
  recipient : Account
  amount : Amount
deriving DecidableEq, Repr

namespace Mint

/-- The event of a mint that succeeds. -/
def event (mint : Mint) : Event := .minted mint.minter mint.recipient mint.amount

def command (mint : Mint) : Command :=
  .dispatch (.signed mint.minter) (.mint mint.recipient mint.amount)

end Mint

namespace Ledger

variable {ledger : Ledger} {caller : Account} {mint : Mint} {batch rest : List Mint}

/-! ## Where a batch leads -/

/-- Ledgers that differ in what mints change at most are equal when they agree on that. -/
theorem eq_of_records {left right : Ledger}
    (elsewhere : right = { left with minters := right.minters, bank := right.bank })
    (records : ∀ minter : Account, left.minters[minter]? = right.minters[minter]?)
    (issuance : left.bank.issuance = right.bank.issuance)
    (balances : ∀ who, left.bank.balanceOf who = right.bank.balanceOf who) : left = right := by
  have minters : left.minters = right.minters :=
    Std.ExtTreeMap.ext_getElem? fun {minter} => records minter
  rw [elsewhere, ← minters, ← Bank.ext_of_balanceOf issuance balances]

/-- Mints can change places. -/
theorem apply_mint_comm (ledger : Ledger) (first second : Mint) :
    (ledger.apply first.event).apply second.event =
      (ledger.apply second.event).apply first.event := by
  -- Words wrap around alike in either order, so the amounts need no bound here.
  apply eq_of_records
  · rfl
  · intro minter
    simp only [getElem?_minters_apply, Mint.event, Event.updateRecord]
    cases ledger.minters[minter]? with
    | none => simp only [Option.map_none, ite_self]
    | some record =>
      have swap : record.allowance - first.amount - second.amount =
          record.allowance - second.amount - first.amount := by grind
      split <;> split <;> simp only [Option.map_some, swap]
  · change ledger.bank.issuance + first.amount + second.amount =
      ledger.bank.issuance + second.amount + first.amount
    grind
  · intro who
    simp only [apply, Mint.event, Bank.balanceOf_credited]
    grind

/-- Two mints of one minter for one recipient come to one. -/
theorem apply_mint_split (ledger : Ledger) (minter recipient : Account) (first second : Amount) :
    (ledger.apply (.minted minter recipient first)).apply (.minted minter recipient second) =
      ledger.apply (.minted minter recipient (first + second)) := by
  apply eq_of_records
  · rfl
  · intro other
    simp only [getElem?_minters_apply, Event.updateRecord]
    cases ledger.minters[other]? with
    | none => simp only [Option.map_none, ite_self]
    | some record =>
      have once : record.allowance - first - second = record.allowance - (first + second) := by
        grind
      split <;> simp only [Option.map_some, once]
  · exact UInt64.add_assoc ..
  · intro who
    simp only [apply, Bank.balanceOf_credited]
    grind

theorem replay_eq_of_perm {permuted : List Mint} (perm : batch.Perm permuted) :
    ledger.replay (batch.map (·.event)) = ledger.replay (permuted.map (·.event)) := by
  simp only [replay, List.foldl_map]
  exact perm.foldl_eq' (fun first _ second _ current => current.apply_mint_comm first second) ledger

/-! ## When a batch succeeds -/

/-- Whoever mints in the batch may do so, nobody receives who is frozen, and the sums fit. -/
@[mk_iff]
structure Covers (ledger : Ledger) (batch : List Mint) : Prop where
  minters : ∀ mint ∈ batch, ∃ record, ledger.Empowers mint.minter record
  recipients : ∀ mint ∈ batch, ledger.isBlacklisted mint.recipient = false
  /-- Stated of every account: one that does not mint in the batch spends nothing. -/
  allowances : ∀ minter, totalMinted minter (batch.map (·.event)) ≤ ledger.allowanceOf minter
  issuance : ledger.bank.issuance.toNat + total (·.amountCreated) (batch.map (·.event)) <
    UInt64.size
  balances : ∀ who, (ledger.bank.balanceOf who).toNat +
    total (·.amountReceived who) (batch.map (·.event)) < UInt64.size

theorem covers_nil (ledger : Ledger) : ledger.Covers [] where
  minters := List.forall_mem_nil _
  recipients := List.forall_mem_nil _
  allowances _ := Nat.zero_le _
  issuance := ledger.bank.issuance.toNat_lt
  balances who := (ledger.bank.balanceOf who).toNat_lt

theorem Covers.of_perm {permuted : List Mint} (covers : ledger.Covers batch)
    (perm : batch.Perm permuted) : ledger.Covers permuted where
  minters mint member := covers.minters mint (perm.mem_iff.mpr member)
  recipients mint member := covers.recipients mint (perm.mem_iff.mpr member)
  allowances minter := by
    rw [totalMinted, total, ← ((perm.map _).map _).sum_eq]
    exact covers.allowances minter
  issuance := by
    rw [total, ← ((perm.map _).map _).sum_eq]
    exact covers.issuance
  balances who := by
    rw [total, ← ((perm.map _).map _).sum_eq]
    exact covers.balances who

theorem Permits.allowanceOf_apply_mint (permitted : ledger.Permits caller mint.event)
    (minter : Account) :
    (ledger.apply mint.event).allowanceOf minter + mint.event.amountMinted minter =
      ledger.allowanceOf minter := by
  obtain ⟨former, later, before, after, _, spent⟩ := permitted.spends
  rw [Mint.event, Event.amountMinted]
  split
  · next own =>
    subst own
    simpa only [allowanceOf, before, after, Option.map_some, Option.getD_some] using spent
  · next other => rw [allowanceOf, getElem?_minters_apply_of_ne other, allowanceOf, Nat.add_zero]

theorem Permits.issuance_apply_mint (permitted : ledger.Permits caller mint.event) :
    (ledger.apply mint.event).bank.issuance.toNat =
      ledger.bank.issuance.toNat + mint.event.amountCreated := permitted.2.2.2.toNat_issuance

theorem Permits.balanceOf_apply_mint (permitted : ledger.Permits caller mint.event)
    (who : Account) :
    ((ledger.apply mint.event).bank.balanceOf who).toNat =
      (ledger.bank.balanceOf who).toNat + mint.event.amountReceived who :=
  permitted.2.2.2.toNat_balanceOf who

/-- What all of a batch may do, its first mint may do. -/
theorem Covers.permits (covers : ledger.Covers (mint :: rest)) (positive : 0 < mint.amount) :
    ledger.Permits mint.minter mint.event := by
  obtain ⟨record, power⟩ := covers.minters mint List.mem_cons_self
  have free := covers.recipients mint List.mem_cons_self
  have spent : mint.event.amountMinted mint.minter = mint.amount.toNat := if_pos rfl
  have created : mint.event.amountCreated = mint.amount.toNat := rfl
  have received : mint.event.amountReceived mint.recipient = mint.amount.toNat := if_pos rfl
  have allowance := covers.allowances mint.minter
  have issuance := covers.issuance
  have balance := covers.balances mint.recipient
  simp only [totalMinted, total, List.map_cons, List.sum_cons, power.allowanceOf]
    at allowance issuance balance
  have within : mint.amount ≤ record.allowance := UInt64.le_iff_toNat_le.mpr (by omega)
  have given : 0 < mint.amount.toNat := UInt64.lt_iff_toNat_lt.mp positive
  exact ⟨rfl, free, ⟨record, power, within⟩, ⟨by omega, by omega, by omega⟩⟩

theorem Covers.tail (covers : ledger.Covers (mint :: rest))
    (permitted : ledger.Permits mint.minter mint.event) :
    (ledger.apply mint.event).Covers rest where
  minters other member :=
    exists_empowers_apply_minted_iff.mpr (covers.minters other (List.mem_cons_of_mem _ member))
  recipients other member := covers.recipients other (List.mem_cons_of_mem _ member)
  allowances minter := by
    have first := permitted.allowanceOf_apply_mint minter
    have all := covers.allowances minter
    simp only [totalMinted, total, List.map_cons, List.sum_cons] at all ⊢
    omega
  issuance := by
    have first := permitted.issuance_apply_mint
    have all := covers.issuance
    simp only [total, List.map_cons, List.sum_cons] at all ⊢
    omega
  balances who := by
    have first := permitted.balanceOf_apply_mint who
    have all := covers.balances who
    simp only [total, List.map_cons, List.sum_cons] at all ⊢
    omega

theorem Permits.covers_cons (permitted : ledger.Permits mint.minter mint.event)
    (covers : (ledger.apply mint.event).Covers rest) : ledger.Covers (mint :: rest) where
  minters := by
    obtain ⟨record, power, _⟩ := permitted.2.2.1
    refine List.forall_mem_cons.mpr ⟨⟨record, power⟩, fun other member => ?_⟩
    exact exists_empowers_apply_minted_iff.mp (covers.minters other member)
  recipients := List.forall_mem_cons.mpr ⟨permitted.2.1, covers.recipients⟩
  allowances minter := by
    have first := permitted.allowanceOf_apply_mint minter
    have others := covers.allowances minter
    simp only [totalMinted, total, List.map_cons, List.sum_cons] at others ⊢
    omega
  issuance := by
    have first := permitted.issuance_apply_mint
    have others := covers.issuance
    simp only [total, List.map_cons, List.sum_cons] at others ⊢
    omega
  balances who := by
    have first := permitted.balanceOf_apply_mint who
    have others := covers.balances who
    simp only [total, List.map_cons, List.sum_cons] at others ⊢
    omega

/-! ## Splitting a mint -/

section Splitting

variable {minter recipient : Account} {first second : Amount}

theorem Covers.fits (covers : ledger.Covers
    (⟨minter, recipient, first⟩ :: ⟨minter, recipient, second⟩ :: rest)) :
    first.toNat + second.toNat < UInt64.size := by
  have issuance := covers.issuance
  simp only [total, List.map_cons, List.sum_cons, Mint.event, Event.amountCreated] at issuance
  omega

/-- A quantity that two events share out between them as one event has it. -/
theorem total_of_parts {quantity : Event → Nat} {left right whole : Event} {others : List Event}
    (parts : quantity left + quantity right = quantity whole) :
    total quantity (left :: right :: others) = total quantity (whole :: others) := by
  simp only [total, List.map_cons, List.sum_cons]
  omega

/-- A ledger covers the parts of a mint when it covers the whole. -/
theorem covers_parts_iff (fits : first.toNat + second.toNat < UInt64.size) :
    let parts := ⟨minter, recipient, first⟩ :: ⟨minter, recipient, second⟩ :: rest
    let whole := ⟨minter, recipient, first + second⟩ :: rest
    ledger.Covers parts ↔ ledger.Covers whole := by
  intro parts whole
  have sum := Bank.toNat_add_of_fits fits
  have created : total (·.amountCreated) (parts.map (·.event)) =
      total (·.amountCreated) (whole.map (·.event)) := total_of_parts sum.symm
  have received : ∀ who, total (·.amountReceived who) (parts.map (·.event)) =
      total (·.amountReceived who) (whole.map (·.event)) := by
    intro who
    refine total_of_parts ?_
    simp only [Mint.event, Event.amountReceived, sum]
    split <;> rfl
  have minted : ∀ who, totalMinted who (parts.map (·.event)) =
      totalMinted who (whole.map (·.event)) := by
    intro who
    refine total_of_parts ?_
    simp only [Mint.event, Event.amountMinted, sum]
    split <;> rfl
  rw [covers_iff, covers_iff]
  simp only [created, received, minted]
  simp only [parts, whole, List.forall_mem_cons, and_self_left]

theorem replay_parts (ledger : Ledger) (minter recipient : Account) (first second : Amount)
    (rest : List Mint) :
    let parts : List Mint := ⟨minter, recipient, first⟩ :: ⟨minter, recipient, second⟩ :: rest
    let whole : List Mint := ⟨minter, recipient, first + second⟩ :: rest
    ledger.replay (parts.map (·.event)) = ledger.replay (whole.map (·.event)) :=
  congrArg (fun current : Ledger => current.replay (rest.map Mint.event))
    (ledger.apply_mint_split minter recipient first second)

end Splitting

end Ledger

/-! ## Running a batch -/

namespace Chain

variable {chain : Chain} {mint : Mint} {batch rest : List Mint}

/-- A batch of mints succeeds: each of them does, when its turn comes. -/
def CreatesAll (chain : Chain) (batch : List Mint) : Prop :=
  ∀ step ∈ chain.run (batch.map (·.command)), step.reply.succeeded

instance : Decidable (chain.CreatesAll batch) := by
  unfold CreatesAll
  infer_instance

theorem step_mint_of_permits (permitted : chain.ledger.Permits mint.minter mint.event) :
    chain.step mint.command =
      ⟨.done (.ok ()), [mint.event], [], { chain with ledger := chain.ledger.apply mint.event }⟩ :=
  congrArg (chain.settled · .done) (Ledger.dispatch_mint_of_permits permitted)

theorem succeeded_mint_iff :
    (chain.step mint.command).reply.succeeded ↔
      chain.ledger.Permits mint.minter mint.event := by
  rw [Mint.event, ← Ledger.reply_mint_eq_ok_iff]
  change (Reply.done (chain.ledger.dispatch _ _).reply).succeeded ↔ _
  cases (chain.ledger.dispatch (.signed mint.minter) (.mint mint.recipient mint.amount)).reply <;>
    simp [Reply.succeeded]

theorem createsAll_cons_iff :
    chain.CreatesAll (mint :: rest) ↔
      chain.ledger.Permits mint.minter mint.event ∧
        CreatesAll { chain with ledger := chain.ledger.apply mint.event } rest := by
  rw [CreatesAll, List.map_cons, run, List.forall_mem_cons, succeeded_mint_iff]
  refine and_congr_right fun permitted => ?_
  rw [step_mint_of_permits permitted]
  rfl

/-- A batch of positive amounts succeeds exactly when the ledger covers it as a whole. -/
theorem createsAll_iff (positive : ∀ mint ∈ batch, 0 < mint.amount) :
    chain.CreatesAll batch ↔ chain.ledger.Covers batch := by
  -- Each mint leaves a ledger that covers what is left of the batch, so the chain is generalized.
  induction batch generalizing chain with
  | nil => exact ⟨fun _ => chain.ledger.covers_nil, fun _ => List.forall_mem_nil _⟩
  | cons mint rest ih =>
    obtain ⟨given, others⟩ := List.forall_mem_cons.mp positive
    rw [createsAll_cons_iff, ih others]
    constructor
    · rintro ⟨permitted, covers⟩
      exact permitted.covers_cons covers
    · intro covers
      have permitted := covers.permits given
      exact ⟨permitted, covers.tail permitted⟩

theorem after_of_createsAll (succeeds : chain.CreatesAll batch) :
    chain.after (batch.map (·.command)) =
      { chain with ledger := chain.ledger.replay (batch.map (·.event)) } := by
  induction batch generalizing chain with
  | nil => rfl
  | cons mint rest ih =>
    obtain ⟨permitted, others⟩ := createsAll_cons_iff.mp succeeds
    change (chain.step mint.command).chain.after (rest.map (·.command)) = _
    rw [step_mint_of_permits permitted, ih others]
    rfl

/-- Batches of mints that succeed do so in every order and however they are split, and lead to the
same chain. -/
theorem batches_rearrange (chain : Chain) :
    (∀ batch permuted : List Mint, batch.Perm permuted → (∀ mint ∈ batch, 0 < mint.amount) →
      chain.CreatesAll batch →
      chain.CreatesAll permuted ∧
        chain.after (permuted.map (·.command)) = chain.after (batch.map (·.command))) ∧
    ∀ (minter recipient : Account) (first second : Amount) (rest : List Mint),
      0 < first → 0 < second → (∀ mint ∈ rest, 0 < mint.amount) →
      let parts : List Mint := ⟨minter, recipient, first⟩ :: ⟨minter, recipient, second⟩ :: rest
      let whole : List Mint := ⟨minter, recipient, first + second⟩ :: rest
      (chain.CreatesAll parts ↔
        first.toNat + second.toNat < UInt64.size ∧ chain.CreatesAll whole) ∧
      (chain.CreatesAll parts →
        chain.after (parts.map (·.command)) = chain.after (whole.map (·.command))) := by
  constructor
  · intro batch permuted perm positive succeeds
    have alsoPositive : ∀ mint ∈ permuted, 0 < mint.amount :=
      fun mint member => positive mint (perm.mem_iff.mpr member)
    have covers := (createsAll_iff positive).mp succeeds
    have alsoSucceeds : chain.CreatesAll permuted :=
      (createsAll_iff alsoPositive).mpr (covers.of_perm perm)
    refine ⟨alsoSucceeds, ?_⟩
    rw [after_of_createsAll succeeds, after_of_createsAll alsoSucceeds,
      Ledger.replay_eq_of_perm perm]
  · intro minter recipient first second rest given alsoGiven positive parts whole
    have partsPositive : ∀ mint ∈ parts, 0 < mint.amount :=
      List.forall_mem_cons.mpr ⟨given, List.forall_mem_cons.mpr ⟨alsoGiven, positive⟩⟩
    have wholePositive : first.toNat + second.toNat < UInt64.size →
        ∀ mint ∈ whole, 0 < mint.amount := by
      intro fits
      refine List.forall_mem_cons.mpr ⟨UInt64.lt_iff_toNat_lt.mpr ?_, positive⟩
      rw [Bank.toNat_add_of_fits fits]
      exact Nat.add_pos_left (UInt64.lt_iff_toNat_lt.mp given) _
    have split : chain.CreatesAll parts ↔
        first.toNat + second.toNat < UInt64.size ∧ chain.CreatesAll whole := by
      rw [createsAll_iff partsPositive]
      constructor
      · intro covers
        have fits := covers.fits
        exact ⟨fits, (createsAll_iff (wholePositive fits)).mpr
          ((Ledger.covers_parts_iff fits).mp covers)⟩
      · rintro ⟨fits, succeeds⟩
        exact (Ledger.covers_parts_iff fits).mpr
          ((createsAll_iff (wholePositive fits)).mp succeeds)
    refine ⟨split, fun succeeds => ?_⟩
    rw [after_of_createsAll succeeds, after_of_createsAll (split.mp succeeds).2,
      Ledger.replay_parts]

/-- Amounts of nothing do depend on the order: charlie, who holds nothing, is given nothing only
after something. -/
example :
    let something : Mint := ⟨SampleHost.minter, SampleHost.charlie, 1⟩
    let nothing : Mint := { something with amount := 0 }
    SampleHost.firstChain.CreatesAll [something, nothing] ∧
      ¬ SampleHost.firstChain.CreatesAll [nothing, something] := by decide +kernel

open SampleHost in
/-- Two minters use up their allowances, in either order and with one mint in two parts. -/
theorem batches_rearrange_of_two_minters :
    let chain : Chain :=
      ⟨{ firstLedger with minters := firstLedger.minters.insert charlie ⟨10, true⟩ },
        otherDenomination⟩
    let first : Mint := ⟨minter, bob, 70⟩
    let second : Mint := ⟨charlie, bob, 10⟩
    let third : Mint := ⟨minter, bob, 30⟩
    let whole : Mint := ⟨minter, bob, 70 + 30⟩
    chain.CreatesAll [first, second, third] ∧ chain.CreatesAll [second, third, first] ∧
      chain.after [second.command, third.command, first.command] =
        chain.after [first.command, second.command, third.command] ∧
      chain.CreatesAll [whole, second] ∧
      chain.after [first.command, third.command, second.command] =
        chain.after [whole.command, second.command] := by
  intro chain first second third whole
  obtain ⟨reordered, split⟩ := batches_rearrange chain
  have succeeds : chain.CreatesAll [first, second, third] := by decide +kernel
  have moved : [first, second, third].Perm [second, third, first] := by decide
  have swapped : [first, second, third].Perm [first, third, second] := by decide
  obtain ⟨later, sameLater⟩ := reordered _ _ moved (by decide) succeeds
  obtain ⟨parts, _⟩ := reordered _ _ swapped (by decide) succeeds
  obtain ⟨once, sameOnce⟩ := split minter bob 70 30 [second] (by decide) (by decide) (by decide)
  exact ⟨succeeds, later, sameLater, (once.mp parts).2, sameOnce parts⟩

end Chain

end Stablecoin
