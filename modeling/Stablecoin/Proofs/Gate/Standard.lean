import Stablecoin.Proofs.Ledger.Mediation

/-! # The standard gate over any state

The standard gate denies a movement for the pause, or else for the first frozen account among its
senders, or else for the first among its receivers. Nothing else of the state or of the movement
matters to it. So a ledger and a plain list of frozen accounts give one verdict when they agree on
the parties to the movement, and movements with the same parties on either side are denied alike,
though perhaps for different accounts.
-/

namespace Stablecoin

namespace GateView

variable {α : Type}

/-- The first of some accounts that a view shows to be frozen. -/
def FirstFrozen (view : GateView α) (accounts : List α) (who : α) : Prop :=
  view.frozen who = true ∧ ∃ earlier later, accounts = earlier ++ who :: later ∧
    ∀ other ∈ earlier, view.frozen other = false

/-- Two views show the same of the pause and of the parties to a movement. -/
def AgreeOn (movement : Movement α) (view other : GateView α) : Prop :=
  view.paused = other.paused ∧ ∀ who ∈ movement.parties, view.frozen who = other.frozen who

variable {view : GateView α} {movement : Movement α} {accounts : List α} {who : α}

theorem find?_eq_some_iff :
    accounts.find? view.frozen = some who ↔ view.FirstFrozen accounts who := by
  simp only [List.find?_eq_some_iff_append, FirstFrozen, Bool.not_eq_true']

/-- A list of frozen accounts shows what a view shows when it names the same parties, in whatever
order and however often. -/
theorem agreeOn_ofList [DecidableEq α] {frozen : List α}
    (same : ∀ who ∈ movement.parties, who ∈ frozen ↔ view.frozen who = true) :
    AgreeOn movement (.ofList view.paused frozen) view := by
  refine ⟨rfl, fun who party => ?_⟩
  rw [ofList, Bool.eq_iff_iff, decide_eq_true_iff]
  exact same who party

end GateView

namespace Movement

variable {α : Type} {movement other : Movement α} {view : GateView α}

/-- The same accounts send and the same receive, in whatever order and however often. -/
def SameParties (movement other : Movement α) : Prop :=
  (∀ who, who ∈ movement.senders ↔ who ∈ other.senders) ∧
    ∀ who, who ∈ movement.receivers ↔ who ∈ other.receivers

/-- The refusal that a movement meets, which leaves the account open, is a matter of there being a
frozen party on either side. -/
theorem map_refusal_denial? (movement : Movement α) (view : GateView α) :
    (movement.denial? view).map Denial.refusal =
      if view.paused then some .paused
      else if movement.senders.any view.frozen then some .senderBlacklisted
      else if movement.receivers.any view.frozen then some .receiverBlacklisted
      else none := by
  unfold denial?
  rw [← List.isSome_find?, ← List.isSome_find?]
  cases view.paused with
  | true => rfl
  | false =>
    cases movement.senders.find? view.frozen with
    | some sender => rfl
    | none => cases movement.receivers.find? view.frozen <;> rfl

theorem map_refusal_denial?_congr (same : movement.SameParties other) :
    (other.denial? view).map Denial.refusal = (movement.denial? view).map Denial.refusal := by
  have senders : other.senders.any view.frozen = movement.senders.any view.frozen := by
    rw [Bool.eq_iff_iff, List.any_eq_true, List.any_eq_true]
    simp only [same.1]
  have receivers : other.receivers.any view.frozen = movement.receivers.any view.frozen := by
    rw [Bool.eq_iff_iff, List.any_eq_true, List.any_eq_true]
    simp only [same.2]
  rw [map_refusal_denial?, map_refusal_denial?, senders, receivers]

end Movement

/-- Views that agree on a movement give it the same verdict. -/
theorem Guard.check_standard_congr {α : Type} {movement : Movement α} {view other : GateView α}
    (agree : GateView.AgreeOn movement view other) :
    check standard movement view = check standard movement other := by
  rw [check_standard, check_standard, Movement.denial?_congr agree.1 agree.2]

/-- A ledger asks the standard gate about what it stores. -/
theorem Ledger.verdict_evaluate_eq_check (ledger : Ledger) (movement : Movement Account) :
    (ledger.evaluate movement).verdict =
      Guard.check Guard.standard movement ledger.gateView := by
  rw [ledger.verdict_evaluate, Guard.check_standard]

/-- The standard gate denies for the pause, or else for the first frozen sender, or else the first
frozen receiver. -/
theorem standard_gate {α : Type} [DecidableEq α] (movement : Movement α) (view : GateView α) :
    let verdict := Guard.check Guard.standard movement view
    (verdict = .error .paused ↔ view.paused = true) ∧
    ((∀ who, verdict = .error (.cannotSend who) ↔
        view.paused = false ∧ view.FirstFrozen movement.senders who) ∧
      ((∃ who, verdict = .error (.cannotSend who)) ↔
        view.paused = false ∧ ∃ who ∈ movement.senders, view.frozen who = true)) ∧
    ((∀ who, verdict = .error (.cannotReceive who) ↔
        view.paused = false ∧ (∀ sender ∈ movement.senders, view.frozen sender = false) ∧
          view.FirstFrozen movement.receivers who) ∧
      ((∃ who, verdict = .error (.cannotReceive who)) ↔
        view.paused = false ∧ (∀ sender ∈ movement.senders, view.frozen sender = false) ∧
          ∃ who ∈ movement.receivers, view.frozen who = true)) ∧
    (verdict = .ok () ↔
      view.paused = false ∧ ∀ who ∈ movement.parties, view.frozen who = false) ∧
    (∀ operation, Guard.check Guard.standard { movement with operation } view = verdict) ∧
    (∀ other, GateView.AgreeOn movement other view →
      Guard.check Guard.standard movement other = verdict) ∧
    (∀ frozen : List α, (∀ who ∈ movement.parties, who ∈ frozen ↔ view.frozen who = true) →
      Guard.check Guard.standard movement (.ofList view.paused frozen) = verdict) ∧
    (∀ other, movement.SameParties other →
      (Guard.check Guard.standard other view).mapError Denial.refusal =
        verdict.mapError Denial.refusal) ∧
    ∀ (ledger : Ledger) (moved : Movement Account) (frozen : List Account),
      (∀ who ∈ moved.parties, who ∈ frozen ↔ ledger.isBlacklisted who = true) →
      (ledger.evaluate moved).verdict =
        Guard.check Guard.standard moved (.ofList ledger.paused frozen) := by
  intro verdict
  have gate : verdict = verdictOf (movement.denial? view) := Guard.check_standard movement view
  refine ⟨?_, ⟨?_, ?_⟩, ⟨?_, ?_⟩, ?_, ?_, ?_, ?_, ?_, ?_⟩
  · rw [gate, verdictOf_eq_error_iff, Movement.denial?_eq_paused_iff]
  · intro who
    rw [gate, verdictOf_eq_error_iff, Movement.denial?_eq_cannotSend_iff,
      GateView.find?_eq_some_iff]
  · simp only [gate, verdictOf_eq_error_iff, Movement.exists_cannotSend_iff]
  · intro who
    rw [gate, verdictOf_eq_error_iff, Movement.denial?_eq_cannotReceive_iff,
      GateView.find?_eq_some_iff]
  · simp only [gate, verdictOf_eq_error_iff, Movement.exists_cannotReceive_iff]
  · rw [gate, verdictOf_eq_ok_iff, Movement.denial?_eq_none_iff]
  · intro operation
    rw [gate, Guard.check_standard]
    rfl
  · intro other agree
    exact Guard.check_standard_congr agree
  · intro frozen same
    exact Guard.check_standard_congr (GateView.agreeOn_ofList same)
  · intro other same
    rw [gate, Guard.check_standard, mapError_verdictOf, mapError_verdictOf,
      Movement.map_refusal_denial?_congr same]
  · intro ledger moved frozen same
    rw [ledger.verdict_evaluate_eq_check]
    exact (Guard.check_standard_congr (GateView.agreeOn_ofList same)).symm

open SampleHost in
/-- Of three senders bob is the first on the list, and in another order charlie is. -/
theorem standard_gate_of_two_frozen_senders :
    let movement : Movement Account := ⟨.delegatedSend, [alice, bob, charlie], [alice, minter]⟩
    let shuffled : Movement Account := ⟨.send, [charlie, alice, bob, bob], [minter, alice, alice]⟩
    let listed : List Account := [charlie, bob, charlie]
    let view : GateView Account := .ofList false listed
    let ledger : Ledger := { firstLedger with blacklist := .ofList [bob, charlie] }
    Guard.check Guard.standard movement view = .error (.cannotSend bob) ∧
      (movement.SameParties shuffled ∧
        Guard.check Guard.standard shuffled view = .error (.cannotSend charlie) ∧
        (Guard.check Guard.standard shuffled view).mapError Denial.refusal =
          (Guard.check Guard.standard movement view).mapError Denial.refusal) ∧
      (GateView.AgreeOn movement ledger.gateView view ∧
        Guard.check Guard.standard movement ledger.gateView = .error (.cannotSend bob)) ∧
      (∀ who ∈ movement.parties, who ∈ listed ↔ ledger.isBlacklisted who = true) ∧
      (ledger.evaluate movement).verdict =
        Guard.check Guard.standard movement (.ofList ledger.paused listed) := by
  intro movement shuffled listed view ledger
  have same : movement.SameParties shuffled := by
    constructor
    · intro who
      grind
    · intro who
      grind
  have stored : ∀ who, who ∈ listed ↔ ledger.isBlacklisted who = true := by
    intro who
    rw [Ledger.isBlacklisted_iff, Std.ExtTreeSet.mem_ofList, List.contains_iff_mem]
    grind
  have agree : GateView.AgreeOn movement ledger.gateView view := by
    refine ⟨rfl, fun who _ => ?_⟩
    rw [Bool.eq_iff_iff]
    exact (stored who).symm.trans decide_eq_true_iff.symm
  obtain ⟨_, ⟨named, _⟩, _, _, _, agreeing, _, alike, hosted⟩ := standard_gate movement view
  obtain ⟨_, ⟨namedToo, _⟩, _⟩ := standard_gate shuffled view
  have first : Guard.check Guard.standard movement view = .error (.cannotSend bob) :=
    (named bob).mpr
      ⟨rfl, by decide, [alice], [charlie], rfl, List.forall_mem_singleton.mpr (by decide)⟩
  refine ⟨first, ⟨same, ?_, alike shuffled same⟩, ⟨agree, (agreeing _ agree).trans first⟩,
    fun who _ => stored who, hosted ledger movement listed fun who _ => stored who⟩
  exact (namedToo charlie).mpr ⟨rfl, by decide, [], [alice, bob, bob], rfl, List.forall_mem_nil _⟩

end Stablecoin
