import Stablecoin.Proofs.Ledger.Denial
import Stablecoin.SampleHost

/-! # Every movement is mediated, and alike at every entry

Whoever moves value asks a hook, shows an intent to the gate or submits a transaction. All of them
come down to one rule: a movement of the controlled denomination passes when nothing is paused and
no account that it names is frozen, and otherwise it is refused for the pause, for a frozen account
on the sending side or for one on the receiving side, in this order. The amount plays no part.
-/

namespace Stablecoin

/-! ## The two sides of a movement -/

namespace Intent

variable {α δ : Type}

/-- The accounts whose funds would leave, and those who would act for them; a grantee comes before
the granter. -/
def sendingSide : Intent α δ → List α
  | .send sender _ _ _ => [sender]
  | .delegatedSend grantee granter _ _ _ => [grantee, granter]
  | .grant granter _ _ => [granter]

/-- The accounts that would receive funds, or the right to send them. -/
def receivingSide : Intent α δ → List α
  | .send _ receiver _ _ | .delegatedSend _ _ receiver _ _ => [receiver]
  | .grant _ grantee _ => [grantee]

/-- The same intent for another amount; a grant is for none. -/
def withAmount (amount : Amount) : Intent α δ → Intent α δ
  | .send sender receiver denomination _ => .send sender receiver denomination amount
  | .delegatedSend grantee granter receiver denomination _ =>
      .delegatedSend grantee granter receiver denomination amount
  | .grant granter grantee denomination => .grant granter grantee denomination

theorem senders_movement (intent : Intent α δ) : intent.movement.senders = intent.sendingSide := by
  cases intent <;> rfl

theorem receivers_movement (intent : Intent α δ) :
    intent.movement.receivers = intent.receivingSide := by
  cases intent <;> rfl

end Intent

namespace Hook

/-- The accounts on the sending side; whoever pays a fee is on it. -/
def sendingSide : Hook → List Account
  | .send sender _ _ _ | .receive sender _ _ _ | .outbound sender _ _ _ => [sender]
  | .delegatedSend grantee granter _ _ _ => [grantee, granter]
  | .grant granter _ _ => [granter]
  | .fee payer _ _ => [payer]

/-- The accounts on the receiving side; nobody receives a fee. -/
def receivingSide : Hook → List Account
  | .send _ receiver _ _ | .delegatedSend _ _ receiver _ _ | .receive _ receiver _ _
  | .outbound _ receiver _ _ => [receiver]
  | .grant _ grantee _ => [grantee]
  | .fee _ _ _ => []

/-- The same hook for another amount. -/
def withAmount (amount : Amount) : Hook → Hook
  | .send sender receiver denomination _ => .send sender receiver denomination amount
  | .delegatedSend grantee granter receiver denomination _ =>
      .delegatedSend grantee granter receiver denomination amount
  | .grant granter grantee denomination => .grant granter grantee denomination
  | .fee payer denomination _ => .fee payer denomination amount
  | .receive sender receiver denomination _ => .receive sender receiver denomination amount
  | .outbound sender receiver denomination _ => .outbound sender receiver denomination amount

theorem senders_movement (hook : Hook) : hook.movement.senders = hook.sendingSide := by
  cases hook <;> rfl

theorem receivers_movement (hook : Hook) : hook.movement.receivers = hook.receivingSide := by
  cases hook <;> rfl

end Hook

/-! ## Denials as they are seen from outside -/

namespace Denial

variable {α : Type} {denial? : Option (Denial α)}

theorem map_refusal_eq_paused_iff :
    denial?.map refusal = some .paused ↔ denial? = some .paused := by
  rcases denial? with _ | (_ | _ | _) <;> simp [refusal]

theorem map_refusal_eq_senderBlacklisted_iff :
    denial?.map refusal = some .senderBlacklisted ↔ ∃ who, denial? = some (.cannotSend who) := by
  rcases denial? with _ | (_ | _ | _) <;> simp [refusal]

theorem map_refusal_eq_receiverBlacklisted_iff :
    denial?.map refusal = some .receiverBlacklisted ↔
      ∃ who, denial? = some (.cannotReceive who) := by
  rcases denial? with _ | (_ | _ | _) <;> simp [refusal]

end Denial

/-- Three answers say the same: that of a hook, that of the gate and, by its public code, that of
the admission of a transaction. -/
inductive Agree {α : Type} :
    Except Refusal Unit → Except (Denial α) Unit → Except (Option Nat) Unit → Prop
  | passed : Agree (.ok ()) (.ok ()) (.ok ())
  | paused : Agree (.error .paused) (.error .paused) (.error (some 1))
  | cannotSend (who : α) :
      Agree (.error .senderBlacklisted) (.error (.cannotSend who)) (.error (some 2))
  | cannotReceive (who : α) :
      Agree (.error .receiverBlacklisted) (.error (.cannotReceive who)) (.error (some 3))

/-- Answers that stem from one denial agree. -/
theorem agree_of_denial? {α : Type} (denial? : Option (Denial α)) :
    Agree (verdictOf (denial?.map Denial.refusal)) (verdictOf denial?)
      ((verdictOf (denial?.map Denial.invalidity)).mapError Invalidity.code?) := by
  cases denial? with
  | none => exact .passed
  | some denial =>
    cases denial with
    | paused => exact .paused
    | cannotSend who => exact .cannotSend who
    | cannotReceive who => exact .cannotReceive who

namespace Ledger

variable {ledger : Ledger} {denomination : Denomination} {movement : Movement Account}

theorem denial?_eq_some_iff {denial : Denial Account} :
    ledger.denial? denomination movement = some denial ↔
      denomination = controlled ∧ movement.denial? ledger.gateView = some denial := by
  rw [denial?, Option.ite_none_right_eq_some]

theorem denial?_eq_none_iff :
    ledger.denial? denomination movement = none ↔
      denomination ≠ controlled ∨
        ledger.paused = false ∧ ∀ who ∈ movement.parties, ledger.isBlacklisted who = false := by
  rw [denial?, ite_eq_right_iff, Movement.denial?_eq_none_iff]
  exact Decidable.imp_iff_not_or

/-! ## Hooks -/

variable {hook : Hook}

theorem checkHook_eq_ok_iff :
    (ledger.checkHook hook).verdict = .ok () ↔
      hook.denomination ≠ controlled ∨
        ledger.paused = false ∧ ∀ who ∈ hook.parties, ledger.isBlacklisted who = false := by
  rw [verdict_checkHook, verdictOf_eq_ok_iff, Option.map_eq_none_iff, denial?_eq_none_iff,
    hook.parties_movement]

theorem checkHook_eq_error_iff {refusal : Refusal} :
    (ledger.checkHook hook).verdict = .error refusal ↔
      (ledger.denial? hook.denomination hook.movement).map Denial.refusal = some refusal := by
  rw [verdict_checkHook, verdictOf_eq_error_iff]

theorem checkHook_eq_paused_iff :
    (ledger.checkHook hook).verdict = .error .paused ↔
      hook.denomination = controlled ∧ ledger.paused = true := by
  rw [checkHook_eq_error_iff, Denial.map_refusal_eq_paused_iff, denial?_eq_some_iff,
    Movement.denial?_eq_paused_iff, gateView]

theorem checkHook_eq_senderBlacklisted_iff :
    (ledger.checkHook hook).verdict = .error .senderBlacklisted ↔
      hook.denomination = controlled ∧ ledger.paused = false ∧
        ∃ who ∈ hook.sendingSide, ledger.isBlacklisted who = true := by
  rw [checkHook_eq_error_iff, Denial.map_refusal_eq_senderBlacklisted_iff]
  simp only [denial?_eq_some_iff, exists_and_left]
  rw [Movement.exists_cannotSend_iff, hook.senders_movement, gateView]

theorem checkHook_eq_receiverBlacklisted_iff :
    (ledger.checkHook hook).verdict = .error .receiverBlacklisted ↔
      hook.denomination = controlled ∧ ledger.paused = false ∧
        (∀ who ∈ hook.sendingSide, ledger.isBlacklisted who = false) ∧
        ∃ who ∈ hook.receivingSide, ledger.isBlacklisted who = true := by
  rw [checkHook_eq_error_iff, Denial.map_refusal_eq_receiverBlacklisted_iff]
  simp only [denial?_eq_some_iff, exists_and_left]
  rw [Movement.exists_cannotReceive_iff, hook.senders_movement, hook.receivers_movement, gateView]

/-! ## Intents, and transactions with one of them -/

variable {intent : Intent Account Denomination}

theorem checkIntent_eq_error_iff {denial : Denial Account} :
    (ledger.checkIntent intent).verdict = .error denial ↔
      intent.denomination = controlled ∧
        intent.movement.denial? ledger.gateView = some denial := by
  rw [verdict_checkIntent, verdictOf_eq_error_iff, denial?_eq_some_iff]

/-- A fee in another denomination is no matter for the gate, so a transaction with one intent meets
what the intent meets. -/
theorem verdict_validate_single {feeDenomination : Denomination}
    (foreign : feeDenomination ≠ controlled) (signer : Account)
    (intent : Intent Account Denomination) :
    (ledger.validate feeDenomination (.signed signer) [intent]).verdict =
      verdictOf ((ledger.denial? intent.denomination intent.movement).map Denial.invalidity) := by
  have free : ledger.denial? feeDenomination (.fee signer) = none := if_neg foreign
  rw [verdict_validate_signed, transactionMoves, firstDenial?, List.map_singleton,
    List.singleton_append, List.findSome?_cons, List.findSome?_singleton, free, Intent.move]
  cases ledger.denial? intent.denomination intent.movement <;> rfl

theorem agree_of_single {feeDenomination : Denomination} (foreign : feeDenomination ≠ controlled)
    (signer : Account) (intent : Intent Account Denomination) :
    Agree (ledger.checkHook (.intent intent)).verdict (ledger.checkIntent intent).verdict
      ((ledger.validate feeDenomination (.signed signer) [intent]).verdict.mapError
        Invalidity.code?) := by
  rw [verdict_checkHook, Hook.denomination_intent, Hook.movement_intent, verdict_checkIntent,
    verdict_validate_single foreign]
  exact agree_of_denial? _

/-! ## Amounts -/

variable (ledger) (amount : Amount)

theorem checkIntent_withAmount (intent : Intent Account Denomination) :
    ledger.checkIntent (intent.withAmount amount) = ledger.checkIntent intent := by
  cases intent <;> rfl

theorem checkHook_withAmount (hook : Hook) :
    ledger.checkHook (hook.withAmount amount) = ledger.checkHook hook := by
  cases hook <;> rfl

theorem screenIntents_withAmount (intents : List (Intent Account Denomination)) :
    ledger.screenIntents (intents.map (·.withAmount amount)) = ledger.screenIntents intents := by
  induction intents with
  | nil => rfl
  | cons intent rest ih =>
    rw [List.map_cons, screenIntents, screenIntents, ih, checkIntent_withAmount]

theorem validate_withAmount (feeDenomination : Denomination) (origin : Origin)
    (intents : List (Intent Account Denomination)) :
    ledger.validate feeDenomination origin (intents.map (·.withAmount amount)) =
      ledger.validate feeDenomination origin intents := by
  cases origin with
  | signed signer => rw [validate, validate, screenIntents_withAmount]
  | root | unsigned => rfl

/-- A movement passes every entry, or is refused at every entry for the pause or for the same frozen
account. -/
theorem complete_mediation (ledger : Ledger) :
    (∀ hook : Hook,
      let verdict := (ledger.checkHook hook).verdict
      (verdict = .ok () ↔ hook.denomination ≠ controlled ∨
        ledger.paused = false ∧ ∀ who ∈ hook.parties, ledger.isBlacklisted who = false) ∧
      (verdict = .error .paused ↔ hook.denomination = controlled ∧ ledger.paused = true) ∧
      (verdict = .error .senderBlacklisted ↔ hook.denomination = controlled ∧
        ledger.paused = false ∧ ∃ who ∈ hook.sendingSide, ledger.isBlacklisted who = true) ∧
      (verdict = .error .receiverBlacklisted ↔ hook.denomination = controlled ∧
        ledger.paused = false ∧ (∀ who ∈ hook.sendingSide, ledger.isBlacklisted who = false) ∧
        ∃ who ∈ hook.receivingSide, ledger.isBlacklisted who = true)) ∧
    (∀ (intent : Intent Account Denomination) (feeDenomination : Denomination) (signer : Account)
      (inspect : Account → List (Intent Account Denomination)),
      feeDenomination ≠ controlled → inspect signer = [intent] →
      let origin : Origin := .signed signer
      let screened := (ledger.checkIntent intent).verdict
      let validated := (ledger.validate feeDenomination origin (origin.intents inspect)).verdict
      Agree (ledger.checkHook (.intent intent)).verdict screened
        (validated.mapError Invalidity.code?) ∧
      (∀ who, screened = .error (.cannotSend who) ↔ intent.denomination = controlled ∧
        ledger.paused = false ∧ intent.sendingSide.find? ledger.isBlacklisted = some who) ∧
      ∀ who, screened = .error (.cannotReceive who) ↔ intent.denomination = controlled ∧
        ledger.paused = false ∧
        (∀ sender ∈ intent.sendingSide, ledger.isBlacklisted sender = false) ∧
        intent.receivingSide.find? ledger.isBlacklisted = some who) ∧
    ∀ amount,
      (∀ hook : Hook, ledger.checkHook (hook.withAmount amount) = ledger.checkHook hook) ∧
      (∀ intent, ledger.checkIntent (intent.withAmount amount) = ledger.checkIntent intent) ∧
      ∀ feeDenomination origin intents,
        ledger.validate feeDenomination origin (intents.map (·.withAmount amount)) =
          ledger.validate feeDenomination origin intents := by
  refine ⟨?_, ?_, ?_⟩
  · intro hook verdict
    exact ⟨checkHook_eq_ok_iff, checkHook_eq_paused_iff, checkHook_eq_senderBlacklisted_iff,
      checkHook_eq_receiverBlacklisted_iff⟩
  · intro intent feeDenomination signer inspect foreign found origin screened validated
    have alone : origin.intents inspect = [intent] := found
    refine ⟨?_, ?_, ?_⟩
    · simp only [validated, alone]
      exact agree_of_single foreign signer intent
    · intro who
      rw [checkIntent_eq_error_iff, Movement.denial?_eq_cannotSend_iff, intent.senders_movement,
        gateView]
    · intro who
      rw [checkIntent_eq_error_iff, Movement.denial?_eq_cannotReceive_iff, intent.senders_movement,
        intent.receivers_movement, gateView]
  · intro amount
    exact ⟨ledger.checkHook_withAmount amount, ledger.checkIntent_withAmount amount,
      ledger.validate_withAmount amount⟩

open SampleHost in
/-- A transfer by bob out of alice's account is refused at all three entries for bob, the grantee.
-/
theorem complete_mediation_of_frozen_parties :
    let frozen : Ledger := { firstLedger with blacklist := .ofList [alice, bob] }
    let intent : Intent Account Denomination := .delegatedSend bob alice charlie controlled 5
    let screened := (frozen.checkIntent intent).verdict
    otherDenomination ≠ controlled ∧
      Agree (frozen.checkHook (.intent intent)).verdict screened
        ((frozen.validate otherDenomination (.signed charlie) [intent]).verdict.mapError
          Invalidity.code?) ∧
      screened = .error (.cannotSend bob) ∧
      (frozen.checkHook (.fee alice controlled 1)).verdict = .error .senderBlacklisted ∧
      (frozen.checkHook (.fee alice otherDenomination 1)).verdict = .ok () := by
  intro frozen intent screened
  have foreign : otherDenomination ≠ controlled := by decide
  obtain ⟨hooks, entries, _⟩ := complete_mediation frozen
  obtain ⟨agree, sender, _⟩ :=
    entries intent otherDenomination charlie (fun _ => [intent]) foreign rfl
  refine ⟨foreign, agree, (sender bob).mpr ⟨rfl, rfl, by decide +kernel⟩, ?_, ?_⟩
  · exact (hooks (.fee alice controlled 1)).2.2.1.mpr
      ⟨rfl, rfl, alice, List.mem_singleton.mpr rfl, by decide +kernel⟩
  · exact (hooks (.fee alice otherDenomination 1)).1.mpr (.inl foreign)

end Ledger

end Stablecoin
