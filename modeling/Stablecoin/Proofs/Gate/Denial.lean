import Mathlib.Data.List.Find
import Stablecoin.Gate.Intent

/-! # What the standard gate denies

The denial that a movement meets can be read off the view: while value movement is paused every
movement meets the pause, and otherwise the first frozen sender, or else the first frozen receiver,
is in its way. A movement meets no denial exactly when nothing is paused and no party to it is
frozen; the order of the parties and the kind of the operation do not matter for that. What an
intent or a hook would move can be read off it, too.
-/

namespace Stablecoin

section Verdict

variable {ε ε' : Type}

/-- The verdict that refuses for a reason, when there is one. -/
def verdictOf : Option ε → Except ε Unit
  | some reason => .error reason
  | none => .ok ()

theorem mapError_verdictOf (reason? : Option ε) (view : ε → ε') :
    (verdictOf reason?).mapError view = verdictOf (reason?.map view) := by
  cases reason? <;> rfl

theorem verdictOf_eq_ok_iff {reason? : Option ε} : verdictOf reason? = .ok () ↔ reason? = none := by
  cases reason? <;> simp [verdictOf]

theorem verdictOf_eq_error_iff {reason? : Option ε} {reason : ε} :
    verdictOf reason? = .error reason ↔ reason? = some reason := by
  cases reason? <;> simp [verdictOf]

/-- Of two reasons the first decides. -/
theorem verdictOf_bind (first second : Option ε) :
    ((verdictOf first).bind fun _ => verdictOf second) = verdictOf (first.or second) := by
  cases first <;> rfl

end Verdict

namespace Movement

variable {α : Type}

/-- Everyone whom a movement touches. -/
def parties (movement : Movement α) : List α := movement.senders ++ movement.receivers

/-- The denial that a movement meets, if any. -/
def denial? (movement : Movement α) (view : GateView α) : Option (Denial α) :=
  if view.paused then some .paused
  else ((movement.senders.find? view.frozen).map .cannotSend).or
    ((movement.receivers.find? view.frozen).map .cannotReceive)

variable {movement : Movement α} {view : GateView α}

theorem denial?_of_paused (paused : view.paused = true) : movement.denial? view = some .paused :=
  if_pos paused

theorem denial?_eq_none_iff :
    movement.denial? view = none ↔
      view.paused = false ∧ ∀ who ∈ movement.parties, view.frozen who = false := by
  unfold denial?
  split
  · next paused => simp [paused]
  · next running => simp [running, parties, or_imp, forall_and]

/-- What a movement meets depends on the pause and on its own parties alone. -/
theorem denial?_congr {other : GateView α} (paused : view.paused = other.paused)
    (frozen : ∀ who ∈ movement.parties, view.frozen who = other.frozen who) :
    movement.denial? view = movement.denial? other := by
  have senders := List.find?_congr fun who member => frozen who (List.mem_append_left _ member)
  have receivers := List.find?_congr fun who member => frozen who (List.mem_append_right _ member)
  rw [denial?, denial?, paused, senders, receivers]

theorem denial?_of_running (running : view.paused = false) :
    movement.denial? view = ((movement.senders.find? view.frozen).map .cannotSend).or
      ((movement.receivers.find? view.frozen).map .cannotReceive) := by
  simp [denial?, running]

theorem denial?_eq_paused_iff : movement.denial? view = some .paused ↔ view.paused = true := by
  cases paused : view.paused with
  | true => simp [denial?_of_paused paused]
  | false => simp [denial?_of_running paused, Option.or_eq_some_iff]

theorem denial?_eq_cannotSend_iff {who : α} :
    movement.denial? view = some (.cannotSend who) ↔
      view.paused = false ∧ movement.senders.find? view.frozen = some who := by
  cases paused : view.paused with
  | true => simp [denial?_of_paused paused]
  | false => simp [denial?_of_running paused, Option.or_eq_some_iff]

theorem denial?_eq_cannotReceive_iff {who : α} :
    movement.denial? view = some (.cannotReceive who) ↔
      view.paused = false ∧ (∀ sender ∈ movement.senders, view.frozen sender = false) ∧
        movement.receivers.find? view.frozen = some who := by
  cases paused : view.paused with
  | true => simp [denial?_of_paused paused]
  | false => simp [denial?_of_running paused, Option.or_eq_some_iff]

/-- The senders are what stands in the way when one of them is frozen. -/
theorem exists_cannotSend_iff :
    (∃ who, movement.denial? view = some (.cannotSend who)) ↔
      view.paused = false ∧ ∃ who ∈ movement.senders, view.frozen who = true := by
  simp only [denial?_eq_cannotSend_iff, exists_and_left, ← Option.isSome_iff_exists,
    List.find?_isSome]

/-- The receivers are what stands in the way when one of them is frozen and no sender is. -/
theorem exists_cannotReceive_iff :
    (∃ who, movement.denial? view = some (.cannotReceive who)) ↔
      view.paused = false ∧ (∀ sender ∈ movement.senders, view.frozen sender = false) ∧
        ∃ who ∈ movement.receivers, view.frozen who = true := by
  simp only [denial?_eq_cannotReceive_iff, exists_and_left, ← Option.isSome_iff_exists,
    List.find?_isSome]

/-- A movement that touches a frozen account meets a denial. -/
theorem exists_denial? {who : α} (frozen : view.frozen who = true)
    (party : who ∈ movement.parties) : ∃ denial, movement.denial? view = some denial := by
  rw [← Option.ne_none_iff_exists', ne_eq, denial?_eq_none_iff]
  rintro ⟨_, free⟩
  rw [free who party] at frozen
  contradiction

end Movement

/-- The standard gate gives the verdict of the denial that a movement meets. -/
theorem Guard.check_standard {α : Type} (movement : Movement α) (view : GateView α) :
    check standard movement view = verdictOf (movement.denial? view) := by
  simp only [standard, check, pause, blacklist, Movement.denial?]
  cases view.paused with
  | true => rfl
  | false =>
    cases movement.senders.find? view.frozen with
    | some sender => rfl
    | none => cases movement.receivers.find? view.frozen <;> rfl

/-! ## What is named -/

namespace Intent

variable {α δ : Type}

/-- The accounts that an intent names, in any position. -/
def parties : Intent α δ → List α
  | .send sender receiver _ _ => [sender, receiver]
  | .delegatedSend grantee granter receiver _ _ => [grantee, granter, receiver]
  | .grant granter grantee _ => [granter, grantee]

/-- Whomever an intent names, its movement touches. -/
theorem parties_movement (intent : Intent α δ) : intent.movement.parties = intent.parties := by
  cases intent <;> rfl

end Intent

namespace Hook

/-- The denomination that is about to be moved. -/
def denomination : Hook → Denomination
  | .send _ _ denomination _ | .delegatedSend _ _ _ denomination _ | .grant _ _ denomination
  | .fee _ denomination _ | .receive _ _ denomination _ | .outbound _ _ denomination _ =>
      denomination

/-- The movement that is about to be made. -/
def movement : Hook → Movement Account
  | .send sender receiver _ _ => ⟨.send, [sender], [receiver]⟩
  | .delegatedSend grantee granter receiver _ _ =>
      ⟨.delegatedSend, [grantee, granter], [receiver]⟩
  | .grant granter grantee _ => ⟨.delegationGrant, [granter], [grantee]⟩
  | .fee payer _ _ => ⟨.feePayment, [payer], []⟩
  | .receive sender receiver _ _ => ⟨.crossChainReceive, [sender], [receiver]⟩
  | .outbound sender receiver _ _ => ⟨.crossChainSend, [sender], [receiver]⟩

/-- The accounts that a hook names, in any position. -/
def parties : Hook → List Account
  | .send sender receiver _ _ | .receive sender receiver _ _ | .outbound sender receiver _ _ =>
      [sender, receiver]
  | .delegatedSend grantee granter receiver _ _ => [grantee, granter, receiver]
  | .grant granter grantee _ => [granter, grantee]
  | .fee payer _ _ => [payer]

theorem parties_movement (hook : Hook) : hook.movement.parties = hook.parties := by
  cases hook <;> rfl

variable (planned : Intent Account Denomination)

@[simp] theorem denomination_intent : (intent planned).denomination = planned.denomination := by
  cases planned <;> rfl

@[simp] theorem movement_intent : (intent planned).movement = planned.movement := by
  cases planned <;> rfl

end Hook

end Stablecoin
