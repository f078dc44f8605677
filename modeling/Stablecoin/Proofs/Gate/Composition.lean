import Stablecoin.Proofs.Gate.Denial
import Stablecoin.SampleHost

/-! # Gates made of any guards

A gate answers with the first denial that one of its guards has, so it is a search through the list
for a denial. A movement passes when no guard denies it, which is a matter of which guards there
are; in what order they stand decides only which denial is the answer. More guards can therefore
never let a movement through that fewer would deny.
-/

namespace Stablecoin

namespace Guard

variable {α σ : Type}

/-- The denial that a guard has for a movement, if any. -/
def denial? (guard : Guard α σ) (movement : Movement α) (state : σ) : Option (Denial α) :=
  match guard movement state with
  | .ok () => none
  | .error denial => some denial

variable {guard : Guard α σ} {guards other : List (Guard α σ)} {movement : Movement α} {state : σ}
  {denial : Denial α}

theorem denial?_eq_none_iff :
    guard.denial? movement state = none ↔ guard movement state = .ok () := by
  unfold denial?
  split <;> simp [*]

theorem denial?_eq_some_iff :
    guard.denial? movement state = some denial ↔ guard movement state = .error denial := by
  unfold denial?
  split <;> simp [*]

/-- A gate searches its guards for a denial. -/
theorem check_eq_verdictOf (guards : List (Guard α σ)) (movement : Movement α) (state : σ) :
    check guards movement state = verdictOf (guards.findSome? (·.denial? movement state)) := by
  induction guards with
  | nil => rfl
  | cons guard rest ih =>
    rw [check, List.findSome?_cons, denial?]
    cases guard movement state with
    | ok => exact ih
    | error denial => rfl

theorem check_eq_ok_iff :
    check guards movement state = .ok () ↔ ∀ guard ∈ guards, guard movement state = .ok () := by
  simp only [check_eq_verdictOf, verdictOf_eq_ok_iff, List.findSome?_eq_none_iff,
    denial?_eq_none_iff]

theorem check_eq_error_iff :
    check guards movement state = .error denial ↔
      ∃ earlier guard later, guards = earlier ++ guard :: later ∧
        guard movement state = .error denial ∧
        ∀ other ∈ earlier, other movement state = .ok () := by
  simp only [check_eq_verdictOf, verdictOf_eq_error_iff, List.findSome?_eq_some_iff,
    denial?_eq_some_iff, denial?_eq_none_iff]

/-- A guard less can only let more through. -/
theorem check_eq_ok_of_subset (fewer : other ⊆ guards)
    (passed : check guards movement state = .ok ()) : check other movement state = .ok () :=
  check_eq_ok_iff.mpr fun guard member => check_eq_ok_iff.mp passed guard (fewer member)

/-- What a gate denies it denies for the same reason when more guards come after its own. -/
theorem check_append_of_error (denied : check guards movement state = .error denial)
    (extra : List (Guard α σ)) : check (guards ++ extra) movement state = .error denial := by
  rw [check_append, denied]
  rfl

/-- A gate gives the denial of its first guard that has one, so more guards let nothing more
through. -/
theorem gates_compose {α σ : Type} (movement : Movement α) (state : σ) :
    (∀ guards : List (Guard α σ),
      (check guards movement state = .ok () ↔ ∀ guard ∈ guards, guard movement state = .ok ()) ∧
      ∀ denial, check guards movement state = .error denial ↔
        ∃ earlier guard later, guards = earlier ++ guard :: later ∧
          guard movement state = .error denial ∧
          ∀ other ∈ earlier, other movement state = .ok ()) ∧
    (∀ first second : List (Guard α σ), check (first ++ second) movement state =
      (check first movement state).bind fun _ => check second movement state) ∧
    (∀ (earlier later : List (Guard α σ)) (guard : Guard α σ) (denial : Denial α),
      check (earlier ++ later) movement state = .error denial →
      ∃ denial, check (earlier ++ guard :: later) movement state = .error denial) ∧
    (∀ (view : GateView α) (extra : List (Guard α (GateView α))) (denial : Denial α),
      check standard movement view = .error denial →
      check (standard ++ extra) movement view = .error denial) ∧
    (∀ guards other : List (Guard α σ), (∀ guard, guard ∈ other ↔ guard ∈ guards) →
      (check other movement state = .ok () ↔ check guards movement state = .ok ())) ∧
    ∀ who : α, ∃ (touching : Movement α) (shut : GateView α),
      check [pause, blacklist] touching shut = .error .paused ∧
      check [blacklist, pause] touching shut = .error (.cannotSend who) ∧
      check [blacklist, pause, blacklist] touching shut = .error (.cannotSend who) := by
  refine ⟨?_, fun _ _ => check_append _ _ _ _, ?_, ?_, ?_, ?_⟩
  · intro guards
    exact ⟨check_eq_ok_iff, fun _ => check_eq_error_iff⟩
  · intro earlier later guard denial denied
    cases widened : check (earlier ++ guard :: later) movement state with
    | error other => exact ⟨other, rfl⟩
    | ok =>
      have fewer : earlier ++ later ⊆ earlier ++ guard :: later :=
        ((List.sublist_cons_self guard later).append_left earlier).subset
      rw [check_eq_ok_of_subset fewer widened] at denied
      contradiction
  · intro view extra denial denied
    exact check_append_of_error denied extra
  · intro guards other same
    exact ⟨check_eq_ok_of_subset fun _ => (same _).mpr, check_eq_ok_of_subset fun _ => (same _).mp⟩
  · intro who
    exact ⟨⟨.send, [who], []⟩, ⟨true, fun _ => true⟩, rfl, rfl, rfl⟩

open SampleHost in
/-- A guard against transfers to oneself stops alice, and changes bob's reason only in front of the
others. -/
theorem gates_compose_of_self_transfer :
    let view : GateView Account := .ofList false [bob]
    let own (who : Account) : Movement Account := ⟨.send, [who], [who]⟩
    let stricter : List (Guard Account (GateView Account)) := standard ++ [selfTransfer]
    let permuted : List (Guard Account (GateView Account)) := selfTransfer :: standard
    (check standard (own alice) view = .ok () ∧
      check stricter (own alice) view = .error (.cannotReceive alice)) ∧
      (check standard (own bob) view = .error (.cannotSend bob) ∧
        check stricter (own bob) view = .error (.cannotSend bob)) ∧
      check permuted (own bob) view = .error (.cannotReceive bob) ∧
      (∀ guard, guard ∈ permuted ↔ guard ∈ stricter) ∧
      ¬ check permuted (own alice) view = .ok () := by
  intro view own stricter permuted
  obtain ⟨alices, _, _, _, alike, _⟩ := gates_compose (own alice) view
  obtain ⟨bobs, _, _, kept, _, _⟩ := gates_compose (own bob) view
  have same : ∀ guard, guard ∈ permuted ↔ guard ∈ stricter := by grind
  have denied : check standard (own bob) view = .error (.cannotSend bob) := rfl
  have willing : ∀ guard ∈ standard, guard (own alice) view = .ok () :=
    List.forall_mem_cons.mpr ⟨rfl, List.forall_mem_singleton.mpr rfl⟩
  have passed : check standard (own alice) view = .ok () := (alices standard).1.mpr willing
  have refused : check stricter (own alice) view = .error (.cannotReceive alice) :=
    ((alices stricter).2 _).mpr ⟨standard, selfTransfer, [], rfl, rfl, willing⟩
  refine ⟨⟨passed, refused⟩, ⟨denied, kept view [selfTransfer] _ denied⟩, ?_, same, ?_⟩
  · exact ((bobs permuted).2 _).mpr ⟨[], selfTransfer, standard, rfl, rfl, List.forall_mem_nil _⟩
  · intro passes
    rw [alike stricter permuted same, refused] at passes
    contradiction

end Guard

end Stablecoin
