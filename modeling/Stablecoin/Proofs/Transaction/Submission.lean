import Stablecoin.Proofs.Blacklist.Freeze
import Stablecoin.Proofs.Pause.Standstill

/-! # Submitted transactions, and how they are locked out

A transaction is screened first, an unsigned one is turned away next, and only then is its payload
carried out, just as if it had been asked for directly. So whatever screening refuses never reaches
a call. When fees are paid in the controlled denomination this shuts transactions out of their own
remedy: those that would restart a paused ledger or free the account that signs them are refused
for the fee.
-/

namespace Stablecoin

namespace Ledger

variable {ledger : Ledger} {feeDenomination : Denomination} {origin : Origin} {payload : Payload}
  {intents : List (Intent Account Denomination)} {invalidity : Invalidity}

/-! ## What submitting a transaction comes to -/

theorem submit_of_refused
    (refused : (ledger.validate feeDenomination origin intents).verdict = .error invalidity) :
    ledger.submit feeDenomination origin payload intents =
      ⟨.error invalidity, [], (ledger.validate feeDenomination origin intents).log, ledger⟩ := by
  simp only [submit, refused]

theorem submit_of_admitted
    (admitted : (ledger.validate feeDenomination origin intents).verdict = .ok ())
    (known : origin ≠ .unsigned) :
    ledger.submit feeDenomination origin payload intents =
      let done := ledger.carryOutPayload origin payload
      ⟨.ok done.reply, done.events,
        (ledger.validate feeDenomination origin intents).log ++ done.log, done.ledger⟩ := by
  cases origin with
  | unsigned => contradiction
  | signed | root => simp only [submit, admitted]

/-- A transaction is invalid when screening refuses it, and also when nobody stands for it. -/
theorem submit_eq_error_iff :
    (ledger.submit feeDenomination origin payload intents).reply = .error invalidity ↔
      (ledger.validate feeDenomination origin intents).verdict = .error invalidity ∨
        origin = .unsigned ∧ invalidity = .unknownOrigin := by
  cases screened : (ledger.validate feeDenomination origin intents).verdict with
  | error other =>
    have signed : origin ≠ .unsigned := by
      rintro rfl
      contradiction
    simp only [submit_of_refused screened, signed, false_and, or_false]
    rw [Except.error.injEq, Except.error.injEq]
  | ok =>
    by_cases unsigned : origin = .unsigned
    · subst unsigned
      simp [submit, validate, eq_comm]
    · simp [submit_of_admitted screened unsigned, unsigned]

end Ledger

/-- The command submits a transaction. -/
def Command.submits : Command → Bool
  | .submit _ _ _ => true
  | _ => false

namespace Chain

variable {chain : Chain} {origin : Origin} {payload : Payload}
  {intents : List (Intent Account Denomination)} {commands : List Command}

/-- A step does what the payload of a transaction does without the transaction. -/
inductive CarriesPayload (chain : Chain) (origin : Origin) (step : Step) : Payload → Prop
  | call {call : Call} {result : Except CallError Unit} :
      (chain.step (.dispatch origin call)).reply = .done result →
      step.reply = .submitted (.ok result) →
      step.events = (chain.step (.dispatch origin call)).events →
      step.chain = (chain.step (.dispatch origin call)).chain →
      CarriesPayload chain origin step (.call call)
  | remark : step.reply = .submitted (.ok (.ok ())) → step.events = [] → step.chain = chain →
      CarriesPayload chain origin step .remark

theorem step_submit_eq_error_iff {invalidity : Invalidity} :
    (chain.step (.submit origin payload intents)).reply = .submitted (.error invalidity) ↔
      (chain.ledger.validate chain.feeDenomination origin intents).verdict = .error invalidity ∨
        origin = .unsigned ∧ invalidity = .unknownOrigin := by
  rw [← Ledger.submit_eq_error_iff]
  exact Iff.of_eq (Reply.submitted.injEq _ _)

theorem step_submit_of_invalid {invalidity : Invalidity}
    (invalid : (chain.step (.submit origin payload intents)).reply =
      .submitted (.error invalidity)) :
    (chain.step (.submit origin payload intents)).chain = chain ∧
      (chain.step (.submit origin payload intents)).events = [] := by
  obtain refused | ⟨rfl, _⟩ := step_submit_eq_error_iff.mp invalid
  · simp only [step, settled, Ledger.submit_of_refused refused, and_self]
  · exact ⟨rfl, rfl⟩

/-- What nobody signed changes nothing, whether it is admitted or not. -/
theorem step_submit_of_not_signed (nobody : ∀ who, origin ≠ .signed who) :
    (chain.step (.submit origin payload intents)).chain = chain ∧
      (chain.step (.submit origin payload intents)).events = [] := by
  cases origin with
  | signed who => exact absurd rfl (nobody who)
  | unsigned => exact ⟨rfl, rfl⟩
  | root => cases payload <;> exact ⟨rfl, rfl⟩

/-- Whatever is not found invalid is carried out as if it had been asked for directly. -/
theorem carriesPayload_of_valid
    (valid : ∀ invalidity,
      (chain.step (.submit origin payload intents)).reply ≠ .submitted (.error invalidity)) :
    chain.CarriesPayload origin (chain.step (.submit origin payload intents)) payload := by
  simp only [ne_eq, step_submit_eq_error_iff, not_or, not_and] at valid
  cases screened : (chain.ledger.validate chain.feeDenomination origin intents).verdict with
  | error invalidity => exact absurd screened (valid invalidity).1
  | ok =>
    have known : origin ≠ .unsigned := fun unsigned => (valid .unknownOrigin).2 unsigned rfl
    cases payload with
    | remark =>
      apply CarriesPayload.remark
      all_goals
        simp only [step, settled, Ledger.submit_of_admitted screened known]
        rfl
    | call call =>
      apply CarriesPayload.call rfl
      all_goals
        simp only [step, settled, Ledger.submit_of_admitted screened known]
        rfl

/-! ## Histories that lead nowhere -/

/-- A history of commands each of which leaves the chain as it is gives every command the answer
that it would have at first. -/
theorem run_of_fixed (fixed : ∀ command ∈ commands, (chain.step command).chain = chain) :
    chain.run commands = commands.map chain.step := by
  induction commands with
  | nil => rfl
  | cons command rest ih =>
    have others := ih fun other member => fixed other (List.mem_cons_of_mem _ member)
    simp only [run, List.map_cons, fixed command List.mem_cons_self, others]

theorem after_of_fixed (fixed : ∀ command ∈ commands, (chain.step command).chain = chain) :
    chain.after commands = chain := by
  induction commands with
  | nil => rfl
  | cons command rest ih =>
    have others := ih fun other member => fixed other (List.mem_cons_of_mem _ member)
    rw [after, List.foldl_cons, fixed command List.mem_cons_self]
    exact others

/-! ## Fees in the controlled denomination -/

section ControlledFee

variable (charged : chain.feeDenomination = controlled)

include charged

/-- No transaction that a frozen account signs gets through, whatever it carries. -/
theorem step_submit_of_frozen {signer : Account}
    (frozen : chain.ledger.isBlacklisted signer = true) :
    ∃ denial : Denial Account,
      (chain.step (.submit (.signed signer) payload intents)).reply =
        .submitted (.error denial.invalidity) := by
  obtain ⟨denial, refused⟩ := (Ledger.shutsOut_of_frozen frozen).fees intents
  refine ⟨denial, step_submit_eq_error_iff.mpr (.inl ?_)⟩
  rw [charged]
  exact refused

/-- On a paused ledger no transaction gets through that anybody signs. -/
theorem step_submit_of_paused (paused : chain.ledger.paused = true) (signer : Account) :
    (chain.step (.submit (.signed signer) payload intents)).reply = .submitted (.error .paused) :=
  step_submit_eq_error_iff.mpr <|
    .inl ((Ledger.shut_of_paused paused).transactions _ _ _ (.inr charged))

/-- A transaction changes nothing on a paused ledger, be it signed or not. -/
theorem fixed_of_paused (paused : chain.ledger.paused = true) {command : Command}
    (submits : command.submits) :
    (chain.step command).chain = chain ∧ (chain.step command).events = [] := by
  cases command with
  | submit origin payload intents =>
    cases origin with
    | signed signer => exact step_submit_of_invalid (step_submit_of_paused charged paused signer)
    | root | unsigned => exact step_submit_of_not_signed (by simp)
  | _ => contradiction

end ControlledFee

/-- A transaction is invalid or comes to its call; with fees in the controlled denomination none
ends a pause. -/
theorem submission (chain : Chain) :
    (∀ (origin : Origin) (payload : Payload) (intents : List (Intent Account Denomination)),
      let screened := (chain.ledger.validate chain.feeDenomination origin intents).verdict
      let submitted := chain.step (.submit origin payload intents)
      (∀ invalidity : Invalidity, submitted.reply = .submitted (.error invalidity) ↔
        screened = .error invalidity ∨ origin = .unsigned ∧ invalidity = .unknownOrigin) ∧
      (∀ invalidity : Invalidity, submitted.reply = .submitted (.error invalidity) →
        submitted.chain = chain ∧ submitted.events = []) ∧
      ((∀ invalidity : Invalidity, submitted.reply ≠ .submitted (.error invalidity)) →
        chain.CarriesPayload origin submitted payload)) ∧
    (chain.feeDenomination = controlled → chain.ledger.paused = true →
      ∀ commands : List Command, (∀ command ∈ commands, command.submits) →
        (∀ step ∈ chain.run commands, step.chain = chain ∧ step.events = []) ∧
        chain.after commands = chain) ∧
    (chain.feeDenomination = controlled →
      ∀ signer : Account, chain.ledger.isBlacklisted signer = true →
      ∀ (payload : Payload) (intents : List (Intent Account Denomination)),
        let submitted := chain.step (.submit (.signed signer) payload intents)
        (∃ denial : Denial Account, submitted.reply = .submitted (.error denial.invalidity)) ∧
          submitted.chain = chain ∧ submitted.events = []) := by
  refine ⟨?_, ?_, ?_⟩
  · intro origin payload intents screened submitted
    exact ⟨fun _ => step_submit_eq_error_iff, fun _ => step_submit_of_invalid,
      carriesPayload_of_valid⟩
  · intro charged paused commands submits
    have fixed : ∀ command ∈ commands, (chain.step command).chain = chain :=
      fun command member => (fixed_of_paused charged paused (submits command member)).1
    refine ⟨?_, after_of_fixed fixed⟩
    intro step member
    rw [run_of_fixed fixed] at member
    obtain ⟨command, asked, rfl⟩ := List.mem_map.mp member
    exact fixed_of_paused charged paused (submits command asked)
  · intro charged signer frozen payload intents submitted
    obtain ⟨denial, invalid⟩ := step_submit_of_frozen charged frozen
    exact ⟨⟨denial, invalid⟩, step_submit_of_invalid invalid⟩

open SampleHost in
/-- By transactions the paused sample host is not restarted, and the frozen blacklister not freed.
-/
theorem submission_of_locked_out :
    let running : Ledger := { firstLedger with blacklist := .ofList [blacklister] }
    let paused : Chain := ⟨{ running with paused := true }, controlled⟩
    let attempts : List Command :=
      [.submit (.signed pauser) (.call .unpause) [], .submit .root (.call .unpause) [],
        .submit .unsigned .remark [], .submit .root .remark []]
    let release : Command := .submit (.signed blacklister) (.call (.unblacklist blacklister)) []
    let charged : Chain := ⟨running, controlled⟩
    let uncharged : Chain := ⟨running, otherDenomination⟩
    (∀ step ∈ paused.run attempts, step.chain = paused ∧ step.events = []) ∧
      paused.after attempts = paused ∧
      ((∃ denial : Denial Account,
        (charged.step release).reply = .submitted (.error denial.invalidity)) ∧
        (charged.step release).chain = charged) ∧
      uncharged.CarriesPayload (.signed blacklister) (uncharged.step release)
        (.call (.unblacklist blacklister)) ∧
      (uncharged.step release).chain.ledger.isBlacklisted blacklister = false := by
  intro running paused attempts release charged uncharged
  obtain ⟨_, locked, _⟩ := submission paused
  obtain ⟨_, _, shutOut⟩ := submission charged
  obtain ⟨screening, _, _⟩ := submission uncharged
  obtain ⟨unmoved, unchanged⟩ := locked rfl rfl attempts (by decide)
  obtain ⟨refused, kept, _⟩ :=
    shutOut rfl blacklister (by decide +kernel) (.call (.unblacklist blacklister)) []
  obtain ⟨_, _, carried⟩ := screening (.signed blacklister) (.call (.unblacklist blacklister)) []
  have released : (uncharged.step release).reply = .submitted (.ok (.ok ())) := rfl
  refine ⟨unmoved, unchanged, ⟨refused, kept⟩, carried ?_, by decide +kernel⟩
  intro invalidity invalid
  cases released.symm.trans invalid

end Chain

end Stablecoin
