import Stablecoin.Proofs.Ledger.Mediation

/-! # Which transactions are admitted

A signed transaction is admitted when the gate lets all of its intents through and its signer may
pay the fee. What keeps it out is the first intent that the gate denies, or else the fee; so the
order of the intents matters for the reason that is given, and never for whether there is one.
Intents of other denominations do not count.
-/

namespace Stablecoin

/-- The public code with which a denial keeps a transaction out. -/
def Denial.code {α : Type} : Denial α → Nat
  | paused => 1
  | cannotSend _ => 2
  | cannotReceive _ => 3

/-- A code tells which reason it stands for. -/
theorem Denial.invalidity_eq_iff {α : Type} {denial : Denial α} {invalidity : Invalidity} :
    denial.invalidity = invalidity ↔ invalidity.code? = some denial.code := by
  cases denial <;> cases invalidity <;> simp [invalidity, code, Invalidity.code?]

/-- A fee is denied for the pause, or else for its payer. -/
theorem Movement.denial?_fee {α : Type} (payer : α) (view : GateView α) :
    (Movement.fee payer).denial? view =
      if view.paused then some .paused
      else if view.frozen payer then some (.cannotSend payer) else none := by
  unfold Movement.denial? Movement.fee
  rw [List.find?_singleton]
  cases view.frozen payer <;> rfl

namespace Ledger

/-- The gate lets every one of some intents through. -/
def PassesAll (ledger : Ledger) (intents : List (Intent Account Denomination)) : Prop :=
  ∀ intent ∈ intents, (ledger.checkIntent intent).verdict = .ok ()

/-- The first of the reasons, by their public codes, that keep a signed transaction out. The fee
comes last, and has no receiver. -/
inductive AdmissionObstacle (ledger : Ledger) (feeDenomination : Denomination) (signer : Account) :
    List (Intent Account Denomination) → Nat → Prop
  | intent {earlier later : List (Intent Account Denomination)}
      {intent : Intent Account Denomination} {denial : Denial Account} :
      ledger.PassesAll earlier → (ledger.checkIntent intent).verdict = .error denial →
      AdmissionObstacle ledger feeDenomination signer (earlier ++ intent :: later) denial.code
  | pausedFee {intents : List (Intent Account Denomination)} :
      ledger.PassesAll intents → feeDenomination = controlled → ledger.paused = true →
      AdmissionObstacle ledger feeDenomination signer intents 1
  | frozenPayer {intents : List (Intent Account Denomination)} :
      ledger.PassesAll intents → feeDenomination = controlled → ledger.paused = false →
      ledger.isBlacklisted signer = true →
      AdmissionObstacle ledger feeDenomination signer intents 2

variable {ledger : Ledger} {feeDenomination : Denomination} {signer : Account}
  {intents : List (Intent Account Denomination)} {denial : Denial Account}

/-! ## The intents -/

theorem firstDenial?_intents_eq_none_iff :
    ledger.firstDenial? (intents.map Intent.move) = none ↔ ledger.PassesAll intents := by
  simp only [firstDenial?, List.findSome?_eq_none_iff, List.forall_mem_map, PassesAll,
    verdict_checkIntent, verdictOf_eq_ok_iff]
  rfl

theorem firstDenial?_intents_eq_some_iff :
    ledger.firstDenial? (intents.map Intent.move) = some denial ↔
      ∃ earlier intent later, intents = earlier ++ intent :: later ∧
        (ledger.checkIntent intent).verdict = .error denial ∧ ledger.PassesAll earlier := by
  simp only [firstDenial?, List.findSome?_map, List.findSome?_eq_some_iff, PassesAll,
    verdict_checkIntent, verdictOf_eq_ok_iff, verdictOf_eq_error_iff]
  rfl

/-! ## The fee -/

theorem denial?_fee_eq_none_iff :
    ledger.denial? feeDenomination (.fee signer) = none ↔
      (feeDenomination = controlled →
        ledger.paused = false ∧ ledger.isBlacklisted signer = false) := by
  rw [denial?_eq_none_iff, ← Decidable.imp_iff_not_or]
  simp only [Movement.parties, Movement.fee, List.append_nil, List.forall_mem_singleton]

/-- A fee meets the pause, or else its payer is in its way. -/
theorem denial?_fee_eq_some_iff :
    ledger.denial? feeDenomination (.fee signer) = some denial ↔
      feeDenomination = controlled ∧
        (ledger.paused = true ∧ denial = .paused ∨
          ledger.paused = false ∧ ledger.isBlacklisted signer = true ∧
            denial = .cannotSend signer) := by
  rw [denial?_eq_some_iff, Movement.denial?_fee]
  refine and_congr_right fun _ => ?_
  cases paused : ledger.paused <;> cases frozen : ledger.isBlacklisted signer <;>
    simp [gateView, paused, frozen, eq_comm]

/-! ## The whole transaction -/

/-- A transaction meets what its intents meet, or else what the fee meets. -/
theorem firstDenial?_transactionMoves :
    ledger.firstDenial? (transactionMoves feeDenomination signer intents) =
      (ledger.firstDenial? (intents.map Intent.move)).or
        (ledger.denial? feeDenomination (.fee signer)) := by
  rw [firstDenial?, transactionMoves, List.findSome?_append, List.findSome?_singleton]
  rfl

theorem admissionObstacle_iff {code : Nat} :
    ledger.AdmissionObstacle feeDenomination signer intents code ↔
      ∃ denial, ledger.firstDenial? (transactionMoves feeDenomination signer intents) =
        some denial ∧ denial.code = code := by
  simp only [firstDenial?_transactionMoves, Option.or_eq_some_iff,
    firstDenial?_intents_eq_some_iff, firstDenial?_intents_eq_none_iff, denial?_fee_eq_some_iff]
  constructor
  · intro obstacle
    cases obstacle with
    | intent passed denied => exact ⟨_, .inl ⟨_, _, _, rfl, denied, passed⟩, rfl⟩
    | pausedFee passed inControl paused =>
      exact ⟨_, .inr ⟨passed, inControl, .inl ⟨paused, rfl⟩⟩, rfl⟩
    | frozenPayer passed inControl running frozen =>
      exact ⟨_, .inr ⟨passed, inControl, .inr ⟨running, frozen, rfl⟩⟩, rfl⟩
  · rintro ⟨denial, ⟨earlier, intent, later, rfl, denied, passed⟩ | ⟨passed, inControl, fee⟩, rfl⟩
    · exact .intent passed denied
    · obtain ⟨paused, rfl⟩ | ⟨running, frozen, rfl⟩ := fee
      · exact .pausedFee passed inControl paused
      · exact .frozenPayer passed inControl running frozen

theorem validate_eq_ok_iff :
    (ledger.validate feeDenomination (.signed signer) intents).verdict = .ok () ↔
      ledger.PassesAll intents ∧
        (feeDenomination = controlled →
          ledger.paused = false ∧ ledger.isBlacklisted signer = false) := by
  rw [verdict_validate_signed, verdictOf_eq_ok_iff, Option.map_eq_none_iff,
    firstDenial?_transactionMoves, Option.or_eq_none_iff, firstDenial?_intents_eq_none_iff,
    denial?_fee_eq_none_iff]

theorem validate_eq_error_iff {invalidity : Invalidity} :
    (ledger.validate feeDenomination (.signed signer) intents).verdict = .error invalidity ↔
      ∃ code, invalidity.code? = some code ∧
        ledger.AdmissionObstacle feeDenomination signer intents code := by
  simp only [verdict_validate_signed, verdictOf_eq_error_iff, Option.map_eq_some_iff,
    admissionObstacle_iff, Denial.invalidity_eq_iff]
  constructor
  · rintro ⟨denial, found, coded⟩
    exact ⟨denial.code, coded, denial, found, rfl⟩
  · rintro ⟨_, coded, denial, found, rfl⟩
    exact ⟨denial, found, coded⟩

/-! ## The order of the intents -/

theorem PassesAll.of_perm {permuted : List (Intent Account Denomination)}
    (same : permuted.Perm intents) (passed : ledger.PassesAll intents) :
    ledger.PassesAll permuted :=
  fun intent member => passed intent (same.mem_iff.mp member)

/-- Intents of other denominations are passed over, wherever they stand. -/
theorem screenIntents_filter (intents : List (Intent Account Denomination)) :
    ledger.screenIntents (intents.filter (·.denomination = controlled)) =
      ledger.screenIntents intents := by
  induction intents with
  | nil => rfl
  | cons intent rest ih =>
    rw [List.filter_cons]
    split
    · rw [screenIntents, screenIntents, ih]
    · next foreign =>
      have free : ledger.checkIntent intent = pure () := if_neg (by simpa using foreign)
      rw [ih, screenIntents, free]
      rfl

theorem validate_congr {other : List (Intent Account Denomination)}
    (same : other.filter (·.denomination = controlled) =
      intents.filter (·.denomination = controlled)) :
    ledger.validate feeDenomination (.signed signer) other =
      ledger.validate feeDenomination (.signed signer) intents := by
  rw [validate, validate, ← screenIntents_filter other, same, screenIntents_filter]

open SampleHost in
/-- Between a frozen sender and a frozen receiver the order decides which of them is blamed. -/
theorem exists_perm_blaming_other (feeDenomination : Denomination) (signer : Account) :
    ∃ (ledger : Ledger) (intents permuted : List (Intent Account Denomination)),
      permuted.Perm intents ∧
      (ledger.validate feeDenomination (.signed signer) intents).verdict =
        .error .senderBlacklisted ∧
      (ledger.validate feeDenomination (.signed signer) permuted).verdict =
        .error .receiverBlacklisted := by
  refine ⟨{ firstLedger with blacklist := .ofList [bob] },
    [.send bob alice controlled 1, .send alice bob controlled 1],
    [.send alice bob controlled 1, .send bob alice controlled 1], .swap _ _ _, ?_, ?_⟩
  · rfl
  · rfl

/-- A transaction is admitted when the gate lets its intents and its fee through, or refused for the
first denial. -/
theorem transaction_admission (feeDenomination : Denomination) (signer : Account) :
    (∀ (ledger : Ledger) (intents : List (Intent Account Denomination)),
      let screened := ledger.validate feeDenomination (.signed signer) intents
      (screened.verdict = .ok () ↔
        (∀ intent ∈ intents, (ledger.checkIntent intent).verdict = .ok ()) ∧
          (feeDenomination = controlled →
            ledger.paused = false ∧ ledger.isBlacklisted signer = false)) ∧
      (∀ invalidity : Invalidity, screened.verdict = .error invalidity ↔
        ∃ code, invalidity.code? = some code ∧
          ledger.AdmissionObstacle feeDenomination signer intents code) ∧
      ((∀ intent ∈ intents, (ledger.checkIntent intent).verdict = .ok ()) →
        screened.verdict ≠ .error .receiverBlacklisted) ∧
      (∀ other : List (Intent Account Denomination),
        other.filter (·.denomination = controlled) =
          intents.filter (·.denomination = controlled) →
        ledger.validate feeDenomination (.signed signer) other = screened) ∧
      ∀ permuted : List (Intent Account Denomination), permuted.Perm intents →
        ((ledger.validate feeDenomination (.signed signer) permuted).verdict = .ok () ↔
          screened.verdict = .ok ())) ∧
    (∃ (ledger : Ledger) (intents permuted : List (Intent Account Denomination)),
      permuted.Perm intents ∧
      (ledger.validate feeDenomination (.signed signer) intents).verdict =
        .error .senderBlacklisted ∧
      (ledger.validate feeDenomination (.signed signer) permuted).verdict =
        .error .receiverBlacklisted) ∧
    ∀ (ledger : Ledger) (intents : List (Intent Account Denomination)),
      (ledger.validate feeDenomination .unsigned intents).verdict = .ok () ∧
      (ledger.validate feeDenomination .root intents).verdict = .ok () := by
  refine ⟨?_, ?_, ?_⟩
  · intro ledger intents screened
    refine ⟨validate_eq_ok_iff, fun _ => validate_eq_error_iff, ?_, fun _ => validate_congr, ?_⟩
    · intro passed refused
      obtain ⟨code, ⟨⟩, obstacle⟩ := validate_eq_error_iff.mp refused
      -- Of the three kinds of obstacle only an intent that is denied has the code of receivers.
      generalize three : 3 = code at obstacle
      cases obstacle with
      | intent _ denied =>
        have free := passed _ List.mem_append_cons_self
        rw [denied] at free
        contradiction
      | pausedFee | frozenPayer => contradiction
    · intro permuted same
      rw [validate_eq_ok_iff, validate_eq_ok_iff]
      exact and_congr_left fun _ => ⟨.of_perm same.symm, .of_perm same⟩
  · exact exists_perm_blaming_other feeDenomination signer
  · intro ledger intents
    exact ⟨rfl, rfl⟩

open SampleHost in
/-- The first intent decides why a transaction of frozen parties is refused, and the fee without
intents. -/
theorem transaction_admission_of_frozen_parties :
    let frozen : Ledger := { firstLedger with blacklist := .ofList [bob, charlie] }
    let foreign : Intent Account Denomination := .send bob bob otherDenomination 1
    let arriving : Intent Account Denomination := .send alice bob controlled 1
    let leaving : Intent Account Denomination := .send bob alice controlled 1
    let verdict (intents : List (Intent Account Denomination)) :=
      (frozen.validate controlled (.signed charlie) intents).verdict
    verdict [foreign, arriving, leaving] = .error .receiverBlacklisted ∧
      verdict [arriving, leaving] = .error .receiverBlacklisted ∧
      verdict [leaving, arriving] = .error .senderBlacklisted ∧
      verdict [foreign] = .error .senderBlacklisted ∧
      verdict [foreign] ≠ .error .receiverBlacklisted ∧
      ([leaving, arriving].Perm [arriving, leaving] ∧
        (verdict [leaving, arriving] = .ok () ↔ verdict [arriving, leaving] = .ok ())) := by
  intro frozen foreign arriving leaving verdict
  obtain ⟨screening, _, _⟩ := transaction_admission controlled charlie
  have passed : frozen.PassesAll [foreign] := List.forall_mem_singleton.mpr rfl
  have arrivingDenied : (frozen.checkIntent arriving).verdict = .error (.cannotReceive bob) := rfl
  have leavingDenied : (frozen.checkIntent leaving).verdict = .error (.cannotSend bob) := rfl
  have first : frozen.AdmissionObstacle controlled charlie [arriving, leaving] 3 :=
    .intent (List.forall_mem_nil _) arrivingDenied
  have second : frozen.AdmissionObstacle controlled charlie [leaving, arriving] 2 :=
    .intent (List.forall_mem_nil _) leavingDenied
  obtain ⟨_, arrivingFirst, _, inserted, permuted⟩ := screening frozen [arriving, leaving]
  obtain ⟨_, leavingFirst, _, _, _⟩ := screening frozen [leaving, arriving]
  obtain ⟨_, feeOnly, blameless, _, _⟩ := screening frozen [foreign]
  have refused := (arrivingFirst .receiverBlacklisted).mpr ⟨3, rfl, first⟩
  have same : frozen.validate controlled (.signed charlie) [foreign, arriving, leaving] =
      frozen.validate controlled (.signed charlie) [arriving, leaving] :=
    inserted [foreign, arriving, leaving] rfl
  refine ⟨(congrArg (·.verdict) same).trans refused, refused, ?_, ?_, blameless passed, .swap _ _ _,
    permuted [leaving, arriving] (.swap _ _ _)⟩
  · exact (leavingFirst .senderBlacklisted).mpr ⟨2, rfl, second⟩
  · exact (feeOnly .senderBlacklisted).mpr
      ⟨2, rfl, .frozenPayer passed rfl rfl (by decide +kernel)⟩

end Ledger

end Stablecoin
