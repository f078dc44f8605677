import Stablecoin.Ledger.Dispatch
import Stablecoin.Proofs.Bank.Transactions

/-! # Carrying a call out comes to what was judged beforehand

`Call.judge` reads off the stored ledger whether a call goes through, and the event that it would
deposit; it writes nothing. `Call.perform_comesTo` says that the work done in a storage layer, write
by write, comes to that judgement: a call that goes through has made exactly the change that its
event tells and recorded it, and a call that fails has neither deposited an event nor written a
line, whatever it had already changed in its layer. Dispatching drops such a draft.
-/

namespace Stablecoin

/-- Whether a call of `caller` goes through, and the event that it then deposits. -/
def Call.judge (ledger : Ledger) (caller : Account) : Call → Except CallError Event
  | .offerOwnership candidate => do
      ledger.requireSeat .owner caller
      return .ownershipOffered caller candidate
  | .acceptOwnership => do
      ledger.requireSeat .pendingOwner caller
      return .ownershipAccepted ledger.roles.owner caller
  | .appoint office holder => do
      ledger.requireSeat .owner caller
      return .appointed office (ledger.roles.holder (.office office)) holder
  | .blacklist account => do
      ledger.requireSeat (.office .blacklister) caller
      require (ledger.isBlacklisted account = false) .alreadyBlacklisted
      return .blacklisted account
  | .unblacklist account => do
      ledger.requireSeat (.office .blacklister) caller
      require (ledger.isBlacklisted account = true) .notBlacklisted
      return .unblacklisted account
  | .pause => do
      ledger.requireSeat (.office .pauser) caller
      return .paused
  | .unpause => do
      ledger.requireSeat (.office .pauser) caller
      return .unpaused
  | .assignController controller minter => do
      ledger.requireSeat (.office .masterMinter) caller
      return .controllerAssigned controller minter
  | .removeController controller => do
      ledger.requireSeat (.office .masterMinter) caller
      let minter ← ledger.requireController controller
      return .controllerRemoved controller minter
  | .configureMinter minter allowance => do
      ledger.requireControl caller minter
      require (ledger.paused = false) .mintingPaused
      return .minterConfigured caller minter allowance
  | .removeMinter minter => do
      ledger.requireControl caller minter
      require (minter ∈ ledger.minters) .minterNotFound
      return .minterRemoved caller minter
  | .mint recipient amount => do
      let entry ← ledger.requireMinter caller
      require (ledger.isBlacklisted recipient = false) .receiverBlacklisted
      require (amount ≤ entry.allowance) .insufficientAllowance
      let _ ← (ledger.bank.mint recipient amount).mapError .bank
      return .minted caller recipient amount
  | .burn amount => do
      let _ ← ledger.requireMinter caller
      let _ ← (ledger.bank.burn caller amount).mapError .bank
      return .burned caller amount

namespace Layered

/-- Work of `caller` above `ledger` comes to a judgement. Work that failed leaves no event and no
line. -/
def ComesTo (ledger : Ledger) (caller : Account) (events : List Event) (log : List LogLine)
    (done : Except CallError Unit × Layer) : Except CallError Event → Prop
  | .ok event =>
      done = (.ok (), ⟨ledger.apply event, events ++ [event],
        log ++ (event.notice? caller).toList⟩)
  | .error error => ∃ draft, done = (.error error, ⟨draft, events, log⟩)

namespace ComesTo

variable {α : Type} {ledger current : Ledger} {caller : Account} {events : List Event}
  {log : List LogLine} {judged : Except CallError Event}

theorem read {next : Ledger → Layered Unit}
    (rest : ComesTo ledger caller events log (next current ⟨current, events, log⟩) judged) :
    ComesTo ledger caller events log ((Layered.read >>= next) ⟨current, events, log⟩) judged := rest

theorem write {change : Ledger → Ledger} {next : Unit → Layered Unit}
    (rest : ComesTo ledger caller events log (next () ⟨change current, events, log⟩) judged) :
    ComesTo ledger caller events log ((Layered.write change >>= next) ⟨current, events, log⟩)
      judged := rest

theorem check {result : Except CallError α} {next : α → Layered Unit}
    {judged : α → Except CallError Event}
    (rest : ∀ value, result = .ok value →
      ComesTo ledger caller events log (next value ⟨current, events, log⟩) (judged value)) :
    ComesTo ledger caller events log ((Layered.check result >>= next) ⟨current, events, log⟩)
      (result >>= judged) := by
  cases result with
  | error error => exact ⟨current, rfl⟩
  | ok value => exact rest value rfl

/-- The judgement asks the stored bank, which the work has not touched yet. -/
theorem transact {transaction : Bank → Except BankError Bank} {next : Unit → Layered Unit}
    (untouched : current.bank = ledger.bank)
    (rest : ∀ bank, transaction ledger.bank = .ok bank →
      ComesTo ledger caller events log (next () ⟨{ current with bank }, events, log⟩) judged) :
    ComesTo ledger caller events log
      ((Layered.transact transaction >>= next) ⟨current, events, log⟩)
      ((transaction ledger.bank).mapError .bank >>= fun _ => judged) := by
  rw [Layered.transact_bind]
  dsimp only
  rw [untouched]
  cases result : transaction ledger.bank with
  | error error => exact ⟨current, rfl⟩
  | ok bank => exact rest bank result

theorem record {event : Event} (made : current = ledger.apply event) :
    ComesTo ledger caller events log (Layered.record caller event ⟨current, events, log⟩)
      (.ok event) := by
  rw [made]
  rfl

end ComesTo

end Layered

/-- Overwriting the entry that is there alters it. -/
private theorem insert_eq_alter {minters : AccountMap MinterRecord} {minter : Account}
    {entry : MinterRecord} (found : minters[minter]? = some entry)
    (change : MinterRecord → MinterRecord) :
    minters.insert minter (change entry) = minters.alter minter (·.map change) := by
  apply Std.ExtTreeMap.ext_getElem?
  intro other
  rw [Std.ExtTreeMap.getElem?_insert, Std.ExtTreeMap.getElem?_alter, found]
  rfl

/-- Carrying a call out in a layer above a ledger comes to the judgement about it. -/
theorem Call.perform_comesTo (ledger : Ledger) (caller : Account) (call : Call)
    (events : List Event) (log : List LogLine) :
    Layered.ComesTo ledger caller events log (call.perform caller ⟨ledger, events, log⟩)
      (call.judge ledger caller) := by
  cases call with
  | offerOwnership candidate =>
    refine .read (.check fun _ _ => .write ?_)
    exact .record rfl
  | acceptOwnership =>
    refine .read (.check fun _ _ => .read (.write (.write ?_)))
    exact .record rfl
  | appoint office holder =>
    refine .read (.check fun _ _ => .read (.write ?_))
    exact .record rfl
  | blacklist account =>
    refine .read (.check fun _ _ => .read (.check fun _ _ => .write ?_))
    exact .record rfl
  | unblacklist account =>
    refine .read (.check fun _ _ => .read (.check fun _ _ => .write ?_))
    exact .record rfl
  | pause =>
    refine .read (.check fun _ _ => .write ?_)
    exact .record rfl
  | unpause =>
    refine .read (.check fun _ _ => .write ?_)
    exact .record rfl
  | assignController controller minter =>
    refine .read (.check fun _ _ => .write ?_)
    exact .record rfl
  | removeController controller =>
    refine .read (.check fun _ _ => .read (.check fun minter _ => .write ?_))
    exact .record rfl
  | configureMinter minter allowance =>
    refine .read (.check fun _ _ => .read (.check fun _ _ => .write ?_))
    exact .record rfl
  | removeMinter minter =>
    refine .read (.check fun _ _ => .read (.check fun _ _ => .write ?_))
    exact .record rfl
  | mint recipient amount =>
    refine .read (.check fun entry found => .read (.check fun _ _ => .check fun _ within => ?_))
    refine .write (.transact rfl fun bank minted => .record ?_)
    -- The entry that was read is still there, and subtracting from it does not saturate.
    have active := (Ledger.requireMinter_eq_ok_iff.mp found).2.1
    have present := (Ledger.activeMinter?_eq_some_iff.mp active).1
    have covered := Amount.saturatingSub_of_le (require_eq_ok_iff.mp within)
    obtain ⟨_, rfl⟩ := Bank.mint_eq_ok_iff.mp minted
    simp only [Ledger.apply, ← insert_eq_alter present, covered]
  | burn amount =>
    refine .read (.check fun entry found => .transact rfl fun bank burned => .record ?_)
    obtain ⟨_, rfl⟩ := Bank.burn_eq_ok_iff.mp burned
    rfl

namespace Ledger

variable {ledger : Ledger} {caller : Account} {call : Call}

/-- A call that goes through deposits its event alone and leaves the ledger that it tells of. -/
theorem dispatch_of_judge_ok {event : Event} (judged : call.judge ledger caller = .ok event) :
    ledger.dispatch (.signed caller) call =
      ⟨.ok (), [event], (event.notice? caller).toList, ledger.apply event⟩ := by
  have work := call.perform_comesTo ledger caller [] []
  rw [judged, Layered.ComesTo] at work
  change Layered.commit (call.perform caller) ledger = _
  rw [Layered.commit, work]
  rfl

/-- A call that fails leaves nothing behind, however far it got. -/
theorem dispatch_of_judge_error {error : CallError}
    (judged : call.judge ledger caller = .error error) :
    ledger.dispatch (.signed caller) call = ⟨.error error, [], [], ledger⟩ := by
  have work := call.perform_comesTo ledger caller [] []
  rw [judged] at work
  obtain ⟨draft, failed⟩ := work
  change Layered.commit (call.perform caller) ledger = _
  rw [Layered.commit, failed]

/-- The reply to a call tells what was judged, but for the event. -/
theorem reply_dispatch (ledger : Ledger) (caller : Account) (call : Call) :
    (ledger.dispatch (.signed caller) call).reply =
      (call.judge ledger caller).map fun _ => () := by
  cases judged : call.judge ledger caller with
  | ok event =>
    rw [dispatch_of_judge_ok judged]
    rfl
  | error error =>
    rw [dispatch_of_judge_error judged]
    rfl

theorem reply_dispatch_eq_ok_iff :
    (ledger.dispatch (.signed caller) call).reply = .ok () ↔
      ∃ event, call.judge ledger caller = .ok event := by
  rw [reply_dispatch]
  cases call.judge ledger caller <;> simp [Except.map]

theorem reply_dispatch_eq_error_iff {error : CallError} :
    (ledger.dispatch (.signed caller) call).reply = .error error ↔
      call.judge ledger caller = .error error := by
  rw [reply_dispatch]
  cases call.judge ledger caller <;> simp [Except.map]

/-- The reply to a call is the verdict that agrees with the judgement about it. -/
theorem reply_dispatch_eq_of_judge {verdict : Except CallError Unit}
    (passes : ∀ event, call.judge ledger caller = .ok event → verdict = .ok ())
    (fails : ∀ error, call.judge ledger caller = .error error → verdict = .error error) :
    (ledger.dispatch (.signed caller) call).reply = verdict := by
  rw [reply_dispatch]
  cases judged : call.judge ledger caller with
  | ok event => exact (passes event judged).symm
  | error error => exact (fails error judged).symm

/-- Nobody but an account makes a call. -/
theorem dispatch_of_not_signed {origin : Origin} (nobody : ∀ who, origin ≠ .signed who) :
    ledger.dispatch origin call = ⟨.error .badOrigin, [], [], ledger⟩ := by
  cases origin with
  | signed who => exact absurd rfl (nobody who)
  | root => rfl
  | unsigned => rfl

end Ledger

end Stablecoin
