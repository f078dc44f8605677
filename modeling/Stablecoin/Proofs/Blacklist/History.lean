import Mathlib.Data.List.Chain
import Stablecoin.Proofs.Chain.Evolution
import Stablecoin.Proofs.Genesis.Build
import Stablecoin.Proofs.Ledger.Memory
import Stablecoin.SampleHost

/-! # The history of the blacklist

An account that is frozen cannot be frozen again, nor can one that is free be freed. So the events
that freeze and free an account take turns, whoever the blacklister is meanwhile, and the last of
them tells how things stand. Either call takes the other one back.
-/

namespace Stablecoin

/-- What became of an account, each time that an event of a history froze or freed it. -/
def verdicts (who : Account) (history : List Event) : List Bool :=
  history.filterMap (·.freezes? who)

theorem lastWord_freezes? (who : Account) (history : List Event) (first : Bool) :
    lastWord (·.freezes? who) history first = (verdicts who history).getLast?.getD first := by
  rw [lastWord, verdicts, List.getLast?_filterMap, List.findSomeRev?_eq_findSome?_reverse]

/-- Right after the second call, for the same signer, the first one goes through and undoes it. -/
def Call.TakesBack (undo call : Call) : Prop :=
  ∀ (chain : Chain) (signer : Account),
    let done := chain.step (.dispatch (.signed signer) call)
    let undone := done.chain.step (.dispatch (.signed signer) undo)
    done.reply = .done (.ok ()) → undone.reply = .done (.ok ()) ∧ undone.chain = chain

namespace AccountSet

variable {accounts : AccountSet} {who : Account}

theorem erase_insert (absent : who ∉ accounts) : (accounts.insert who).erase who = accounts := by
  apply Std.ExtTreeSet.ext_mem
  intro other
  rw [Std.ExtTreeSet.mem_erase, Std.ExtTreeSet.mem_insert, ne_eq,
    Std.LawfulEqCmp.compare_eq_iff_eq]
  constructor
  · rintro ⟨distinct, same | member⟩
    · exact absurd same distinct
    · exact member
  · intro member
    exact ⟨fun same => absent (same ▸ member), .inr member⟩

theorem insert_erase (present : who ∈ accounts) : (accounts.erase who).insert who = accounts := by
  apply Std.ExtTreeSet.ext_mem
  intro other
  rw [Std.ExtTreeSet.mem_insert, Std.ExtTreeSet.mem_erase, ne_eq,
    Std.LawfulEqCmp.compare_eq_iff_eq]
  constructor
  · rintro (rfl | ⟨_, member⟩)
    · exact present
    · exact member
  · intro member
    by_cases same : who = other
    · exact .inl same
    · exact .inr ⟨same, member⟩

end AccountSet

namespace Ledger

variable {ledger final : Ledger} {caller who : Account} {event : Event}

/-- An event turns an account from free to frozen, or the other way. -/
theorem Permits.isBlacklisted_ne (permitted : ledger.Permits caller event) {frozen : Bool}
    (told : event.freezes? who = some frozen) : ledger.isBlacklisted who ≠ frozen := by
  cases event with
  | blacklisted account =>
    obtain ⟨rfl, ⟨⟩⟩ := Option.ite_none_right_eq_some.mp told
    rw [permitted.2]
    exact Bool.false_ne_true
  | unblacklisted account =>
    obtain ⟨rfl, ⟨⟩⟩ := Option.ite_none_right_eq_some.mp told
    rw [permitted.2]
    exact Bool.false_ne_true.symm
  | _ => contradiction

/-- What becomes of an account through a history differs each time from what was before. -/
theorem Evolves.isChain_verdicts {history : List SignedEvent}
    (evolves : ledger.Evolves history final) (who : Account) :
    (ledger.isBlacklisted who :: verdicts who (history.map (·.event))).IsChain (· ≠ ·) := by
  induction evolves with
  | nil => exact List.isChain_singleton _
  | @cons current final signed rest permitted _ ih =>
    have tracks := tracks_isBlacklisted who
    rw [List.map_cons, verdicts]
    cases told : signed.event.freezes? who with
    | none =>
      rw [List.filterMap_cons_none told]
      exact tracks.apply_of_silent told ▸ ih
    | some frozen =>
      rw [List.filterMap_cons_some told, List.isChain_cons_cons]
      exact ⟨permitted.isBlacklisted_ne told, tracks.apply_of_told told ▸ ih⟩

/-- The last verdict on an account stands. -/
theorem Evolves.isBlacklisted_eq {history : List SignedEvent}
    (evolves : ledger.Evolves history final) (who : Account) :
    final.isBlacklisted who =
      (verdicts who (history.map (·.event))).getLast?.getD (ledger.isBlacklisted who) := by
  rw [evolves.eq_replay, ← lastWord_freezes?]
  exact (tracks_isBlacklisted who).replay ledger _

/-- A call is taken back when the ledger permits the event of another after it, and this event
undoes the first. -/
theorem takesBack_of_permits {undo call : Call}
    (back : ∀ (ledger : Ledger) (caller : Account) (event : Event), event.call = call →
      ledger.Permits caller event → ∃ reversal : Event, reversal.call = undo ∧
        (ledger.apply event).Permits caller reversal ∧
        (ledger.apply event).apply reversal = ledger) : undo.TakesBack call := by
  intro chain signer done undone succeeded
  obtain ⟨event, judged⟩ := reply_dispatch_eq_ok_iff.mp (Reply.done.inj succeeded)
  obtain ⟨called, permitted⟩ := Call.judge_eq_ok_iff.mp judged
  obtain ⟨reversal, rfl, allowed, restored⟩ := back chain.ledger signer event called permitted
  have advanced : done.chain.ledger = chain.ledger.apply event :=
    congrArg Outcome.ledger (dispatch_of_judge_ok judged)
  have returned := dispatch_of_permits allowed
  rw [← advanced] at returned
  constructor
  · exact congrArg (fun outcome => Reply.done outcome.reply) returned
  · have final : undone.chain.ledger = chain.ledger := by
      rw [← restored, ← advanced]
      exact congrArg Outcome.ledger returned
    change ({ chain with ledger := undone.chain.ledger } : Chain) = chain
    rw [final]

theorem unblacklist_takesBack (who : Account) :
    (Call.unblacklist who).TakesBack (.blacklist who) := by
  apply takesBack_of_permits
  intro ledger caller event called permitted
  cases event with
  | blacklisted account =>
    obtain rfl := Call.blacklist.inj called
    obtain ⟨seated, free⟩ := permitted
    have absent : account ∉ ledger.blacklist := by simp [← isBlacklisted_iff, free]
    have frozen : (ledger.apply (.blacklisted account)).isBlacklisted account = true :=
      (tracks_isBlacklisted account).apply_of_told (if_pos rfl)
    refine ⟨.unblacklisted account, rfl, ⟨seated, frozen⟩, ?_⟩
    rw [apply, apply, AccountSet.erase_insert absent]
  | _ => contradiction

theorem blacklist_takesBack (who : Account) :
    (Call.blacklist who).TakesBack (.unblacklist who) := by
  apply takesBack_of_permits
  intro ledger caller event called permitted
  cases event with
  | unblacklisted account =>
    obtain rfl := Call.unblacklist.inj called
    obtain ⟨seated, frozen⟩ := permitted
    have free : (ledger.apply (.unblacklisted account)).isBlacklisted account = false :=
      (tracks_isBlacklisted account).apply_of_told (if_pos rfl)
    refine ⟨.blacklisted account, rfl, ⟨seated, free⟩, ?_⟩
    rw [apply, apply, AccountSet.insert_erase (isBlacklisted_iff.mp frozen)]
  | _ => contradiction

end Ledger

/-- The events that freeze and free an account take turns, the last of them decides, and either call
undoes the other. -/
theorem blacklist_history {genesis : Genesis} {ledger : Ledger}
    (built : genesis.build = .ok ledger) (feeDenomination : Denomination)
    {commands : List Command} (regular : ∀ command ∈ commands, command.Regular) (who : Account) :
    let chain : Chain := ⟨ledger, feeDenomination⟩
    let past := verdicts who (chain.deposited commands)
    let reached := (chain.after commands).ledger
    (past.IsChain (· ≠ ·) ∧
        ∀ first, past.head? = some first → (first = false ↔ who ∈ genesis.blacklist)) ∧
      (reached.isBlacklisted who = true ↔
        past.getLast? = some true ∨ past = [] ∧ who ∈ genesis.blacklist) ∧
      (Call.unblacklist who).TakesBack (.blacklist who) ∧
      (Call.blacklist who).TakesBack (.unblacklist who) := by
  intro chain past reached
  have evolves := chain.evolves_history regular
  have told : (chain.history commands).map (·.event) = chain.deposited commands :=
    chain.map_event_history regular
  have listed : chain.ledger.isBlacklisted who = true ↔ who ∈ genesis.blacklist := by
    rw [Genesis.isBlacklisted_of_build built, List.contains_iff_mem]
  have chained := evolves.isChain_verdicts who
  have final := evolves.isBlacklisted_eq who
  rw [told] at chained final
  refine ⟨⟨chained.tail, ?_⟩, ?_, Ledger.unblacklist_takesBack who,
    Ledger.blacklist_takesBack who⟩
  · intro first found
    obtain ⟨rest, parts⟩ := List.head?_eq_some_iff.mp found
    change (_ :: past).IsChain _ at chained
    rw [parts, List.isChain_cons_cons] at chained
    rw [← listed, ← Bool.not_eq_true]
    cases first <;> simpa using chained.1
  · change reached.isBlacklisted who = past.getLast?.getD _ at final
    rw [final]
    cases last : past.getLast? with
    | none =>
      have nothing := List.getLast?_eq_none_iff.mp last
      simp [nothing, listed]
    | some frozen =>
      have something : past ≠ [] := by
        rintro nothing
        simp [nothing] at last
      simp [something]

open SampleHost in
/-- Alice, whom a genesis lists twice, is freed once and frozen anew by the next blacklister. -/
theorem blacklist_history_of_listed_twice :
    let listing : Genesis := { genesis with blacklist := [alice, blacklister, alice] }
    let ledger : Ledger := { firstLedger with blacklist := .ofList [alice, blacklister, alice] }
    let chain : Chain := ⟨ledger, otherDenomination⟩
    let commands : List Command := [
      .dispatch (.signed blacklister) (.blacklist alice),
      .dispatch (.signed blacklister) (.unblacklist alice),
      .submit (.signed blacklister) (.call (.unblacklist alice)) [],
      .dispatch (.signed owner) (.appoint .blacklister charlie),
      .dispatch (.signed blacklister) (.blacklist alice),
      .dispatch (.signed charlie) (.blacklist bob),
      .submit (.signed charlie) (.call (.blacklist alice)) [],
      .dispatch (.signed charlie) (.unblacklist bob)]
    let reached := (chain.after commands).ledger
    let frozen := (chain.step (.dispatch (.signed blacklister) (.blacklist bob))).chain
    let freed := frozen.step (.dispatch (.signed blacklister) (.unblacklist bob))
    listing.build = .ok ledger ∧ (∀ command ∈ commands, command.Regular) ∧
      (verdicts alice (chain.deposited commands) = [false, true] ∧
        [false, true].IsChain (· ≠ ·) ∧ reached.isBlacklisted alice = true) ∧
      (verdicts bob (chain.deposited commands) = [true, false] ∧
        [true, false].IsChain (· ≠ ·) ∧ ¬ reached.isBlacklisted bob = true) ∧
      freed.reply = .done (.ok ()) ∧ freed.chain = chain := by
  intro listing ledger chain commands reached frozen freed
  have built : listing.build = .ok ledger := rfl
  have regular : ∀ command ∈ commands, command.Regular := by decide
  have alices : verdicts alice (chain.deposited commands) = [false, true] := by decide +kernel
  have bobs : verdicts bob (chain.deposited commands) = [true, false] := by decide +kernel
  obtain ⟨⟨alternates, _⟩, stands, _⟩ :=
    blacklist_history built otherDenomination regular alice
  obtain ⟨⟨alternatesToo, _⟩, standsToo, undone, _⟩ :=
    blacklist_history built otherDenomination regular bob
  rw [alices] at alternates stands
  rw [bobs] at alternatesToo standsToo
  exact ⟨built, regular, ⟨alices, alternates, stands.mpr (.inl rfl)⟩,
    ⟨bobs, alternatesToo, fun still => by simpa using standsToo.mp still⟩,
    undone chain blacklister rfl⟩

end Stablecoin
