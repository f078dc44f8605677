import Std.Data.ExtTreeMap
import Std.Data.ExtTreeSet

/-! # Accounts, amounts and denominations

Accounts and amounts are 64-bit words, denominations 32-bit words. Exactly one denomination is
`controlled`: it is the one that the ledger mints, burns and guards; all others pass by unseen.

Tables keyed by accounts are ordered and extensional, so two tables are equal as soon as they
answer every look-up alike, and listing one gives its entries in ascending order of the accounts
whatever the history of insertions and removals was.
-/

namespace Stablecoin

/-- An account, named by a 64-bit word. -/
abbrev Account := UInt64

abbrev Amount := UInt64

/-- The name of a kind of token. -/
abbrev Denomination := UInt32

abbrev Bytes := List UInt8

/-- The denomination that the ledger mints, burns and guards. -/
def controlled : Denomination := 1

/-- A table with at most one entry for an account, listed in ascending order of the accounts. -/
abbrev AccountMap (β : Type) := Std.ExtTreeMap Account β

abbrev AccountSet := Std.ExtTreeSet Account

/-- The sum of two amounts, when a word can hold it. -/
def Amount.add? (left right : Amount) : Option Amount :=
  if left.toNat + right.toNat < UInt64.size then some (left + right) else none

theorem Amount.add?_eq_some_iff {left right sum : Amount} :
    Amount.add? left right = some sum ↔ left.toNat + right.toNat = sum.toNat := by
  have bound := sum.toNat_lt
  simp only [Amount.add?, Option.ite_none_right_eq_some, Option.some.injEq,
    ← UInt64.toNat_inj, UInt64.toNat_add, UInt64.size]
  omega

theorem Amount.add?_eq_none_iff {left right : Amount} :
    Amount.add? left right = none ↔ UInt64.size ≤ left.toNat + right.toNat := by
  simp [Amount.add?]

/-- One amount less another, and nothing when the other is larger. -/
def Amount.saturatingSub (left right : Amount) : Amount :=
  if right ≤ left then left - right else 0

theorem Amount.saturatingSub_of_le {left right : Amount} (covered : right ≤ left) :
    left.saturatingSub right = left - right := if_pos covered

end Stablecoin
