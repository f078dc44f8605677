import Stablecoin.Proofs.Ledger.Denial
import Stablecoin.Proofs.Wire.RoundTrip

/-! # What screening looks at

Whoever screens a movement asks the ledger whether it is paused and whether the parties to the
movement are frozen, and nothing else. So two ledgers that agree on this answer alike and write the
same lines, at every entry.
-/

namespace Stablecoin

namespace Packet

variable {packet : Packet} {who : Account}

/-- A local party to an inbound packet is spelled in it. -/
theorem spells_of_mem_inbound {receiver : Account}
    (spelled : Account.ofBytes? packet.receiver = some receiver)
    (party : who ∈ (packet.inboundMovement receiver).parties) : packet.Spells who := by
  rw [spells_iff]
  obtain sent | rfl := mem_parties_inboundMovement.mp party
  · exact .inl sent
  · exact .inr spelled

/-- A local party to an outbound packet is spelled in it, or sends it. -/
theorem spells_of_mem_outbound {caller sender : Account}
    (spelled : Account.ofBytes? packet.sender = some sender)
    (party : who ∈ (packet.outboundMovement caller sender).parties) :
    caller = who ∨ packet.Spells who := by
  rw [spells_iff]
  obtain called | rfl | received := mem_parties_outboundMovement.mp party
  · exact .inl called
  · exact .inr (.inl spelled)
  · exact .inr (.inr received)

end Packet

namespace Ledger

/-- The two ledgers are both paused or both running, and they have frozen the same of some
accounts. -/
structure AgreeOn (left right : Ledger) (Party : Account → Prop) : Prop where
  paused : left.paused = right.paused
  frozen : ∀ who, Party who → left.isBlacklisted who = right.isBlacklisted who

variable {left right : Ledger} {Party Fewer : Account → Prop}

theorem AgreeOn.mono (agree : left.AgreeOn right Party) (fewer : ∀ who, Fewer who → Party who) :
    left.AgreeOn right Fewer :=
  ⟨agree.paused, fun who party => agree.frozen who (fewer who party)⟩

theorem evaluate_congr {movement : Movement Account}
    (agree : left.AgreeOn right (· ∈ movement.parties)) :
    left.evaluate movement = right.evaluate movement := by
  have same : movement.denial? left.gateView = movement.denial? right.gateView :=
    Movement.denial?_congr agree.paused agree.frozen
  rw [evaluate, evaluate, Guard.check_standard, Guard.check_standard, same]

theorem screen_congr {denomination : Denomination} {movement : Movement Account}
    (agree : left.AgreeOn right (· ∈ movement.parties)) :
    left.screen denomination movement = right.screen denomination movement := by
  rw [screen, screen, evaluate_congr agree]

theorem checkIntent_congr {intent : Intent Account Denomination}
    (agree : left.AgreeOn right (· ∈ intent.parties)) :
    left.checkIntent intent = right.checkIntent intent :=
  screen_congr (intent.parties_movement ▸ agree)

theorem checkHook_congr {hook : Hook} (agree : left.AgreeOn right (· ∈ hook.parties)) :
    left.checkHook hook = right.checkHook hook := by
  rw [checkHook_eq_enforce, checkHook_eq_enforce, enforce, enforce,
    screen_congr (hook.parties_movement ▸ agree)]

theorem screenIntents_congr {intents : List (Intent Account Denomination)}
    (agree : ∀ intent ∈ intents, left.AgreeOn right (· ∈ intent.parties)) :
    left.screenIntents intents = right.screenIntents intents := by
  induction intents with
  | nil => rfl
  | cons intent rest ih =>
    have others := ih fun other member => agree other (List.mem_cons_of_mem _ member)
    rw [screenIntents, screenIntents, checkIntent_congr (agree intent List.mem_cons_self), others]

theorem screenFee_congr {payer : Account} (agree : left.AgreeOn right (· = payer))
    (feeDenomination : Denomination) :
    left.screenFee feeDenomination payer = right.screenFee feeDenomination payer := by
  have fee : left.AgreeOn right (· ∈ (Movement.fee payer).parties) :=
    agree.mono fun who party => List.mem_singleton.mp party
  rw [screenFee, screenFee, screen_congr fee]

/-- A transaction concerns whoever signed it and the parties to its intents. -/
theorem validate_of_agreeOn {origin : Origin} {intents : List (Intent Account Denomination)}
    (signer : left.AgreeOn right (origin = .signed ·))
    (agree : ∀ intent ∈ intents, left.AgreeOn right (· ∈ intent.parties))
    (feeDenomination : Denomination) :
    left.validate feeDenomination origin intents =
      right.validate feeDenomination origin intents := by
  cases origin with
  | signed who =>
    have payer : left.AgreeOn right (· = who) := signer.mono fun _ => congrArg Origin.signed ∘ .symm
    rw [validate, validate, screenIntents_congr agree, screenFee_congr payer]
  | root | unsigned => rfl

theorem screenInbound_congr {packet : Packet} (agree : left.AgreeOn right packet.Spells) :
    left.screenInbound packet = right.screenInbound packet := by
  unfold screenInbound
  split
  · split
    · rfl
    · next receiver spelled =>
      rw [evaluate_congr (agree.mono fun _ => Packet.spells_of_mem_inbound spelled)]
  · rfl

theorem screenOutbound_congr {caller : Account} {packet : Packet}
    (agree : left.AgreeOn right fun who => caller = who ∨ packet.Spells who) :
    left.screenOutbound caller packet = right.screenOutbound caller packet := by
  unfold screenOutbound
  split
  · split
    · rfl
    · next sender spelled =>
      rw [evaluate_congr (agree.mono fun _ => Packet.spells_of_mem_outbound spelled)]
  · rfl

section Relay

variable {σ ε : Type} (ofRefusal : Refusal → ε) (app : TransferApp σ ε) (state : σ)
  {packet : Packet}

theorem receivePacket_congr (agree : left.AgreeOn right packet.Spells) :
    left.receivePacket app state packet = right.receivePacket app state packet := by
  rw [receivePacket, receivePacket, screenInbound_congr agree]

theorem sendPacket_congr {caller : Account}
    (agree : left.AgreeOn right fun who => caller = who ∨ packet.Spells who) :
    left.sendPacket ofRefusal app state caller packet =
      right.sendPacket ofRefusal app state caller packet := by
  rw [sendPacket, sendPacket, screenOutbound_congr agree]

end Relay

end Ledger

end Stablecoin
