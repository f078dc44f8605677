import Stablecoin.Proofs.Ledger.Denial

/-! # What screening writes

Screening changes nothing, and every line that it writes is one for debugging.
-/

namespace Stablecoin

namespace Audited

variable {ε ε' α β : Type} {audited : Audited ε α}

/-- Every line that a computation writes is one for debugging. -/
def Debugs (audited : Audited ε α) : Prop := ∀ line ∈ audited.log, line.level = "debug"

theorem Debugs.pure (value : α) : (Pure.pure value : Audited ε α).Debugs :=
  List.forall_mem_nil _

theorem Debugs.refuse {refusal : ε} {line : LogLine} (level : line.level = "debug") :
    (refuse refusal line : Audited ε α).Debugs := List.forall_mem_singleton.mpr level

theorem Debugs.bind (first : audited.Debugs) {next : α → Audited ε β}
    (rest : ∀ value, (next value).Debugs) : (audited >>= next).Debugs := by
  intro line member
  rw [log_bind, List.mem_append] at member
  obtain member | member := member
  · exact first line member
  · split at member
    · contradiction
    · exact rest _ line member

theorem Debugs.mapError (debugs : audited.Debugs) (view : ε → ε') :
    (audited.mapError view).Debugs := debugs

theorem Debugs.onRefusal (debugs : audited.Debugs) {line : LogLine}
    (level : line.level = "debug") : (audited.onRefusal line).Debugs := by
  unfold Audited.onRefusal
  split
  · exact debugs
  · intro other member
    obtain member | rfl := List.mem_append.mp member |>.imp_right List.mem_singleton.mp
    · exact debugs other member
    · exact level

end Audited

namespace Ledger

variable (ledger : Ledger)

theorem evaluate_debugs (movement : Movement Account) : (ledger.evaluate movement).Debugs := by
  unfold evaluate
  split
  · exact .pure ()
  · exact .refuse rfl

theorem screen_debugs (denomination : Denomination) (movement : Movement Account) :
    (ledger.screen denomination movement).Debugs := by
  unfold screen
  split
  · exact ledger.evaluate_debugs movement
  · exact .pure ()

theorem checkIntent_debugs (intent : Intent Account Denomination) :
    (ledger.checkIntent intent).Debugs := ledger.screen_debugs _ _

theorem checkHook_debugs (hook : Hook) : (ledger.checkHook hook).Debugs := by
  rw [checkHook_eq_enforce]
  exact (ledger.screen_debugs _ _).mapError _

theorem screenIntents_debugs (intents : List (Intent Account Denomination)) :
    (ledger.screenIntents intents).Debugs := by
  induction intents with
  | nil => exact .pure ()
  | cons intent rest ih => exact ((ledger.checkIntent_debugs intent).mapError _).bind fun _ => ih

theorem validate_debugs (feeDenomination : Denomination) (origin : Origin)
    (intents : List (Intent Account Denomination)) :
    (ledger.validate feeDenomination origin intents).Debugs := by
  cases origin with
  | signed who =>
    have fee : (ledger.screenFee feeDenomination who).Debugs :=
      ((ledger.screen_debugs _ _).onRefusal rfl).mapError _
    exact (ledger.screenIntents_debugs intents).bind fun _ => fee
  | root => exact .pure ()
  | unsigned => exact .pure ()

theorem screenInbound_debugs (packet : Packet) : (ledger.screenInbound packet).Debugs := by
  unfold screenInbound
  split
  · split
    · exact .refuse rfl
    · exact (ledger.evaluate_debugs _).mapError _
  · exact .pure ()

theorem screenOutbound_debugs (caller : Account) (packet : Packet) :
    (ledger.screenOutbound caller packet).Debugs := by
  unfold screenOutbound
  split
  · split
    · exact List.forall_mem_nil _
    · exact (ledger.evaluate_debugs _).mapError _
  · exact .pure ()

/-- What a relay writes about an inbound packet is what screening writes. -/
theorem log_receivePacket {σ ε : Type} (app : TransferApp σ ε) (state : σ) (packet : Packet) :
    (ledger.receivePacket app state packet).log = (ledger.screenInbound packet).log := by
  unfold receivePacket
  dsimp only
  split <;> rfl

/-- What a relay writes about an outbound packet is what screening writes. -/
theorem log_sendPacket {σ ε : Type} (ofRefusal : Refusal → ε) (app : TransferApp σ ε) (state : σ)
    (caller : Account) (packet : Packet) :
    (ledger.sendPacket ofRefusal app state caller packet).log =
      (ledger.screenOutbound caller packet).log := by
  unfold sendPacket
  dsimp only
  split <;> rfl

end Ledger

end Stablecoin
