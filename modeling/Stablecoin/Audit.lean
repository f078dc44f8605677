import Stablecoin.Event
import Stablecoin.Gate.Basic

/-! # The audit log

Every denial of a movement leaves a line, and so do the handing over of the ownership and the use
of the pause. `Audited` is a computation that may refuse and that writes lines on its way: what was
written before a refusal stays written.
-/

namespace Stablecoin

inductive LogLine
  | ownershipOffered (owner candidate : Account)
  | ownershipAccepted (owner : Account)
  | paused (pauser : Account)
  | unpaused (pauser : Account)
  | movementDenied (operation : Operation) (denial : Denial Account)
  | feePayerRejected (payer : Account)
  /-- An inbound packet names no local account as its receiver. -/
  | malformedReceiver
deriving DecidableEq, Repr

namespace LogLine

/-- Changes are reported at the level of information, refusals at the level of debugging. -/
def level : LogLine → String
  | ownershipOffered _ _ | ownershipAccepted _ | paused _ | unpaused _ => "info"
  | movementDenied _ _ | feePayerRejected _ | malformedReceiver => "debug"

def text : LogLine → String
  | ownershipOffered owner candidate => s!"ownership of {owner} offered to {candidate}"
  | ownershipAccepted owner => s!"ownership accepted by {owner}"
  | paused pauser => s!"module paused by {pauser}"
  | unpaused pauser => s!"module unpaused by {pauser}"
  | movementDenied operation denial => operation.label ++ " denied: " ++ denial.reason
  | feePayerRejected payer => s!"fee payer {payer} rejected"
  | malformedReceiver => "rejecting inbound packet with malformed receiver"

/-- A line as it is written: its level, then its words. -/
def render (line : LogLine) : String := line.level ++ ": " ++ line.text

end LogLine

/-- The line that a successful call of `caller` leaves beside its event. -/
def Event.notice? (event : Event) (caller : Account) : Option LogLine :=
  match event with
  | .ownershipOffered owner candidate => some (.ownershipOffered owner candidate)
  | .ownershipAccepted _ owner => some (.ownershipAccepted owner)
  | .paused => some (.paused caller)
  | .unpaused => some (.unpaused caller)
  | _ => none

/-- The outcome of a computation that may refuse, and the lines it wrote. -/
structure Audited (ε α : Type) where
  verdict : Except ε α
  log : List LogLine

namespace Audited

variable {ε ε' α β : Type}

instance : Monad (Audited ε) where
  pure value := ⟨.ok value, []⟩
  bind first next :=
    match first.verdict with
    | .error refusal => ⟨.error refusal, first.log⟩
    | .ok value => ⟨(next value).verdict, first.log ++ (next value).log⟩

def refuse (refusal : ε) (line : LogLine) : Audited ε α := ⟨.error refusal, [line]⟩

/-- Refuse without a line. -/
def refuseSilently (refusal : ε) : Audited ε α := ⟨.error refusal, []⟩

def mapError (f : ε → ε') (audited : Audited ε α) : Audited ε' α :=
  ⟨audited.verdict.mapError f, audited.log⟩

def onRefusal (audited : Audited ε α) (line : LogLine) : Audited ε α :=
  match audited.verdict with
  | .ok _ => audited
  | .error _ => { audited with log := audited.log ++ [line] }

@[simp] theorem verdict_pure (value : α) : (pure value : Audited ε α).verdict = .ok value := rfl

@[simp] theorem log_pure (value : α) : (pure value : Audited ε α).log = [] := rfl

@[simp] theorem verdict_bind (first : Audited ε α) (next : α → Audited ε β) :
    (first >>= next).verdict = first.verdict.bind fun value => (next value).verdict := by
  simp only [bind]
  split <;> simp [Except.bind, *]

@[simp] theorem log_bind (first : Audited ε α) (next : α → Audited ε β) :
    (first >>= next).log = first.log ++
      match first.verdict with
      | .error _ => []
      | .ok value => (next value).log := by
  simp only [bind]
  split <;> simp [*]

end Audited

end Stablecoin
