import Stablecoin.Ledger.Query
import Stablecoin.Packet.Relay
import Stablecoin.Transaction

/-! # Histories of a chain

A chain is a ledger together with the denomination that fees are paid in. Everything that can be
asked of it is a command; `Chain.step` answers one command and `Chain.run` a history of them. A
history goes on after a command that fails. Three commands write the stored state directly, past
all checks, as a migration would.
-/

namespace Stablecoin

structure Chain where
  ledger : Ledger
  feeDenomination : Denomination
deriving DecidableEq

/-- Everything that can be asked of a chain. -/
inductive Command
  | dispatch (origin : Origin) (call : Call)
  | query (query : Query)
  /-- Ask for leave to move value. -/
  | check (hook : Hook)
  | checkIntent (intent : Intent Account Denomination)
  /-- Screen a transaction without carrying it out. -/
  | validate (origin : Origin) (intents : List (Intent Account Denomination))
  | submit (origin : Origin) (payload : Payload) (intents : List (Intent Account Denomination))
  /-- Relay a packet to an application that would answer it with `answer`. -/
  | receive (packet : Packet) (answer : Ack)
  /-- Relay a packet to an application that takes it or not. -/
  | send (caller : Account) (packet : Packet) (taken : Bool)
  | setFeeDenomination (denomination : Denomination)
  | vacate (seat : Seat)
  | writeMinter (minter : Account) (record : MinterRecord)
deriving DecidableEq, Repr

inductive Reply
  /-- The result of a call or a hook. -/
  | done (result : Except CallError Unit)
  | answered (answer : Except Refusal Answer)
  | screened (verdict : Except (Denial Account) Unit)
  | validated (verdict : Except Invalidity Unit)
  | submitted (result : Except Invalidity (Except CallError Unit))
  /-- The answer to a packet, and how often the application was asked. -/
  | acknowledged (ack : Ack) (forwarded : Nat)
  | sent (result : Except CallError Unit) (forwarded : Nat)
  | written

/-- An application that counts the packets that reach it and treats all of them alike. -/
def TransferApp.counting (answer : Ack) (taken : Bool) : TransferApp Nat CallError where
  receive count _ := (answer, count + 1)
  send count _ _ := (if taken then .ok () else .error .unavailable, count + 1)

/-- The answer to one command, and all that it leaves behind. -/
structure Step where
  reply : Reply
  events : List Event
  log : List LogLine
  chain : Chain

namespace Chain

/-- A step that only looks. -/
def observed (chain : Chain) (reply : Reply) (log : List LogLine) : Step :=
  ⟨reply, [], log, chain⟩

/-- A step that ends with the ledger of an outcome. -/
def settled {ρ : Type} (chain : Chain) (outcome : Outcome ρ) (reply : ρ → Reply) : Step :=
  ⟨reply outcome.reply, outcome.events, outcome.log, { chain with ledger := outcome.ledger }⟩

def step (chain : Chain) : Command → Step
  | .dispatch origin call => chain.settled (chain.ledger.dispatch origin call) .done
  | .query query => chain.observed (.answered (chain.ledger.answer query)) []
  | .check hook =>
      let screened := chain.ledger.checkHook hook
      chain.observed (.done (screened.verdict.mapError .refused)) screened.log
  | .checkIntent intent =>
      let screened := chain.ledger.checkIntent intent
      chain.observed (.screened screened.verdict) screened.log
  | .validate origin intents =>
      let screened := chain.ledger.validate chain.feeDenomination origin intents
      chain.observed (.validated screened.verdict) screened.log
  | .submit origin payload intents =>
      chain.settled (chain.ledger.submit chain.feeDenomination origin payload intents) .submitted
  | .receive packet answer =>
      let relayed := chain.ledger.receivePacket (.counting answer true) 0 packet
      chain.observed (.acknowledged relayed.reply relayed.state) relayed.log
  | .send caller packet taken =>
      let app := TransferApp.counting (.success []) taken
      let relayed := chain.ledger.sendPacket .refused app 0 caller packet
      chain.observed (.sent relayed.reply relayed.state) relayed.log
  | .setFeeDenomination denomination =>
      ⟨.written, [], [], { chain with feeDenomination := denomination }⟩
  | .vacate seat =>
      ⟨.written, [], [], { chain with ledger := chain.ledger.assign seat none }⟩
  | .writeMinter minter record =>
      ⟨.written, [], [], { chain with
        ledger := { chain.ledger with minters := chain.ledger.minters.insert minter record } }⟩

def run (chain : Chain) : List Command → List Step
  | [] => []
  | command :: rest =>
      let step := chain.step command
      step :: step.chain.run rest

def after (chain : Chain) (commands : List Command) : Chain :=
  commands.foldl (fun current command => (current.step command).chain) chain

end Chain

end Stablecoin
