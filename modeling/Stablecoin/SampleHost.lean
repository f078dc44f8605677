import Stablecoin.Chain.Basic
import Stablecoin.Genesis

/-! # A sample host

A small host around the ledger: a bank module with transfers of its own, an inspector that finds
the movements in them, and a transfer application that records every packet that reaches it.
-/

namespace Stablecoin.SampleHost

/-! ## Accounts and denominations -/

def owner : Account := 1
def masterMinter : Account := 2
def pauser : Account := 3
def blacklister : Account := 4
def controller : Account := 5
def minter : Account := 6

def alice : Account := 10
def bob : Account := 11
def charlie : Account := 12

/-- A denomination that the ledger does not control. -/
def otherDenomination : Denomination := 2

/-- One controller with one minter; the minter and alice hold funds. -/
def genesis : Genesis :=
  { Genesis.blank with
    owner := some owner
    masterMinter := some masterMinter
    pauser := some pauser
    blacklister := some blacklister
    controllers := [(controller, minter)]
    minters := [(minter, 100)]
    balances := [(minter, 50), (alice, 1000)] }

def firstLedger : Ledger where
  roles := ⟨some owner, none, some masterMinter, some pauser, some blacklister⟩
  paused := false
  blacklist := ∅
  controllers := .ofList [(controller, minter)]
  minters := .ofList [(minter, MinterRecord.mk 100 true)]
  bank := { (Bank.empty.withBalance minter 50).withBalance alice 1000 with issuance := 1050 }

theorem build_genesis : genesis.build = .ok firstLedger := rfl

def firstChain : Chain := ⟨firstLedger, otherDenomination⟩

/-! ## Finding movements in calls -/

inductive BankCall
  | transferAllowDeath (receiver : Account) (amount : Amount)
  | transferKeepAlive (receiver : Account) (amount : Amount)
  | forceTransfer (sender receiver : Account) (amount : Amount)
  | transferAll (receiver : Account) (keepAlive : Bool)
deriving DecidableEq, Repr

/-- Everything that a transaction can ask of the host. -/
inductive HostCall
  | ledger (call : Call)
  | bank (call : BankCall)
  | remark
deriving DecidableEq, Repr

/-- The movements found in a call. Only the two plain transfers are recognized. -/
def inspect (signer : Account) : HostCall → List (Intent Account Denomination)
  | .bank (.transferAllowDeath receiver amount) | .bank (.transferKeepAlive receiver amount) =>
      [.send signer receiver controlled amount]
  | _ => []

/-- The movements found in a transaction; without a signer, nothing is looked for. -/
def intentsOf (origin : Origin) (call : HostCall) : List (Intent Account Denomination) :=
  match origin with
  | .signed who => inspect who call
  | .root | .unsigned => []

/-! ## Recording packets -/

structure Record where
  received : List Packet
  sent : List (Account × Packet)
deriving DecidableEq, Repr

/-- Takes every packet and records it. -/
def recorder : TransferApp Record CallError where
  receive record packet :=
    (.success [1], { record with received := record.received ++ [packet] })
  send record caller packet := (.ok (), { record with sent := record.sent ++ [(caller, packet)] })

/-! ## The host -/

/-- The host: a chain, and what its transfer application recorded. -/
structure Host where
  chain : Chain
  record : Record
deriving DecidableEq

def start (ledger : Ledger) : Host := ⟨⟨ledger, otherDenomination⟩, ⟨[], []⟩⟩

inductive Request
  | dispatch (origin : Origin) (call : Call)
  | setFeeDenomination (denomination : Denomination)
  | inspect (signer : Account) (call : HostCall)
  | validate (origin : Origin) (call : HostCall)
  | receive (packet : Packet)
  | send (caller : Account) (packet : Packet)
deriving DecidableEq, Repr

inductive Response
  | replied (reply : Reply)
  | found (intents : List (Intent Account Denomination))
  | acknowledged (ack : Ack)
  | sent (result : Except CallError Unit)

structure Turn where
  response : Response
  log : List LogLine
  host : Host

/-- Answer a request that concerns the chain alone. -/
def Host.turn (host : Host) (command : Command) : Turn :=
  let step := host.chain.step command
  ⟨.replied step.reply, step.log, { host with chain := step.chain }⟩

def Host.step (host : Host) : Request → Turn
  | .dispatch origin call => host.turn (.dispatch origin call)
  | .setFeeDenomination denomination => host.turn (.setFeeDenomination denomination)
  | .inspect signer call => ⟨.found (SampleHost.inspect signer call), [], host⟩
  | .validate origin call => host.turn (.validate origin (intentsOf origin call))
  | .receive packet =>
      let relayed := host.chain.ledger.receivePacket recorder host.record packet
      ⟨.acknowledged relayed.reply, relayed.log, { host with record := relayed.state }⟩
  | .send caller packet =>
      let relayed := host.chain.ledger.sendPacket .refused recorder host.record caller packet
      ⟨.sent relayed.reply, relayed.log, { host with record := relayed.state }⟩

def Host.run (host : Host) : List Request → List Turn
  | [] => []
  | request :: rest =>
      let turn := host.step request
      turn :: turn.host.run rest

end Stablecoin.SampleHost
