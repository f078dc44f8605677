import Stablecoin.Chain.History
import Stablecoin.Genesis
import Stablecoin.Ledger.Replay
import Stablecoin.Rehearsal
import Stablecoin.SampleHost
import Stablecoin.Schema
import Stablecoin.Proofs.Bank.Transactions
import Stablecoin.Proofs.Bank.Supply
import Stablecoin.Proofs.Gate.Denial
import Stablecoin.Proofs.Ledger.Judgement
import Stablecoin.Proofs.Ledger.Permission
import Stablecoin.Proofs.Ledger.Denial
import Stablecoin.Proofs.Ledger.Memory
import Stablecoin.Proofs.Wire.RoundTrip
import Stablecoin.Proofs.Chain.Evolution
import Stablecoin.Proofs.Chain.Success
import Stablecoin.Proofs.Genesis.Build
import Stablecoin.Proofs.Genesis.Endowment
import Stablecoin.Proofs.Authority.Coalition
import Stablecoin.Proofs.Authority.Justification
import Stablecoin.Proofs.Chain.EventLog
import Stablecoin.Proofs.Chain.Rollback
import Stablecoin.Proofs.Minting.Ceiling
import Stablecoin.Proofs.Pause.Standstill
import Stablecoin.Proofs.Blacklist.Freeze
import Stablecoin.Proofs.Authority.Succession
import Stablecoin.Proofs.Ledger.Mediation
import Stablecoin.Proofs.Packet.Passage
import Stablecoin.Proofs.Transaction.Admission
import Stablecoin.Proofs.Transaction.Submission
import Stablecoin.Proofs.Minting.Obstacle
import Stablecoin.Proofs.Minting.Accord
import Stablecoin.Proofs.Chain.Comparison
import Stablecoin.Proofs.Authority.Indifference
import Stablecoin.Proofs.Wire.Length
import Stablecoin.Proofs.Wire.Formats
import Stablecoin.Proofs.Ledger.Locality
import Stablecoin.Proofs.Account.Isolation
import Stablecoin.Proofs.Minting.Execution
import Stablecoin.Proofs.Minting.Batch
import Stablecoin.Proofs.Minting.Burning
import Stablecoin.Proofs.Ledger.Listing
import Stablecoin.Proofs.Minting.WindDown
import Stablecoin.Proofs.Blacklist.History
import Stablecoin.Proofs.Gate.Standard
import Stablecoin.Proofs.Gate.Composition
import Stablecoin.Proofs.Ledger.Reporting
import Stablecoin.Proofs.Chain.AuditLog
import Stablecoin.Proofs.Genesis.Entries
import Stablecoin.Proofs.Packet.Address
import Stablecoin.Proofs.Minting.Activity
