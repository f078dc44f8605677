import Stablecoin.Basic

/-! # Packets and acknowledgements

A packet carries tokens from one chain to another; it spells its sender and its receiver as bytes,
since a foreign address need not be an account here. Whoever receives a packet answers with an
acknowledgement, so that the sending chain can refund a transfer that failed.
-/

namespace Stablecoin

structure Packet where
  denomination : Denomination
  amount : Amount
  sender : Bytes
  receiver : Bytes
deriving DecidableEq, Repr

inductive Ack
  | success (result : Bytes)
  | failure (reason : Bytes)
deriving DecidableEq, Repr

namespace Ack

/-- Every refusal of a packet starts with these words. -/
def failureLead : String := "error handling packet"

/-- The acknowledgement that refuses a packet for a reason given in words. -/
def refusal (reason : String) : Ack :=
  .failure (failureLead ++ ": " ++ reason).toUTF8.data.toList

def isSuccess : Ack → Bool
  | success _ => true
  | failure _ => false

def text? : Ack → Option String
  | success _ => none
  | failure reason => String.fromUTF8? ⟨reason.toArray⟩

end Ack

end Stablecoin
