import Stablecoin.Basic

/-! # Byte codecs

A codec writes values as bytes and reads a value off the front of a byte string, handing back what
follows. Words have a fixed width and the least significant byte first; flags and options start
with a byte that is 0 or 1; a byte string is preceded by its length in compact form, of which only
the shortest spelling is read.
-/

namespace Stablecoin

/-- A way of writing values as bytes, and of reading them back. -/
structure Codec (α : Type) where
  encode : α → Bytes
  /-- Read a value off the front, and give the bytes that follow it. -/
  decode : Bytes → Option (α × Bytes)

namespace Codec

variable {α β : Type}

/-- Read a value that takes up all the bytes. -/
def decodeAll? (codec : Codec α) (bytes : Bytes) : Option α :=
  match codec.decode bytes with
  | some (value, []) => some value
  | _ => none

def unit : Codec Unit := ⟨fun _ => [], fun bytes => some ((), bytes)⟩

def byte : Codec UInt8 where
  encode value := [value]
  decode
    | value :: rest => some (value, rest)
    | [] => none

def pair (first : Codec α) (second : Codec β) : Codec (α × β) where
  encode value := first.encode value.1 ++ second.encode value.2
  decode bytes := do
    let (left, bytes) ← first.decode bytes
    let (right, bytes) ← second.decode bytes
    return ((left, right), bytes)

/-- Values that are seen as others, where not every other value stands for one. -/
def viaPartial (codec : Codec α) (view : β → α) (ofView? : α → Option β) : Codec β where
  encode value := codec.encode (view value)
  decode bytes := do
    let (seen, bytes) ← codec.decode bytes
    let value ← ofView? seen
    return (value, bytes)

def via (codec : Codec α) (view : β → α) (ofView : α → β) : Codec β :=
  codec.viaPartial view (some ∘ ofView)

/-- The numbers below `256 ^ width`, least significant byte first. -/
def littleEndian : (width : Nat) → Codec Nat
  | 0 => ⟨fun _ => [], fun bytes => some (0, bytes)⟩
  | width + 1 =>
    { encode := fun value => (value % 256).toUInt8 :: (littleEndian width).encode (value / 256)
      decode := fun
        | [] => none
        | low :: bytes => do
            let (high, bytes) ← (littleEndian width).decode bytes
            return (low.toNat + 256 * high, bytes) }

def word32 : Codec UInt32 := (littleEndian 4).via UInt32.toNat Nat.toUInt32

def word64 : Codec UInt64 := (littleEndian 8).via UInt64.toNat Nat.toUInt64

/-- A flag as 0 or 1. -/
def flag : Codec Bool :=
  byte.viaPartial Bool.toUInt8 fun
    | 0 => some false
    | 1 => some true
    | _ => none

def option (codec : Codec α) : Codec (Option α) where
  encode
    | none => flag.encode false
    | some value => flag.encode true ++ codec.encode value
  decode bytes := do
    let (present, bytes) ← flag.decode bytes
    if present then
      let (value, bytes) ← codec.decode bytes
      return (some value, bytes)
    else
      return (none, bytes)

/-- The numbers below this fit `width` bytes of which two bits are taken. -/
def compactLimit (width : Nat) : Nat := Nat.pow 256 width / 4

/-- Read a number behind two bits that mark its spelling, unless a shorter one has room for it. -/
def decodeMarked (width shorter : Nat) (bytes : Bytes) : Option (Nat × Bytes) := do
  let (spelled, rest) ← (littleEndian width).decode bytes
  if compactLimit shorter ≤ spelled / 4 then some (spelled / 4, rest) else none

/-- A number below 2 ^ 32 in the shortest of four spellings. The low two bits of the first byte tell
them apart. -/
def compact : Codec Nat where
  encode value :=
    if value < compactLimit 1 then (littleEndian 1).encode (4 * value)
    else if value < compactLimit 2 then (littleEndian 2).encode (4 * value + 1)
    else if value < compactLimit 4 then (littleEndian 4).encode (4 * value + 2)
    else 3 :: (littleEndian 4).encode value
  decode
    | [] => none
    | first :: rest =>
      match first.toNat % 4 with
      | 0 => some (first.toNat / 4, rest)
      | 1 => decodeMarked 2 1 (first :: rest)
      | 2 => decodeMarked 4 2 (first :: rest)
      | _ =>
        if first = 3 then do
          let (spelled, rest) ← (littleEndian 4).decode rest
          if compactLimit 4 ≤ spelled then some (spelled, rest) else none
        else none

def bytes : Codec Bytes where
  encode value := compact.encode value.length ++ value
  decode encoded := do
    let (length, rest) ← compact.decode encoded
    if length ≤ rest.length then some (rest.take length, rest.drop length) else none

/-- As many values as there are codecs, one after another. -/
def sequence : List (Codec α) → Codec (List α)
  | [] => ⟨fun _ => [], fun bytes => some ([], bytes)⟩
  | codec :: codecs =>
    { encode := fun
        | [] => []
        | value :: values => codec.encode value ++ (sequence codecs).encode values
      decode := fun bytes => do
        let (value, bytes) ← codec.decode bytes
        let (values, bytes) ← (sequence codecs).decode bytes
        return (value :: values, bytes) }

/-- A kind, followed by values whose codec depends on the kind. -/
def tagged (kinds : Codec α) (values : α → Codec β) : Codec (α × β) where
  encode value := kinds.encode value.1 ++ (values value.1).encode value.2
  decode bytes := do
    let (kind, bytes) ← kinds.decode bytes
    let (value, bytes) ← (values kind).decode bytes
    return ((kind, value), bytes)

/-- A kind as the byte of its position in a list of all kinds. -/
def position [DecidableEq α] (kinds : List α) : Codec α :=
  byte.viaPartial (fun kind => (kinds.idxOf kind).toUInt8) fun index => kinds[index.toNat]?

end Codec

/-- The account that a local address spells: exactly its eight bytes. -/
def Account.ofBytes? (address : Bytes) : Option Account := Codec.word64.decodeAll? address

end Stablecoin
