import MeshAccess.Net.Address

/-!
This file holds ranges of addresses.
-/

namespace MeshAccess.Net

/-- A range is the text of an address with the number of the leading bits that count. Without a
number the range is the single address. -/
structure CidrRange where
  address : String
  length : Option Nat
  deriving DecidableEq, Repr

namespace CidrRange

/-- The largest length of a range, for both families. -/
def maxLength : Nat := 32

/-- The first address of the block of `2 ^ free` addresses that holds the given one. -/
def network (free address : Nat) : Nat := address / Nat.pow 2 free * Nat.pow 2 free

/-- The last address of the block of `2 ^ free` addresses that holds the given one. -/
def broadcast (free address : Nat) : Nat := network free address + (Nat.pow 2 free - 1)

/-- The address lies in the block of the range. Addresses of two families never do. -/
def covers (range : Address) (length : Nat) (address : Address) : Bool :=
  match range, address with
  | .v4 start, .v4 bits =>
      network (32 - length) start.toNat ≤ bits.toNat &&
        bits.toNat ≤ broadcast (32 - length) start.toNat
  | .v6 start, .v6 bits =>
      network (128 - length) start.toNat ≤ bits.toNat &&
        bits.toNat ≤ broadcast (128 - length) start.toNat
  | _, _ => false

/-- The range holds the address that a text spells. No range holds a text that spells none. -/
def matchesText (range : CidrRange) (text : String) : Bool :=
  if text.isEmpty then false
  else
    match Address.parse? range.address, Address.parse? text with
    | some start, some address =>
        match range.length with
        | none => start = address
        | some length => length ≤ maxLength && covers start length address
    | _, _ => false

end CidrRange

end MeshAccess.Net
