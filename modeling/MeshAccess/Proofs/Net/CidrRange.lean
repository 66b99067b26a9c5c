import Mathlib.Data.Nat.Bitwise
import MeshAccess.Net.CidrRange

/-! This file says which addresses a range holds. -/

namespace MeshAccess.Net

namespace Address

/-- Two addresses of one family have the same leading bits. -/
def SharesBits (length : Nat) : Address → Address → Prop
  | .v4 first, .v4 second => ∀ index < length, first.getMsbD index = second.getMsbD index
  | .v6 first, .v6 second => ∀ index < length, first.getMsbD index = second.getMsbD index
  | _, _ => False

theorem SharesBits.symm {length : Nat} {first second : Address}
    (same : SharesBits length first second) : SharesBits length second first := by
  cases first <;> cases second
  case v4.v4 => exact fun index inside => (same index inside).symm
  case v6.v6 => exact fun index inside => (same index inside).symm
  all_goals exact same

theorem SharesBits.trans {length : Nat} {first second third : Address}
    (start : SharesBits length first second) (finish : SharesBits length second third) :
    SharesBits length first third := by
  cases first <;> cases second <;> cases third
  case v4.v4.v4 => exact fun index inside => (start index inside).trans (finish index inside)
  case v6.v6.v6 => exact fun index inside => (start index inside).trans (finish index inside)
  all_goals first | exact start.elim | exact finish.elim

/-- The empty text spells no address. -/
theorem parse?_empty : parse? "" = none := by decide

end Address

namespace CidrRange

open Address

/-- A block is a multiple of its size, so the quotients tell whether an address lies in it. -/
theorem mem_block_iff (free start address : Nat) :
    network free start ≤ address ∧ address ≤ broadcast free start ↔
      address / 2 ^ free = start / 2 ^ free := by
  have positive : 0 < 2 ^ free := Nat.two_pow_pos free
  have last : broadcast free start = start / 2 ^ free * 2 ^ free + 2 ^ free - 1 :=
    (Nat.add_sub_assoc positive _).symm
  rw [Nat.div_eq_iff positive, last]
  rfl

/-- The bits that a division leaves are the leading ones. -/
theorem getMsbD_eq_testBit {width length index : Nat} (fits : length ≤ width)
    (inside : index < length) (bits : BitVec width) :
    bits.getMsbD index =
      (bits.toNat / 2 ^ (width - length)).testBit (length - 1 - index) := by
  have place : length - 1 - index + (width - length) = width - 1 - index := by omega
  rw [Nat.testBit_div_two_pow, place, BitVec.testBit_toNat, BitVec.getMsbD_eq_getLsbD,
    decide_eq_true (Nat.lt_of_lt_of_le inside fits), Bool.true_and]

theorem div_two_pow_eq_iff {width length : Nat} (fits : length ≤ width)
    (first second : BitVec width) :
    first.toNat / 2 ^ (width - length) = second.toNat / 2 ^ (width - length) ↔
      ∀ index < length, first.getMsbD index = second.getMsbD index := by
  constructor
  · intro same index inside
    rw [getMsbD_eq_testBit fits inside, getMsbD_eq_testBit fits inside, same]
  · intro same
    refine Nat.eq_of_testBit_eq fun index => ?_
    by_cases inside : index < length
    · have place : length - 1 - (length - 1 - index) = index := by omega
      have bit := same (length - 1 - index) (by omega)
      rwa [getMsbD_eq_testBit fits (by omega), getMsbD_eq_testBit fits (by omega), place] at bit
    · -- Above the leading bits both quotients are zero.
      have outside : width ≤ index + (width - length) := by omega
      rw [Nat.testBit_div_two_pow, Nat.testBit_div_two_pow, BitVec.testBit_toNat,
        BitVec.testBit_toNat, BitVec.getLsbD_of_ge _ _ outside, BitVec.getLsbD_of_ge _ _ outside]

/-- A block of addresses of one width holds those with the leading bits of its first one. -/
theorem mem_block_iff_getMsbD {width length : Nat} (fits : length ≤ width)
    (start address : BitVec width) :
    (network (width - length) start.toNat ≤ address.toNat &&
        address.toNat ≤ broadcast (width - length) start.toNat) = true ↔
      ∀ index < length, start.getMsbD index = address.getMsbD index := by
  rw [Bool.and_eq_true, decide_eq_true_iff, decide_eq_true_iff, mem_block_iff, eq_comm,
    div_two_pow_eq_iff fits]

/-- The lengths of ranges leave bits free in both families. -/
theorem covers_iff {length : Nat} (fits : length ≤ maxLength) (start address : Address) :
    covers start length address = true ↔ SharesBits length start address := by
  cases start <;> cases address
  case v4.v4 start address => exact mem_block_iff_getMsbD fits start address
  case v6.v6 start address => exact mem_block_iff_getMsbD (Nat.le_trans fits (by decide)) start address
  all_goals exact ⟨nofun, False.elim⟩

/-- What a range asks of an address: to be the given one if there is no length, and otherwise to have
its leading bits, of which at most 32 may count. -/
def Asks : Option Nat → Address → Address → Prop
  | none, start, address => start = address
  | some length, start, address => length ≤ 32 ∧ SharesBits length start address

theorem matchesText_iff_of_parse? {range : CidrRange} {text : String} {start address : Address}
    (startSpelled : parse? range.address = some start) (spelled : parse? text = some address) :
    range.matchesText text = true ↔ Asks range.length start address := by
  have nonEmpty : text.isEmpty = false := by
    rw [Bool.eq_false_iff, ne_eq, String.isEmpty_iff]
    rintro rfl
    cases parse?_empty.symm.trans spelled
  rw [matchesText, nonEmpty, startSpelled, spelled]
  cases range.length with
  | none => exact decide_eq_true_iff
  | some length =>
      change (decide (length ≤ maxLength) && covers start length address) = true ↔ _
      rw [Bool.and_eq_true, decide_eq_true_iff]
      exact and_congr_right fun fits => covers_iff fits start address

theorem spelled_of_matchesText {range : CidrRange} {text : String}
    (holds : range.matchesText text = true) :
    ∃ start address, parse? range.address = some start ∧ parse? text = some address := by
  rw [matchesText] at holds
  split at holds
  · cases holds
  · split at holds
    next start address startSpelled spelled => exact ⟨start, address, startSpelled, spelled⟩
    next => cases holds

/-- A range holds a text exactly when both spell addresses and the address of the text is as the range
asks. -/
theorem matchesText_iff (range : CidrRange) (text : String) :
    range.matchesText text = true ↔
      ∃ start address, parse? range.address = some start ∧ parse? text = some address ∧
        Asks range.length start address := by
  constructor
  · intro holds
    obtain ⟨start, address, startSpelled, spelled⟩ := spelled_of_matchesText holds
    exact ⟨start, address, startSpelled, spelled,
      (matchesText_iff_of_parse? startSpelled spelled).mp holds⟩
  · rintro ⟨start, address, startSpelled, spelled, asked⟩
    exact (matchesText_iff_of_parse? startSpelled spelled).mpr asked

/-- The bits beyond the length of a range do not count, in the address that it is written with
either. -/
theorem matchesText_congr {first second : String} {length : Nat} {start other : Address}
    (firstSpelled : parse? first = some start) (secondSpelled : parse? second = some other)
    (same : SharesBits length start other) (text : String) :
    (CidrRange.mk first (some length)).matchesText text =
      (CidrRange.mk second (some length)).matchesText text := by
  cases spelled : parse? text with
  | none =>
      have refused (range : CidrRange) : range.matchesText text = false := by
        rw [Bool.eq_false_iff]
        intro holds
        obtain ⟨_, _, _, other⟩ := spelled_of_matchesText holds
        cases spelled.symm.trans other
      rw [refused, refused]
  | some address =>
      have firstAsks : (CidrRange.mk first (some length)).matchesText text = true ↔
          length ≤ 32 ∧ SharesBits length start address :=
        matchesText_iff_of_parse? firstSpelled spelled
      have secondAsks : (CidrRange.mk second (some length)).matchesText text = true ↔
          length ≤ 32 ∧ SharesBits length other address :=
        matchesText_iff_of_parse? secondSpelled spelled
      rw [Bool.eq_iff_iff, firstAsks, secondAsks]
      exact and_congr_right fun _ => ⟨same.symm.trans, same.trans⟩

end CidrRange

end MeshAccess.Net
