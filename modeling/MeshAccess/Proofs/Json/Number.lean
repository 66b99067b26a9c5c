import MeshAccess.Proofs.Json.Token
import Mathlib.Data.List.TakeWhile

/-! This file says that an integer of 64 bits can be read back from its text. -/

namespace MeshAccess.Json

theorem decimalDigits_eq (value : Nat) : decimalDigits value = Nat.toDigits 10 value :=
  Nat.toList_repr

theorem decimalDigits_ne_nil (value : Nat) : decimalDigits value ≠ [] := by
  rw [decimalDigits_eq]
  exact Nat.toDigits_ne_nil

theorem isDigit_of_mem_decimalDigits {value : Nat} {digit : Char}
    (member : digit ∈ decimalDigits value) : digit.isDigit := by
  rw [decimalDigits_eq] at member
  exact Nat.isDigit_of_mem_toDigits (by decide) (by decide) member

/-- The digits of a number that is not zero do not start with the digit zero. -/
theorem head?_decimalDigits_ne {value : Nat} (positive : 0 < value) :
    (decimalDigits value).head? ≠ some '0' := by
  induction value using Nat.strongRecOn with
  | ind value inductionHypothesis =>
      rw [decimalDigits_eq, Nat.toDigits_eq_if (by decide)]
      split
      case isTrue small =>
        have each : ∀ value < 10, 0 < value → [value.digitChar].head? ≠ some '0' := by decide
        exact each value small positive
      case isFalse large =>
        have rest := inductionHypothesis (value / 10) (by omega) (by omega)
        rw [decimalDigits_eq] at rest
        rwa [List.head?_append, Option.or_of_isSome (List.isSome_head?.mpr Nat.toDigits_ne_nil)]

theorem foldl_decimalDigits (value : Nat) :
    (decimalDigits value).foldl (fun value digit => 10 * value + Numeral.digitValue digit) 0 =
      value := by
  rw [decimalDigits_eq]
  exact Nat.ofDigitChars_toDigits (by decide) (by decide)

namespace Numeral

/-- The numeral of an integer. -/
def ofInteger (value : Int) : Numeral := ⟨value < 0, decimalDigits value.natAbs, [], none⟩

/-- An integer that fits in 64 bits, with a sign or without one. -/
def Fits (value : Int) : Prop := -(Nat.pow 2 63 : Nat) ≤ value ∧ value ≤ largestWord

variable {numeral : Numeral} {value : Int}

/-- A text of digits, with a sign or without one, spells an integer. -/
theorem ofText?_digits {digits : List Char} (isNotEmpty : digits ≠ [])
    (areDigits : ∀ digit ∈ digits, digit.isDigit)
    (isWhole : digits.head? = some '0' → digits.length = 1) :
    ofText? digits = some ⟨false, digits, [], none⟩ ∧
      ofText? ('-' :: digits) = some ⟨true, digits, [], none⟩ := by
  have taken : digits.takeWhile Char.isDigit = digits := List.takeWhile_eq_self_iff.mpr areDigits
  have dropped : digits.dropWhile Char.isDigit = [] := List.dropWhile_eq_nil_iff.mpr areDigits
  have accepted : ¬(digits.isEmpty || (digits.head? = some '0' && digits.length ≠ 1)) := by
    simpa [isNotEmpty] using isWhole
  constructor
  · have isNoSign (rest : List Char) (starts : digits = '-' :: rest) : False := by
      rw [starts] at areDigits
      cases areDigits '-' List.mem_cons_self
    rw [ofText?, taken, dropped, if_neg accepted]
    · rfl
    · exact isNoSign
  · rw [ofText?, taken, dropped, if_neg accepted]
    rfl

theorem ofText?_write (value : Int) :
    ofText? (Number.integer value).write = some (ofInteger value) := by
  have isWhole : (decimalDigits value.natAbs).head? = some '0' →
      (decimalDigits value.natAbs).length = 1 := by
    intro startsZero
    cases isZero : value.natAbs with
    | zero => rfl
    | succ size => exact absurd startsZero (head?_decimalDigits_ne (by omega))
  obtain ⟨natural, negative⟩ :=
    ofText?_digits (decimalDigits_ne_nil _) (fun _ => isDigit_of_mem_decimalDigits) isWhole
  rw [Number.write, ofInteger]
  split
  case isTrue isNegative => rw [negative, decide_eq_true isNegative]
  case isFalse isNatural => rw [natural, decide_eq_false isNatural]

theorem ofNumeral?_ofInteger (fits : Fits value) :
    Number.ofNumeral? (ofInteger value) = some (.integer value) := by
  obtain ⟨low, high⟩ := fits
  rw [Number.ofNumeral?]
  simp only [ofInteger, foldl_decimalDigits]
  by_cases negative : value < 0
  · have inRange : 0 < value.natAbs ∧ value.natAbs ≤ Nat.pow 2 63 := by omega
    have same : -(value.natAbs : Int) = value := by omega
    rw [if_neg (by simp [negative]), if_pos (by simp [negative, inRange]), same]
  · have inRange : value.natAbs ≤ largestWord := by omega
    have same : (value.natAbs : Int) = value := by omega
    rw [if_pos (by simp [negative, inRange]), same]

theorem fits_of_ofNumeral? (read : Number.ofNumeral? numeral = some (.integer value)) :
    Fits value := by
  simp only [Number.ofNumeral?] at read
  split at read
  case isTrue isNatural =>
    simp only [Bool.and_eq_true, decide_eq_true_eq] at isNatural
    cases read
    constructor <;> omega
  split at read
  case isTrue isNegative =>
    simp only [Bool.and_eq_true, decide_eq_true_eq] at isNegative
    cases read
    constructor <;> omega
  case isFalse =>
    obtain ⟨_, _, isFloat⟩ := Option.map_eq_some_iff.mp read
    cases isFloat

end Numeral

/-- The text of an integer spells its numeral. -/
theorem spells_integer (value : Int) :
    Token.Spells (Number.integer value).write [.numeral (.ofInteger value)] := by
  have areParts (part : Char) (member : part ∈ decimalDigits value.natAbs) :
      Token.isNumberPart part := by
    simp [Token.isNumberPart, isDigit_of_mem_decimalDigits member]
  have isNumeral := Numeral.ofText?_write value
  rw [Number.write] at isNumeral ⊢
  split at isNumeral
  case isTrue isNegative =>
    rw [if_pos isNegative]
    exact Token.spells_numeral (.inr rfl) areParts isNumeral
  case isFalse isNatural =>
    rw [if_neg isNatural]
    obtain ⟨first, rest, spelled⟩ :=
      List.exists_cons_of_ne_nil (decimalDigits_ne_nil value.natAbs)
    have isDigit : first ∈ decimalDigits value.natAbs := spelled ▸ List.mem_cons_self
    rw [spelled] at isNumeral areParts ⊢
    exact Token.spells_numeral (.inl (isDigit_of_mem_decimalDigits isDigit))
      (fun part member => areParts part (List.mem_cons_of_mem first member)) isNumeral

end MeshAccess.Json
