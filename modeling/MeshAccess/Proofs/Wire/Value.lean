import MeshAccess.Wire.Message
import Mathlib.Data.List.Forall2
import Mathlib.Tactic.Ring

/-! This file says which values a message can have, and how deep they are nested. -/

namespace MeshAccess.Wire

mutual

/-- The value is one of a kind. -/
inductive Value.HasKind : Kind → Value → Prop where
  | bool (value : Bool) : Value.HasKind (.scalar .bool) (.bool value)
  | int32 {value : Int} (low : -2 ^ 31 ≤ value) (high : value < 2 ^ 31) :
      Value.HasKind (.scalar .int32) (.int32 value)
  | uint32 {value : Nat} (small : value < 2 ^ 32) : Value.HasKind (.scalar .uint32) (.uint32 value)
  | double {bits : Nat} (small : bits < 2 ^ 64) : Value.HasKind (.scalar .double) (.double bits)
  | text (value : String) : Value.HasKind (.scalar .text) (.text value)
  | bytes (value : List UInt8) : Value.HasKind (.scalar .bytes) (.bytes value)
  | message {type : MessageType} {slots : List Slot}
      (fit : List.Forall₂ (fun field slot => Slot.Fits field.shape slot) type.fields slots) :
      Value.HasKind (.message type) (.message slots)

/-- The slot belongs to a field of a shape. -/
inductive Slot.Fits : Shape → Slot → Prop where
  | plain {tag : Nat} {scalar : Scalar} {value : Value}
      (kind : Value.HasKind (.scalar scalar) value) : Slot.Fits (.plain tag scalar) (.plain value)
  | missing (tag : Nat) (kind : Kind) : Slot.Fits (.optional tag kind) (.optional none)
  | optional {tag : Nat} {kind : Kind} {value : Value} (hasKind : Value.HasKind kind value) :
      Slot.Fits (.optional tag kind) (.optional (some value))
  | repeated {tag : Nat} {kind : Kind} {values : List Value}
      (haveKind : ∀ value ∈ values, Value.HasKind kind value) :
      Slot.Fits (.repeated tag kind) (.repeated values)
  | unchosen (variants : List Variant) : Slot.Fits (.choice variants) (.choice none)
  | choice {variants : List Variant} {variant : Variant} {value : Value}
      (chosen : variants.find? (fun other => other.tag = variant.tag) = some variant)
      (hasKind : Value.HasKind variant.kind value) :
      Slot.Fits (.choice variants) (.choice (some (variant.tag, value)))
  | map {tag : Nat} {type : MessageType} {entries : List (String × Value)}
      (ascending : entries.Pairwise fun first second => first.1 < second.1)
      (haveKind : ∀ entry ∈ entries, Value.HasKind (.message type) entry.2) :
      Slot.Fits (.map tag type) (.map entries)

end

/-- The slots belong to the fields. -/
def Fit : List Field → List Slot → Prop := List.Forall₂ fun field slot => slot.Fits field.shape

/-- The levels of nesting that an entry of a map takes, given those of its value. A value without
any field is not written. -/
def entryDepth (value : Value) (depth : Nat) : Nat := (if value.isAbsent then 0 else depth) + 1

mutual

/-- The levels of nesting that a value takes. A message takes one more than what is in it. -/
def Value.depth : Value → Nat
  | .message slots => slotsDepth slots + 1
  | _ => 0

def Slot.depth : Slot → Nat
  | .plain value => value.depth
  | .optional none => 0
  | .optional (some value) => value.depth
  | .repeated values => valuesDepth values
  | .choice none => 0
  | .choice (some (_, value)) => value.depth
  | .map entries => entriesDepth entries

def slotsDepth : List Slot → Nat
  | [] => 0
  | slot :: rest => max slot.depth (slotsDepth rest)

def valuesDepth : List Value → Nat
  | [] => 0
  | value :: rest => max value.depth (valuesDepth rest)

def entriesDepth : List (String × Value) → Nat
  | [] => 0
  | (_, value) :: rest => max (entryDepth value value.depth) (entriesDepth rest)

end

section Depth

variable {bound : Nat}

theorem slotsDepth_le_iff {slots : List Slot} :
    slotsDepth slots ≤ bound ↔ ∀ slot ∈ slots, slot.depth ≤ bound := by
  induction slots with
  | nil => simp [slotsDepth]
  | cons slot rest inductionHypothesis =>
      rw [slotsDepth, Nat.max_le, inductionHypothesis, List.forall_mem_cons]

theorem valuesDepth_le_iff {values : List Value} :
    valuesDepth values ≤ bound ↔ ∀ value ∈ values, value.depth ≤ bound := by
  induction values with
  | nil => simp [valuesDepth]
  | cons value rest inductionHypothesis =>
      rw [valuesDepth, Nat.max_le, inductionHypothesis, List.forall_mem_cons]

theorem entriesDepth_le_iff {entries : List (String × Value)} :
    entriesDepth entries ≤ bound ↔
      ∀ entry ∈ entries, entryDepth entry.2 entry.2.depth ≤ bound := by
  induction entries with
  | nil => simp [entriesDepth]
  | cons entry rest inductionHypothesis =>
      rw [entriesDepth, Nat.max_le, inductionHypothesis, List.forall_mem_cons]

theorem Value.depth_of_hasScalar {scalar : Scalar} {value : Value}
    (hasKind : value.HasKind (.scalar scalar)) : value.depth = 0 := by
  cases hasKind <;> rfl

end Depth

/-- The value is one of a kind and takes at most the given levels of nesting. -/
structure Value.Conforms (kind : Kind) (depth : Nat) (value : Value) : Prop where
  hasKind : value.HasKind kind
  shallow : value.depth ≤ depth

/-- The slot belongs to a field and takes at most the given levels of nesting. -/
structure Slot.Conforms (shape : Shape) (depth : Nat) (slot : Slot) : Prop where
  fits : slot.Fits shape
  shallow : slot.depth ≤ depth

section Absence

theorem Value.hasKind_zero (scalar : Scalar) : (zero scalar).HasKind (.scalar scalar) := by
  cases scalar with
  | bool => exact .bool false
  | int32 => exact .int32 (by decide) (by decide)
  | uint32 => exact .uint32 (by decide)
  | double => exact .double (by decide)
  | text => exact .text ""
  | bytes => exact .bytes []

theorem Value.isZero_iff {scalar : Scalar} {value : Value}
    (hasKind : value.HasKind (.scalar scalar)) : value.isZero ↔ value = zero scalar := by
  cases hasKind <;> simp [isZero, zero]

theorem Slot.fits_absent (shape : Shape) : (absent shape).Fits shape := by
  cases shape with
  | plain tag scalar => exact .plain (Value.hasKind_zero scalar)
  | optional tag kind => exact .missing tag kind
  | repeated tag kind => exact .repeated nofun
  | choice variants => exact .unchosen variants
  | map tag type => exact .map .nil nofun

theorem Slot.isAbsent_iff {shape : Shape} {slot : Slot} (fits : slot.Fits shape) :
    slot.isAbsent ↔ slot = absent shape := by
  cases fits with
  | plain hasKind => simp [isAbsent, absent, Value.isZero_iff hasKind]
  | _ => simp [isAbsent, absent]

theorem Slot.depth_absent (shape : Shape) : (absent shape).depth = 0 := by
  cases shape with
  | plain tag scalar => exact Value.depth_of_hasScalar (Value.hasKind_zero scalar)
  | _ => rfl

variable (type : MessageType)

theorem MessageType.hasKind_absent : type.absent.HasKind (.message type) := by
  refine .message ?_
  rw [absentSlots, List.forall₂_map_right_iff, List.forall₂_same]
  exact fun field _ => Slot.fits_absent field.shape

theorem MessageType.depth_absent : type.absent.depth = 1 := by
  have flat : slotsDepth type.absentSlots ≤ 0 := by
    rw [slotsDepth_le_iff, absentSlots, List.forall_mem_map]
    exact fun field _ => Nat.le_of_eq (Slot.depth_absent field.shape)
  rw [absent, Value.depth, Nat.le_zero.mp flat]

/-- The message without any field is the only one of its type that is absent. -/
theorem Value.isAbsent_iff {type : MessageType} {value : Value}
    (hasKind : value.HasKind (.message type)) : value.isAbsent ↔ value = type.absent := by
  cases hasKind with
  | @message _ slots fit =>
      rw [isAbsent, MessageType.absent, Value.message.injEq, MessageType.absentSlots]
      generalize type.fields = fields at fit ⊢
      induction fit with
      | nil => simp
      | cons fits rest inductionHypothesis =>
          rw [List.all_cons, Bool.and_eq_true, inductionHypothesis, List.map_cons,
            List.cons.injEq, Slot.isAbsent_iff fits]

theorem MessageType.isAbsent_absent : type.absent.isAbsent :=
  (Value.isAbsent_iff type.hasKind_absent).mpr rfl

end Absence

end MeshAccess.Wire
