/-!
This file holds the shape that all conditions share.

A condition is a list of groups, each of which must hold. A group holds when one of its matchers
accepts, or when none does and the group is negated.
-/

namespace MeshAccess.Match

/-- One of several matchers, possibly negated. -/
structure Group (α : Type) where
  matchers : List α
  negated : Bool
  deriving DecidableEq, Repr

namespace Group

def isEmpty {α : Type} (group : Group α) : Bool := group.matchers.isEmpty

/-- The group of one matcher. -/
def single {α : Type} (matcher : α) : Group α := ⟨[matcher], false⟩

/-- This function turns the sense of a group around. -/
def negate {α : Type} (group : Group α) : Group α := { group with negated := !group.negated }

/-- A group holds for a test when one of its matchers passes, turned around if it is negated. -/
def holds {α : Type} (group : Group α) (passes : α → Bool) : Bool :=
  group.matchers.any passes != group.negated

end Group

/-- Several groups, all of which must hold. No group at all is no constraint. -/
structure Condition (α : Type) where
  groups : List (Group α)
  deriving DecidableEq, Repr

namespace Condition

def empty {α : Type} : Condition α := ⟨[]⟩

instance {α : Type} : Inhabited (Condition α) := ⟨empty⟩

def isEmpty {α : Type} (condition : Condition α) : Bool := condition.groups.isEmpty

/-- This function adds a group at the end. A group without matchers adds nothing. -/
def push {α : Type} (condition : Condition α) (group : Group α) : Condition α :=
  if group.isEmpty then condition else ⟨condition.groups ++ [group]⟩

def holds {α : Type} (condition : Condition α) (passes : α → Bool) : Bool :=
  condition.groups.all fun group => group.holds passes

end Condition

end MeshAccess.Match
