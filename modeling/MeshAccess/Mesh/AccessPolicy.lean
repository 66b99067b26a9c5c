import MeshAccess.Mesh.Permission
import MeshAccess.Mesh.Principal
import MeshAccess.Policy.Store
import MeshAccess.Wire.Reader

/-!
This file makes policies of access rules.

An access rule has permissions and principals. All its permissions together make one policy about the
target, and each principal makes policies of its own under the same name.
-/

namespace MeshAccess.Mesh

open Policy
open Wire

/-- The permissions and principals of one access rule. -/
structure AccessRule where
  permissions : List Permission
  principals : List Principal
  deriving Repr, Inhabited

namespace AccessRule

def ofMessage : Value → AccessRule
  | .message [.repeated permissions, .repeated principals] =>
      ⟨Permission.ofMessages permissions, Principal.ofMessages principals⟩
  | _ => default

/-- A policy under a name, unless its rule is empty. -/
def policy {α : Type} (name : String) (action : Action) (rule : α) (isEmpty : Bool) :
    List (NamedRule α) :=
  if isEmpty then [] else [⟨name, action, rule⟩]

/-- The policies that the rules of one principal make. A policy about the connection also has the
ranges of the destination. -/
def principalSnapshot (name : String) (action : Action)
    (destinations : Match.Condition Net.CidrRange) (rules : Principal.Rules) : Snapshot where
  targets := []
  callers := policy name action rules.caller rules.caller.isEmpty
  identities := policy name action rules.identity rules.identity.isEmpty
  connections := policy name action { rules.connection with destinations := destinations }
    rules.connection.isEmpty
  headers := policy name action ⟨rules.headers⟩ rules.headers.isEmpty
  providers := []

/-- The policies of an access rule. The ranges of the destination make a policy alone when no
principal makes one about the connection. -/
def snapshot (name : String) (action : Action) (rule : AccessRule) : Snapshot :=
  let permitted := Permission.Rules.ofPermissions rule.permissions
  let destinations := permitted.destinations
  let principals := rule.principals.filterMap Principal.rules?
  let first : Snapshot :=
    { Snapshot.empty with
      targets := policy name action permitted.target permitted.target.isEmpty }
  let second := (principals.map (principalSnapshot name action destinations)).foldl
    Snapshot.append .empty
  let isAlone := principals.all fun rules => rules.connection.isEmpty
  let last : Snapshot :=
    { Snapshot.empty with
      connections := policy name action ⟨.empty, destinations, .empty⟩
        (!isAlone || destinations.isEmpty) }
  first ++ second ++ last

end AccessRule

/-- Access rules under their names, with one action. -/
structure AccessRules where
  action : Int
  rules : List (String × AccessRule)
  deriving Repr, Inhabited

namespace AccessRules

def ofMessage : Value → AccessRules
  | .message [.plain (.int32 action), .map rules] =>
      ⟨action, rules.map fun entry => (entry.1, AccessRule.ofMessage entry.2)⟩
  | _ => default

/-- The action of a number. There is none for the number that asks for a log entry only, and unknown
numbers allow. -/
def actionOf? (number : Int) : Option Action :=
  if number = 1 then some .deny
  else if number = 2 then none
  else some .allow

/-- The policies of all rules in the order of their names. -/
def snapshot (rules : AccessRules) : Snapshot :=
  match actionOf? rules.action with
  | none => .empty
  | some action =>
      (rules.rules.map fun entry => entry.2.snapshot entry.1 action).foldl Snapshot.append .empty

/-- The access rules of a filter configuration, which may have none. -/
def decode? (content : List UInt8) : Option (Option AccessRules) := do
  match ← Wire.decode? .rbacFilter content with
  | .message [.optional rules] => return rules.map ofMessage
  | _ => none

end AccessRules

end MeshAccess.Mesh
