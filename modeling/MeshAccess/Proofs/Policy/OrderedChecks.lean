import MeshAccess.Proofs.Policy.ProviderChoice

/-! This file compares the decision about a request with the separate checks. -/

namespace MeshAccess

namespace DenyReason

/-- The reasons in the order of their checks. -/
def inOrder : List DenyReason := [.token, .connection, .target, .caller, .identity, .header]

/-- The reasons whose checks come before the one of the given reason. -/
def earlier (reason : DenyReason) : List DenyReason := inOrder.takeWhile (· ≠ reason)

theorem mem_inOrder (reason : DenyReason) : reason ∈ inOrder := by cases reason <;> decide

end DenyReason

/-- The item that a search finds is the one before which nothing passes. -/
theorem find?_eq_some_iff_takeWhile {α : Type} [DecidableEq α] {items : List α}
    {passes : α → Bool} {item : α} (member : item ∈ items) :
    items.find? passes = some item ↔
      passes item ∧ ∀ other ∈ items.takeWhile (· ≠ item), passes other = false := by
  induction items with
  | nil => cases member
  | cons head rest inductionHypothesis =>
      by_cases same : head = item
      · subst same
        rw [List.takeWhile_cons_of_neg (by simp)]
        constructor
        · exact fun found => ⟨List.find?_some found, by simp⟩
        · exact fun both => List.find?_cons_of_pos both.1
      · have later : item ∈ rest := (List.mem_cons.mp member).resolve_left (Ne.symm same)
        rw [List.find?_cons, List.takeWhile_cons_of_pos (by simpa using same), List.forall_mem_cons]
        cases passed : passes head with
        | true => simp [same]
        | false => simpa using inductionHypothesis later

namespace Decision

/-- The reason of a denial. -/
def reason? : Decision → Option DenyReason
  | .allow _ => none
  | .deny reason => some reason

/-- The verified token that a decision carries. -/
def verified? : Decision → Option VerifiedToken
  | .allow verified => verified
  | .deny _ => none

end Decision

theorem NameMap.eq_empty_of_isEmpty {α : Type} {map : NameMap α} (isEmpty : map.isEmpty = true) :
    map = .empty :=
  ext_find? fun name => isEmpty_iff.mp isEmpty name

theorem Policy.Registry.eq_empty_of_isEmpty {α : Type} {registry : Registry α}
    (isEmpty : registry.isEmpty = true) : registry = .empty := by
  obtain ⟨allowed, denied⟩ := Bool.and_eq_true_iff.mp isEmpty
  cases registry
  rw [empty, Registry.mk.injEq]
  exact ⟨NameMap.eq_empty_of_isEmpty allowed, NameMap.eq_empty_of_isEmpty denied⟩

namespace Policy.Store

/-- The verified token of a request, if its authentication does not fail. -/
def verified? (store : Store) (request : Request) : Option VerifiedToken :=
  match store.authenticate request.headers request.query with
  | .ok verified => verified
  | .error _ => none

/-- The claims of the verified token of a request. -/
def claims? (store : Store) (request : Request) : Option Token.Claims :=
  (store.verified? request).map VerifiedToken.claims

/-- What the check of a reason says by itself. The check of the claims is skipped if there are none
and no policy asks for any. -/
def denies (store : Store) (request : Request) : DenyReason → Bool
  | .token => (store.authenticate request.headers request.query).toOption.isNone
  | .connection => !store.permitsConnection ⟨request.caller.sourceAddress,
      request.caller.destinationAddress, request.caller.remoteAddress⟩
  | .target => !store.permitsTarget request.target
  | .caller => !store.permitsCaller request.caller (store.claims? request)
  | .identity =>
      if (store.claims? request).isNone ∧ store.identities.isEmpty then false
      else !store.permitsClaims (store.claims? request)
  | .header => !store.permitsHeaders request.headers

variable (store : Store) (request : Request)

theorem denies_identity :
    store.denies request .identity =
      (store.checksClaims (store.claims? request) &&
        !store.permitsClaims (store.claims? request)) := by
  rw [denies, checksClaims]
  cases store.claims? request <;> cases store.identities.isEmpty <;> rfl

/-- The decision is the first check in the order that denies, and an allowance if none does. -/
theorem authorize_eq_find? :
    store.authorize request =
      match DenyReason.inOrder.find? (store.denies request) with
      | some reason => .deny reason
      | none => .allow (store.verified? request) := by
  cases authenticated : store.authenticate request.headers request.query with
  | error rejection =>
      have denied : store.denies request .token = true := by
        rw [denies, authenticated]
        rfl
      rw [authorize, authenticated, DenyReason.inOrder, List.find?_cons_of_pos denied]
  | ok verified =>
      have passed : ¬ store.denies request .token = true := by
        rw [denies, authenticated]
        exact Bool.false_ne_true
      have carried : store.verified? request = verified := by rw [verified?, authenticated]
      have claims : verified.map VerifiedToken.claims = store.claims? request := by
        rw [claims?, carried]
      rw [authorize, authenticated, DenyReason.inOrder, List.find?_cons_of_neg passed, carried]
      simp only [List.find?_cons, List.find?_nil, denies_identity, claims]
      simp only [denies]
      cases store.permitsConnection _ with
      | false => rfl
      | true =>
          cases store.permitsTarget _ with
          | false => rfl
          | true =>
              cases store.permitsCaller _ _ with
              | false => rfl
              | true =>
                  cases store.checksClaims _ && !store.permitsClaims _ <;>
                    cases store.permitsHeaders _ <;> rfl

theorem reason?_authorize :
    (store.authorize request).reason? = DenyReason.inOrder.find? (store.denies request) := by
  rw [authorize_eq_find?]
  cases DenyReason.inOrder.find? (store.denies request) <;> rfl

theorem isAllowed_authorize_iff :
    (store.authorize request).isAllowed ↔ ∀ reason, store.denies request reason = false := by
  have noReason : (store.authorize request).isAllowed ↔
      DenyReason.inOrder.find? (store.denies request) = none := by
    rw [authorize_eq_find?]
    cases DenyReason.inOrder.find? (store.denies request) <;> simp [Decision.isAllowed]
  rw [noReason, List.find?_eq_none]
  simp only [DenyReason.mem_inOrder, true_imp_iff, Bool.not_eq_true]

variable {store request}

/-- An allowed request carries what its authentication gave. -/
theorem authenticate_of_isAllowed (allowed : (store.authorize request).isAllowed) :
    store.authenticate request.headers request.query =
      .ok (store.authorize request).verified? := by
  have passes := (isAllowed_authorize_iff store request).mp allowed
  have noReason : DenyReason.inOrder.find? (store.denies request) = none :=
    List.find?_eq_none.mpr fun reason _ => by simp [passes reason]
  have carried : (store.authorize request).verified? = store.verified? request := by
    rw [authorize_eq_find?, noReason]
    rfl
  have authenticated := passes .token
  rw [denies] at authenticated
  rw [carried, Store.verified?]
  cases given : store.authenticate request.headers request.query with
  | ok verified => rfl
  | error rejection =>
      rw [given] at authenticated
      cases authenticated

theorem eq_empty_of_isEmpty (isEmpty : store.isEmpty = true) : store = .empty := by
  simp only [Store.isEmpty, Bool.and_eq_true] at isEmpty
  obtain ⟨⟨⟨⟨⟨targets, callers⟩, identities⟩, connections⟩, headers⟩, providers⟩ := isEmpty
  cases store
  rw [empty, Store.mk.injEq]
  exact ⟨Registry.eq_empty_of_isEmpty targets, Registry.eq_empty_of_isEmpty callers,
    Registry.eq_empty_of_isEmpty identities, Registry.eq_empty_of_isEmpty connections,
    Registry.eq_empty_of_isEmpty headers, NameMap.eq_empty_of_isEmpty providers⟩

/-- The decision about a request is the ordered conjunction of its checks. -/
structure ConjoinsChecks (store : Store) (request : Request) : Prop where
  /-- A request is denied when a check by itself denies it. -/
  denied : (store.authorize request).isAllowed = false ↔ ∃ reason, store.denies request reason
  /-- The first of the checks that deny gives the reason. -/
  first : ∀ reason, (store.authorize request).reason? = some reason ↔
    store.denies request reason ∧ ∀ other ∈ reason.earlier, store.denies request other = false
  /-- A denial carries no token. -/
  bare : (store.authorize request).isAllowed = false → (store.authorize request).verified? = none
  /-- An allowance carries what the authentication gave. -/
  carried : (store.authorize request).isAllowed →
    store.authenticate request.headers request.query = .ok (store.authorize request).verified?
  /-- An allowance carries no token exactly when no provider found one. -/
  tokenless : (store.authorize request).isAllowed → ((store.authorize request).verified? = none ↔
    store.findToken? request.headers request.query = none)
  /-- A store without contents allows everything. -/
  unguarded : store.isEmpty → store.authorize request = .allow none

theorem conjoinsChecks (store : Store) (request : Request) : store.ConjoinsChecks request where
  denied := by
    rw [← Bool.not_eq_true, isAllowed_authorize_iff]
    simp
  first reason := by
    rw [reason?_authorize]
    exact find?_eq_some_iff_takeWhile (DenyReason.mem_inOrder reason)
  bare denied := by
    cases decision : store.authorize request with
    | allow verified =>
        rw [decision] at denied
        cases denied
    | deny reason => rfl
  carried := authenticate_of_isAllowed
  tokenless allowed := by
    rw [← authenticate_eq_none_iff, authenticate_of_isAllowed allowed, Except.ok.injEq]
  unguarded isEmpty := by
    rw [eq_empty_of_isEmpty isEmpty]
    rfl

end Policy.Store

end MeshAccess
