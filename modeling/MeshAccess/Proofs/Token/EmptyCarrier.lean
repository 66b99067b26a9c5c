import MeshAccess.Proofs.Token.Location

/-! This file says what a location with nothing in it does to the search for a token. -/

namespace MeshAccess.Token

open Http (Headers HeaderName HeaderValue Query)

namespace Location

/-- The location is made from a name and a start, where an empty start means the usual one, or from
the name of a parameter. -/
def IsMade (location : Location) : Prop :=
  (∃ name start, location = .ofHeader name start) ∨ ∃ name, location = .parameter name

/-- The location is in the request with nothing in it: the first readable value of the header is the
start alone, or the first value of the parameter is empty. -/
def IsEmptyIn (headers : Headers) (query : Query) : Location → Prop
  | .header name start => headers.firstReadable? name = some start
  | .parameter name => query.first? name = some ""

/-- The search for a token comes to a location that stands between others. It comes to a header
location if no earlier header location has found anything. It comes to a parameter location if no
header location has, and no earlier parameter is there. -/
def IsReached (headers : Headers) (query : Query) (before after : List Location) : Location → Prop
  | .header _ _ => ∀ earlier ∈ before, Provider.headerToken? headers earlier = none
  | .parameter _ => (∀ other ∈ before ++ after, Provider.headerToken? headers other = none) ∧
      ∀ earlier ∈ before, Provider.parameterValue? query earlier = none

/-- The result of a search that ends at an empty location. -/
def emptyResult : Location → Option String
  | .header _ _ => some ""
  | .parameter _ => none

/-- The start of such a header location is never empty. -/
theorem start_ne_of_isMade {name start : String} (made : IsMade (.header name start)) :
    start ≠ "" := by
  obtain ⟨_, given, same⟩ | ⟨_, ⟨⟩⟩ := made
  rw [ofHeader, header.injEq] at same
  rw [same.2]
  split
  next => decide
  next filled => exact mt String.isEmpty_iff.mpr filled

end Location

namespace Provider

variable {provider : Provider} {headers : Headers} {query : Query} {before after : List Location}

/-- A header location finds the empty token if its start is all of the value. -/
theorem headerToken?_eq_some_empty_iff {name start : String} :
    headerToken? headers (.header name start) = some "" ↔
      headers.firstReadable? name = some start ∧ start ≠ "" := by
  rw [headerToken?_header_eq_some_iff, String.append_empty]

theorem nonEmpty?_ne_some_empty (text : String) : nonEmpty? text ≠ some "" :=
  fun found => (nonEmpty?_eq_some_iff.mp found).2 rfl

theorem authorizationToken?_ne_some_empty : authorizationToken? headers ≠ some "" := by
  intro found
  rw [authorizationToken?_eq] at found
  obtain ⟨_, _, isToken⟩ := Option.bind_eq_some_iff.mp found
  exact (ends_of_tokenOfText? isToken).1 rfl

/-- The empty token comes from a header location. -/
theorem token?_eq_some_empty_iff :
    provider.token? headers query = some "" ↔ provider.fromHeaders? headers = some "" := by
  cases inHeaders : provider.fromHeaders? headers with
  | some token => rw [token?_of_fromHeaders? inHeaders]
  | none =>
      refine ⟨fun found => ?_, nofun⟩
      cases inParameters : provider.fromParameters? query with
      | some value =>
          rw [token?_of_fromParameters? inHeaders inParameters] at found
          exact absurd found (nonEmpty?_ne_some_empty value)
      | none =>
          rw [token?_of_neither inHeaders inParameters] at found
          exact absurd found authorizationToken?_ne_some_empty

section Header

variable {name start : String}

/-- An empty header location that is reached ends the search with the empty token. -/
theorem token?_of_header_reached
    (divided : provider.locations = before ++ .header name start :: after) (made : start ≠ "")
    (isEmpty : headers.firstReadable? name = some start)
    (reached : ∀ earlier ∈ before, headerToken? headers earlier = none) :
    provider.token? headers query = some "" :=
  token?_of_fromHeaders? (List.findSome?_eq_some_iff.mpr
    ⟨before, _, after, divided, headerToken?_eq_some_empty_iff.mpr ⟨isEmpty, made⟩, reached⟩)

/-- A header location that is not reached can be left out. -/
theorem token?_of_header_unreached
    (divided : provider.locations = before ++ .header name start :: after)
    (unreached : ¬ ∀ earlier ∈ before, headerToken? headers earlier = none) :
    provider.token? headers query =
      token? { provider with locations := before ++ after } headers query := by
  have sameHeaders : provider.fromHeaders? headers =
      fromHeaders? { provider with locations := before ++ after } headers := by
    rw [fromHeaders?, divided]
    exact findSome?_append_eq (mt List.findSome?_eq_none_iff.mp unreached) _ _
  have sameParameters : provider.fromParameters? query =
      fromParameters? { provider with locations := before ++ after } query := by
    rw [fromParameters?, divided]
    exact findSome?_without rfl before after
  exact token?_eq_of_findings sameHeaders sameParameters rfl

end Header

section Parameter

variable {name : String}

/-- The header locations find the same without a parameter location. -/
theorem fromHeaders?_of_parameter
    (divided : provider.locations = before ++ .parameter name :: after) (headers : Headers) :
    provider.fromHeaders? headers =
      fromHeaders? { provider with locations := before ++ after } headers := by
  rw [fromHeaders?, divided]
  exact findSome?_without rfl before after

/-- An empty parameter that is reached ends the search without a token. -/
theorem token?_of_parameter_reached
    (divided : provider.locations = before ++ .parameter name :: after)
    (isEmpty : query.first? name = some "")
    (reached : (Location.parameter name).IsReached headers query before after) :
    provider.token? headers query = none := by
  have noHeader : provider.fromHeaders? headers = none := by
    rw [fromHeaders?_of_parameter divided, fromHeaders?]
    exact List.findSome?_eq_none_iff.mpr reached.1
  have present : provider.fromParameters? query = some "" :=
    List.findSome?_eq_some_iff.mpr ⟨before, _, after, divided, isEmpty, reached.2⟩
  rw [token?_of_fromParameters? noHeader present]
  rfl

/-- A parameter location that is not reached can be left out. -/
theorem token?_of_parameter_unreached
    (divided : provider.locations = before ++ .parameter name :: after)
    (unreached : ¬ (Location.parameter name).IsReached headers query before after) :
    provider.token? headers query =
      token? { provider with locations := before ++ after } headers query := by
  have sameHeaders := fromHeaders?_of_parameter divided headers
  -- The search ends in a header or at an earlier parameter, and both stay.
  cases inHeaders : fromHeaders? { provider with locations := before ++ after } headers with
  | some token =>
      rw [token?_of_fromHeaders? inHeaders, token?_of_fromHeaders? (sameHeaders.trans inHeaders)]
  | none =>
      have early : before.findSome? (parameterValue? query) ≠ none := fun absent =>
        unreached ⟨List.findSome?_eq_none_iff.mp inHeaders, List.findSome?_eq_none_iff.mp absent⟩
      refine token?_eq_of_findings sameHeaders ?_ rfl
      rw [fromParameters?, divided]
      exact findSome?_append_eq early _ _

end Parameter

/-- What empty locations do to the search for a token. -/
structure HandlesEmptiness (provider : Provider) (headers : Headers) (query : Query) : Prop where
  /-- The search ends at an empty location that it reaches. -/
  reached : ∀ before location after, provider.locations = before ++ location :: after →
    location.IsEmptyIn headers query → location.IsReached headers query before after →
      provider.token? headers query = location.emptyResult
  /-- Otherwise the result is the one without the location. -/
  unreached : ∀ before location after, provider.locations = before ++ location :: after →
    location.IsEmptyIn headers query → ¬ location.IsReached headers query before after →
      provider.token? headers query =
        token? { provider with locations := before ++ after } headers query
  /-- The token is empty exactly when an empty header location is reached. -/
  empty : provider.token? headers query = some "" ↔
    ∃ before name start after, provider.locations = before ++ .header name start :: after ∧
      (Location.header name start).IsEmptyIn headers query ∧
        (Location.header name start).IsReached headers query before after

theorem handlesEmptiness (made : ∀ location ∈ provider.locations, location.IsMade)
    (headers : Headers) (query : Query) : provider.HandlesEmptiness headers query where
  reached before location after divided isEmpty reached := by
    have member : location ∈ provider.locations := by simp [divided]
    cases location with
    | header name start =>
        exact token?_of_header_reached divided (Location.start_ne_of_isMade (made _ member)) isEmpty
          reached
    | parameter name => exact token?_of_parameter_reached divided isEmpty reached
  unreached before location after divided _ unreached := by
    cases location with
    | header name start => exact token?_of_header_unreached divided unreached
    | parameter name => exact token?_of_parameter_unreached divided unreached
  empty := by
    rw [token?_eq_some_empty_iff, fromHeaders?, List.findSome?_eq_some_iff]
    constructor
    · rintro ⟨before, location, after, divided, found, reached⟩
      obtain ⟨name, start, rfl, -⟩ := headerToken?_eq_some_iff.mp found
      exact ⟨before, name, start, after, divided, (headerToken?_eq_some_empty_iff.mp found).1,
        reached⟩
    · rintro ⟨before, name, start, after, divided, isEmpty, reached⟩
      have member : .header name start ∈ provider.locations := by simp [divided]
      have filled := Location.start_ne_of_isMade (made _ member)
      exact ⟨before, _, after, divided, headerToken?_eq_some_empty_iff.mpr ⟨isEmpty, filled⟩,
        reached⟩

/-- An empty parameter hides the token of the usual header. -/
example : token? { (default : Provider) with locations := [.parameter "jwt"] }
    ⟨[(.authorization, ⟨[0x61]⟩)]⟩ ⟨[("jwt", "")]⟩ = none := by
  decide +kernel

/-- A provider with its tokens in a header or in a parameter. -/
def twoPlaces : Provider :=
  { (default : Provider) with locations := [.ofHeader "x-jwt" "Token ", .parameter "jwt"] }

/-- The header with the start `Token ` alone, and the usual header with a token. -/
def startAlone : Headers :=
  ⟨[(⟨"x-jwt"⟩, ⟨[0x54, 0x6F, 0x6B, 0x65, 0x6E, 0x20]⟩), (.authorization, ⟨[0x61]⟩)]⟩

theorem twoPlaces_isMade : ∀ location ∈ twoPlaces.locations, location.IsMade :=
  List.forall_mem_cons.mpr ⟨.inl ⟨_, _, rfl⟩, List.forall_mem_cons.mpr ⟨.inr ⟨_, rfl⟩, nofun⟩⟩

theorem firstReadable?_startAlone : startAlone.firstReadable? "x-jwt" = some "Token " := by
  decide +kernel

theorem handlesEmptiness_startAlone :
    (∀ location ∈ twoPlaces.locations, location.IsMade) ∧
      twoPlaces.token? startAlone .empty = some "" :=
  ⟨twoPlaces_isMade, (handlesEmptiness twoPlaces_isMade startAlone .empty).reached [] _ _ rfl
    firstReadable?_startAlone nofun⟩

/-- An empty location is not always passed over: the start alone hides the token of the usual
header. -/
theorem not_passesOver_empty :
    ¬ ∀ (provider : Provider) (headers : Headers) (query : Query) (before : List Location)
      (location : Location) (after : List Location),
      (∀ other ∈ provider.locations, other.IsMade) →
        provider.locations = before ++ location :: after → location.IsEmptyIn headers query →
          provider.token? headers query =
            token? { provider with locations := before ++ after } headers query := by
  intro passesOver
  have same := passesOver twoPlaces startAlone .empty [] _ _ twoPlaces_isMade rfl
    firstReadable?_startAlone
  have hidden : twoPlaces.token? startAlone .empty ≠
      token? { twoPlaces with locations := [.parameter "jwt"] } startAlone .empty := by
    decide +kernel
  exact hidden same

end Provider

end MeshAccess.Token
