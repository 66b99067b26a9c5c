import MeshAccess.Proofs.Token.Location

/-! This file says which parts of a request its token can depend on. -/

namespace MeshAccess

/-- A search only depends on the order of the items in which it can find something. -/
theorem findSome?_eq_of_filter_eq {α β : Type} {search : α → Option β} {isKind : α → Bool}
    (only : ∀ item, (search item).isSome → isKind item) {first second : List α}
    (same : first.filter isKind = second.filter isKind) :
    first.findSome? search = second.findSome? search := by
  rw [← findSome?_filter only first, same, findSome?_filter only second]

/-- A search gives the same result with a function that agrees on the items. -/
theorem findSome?_congr {α β : Type} {search other : α → Option β} {items : List α}
    (agree : ∀ item ∈ items, search item = other item) :
    items.findSome? search = items.findSome? other := by
  induction items with
  | nil => rfl
  | cons head rest inductionHypothesis =>
      obtain ⟨first, others⟩ := List.forall_mem_cons.mp agree
      rw [List.findSome?_cons, List.findSome?_cons, first, inductionHypothesis others]

namespace Http

/-- Lists of header values that are the same up to the first value that can be read. What comes
after it is free. -/
inductive HeaderValue.AgreeUpToReadable : List HeaderValue → List HeaderValue → Prop where
  | nil : AgreeUpToReadable [] []
  | readable {value : HeaderValue} {first second : List HeaderValue}
      (isReadable : value.text?.isSome) : AgreeUpToReadable (value :: first) (value :: second)
  | next {value : HeaderValue} {first second : List HeaderValue}
      (rest : AgreeUpToReadable first second) : AgreeUpToReadable (value :: first) (value :: second)

/-- The first text is the same in both lists. -/
theorem HeaderValue.AgreeUpToReadable.findSome?_text? {first second : List HeaderValue}
    (agree : AgreeUpToReadable first second) :
    first.findSome? text? = second.findSome? text? := by
  induction agree with
  | nil => rfl
  | readable isReadable =>
      obtain ⟨text, reads⟩ := Option.isSome_iff_exists.mp isReadable
      rw [List.findSome?_cons, List.findSome?_cons, reads]
  | next rest inductionHypothesis =>
      rw [List.findSome?_cons, List.findSome?_cons, inductionHypothesis]

end Http

namespace Token

/-- The header locations are the same in the same order, and so are the parameter locations. The two
kinds may be mixed in any way. -/
structure Location.SameOrders (first second : List Location) : Prop where
  headers : first.filter isHeader = second.filter isHeader
  parameters : (first.filter fun location => !location.isHeader) =
    second.filter fun location => !location.isHeader

namespace Provider

open Http (Headers HeaderName HeaderValue Query)

/-- A header location of the provider gives the name. -/
def NamesHeader (provider : Provider) (name : HeaderName) : Prop :=
  ∃ location ∈ provider.locations, location.headerName? = some name

/-- A parameter location of the provider gives the name. -/
def NamesParameter (provider : Provider) (name : String) : Prop :=
  .parameter name ∈ provider.locations

/-- Two requests that differ in what the provider does not look at: in headers that it does not
name, in the values after the first readable one, in parameters that it does not name, and in the
values after the first one. -/
structure AgreeOnCarriers (provider : Provider) (headers other : Headers)
    (query otherQuery : Query) : Prop where
  authorization : other.valuesOf .authorization = headers.valuesOf .authorization
  headers : ∀ name, provider.NamesHeader name → name ≠ .authorization →
    HeaderValue.AgreeUpToReadable (other.valuesOf name) (headers.valuesOf name)
  parameters : ∀ name, provider.NamesParameter name →
    (otherQuery.valuesOf name).head? = (query.valuesOf name).head?

/-- Where the token of a request is in it. -/
inductive Carries (provider : Provider) (headers : Headers) (query : Query) (token : String) :
    Prop where
  /-- The token is what follows the start of the first readable value of a named header. -/
  | header {name start : String} (located : .header name start ∈ provider.locations)
      (first : headers.firstReadable? name = some (start ++ token))
  /-- The token is the first value of a named parameter. -/
  | parameter {name : String} (located : .parameter name ∈ provider.locations)
      (first : (query.valuesOf name).head? = some token)
  /-- The token is the first value of the usual header, with or without the usual start. -/
  | authorization {value : HeaderValue} {text : String}
      (first : (headers.valuesOf .authorization).head? = some value)
      (reads : value.text? = some text) (ends : text = token ∨ text = bearer ++ token)

variable {provider : Provider} {headers other : Headers} {query otherQuery : Query}
  {token : String}

theorem token?_of_sameOrders {locations : List Location}
    (same : Location.SameOrders provider.locations locations) (headers : Headers) (query : Query) :
    token? { provider with locations := locations } headers query =
      provider.token? headers query := by
  have sameHeaders : fromHeaders? { provider with locations := locations } headers =
      provider.fromHeaders? headers :=
    findSome?_eq_of_filter_eq (fun _ => isHeader_of_headerToken?) same.headers.symm
  have sameParameters : fromParameters? { provider with locations := locations } query =
      provider.fromParameters? query :=
    findSome?_eq_of_filter_eq (fun _ => not_isHeader_of_parameterValue?) same.parameters.symm
  exact token?_eq_of_findings sameHeaders sameParameters rfl

/-- The header locations find the same if the named headers have the same first texts. -/
theorem fromHeaders?_congr
    (agree : ∀ name, provider.NamesHeader name → (other.valuesOf name).findSome? HeaderValue.text? =
      (headers.valuesOf name).findSome? HeaderValue.text?) :
    provider.fromHeaders? other = provider.fromHeaders? headers := by
  refine findSome?_congr fun location member => ?_
  cases location with
  | parameter name => rfl
  | header name start =>
      have first : other.firstReadable? name = headers.firstReadable? name := by
        rw [Headers.firstReadable?_eq, Headers.firstReadable?_eq]
        exact Option.bind_congr fun header spelled => agree header ⟨_, member, spelled⟩
      rw [headerToken?, headerToken?, first]

theorem fromParameters?_congr
    (agree : ∀ name, provider.NamesParameter name →
      (otherQuery.valuesOf name).head? = (query.valuesOf name).head?) :
    provider.fromParameters? otherQuery = provider.fromParameters? query := by
  refine findSome?_congr fun location member => ?_
  cases location with
  | header name start => rfl
  | parameter name =>
      rw [parameterValue?, parameterValue?, Query.first?_eq_head?, Query.first?_eq_head?]
      exact agree name member

theorem token?_of_agreeOnCarriers
    (agree : provider.AgreeOnCarriers headers other query otherQuery) :
    provider.token? other otherQuery = provider.token? headers query := by
  refine token?_eq_of_findings (fromHeaders?_congr fun name named => ?_)
    (fromParameters?_congr agree.parameters) ?_
  · by_cases usual : name = .authorization
    · rw [usual, agree.authorization]
    · exact (agree.headers name named usual).findSome?_text?
  · rw [authorizationToken?, authorizationToken?, agree.authorization]

/-- If a header location finds a token, only the named headers count. -/
theorem token?_of_headerToken? {location : Location} (located : location ∈ provider.locations)
    (found : (headerToken? headers location).isSome)
    (agree : ∀ name, provider.NamesHeader name → other.valuesOf name = headers.valuesOf name)
    (query otherQuery : Query) :
    provider.token? other otherQuery = provider.token? headers query ∧
      (provider.token? headers query).isSome := by
  have present : (provider.fromHeaders? headers).isSome :=
    List.findSome?_isSome_iff.mpr ⟨location, located, found⟩
  -- The search ends in a header of either request and never comes to the rest.
  obtain ⟨token, holds⟩ := Option.isSome_iff_exists.mp present
  have alsoHolds : provider.fromHeaders? other = some token := by
    rw [← holds]
    exact fromHeaders?_congr fun name named => by rw [agree name named]
  rw [token?_of_fromHeaders? holds, token?_of_fromHeaders? alsoHolds]
  exact ⟨rfl, rfl⟩

theorem carries_of_token? (found : provider.token? headers query = some token) :
    provider.Carries headers query token := by
  cases inHeaders : provider.fromHeaders? headers with
  | some header =>
      rw [token?_of_fromHeaders? inHeaders] at found
      cases found
      obtain ⟨location, located, holds⟩ := List.exists_of_findSome?_eq_some inHeaders
      obtain ⟨name, start, rfl, first, -⟩ := headerToken?_eq_some_iff.mp holds
      exact .header located first
  | none =>
      cases inParameters : provider.fromParameters? query with
      | some value =>
          rw [token?_of_fromParameters? inHeaders inParameters, nonEmpty?_eq_some_iff] at found
          obtain ⟨rfl, -⟩ := found
          obtain ⟨location, located, holds⟩ := List.exists_of_findSome?_eq_some inParameters
          obtain ⟨name, rfl, first⟩ := parameterValue?_eq_some_iff.mp holds
          exact .parameter located (Query.first?_eq_head? query name ▸ first)
      | none =>
          rw [token?_of_neither inHeaders inParameters, authorizationToken?_eq] at found
          obtain ⟨text, read, isToken⟩ := Option.bind_eq_some_iff.mp found
          obtain ⟨value, first, reads⟩ := Option.bind_eq_some_iff.mp read
          exact .authorization first reads (ends_of_tokenOfText? isToken).2

/-- What the token of a request can depend on. -/
structure LooksAtCarriers (provider : Provider) : Prop where
  /-- The header locations may be mixed with the parameter locations in any way. -/
  reordered : ∀ locations, Location.SameOrders provider.locations locations →
    ∀ headers query, token? { provider with locations := locations } headers query =
      provider.token? headers query
  /-- What the provider does not look at can change. -/
  elsewhere : ∀ headers other query otherQuery,
    provider.AgreeOnCarriers headers other query otherQuery →
      provider.token? other otherQuery = provider.token? headers query
  /-- If the first readable value of a named header has the start and is not empty, there is a
  token, and all parameters and all headers without a location can change. -/
  decided : ∀ headers name start token, .header name start ∈ provider.locations →
    headers.firstReadable? name = some (start ++ token) → start ++ token ≠ "" →
      ∀ other query otherQuery, (∀ header, provider.NamesHeader header →
        other.valuesOf header = headers.valuesOf header) →
          provider.token? other otherQuery = provider.token? headers query ∧
            (provider.token? headers query).isSome
  /-- The token is a part of what the provider looks at. -/
  carried : ∀ headers query token, provider.token? headers query = some token →
    provider.Carries headers query token

theorem looksAtCarriers (provider : Provider) : provider.LooksAtCarriers where
  reordered _ same := token?_of_sameOrders same
  elsewhere _ _ _ _ := token?_of_agreeOnCarriers
  decided _ _ _ _ located first filled _ query otherQuery agree :=
    token?_of_headerToken? located
      (Option.isSome_of_eq_some (headerToken?_header_eq_some_iff.mpr ⟨first, filled⟩)) agree query
      otherQuery
  carried _ _ _ := carries_of_token?

end Provider

end Token

end MeshAccess
