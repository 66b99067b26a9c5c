import MeshAccess.Token.Provider

/-! This file says what the locations of a provider find in a request. -/

namespace MeshAccess

/-- A search only depends on the items in which it can find something. -/
theorem findSome?_filter {α β : Type} {search : α → Option β} {isKind : α → Bool}
    (only : ∀ item, (search item).isSome → isKind item) (items : List α) :
    (items.filter isKind).findSome? search = items.findSome? search := by
  have same : (fun item => if isKind item = true then search item else none) = search := by
    funext item
    split
    next => rfl
    next other =>
      rw [eq_comm, ← Option.not_isSome_iff_eq_none]
      exact fun found => other (only item found)
  rw [← List.head?_filterMap, List.filterMap_filter, same, List.head?_filterMap]

/-- An item in which the search finds nothing can be left out. -/
theorem findSome?_without {α β : Type} {search : α → Option β} {item : α}
    (nothing : search item = none) (before after : List α) :
    (before ++ item :: after).findSome? search = (before ++ after).findSome? search := by
  rw [List.findSome?_append, List.findSome?_cons, nothing, List.findSome?_append]

/-- After the search has found something, later items do not count. -/
theorem findSome?_append_eq {α β : Type} {search : α → Option β} {before : List α}
    (early : before.findSome? search ≠ none) (first second : List α) :
    (before ++ first).findSome? search = (before ++ second).findSome? search := by
  obtain ⟨result, found⟩ := Option.ne_none_iff_exists'.mp early
  rw [List.findSome?_append, List.findSome?_append, found, Option.some_or, Option.some_or]

namespace Http

/-- The first readable value of a text is that of the header name that it spells. -/
theorem Headers.firstReadable?_eq (headers : Headers) (name : String) :
    headers.firstReadable? name = (HeaderName.ofText? name).bind fun header =>
      (headers.valuesOf header).findSome? HeaderValue.text? := by
  rw [firstReadable?, readable, values, List.head?_filterMap]
  cases HeaderName.ofText? name <;> rfl

/-- The values of a parameter in their order. -/
def Query.valuesOf (query : Query) (name : String) : List String :=
  (query.parameters.filter fun parameter => parameter.1 = name).map Prod.snd

theorem Query.first?_eq_head? (query : Query) (name : String) :
    query.first? name = (query.valuesOf name).head? := by
  rw [first?, valuesOf, List.lookup_eq_findSome?, ← List.head?_filterMap, ← List.filterMap_eq_map,
    List.filterMap_filter]
  congr 2
  funext parameter
  by_cases same : parameter.1 = name
  · simp [same]
  · simp [same, Ne.symm same]

end Http

namespace Token

namespace Location

def isHeader : Location → Bool
  | .header _ _ => true
  | .parameter _ => false

/-- The header name that a location gives. -/
def headerName? : Location → Option Http.HeaderName
  | .header name _ => Http.HeaderName.ofText? name
  | .parameter _ => none

end Location

namespace Provider

theorem dropStart?_eq_some_iff {start text token : String} :
    dropStart? start text = some token ↔ start ++ token = text := by
  rw [dropStart?, ← String.toList_inj, String.toList_append]
  constructor
  · intro dropped
    split at dropped
    next isStart =>
      obtain rfl := Option.some.inj dropped
      rw [String.toList_ofList]
      exact List.prefix_iff_eq_append.mp (List.isPrefixOf_iff_prefix.mp isStart)
    next => cases dropped
  · intro together
    rw [← together, if_pos (List.isPrefixOf_iff_prefix.mpr (List.prefix_append _ _)),
      List.drop_left, String.ofList_toList]

theorem nonEmpty?_eq_some_iff {text token : String} :
    nonEmpty? text = some token ↔ text = token ∧ token ≠ "" := by
  rw [nonEmpty?]
  by_cases isEmpty : text = ""
  · subst isEmpty
    exact ⟨nofun, fun ⟨same, other⟩ => absurd same.symm other⟩
  · rw [if_neg (mt String.isEmpty_iff.mp isEmpty), Option.some.injEq]
    exact ⟨fun same => ⟨same, same ▸ isEmpty⟩, And.left⟩

variable {provider : Provider} {headers : Http.Headers} {query : Http.Query}

/-- A location in a header finds what follows its start, unless the whole value is empty. -/
theorem headerToken?_header_eq_some_iff {name start token : String} :
    headerToken? headers (.header name start) = some token ↔
      headers.firstReadable? name = some (start ++ token) ∧ start ++ token ≠ "" := by
  rw [headerToken?, Option.bind_eq_some_iff]
  constructor
  · rintro ⟨value, first, found⟩
    split at found
    next => cases found
    next filled =>
      obtain rfl := dropStart?_eq_some_iff.mp found
      exact ⟨first, mt String.isEmpty_iff.mpr filled⟩
  · rintro ⟨first, filled⟩
    refine ⟨start ++ token, first, ?_⟩
    rw [if_neg (mt String.isEmpty_iff.mp filled)]
    exact dropStart?_eq_some_iff.mpr rfl

theorem headerToken?_eq_some_iff {location : Location} {token : String} :
    headerToken? headers location = some token ↔
      ∃ name start, location = .header name start ∧
        headers.firstReadable? name = some (start ++ token) ∧ start ++ token ≠ "" := by
  cases location with
  | header name start =>
      rw [headerToken?_header_eq_some_iff]
      constructor
      · exact fun both => ⟨name, start, rfl, both⟩
      · rintro ⟨_, _, ⟨⟩, both⟩
        exact both
  | parameter name => exact ⟨nofun, nofun⟩

theorem parameterValue?_eq_some_iff {location : Location} {value : String} :
    parameterValue? query location = some value ↔
      ∃ name, location = .parameter name ∧ query.first? name = some value := by
  cases location with
  | header name start => exact ⟨nofun, nofun⟩
  | parameter name =>
      constructor
      · exact fun first => ⟨name, rfl, first⟩
      · rintro ⟨_, ⟨⟩, first⟩
        exact first

/-- The token of a value of the usual header: what follows the usual start, or the whole value. -/
def tokenOfText? (text : String) : Option String := nonEmpty? ((dropStart? bearer text).getD text)

theorem ends_of_tokenOfText? {text token : String} (found : tokenOfText? text = some token) :
    token ≠ "" ∧ (text = token ∨ text = bearer ++ token) := by
  obtain ⟨isToken, filled⟩ := nonEmpty?_eq_some_iff.mp found
  refine ⟨filled, ?_⟩
  cases dropped : dropStart? bearer text with
  | none =>
      rw [dropped] at isToken
      exact .inl isToken
  | some rest =>
      rw [dropped] at isToken
      exact .inr (isToken ▸ (dropStart?_eq_some_iff.mp dropped).symm)

theorem authorizationToken?_eq (headers : Http.Headers) :
    authorizationToken? headers =
      ((headers.valuesOf .authorization).head?.bind Http.HeaderValue.text?).bind tokenOfText? := by
  rw [Option.bind_assoc]
  rfl

theorem isHeader_of_headerToken? {location : Location}
    (found : (headerToken? headers location).isSome) : location.isHeader = true := by
  cases location with
  | header name start => rfl
  | parameter name => cases found

theorem not_isHeader_of_parameterValue? {location : Location}
    (found : (parameterValue? query location).isSome) : (!location.isHeader) = true := by
  cases location with
  | header name start => cases found
  | parameter name => rfl

/-- What the header locations find. -/
def fromHeaders? (provider : Provider) (headers : Http.Headers) : Option String :=
  provider.locations.findSome? (headerToken? headers)

/-- What the parameter locations find. -/
def fromParameters? (provider : Provider) (query : Http.Query) : Option String :=
  provider.locations.findSome? (parameterValue? query)

theorem token?_of_fromHeaders? {token : String}
    (found : provider.fromHeaders? headers = some token) :
    provider.token? headers query = some token := by
  rw [token?, ← fromHeaders?, found]

theorem token?_of_fromParameters? {value : String}
    (noHeader : provider.fromHeaders? headers = none)
    (found : provider.fromParameters? query = some value) :
    provider.token? headers query = nonEmpty? value := by
  rw [token?, ← fromHeaders?, noHeader, ← fromParameters?, found]

theorem token?_of_neither (noHeader : provider.fromHeaders? headers = none)
    (noParameter : provider.fromParameters? query = none) :
    provider.token? headers query = authorizationToken? headers := by
  rw [token?, ← fromHeaders?, noHeader, ← fromParameters?, noParameter]

/-- Equal findings make equal tokens. -/
theorem token?_eq_of_findings {other : Provider} {otherHeaders : Http.Headers}
    {otherQuery : Http.Query}
    (sameHeaders : other.fromHeaders? otherHeaders = provider.fromHeaders? headers)
    (sameParameters : other.fromParameters? otherQuery = provider.fromParameters? query)
    (sameAuthorization : authorizationToken? otherHeaders = authorizationToken? headers) :
    other.token? otherHeaders otherQuery = provider.token? headers query := by
  rw [token?, token?, ← fromHeaders?, ← fromHeaders?, sameHeaders, ← fromParameters?,
    ← fromParameters?, sameParameters, sameAuthorization]

end Provider

end Token

end MeshAccess
