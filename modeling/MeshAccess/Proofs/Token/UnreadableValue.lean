import MeshAccess.Proofs.Token.Location

/-! This file says what unreadable header values do to the token of a request. -/

namespace MeshAccess

namespace Http

/-- The header without the values that cannot be read. -/
def Headers.onlyReadable (headers : Headers) : Headers :=
  ⟨headers.fields.filter fun field => field.2.text?.isSome⟩

theorem Headers.valuesOf_onlyReadable (headers : Headers) (name : HeaderName) :
    headers.onlyReadable.valuesOf name =
      (headers.valuesOf name).filter fun value => value.text?.isSome := by
  rw [valuesOf, valuesOf, onlyReadable, List.filter_map, List.filter_filter, List.filter_filter]
  simp only [Bool.and_comm, Function.comp_def]

theorem Headers.findSome?_onlyReadable (headers : Headers) (name : HeaderName) :
    (headers.onlyReadable.valuesOf name).findSome? HeaderValue.text? =
      (headers.valuesOf name).findSome? HeaderValue.text? := by
  rw [valuesOf_onlyReadable]
  exact findSome?_filter (fun _ => id) _

theorem Headers.firstReadable?_onlyReadable (headers : Headers) (name : String) :
    headers.onlyReadable.firstReadable? name = headers.firstReadable? name := by
  simp only [firstReadable?_eq, findSome?_onlyReadable]

/-- If all values can be read, the first text is that of the first value. -/
theorem Headers.head?_onlyReadable (headers : Headers) (name : HeaderName) :
    (headers.onlyReadable.valuesOf name).head?.bind HeaderValue.text? =
      (headers.valuesOf name).findSome? HeaderValue.text? := by
  rw [valuesOf_onlyReadable]
  induction headers.valuesOf name with
  | nil => rfl
  | cons value rest inductionHypothesis =>
      cases reads : value.text? with
      | some text =>
          rw [List.filter_cons_of_pos (by rw [reads]; rfl), List.findSome?_cons, reads]
          exact reads
      | none =>
          rw [List.filter_cons_of_neg (by rw [reads]; exact Bool.false_ne_true),
            List.findSome?_cons, reads]
          exact inductionHypothesis

end Http

namespace Token.Provider

open Http (Headers HeaderName HeaderValue Query)

theorem tokenOfText?_eq_none_iff {text : String} :
    tokenOfText? text = none ↔ text = "" ∨ text = bearer := by
  have isEmpty {rest : String} : nonEmpty? rest = none ↔ rest = "" := by
    rw [nonEmpty?]
    by_cases isEmpty : rest = "" <;> simp [isEmpty]
  rw [tokenOfText?, isEmpty]
  cases dropped : dropStart? bearer text with
  | some rest =>
      obtain rfl := dropStart?_eq_some_iff.mp dropped
      rw [Option.getD_some]
      constructor
      · rintro rfl
        exact .inr String.append_empty
      · rintro (none | same)
        · exact absurd none (by simp [bearer])
        · simpa using same
  | none =>
      rw [Option.getD_none]
      refine ⟨.inl, ?_⟩
      rintro (none | rfl)
      · exact none
      · rw [dropStart?_eq_some_iff.mpr String.append_empty] at dropped
        cases dropped

variable {provider : Provider} {headers : Headers} {query : Query}

/-- Without unreadable values the first text of the usual header decides. -/
theorem authorizationToken?_onlyReadable (headers : Headers) :
    authorizationToken? headers.onlyReadable =
      ((headers.valuesOf .authorization).findSome? HeaderValue.text?).bind tokenOfText? := by
  rw [authorizationToken?_eq, Headers.head?_onlyReadable]

theorem headerToken?_onlyReadable (headers : Headers) (location : Location) :
    headerToken? headers.onlyReadable location = headerToken? headers location := by
  cases location with
  | header name start => rw [headerToken?, headerToken?, Headers.firstReadable?_onlyReadable]
  | parameter name => rfl

theorem fromHeaders?_onlyReadable (provider : Provider) (headers : Headers) :
    provider.fromHeaders? headers.onlyReadable = provider.fromHeaders? headers := by
  rw [fromHeaders?, fromHeaders?, funext (headerToken?_onlyReadable headers)]

/-- The first value of the usual header cannot be read, but a later one can be, and it has a token.
-/
structure HidesAuthorization (headers : Headers) : Prop where
  unreadable : (headers.valuesOf .authorization).head?.bind HeaderValue.text? = none
  later : ∃ text, (headers.valuesOf .authorization).findSome? HeaderValue.text? = some text ∧
    text ≠ "" ∧ text ≠ bearer

theorem authorizationToken?_of_hides (hides : HidesAuthorization headers) :
    authorizationToken? headers = none ∧ (authorizationToken? headers.onlyReadable).isSome := by
  obtain ⟨text, first, filled⟩ := hides.later
  rw [authorizationToken?_eq, hides.unreadable, authorizationToken?_onlyReadable, first,
    Option.bind_some, ← Option.ne_none_iff_isSome, ne_eq, tokenOfText?_eq_none_iff, not_or]
  exact ⟨rfl, filled⟩

theorem authorizationToken?_of_not_hides (shows : ¬ HidesAuthorization headers) :
    authorizationToken? headers.onlyReadable = authorizationToken? headers := by
  rw [authorizationToken?_onlyReadable, authorizationToken?_eq]
  cases reads : (headers.valuesOf .authorization).head?.bind HeaderValue.text? with
  | some text =>
      obtain ⟨value, first, isText⟩ := Option.bind_eq_some_iff.mp reads
      obtain ⟨rest, values⟩ := List.head?_eq_some_iff.mp first
      rw [values, List.findSome?_cons, isText]
  | none =>
      cases found : (headers.valuesOf .authorization).findSome? HeaderValue.text? with
      | none => rfl
      | some text =>
          rw [Option.bind_some, Option.bind_none, tokenOfText?_eq_none_iff]
          exact Classical.byContradiction fun filled =>
            shows ⟨reads, text, found, not_or.mp filled⟩

/-- No location finds anything, and the usual header hides a token behind a value that cannot be
read. -/
structure HidesToken (provider : Provider) (headers : Headers) (query : Query) : Prop where
  noHeader : ∀ location ∈ provider.locations, headerToken? headers location = none
  noParameter : ∀ location ∈ provider.locations, parameterValue? query location = none
  authorization : HidesAuthorization headers

theorem token?_of_hides (hides : provider.HidesToken headers query) :
    provider.token? headers query = none ∧
      (provider.token? headers.onlyReadable query).isSome := by
  have noHeader : provider.fromHeaders? headers = none :=
    List.findSome?_eq_none_iff.mpr hides.noHeader
  have noParameter : provider.fromParameters? query = none :=
    List.findSome?_eq_none_iff.mpr hides.noParameter
  rw [token?_of_neither noHeader noParameter,
    token?_of_neither ((fromHeaders?_onlyReadable provider headers).trans noHeader) noParameter]
  exact authorizationToken?_of_hides hides.authorization

theorem token?_of_not_hides (shows : ¬ provider.HidesToken headers query) :
    provider.token? headers.onlyReadable query = provider.token? headers query := by
  have sameHeaders := fromHeaders?_onlyReadable provider headers
  by_cases hidden : HidesAuthorization headers
  · -- The usual header differs, so a location must have found something.
    cases inHeaders : provider.fromHeaders? headers with
    | some token =>
        rw [token?_of_fromHeaders? inHeaders, token?_of_fromHeaders? (sameHeaders.trans inHeaders)]
    | none =>
        cases inParameters : provider.fromParameters? query with
        | some value =>
            rw [token?_of_fromParameters? inHeaders inParameters,
              token?_of_fromParameters? (sameHeaders.trans inHeaders) inParameters]
        | none =>
            exact absurd ⟨List.findSome?_eq_none_iff.mp inHeaders,
              List.findSome?_eq_none_iff.mp inParameters, hidden⟩ shows
  · exact token?_eq_of_findings sameHeaders rfl (authorizationToken?_of_not_hides hidden)

/-- What values that cannot be read do to the search for a token. -/
structure SkipsUnreadable (provider : Provider) (headers : Headers) (query : Query) : Prop where
  /-- A location passes over them. -/
  locations : ∀ location, headerToken? headers.onlyReadable location = headerToken? headers location
  /-- They change the token exactly when one of them hides a token of the usual header. -/
  same : provider.token? headers.onlyReadable query = provider.token? headers query ↔
    ¬ provider.HidesToken headers query
  /-- A hidden token is not found at all. -/
  hidden : provider.HidesToken headers query → provider.token? headers query = none ∧
    (provider.token? headers.onlyReadable query).isSome

theorem skipsUnreadable (provider : Provider) (headers : Headers) (query : Query) :
    provider.SkipsUnreadable headers query where
  locations := headerToken?_onlyReadable headers
  same := by
    refine ⟨fun same hides => ?_, token?_of_not_hides⟩
    obtain ⟨absent, present⟩ := token?_of_hides hides
    rw [same, absent] at present
    cases present
  hidden := token?_of_hides

/-- Unreadable values are not always passed over: one before the token of the usual header hides
it. -/
theorem not_ignores_unreadable :
    ¬ ∀ (provider : Provider) (headers : Headers) (query : Query),
      provider.token? headers.onlyReadable query = provider.token? headers query := by
  intro ignores
  have same := ignores default ⟨[(.authorization, ⟨[0xFF]⟩), (.authorization, ⟨[0x61]⟩)]⟩ .empty
  revert same
  decide +kernel

end Token.Provider

end MeshAccess
