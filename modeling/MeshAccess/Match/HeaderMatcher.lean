import MeshAccess.Http.Header
import MeshAccess.Match.StringMatcher

/-!
This file holds the matchers for header fields.
-/

namespace MeshAccess.Match

/-- What is asked of a header field. -/
inductive HeaderTest where
  | present
  | value (matcher : StringMatcher)
  deriving DecidableEq, Repr

/-- A test of the header field of one name, possibly inverted. -/
structure HeaderMatcher where
  name : String
  test : HeaderTest
  inverted : Bool
  deriving DecidableEq, Repr

namespace HeaderMatcher

/-- The test holds. Any readable value of a repeated field may satisfy it. -/
def passes (matcher : HeaderMatcher) (headers : Http.Headers) : Bool :=
  match matcher.test with
  | .present => headers.hasName matcher.name
  | .value test => (headers.readable matcher.name).any test.accepts

def accepts (matcher : HeaderMatcher) (headers : Http.Headers) : Bool :=
  matcher.passes headers != matcher.inverted

end HeaderMatcher

end MeshAccess.Match
