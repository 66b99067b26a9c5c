import MeshAccess.Match.HeaderMatcher
import MeshAccess.Net.CidrRange
import MeshAccess.Text.Blank
import MeshAccess.Wire.Message

/-!
This file holds the patterns of the mesh configuration and makes matchers of them.

A pattern that is blank makes no matcher.
-/

namespace MeshAccess.Mesh

open Match
open Wire

/-- A pattern for texts. -/
structure TextPattern where
  test : Option (Comparison × String)
  ignoreCase : Bool
  deriving DecidableEq, Repr, Inhabited

/-- The pattern of a regular expression. -/
def regexText : Value → String
  | .message [.plain (.text pattern)] => pattern
  | _ => ""

namespace TextPattern

/-- The comparison and the pattern of a variant. -/
def testOf? (tag : Nat) (value : Value) : Option (Comparison × String) :=
  match tag, value with
  | 1, .text pattern => some (.exact, pattern)
  | 2, .text pattern => some (.start, pattern)
  | 3, .text pattern => some (.finish, pattern)
  | 5, value => some (.regex, regexText value)
  | 7, .text pattern => some (.contains, pattern)
  | _, _ => none

def ofMessage : Value → TextPattern
  | .message [.choice test, .plain (.bool ignoreCase)] =>
      ⟨test.bind fun (tag, value) => testOf? tag value, ignoreCase⟩
  | _ => default

/-- The matcher of a comparison, unless its pattern is blank. -/
def matcherOf? (test : Comparison × String) (ignoreCase : Bool) : Option StringMatcher :=
  if Text.Blank.isAllBlank test.2 then none else some ⟨test.1, test.2, ignoreCase⟩

def matcher? (pattern : TextPattern) : Option StringMatcher :=
  pattern.test.bind fun test => matcherOf? test pattern.ignoreCase

end TextPattern

/-- What a header pattern asks for. A comparison of its own ignores case. -/
inductive HeaderTestPattern where
  | comparison (comparison : Comparison) (pattern : String)
  | present (value : Bool)
  | text (pattern : TextPattern)
  deriving DecidableEq, Repr

namespace HeaderTestPattern

def ofVariant? (tag : Nat) (value : Value) : Option HeaderTestPattern :=
  match tag, value with
  | 4, .text pattern => some (.comparison .exact pattern)
  | 7, .bool value => some (.present value)
  | 9, .text pattern => some (.comparison .start pattern)
  | 10, .text pattern => some (.comparison .finish pattern)
  | 11, value => some (.comparison .regex (regexText value))
  | 12, .text pattern => some (.comparison .contains pattern)
  | 13, value => some (.text (.ofMessage value))
  | _, _ => none

/-- The matcher for the value of a header field. -/
def matcher? : HeaderTestPattern → Option StringMatcher
  | .comparison kind pattern => TextPattern.matcherOf? (kind, pattern) true
  | .present _ => none
  | .text pattern => pattern.matcher?

/-- The test of a header field. -/
def test? : HeaderTestPattern → Option HeaderTest
  | .present true => some .present
  | pattern => pattern.matcher?.map .value

end HeaderTestPattern

/-- A pattern for header fields. -/
structure HeaderPattern where
  name : String
  test : Option HeaderTestPattern
  inverted : Bool
  deriving DecidableEq, Repr, Inhabited

namespace HeaderPattern

def ofMessage : Value → HeaderPattern
  | .message [.plain (.text name), .choice test, .plain (.bool inverted)] =>
      ⟨name, test.bind fun (tag, value) => HeaderTestPattern.ofVariant? tag value, inverted⟩
  | _ => default

/-- The matcher for the value, without regard to the name and to the inversion. -/
def valueMatcher? (pattern : HeaderPattern) : Option StringMatcher :=
  pattern.test.bind HeaderTestPattern.matcher?

def matcher? (pattern : HeaderPattern) : Option HeaderMatcher :=
  if pattern.name.isEmpty then none
  else (pattern.test.bind HeaderTestPattern.test?).map fun test =>
    ⟨pattern.name, test, pattern.inverted⟩

end HeaderPattern

/-- The number in a wrapper. -/
def wrapped : Value → Nat
  | .message [.plain (.uint32 value)] => value
  | _ => 0

/-- The range of a message. -/
def rangeOf : Value → Net.CidrRange
  | .message [.plain (.text address), .optional length] => ⟨address, length.map wrapped⟩
  | _ => ⟨"", none⟩

/-- A pattern for the values of metadata. -/
inductive ValuePattern where
  | unset
  | text (pattern : TextPattern)
  | present (value : Bool)
  | emptyList
  | oneOf (item : ValuePattern)
  deriving DecidableEq, Repr, Inhabited

def ValuePattern.ofMessage : Value → ValuePattern
  | .message [.choice (some (3, value))] => .text (.ofMessage value)
  | .message [.choice (some (5, .bool value))] => .present value
  | .message [.choice (some (6, .message [.choice (some (1, item))]))] => .oneOf (ofMessage item)
  | .message [.choice (some (6, _))] => .emptyList
  | _ => .unset

/-- A pattern for metadata, which stands under the name of a filter and a path. -/
structure MetadataPattern where
  filter : String
  path : List String
  value : Option ValuePattern
  inverted : Bool
  deriving DecidableEq, Repr, Inhabited

namespace MetadataPattern

def segment : Value → String
  | .message [.plain (.text key)] => key
  | _ => ""

def ofMessage : Value → MetadataPattern
  | .message [.plain (.text filter), .repeated path, .optional value,
      .plain (.bool inverted)] =>
      ⟨filter, path.map segment, value.map ValuePattern.ofMessage, inverted⟩
  | _ => default

end MetadataPattern

end MeshAccess.Mesh
