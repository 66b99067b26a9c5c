import MeshAccess.Match.StringMatcher

/-!
This file holds the store of compiled patterns.

The store keeps the outcome of a compilation, also when it failed, under the pattern and the choice
about case. It holds a bounded number of entries and drops the one whose last use is longest ago.
-/

namespace MeshAccess.Match

/-- What a compilation depends on. -/
structure PatternKey where
  pattern : String
  ignoreCase : Bool
  deriving DecidableEq, Repr

/-- The entries, the last used one first. -/
structure PatternCache where
  capacity : Nat
  entries : List (PatternKey × Option Regex)

namespace PatternCache

/-- The number of the patterns that the store keeps. -/
def defaultCapacity : Nat := 1024

def empty : PatternCache := ⟨defaultCapacity, []⟩

/-- This function puts an entry in front and drops the entries beyond the capacity. -/
def put (cache : PatternCache) (key : PatternKey) (outcome : Option Regex) : PatternCache :=
  let others := cache.entries.filter fun entry => entry.1 ≠ key
  ⟨cache.capacity, ((key, outcome) :: others).take cache.capacity⟩

/-- The compilation of a key, from the store if it is there. -/
def compile (cache : PatternCache) (key : PatternKey) : Option Regex × PatternCache :=
  let outcome := match cache.entries.find? fun entry => entry.1 = key with
    | some entry => entry.2
    | none => Regex.compileAnchored? key.pattern key.ignoreCase
  (outcome, cache.put key outcome)

/-- The answer of a matcher. Only a matcher with a regular expression uses the store. -/
def accepts (cache : PatternCache) (matcher : StringMatcher) (text : String) :
    Bool × PatternCache :=
  if text.isEmpty || matcher.comparison ≠ .regex then (matcher.acceptsBy none text, cache)
  else
    let (outcome, next) := cache.compile ⟨matcher.pattern, matcher.ignoreCase⟩
    (matcher.acceptsBy outcome text, next)

/-- The answers of a matcher to several texts. An absent text is never accepted. -/
def acceptsAll (cache : PatternCache) (matcher : StringMatcher) :
    List (Option String) → List Bool × PatternCache
  | [] => ([], cache)
  | none :: rest =>
      let (answers, next) := cache.acceptsAll matcher rest
      (false :: answers, next)
  | some text :: rest =>
      let (answer, next) := cache.accepts matcher text
      let (answers, last) := next.acceptsAll matcher rest
      (answer :: answers, last)

end PatternCache

end MeshAccess.Match
