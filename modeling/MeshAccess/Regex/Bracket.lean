import MeshAccess.Regex.Letter

/-!
This file reads the sets in brackets.

The reader keeps a stack of the brackets that are open. An operation waits on the stack for its
right side, and operations of one bracket group to the left.
-/

namespace MeshAccess.Regex.Bracket

/-- What waits while the reader is inside a bracket. -/
inductive Frame where
  | opened (reversed : List BracketSet) (negated : Bool)
  | operation (kind : SetOperation) (left : BracketSet)
  deriving Repr

/-- This function joins a right side with the operation that waits for it. -/
def reduce (right : BracketSet) : List Frame → BracketSet × List Frame
  | .operation kind left :: frames => (.operation kind left right, frames)
  | frames => (right, frames)

def classOfName? (name : List Char) : Option NamedClass :=
  [("alnum", NamedClass.alnum), ("alpha", .alpha), ("ascii", .ascii), ("blank", .blank),
    ("cntrl", .cntrl), ("digit", .digit), ("graph", .graph), ("lower", .lower),
    ("print", .print), ("punct", .punct), ("space", .space), ("upper", .upper),
    ("word", .word), ("xdigit", .xdigit)].lookup (String.ofList name)

/-- This function reads a class with a name between colons, after its opening bracket. -/
def readNamed? (pattern : List Char) : Option (BracketSet × List Char) :=
  match pattern with
  | ':' :: rest =>
      let (negated, rest) := match rest with
        | '^' :: more => (true, more)
        | more => (false, more)
      match rest.dropWhile (· ≠ ':') with
      | ':' :: ']' :: after =>
          (classOfName? (rest.takeWhile (· ≠ ':'))).map fun kind => (.named kind negated, after)
      | _ => none
  | _ => none

/-- This function reads dashes at the start of a bracket, which stand for themselves. -/
def readDashes (verbose : Bool) (reversed : List BracketSet) :
    Nat → List Char → List BracketSet × List Char
  | 0, pattern => (reversed, pattern)
  | fuel + 1, pattern =>
      match pattern with
      | '-' :: rest =>
          readDashes verbose (.letter ⟨'-', false⟩ :: reversed) fuel (skip verbose rest)
      | _ => (reversed, pattern)

/-- This function reads the start of a bracket after its opening character. A closing bracket at
the first place stands for itself. -/
def readOpening? (verbose : Bool) (pattern : List Char) :
    Option ((Bool × List BracketSet) × List Char) :=
  let start := skip verbose pattern
  let (negated, start) := match start with
    | '^' :: rest => (true, skip verbose rest)
    | rest => (false, rest)
  match readDashes verbose [] start.length start with
  | (_, []) => none
  | ([], ']' :: rest) =>
      match skip verbose rest with
      | [] => none
      | rest => some ((negated, [.letter ⟨']', false⟩]), rest)
  | (dashes, rest) => some ((negated, dashes), rest)

/-- The next character that decides whether a dash makes a range. In verbose mode neither a blank
nor the mark of a comment counts. -/
def peek? (verbose : Bool) (pattern : List Char) : Option Char :=
  if verbose then
    match pattern.dropWhile Text.Blank.isBlank with
    | '#' :: rest => (rest.dropWhile Text.Blank.isBlank).head?.or pattern.head?
    | rest => rest.head?.or pattern.head?
  else pattern.head?

def item? : Primitive → Option BracketSet
  | .letter letter => some (.letter letter)
  | .letterClass kind negated => some (.letterClass kind negated)
  | .property query negated => some (.property query negated)
  | _ => none

def letter? : Primitive → Option Letter
  | .letter letter => some letter
  | _ => none

/-- This function reads one character or escape in brackets. -/
def readPrimitive? (verbose : Bool) : List Char → Option (Primitive × List Char)
  | [] => none
  | '\\' :: rest => readEscape? verbose rest
  | character :: rest => some (.letter ⟨character, false⟩, rest)

/-- This function reads one item or one range. -/
def readItem? (verbose : Bool) (pattern : List Char) : Option (BracketSet × List Char) := do
  let (first, rest) ← readPrimitive? verbose pattern
  match skip verbose rest with
  | [] => none
  | '-' :: more =>
      if peek? verbose more = some ']' || peek? verbose more = some '-' then
        return (← item? first, '-' :: more)
      else
        let (last, rest) ← readPrimitive? verbose (skip verbose more)
        let first ← letter? first
        let last ← letter? last
        if first.character ≤ last.character then return (.range first last, rest) else none
  | rest => return (← item? first, rest)

/-- This function reads the inside of brackets and gives the outermost set when it ends. -/
def read? (verbose : Bool) (frames : List Frame) (reversed : List BracketSet) :
    Nat → List Char → Option (Syntax × List Char)
  | 0, _ => none
  | fuel + 1, pattern =>
      let operate := fun kind rest =>
        let (left, frames) := reduce (.ofItems reversed.reverse) frames
        read? verbose (.operation kind left :: frames) [] fuel rest
      match skip verbose pattern with
      | [] => none
      | '[' :: rest =>
          match readNamed? rest with
          | some (item, rest) => read? verbose frames (item :: reversed) fuel rest
          | none =>
              match readOpening? verbose rest with
              | some ((negated, items), rest) =>
                  read? verbose (.opened reversed negated :: frames) items fuel rest
              | none => none
      | ']' :: rest =>
          match reduce (.ofItems reversed.reverse) frames with
          | (inner, [.opened _ negated]) => some (.bracket negated inner, rest)
          | (inner, .opened outer negated :: frames) =>
              read? verbose frames (.bracket negated inner :: outer) fuel rest
          | _ => none
      | '&' :: '&' :: rest => operate .intersection rest
      | '-' :: '-' :: rest => operate .difference rest
      | '~' :: '~' :: rest => operate .symmetricDifference rest
      | pattern =>
          match readItem? verbose pattern with
          | some (item, rest) => read? verbose frames (item :: reversed) fuel rest
          | none => none

/-- This function reads a set after its opening bracket. -/
def readSet? (verbose : Bool) (pattern : List Char) : Option (Syntax × List Char) := do
  let ((negated, items), rest) ← readOpening? verbose pattern
  read? verbose [.opened [] negated] items (rest.length + 1) rest

end MeshAccess.Regex.Bracket
