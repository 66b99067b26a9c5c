import MeshAccess.Regex.Bracket
import MeshAccess.Unicode.Property

/-!
This file reads a regular expression.

The reader keeps a stack of the groups that are open. It refuses what is not well-formed, and it
refuses expressions that are nested too deep.
-/

namespace MeshAccess.Regex

namespace Reader

/-- The branches and parts that a group has so far, in reverse order. -/
structure Level where
  branches : List Syntax
  parts : List Syntax
  deriving Repr, Inhabited

def Level.empty : Level := ⟨[], []⟩

def Level.append (level : Level) (part : Syntax) : Level := ⟨level.branches, part :: level.parts⟩

/-- This function ends a branch. -/
def Level.branch (level : Level) : Level :=
  ⟨.ofParts level.parts.reverse :: level.branches, []⟩

def Level.close (level : Level) : Syntax := .ofBranches level.branch.branches.reverse

/-- What waits while the reader is inside a group. -/
structure Frame where
  outer : Level
  captures : Bool
  settings : Settings
  verbose : Bool
  deriving Repr

structure State where
  frames : List Frame
  level : Level
  verbose : Bool
  names : List String
  deriving Repr

def flag? : Char → Option Flag
  | 'i' => some .ignoreCase
  | 'm' => some .multiLine
  | 's' => some .dotMatchesNewline
  | 'U' => some .swapGreed
  | 'u' => some .unicode
  | 'R' => some .carriageReturn
  | 'x' => some .verbose
  | _ => none

/-- This function reads flags up to a colon or a closing parenthesis and gives that character. The
flags after a dash are cleared. No flag and no dash may stand twice, and no dash at the end. -/
def readFlags? (negated dash : Bool) (reversed : Settings) :
    List Char → Option ((Settings × Char) × List Char)
  | [] => none
  | character :: rest =>
      if character = ':' || character = ')' then
        if dash then none else some ((reversed.reverse, character), rest)
      else if character = '-' then
        if negated then none else readFlags? true true reversed rest
      else
        match flag? character with
        | some flag =>
            if reversed.any fun setting => setting.1 = flag then none
            else readFlags? negated false ((flag, !negated) :: reversed) rest
        | none => none

/-- The characters of the name of a group. -/
def isNameCharacter (isFirst : Bool) (character : Char) : Bool :=
  if character.toNat < 0x80 then
    character = '_' || character.isAlpha || (!isFirst && (character.isDigit ||
      character = '.' || character = '[' || character = ']'))
  else
    Unicode.Property.letters.contains character.toNat ||
      (!isFirst && Unicode.Property.numbers.contains character.toNat)

def isName : List Char → Bool
  | [] => false
  | first :: rest => isNameCharacter true first && rest.all (isNameCharacter false)

/-- This function starts a group. -/
def State.openGroup (state : State) (captures : Bool) (settings : Settings) : State :=
  { state with
    frames := ⟨state.level, captures, settings, state.verbose⟩ :: state.frames
    level := .empty
    verbose := (settings.lookup .verbose).getD state.verbose }

/-- This function starts a group with a name, which must be new. -/
def readNamedGroup? (state : State) (pattern : List Char) : Option (State × List Char) :=
  let name := pattern.takeWhile (· ≠ '>')
  match pattern.dropWhile (· ≠ '>') with
  | '>' :: rest =>
      if isName name && !state.names.contains (String.ofList name) then
        some ({ state.openGroup true [] with names := String.ofList name :: state.names }, rest)
      else none
  | _ => none

/-- This function reads what follows an opening parenthesis. -/
def readGroup? (state : State) (pattern : List Char) : Option (State × List Char) :=
  match skip state.verbose pattern with
  | '?' :: '=' :: _ => none
  | '?' :: '!' :: _ => none
  | '?' :: '<' :: '=' :: _ => none
  | '?' :: '<' :: '!' :: _ => none
  | '?' :: 'P' :: '<' :: rest => readNamedGroup? state rest
  | '?' :: '<' :: rest => readNamedGroup? state rest
  | '?' :: rest =>
      match readFlags? false false [] rest with
      | some ((settings, ':'), rest) => some (state.openGroup false settings, rest)
      | some (([], _), _) => none
      | some ((settings, _), rest) =>
          some ({ state with
            level := state.level.append (.settings settings)
            verbose := (settings.lookup .verbose).getD state.verbose }, rest)
      | none => none
  | rest => some (state.openGroup true [], rest)

/-- This function ends a group. -/
def State.closeGroup? (state : State) : Option State :=
  match state.frames with
  | [] => none
  | frame :: frames =>
      some { state with
        frames := frames
        level := frame.outer.append (.group frame.captures frame.settings state.level.close)
        verbose := frame.verbose }

/-- This function repeats the last part. Flags cannot be repeated. -/
def State.repeat? (state : State) (least : Nat) (most : Option Nat) (isLazy : Bool) :
    Option State :=
  match state.level.parts with
  | [] => none
  | .settings _ :: _ => none
  | .empty :: _ => none
  | part :: parts =>
      some { state with
        level := ⟨state.level.branches, .repetition part least most isLazy :: parts⟩ }

/-- A question mark after a repetition makes it lazy. -/
def readLazy : List Char → Bool × List Char
  | '?' :: rest => (true, rest)
  | rest => (false, rest)

/-- This function repeats the last part, lazily if the mark follows. -/
def readRepetition? (state : State) (least : Nat) (most : Option Nat) (pattern : List Char) :
    Option (State × List Char) :=
  let mark := readLazy pattern
  (state.repeat? least most mark.1).map fun state => (state, mark.2)

def syntaxOf : Primitive → Syntax
  | .letter letter => .letter letter
  | .dot => .dot
  | .assertion kind => .assertion kind
  | .letterClass kind negated => .letterClass kind negated
  | .property query negated => .property query negated

/-- This function reads one part of the pattern that starts with the given character. -/
def step? (state : State) (character : Char) (rest : List Char) : Option (State × List Char) :=
  match character with
  | '(' => readGroup? state rest
  | ')' => state.closeGroup?.map fun state => (state, rest)
  | '|' => some ({ state with level := state.level.branch }, rest)
  | '[' => (Bracket.readSet? state.verbose rest).map fun (set, rest) =>
      ({ state with level := state.level.append set }, rest)
  | '?' => readRepetition? state 0 (some 1) rest
  | '*' => readRepetition? state 0 none rest
  | '+' => readRepetition? state 1 none rest
  | '\x7b' => do
      let ((least, most), rest) ← readCounts? state.verbose rest
      readRepetition? state least most (skip state.verbose rest)
  | _ => do
      let (primitive, rest) ← readPrimitive? state.verbose character rest
      return ({ state with level := state.level.append (syntaxOf primitive) }, rest)

/-- This function reads a pattern to its end. Every step takes a character, so the number of
characters bounds the number of steps. -/
def run? (state : State) : Nat → List Char → Option Syntax
  | 0, _ => none
  | fuel + 1, pattern =>
      match skip state.verbose pattern with
      | [] => if state.frames.isEmpty then some state.level.close else none
      | character :: rest =>
          match step? state character rest with
          | some (state, rest) => run? state fuel rest
          | none => none

end Reader

/-- The number of expressions that may stand inside each other. -/
def nestingLimit : Nat := 250

/-- The regular expression that a pattern spells. -/
def Syntax.read? (pattern : List Char) : Option Syntax :=
  match Reader.run? ⟨[], .empty, false, []⟩ (pattern.length + 1) pattern with
  | some result => if result.nesting ≤ nestingLimit then some result else none
  | none => none

end MeshAccess.Regex
