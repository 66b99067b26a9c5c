import MeshAccess.Regex.Expr
import MeshAccess.Regex.Syntax
import MeshAccess.Unicode.CaseFolding
import MeshAccess.Unicode.Property

/-!
This file resolves the flags and classes of a regular expression.

A flag that a pattern sets holds to the end of its group. Without the Unicode flag the expression
speaks of bytes, and it must not match a byte that is part of a longer character.
-/

namespace MeshAccess.Regex

open MeshAccess.Unicode (CodePoints CodeRange)

/-- The flags that decide what an expression matches. -/
structure Flags where
  ignoreCase : Bool
  multiLine : Bool
  dotMatchesNewline : Bool
  carriageReturn : Bool
  swapGreed : Bool
  unicode : Bool
  deriving DecidableEq, Repr

namespace Flags

/-- The flags at the start of a pattern. -/
def initial (ignoreCase : Bool) : Flags := ⟨ignoreCase, false, false, false, false, true⟩

def set (flags : Flags) (setting : Flag × Bool) : Flags :=
  match setting.1 with
  | .ignoreCase => { flags with ignoreCase := setting.2 }
  | .multiLine => { flags with multiLine := setting.2 }
  | .dotMatchesNewline => { flags with dotMatchesNewline := setting.2 }
  | .carriageReturn => { flags with carriageReturn := setting.2 }
  | .unicode => { flags with unicode := setting.2 }
  | .swapGreed => { flags with swapGreed := setting.2 }
  | .verbose => flags

def apply (flags : Flags) (settings : Settings) : Flags := settings.foldl set flags

end Flags

namespace NamedClass

def ranges : NamedClass → List CodeRange
  | .alnum => [(0x30, 0x39), (0x41, 0x5A), (0x61, 0x7A)]
  | .alpha => [(0x41, 0x5A), (0x61, 0x7A)]
  | .ascii => [(0x0, 0x7F)]
  | .blank => [(0x9, 0x9), (0x20, 0x20)]
  | .cntrl => [(0x0, 0x1F), (0x7F, 0x7F)]
  | .digit => [(0x30, 0x39)]
  | .graph => [(0x21, 0x7E)]
  | .lower => [(0x61, 0x7A)]
  | .print => [(0x20, 0x7E)]
  | .punct => [(0x21, 0x2F), (0x3A, 0x40), (0x5B, 0x60), (0x7B, 0x7E)]
  | .space => [(0x9, 0xD), (0x20, 0x20)]
  | .upper => [(0x41, 0x5A)]
  | .word => [(0x30, 0x39), (0x41, 0x5A), (0x5F, 0x5F), (0x61, 0x7A)]
  | .xdigit => [(0x30, 0x39), (0x41, 0x46), (0x61, 0x66)]

def codePoints (kind : NamedClass) : CodePoints := ⟨kind.ranges⟩

end NamedClass

namespace LetterClass

/-- The members of a letter class in ASCII. -/
def ascii : LetterClass → CodePoints
  | .digit => NamedClass.digit.codePoints
  | .blank => NamedClass.space.codePoints
  | .word => NamedClass.word.codePoints

/-- The members of a letter class in Unicode. -/
def unicode : LetterClass → CodePoints
  | .digit => Unicode.Property.digits
  | .blank => Unicode.Property.blanks
  | .word => Unicode.Property.wordCharacters

end LetterClass

namespace Resolve

/-- The letters of ASCII in both cases. -/
def asciiClosure (set : CodePoints) : CodePoints :=
  let upper := set.inter ⟨[(0x41, 0x5A)]⟩
  let lower := set.inter ⟨[(0x61, 0x7A)]⟩
  set.union
    ((CodePoints.ofRanges (upper.ranges.map fun range => (range.1 + 32, range.2 + 32))).union
      (CodePoints.ofRanges (lower.ranges.map fun range => (range.1 - 32, range.2 - 32))))

/-- The set with every character that equals a member up to case, if the flags ignore case. -/
def foldCase (flags : Flags) (set : CodePoints) : CodePoints :=
  if !flags.ignoreCase then set
  else if flags.unicode then Unicode.CaseFolding.closure set
  else asciiClosure set

/-- A set of bytes must stay in ASCII. -/
def checkBytes? (flags : Flags) (set : CodePoints) : Option CodePoints :=
  if flags.unicode || set.isAscii then some set else none

/-- A set is first folded and then negated. -/
def finishSet? (flags : Flags) (negated : Bool) (set : CodePoints) : Option CodePoints :=
  let folded := foldCase flags set
  checkBytes? flags (if negated then folded.complement else folded)

def letterClass? (flags : Flags) (kind : LetterClass) (negated : Bool) : Option CodePoints :=
  let set := if flags.unicode then kind.unicode else kind.ascii
  checkBytes? flags (if negated then set.complement else set)

def property? (flags : Flags) (query : PropertyQuery) (negated : Bool) : Option CodePoints :=
  if flags.unicode then
    let set? := match query with
      | .name text => Unicode.Property.named? text
      | .value property value => Unicode.Property.valued? property value
    set?.bind (finishSet? flags negated)
  else none

/-- The code point of a letter in brackets. -/
def point? (flags : Flags) (letter : Letter) : Option Nat :=
  let point := letter.character.toNat
  if flags.unicode || point < 0x80 then some point else none

def operate (kind : SetOperation) (left right : CodePoints) : CodePoints :=
  match kind with
  | .intersection => left.inter right
  | .difference => left.difference right
  | .symmetricDifference => left.symmetricDifference right

mutual

/-- The members of a set in brackets. -/
def set? (flags : Flags) : BracketSet → Option CodePoints
  | .empty => some CodePoints.empty
  | .letter letter => (point? flags letter).map CodePoints.singleton
  | .range first last => do
      return ⟨[(← point? flags first, ← point? flags last)]⟩
  | .named kind negated => finishSet? flags negated kind.codePoints
  | .letterClass kind negated => letterClass? flags kind negated
  | .property query negated => property? flags query negated
  | .bracket negated inner => do
      finishSet? flags negated (← set? flags inner)
  | .union items => union? flags items
  | .operation kind left right => do
      let left ← set? flags left
      let right ← set? flags right
      return operate kind (foldCase flags left) (foldCase flags right)

def union? (flags : Flags) : List BracketSet → Option CodePoints
  | [] => some CodePoints.empty
  | item :: rest => do
      let first ← set? flags item
      return first.union (← union? flags rest)

end

/-- A character that ignores case is a set. -/
def letter? (flags : Flags) (letter : Letter) : Option Expr :=
  let point := letter.character.toNat
  if flags.unicode then
    if flags.ignoreCase then
      some (.ofSet (Unicode.CaseFolding.closure (CodePoints.singleton point)) true)
    else some (.literal [letter.character])
  else if letter.isByte && 0x80 ≤ point then none
  else if flags.ignoreCase && point < 0x80 then
    some (.ofSet (asciiClosure (CodePoints.singleton point)) false)
  else some (.literal [letter.character])

/-- The dot leaves out the characters that end a line. -/
def dot? (flags : Flags) : Option Expr :=
  if !flags.unicode then none
  else if flags.dotMatchesNewline then some (.set CodePoints.all true)
  else if flags.carriageReturn then
    some (.set (CodePoints.ofRanges [(0xA, 0xA), (0xD, 0xD)]).complement true)
  else some (.set (CodePoints.singleton 0xA).complement true)

def look (flags : Flags) : Assertion → Look
  | .lineStart => if flags.multiLine then .lineStart flags.carriageReturn else .textStart
  | .lineEnd => if flags.multiLine then .lineEnd flags.carriageReturn else .textEnd
  | .textStart => .textStart
  | .textEnd => .textEnd
  | .wordBoundary => .word flags.unicode .boundary
  | .noWordBoundary => .word flags.unicode .noBoundary
  | .wordStart => .word flags.unicode .start
  | .wordEnd => .word flags.unicode .finish
  | .halfWordStart => .word flags.unicode .halfStart
  | .halfWordEnd => .word flags.unicode .halfEnd

mutual

/-- The resolved expression, and the flags that hold after it. -/
def expr? (flags : Flags) : Syntax → Option (Expr × Flags)
  | .empty => some (.empty, flags)
  | .letter letter => (letter? flags letter).map fun expr => (expr, flags)
  | .dot => (dot? flags).map fun expr => (expr, flags)
  | .assertion kind => some (.look (look flags kind), flags)
  | .letterClass kind negated =>
      (letterClass? flags kind negated).map fun set => (.ofSet set flags.unicode, flags)
  | .property query negated =>
      (property? flags query negated).map fun set => (.ofSet set flags.unicode, flags)
  | .bracket negated inner => do
      return (.ofSet (← finishSet? flags negated (← set? flags inner)) flags.unicode, flags)
  | .repetition inner least most isLazy => do
      let (inner, flags) ← expr? flags inner
      return (.repeated inner least most (isLazy != flags.swapGreed), flags)
  | .group captures settings inner => do
      let (inner, _) ← expr? (flags.apply settings) inner
      return (if captures then .capture inner else inner, flags)
  | .settings settings => some (.empty, flags.apply settings)
  | .alternation branches => do
      let (branches, flags) ← exprs? flags branches
      return (.choice branches, flags)
  | .concat parts => do
      let (parts, flags) ← exprs? flags parts
      return (.inRow parts, flags)

def exprs? (flags : Flags) : List Syntax → Option (List Expr × Flags)
  | [] => some ([], flags)
  | part :: rest => do
      let (first, flags) ← expr? flags part
      let (others, flags) ← exprs? flags rest
      return (first :: others, flags)

end

end Resolve

/-- The resolved form of a regular expression. -/
def Syntax.resolve? (syntaxTree : Syntax) (ignoreCase : Bool) : Option Expr :=
  (Resolve.expr? (.initial ignoreCase) syntaxTree).map Prod.fst

end MeshAccess.Regex
