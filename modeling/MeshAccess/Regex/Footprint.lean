import MeshAccess.Regex.Expr
import MeshAccess.Regex.Utf8Ranges
import Std.Data.TreeMap

/-!
This file measures the automata of an expression and bounds their size.

The automata read bytes, one of them forward and one of them backward. A state takes 32 bytes, a
further target of a branching state 4 bytes, and a transition of a state with many of them 8 bytes.
A pattern is refused when one of its automata takes more than ten mebibytes.
-/

namespace MeshAccess.Regex

open MeshAccess.Unicode (CodePoints)
open Utf8Ranges (ByteRange)

/-- The number of the states of an automaton and the bytes of their targets and transitions. -/
structure Footprint where
  states : Nat
  extra : Nat
  deriving DecidableEq, Repr

namespace Footprint

def limit : Nat := 10 * Nat.pow 2 20

def bytes (size : Footprint) : Nat := 32 * size.states + size.extra

/-- This function adds states and bytes and refuses to pass the limit. -/
def add? (states extra : Nat) (size : Footprint) : Option Footprint :=
  let next : Footprint := ⟨size.states + states, size.extra + extra⟩
  if next.bytes ≤ limit then some next else none

/-- A table that finds states which were built before. Each slot keeps the last state put there. -/
structure Sharing where
  slots : Nat
  table : Std.TreeMap Nat (List Nat × Nat)

namespace Sharing

def empty (slots : Nat) : Sharing := ⟨slots, ∅⟩

/-- The slot of a key, by the FNV-1a hash of 64 bits over its numbers. -/
def slot (sharing : Sharing) (key : List Nat) : Nat :=
  let hash := key.foldl (fun hash number => (hash ^^^ number.toUInt64) * 1099511628211)
    (14695981039346656037 : UInt64)
  hash.toNat % sharing.slots

def find? (sharing : Sharing) (key : List Nat) : Option Nat :=
  match sharing.table.get? (sharing.slot key) with
  | some (found, state) => if found = key then some state else none
  | none => none

def insert (sharing : Sharing) (key : List Nat) (state : Nat) : Sharing :=
  ⟨sharing.slots, sharing.table.insert (sharing.slot key) (key, state)⟩

end Sharing

/-- The sequences with their first range taken off, grouped by that range. -/
def groupByFirst : List (List ByteRange) → List (ByteRange × List (List ByteRange))
  | [] => []
  | [] :: rest => groupByFirst rest
  | (first :: others) :: rest =>
      match groupByFirst rest with
      | (range, group) :: groups =>
          if range = first then (range, others :: group) :: groups
          else (first, [others]) :: (range, group) :: groups
      | [] => [(first, [others])]

/-- This function builds the states that read the sequences, the inner ones first, and gives the
state to start from. States with equal transitions are built once. -/
def buildForward? (target : Nat) : Nat → List (List ByteRange) → Sharing × Footprint →
    Option (Nat × Sharing × Footprint)
  | 0, _, built => some (target, built)
  | fuel + 1, sequences, built =>
      if sequences.all List.isEmpty then some (target, built)
      else do
        let (key, sharing, size) ← (groupByFirst sequences).foldlM
          (fun (key, built) (range, group) => do
            let (state, built) ← buildForward? target fuel group built
            return (key ++ [range.1, range.2, state], built)) ([], built)
        match sharing.find? key with
        | some state => return (state, sharing, size)
        | none =>
            let next ← size.add? 1 (8 * (key.length / 3))
            return (size.states, sharing.insert key size.states, next)

/-- This function adds the automaton of a set that reads forward. -/
def forwardSet? (set : CodePoints) (size : Footprint) : Option Footprint := do
  let target := size.states
  let size ← size.add? 1 0
  let (_, _, size) ← buildForward? target 10 (Utf8Ranges.ofSet set) (.empty 10000, size)
  return size

/-- This function adds the states of one sequence that reads backward. Every state leads to the one
before it, and a state with the same range and target is built once. -/
def buildBackward? (target : Nat) : List ByteRange → Sharing × Footprint →
    Option (Sharing × Footprint)
  | [], (sharing, size) => (size.add? 0 4).map fun size => (sharing, size)
  | range :: rest, (sharing, size) =>
      let key := [target, range.1, range.2]
      match sharing.find? key with
      | some state => buildBackward? state rest (sharing, size)
      | none => do
          let next ← size.add? 1 0
          buildBackward? size.states rest (sharing.insert key size.states, next)

/-- This function adds the automaton of a set that reads backward. -/
def backwardSet? (set : CodePoints) (size : Footprint) : Option Footprint := do
  let size ← size.add? 1 0
  let target := size.states
  let size ← size.add? 1 0
  let (_, size) ← (Utf8Ranges.ofSet set).foldlM
    (fun built sequence => buildBackward? target sequence built) (Sharing.empty 1000, size)
  return size

/-- The two directions in which an automaton reads. Only the forward one marks captures. -/
inductive Direction where
  | forward
  | backward
  deriving DecidableEq, Repr

def set? (direction : Direction) (set : CodePoints) (size : Footprint) : Option Footprint :=
  if set.isAscii then size.add? 2 (8 * set.ranges.length)
  else
    match direction with
    | .forward => forwardSet? set size
    | .backward => backwardSet? set size

/-- This function applies a growth step `count` times. -/
def times? (step : Footprint → Option Footprint) : Nat → Footprint → Option Footprint
  | 0, size => some size
  | count + 1, size =>
      match step size with
      | some next => times? step count next
      | none => none

/-- The literals of a choice that has no other branches. -/
def literals? (branches : List Expr) : Option (List (List UInt8)) :=
  branches.mapM fun branch =>
    match branch with
    | .literal characters => some (Text.Utf8.encode characters)
    | _ => none

/-- The size of the tree that reads all the given words. -/
def treeSize : Nat → List (List UInt8) → Footprint
  | 0, _ => ⟨0, 0⟩
  | fuel + 1, words =>
      let firsts := (words.filterMap List.head?).eraseDups
      if firsts.isEmpty then ⟨0, 0⟩
      else
        let hasEnd := words.any List.isEmpty
        let own : Footprint := ⟨if hasEnd then 2 else 1,
          (if hasEnd then 8 else 0) + if firsts.length = 1 then 0 else 8 * firsts.length⟩
        firsts.foldl (fun size first =>
          let inner := treeSize fuel (words.filterMap fun word =>
            if word.head? = some first then some word.tail else none)
          ⟨size.states + inner.states, size.extra + inner.extra⟩) own

/-- This function adds a tree of words. -/
def words? (direction : Direction) (words : List (List UInt8)) (size : Footprint) :
    Option Footprint :=
  let words := if direction = .forward then words else words.map List.reverse
  let tree := treeSize ((words.map List.length).foldl max 0 + 1) words
  size.add? (tree.states + 1) tree.extra

mutual

/-- This function adds the automaton of an expression. -/
def expr? (direction : Direction) : Expr → Footprint → Option Footprint
  | .empty, size => size.add? 1 0
  | .literal characters, size => size.add? (Text.Utf8.encode characters).length 0
  | .set members _, size => set? direction members size
  | .look _, size => size.add? 1 0
  | .repetition inner least most _, size =>
      match most with
      | none =>
          if least = 0 then
            if inner.leastLength?.any (0 < ·) then (size.add? 1 8).bind (expr? direction inner)
            else (size.add? 3 16).bind (expr? direction inner)
          else (times? (expr? direction inner) least size).bind (add? 1 8)
      | some most =>
          if least = 0 && most = 1 then (size.add? 2 8).bind (expr? direction inner)
          else
            let start := if least = 0 then size.add? 1 0
              else times? (expr? direction inner) least size
            if least = most then start
            else (start.bind (add? 1 0)).bind
              (times? (fun size => (size.add? 1 8).bind (expr? direction inner)) (most - least))
  | .capture inner, size =>
      match direction with
      | .forward => (size.add? 2 0).bind (expr? direction inner)
      | .backward => expr? direction inner size
  | .concat parts, size => row? direction parts size
  | .alternation branches, size =>
      match literals? branches with
      | some words => words? direction words size
      | none => (size.add? 2 (4 * branches.length)).bind (row? direction branches)

/-- This function adds the automata of several expressions. -/
def row? (direction : Direction) : List Expr → Footprint → Option Footprint
  | [], size => some size
  | part :: rest, size =>
      match expr? direction part size with
      | some next => row? direction rest next
      | none => none

end

/-- The size of the whole automaton in one direction. Beside the expression it has a start and an
accepting state, and the forward one marks the whole match. -/
def ofExpr? (direction : Direction) (expr : Expr) : Option Footprint :=
  let frame := if direction = .forward then 4 else 2
  (expr? direction expr ⟨0, 0⟩).bind (add? frame 0)

/-- Both automata stay within the limit. -/
def fits (expr : Expr) : Bool :=
  (ofExpr? .forward expr).isSome && (ofExpr? .backward expr).isSome

end Footprint

end MeshAccess.Regex
