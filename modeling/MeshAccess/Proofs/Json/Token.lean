import MeshAccess.Json.Printer
import Mathlib.Tactic.SplitIfs

/-! This file says which tokens the scanner finds in the texts that are written. -/

namespace MeshAccess.Json.Token

/-- The scanner reads a text, from what was begun before it to what is begun after it, and finds the
tokens on the way. -/
inductive Scans : Begun → List Char → List Token → Begun → Prop where
  | nil {begun : Begun} : Scans begun [] [] begun
  | cons {begun middle next : Begun} {character : Char} {text : List Char}
      {tokens others : List Token} :
      scan begun character = some (tokens, middle) → Scans middle text others next →
      Scans begun (character :: text) (tokens ++ others) next

variable {begun middle next : Begun} {character : Char} {text other : List Char} {token : Token}
  {tokens others owed : List Token}

theorem Scans.append (first : Scans begun text tokens middle)
    (second : Scans middle other others next) :
    Scans begun (text ++ other) (tokens ++ others) next := by
  induction first with
  | nil => exact second
  | cons step _ inductionHypothesis =>
      rw [List.cons_append, List.append_assoc]
      exact .cons step (inductionHypothesis second)

theorem Scans.single (step : scan begun character = some (tokens, next)) :
    Scans begun [character] tokens next := by
  have scans : Scans begun [character] (tokens ++ []) next := .cons step .nil
  rwa [List.append_nil] at scans

theorem Scans.silent (step : scan begun character = some ([], middle))
    (scans : Scans middle text tokens next) : Scans begun (character :: text) tokens next :=
  .cons step scans

/-- The character after a token that is owed delivers it. -/
theorem scan_of_finish? (ends : finish? begun = some owed)
    (starts : scanStart character = some ([token], .nothing)) :
    scan begun character = some (owed ++ [token], .nothing) := by
  have isNoPart : character.isAlpha = false ∧ isNumberPart character = false := by
    unfold scanStart at starts
    split at starts
    case h_8 =>
      split at starts
      · cases starts
      split at starts
      · cases starts
      split at starts <;> cases starts
    all_goals decide
  cases begun with
  | nothing =>
      obtain rfl : [] = owed := by simpa [finish?] using ends
      exact starts
  | word reversed =>
      obtain ⟨word, isWord, rfl⟩ := Option.map_eq_some_iff.mp ends
      simp [scan, isNoPart, starts, isWord]
  | number reversed =>
      obtain ⟨value, isNumeral, rfl⟩ := Option.map_eq_some_iff.mp ends
      simp [scan, isNoPart, starts, isNumeral]
  | _ => cases ends

theorem Scans.scanAll? (scans : Scans begun text tokens next) (ends : finish? next = some owed)
    (done : List Token) :
    Token.scanAll? done begun text = some (done.reverse ++ (tokens ++ owed)) := by
  induction scans generalizing done with
  | nil => simp [Token.scanAll?, ends]
  | cons step _ inductionHypothesis =>
      rw [Token.scanAll?, step]
      dsimp only
      rw [inductionHypothesis ends]
      simp

/-- The tokens of a text, with the one that is owed at its end. -/
def Spells (text : List Char) (tokens : List Token) : Prop :=
  ∃ found begun owed,
    Scans .nothing text found begun ∧ finish? begun = some owed ∧ found ++ owed = tokens

theorem Spells.ofText? (spells : Spells text tokens) : ofText? text = some tokens := by
  obtain ⟨found, begun, owed, scans, ends, rfl⟩ := spells
  exact scans.scanAll? ends []

theorem Scans.spells (scans : Scans .nothing text tokens .nothing) : Spells text tokens :=
  ⟨tokens, .nothing, [], scans, rfl, List.append_nil tokens⟩

theorem Spells.nil : Spells [] [] := Scans.nil.spells

/-- Two texts with a mark between them spell their tokens with the token of the mark between
them. -/
theorem Spells.mark (first : Spells text tokens)
    (starts : scanStart character = some ([token], .nothing)) (second : Spells other others) :
    Spells (text ++ character :: other) (tokens ++ token :: others) := by
  obtain ⟨found, begun, owed, scans, ends, rfl⟩ := first
  obtain ⟨otherFound, otherBegun, otherOwed, otherScans, otherEnds, rfl⟩ := second
  refine ⟨found ++ (owed ++ [token] ++ otherFound), otherBegun, otherOwed, ?_, otherEnds, ?_⟩
  · exact scans.append (.cons (scan_of_finish? ends starts) otherScans)
  · simp

/-- A text between two marks spells its tokens between those of the marks. -/
theorem Spells.between {last : Char} {lastToken : Token} (spells : Spells text tokens)
    (starts : scanStart character = some ([token], .nothing))
    (ends : scanStart last = some ([lastToken], .nothing)) :
    Spells (character :: text ++ [last]) (token :: tokens ++ [lastToken]) :=
  (Spells.nil.mark starts spells).mark ends .nil

/-! ## Strings -/

theorem scan_unit_more {reversed : List Char} {first : Option Nat} {missing value bits : Nat}
    (read : Text.Hex.value? character = some bits) :
    scan (.unit reversed first (missing + 2) value) character =
      some ([], .unit reversed first (missing + 1) (16 * value + bits)) := by
  simp [scan, scanString, read]

theorem scan_unit_last {reversed : List Char} {value bits : Nat}
    (read : Text.Hex.value? character = some bits) (small : 16 * value + bits < 0x20) :
    scan (.unit reversed none 1 value) character =
      some ([], .string (Char.ofNat (16 * value + bits) :: reversed)) := by
  have isHigh : isHighSurrogate (16 * value + bits) = false := by simp [isHighSurrogate]; omega
  have isLow : isLowSurrogate (16 * value + bits) = false := by simp [isLowSurrogate]; omega
  simp [scan, scanString, read, endUnit, isHigh, isLow]

theorem scans_pair {mark plain : Char} (isEscape : escaped? mark = some plain)
    (reversed : List Char) :
    Scans (.string reversed) ['\\', mark] [] (.string (plain :: reversed)) := by
  have isNoUnit : mark ≠ 'u' := by
    rintro rfl
    cases isEscape
  refine .silent rfl (.single ?_)
  simp [scan, scanString, isNoUnit, isEscape]

theorem scans_control {value : Nat} (small : value < 0x20) (reversed : List Char) :
    Scans (.string reversed)
      ['\\', 'u', '0', '0', Text.Hex.digit (value / 16), Text.Hex.digit (value % 16)] []
      (.string (Char.ofNat value :: reversed)) := by
  have read : ∀ value < 16, Text.Hex.value? (Text.Hex.digit value) = some value := by decide
  have whole : 16 * (16 * (16 * 0 + 0) + value / 16) + value % 16 = value := by omega
  have last := @scan_unit_last _ reversed (16 * (16 * 0 + 0) + value / 16) _
    (read (value % 16) (by omega)) (by omega)
  rw [whole] at last
  exact .silent rfl (.silent rfl (.silent (scan_unit_more rfl) (.silent (scan_unit_more rfl)
    (.silent (scan_unit_more (read _ (by omega))) (.single last)))))

/-- A character is written as an escape of two characters, as a unit, or as it is. -/
theorem escape_cases (character : Char) :
    (∃ mark, escaped? mark = some character ∧ escape character = ['\\', mark]) ∨
      (character.toNat < 0x20 ∧ escape character =
        ['\\', 'u', '0', '0', Text.Hex.digit (character.toNat / 16),
          Text.Hex.digit (character.toNat % 16)]) ∨
      (character ≠ '"' ∧ character ≠ '\\' ∧ ¬character.toNat < 0x20 ∧
        escape character = [character]) := by
  unfold escape
  split_ifs with isQuote isBackslash isNewline isReturn isTab isBackspace isFormFeed isControl
  · exact .inl ⟨'"', congrArg some isQuote.symm, rfl⟩
  · exact .inl ⟨'\\', congrArg some isBackslash.symm, rfl⟩
  · exact .inl ⟨'n', congrArg some isNewline.symm, rfl⟩
  · exact .inl ⟨'r', congrArg some isReturn.symm, rfl⟩
  · exact .inl ⟨'t', congrArg some isTab.symm, rfl⟩
  · exact .inl ⟨'b', congrArg some isBackspace.symm, rfl⟩
  · exact .inl ⟨'f', congrArg some isFormFeed.symm, rfl⟩
  · exact .inr (.inl ⟨isControl, rfl⟩)
  · exact .inr (.inr ⟨isQuote, isBackslash, isControl, rfl⟩)

/-- The scanner reads a character of a string back from the form in which it is written. -/
theorem scans_escape (character : Char) (reversed : List Char) :
    Scans (.string reversed) (escape character) [] (.string (character :: reversed)) := by
  rcases escape_cases character with
    ⟨mark, isEscape, written⟩ | ⟨isControl, written⟩ | ⟨isNoQuote, isNoBackslash, isPlain, written⟩
  · rw [written]
    exact scans_pair isEscape reversed
  · have scans := scans_control isControl reversed
    rwa [Char.ofNat_toNat, ← written] at scans
  · rw [written]
    exact .single (by simp [scan, scanString, isNoQuote, isNoBackslash, isPlain])

theorem scans_flatMap_escape (text reversed : List Char) :
    Scans (.string reversed) (text.flatMap escape) [] (.string (text.reverse ++ reversed)) := by
  induction text generalizing reversed with
  | nil => exact .nil
  | cons character rest inductionHypothesis =>
      have scans := (scans_escape character reversed).append (inductionHypothesis _)
      rwa [List.append_cons, ← List.reverse_cons] at scans

theorem spells_quote (text : String) : Spells (quote text) [.string text] := by
  have closes :
      scan (.string (text.toList.reverse ++ [])) '"' = some ([.string text], .nothing) := by
    simp [scan, scanString]
  exact Scans.spells (.silent rfl ((scans_flatMap_escape text.toList []).append (.single closes)))

/-! ## Words and numbers -/

theorem spells_word (isWord : ofWord? text = some token) : Spells text [token] := by
  have scans : Scans .nothing text [] (.word text.reverse) := by
    unfold ofWord? at isWord
    split_ifs at isWord with isNull isTrue isFalse
    · subst isNull
      exact .silent rfl (.silent rfl (.silent rfl (.silent rfl .nil)))
    · subst isTrue
      exact .silent rfl (.silent rfl (.silent rfl (.silent rfl .nil)))
    · subst isFalse
      exact .silent rfl (.silent rfl (.silent rfl (.silent rfl (.silent rfl .nil))))
  exact ⟨[], _, [token], scans, by simp [finish?, isWord], rfl⟩

theorem scanStart_number (starts : character.isDigit ∨ character = '-') :
    scanStart character = some ([], .number [character]) := by
  have isNotBlank : isBlank character ≠ true := by
    intro blank
    simp only [isBlank, Bool.or_eq_true, decide_eq_true_eq] at blank
    obtain ((rfl | rfl) | rfl) | rfl := blank <;> revert starts <;> decide
  unfold scanStart
  split
  case h_8 => simp [isNotBlank, starts]
  all_goals (revert starts; decide)

theorem scans_number (parts : ∀ part ∈ text, isNumberPart part) (reversed : List Char) :
    Scans (.number reversed) text [] (.number (text.reverse ++ reversed)) := by
  induction text generalizing reversed with
  | nil => exact .nil
  | cons part rest inductionHypothesis =>
      obtain ⟨isPart, others⟩ := List.forall_mem_cons.mp parts
      have scans := inductionHypothesis others (part :: reversed)
      rw [List.append_cons, ← List.reverse_cons] at scans
      exact .silent (by simp [scan, isPart]) scans

theorem spells_numeral {value : Numeral} (starts : character.isDigit ∨ character = '-')
    (parts : ∀ part ∈ text, isNumberPart part)
    (isNumeral : Numeral.ofText? (character :: text) = some value) :
    Spells (character :: text) [.numeral value] := by
  have scans : Scans .nothing (character :: text) [] (.number (text.reverse ++ [character])) :=
    .silent (scanStart_number starts) (scans_number parts [character])
  exact ⟨[], _, [.numeral value], scans, by simp [finish?, isNumeral], rfl⟩

end MeshAccess.Json.Token
