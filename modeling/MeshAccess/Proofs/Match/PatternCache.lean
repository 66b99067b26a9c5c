import MeshAccess.Match.PatternCache

/-! This file says that the store of compiled patterns changes no answer. -/

namespace MeshAccess.Match

/-- What a key compiles to when there is no store. -/
def PatternKey.outcome (key : PatternKey) : Option Regex :=
  Regex.compileAnchored? key.pattern key.ignoreCase

/-- The key that a matcher looks up for a text. -/
def StringMatcher.lookup? (matcher : StringMatcher) : Option String → Option PatternKey
  | none => none
  | some text =>
      if text.isEmpty || matcher.comparison ≠ .regex then none
      else some ⟨matcher.pattern, matcher.ignoreCase⟩

namespace PatternCache

/-- The different keys of a history. Of each of them the last use counts, and the last one comes
first, as it does in the history. -/
def latest : List PatternKey → List PatternKey
  | [] => []
  | key :: earlier => key :: (latest earlier).filter (· ≠ key)

theorem nodup_latest (history : List PatternKey) : (latest history).Nodup := by
  induction history with
  | nil => exact .nil
  | cons key earlier inductionHypothesis =>
      refine List.nodup_cons.mpr ⟨?_, inductionHypothesis.filter _⟩
      simp

/-- A list without one of its items has lost at most one of the items in its front part. -/
theorem take_filter_take {α : Type} [DecidableEq α] {items : List α} (nodup : items.Nodup) (item : α)
    (count : Nat) :
    ((items.take (count + 1)).filter (· ≠ item)).take count =
      (items.filter (· ≠ item)).take count := by
  induction items generalizing count with
  | nil => rfl
  | cons head rest inductionHypothesis =>
      obtain ⟨fresh, restNodup⟩ := List.nodup_cons.mp nodup
      by_cases same : head = item
      · -- The item is gone, and it does not stand further behind.
        subst same
        have kept : rest.filter (· ≠ head) = rest :=
          List.filter_eq_self.mpr fun other member => by
            simpa using fun equal : other = head => fresh (equal ▸ member)
        have keptFront : (rest.take count).filter (· ≠ head) = rest.take count :=
          List.filter_eq_self.mpr fun other member => by
            simpa using fun equal : other = head => fresh (equal ▸ List.mem_of_mem_take member)
        simp only [List.take_succ_cons, ne_eq, not_true_eq_false, decide_false, Bool.false_eq_true,
          not_false_eq_true, List.filter_cons_of_neg] at kept keptFront ⊢
        rw [kept, keptFront, List.take_take, Nat.min_self]
      · cases count with
        | zero => rfl
        | succ count =>
            have stays (others : List α) :
                (head :: others).filter (· ≠ item) = head :: others.filter (· ≠ item) :=
              List.filter_cons_of_pos (decide_eq_true same)
            rw [List.take_succ_cons, stays, stays, List.take_succ_cons, List.take_succ_cons,
              inductionHypothesis restNodup]

/-- The entries after a history of lookups. -/
def entriesAfter (history : List PatternKey) : List (PatternKey × Option Regex) :=
  ((latest history).take defaultCapacity).map fun key => (key, key.outcome)

/-- The store is what a history of lookups makes of the empty one. -/
structure Follows (cache : PatternCache) (history : List PatternKey) : Prop where
  capacity : cache.capacity = defaultCapacity
  entries : cache.entries = entriesAfter history

variable {cache : PatternCache} {history : List PatternKey}

theorem follows_empty : empty.Follows [] := ⟨rfl, rfl⟩

theorem Follows.outcome_of_mem (follows : cache.Follows history) {entry : PatternKey × Option Regex}
    (member : entry ∈ cache.entries) : entry.2 = entry.1.outcome := by
  rw [follows.entries] at member
  obtain ⟨key, _, rfl⟩ := List.mem_map.mp member
  rfl

theorem Follows.put (follows : cache.Follows history) (key : PatternKey) :
    (cache.put key key.outcome).Follows (key :: history) where
  capacity := follows.capacity
  entries := by
    have others (keys : List PatternKey) :
        (keys.map fun key => (key, key.outcome)).filter (fun entry => entry.1 ≠ key) =
          (keys.filter (· ≠ key)).map fun key => (key, key.outcome) :=
      List.filter_map
    obtain ⟨room, full⟩ : ∃ room, defaultCapacity = room + 1 := ⟨1023, rfl⟩
    rw [PatternCache.put, follows.capacity, follows.entries, entriesAfter, others, entriesAfter,
      latest, full]
    dsimp only
    rw [List.take_succ_cons, List.take_succ_cons, List.map_cons, ← List.map_take,
      take_filter_take (nodup_latest history)]

/-- A lookup gives what the pattern compiles to, whether the store has it or not. -/
theorem Follows.compile (follows : cache.Follows history) (key : PatternKey) :
    (cache.compile key).1 = key.outcome ∧ (cache.compile key).2.Follows (key :: history) := by
  have outcome : (cache.compile key).1 = key.outcome := by
    rw [PatternCache.compile]
    dsimp only
    split
    next entry found =>
      have own := List.find?_some found
      rw [decide_eq_true_eq] at own
      rw [follows.outcome_of_mem (List.mem_of_find?_eq_some found), own]
    next => rfl
  refine ⟨outcome, ?_⟩
  have stored : (cache.compile key).2 = cache.put key (cache.compile key).1 := rfl
  rw [stored, outcome]
  exact follows.put key

theorem Follows.accepts (follows : cache.Follows history) (matcher : StringMatcher) (text : String) :
    (cache.accepts matcher text).1 = matcher.accepts text ∧
      (cache.accepts matcher text).2.Follows
        ((matcher.lookup? (some text)).toList ++ history) := by
  rw [PatternCache.accepts, StringMatcher.lookup?]
  split
  next unneeded =>
    refine ⟨?_, follows⟩
    rw [StringMatcher.acceptsBy, StringMatcher.accepts, StringMatcher.acceptsWithin]
    grind
  next needed =>
    obtain ⟨outcome, next⟩ := follows.compile ⟨matcher.pattern, matcher.ignoreCase⟩
    refine ⟨?_, next⟩
    dsimp only
    rw [outcome, StringMatcher.accepts, StringMatcher.acceptsWithin]
    simp only [Bool.or_eq_true, decide_eq_true_eq, not_or, ne_eq, Decidable.not_not] at needed
    rw [if_neg needed.1, if_pos needed.2]
    rfl

/-- The answers to several questions, each of which is a matcher with a text. An absent text is never
accepted. -/
def answers (cache : PatternCache) :
    List (StringMatcher × Option String) → List Bool × PatternCache
  | [] => ([], cache)
  | (_, none) :: rest =>
      let (answers, last) := cache.answers rest
      (false :: answers, last)
  | (matcher, some text) :: rest =>
      let (answer, next) := cache.accepts matcher text
      let (answers, last) := next.answers rest
      (answer :: answers, last)

/-- One matcher can be asked about several texts. -/
theorem acceptsAll_eq (cache : PatternCache) (matcher : StringMatcher)
    (texts : List (Option String)) :
    cache.acceptsAll matcher texts = cache.answers (texts.map fun text => (matcher, text)) := by
  induction texts generalizing cache with
  | nil => rfl
  | cons text rest inductionHypothesis =>
      cases text with
      | none => rw [acceptsAll, List.map_cons, answers, inductionHypothesis]
      | some text =>
          rw [acceptsAll, List.map_cons, answers]
          dsimp only
          rw [inductionHypothesis]

/-- The keys that are looked up for several questions, in their order. -/
def lookups (questions : List (StringMatcher × Option String)) : List PatternKey :=
  questions.filterMap fun question => question.1.lookup? question.2

theorem lookups_cons (matcher : StringMatcher) (text : Option String)
    (rest : List (StringMatcher × Option String)) :
    lookups ((matcher, text) :: rest) = (matcher.lookup? text).toList ++ lookups rest := by
  rw [lookups, List.filterMap_cons]
  dsimp only
  cases matcher.lookup? text <;> rfl

theorem Follows.answers (follows : cache.Follows history)
    (questions : List (StringMatcher × Option String)) :
    (cache.answers questions).1 =
        questions.map (fun question => question.1.acceptsOptional question.2) ∧
      (cache.answers questions).2.Follows ((lookups questions).reverse ++ history) := by
  induction questions generalizing cache history with
  | nil => exact ⟨rfl, follows⟩
  | cons question rest inductionHypothesis =>
      obtain ⟨matcher, text⟩ := question
      rw [lookups_cons, List.reverse_append, List.append_assoc]
      cases text with
      | none =>
          obtain ⟨answers, last⟩ := inductionHypothesis follows
          exact ⟨congrArg (false :: ·) answers, last⟩
      | some text =>
          obtain ⟨answer, next⟩ := follows.accepts matcher text
          obtain ⟨answers, last⟩ := inductionHypothesis next
          have single : (matcher.lookup? (some text)).toList.reverse =
              (matcher.lookup? (some text)).toList := by
            cases matcher.lookup? (some text) <;> rfl
          rw [single]
          exact ⟨List.cons_eq_cons.mpr ⟨answer, answers⟩, last⟩

/-- A matcher answers as it does without a store. -/
theorem acceptsAll_empty (matcher : StringMatcher) (texts : List (Option String)) :
    (empty.acceptsAll matcher texts).1 = texts.map matcher.acceptsOptional := by
  rw [acceptsAll_eq, (follows_empty.answers _).1, List.map_map]
  rfl

/-- The store cannot be noticed in the answers to some questions. -/
structure IsTransparentFor (questions : List (StringMatcher × Option String)) : Prop where
  /-- Every answer is the one with the pattern compiled afresh. -/
  answers : (empty.answers questions).1 =
    questions.map fun question => question.1.acceptsOptional question.2
  /-- Every entry holds the outcome of its own key, also when the compilation failed. -/
  own : ∀ entry ∈ (empty.answers questions).2.entries,
    entry.2 = Regex.compileAnchored? entry.1.pattern entry.1.ignoreCase
  /-- The keys are the different ones among the last lookups, as many as there is room for. -/
  keys : (empty.answers questions).2.entries.map Prod.fst =
    (latest (lookups questions).reverse).take defaultCapacity

/-- The store cannot be noticed, however many questions are asked. -/
theorem isTransparentFor (questions : List (StringMatcher × Option String)) :
    IsTransparentFor questions := by
  obtain ⟨answers, follows⟩ := follows_empty.answers questions
  rw [List.append_nil] at follows
  refine ⟨answers, fun _ member => follows.outcome_of_mem member, ?_⟩
  rw [follows.entries, entriesAfter, List.map_map]
  exact List.map_id _

end PatternCache

end MeshAccess.Match
