import MeshAccess.Policy.Target
import MeshAccess.Proofs.Policy.LastWriter
import MeshAccess.Proofs.Policy.Rebuild

/-! This file describes what a reader sees while the policies of a registry are replaced. -/

namespace MeshAccess.Policy.Registry

variable {α : Type}

/-- There are policies that deny, and the request passes all of them. -/
def Denies (registry : Registry α) (passes : α → Bool) : Prop :=
  (∃ name policy, registry.lookup? .deny name = some policy) ∧
    ∀ name policy, registry.lookup? .deny name = some policy → passes policy.rule

/-- The request fails a policy that allows. -/
def Blocks (registry : Registry α) (passes : α → Bool) : Prop :=
  ∃ name policy, registry.lookup? .allow name = some policy ∧ passes policy.rule = false

/-- A registry refuses what it denies and what it blocks. -/
theorem permits_eq_false_iff_denies_or_blocks (registry : Registry α) (passes : α → Bool) :
    registry.permits passes = false ↔ registry.Denies passes ∨ registry.Blocks passes := by
  have mem (action : Action) (policy : NamedRule α) :
      policy ∈ (registry.policies action).values ↔
        ∃ name, registry.lookup? action name = some policy := NameMap.mem_values
  rw [permits, permitsInOrder_eq_false_iff]
  change ((∃ policy, policy ∈ (registry.policies .deny).values) ∧
      ∀ policy ∈ (registry.policies .deny).values, passes policy.rule) ∨
    (∃ policy ∈ (registry.policies .allow).values, passes policy.rule = false) ↔ _
  simp only [mem, Denies, Blocks]
  grind

/-- What a reader sees in the map of an action between two moments: every entry it sees was there at
some moment, and it misses no entry that is there all the time. -/
structure Look (registry : Registry α) (action : Action) (first last : List (Write α))
    (seen : List (String × NamedRule α)) : Prop where
  found : ∀ entry ∈ seen, ∃ moment, first <+: moment ∧ moment <+: last ∧
    (registry.writeAll moment).lookup? action entry.1 = some entry.2
  complete : ∀ name, (∀ moment, first <+: moment → moment <+: last →
    ((registry.writeAll moment).lookup? action name).isSome) → ∃ policy, (name, policy) ∈ seen

namespace Look

variable {registry : Registry α} {action : Action}

theorem eq_of_within {moment other : List (Write α)} (before : moment <+: other)
    (after : other <+: moment) : other = moment :=
  after.eq_of_length_le before.length_le

/-- A look that takes no time sees exactly the entries of the moment. -/
theorem mem_iff {moment : List (Write α)} {seen : List (String × NamedRule α)}
    (look : Look registry action moment moment seen) {name : String} {policy : NamedRule α} :
    (name, policy) ∈ seen ↔ (registry.writeAll moment).lookup? action name = some policy := by
  have found (policy : NamedRule α) (member : (name, policy) ∈ seen) :
      (registry.writeAll moment).lookup? action name = some policy := by
    obtain ⟨other, before, after, there⟩ := look.found _ member
    rwa [eq_of_within before after] at there
  refine ⟨found policy, fun there => ?_⟩
  obtain ⟨other, member⟩ := look.complete name fun other before after => by
    rw [eq_of_within before after, there]
    rfl
  have same := (found other member).symm.trans there
  cases same
  exact member

/-- A reader may take a look at one moment. -/
theorem at_once (registry : Registry α) (action : Action) (moment : List (Write α)) :
    Look registry action moment moment ((registry.writeAll moment).policies action).entries where
  found entry member := ⟨moment, List.prefix_rfl, List.prefix_rfl, NameMap.find?_eq_some_iff.mpr member⟩
  complete name there := by
    obtain ⟨policy, found⟩ := Option.isSome_iff_exists.mp
      (there moment List.prefix_rfl List.prefix_rfl)
    exact ⟨policy, NameMap.find?_eq_some_iff.mp found⟩

end Look

namespace Rebuild

variable {registry : Registry α} {policies : List (NamedRule α)}

/-- The two looks of a reader during a replacement, first at the policies that deny. A moment is given
by the writes that have happened. -/
structure Reading (rebuild : Rebuild registry policies) where
  deniedFirst : List (Write α)
  deniedLast : List (Write α)
  allowedFirst : List (Write α)
  allowedLast : List (Write α)
  denied : List (String × NamedRule α)
  allowed : List (String × NamedRule α)
  deniedTime : deniedFirst <+: deniedLast
  inOrder : deniedLast <+: allowedFirst
  allowedTime : allowedFirst <+: allowedLast
  reached : allowedLast <+: rebuild.writes
  deniedLook : Look registry .deny deniedFirst deniedLast denied
  allowedLook : Look registry .allow allowedFirst allowedLast allowed

namespace Reading

variable {rebuild : Rebuild registry policies}

/-- The verdict of the reader. -/
def permits (reading : rebuild.Reading) (passes : α → Bool) : Bool :=
  permitsInOrder (reading.denied.map Prod.snd) (reading.allowed.map Prod.snd) passes

/-- Neither look takes any time. -/
def IsAtomic (reading : rebuild.Reading) : Prop :=
  reading.deniedFirst = reading.deniedLast ∧ reading.allowedFirst = reading.allowedLast

/-- Two looks that take no time, at two moments. -/
def atMoments (rebuild : Rebuild registry policies) (first second : List (Write α))
    (inOrder : first <+: second) (reached : second <+: rebuild.writes) : rebuild.Reading where
  deniedFirst := first
  deniedLast := first
  allowedFirst := second
  allowedLast := second
  denied := ((registry.writeAll first).policies .deny).entries
  allowed := ((registry.writeAll second).policies .allow).entries
  deniedTime := List.prefix_rfl
  inOrder := inOrder
  allowedTime := List.prefix_rfl
  reached := reached
  deniedLook := .at_once registry .deny first
  allowedLook := .at_once registry .allow second

theorem isAtomic_atMoments {first second : List (Write α)} (inOrder : first <+: second)
    (reached : second <+: rebuild.writes) : (atMoments rebuild first second inOrder reached).IsAtomic :=
  ⟨rfl, rfl⟩

theorem permits_eq_false_iff (reading : rebuild.Reading) (passes : α → Bool) :
    reading.permits passes = false ↔
      ((∃ entry, entry ∈ reading.denied) ∧ ∀ entry ∈ reading.denied, passes entry.2.rule) ∨
        ∃ entry ∈ reading.allowed, passes entry.2.rule = false := by
  rw [permits, permitsInOrder_eq_false_iff]
  simp only [List.mem_map]
  grind

/-- A reader that no write disturbs gives the verdict of the registry of that moment. -/
theorem permits_atMoments_self {moment : List (Write α)} (reached : moment <+: rebuild.writes)
    (passes : α → Bool) :
    (atMoments rebuild moment moment List.prefix_rfl reached).permits passes =
      (registry.writeAll moment).permits passes := rfl

end Reading

/-- A policy of the list that takes the place of a registered one has its action and gives the
request the same answer. -/
def IsSteady (registry : Registry α) (policies : List (NamedRule α)) (passes : α → Bool) : Prop :=
  ∀ policy ∈ policies, ∀ action old, registry.lookup? action policy.name = some old →
    policy.action = action ∧ passes policy.rule = passes old.rule

theorem drop_notMem_additions (rebuild : Rebuild registry policies) {passes : α → Bool}
    (steady : IsSteady registry policies passes) {action : Action} {name : String}
    {old : NamedRule α} (there : registry.lookup? action name = some old) :
    .drop action name ∉ rebuild.additions := by
  intro member
  obtain ⟨policy, listed, member⟩ := List.mem_flatMap.mp member
  rw [addWrites, List.mem_cons, List.mem_singleton] at member
  rcases member with equal | equal <;> cases equal
  have same := (steady policy listed _ old there).1
  revert same
  cases policy.action <;> decide

/-- Up to the time when its name leaves the map, a registered policy or one with the same answer is
there. -/
theorem exists_lookup?_of_steady (rebuild : Rebuild registry policies) {passes : α → Bool}
    (steady : IsSteady registry policies passes) {action : Action} {name : String}
    {old : NamedRule α} (there : registry.lookup? action name = some old)
    {moment : List (Write α)} (reached : moment <+: rebuild.writes)
    (notDropped : .drop action name ∉ moment) :
    ∃ policy, (registry.writeAll moment).lookup? action name = some policy ∧
      passes policy.rule = passes old.rule := by
  obtain ⟨policy, found⟩ := Option.isSome_iff_exists.mp
    (isSome_lookup?_writeAll registry (there ▸ rfl) notDropped)
  refine ⟨policy, found, ?_⟩
  rcases rebuild.eq_or_mem_of_lookup? reached found with same | ⟨listed, rfl, rfl⟩
  · rw [Option.some_inj.mp (same.symm.trans there)]
  · exact (steady policy listed _ old there).2

/-- After the additions the map of an action has the policies that it has in the end, among others. -/
theorem lookup?_of_replaceAll (rebuild : Rebuild registry policies) {moment : List (Write α)}
    (late : rebuild.additions <+: moment) (reached : moment <+: rebuild.writes) {action : Action}
    {name : String} {policy : NamedRule α}
    (found : (registry.replaceAll policies).lookup? action name = some policy) :
    (registry.writeAll moment).lookup? action name = some policy := by
  rw [lookup?_replaceAll, Option.filter_eq_some_iff, decide_eq_true_iff] at found
  exact found.2 ▸ rebuild.lookup?_of_added late reached found.1

/-- A policy that the request fails is in the map of the policies that allow at every moment, if one
is before and one is after. -/
theorem blocks_of_steady (rebuild : Rebuild registry policies) {passes : α → Bool}
    (steady : IsSteady registry policies passes) (before : registry.Blocks passes)
    (after : (registry.replaceAll policies).Blocks passes) {moment : List (Write α)}
    (reached : moment <+: rebuild.writes) : (registry.writeAll moment).Blocks passes := by
  obtain ⟨name, old, there, fails⟩ := before
  obtain ⟨_, policy, found, failsToo⟩ := after
  rcases List.prefix_or_prefix_of_prefix reached rebuild.additions_first with early | late
  · obtain ⟨kept, present, same⟩ := rebuild.exists_lookup?_of_steady steady there reached
      fun member => rebuild.drop_notMem_additions steady there (early.subset member)
    exact ⟨name, kept, present, same.trans fails⟩
  · exact ⟨_, policy, rebuild.lookup?_of_replaceAll late reached found, failsToo⟩

/-- At every moment the request passes all policies that deny, if it passes those of the registry and
those of the list. -/
theorem passes_of_lookup? (rebuild : Rebuild registry policies) {passes : α → Bool}
    (before : registry.Denies passes)
    (passesNew : ∀ policy ∈ policies, policy.action = .deny → passes policy.rule)
    {moment : List (Write α)} (reached : moment <+: rebuild.writes) (name : String)
    (policy : NamedRule α) (found : (registry.writeAll moment).lookup? .deny name = some policy) :
    passes policy.rule := by
  rcases rebuild.eq_or_mem_of_lookup? reached found with same | ⟨listed, denies, _⟩
  · exact before.2 name policy same
  · exact passesNew policy listed denies

/-- As long as the names of the policies that deny have not begun to leave, a request is denied that
was denied before. -/
theorem denies_of_steady (rebuild : Rebuild registry policies) {passes : α → Bool}
    (steady : IsSteady registry policies passes) (before : registry.Denies passes)
    (passesNew : ∀ policy ∈ policies, policy.action = .deny → passes policy.rule)
    {moment : List (Write α)} (early : moment <+: rebuild.additions ++ rebuild.drops .allow) :
    (registry.writeAll moment).Denies passes := by
  obtain ⟨name, old, there⟩ := before.1
  have reached : moment <+: rebuild.writes := early.trans (List.prefix_append _ _)
  obtain ⟨kept, present, _⟩ := rebuild.exists_lookup?_of_steady steady there reached fun member => by
    rcases List.mem_append.mp (early.subset member) with added | dropped
    · exact rebuild.drop_notMem_additions steady there added
    · obtain ⟨_, _, equal⟩ := List.mem_map.mp dropped
      cases equal
  exact ⟨⟨name, kept, present⟩, rebuild.passes_of_lookup? before passesNew reached⟩

namespace Reading

variable {rebuild : Rebuild registry policies} {passes : α → Bool}

theorem refuses_of_denies (reading : rebuild.Reading) (isAtomic : reading.IsAtomic)
    (denies : (registry.writeAll reading.deniedFirst).Denies passes) :
    reading.permits passes = false := by
  have look := reading.deniedLook
  rw [← isAtomic.1] at look
  obtain ⟨⟨name, policy, there⟩, all⟩ := denies
  exact (reading.permits_eq_false_iff passes).mpr
    (.inl ⟨⟨_, look.mem_iff.mpr there⟩, fun entry member => all _ _ (look.mem_iff.mp member)⟩)

theorem refuses_of_blocks (reading : rebuild.Reading) (isAtomic : reading.IsAtomic)
    (blocks : (registry.writeAll reading.allowedFirst).Blocks passes) :
    reading.permits passes = false := by
  have look := reading.allowedLook
  rw [← isAtomic.2] at look
  obtain ⟨name, policy, there, fails⟩ := blocks
  exact (reading.permits_eq_false_iff passes).mpr (.inr ⟨_, look.mem_iff.mpr there, fails⟩)

theorem allowedFirst_reached (reading : rebuild.Reading) : reading.allowedFirst <+: rebuild.writes :=
  reading.allowedTime.trans reading.reached

theorem deniedFirst_before (reading : rebuild.Reading) :
    reading.deniedFirst <+: reading.allowedFirst := reading.deniedTime.trans reading.inOrder

/-- A request that is refused before and after is refused by every reader in between whose looks take
no time, if it is blocked before and after, or if it is denied before and passes all new policies that
deny. -/
theorem refuses_throughout (reading : rebuild.Reading) (isAtomic : reading.IsAtomic)
    (steady : IsSteady registry policies passes)
    (after : (registry.replaceAll policies).permits passes = false)
    (reason : registry.Blocks passes ∧ (registry.replaceAll policies).Blocks passes ∨
      registry.Denies passes ∧ ∀ policy ∈ policies, policy.action = .deny → passes policy.rule) :
    reading.permits passes = false := by
  have allowedReached := reading.allowedFirst_reached
  have deniedReached := reading.deniedFirst_before.trans allowedReached
  rcases reason with ⟨before, blocks⟩ | ⟨before, passesNew⟩
  · exact reading.refuses_of_blocks isAtomic
      (rebuild.blocks_of_steady steady before blocks allowedReached)
  · rcases List.prefix_or_prefix_of_prefix deniedReached (List.prefix_append _ _) with early | late
    · exact reading.refuses_of_denies isAtomic
        (rebuild.denies_of_steady steady before passesNew early)
    · -- The first look comes so late that all new policies are in.
      have deniedLate := (List.prefix_append _ _).trans late
      rcases (permits_eq_false_iff_denies_or_blocks _ passes).mp after with denies | blocks
      · obtain ⟨name, policy, found⟩ := denies.1
        exact reading.refuses_of_denies isAtomic
          ⟨⟨name, policy, rebuild.lookup?_of_replaceAll deniedLate deniedReached found⟩,
            rebuild.passes_of_lookup? before passesNew deniedReached⟩
      · obtain ⟨name, policy, found, fails⟩ := blocks
        exact reading.refuses_of_blocks isAtomic
          ⟨name, policy, rebuild.lookup?_of_replaceAll
            (deniedLate.trans reading.deniedFirst_before) allowedReached found, fails⟩

/-- Requests to one port. -/
def portRule (port : Nat) : TargetRule := ⟨.empty, ⟨[.single ⟨port⟩]⟩, .empty, .empty⟩

def cartRequest : Target := ⟨"cart.shop", 80, "GET", "/"⟩

/-- Only requests to port 8080 are allowed. -/
def onlyAdministration : Registry TargetRule := empty.add ⟨"administration", .allow, portRule 8080⟩

/-- The same rule under another name, read halfway through the replacement. -/
theorem refuses_renamed :
    (atMoments (.inOrder onlyAdministration [⟨"office", .allow, portRule 8080⟩]) []
      [.put ⟨"office", .allow, portRule 8080⟩] List.nil_prefix ⟨_, rfl⟩).permits
        (·.accepts cartRequest) = false := by
  refine refuses_throughout _ (isAtomic_atMoments _ _) ?_ (by decide)
    (.inl ⟨⟨"administration", ⟨"administration", .allow, portRule 8080⟩, by decide, by decide⟩,
      ⟨"office", ⟨"office", .allow, portRule 8080⟩, by decide, by decide⟩⟩)
  refine List.forall_mem_singleton.mpr fun action old found => ?_
  have unregistered : onlyAdministration.lookup? action "office" = none := by
    cases action <;> decide
  rw [unregistered] at found
  cases found

/-- A request that is not denied before and not blocked after slips through between the two looks. -/
theorem exists_permits_of_change (rebuild : Rebuild registry policies)
    (before : ¬registry.Denies passes) (after : ¬(registry.replaceAll policies).Blocks passes) :
    ∃ reading : rebuild.Reading, reading.IsAtomic ∧ reading.permits passes = true := by
  refine ⟨atMoments rebuild [] rebuild.writes List.nil_prefix List.prefix_rfl,
    isAtomic_atMoments _ _, ?_⟩
  rw [← Bool.not_eq_false, permits_eq_false_iff]
  rintro (⟨⟨entry, member⟩, all⟩ | ⟨entry, member, fails⟩)
  · exact before ⟨⟨_, _, (Look.at_once registry .deny []).mem_iff.mp member⟩, fun name policy there =>
      all _ ((Look.at_once registry .deny []).mem_iff.mpr there)⟩
  · have there := (Look.at_once registry .allow rebuild.writes).mem_iff.mp member
    rw [rebuild.writeAll_writes] at there
    exact after ⟨_, _, there, fails⟩

/-- All requests to port 80 are denied. -/
def noCart : Registry TargetRule := empty.add ⟨"cart", .deny, portRule 80⟩

/-- Only requests to port 8080 are allowed, and those to port 9090 are denied. -/
def noCartEither : List (NamedRule TargetRule) :=
  [⟨"metrics", .deny, portRule 9090⟩, ⟨"administration", .allow, portRule 8080⟩]

/-- A new policy that denies other requests stops the old one from denying, before a policy is in that
blocks the request. -/
theorem not_refuses_always : ¬∀ (registry : Registry TargetRule) (policies : List (NamedRule TargetRule))
    (target : Target) (rebuild : Rebuild registry policies) (reading : rebuild.Reading),
    reading.IsAtomic → registry.permits (·.accepts target) = false →
      (registry.replaceAll policies).permits (·.accepts target) = false →
        reading.permits (·.accepts target) = false := by
  intro always
  let rebuild : Rebuild noCart noCartEither := .inOrder noCart noCartEither
  have reached : rebuild.writes.take 2 <+: rebuild.writes := List.take_prefix 2 _
  have refuses := always noCart noCartEither cartRequest rebuild
    (atMoments rebuild _ _ List.prefix_rfl reached) (isAtomic_atMoments _ _) (by decide) (by decide)
  rw [permits_atMoments_self] at refuses
  revert refuses
  decide

/-- If no name stays, a reader that takes its time may see an empty registry. -/
theorem exists_empty (rebuild : Rebuild registry policies)
    (noneDenied : ∀ name, registry.lookup? .deny name = none)
    (fresh : ∀ policy ∈ policies, registry.lookup? .allow policy.name = none) :
    ∃ reading : rebuild.Reading, reading.denied = [] ∧ reading.allowed = [] := by
  have vanishes (name : String) : registry.lookup? .allow name = none ∨
      (registry.writeAll rebuild.writes).lookup? .allow name = none := by
    rw [rebuild.writeAll_writes, lookup?_replaceAll]
    cases last : last? policies name with
    | none => exact .inr rfl
    | some policy =>
        obtain ⟨rfl, before, after, split, _⟩ := lastNamed?_eq_some_iff.mp last
        exact .inl (fresh policy (split ▸ List.mem_append_right before List.mem_cons_self))
  refine ⟨{
    deniedFirst := []
    deniedLast := []
    allowedFirst := []
    allowedLast := rebuild.writes
    denied := []
    allowed := []
    deniedTime := List.prefix_rfl
    inOrder := List.prefix_rfl
    allowedTime := List.nil_prefix
    reached := List.prefix_rfl
    deniedLook := ⟨nofun, fun name there => ?_⟩
    allowedLook := ⟨nofun, fun name there => ?_⟩ }, rfl, rfl⟩
  · have present := there [] List.prefix_rfl List.prefix_rfl
    rw [writeAll, List.foldl_nil, noneDenied] at present
    cases present
  · have first := there [] List.prefix_rfl List.nil_prefix
    have last := there rebuild.writes List.nil_prefix List.prefix_rfl
    rcases vanishes name with absent | absent
    · rw [writeAll, List.foldl_nil, absent] at first
      cases first
    · rw [absent] at last
      cases last

/-- A reader that takes its time still sees a policy whose name stays, or one with the same answer. -/
theorem exists_seen_of_kept (rebuild : Rebuild registry policies)
    (steady : IsSteady registry policies passes) {action : Action} {old : NamedRule α}
    {name : String} (there : registry.lookup? action name = some old)
    (kept : ∃ policy ∈ policies, policy.name = name) {first last : List (Write α)}
    (reached : last <+: rebuild.writes) {seen : List (String × NamedRule α)}
    (look : Look registry action first last seen) :
    ∃ entry ∈ seen, passes entry.2.rule = passes old.rule := by
  have present (moment : List (Write α)) (reached : moment <+: rebuild.writes) :
      ∃ policy, (registry.writeAll moment).lookup? action name = some policy ∧
        passes policy.rule = passes old.rule := by
    rcases List.prefix_or_prefix_of_prefix reached rebuild.additions_first with early | late
    · exact rebuild.exists_lookup?_of_steady steady there reached
        fun member => rebuild.drop_notMem_additions steady there (early.subset member)
    · obtain ⟨policy, last⟩ := Option.isSome_iff_exists.mp
        (isSome_lastNamed?.mpr kept)
      obtain ⟨named, before, after, split, _⟩ := lastNamed?_eq_some_iff.mp last
      have listed : policy ∈ policies := split ▸ List.mem_append_right before List.mem_cons_self
      obtain ⟨rfl, same⟩ := steady policy listed action old (named ▸ there)
      exact ⟨policy, rebuild.lookup?_of_added late reached last, same⟩
  obtain ⟨policy, member⟩ := look.complete name fun moment _ before => by
    obtain ⟨policy, found, _⟩ := present moment (before.trans reached)
    rw [found]
    rfl
  obtain ⟨moment, _, before, found⟩ := look.found _ member
  obtain ⟨other, foundToo, same⟩ := present moment (before.trans reached)
  cases found.symm.trans foundToo
  exact ⟨_, member, same⟩

/-- However long the looks take, a request is refused if it fails a policy whose name stays, or if it
passes all policies that deny and the name of one of them stays. -/
theorem refuses_of_kept (reading : rebuild.Reading) (steady : IsSteady registry policies passes)
    {action : Action} {name : String} {old : NamedRule α}
    (there : registry.lookup? action name = some old)
    (kept : ∃ policy ∈ policies, policy.name = name)
    (reason : action = .allow ∧ passes old.rule = false ∨ action = .deny ∧
      registry.Denies passes ∧ ∀ policy ∈ policies, policy.action = .deny → passes policy.rule) :
    reading.permits passes = false := by
  rw [permits_eq_false_iff]
  rcases reason with ⟨rfl, fails⟩ | ⟨rfl, before, passesNew⟩
  · obtain ⟨entry, member, same⟩ :=
      exists_seen_of_kept rebuild steady there kept reading.reached reading.allowedLook
    exact .inr ⟨entry, member, same.trans fails⟩
  · have reached : reading.deniedLast <+: rebuild.writes :=
      reading.inOrder.trans reading.allowedFirst_reached
    obtain ⟨entry, member, _⟩ :=
      exists_seen_of_kept rebuild steady there kept reached reading.deniedLook
    refine .inl ⟨⟨entry, member⟩, fun other seen => ?_⟩
    obtain ⟨moment, _, upTo, found⟩ := reading.deniedLook.found other seen
    exact rebuild.passes_of_lookup? before passesNew (upTo.trans reached) _ _ found

end Reading

end Rebuild

end MeshAccess.Policy.Registry
