import ElasticPools.Proofs.Simulation
import ElasticPools.Quantity.Ordered

/-!
Which drafts are accepted. The rules for configurations stand in a list, and each is judged by itself.
A draft that keeps them all becomes the configuration that it describes, which runs for as many ticks
as are asked for. Any other draft is refused with the first rule that it breaks.
-/

set_option autoImplicit false

namespace ElasticPools

variable {α : Type}

/-- A rule for configurations, and what is said to whoever breaks it. -/
structure Rule (α : Type) where
  kept : Bool
  violation : Violation α

namespace Rule

/-- What is said of the first rule that is broken. -/
def firstBroken? (rules : List (Rule α)) : Option (Violation α) :=
  (rules.find? (!·.kept)).map (·.violation)

theorem firstBroken?_cons (r : Rule α) (rules : List (Rule α)) :
    firstBroken? (r :: rules) = if r.kept then firstBroken? rules else some r.violation := by
  rw [firstBroken?, List.find?_cons]
  cases r.kept <;> rfl

theorem firstBroken?_append (rules more : List (Rule α)) :
    firstBroken? (rules ++ more) = (firstBroken? rules).or (firstBroken? more) := by
  simp only [firstBroken?, List.find?_append]
  cases rules.find? (!·.kept) <;> rfl

theorem firstBroken?_eq_none_iff {rules : List (Rule α)} :
    firstBroken? rules = none ↔ ∀ r ∈ rules, r.kept = true := by
  simp [firstBroken?]

/-- A check of one rule, and those after it. They may rely on the rule. -/
theorem ite_eq_firstBroken? {kept : Bool} {v : Violation α} {rules : List (Rule α)} {broken : Prop}
    [Decidable broken] {others : Option (Violation α)} (means : kept = true ↔ ¬ broken)
    (rest : kept = true → others = firstBroken? rules) :
    (if broken then some v else others) = firstBroken? (⟨kept, v⟩ :: rules) := by
  rw [firstBroken?_cons]
  by_cases fails : broken
  · rw [if_pos fails, if_neg fun kept => means.mp kept fails]
  · rw [if_neg fails, if_pos (means.mpr fails), rest (means.mpr fails)]

end Rule

open Rule

namespace Policy

/-- The policy is what a draft says, and what the profile says where the draft is silent. -/
structure Completes (p : Policy α) [Quantity α] (d : PolicyDraft α) : Prop where
  profile : p.profile = d.profile.getD .poolTracking
  tracking : p.tracking = (ofProfile p.profile : Policy α).tracking
  seedSize : p.seedSize = d.seedSize.getD (ofProfile p.profile : Policy α).seedSize
  minimum : p.minimum = d.minimum.getD (ofProfile p.profile).minimum
  low : p.low = d.low.getD (ofProfile p.profile).low
  high : p.high = d.high.getD (ofProfile p.profile).high
  singletonGrace :
    p.singletonGrace = d.singletonGrace.getD (ofProfile p.profile : Policy α).singletonGrace
  atTargetGrace :
    p.atTargetGrace = d.atTargetGrace.getD (ofProfile p.profile : Policy α).atTargetGrace
  generalGrace : p.generalGrace = d.generalGrace.getD (ofProfile p.profile : Policy α).generalGrace
  skipGrowthAfterLoss : p.skipGrowthAfterLoss =
    d.skipGrowthAfterLoss.getD (ofProfile p.profile : Policy α).skipGrowthAfterLoss

variable [Quantity α]

/-- What policies are allowed to be. -/
structure Lawful (p : Policy α) : Prop where
  minimum : (0.0 : α) ≤ p.minimum ∧ p.minimum ≤ (1.0 : α)
  low : (0.0 : α) ≤ p.low ∧ p.low ≤ (1.0 : α)
  high : (0.0 : α) ≤ p.high ∧ p.high ≤ (1.0 : α)
  apart : p.minimum < p.low
  ordered : p.low ≤ p.high
  singletonGrace : 1 ≤ p.singletonGrace
  atTargetGrace : 1 ≤ p.atTargetGrace
  generalGrace : 1 ≤ p.generalGrace
  seedSize : 1 ≤ p.seedSize ∧ p.seedSize ≤ 1000

/-- The rules for policies, in the order in which they are checked. -/
def rules (p : Policy α) : List (Rule α) :=
  [⟨(0.0 : α) ≤ p.minimum ∧ p.minimum ≤ (1.0 : α), .threshold .minimum p.minimum⟩,
    ⟨(0.0 : α) ≤ p.low ∧ p.low ≤ (1.0 : α), .threshold .low p.low⟩,
    ⟨(0.0 : α) ≤ p.high ∧ p.high ≤ (1.0 : α), .threshold .high p.high⟩,
    ⟨p.minimum < p.low, .minimumNotBelowLow p.minimum p.low⟩,
    ⟨p.low ≤ p.high, .lowAboveHigh p.low p.high⟩,
    ⟨1 ≤ p.singletonGrace, .zeroGrace .singleton⟩,
    ⟨1 ≤ p.atTargetGrace, .zeroGrace .atTarget⟩,
    ⟨1 ≤ p.generalGrace, .zeroGrace .general⟩,
    ⟨1 ≤ p.seedSize ∧ p.seedSize ≤ 1000, .seedSize p.seedSize⟩]

theorem lawful_iff {p : Policy α} : p.Lawful ↔ ∀ r ∈ p.rules, r.kept = true := by
  simp only [rules, List.forall_mem_cons, List.not_mem_nil, false_imp_iff, implies_true,
    decide_eq_true_eq, and_true]
  constructor
  · rintro ⟨minimum, low, high, apart, ordered, singleton, atTarget, general, seed⟩
    exact ⟨minimum, low, high, apart, ordered, singleton, atTarget, general, seed⟩
  · rintro ⟨minimum, low, high, apart, ordered, singleton, atTarget, general, seed⟩
    exact ⟨minimum, low, high, apart, ordered, singleton, atTarget, general, seed⟩

/-- What the profiles say is lawful. -/
theorem lawful_ofProfile (profile : Profile) : (ofProfile profile : Policy Float).Lawful := by
  rw [lawful_iff]
  cases profile <;> decide +kernel

theorem not_outside_iff {x : α} :
    decide ((0.0 : α) ≤ x ∧ x ≤ (1.0 : α)) = true ↔ ¬ (!inUnitInterval x) = true := by
  simp [inUnitInterval]

/-- Thresholds are compared only when both are known to be numbers. -/
theorem violation?_eq [Quantity.Ordered α] (p : Policy α) :
    p.violation? = firstBroken? p.rules := by
  refine ite_eq_firstBroken? ?_ fun minimum => ?_
  · exact not_outside_iff
  refine ite_eq_firstBroken? ?_ fun low => ?_
  · exact not_outside_iff
  refine ite_eq_firstBroken? ?_ fun high => ?_
  · exact not_outside_iff
  simp only [decide_eq_true_eq] at minimum low high
  refine ite_eq_firstBroken? ?_ fun _ => ?_
  · rw [decide_eq_true_eq]
    exact ⟨fun apart reversed => Quantity.Ordered.not_lt_of_le reversed apart,
      (Quantity.Ordered.le_or_lt low.1 minimum.2).resolve_left⟩
  refine ite_eq_firstBroken? ?_ fun _ => ?_
  · rw [decide_eq_true_eq]
    exact ⟨Quantity.Ordered.not_lt_of_le,
      (Quantity.Ordered.le_or_lt low.1 high.2).resolve_right⟩
  refine ite_eq_firstBroken? ?_ fun _ => ?_
  · rw [decide_eq_true_eq, Nat.one_le_iff_ne_zero]
  refine ite_eq_firstBroken? ?_ fun _ => ?_
  · rw [decide_eq_true_eq, Nat.one_le_iff_ne_zero]
  refine ite_eq_firstBroken? ?_ fun _ => ?_
  · rw [decide_eq_true_eq, Nat.one_le_iff_ne_zero]
  refine ite_eq_firstBroken? ?_ fun _ => rfl
  · rw [decide_eq_true_eq, greatestSeedSize]
    omega

end Policy

namespace PolicyDraft

variable [Quantity α]

theorem resolve_completes (d : PolicyDraft α) : d.resolve.Completes d := by
  have same : d.resolve.profile = d.profile.getD .poolTracking := by
    unfold resolve
    cases d.profile.getD .poolTracking <;> rfl
  constructor
  case profile => exact same
  all_goals rw [same]; rfl

/-- The rules for policies, and then that for the period between ticks. -/
def rules (d : PolicyDraft α) : List (Rule α) :=
  d.resolve.rules ++ [⟨1 ≤ d.tickPeriod, .zeroTickPeriod⟩]

theorem violation?_eq [Quantity.Ordered α] (d : PolicyDraft α) :
    d.violation? = firstBroken? d.rules := by
  have period : (if d.tickPeriod = 0 then some Violation.zeroTickPeriod else none) =
      firstBroken? [(⟨1 ≤ d.tickPeriod, .zeroTickPeriod⟩ : Rule α)] := by
    refine ite_eq_firstBroken? ?_ fun _ => rfl
    rw [decide_eq_true_eq, Nat.one_le_iff_ne_zero]
  rw [violation?, d.resolve.violation?_eq, rules, firstBroken?_append, ← period]
  cases firstBroken? d.resolve.rules <;> rfl

end PolicyDraft

namespace Identifier

theorem text_of_parse {role : Role} {text : String} {id : Identifier role}
    (parsed : parse role text = .ok id) : id.text = text := by
  unfold parse at parsed
  split at parsed
  · rw [← Except.ok.inj parsed]
  · cases parsed

theorem text_injective {role : Role} : Function.Injective (text : Identifier role → String) :=
  fun _ _ => ext_text

/-- What names are allowed to be. -/
def Valid (text : String) : Prop :=
  text ≠ "" ∧ text.utf8ByteSize ≤ 64 ∧ ∀ c ∈ text.toList, isAdmissible c = true

theorem fault?_eq_none_iff {text : String} : fault? text = none ↔ Valid text := by
  unfold fault? Valid
  split
  · next blank => simp [String.isEmpty_iff.mp blank]
  · next filled =>
    split
    · next long =>
      rw [maxBytes] at long
      simp [Nat.not_le.mpr long]
    · next short =>
      rw [String.isEmpty_iff] at filled
      rw [maxBytes, Nat.not_lt] at short
      simp [filled, short]

theorem exists_of_valid {role : Role} {text : String} (valid : Valid text) :
    ∃ id : Identifier role, id.text = text :=
  ⟨⟨text, fault?_eq_none_iff.mpr valid⟩, rfl⟩

/-- The rules for names of kinds, in the order in which they are checked. -/
def rules (text : String) : List (Rule α) :=
  [⟨text ≠ "", .identifier ⟨.kind, text, .empty⟩⟩,
    ⟨text.utf8ByteSize ≤ 64, .identifier ⟨.kind, text, .tooLong text.utf8ByteSize⟩⟩,
    ⟨text.toList.all isAdmissible, .identifier ⟨.kind, text, .character⟩⟩]

theorem valid_iff {text : String} :
    Valid text ↔ ∀ r ∈ (rules text : List (Rule α)), r.kept = true := by
  simp only [rules, List.forall_mem_cons, List.not_mem_nil, false_imp_iff, implies_true,
    decide_eq_true_eq, List.all_eq_true, and_true]
  rfl

theorem map_fault?_eq (text : String) :
    (fault? text).map (fun fault => .identifier ⟨.kind, text, fault⟩) =
      firstBroken? (rules text : List (Rule α)) := by
  rw [fault?, apply_ite (Option.map _)]
  refine ite_eq_firstBroken? ?_ fun _ => ?_
  · rw [decide_eq_true_eq, String.isEmpty_iff]
  rw [apply_ite (Option.map _)]
  refine ite_eq_firstBroken? ?_ fun _ => ?_
  · rw [decide_eq_true_eq, maxBytes, Nat.not_lt]
  rw [← ite_not, apply_ite (Option.map _)]
  refine ite_eq_firstBroken? ?_ fun _ => rfl
  · rw [not_not]

end Identifier

/-- What the phases of a demand are allowed to be: numbers of workers, each phase starting later than
the one before it. -/
structure Scheduled [Quantity α] (phases : List (Phase α)) : Prop where
  loads : ∀ phase ∈ phases, Quantity.isFinite phase.load = true ∧ (0.0 : α) ≤ phase.load
  starts : phases.Pairwise (·.start < ·.start)

/-- What one would have to write for a plan. -/
def KindPlan.draft (plan : KindPlan α) : KindDraft α :=
  ⟨plan.kind.text, plan.initialWorkers, plan.phases⟩

/-- What an outcome complains of. -/
def complaint? {β : Type} : Except (Violation α) β → Option (Violation α)
  | .error v => some v
  | .ok _ => none

namespace KindDraft

variable [Quantity α]

/-- The rules for phases, the load of each before its start. -/
def phaseRules (position : ℕ) : Option ℕ → List (Phase α) → List (Rule α)
  | _, [] => []
  | last, phase :: rest =>
    ⟨Quantity.isFinite phase.load = true ∧ (0.0 : α) ≤ phase.load, .load position phase.load⟩ ::
      ⟨∀ start ∈ last, start < phase.start, .phaseOrder position phase.start⟩ ::
        phaseRules position (some phase.start) rest

/-- Induction over the phases, whatever start came before them. -/
theorem phaseViolation?_eq [Quantity.Ranked α] (position : ℕ) (last : Option ℕ)
    (phases : List (Phase α)) :
    phaseViolation? position last phases = firstBroken? (phaseRules position last phases) := by
  induction phases generalizing last with
  | nil => rfl
  | cons phase rest ih =>
    refine ite_eq_firstBroken? ?_ fun _ => ?_
    · rw [decide_eq_true_eq, Bool.or_eq_true, not_or, Bool.not_eq_true', Bool.not_eq_false,
        decide_eq_true_eq]
      exact and_congr_right Quantity.Ranked.zero_le_iff
    refine ite_eq_firstBroken? ?_ fun _ => ih (some phase.start)
    · cases last <;> simp

theorem phaseRules_kept_iff {position : ℕ} {last : Option ℕ} {phases : List (Phase α)} :
    (∀ r ∈ phaseRules position last phases, r.kept = true) ↔
      Scheduled phases ∧ ∀ start ∈ last, ∀ phase ∈ phases, start < phase.start := by
  induction phases generalizing last with
  | nil =>
    refine ⟨fun _ => ⟨⟨nofun, .nil⟩, fun _ _ => nofun⟩, fun _ => nofun⟩
  | cons phase rest ih =>
    simp only [phaseRules, List.forall_mem_cons, decide_eq_true_eq, ih]
    constructor
    · rintro ⟨load, later, scheduled, above⟩
      refine ⟨⟨?_, ?_⟩, fun start before => ⟨later start before, fun q member => ?_⟩⟩
      · exact List.forall_mem_cons.mpr ⟨load, scheduled.loads⟩
      · exact List.pairwise_cons.mpr ⟨above phase.start rfl, scheduled.starts⟩
      · exact (later start before).trans (above phase.start rfl q member)
    · rintro ⟨scheduled, later⟩
      obtain ⟨load, loads⟩ := List.forall_mem_cons.mp scheduled.loads
      obtain ⟨above, starts⟩ := List.pairwise_cons.mp scheduled.starts
      refine ⟨load, fun start before => (later start before).1, ⟨loads, starts⟩, ?_⟩
      rintro _ ⟨⟩
      exact above

/-- What is checked of a kind by itself: its name, then its phases. -/
def ownRules (position : ℕ) (d : KindDraft α) : List (Rule α) :=
  Identifier.rules d.name ++ phaseRules position none d.phases

theorem complaint?_check [Quantity.Ranked α] (position : ℕ) (d : KindDraft α) :
    complaint? (d.check position) = firstBroken? (d.ownRules position) := by
  rw [ownRules, firstBroken?_append, ← Identifier.map_fault?_eq, ← phaseViolation?_eq, check]
  cases parsed : Identifier.parse .kind d.name with
  | error rejection =>
    obtain ⟨fault, found, rfl⟩ := Identifier.parse_eq_error_iff.mp parsed
    rw [found]
    rfl
  | ok kind =>
    rw [← Identifier.text_of_parse parsed, kind.sound]
    cases phaseViolation? position none d.phases <;> rfl

theorem draft_of_check {position : ℕ} {d : KindDraft α} {plan : KindPlan α}
    (accepted : d.check position = .ok plan) : plan.draft = d := by
  unfold check at accepted
  split at accepted
  · cases accepted
  · next kind parsed =>
    split at accepted
    · cases accepted
    · rw [← Except.ok.inj accepted, KindPlan.draft, Identifier.text_of_parse parsed]

/-- What is checked of a kind that comes after others: first what is checked of it by itself, then
whether it has the name of one of them. -/
def rules (earlier : List String) (position : ℕ) (d : KindDraft α) : List (Rule α) :=
  d.ownRules position ++
    match Identifier.parse .kind d.name with
    | .error _ => []
    | .ok kind => [⟨d.name ∉ earlier, .duplicateKind kind⟩]

/-- The rules for kinds, in the order of the kinds. -/
def allRules (earlier : List String) (position : ℕ) : List (KindDraft α) → List (Rule α)
  | [] => []
  | d :: rest => d.rules earlier position ++ allRules (d.name :: earlier) (position + 1) rest

/-- Induction over the kinds, whatever kinds came before them. -/
theorem complaint?_checkAll [Quantity.Ranked α] (seen : List Kind) (position : ℕ)
    (drafts : List (KindDraft α)) :
    complaint? (checkAll seen position drafts) =
      firstBroken? (allRules (seen.map (·.text)) position drafts) := by
  induction drafts generalizing seen position with
  | nil => rfl
  | cons d rest ih =>
    rw [checkAll, allRules, rules, List.append_assoc, firstBroken?_append, ← d.complaint?_check]
    cases checked : d.check position with
    | error v => rfl
    | ok plan =>
      have named : plan.kind.text = d.name := congrArg KindDraft.name (draft_of_check checked)
      have parsed : Identifier.parse .kind d.name = .ok plan.kind := by
        rw [← named, Identifier.parse_text]
      have new : decide (d.name ∉ seen.map (·.text)) = true ↔ ¬ plan.kind ∈ seen := by
        rw [decide_eq_true_eq, ← named, List.mem_map_of_injective Identifier.text_injective]
      rw [parsed]
      show complaint? (if plan.kind ∈ seen then _ else _) = firstBroken? (_ :: _)
      rw [apply_ite complaint?]
      refine ite_eq_firstBroken? new fun _ => ?_
      have others := ih (plan.kind :: seen) (position + 1)
      rw [List.map_cons, named] at others
      refine Eq.trans ?_ others
      cases checkAll (plan.kind :: seen) (position + 1) rest <;> rfl

theorem map_draft_of_checkAll {seen : List Kind} {position : ℕ} {drafts : List (KindDraft α)}
    {plans : List (KindPlan α)} (accepted : checkAll seen position drafts = .ok plans) :
    plans.map KindPlan.draft = drafts := by
  induction drafts generalizing seen position plans with
  | nil => cases accepted; rfl
  | cons d rest ih =>
    unfold checkAll at accepted
    split at accepted
    · cases accepted
    · next plan checked =>
      split at accepted
      · cases accepted
      · split at accepted
        · cases accepted
        · next others checkedOthers =>
          cases accepted
          rw [List.map_cons, draft_of_check checked, ih checkedOthers]

theorem ownRules_kept_iff {position : ℕ} {d : KindDraft α} :
    (∀ r ∈ d.ownRules position, r.kept = true) ↔ Identifier.Valid d.name ∧ Scheduled d.phases := by
  rw [ownRules, List.forall_mem_append, ← Identifier.valid_iff, phaseRules_kept_iff]
  simp

theorem rules_kept_iff {earlier : List String} {position : ℕ} {d : KindDraft α} :
    (∀ r ∈ d.rules earlier position, r.kept = true) ↔
      Identifier.Valid d.name ∧ Scheduled d.phases ∧ d.name ∉ earlier := by
  rw [rules, List.forall_mem_append, ownRules_kept_iff, and_assoc]
  refine and_congr_right fun valid => and_congr_right fun _ => ?_
  obtain ⟨kind, named⟩ : ∃ kind : Kind, kind.text = d.name := Identifier.exists_of_valid valid
  rw [← named, Identifier.parse_text]
  simp

theorem allRules_kept_iff {earlier : List String} {position : ℕ} {drafts : List (KindDraft α)} :
    (∀ r ∈ allRules earlier position drafts, r.kept = true) ↔
      (∀ d ∈ drafts, Identifier.Valid d.name ∧ Scheduled d.phases) ∧
        (drafts.map (·.name)).Nodup ∧ ∀ d ∈ drafts, d.name ∉ earlier := by
  induction drafts generalizing earlier position with
  | nil => simp [allRules]
  | cons d rest ih =>
    rw [allRules, List.forall_mem_append, rules_kept_iff, ih, List.map_cons, List.nodup_cons,
      List.forall_mem_cons, List.forall_mem_cons]
    simp only [List.mem_cons, not_or, List.mem_map, not_exists, not_and]
    constructor
    · rintro ⟨⟨valid, scheduled, new⟩, others, distinct, apart⟩
      exact ⟨⟨⟨valid, scheduled⟩, others⟩, ⟨fun k member => (apart k member).1, distinct⟩, new,
        fun k member => (apart k member).2⟩
    · rintro ⟨⟨⟨valid, scheduled⟩, others⟩, ⟨unlike, distinct⟩, new, apart⟩
      exact ⟨⟨valid, scheduled, new⟩, others, distinct,
        fun k member => ⟨unlike k member, apart k member⟩⟩

end KindDraft

namespace Draft

variable [Quantity α]

/-- What drafts are allowed to be. -/
structure Admissible (d : Draft α) : Prop where
  policy : d.policy.resolve.Lawful
  tickPeriod : 1 ≤ d.policy.tickPeriod
  names : ∀ k ∈ d.kinds, Identifier.Valid k.name
  distinct : (d.kinds.map (·.name)).Nodup
  phases : ∀ k ∈ d.kinds, Scheduled k.phases

/-- All rules, in the order in which they are checked. -/
def rules (d : Draft α) : List (Rule α) := d.policy.rules ++ KindDraft.allRules [] 0 d.kinds

theorem admissible_iff {d : Draft α} : d.Admissible ↔ firstBroken? d.rules = none := by
  rw [firstBroken?_eq_none_iff, rules, List.forall_mem_append, PolicyDraft.rules,
    List.forall_mem_append, ← Policy.lawful_iff, KindDraft.allRules_kept_iff,
    List.forall_mem_singleton, decide_eq_true_eq]
  constructor
  · rintro ⟨policy, tickPeriod, names, distinct, phases⟩
    exact ⟨⟨policy, tickPeriod⟩, fun k member => ⟨names k member, phases k member⟩, distinct,
      fun _ _ => List.not_mem_nil⟩
  · rintro ⟨⟨policy, tickPeriod⟩, kinds, distinct, _⟩
    exact ⟨policy, tickPeriod, fun k member => (kinds k member).1, distinct,
      fun k member => (kinds k member).2⟩

theorem complaint?_check [Quantity.Ranked α] (d : Draft α) :
    complaint? d.check = firstBroken? d.rules := by
  rw [rules, firstBroken?_append, ← d.policy.violation?_eq, check,
    show firstBroken? (KindDraft.allRules [] 0 d.kinds) = _ from
      (KindDraft.complaint?_checkAll [] 0 d.kinds).symm]
  cases d.policy.violation? with
  | some v => rfl
  | none => cases KindDraft.checkAll [] 0 d.kinds <;> rfl

end Draft

/-- The configuration is what a draft says, its kinds in the same order. -/
structure Configuration.Completes [Quantity α] (config : Configuration α) (d : Draft α) : Prop where
  policy : config.policy.Completes d.policy
  tickPeriod : config.tickPeriod = d.policy.tickPeriod
  kinds : config.kinds.map KindPlan.draft = d.kinds

namespace Draft

variable [Quantity α]

theorem completes_of_check {d : Draft α} {config : Configuration α} (accepted : d.check = .ok config) :
    config.Completes d := by
  unfold check at accepted
  split at accepted
  · cases accepted
  · split at accepted
    · cases accepted
    · next plans checked =>
      cases accepted
      exact ⟨d.policy.resolve_completes, rfl, KindDraft.map_draft_of_checkAll checked⟩

end Draft

/-- The configuration starts a controller, and runs for as many ticks as one likes, one report for
each of them. -/
structure Configuration.Runs [Quantity α] (config : Configuration α) : Prop where
  controller : ∃ c, Controller.new config.policy = .ok c
  simulation : ∀ capacity names ticks, ∃ frames,
    Simulation.run config capacity names ticks = .ok frames ∧
      frames.map (·.report.tick) = List.range' 1 ticks

namespace Draft

variable [Quantity α]

theorem runs_of_check {d : Draft α} {config : Configuration α} (accepted : d.check = .ok config) :
    config.Runs := by
  constructor
  case controller =>
    have sound : config.policy.violation? = none := (check_sound accepted).1
    rw [Controller.new, sound]
    exact ⟨_, rfl⟩
  case simulation =>
    intro capacity names ticks
    refine ⟨_, Simulation.run_eq_ok accepted capacity names ticks, ?_⟩
    rw [List.map_map, List.range'_eq_map_range]
    exact List.map_congr_left fun t _ => Nat.add_comm t 1

theorem admissible_of_check [Quantity.Ranked α] {d : Draft α} {config : Configuration α}
    (accepted : d.check = .ok config) : d.Admissible := by
  rw [admissible_iff, ← complaint?_check, accepted]
  rfl

/-- The demand of each accepted kind is a schedule. -/
theorem scheduled_of_check [Quantity.Ranked α] {d : Draft α} {config : Configuration α}
    (accepted : d.check = .ok config) {plan : KindPlan α} (planned : plan ∈ config.kinds) :
    Scheduled plan.phases := by
  refine (admissible_of_check accepted).phases plan.draft ?_
  rw [← (completes_of_check accepted).kinds]
  exact List.mem_map_of_mem planned

/-- A draft is accepted just if it is admissible. The configuration is then the one that it describes,
and runs to its end. Any other draft is refused with the first rule that it breaks. -/
theorem check_decides [Quantity.Ranked α] (d : Draft α) :
    d.policy.resolve.Completes d.policy ∧
      ((∃ config, d.check = .ok config) ↔ d.Admissible) ∧
      (∀ config, d.check = .ok config → config.Completes d ∧ config.Runs) ∧
      ∀ v, d.check = .error v ↔ firstBroken? d.rules = some v := by
  refine ⟨d.policy.resolve_completes, ?_, ?_, ?_⟩
  · rw [admissible_iff, ← complaint?_check]
    cases d.check <;> simp [complaint?]
  · exact fun config accepted => ⟨completes_of_check accepted, runs_of_check accepted⟩
  · intro v
    rw [← complaint?_check]
    cases d.check <;> simp [complaint?]

/-- Of two faults the first is reported: the phases of a kind are looked at before its name is
compared with those of other kinds. -/
example : Draft.check (⟨.blank, [⟨"build", 1, []⟩, ⟨"build", 1, [⟨5, 1.0⟩, ⟨5, 2.0⟩]⟩]⟩ : Draft Float) =
    .error (.phaseOrder 1 5) := by rfl

/-- What is not a number is neither a threshold nor a load. -/
example :
    Draft.check (⟨{ PolicyDraft.blank with minimum := some (0.0 / 0.0) }, []⟩ : Draft Float) =
        .error (.threshold .minimum (0.0 / 0.0)) ∧
      Draft.check (⟨.blank, [⟨"build", 1, [⟨0, 0.0 / 0.0⟩]⟩]⟩ : Draft Float) =
        .error (.load 0 (0.0 / 0.0)) := ⟨by rfl, by rfl⟩

end Draft

end ElasticPools
