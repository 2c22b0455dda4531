import WorkloadPolicy.Proofs.Tree

/-!
# Grouping of checks

A conjunction of conjunctions is one conjunction, and likewise for disjunctions; a node with one
child is the child, and one without children contributes nothing.  Grouping a tree in normal
form therefore changes neither how it fails, nor whether it contributes something, nor what
comes of that: its verdicts on all values and what it tells of all highlights.

What comes of several contributions is put together from what comes of each, and this is
associative.  All that is needed of a tree then follows from lists of trees.
-/

namespace WorkloadPolicy

/-! ## How children are taken together -/

/-- How the children of a node are taken together. -/
inductive Connective where
  | all
  | any
  deriving DecidableEq

namespace Connective

/-- Two verdicts taken together. -/
def join : Connective → Verdict → Verdict → Verdict
  | all => Verdict.both
  | any => Verdict.either

/-- The verdict on no children. -/
def unit : Connective → Verdict
  | all => .matched {}
  | any => .unmatched

/-- Several verdicts taken together. -/
def joinAll (connective : Connective) (verdicts : List Verdict) : Verdict :=
  verdicts.foldr connective.join connective.unit

theorem join_assoc (connective : Connective) (first second third : Verdict) :
    connective.join (connective.join first second) third =
      connective.join first (connective.join second third) := by
  cases connective
  · exact Verdict.both_assoc first second third
  · exact Verdict.either_assoc first second third

@[simp] theorem join_unit (connective : Connective) (verdict : Verdict) :
    connective.join verdict connective.unit = verdict := by
  cases connective
  · exact Verdict.both_matched_empty verdict
  · exact Verdict.either_unmatched verdict

@[simp] theorem unit_join (connective : Connective) (verdict : Verdict) :
    connective.join connective.unit verdict = verdict := by
  cases connective
  · exact Verdict.matched_empty_both verdict
  · exact Verdict.unmatched_either verdict

theorem joinAll_cons (connective : Connective) (verdict : Verdict) (verdicts : List Verdict) :
    connective.joinAll (verdict :: verdicts) =
      connective.join verdict (connective.joinAll verdicts) := rfl

theorem joinAll_append (connective : Connective) (first second : List Verdict) :
    connective.joinAll (first ++ second) =
      connective.join (connective.joinAll first) (connective.joinAll second) := by
  induction first with
  | nil => exact (connective.unit_join _).symm
  | cons verdict verdicts hypothesis =>
      rw [List.cons_append, joinAll_cons, hypothesis, joinAll_cons, join_assoc]

end Connective

/-! ## What comes of contributions -/

/-- What comes of a contribution: its verdict on values at a moment, and what is told of
highlights. -/
structure Effect where
  verdict : Calendar.Instant → FieldValues → Verdict
  alerts : Highlights → List Alert

/-- What comes of a contribution. -/
def Contribution.effect (contribution : Contribution) : Effect where
  verdict now values := contribution.query.evaluate now values
  alerts highlights := contribution.printer.alerts highlights

namespace Effect

/-- What comes of two contributions taken together, where each may be missing. -/
def merge? (connective : Connective) : Option Effect → Option Effect → Option Effect
  | none, other => other
  | some first, none => some first
  | some first, some second =>
      some
        { verdict := fun now values =>
            connective.join (first.verdict now values) (second.verdict now values)
          alerts := fun highlights => first.alerts highlights ++ second.alerts highlights }

/-- What comes of several contributions taken together, if there are any. -/
def joined? (connective : Connective) : List Effect → Option Effect
  | [] => none
  | parts =>
      some
        { verdict := fun now values =>
            connective.joinAll (parts.map fun part => part.verdict now values)
          alerts := fun highlights => parts.flatMap fun part => part.alerts highlights }

variable {connective : Connective}

@[simp] theorem merge?_none (effect : Option Effect) :
    merge? connective effect none = effect := by
  cases effect <;> rfl

theorem merge?_assoc (first second third : Option Effect) :
    merge? connective (merge? connective first second) third =
      merge? connective first (merge? connective second third) := by
  cases first <;> cases second <;> cases third <;>
    simp [merge?, Connective.join_assoc]

@[simp] theorem joined?_nil : joined? connective [] = none := rfl

theorem joined?_singleton (effect : Effect) : joined? connective [effect] = some effect := by
  simp [joined?, Connective.joinAll]

theorem joined?_append (first second : List Effect) :
    joined? connective (first ++ second) =
      merge? connective (joined? connective first) (joined? connective second) := by
  cases first with
  | nil => rfl
  | cons part parts =>
      cases second with
      | nil => rw [List.append_nil, joined?_nil, merge?_none]
      | cons other others =>
          simp only [joined?, merge?, List.cons_append, List.map_cons, List.map_append,
            Connective.joinAll_cons, Connective.joinAll_append, Connective.join_assoc,
            List.flatMap_cons, List.flatMap_append, List.append_assoc]

theorem joined?_toList (effect : Option Effect) : joined? connective effect.toList = effect := by
  cases effect with
  | none => rfl
  | some effect => exact joined?_singleton effect

end Effect

namespace Connective

/-- The predicate that some predicates make together, if there are any. -/
def combine? : Connective → List Query → Option Query
  | all => Query.all?
  | any => Query.any?

/-- What comes of contributions taken together is what comes of them. -/
theorem effect_combined? (connective : Connective) (parts : List Contribution) :
    (Contribution.combined? connective.combine? parts).map Contribution.effect =
      Effect.joined? connective (parts.map Contribution.effect) := by
  cases combined : Contribution.combined? connective.combine? parts with
  | none =>
      have empty : parts = [] := by
        cases connective
        · exact Contribution.combined?_all_eq_none_iff.1 combined
        · exact Contribution.combined?_any_eq_none_iff.1 combined
      rw [empty]
      rfl
  | some whole =>
      have together : Contribution.Combined parts whole := by
        cases connective
        · exact .all combined
        · exact .any combined
      have verdict (now : Calendar.Instant) (values : FieldValues) :
          whole.query.evaluate now values =
            connective.joinAll (parts.map fun part => part.query.evaluate now values) := by
        cases connective
        · exact Contribution.evaluate_of_combined?_all combined now values
        · exact Contribution.evaluate_of_combined?_any combined now values
      obtain ⟨part, others, rfl⟩ := List.exists_cons_of_ne_nil together.ne_nil
      simp only [Option.map_some, Contribution.effect, Effect.joined?, verdict, together.alerts_eq,
        List.map_cons, List.flatMap_cons, List.map_map, List.flatMap_map, Function.comp_def]

end Connective

/-! ## What comes of trees -/

namespace Connective

/-- A node with some children. -/
def node : Connective → List Check → Check
  | all => .all
  | any => .any

end Connective

namespace Check

section Effects

variable (fields : PolicyFields) (registry : FieldRegistry)

/-- What comes of a tree, if it contributes something. -/
def effect? (check : Check) : Except CheckError (Option Effect) :=
  (check.contribution? fields registry).map (Option.map Contribution.effect)

/-- What comes of some trees taken together, if one of them contributes something. -/
def jointEffect?
    (connective : Connective)
    (checks : List Check) : Except CheckError (Option Effect) :=
  (contributions fields registry checks).map fun parts =>
    Effect.joined? connective (parts.map Contribution.effect)

/-- What comes of two runs taken together.  The first failure decides. -/
def mergedRun
    (connective : Connective)
    (first second : Except CheckError (Option Effect)) : Except CheckError (Option Effect) := do
  let before ← first
  let after ← second
  .ok (Effect.merge? connective before after)

variable {fields registry} {connective : Connective}

theorem mergedRun_assoc (first second third : Except CheckError (Option Effect)) :
    mergedRun connective (mergedRun connective first second) third =
      mergedRun connective first (mergedRun connective second third) := by
  cases first <;> cases second <;> cases third <;> try rfl
  exact congrArg Except.ok (Effect.merge?_assoc _ _ _)

@[simp] theorem mergedRun_none (run : Except CheckError (Option Effect)) :
    mergedRun connective run (.ok none) = run := by
  cases run with
  | error error => rfl
  | ok effect => exact congrArg Except.ok (Effect.merge?_none effect)

@[simp] theorem none_mergedRun (run : Except CheckError (Option Effect)) :
    mergedRun connective (.ok none) run = run := by
  cases run <;> rfl

@[simp] theorem jointEffect?_nil :
    jointEffect? fields registry connective [] = .ok none := rfl

theorem jointEffect?_cons (check : Check) (checks : List Check) :
    jointEffect? fields registry connective (check :: checks) =
      mergedRun connective (check.effect? fields registry)
        (jointEffect? fields registry connective checks) := by
  unfold jointEffect? effect?
  rw [contributions]
  cases check.contribution? fields registry with
  | error error => rfl
  | ok first =>
      cases contributions fields registry checks with
      | error error => rfl
      | ok others =>
          show
            Except.ok (Effect.joined? connective ((first.toList ++ others).map
              Contribution.effect)) = Except.ok _
          rw [List.map_append, Effect.joined?_append, ← Option.toList_map, Effect.joined?_toList]

theorem jointEffect?_singleton (check : Check) :
    jointEffect? fields registry connective [check] = check.effect? fields registry := by
  rw [jointEffect?_cons, jointEffect?_nil, mergedRun_none]

theorem jointEffect?_append (first second : List Check) :
    jointEffect? fields registry connective (first ++ second) =
      mergedRun connective (jointEffect? fields registry connective first)
        (jointEffect? fields registry connective second) := by
  induction first with
  | nil => exact (none_mergedRun _).symm
  | cons check checks hypothesis =>
      rw [List.cons_append, jointEffect?_cons, hypothesis, jointEffect?_cons, mergedRun_assoc]

/-- What comes of a node is what comes of its children. -/
theorem effect?_node (checks : List Check) :
    (connective.node checks).effect? fields registry =
      jointEffect? fields registry connective checks := by
  have combined :
      (connective.node checks).contribution? fields registry =
        (contributions fields registry checks).map
          (Contribution.combined? connective.combine?) := by
    cases connective <;>
      (rw [Connective.node, contribution?]
       cases contributions fields registry checks <;> rfl)
  rw [effect?, combined, jointEffect?]
  cases contributions fields registry checks with
  | error error => rfl
  | ok parts => exact congrArg Except.ok (connective.effect_combined? parts)

end Effects

/-! ## Normal forms -/

/-- What a node takes a child apart into: the children of a node of its own sort. -/
def spliced : Connective → Check → List Check
  | .all, all checks => checks
  | .any, any checks => checks
  | _, check => [check]

/-- Some trees as one.  A single one stands for itself, and none make no tree. -/
def grouped? (connective : Connective) : List Check → Option Check
  | [] => none
  | [check] => some check
  | checks => some (connective.node checks)

mutual

/-- The normal form of a tree, if it has a leaf: children are spliced into a parent of the same
sort, a node with one child is replaced by it, and one without children is dropped. -/
def normal? : Check → Option Check
  | leaf check => some (leaf check)
  | all checks => grouped? .all ((normals checks).flatMap (spliced .all))
  | any checks => grouped? .any ((normals checks).flatMap (spliced .any))

/-- The normal forms of several trees. -/
def normals : List Check → List Check
  | [] => []
  | check :: checks => (normal? check).toList ++ normals checks

end

/-- Every node has at least two children, none of which is a node of the same sort. -/
inductive IsNormal : Check → Prop
  | leaf (check : LeafCheck) : IsNormal (leaf check)
  | node
      {connective : Connective}
      {checks : List Check}
      (several : 2 ≤ checks.length)
      (each : ∀ check ∈ checks, check.IsNormal)
      (other : ∀ check ∈ checks, ∀ children, check ≠ connective.node children) :
      IsNormal (connective.node checks)

theorem normals_eq_filterMap (checks : List Check) :
    normals checks = checks.filterMap normal? := by
  induction checks with
  | nil => rfl
  | cons check checks hypothesis =>
      rw [normals, hypothesis, List.filterMap_cons]
      cases check.normal? <;> rfl

theorem normal?_node (connective : Connective) (checks : List Check) :
    (connective.node checks).normal? =
      grouped? connective ((normals checks).flatMap (spliced connective)) := by
  cases connective <;> rfl

/-- A tree is a leaf or a node of some sort. -/
theorem node_induction
    {motive : Check → Prop}
    (leaf : ∀ check, motive (leaf check))
    (node : ∀ (connective : Connective) checks, (∀ check ∈ checks, motive check) →
      motive (connective.node checks))
    (check : Check) :
    motive check := by
  induction check with
  | leaf check => exact leaf check
  | all checks hypothesis => exact node .all checks hypothesis
  | any checks hypothesis => exact node .any checks hypothesis

/-- A tree is taken apart into itself unless it is a node of the given sort. -/
theorem spliced_node_or (connective : Connective) (check : Check) :
    (∃ checks, check = connective.node checks ∧ check.spliced connective = checks) ∨
      check.spliced connective = [check] ∧ ∀ children, check ≠ connective.node children := by
  cases connective <;> cases check <;> simp [spliced, Connective.node]

/-- What a normal tree is taken apart into is normal, and of another sort. -/
theorem IsNormal.of_mem_spliced
    {check : Check}
    (isNormal : check.IsNormal)
    {connective : Connective}
    {part : Check}
    (member : part ∈ check.spliced connective) :
    part.IsNormal ∧ ∀ children, part ≠ connective.node children := by
  rcases spliced_node_or connective check with ⟨checks, rfl, parts⟩ | ⟨parts, other⟩
  · rw [parts] at member
    generalize same : connective.node checks = whole at isNormal
    cases isNormal with
    | leaf check => cases connective <;> cases same
    | @node connective' checks' several each other =>
        cases connective <;> cases connective' <;> cases same <;>
          exact ⟨each part member, other part member⟩
  · rw [parts, List.mem_singleton] at member
    subst member
    exact ⟨isNormal, other⟩

theorem IsNormal.of_grouped?
    {connective : Connective}
    {checks : List Check}
    (each : ∀ check ∈ checks, check.IsNormal ∧ ∀ children, check ≠ connective.node children)
    {whole : Check}
    (grouped : grouped? connective checks = some whole) :
    whole.IsNormal := by
  match checks, grouped with
  | [check], rfl => exact (each check List.mem_cons_self).1
  | first :: second :: others, rfl =>
      exact .node (by simp) (fun check member => (each check member).1)
        fun check member => (each check member).2

theorem isNormal_of_normal? (check : Check) :
    ∀ normal, check.normal? = some normal → normal.IsNormal := by
  induction check using node_induction with
  | leaf check =>
      rintro normal ⟨⟩
      exact .leaf check
  | node connective checks hypothesis =>
      intro normal found
      rw [normal?_node] at found
      refine IsNormal.of_grouped? (fun part member => ?_) found
      obtain ⟨child, inNormals, inChild⟩ := List.mem_flatMap.1 member
      rw [normals_eq_filterMap] at inNormals
      obtain ⟨check, inChecks, childNormal⟩ := List.mem_filterMap.1 inNormals
      exact (hypothesis check inChecks child childNormal).of_mem_spliced inChild

example (first second third : LeafCheck) :
    (all [any [all [leaf first, leaf second]], any [], leaf third]).normal? =
      some (all [leaf first, leaf second, leaf third]) := rfl

/-- A normal tree is its own normal form. -/
theorem IsNormal.normal?_eq {check : Check} (isNormal : check.IsNormal) :
    check.normal? = some check := by
  induction isNormal with
  | leaf check => rfl
  | @node connective checks several each other hypothesis =>
      have same : normals checks = checks := by
        rw [normals_eq_filterMap, List.filterMap_congr hypothesis, List.filterMap_some]
      have unspliced : checks.flatMap (spliced connective) = checks := by
        have alone : ∀ check ∈ checks, check.spliced connective = [check] := by
          intro check member
          rcases spliced_node_or connective check with ⟨children, equal, -⟩ | ⟨parts, -⟩
          · exact absurd equal (other check member children)
          · exact parts
        rw [List.flatMap_congr alone]
        exact List.flatMap_singleton' checks
      rw [normal?_node, same, unspliced]
      match checks, several with
      | _ :: _ :: _, _ => rfl

/-! ## Trees and their normal forms -/

section Effects

variable {fields : PolicyFields} {registry : FieldRegistry} {connective : Connective}

theorem jointEffect?_spliced (check : Check) :
    jointEffect? fields registry connective (check.spliced connective) =
      check.effect? fields registry := by
  rcases spliced_node_or connective check with ⟨checks, rfl, parts⟩ | ⟨parts, -⟩
  · rw [parts, effect?_node]
  · rw [parts, jointEffect?_singleton]

theorem jointEffect?_flatMap_spliced (checks : List Check) :
    jointEffect? fields registry connective (checks.flatMap (spliced connective)) =
      jointEffect? fields registry connective checks := by
  induction checks with
  | nil => rfl
  | cons check checks hypothesis =>
      rw [List.flatMap_cons, jointEffect?_append, jointEffect?_spliced, hypothesis,
        jointEffect?_cons]

theorem effect?_grouped? (checks : List Check) :
    (grouped? connective checks).elim (.ok none) (effect? fields registry) =
      jointEffect? fields registry connective checks := by
  match checks with
  | [] => rfl
  | [check] => exact (jointEffect?_singleton check).symm
  | _ :: _ :: _ => exact effect?_node _

/-- A tree and its normal form come to the same. -/
theorem effect?_normal? (check : Check) :
    check.normal?.elim (.ok none) (effect? fields registry) = check.effect? fields registry := by
  have ofNormals
      {checks : List Check}
      (hypothesis : ∀ check ∈ checks,
        check.normal?.elim (.ok none) (effect? fields registry) =
          check.effect? fields registry)
      (connective : Connective) :
      jointEffect? fields registry connective (normals checks) =
        jointEffect? fields registry connective checks := by
    induction checks with
    | nil => rfl
    | cons check checks again =>
        obtain ⟨head, tail⟩ := List.forall_mem_cons.1 hypothesis
        rw [normals, jointEffect?_append, again tail, jointEffect?_cons, ← head]
        congr 1
        cases check.normal? with
        | none => rfl
        | some normal => exact jointEffect?_singleton normal
  induction check using node_induction with
  | leaf check => rfl
  | node connective checks hypothesis =>
      rw [normal?_node, effect?_grouped?, jointEffect?_flatMap_spliced, ofNormals hypothesis,
        effect?_node]

end Effects

/-- Outcomes are the same failure, nothing alike, or contributions whose predicates agree on all
values and whose printers tell the same of all highlights. -/
def AlikeOutcomes :
    Except CheckError (Option Contribution) → Except CheckError (Option Contribution) → Prop
  | .error error, .error other => error = other
  | .ok none, .ok none => True
  | .ok (some contribution), .ok (some other) =>
      (∀ now values, contribution.query.evaluate now values = other.query.evaluate now values) ∧
        ∀ highlights, contribution.printer.alerts highlights = other.printer.alerts highlights
  | _, _ => False

theorem alikeOutcomes_of_effect_eq
    {outcome other : Except CheckError (Option Contribution)}
    (same :
      outcome.map (Option.map Contribution.effect) =
        other.map (Option.map Contribution.effect)) :
    AlikeOutcomes outcome other := by
  rcases outcome with error | _ | contribution <;> rcases other with otherError | _ | other <;>
    simp only [Except.map, Option.map_none, Option.map_some, Except.error.injEq, Except.ok.injEq,
      Option.some.injEq, reduceCtorEq] at same
  · exact same
  · trivial
  · exact ⟨fun now values => congrFun (congrFun (congrArg Effect.verdict same) now) values,
      fun highlights => congrFun (congrArg Effect.alerts same) highlights⟩

/-- A tree and its normal form fail alike, contribute nothing alike, or contribute predicates
that agree on all values and printers that tell the same of all highlights. -/
theorem normal?_contributes_alike
    (fields : PolicyFields)
    (registry : FieldRegistry)
    (check : Check) :
    (∀ normal, check.normal? = some normal →
        normal.IsNormal ∧ normal.normal? = some normal) ∧
      AlikeOutcomes (check.contribution? fields registry)
        (check.normal?.elim (.ok none) (contribution? fields registry)) := by
  refine ⟨fun normal found => ?_, alikeOutcomes_of_effect_eq ?_⟩
  · have isNormal := check.isNormal_of_normal? normal found
    exact ⟨isNormal, isNormal.normal?_eq⟩
  show check.effect? fields registry = _
  rw [← effect?_normal?]
  cases check.normal? <;> rfl

end Check
end WorkloadPolicy
