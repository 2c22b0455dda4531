import WorkloadPolicy.Compile.Split
import WorkloadPolicy.Proofs.Evaluation

/-!
# Conjuncts and their kinds

A predicate is the conjunction of its conjuncts.  It can be split by kind of
entity exactly when no conjunct reads entities of two kinds, and every kind
then gets the conjuncts that read it, in order.  In a populated predicate every
node has a leaf below it, so that no conjunct is lost; some are made of single
leaves only, all of one sort.
-/

namespace WorkloadPolicy

theorem Verdict.all_append (first second : List Verdict) :
    all (first ++ second) = (all first).both (all second) := by
  induction first with
  | nil => simp
  | cons verdict verdicts hypothesis => simp [hypothesis]

namespace Query

/-! ## Conjuncts -/

theorem conjunctsOfAll_eq_flatMap (children : List Query) :
    conjunctsOfAll children = children.flatMap conjuncts := by
  induction children with
  | nil => rfl
  | cons child children hypothesis => simp [conjunctsOfAll, hypothesis]

@[simp] theorem conjuncts_leaf (field : FieldQuery) :
    (leaf field).conjuncts = [leaf field] := rfl

@[simp] theorem conjuncts_linked (fields : List FieldQuery) :
    (linked fields).conjuncts = [linked fields] := rfl

@[simp] theorem conjuncts_conjunction (children : List Query) :
    (conjunction children).conjuncts = children.flatMap conjuncts :=
  conjunctsOfAll_eq_flatMap children

@[simp] theorem conjuncts_disjunction (children : List Query) :
    (disjunction children).conjuncts = [disjunction children] := rfl

/-- The conjuncts of a collapsed conjunction are those of its parts. -/
theorem conjuncts_of_all?_eq_some
    {queries : List Query}
    {query : Query}
    (combined : all? queries = some query) :
    query.conjuncts = queries.flatMap conjuncts := by
  match queries, combined with
  | [_], rfl => simp
  | _ :: _ :: _, rfl => exact conjuncts_conjunction _

/-- A predicate has the leaves of its conjuncts. -/
theorem fields_eq_flatMap_conjuncts (query : Query) :
    query.fields = query.conjuncts.flatMap fields := by
  induction query with
  | leaf field => simp
  | linked fields => simp
  | conjunction children hypothesis =>
      rw [fields_conjunction, conjuncts_conjunction, List.flatMap_assoc]
      exact List.flatMap_congr hypothesis
  | disjunction children _ => simp

theorem mem_fields_of_mem_conjuncts
    {query conjunct : Query}
    {field : FieldQuery}
    (member : conjunct ∈ query.conjuncts)
    (inConjunct : field ∈ conjunct.fields) :
    field ∈ query.fields := by
  rw [fields_eq_flatMap_conjuncts]
  exact List.mem_flatMap.2 ⟨conjunct, member, inConjunct⟩

theorem groups_eq_flatMap_conjuncts (query : Query) :
    query.groups = query.conjuncts.flatMap groups := by
  induction query with
  | leaf field => simp
  | linked fields => simp
  | conjunction children hypothesis =>
      rw [groups_conjunction, conjuncts_conjunction, List.flatMap_assoc]
      exact List.flatMap_congr hypothesis
  | disjunction children _ => simp

/-- A predicate is matched when all its conjuncts are. -/
theorem evaluate_eq_all_conjuncts
    (now : Calendar.Instant)
    (values : FieldValues)
    (query : Query) :
    evaluate now values query = Verdict.all (query.conjuncts.map (evaluate now values)) := by
  induction query with
  | leaf field => simp
  | linked fields => simp
  | conjunction children hypothesis =>
      rw [evaluate_conjunction, conjuncts_conjunction]
      induction children with
      | nil => rfl
      | cons child children again =>
          obtain ⟨first, others⟩ := List.forall_mem_cons.1 hypothesis
          rw [List.map_cons, Verdict.all_cons, List.flatMap_cons, List.map_append,
            Verdict.all_append, ← first, ← again others]
  | disjunction children _ => simp

/-! ## Kinds of entities -/

@[simp] theorem mem_kindSet {query : Query} {kind : EntityKind} :
    kind ∈ query.kindSet ↔ ∃ field ∈ query.fields, field.kind = kind := by
  have everyKind : kind ∈ EntityKind.all := by cases kind <;> decide
  simp [kindSet, kinds_eq_map_fields, everyKind]

theorem kind_of_kindSet_eq_singleton
    {query : Query}
    {kind : EntityKind}
    (single : query.kindSet = [kind])
    {field : FieldQuery}
    (member : field ∈ query.fields) :
    field.kind = kind := by
  have inSet : field.kind ∈ query.kindSet := mem_kindSet.2 ⟨field, member, rfl⟩
  rw [single] at inSet
  exact List.mem_singleton.1 inSet

/-- A predicate with leaves, all of which read entities of one kind. -/
theorem kindSet_eq_singleton
    {query : Query}
    {kind : EntityKind}
    (inhabited : query.fields ≠ [])
    (uniform : ∀ field ∈ query.fields, field.kind = kind) :
    query.kindSet = [kind] := by
  have contains (other : EntityKind) : query.kinds.contains other = (other == kind) := by
    rw [kinds_eq_map_fields, Bool.eq_iff_iff, List.contains_iff_mem, beq_iff_eq, List.mem_map]
    constructor
    · rintro ⟨field, member, rfl⟩
      exact uniform field member
    · rintro rfl
      obtain ⟨field, member⟩ := List.exists_mem_of_ne_nil _ inhabited
      exact ⟨field, member, uniform field member⟩
  have contains : query.kinds.contains = (· == kind) := funext contains
  rw [kindSet, contains]
  cases kind <;> decide

/-! ## Splitting -/

theorem sorted?_eq_none_iff (query : Query) :
    query.sorted? = none ↔ 2 ≤ query.kindSet.length := by
  unfold sorted?
  split
  · simp_all
  · simp_all
  · rename_i several one
    match shape : query.kindSet with
    | [] => exact absurd shape several
    | [kind] => exact absurd shape (one kind)
    | _ :: _ :: _ => simp

theorem ofKind_of_sorted?_eq_some
    {query : Query}
    {queries : KindQueries}
    (sorted : query.sorted? = some queries)
    (kind : EntityKind) :
    queries.ofKind kind = [query].filter fun conjunct => conjunct.kindSet = [kind] := by
  unfold sorted? at sorted
  split at sorted
  · rename_i none
    cases sorted
    simp [none]
  · rename_i only single
    cases sorted
    simp [single, List.filter_cons]
  · simp at sorted

@[simp] theorem split?_leaf (field : FieldQuery) :
    (leaf field).split? = (leaf field).sorted? := rfl

@[simp] theorem split?_linked (fields : List FieldQuery) :
    (linked fields).split? = (linked fields).sorted? := rfl

@[simp] theorem split?_disjunction (children : List Query) :
    (disjunction children).split? = (disjunction children).sorted? := rfl

@[simp] theorem split?_conjunction (children : List Query) :
    (conjunction children).split? = splitAll? children := rfl

theorem splitAll?_cons_eq_some_iff
    {child : Query}
    {children : List Query}
    {queries : KindQueries} :
    splitAll? (child :: children) = some queries ↔
      ∃ first others, child.split? = some first ∧ splitAll? children = some others ∧
        first ++ others = queries := by
  simp [splitAll?, Option.bind_eq_some_iff]

/-- Splitting fails exactly when a conjunct reads entities of two kinds. -/
theorem split?_eq_none_iff (query : Query) :
    query.split? = none ↔ ∃ conjunct ∈ query.conjuncts, 2 ≤ conjunct.kindSet.length := by
  induction query with
  | leaf field => simp [sorted?_eq_none_iff]
  | linked fields => simp [sorted?_eq_none_iff]
  | disjunction children _ => simp [sorted?_eq_none_iff]
  | conjunction children hypothesis =>
      rw [split?_conjunction, conjuncts_conjunction]
      induction children with
      | nil => simp [splitAll?]
      | cons child children again =>
          obtain ⟨first, others⟩ := List.forall_mem_cons.1 hypothesis
          have tail := again others
          have step :
              splitAll? (child :: children) = none ↔
                child.split? = none ∨ splitAll? children = none := by
            cases childOutcome : child.split? <;> cases othersOutcome : splitAll? children <;>
              simp [splitAll?, childOutcome, othersOutcome]
          rw [step, first, tail, List.flatMap_cons]
          simp only [List.mem_append, or_and_right, exists_or]

/-- Every kind gets the conjuncts that read it and nothing else, in order. -/
theorem ofKind_of_split?_eq_some
    {query : Query}
    {queries : KindQueries}
    (split : query.split? = some queries)
    (kind : EntityKind) :
    queries.ofKind kind =
      query.conjuncts.filter fun conjunct => conjunct.kindSet = [kind] := by
  induction query generalizing queries with
  | leaf field => exact ofKind_of_sorted?_eq_some split kind
  | linked fields => exact ofKind_of_sorted?_eq_some split kind
  | disjunction children _ => exact ofKind_of_sorted?_eq_some split kind
  | conjunction children hypothesis =>
      rw [split?_conjunction] at split
      rw [conjuncts_conjunction]
      induction children generalizing queries with
      | nil =>
          cases split
          simp
      | cons child children again =>
          obtain ⟨first, others, childSplit, othersSplit, rfl⟩ :=
            splitAll?_cons_eq_some_iff.1 split
          obtain ⟨childHypothesis, othersHypothesis⟩ := List.forall_mem_cons.1 hypothesis
          rw [KindQueries.ofKind_append, childHypothesis childSplit,
            again othersHypothesis othersSplit, List.flatMap_cons, List.filter_append]

/-- A predicate splits if each of its conjuncts reads one kind of entity. -/
theorem exists_split?_eq_some
    {query : Query}
    (uniform : ∀ conjunct ∈ query.conjuncts, ∃ kind, ∀ field ∈ conjunct.fields,
      field.kind = kind) :
    ∃ queries, query.split? = some queries := by
  rw [← Option.ne_none_iff_exists']
  intro failed
  obtain ⟨conjunct, member, several⟩ := (split?_eq_none_iff query).1 failed
  obtain ⟨kind, ofKind⟩ := uniform conjunct member
  by_cases inhabited : conjunct.fields = []
  · have none : conjunct.kindSet = [] := by
      rw [List.eq_nil_iff_forall_not_mem]
      intro other inSet
      obtain ⟨field, inConjunct, -⟩ := mem_kindSet.1 inSet
      simp [inhabited] at inConjunct
    simp [none] at several
  · simp [kindSet_eq_singleton inhabited ofKind] at several

/-- When a predicate splits, a conjunct reads the kind of any of its leaves and
no other. -/
theorem kindSet_of_mem_conjuncts
    {query conjunct : Query}
    {queries : KindQueries}
    (split : query.split? = some queries)
    (member : conjunct ∈ query.conjuncts)
    {field : FieldQuery}
    (inConjunct : field ∈ conjunct.fields) :
    conjunct.kindSet = [field.kind] := by
  have notSeveral : ¬ 2 ≤ conjunct.kindSet.length := by
    intro several
    have failed := (split?_eq_none_iff query).2 ⟨conjunct, member, several⟩
    rw [split] at failed
    simp at failed
  have present : field.kind ∈ conjunct.kindSet := mem_kindSet.2 ⟨field, inConjunct, rfl⟩
  match shape : conjunct.kindSet with
  | [] => simp [shape] at present
  | [kind] =>
      rw [shape, List.mem_singleton] at present
      rw [present]
  | _ :: _ :: _ => simp [shape] at notSeveral

/-! ## Populated predicates -/

/-- Every node of a predicate has a leaf below it. -/
inductive Populated : Query → Prop
  | leaf (field : FieldQuery) : Populated (leaf field)
  | linked {fields : List FieldQuery} (inhabited : fields ≠ []) : Populated (linked fields)
  | conjunction
      {children : List Query}
      (inhabited : children ≠ [])
      (populated : ∀ child ∈ children, Populated child) :
      Populated (conjunction children)
  | disjunction
      {children : List Query}
      (inhabited : children ≠ [])
      (populated : ∀ child ∈ children, Populated child) :
      Populated (disjunction children)

namespace Populated

theorem fields_ne_nil {query : Query} (populated : query.Populated) :
    query.fields ≠ [] := by
  induction populated with
  | leaf field => simp
  | linked inhabited => simpa using inhabited
  | conjunction inhabited _ hypothesis =>
      obtain ⟨child, member⟩ := List.exists_mem_of_ne_nil _ inhabited
      simpa using ⟨child, member, hypothesis child member⟩
  | disjunction inhabited _ hypothesis =>
      obtain ⟨child, member⟩ := List.exists_mem_of_ne_nil _ inhabited
      simpa using ⟨child, member, hypothesis child member⟩

theorem of_mem_conjuncts
    {query conjunct : Query}
    (populated : query.Populated)
    (member : conjunct ∈ query.conjuncts) :
    conjunct.Populated := by
  induction populated with
  | leaf field =>
      cases List.mem_singleton.1 member
      exact .leaf field
  | linked inhabited =>
      cases List.mem_singleton.1 member
      exact .linked inhabited
  | conjunction _ _ hypothesis =>
      rw [conjuncts_conjunction, List.mem_flatMap] at member
      obtain ⟨child, inChildren, inChild⟩ := member
      exact hypothesis child inChildren inChild
  | disjunction inhabited populated _ =>
      cases List.mem_singleton.1 member
      exact .disjunction inhabited populated

theorem conjuncts_ne_nil {query : Query} (populated : query.Populated) :
    query.conjuncts ≠ [] := by
  intro none
  have empty := populated.fields_ne_nil
  rw [fields_eq_flatMap_conjuncts, none] at empty
  exact empty rfl

theorem of_all?_eq_some
    {queries : List Query}
    {query : Query}
    (combined : all? queries = some query)
    (populated : ∀ part ∈ queries, part.Populated) :
    query.Populated := by
  match queries, combined with
  | [_], rfl => exact populated _ (by simp)
  | _ :: _ :: _, rfl => exact .conjunction (by simp) populated

theorem of_any?_eq_some
    {queries : List Query}
    {query : Query}
    (combined : any? queries = some query)
    (populated : ∀ part ∈ queries, part.Populated) :
    query.Populated := by
  match queries, combined with
  | [_], rfl => exact populated _ (by simp)
  | _ :: _ :: _, rfl => exact .disjunction (by simp) populated

/-- When a populated predicate splits, each conjunct goes to exactly one kind. -/
theorem kindSet_of_split?_eq_some
    {query conjunct : Query}
    {queries : KindQueries}
    (populated : query.Populated)
    (split : query.split? = some queries)
    (member : conjunct ∈ query.conjuncts) :
    ∃ kind, conjunct.kindSet = [kind] := by
  obtain ⟨field, inConjunct⟩ :=
    List.exists_mem_of_ne_nil _ (populated.of_mem_conjuncts member).fields_ne_nil
  exact ⟨field.kind, kindSet_of_mem_conjuncts split member inConjunct⟩

end Populated

/-! ## Predicates of single leaves -/

/-- A populated predicate of single leaves that all have a property. -/
structure MadeOf (property : FieldQuery → Prop) (query : Query) : Prop where
  populated : query.Populated
  single : ∀ group ∈ query.groups, ∃ field, group = [field] ∧ property field

namespace MadeOf

variable {property : FieldQuery → Prop}

theorem of_mem_fields
    {query : Query}
    (madeOf : query.MadeOf property)
    {field : FieldQuery}
    (member : field ∈ query.fields) :
    property field := by
  obtain ⟨group, inGroups, inGroup⟩ := List.mem_flatten.1 member
  obtain ⟨leaf, rfl, holds⟩ := madeOf.single group inGroups
  cases List.mem_singleton.1 inGroup
  exact holds

theorem ofLeaf {field : FieldQuery} (holds : property field) :
    (leaf field).MadeOf property where
  populated := .leaf field
  single := by simpa using holds

theorem conjunction
    {children : List Query}
    (inhabited : children ≠ [])
    (each : ∀ child ∈ children, child.MadeOf property) :
    (conjunction children).MadeOf property where
  populated := .conjunction inhabited fun child member => (each child member).populated
  single := by
    rw [groups_conjunction, List.forall_mem_flatMap]
    exact fun child member => (each child member).single

theorem of_all?_eq_some
    {queries : List Query}
    {query : Query}
    (combined : all? queries = some query)
    (each : ∀ part ∈ queries, part.MadeOf property) :
    query.MadeOf property := by
  match queries, combined with
  | [_], rfl => exact each _ List.mem_cons_self
  | _ :: _ :: _, rfl => exact .conjunction (by simp) each

theorem of_any?_eq_some
    {queries : List Query}
    {query : Query}
    (combined : any? queries = some query)
    (each : ∀ part ∈ queries, part.MadeOf property) :
    query.MadeOf property where
  populated := .of_any?_eq_some combined fun part member => (each part member).populated
  single := by
    rw [groups_of_any?_eq_some combined, List.forall_mem_flatMap]
    exact fun part member => (each part member).single

end MadeOf
end Query
end WorkloadPolicy
