import WorkloadPolicy.Predicate.Query

/-!
# Predicates by kind of entity

A conjunction is taken apart into its conjuncts, which are sorted by the kind
of entity that they read.  A conjunct that reads entities of several kinds
cannot be sorted; one that reads none is left out.
-/

namespace WorkloadPolicy

/-- Predicates on each kind of entity. -/
structure KindQueries where
  deployment : List Query := []
  image : List Query := []
  process : List Query := []

namespace KindQueries

/-- One predicate on entities of a kind. -/
def ofQuery (query : Query) : EntityKind → KindQueries
  | .deployment => { deployment := [query] }
  | .image => { image := [query] }
  | .process => { process := [query] }

/-- The predicates of both. -/
def append (first second : KindQueries) : KindQueries :=
  { deployment := first.deployment ++ second.deployment
    image := first.image ++ second.image
    process := first.process ++ second.process }

instance : Append KindQueries := ⟨append⟩

/-- The predicates on entities of a kind. -/
def ofKind (queries : KindQueries) : EntityKind → List Query
  | .deployment => queries.deployment
  | .image => queries.image
  | .process => queries.process

@[simp] theorem ofKind_empty (kind : EntityKind) : ofKind {} kind = [] := by
  cases kind <;> rfl

@[simp] theorem ofKind_append (first second : KindQueries) (kind : EntityKind) :
    (first ++ second).ofKind kind = first.ofKind kind ++ second.ofKind kind := by
  cases kind <;> rfl

@[simp] theorem ofKind_ofQuery (query : Query) (kind other : EntityKind) :
    (ofQuery query kind).ofKind other = if kind = other then [query] else [] := by
  cases kind <;> cases other <;> rfl

end KindQueries

namespace Query

/-- A conjunct under its kind, if it reads entities of one kind at most. -/
def sorted? (query : Query) : Option KindQueries :=
  match query.kindSet with
  | [] => some {}
  | [kind] => some (.ofQuery query kind)
  | _ => none

mutual

/-- The conjuncts of a predicate by kind, if each reads entities of one kind at
most. -/
def split? : Query → Option KindQueries
  | leaf field => sorted? (leaf field)
  | linked fields => sorted? (linked fields)
  | conjunction children => splitAll? children
  | disjunction children => sorted? (disjunction children)

/-- The conjuncts of several predicates by kind. -/
def splitAll? : List Query → Option KindQueries
  | [] => some {}
  | child :: children => do
      let first ← split? child
      let others ← splitAll? children
      some (first ++ others)

end

mutual

/-- The conjuncts of a predicate: what is reached through conjunctions alone
and is none itself. -/
def conjuncts : Query → List Query
  | leaf field => [leaf field]
  | linked fields => [linked fields]
  | conjunction children => conjunctsOfAll children
  | disjunction children => [disjunction children]

/-- The conjuncts of several predicates. -/
def conjunctsOfAll : List Query → List Query
  | [] => []
  | child :: children => conjuncts child ++ conjunctsOfAll children

end

end Query
end WorkloadPolicy
