import Mathlib.Order.MinMax
import WorkloadPolicy.Access.ClusterPermissions
import WorkloadPolicy.Proofs.Grants

/-!
# The greatest granted level

Every rule that a binding grants to a service account is worth a level, and the
level of the account is the greatest of these.  None of them is hidden by what is
looked at first, by a search that ends early, or by the index of the grants.
-/

namespace WorkloadPolicy
namespace Access

namespace PermissionLevel

instance : LinearOrder PermissionLevel where
  le := (· ≤ ·)
  lt := (· < ·)
  max := max
  le_refl level := Nat.le_refl level.rank
  le_trans _ _ _ := Nat.le_trans
  lt_iff_le_not_ge _ _ := Nat.lt_iff_le_and_not_ge
  le_antisymm _ _ below above := rank_injective (Nat.le_antisymm below above)
  le_total left right := Nat.le_total left.rank right.rank
  toDecidableLE := inferInstance

theorem none_le (level : PermissionLevel) : none ≤ level :=
  Nat.zero_le level.rank

theorem le_clusterAdmin (level : PermissionLevel) : level ≤ clusterAdmin := by
  cases level <;> decide

/-- The greatest of some levels; without any it is that of no access. -/
def greatest (levels : List PermissionLevel) : PermissionLevel :=
  levels.foldr max none

end PermissionLevel

/-! ## Levels of single rules -/

namespace Rule

/-- The level that a rule gives across the cluster. -/
def clusterLevel (rule : Rule) : PermissionLevel :=
  if "*" ∈ rule.verbs ∧ "*" ∈ rule.resources then
    .clusterAdmin
  else if rule.resources ≠ [] ∧ ∃ verb ∈ readVerbs ++ writeVerbs, rule.allows verb = true then
    .elevatedClusterWide
  else
    .none

/-- The level that a rule gives inside a namespace. -/
def namespacedLevel (rule : Rule) : PermissionLevel :=
  if (rule.resources ≠ [] ∧ ∃ verb ∈ writeVerbs, rule.allows verb = true) ∨
      rule.allows "list" = true ∧ "*" ∈ rule.resources then
    .elevatedInNamespace
  else if rule.resources ≠ [] ∧ ∃ verb ∈ readVerbs, rule.allows verb = true then
    .default
  else
    .none

theorem clusterLevel_eq (rule : Rule) :
    rule.clusterLevel =
      if rule.allowsEverything then .clusterAdmin
      else if rule.reads || rule.writes then .elevatedClusterWide
      else .none := by
  have everything :
      ("*" ∈ rule.verbs ∧ "*" ∈ rule.resources) ↔ rule.allowsEverything = true := by
    simp [allowsEverything, allows, coversAllResources]
  have anything :
      (rule.resources ≠ [] ∧ ∃ verb ∈ readVerbs ++ writeVerbs, rule.allows verb = true) ↔
        (rule.reads || rule.writes) = true := by
    simp only [List.mem_append, or_and_right, exists_or, reads, writes, hasResources,
      Bool.or_eq_true, Bool.and_eq_true, List.any_eq_true, ← and_or_left]
    simp
  simp only [clusterLevel, everything, anything]

theorem namespacedLevel_eq (rule : Rule) :
    rule.namespacedLevel =
      if rule.elevates then .elevatedInNamespace
      else if rule.reads then .default
      else .none := by
  simp [namespacedLevel, elevates, reads, writes, hasResources, coversAllResources]

/-- Nothing inside a namespace goes higher than elevated access there. -/
theorem namespacedLevel_le (rule : Rule) : rule.namespacedLevel ≤ .elevatedInNamespace := by
  rw [namespacedLevel_eq]
  split
  · decide
  · split <;> decide

end Rule

/-! ## Levels of lists of rules -/

namespace ClusterPermissions

/-- A search from a level that is not above elevated access gives the least bound
of that level and of the levels of all rules. -/
theorem searchLevel_le_iff
    {known bound : PermissionLevel}
    (low : known ≤ .elevatedInNamespace)
    {rules : List Rule} :
    searchLevel known rules ≤ bound ↔
      known ≤ bound ∧ ∀ rule ∈ rules, rule.namespacedLevel ≤ bound := by
  induction rules generalizing known with
  | nil => simp [searchLevel]
  | cons rule rules hypothesis =>
      rw [searchLevel, List.forall_mem_cons, Rule.namespacedLevel_eq]
      split
      · -- The rules after this one give no more than it does.
        refine ⟨fun above => ?_, fun bounds => bounds.2.1⟩
        exact ⟨low.trans above, above, fun other _ => other.namespacedLevel_le.trans above⟩
      · split
        · rw [hypothesis (max_le low (by decide)), max_le_iff, and_assoc]
        · rw [hypothesis low]
          simp [PermissionLevel.none_le]

/-- A level bounds that of an account if it bounds what the rules of the cluster
give and what those of the namespaces give. -/
theorem levelFor_le_iff_rules
    {permissions : ClusterPermissions}
    {account : ServiceAccount}
    {bound : PermissionLevel} :
    permissions.levelFor account ≤ bound ↔
      (∀ rule ∈ permissions.clusterWide.rulesFor account, rule.clusterLevel ≤ bound) ∧
        ∀ rule ∈ permissions.namespaces.flatMap (fun entry => entry.2.rulesFor account),
          rule.namespacedLevel ≤ bound := by
  simp only [levelFor]
  split
  · rename_i administers
    obtain ⟨rule, granted, everything⟩ := List.any_eq_true.1 administers
    constructor
    · intro above
      exact ⟨fun other _ => other.clusterLevel.le_clusterAdmin.trans above,
        fun other _ => other.namespacedLevel.le_clusterAdmin.trans above⟩
    · intro bounds
      simpa [Rule.clusterLevel_eq, everything] using bounds.1 rule granted
  · rename_i noAdministrator
    have least : ∀ rule ∈ permissions.clusterWide.rulesFor account,
        rule.allowsEverything = false := by
      simpa using noAdministrator
    split
    · rename_i elevated
      obtain ⟨rule, granted, anything⟩ := List.any_eq_true.1 elevated
      constructor
      · intro above
        refine ⟨fun other member => ?_, fun other _ => ?_⟩
        · rw [Rule.clusterLevel_eq, least other member]
          refine le_trans ?_ above
          simp only [Bool.false_eq_true, ↓reduceIte]
          split <;> decide
        · exact (other.namespacedLevel_le.trans (by decide)).trans above
      · intro bounds
        simpa [Rule.clusterLevel_eq, least rule granted, anything] using bounds.1 rule granted
    · rename_i notElevated
      have nothing : ∀ rule ∈ permissions.clusterWide.rulesFor account,
          rule.clusterLevel = .none := by
        intro rule member
        have idle : (rule.reads || rule.writes) = false :=
          Bool.eq_false_iff.2 fun anything =>
            notElevated (List.any_eq_true.2 ⟨rule, member, anything⟩)
        rw [Rule.clusterLevel_eq, least rule member, idle]
        rfl
      rw [namespacedLevel, searchLevel_le_iff (by decide)]
      constructor
      · rintro ⟨-, bounds⟩
        exact ⟨fun rule member => nothing rule member ▸ bound.none_le, bounds⟩
      · rintro ⟨-, bounds⟩
        exact ⟨bound.none_le, bounds⟩

end ClusterPermissions

/-! ## Levels of bindings -/

/-- The level that a rule gives when a binding grants it. -/
def Binding.levelOf (binding : Binding) (rule : Rule) : PermissionLevel :=
  if binding.clusterRole then rule.clusterLevel else rule.namespacedLevel

/-- The levels that bindings give an account: one for every rule of a known role
and every subject of its binding that denotes the account. -/
def grantedLevels
    (roles : List Role)
    (bindings : List Binding)
    (account : ServiceAccount) : List PermissionLevel :=
  bindings.flatMap fun binding =>
    (roleWithId? roles binding.roleId).toList.flatMap fun role =>
      (binding.subjects.filter (Subject.denotes binding account)).flatMap fun _ =>
        role.rules.map binding.levelOf

theorem mem_grantedLevels_iff
    {roles : List Role}
    {bindings : List Binding}
    {account : ServiceAccount}
    {level : PermissionLevel} :
    level ∈ grantedLevels roles bindings account ↔
      ∃ binding ∈ bindings, ∃ rule, binding.Reaches roles account rule ∧
        binding.levelOf rule = level := by
  simp only [grantedLevels, Binding.Reaches, List.mem_flatMap, Option.mem_toList,
    List.mem_filter, List.mem_map]
  constructor
  · rintro ⟨binding, inBindings, role, known, subject, denotes, rule, inRules, equal⟩
    exact ⟨binding, inBindings, rule, ⟨role, known, ⟨subject, denotes⟩, inRules⟩, equal⟩
  · rintro ⟨binding, inBindings, rule, ⟨role, known, ⟨subject, denotes⟩, inRules⟩, equal⟩
    exact ⟨binding, inBindings, role, known, subject, denotes, rule, inRules, equal⟩

namespace ClusterPermissions

/-- The rules of the cluster are those that its own bindings grant. -/
theorem mem_clusterRules_iff
    {roles : List Role}
    {bindings : List Binding}
    {account : ServiceAccount}
    {rule : Rule} :
    rule ∈ (ofBindings roles bindings).clusterWide.rulesFor account ↔
      ∃ binding ∈ bindings, binding.clusterRole = true ∧
        binding.Reaches roles account rule := by
  simp only [ofBindings, Grants.mem_rulesFor_ofBindings_iff, List.mem_filter, and_assoc]

/-- The rules of the namespaces are those that all other bindings grant: each of
them belongs to a namespace that is looked at. -/
theorem mem_namespacedRules_iff
    {roles : List Role}
    {bindings : List Binding}
    {account : ServiceAccount}
    {rule : Rule} :
    rule ∈ (ofBindings roles bindings).namespaces.flatMap
        (fun entry => entry.2.rulesFor account) ↔
      ∃ binding ∈ bindings, binding.clusterRole = false ∧
        binding.Reaches roles account rule := by
  simp only [ofBindings, List.flatMap_map, List.mem_flatMap,
    Grants.mem_rulesFor_ofBindings_iff, List.mem_filter, Bool.and_eq_true,
    Bool.not_eq_true', beq_iff_eq]
  constructor
  · rintro ⟨name, -, binding, ⟨inBindings, namespaced, -⟩, reaches⟩
    exact ⟨binding, inBindings, namespaced, reaches⟩
  · rintro ⟨binding, inBindings, namespaced, reaches⟩
    refine ⟨binding.namespaceName, ?_, binding, ⟨inBindings, namespaced, rfl⟩, reaches⟩
    rw [namespaceNames, List.mem_eraseDups, List.mem_append]
    exact .inr (List.mem_map_of_mem (List.mem_filter.2 ⟨inBindings, by simp [namespaced]⟩))

/-- A level bounds that of an account if it bounds every level granted to it. -/
theorem levelFor_le_iff
    {roles : List Role}
    {bindings : List Binding}
    {account : ServiceAccount}
    {bound : PermissionLevel} :
    (ofBindings roles bindings).levelFor account ≤ bound ↔
      ∀ level ∈ grantedLevels roles bindings account, level ≤ bound := by
  rw [levelFor_le_iff_rules]
  simp only [mem_clusterRules_iff, mem_namespacedRules_iff, mem_grantedLevels_iff]
  constructor
  · rintro ⟨ofCluster, ofNamespaces⟩ level ⟨binding, inBindings, rule, reaches, rfl⟩
    cases scope : binding.clusterRole with
    | true =>
        rw [Binding.levelOf, scope]
        exact ofCluster rule ⟨binding, inBindings, scope, reaches⟩
    | false =>
        rw [Binding.levelOf, scope]
        exact ofNamespaces rule ⟨binding, inBindings, scope, reaches⟩
  · intro bounds
    constructor
    · rintro rule ⟨binding, inBindings, scope, reaches⟩
      simpa [Binding.levelOf, scope] using bounds _ ⟨binding, inBindings, rule, reaches, rfl⟩
    · rintro rule ⟨binding, inBindings, scope, reaches⟩
      simpa [Binding.levelOf, scope] using bounds _ ⟨binding, inBindings, rule, reaches, rfl⟩

end ClusterPermissions
end Access
end WorkloadPolicy
