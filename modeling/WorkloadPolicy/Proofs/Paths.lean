import Mathlib.Data.List.Nodup
import WorkloadPolicy.Field.Registry
import WorkloadPolicy.Field.Values
import WorkloadPolicy.Text

/-!
# Paths of entities

The first part of an attribute path names the kind of entity that it belongs
to, and no path contains a slash.  Every entity keeps its values under paths of
its own kind, and the standard registry places every field there.  A predicate
on fields of one kind therefore sees the same values whether or not entities of
other kinds are added.
-/

namespace WorkloadPolicy

/-- A path belongs to the kind that its first part names. -/
def EntityKind.Owns (kind : EntityKind) (path : String) : Prop :=
  (Text.cutChars '.' path.toList).1 = kind.name.toList ∧ '/' ∉ path.toList

instance (kind : EntityKind) (path : String) : Decidable (kind.Owns path) :=
  inferInstanceAs (Decidable (_ ∧ _))

namespace EntityKind

theorem name_injective : Function.Injective name := by
  intro left right equal
  cases left <;> cases right <;> simp [name] at equal ⊢

/-- A path is read off its characters. -/
theorem Owns.ofList
    {kind : EntityKind}
    {characters : List Char}
    (first : String.ofList (Text.cutChars '.' characters).1 = kind.name)
    (plain : characters.contains '/' = false) :
    kind.Owns (String.ofList characters) := by
  unfold Owns
  rw [String.toList_ofList, ← first, String.toList_ofList]
  exact ⟨rfl, by simpa using plain⟩

/-- A path belongs to one kind. -/
theorem Owns.unique
    {kind other : EntityKind}
    {path : String}
    (owns : kind.Owns path)
    (otherOwns : other.Owns path) :
    kind = other :=
  name_injective (String.toList_inj.1 (owns.1.symm.trans otherOwns.1))

end EntityKind

/-- The paths of some values belong to a kind. -/
def FieldValues.BelongTo (values : FieldValues) (kind : EntityKind) : Prop :=
  ∀ entry ∈ values.entries, kind.Owns entry.1

/-! ## Paths of flattened entities -/

section Flattened

theorem Volume.owns_values (volume : Volume) :
    ∀ entry ∈ volume.values, EntityKind.deployment.Owns entry.1 := by
  simp only [values, List.forall_mem_cons]
  exact ⟨.ofList rfl rfl, .ofList rfl rfl, .ofList rfl rfl, .ofList rfl rfl, .ofList rfl rfl,
    List.forall_mem_nil _⟩

theorem SecurityContext.owns_values (rights : SecurityContext) :
    ∀ entry ∈ rights.values, EntityKind.deployment.Owns entry.1 := by
  simp only [values, List.forall_mem_append, List.forall_mem_cons, List.forall_mem_map]
  exact ⟨⟨⟨.ofList rfl rfl, .ofList rfl rfl, List.forall_mem_nil _⟩,
    fun _ _ => .ofList rfl rfl⟩, .ofList rfl rfl, List.forall_mem_nil _⟩

theorem Resources.owns_values (resources : Resources) :
    ∀ entry ∈ resources.values, EntityKind.deployment.Owns entry.1 := by
  simp only [values, List.forall_mem_cons]
  exact ⟨.ofList rfl rfl, .ofList rfl rfl, .ofList rfl rfl, .ofList rfl rfl,
    List.forall_mem_nil _⟩

theorem Container.owns_values (container : Container) :
    ∀ entry ∈ container.values, EntityKind.deployment.Owns entry.1 := by
  simp only [values, List.forall_mem_append, List.forall_mem_map, List.forall_mem_flatMap]
  exact ⟨⟨⟨container.securityContext.owns_values, fun _ _ => .ofList rfl rfl⟩,
    container.resources.owns_values⟩, fun volume _ => volume.owns_values⟩

theorem PortConfig.owns_values (port : PortConfig) :
    ∀ entry ∈ port.values, EntityKind.deployment.Owns entry.1 := by
  simp only [values, List.forall_mem_cons]
  exact ⟨.ofList rfl rfl, .ofList rfl rfl, .ofList rfl rfl, List.forall_mem_nil _⟩

theorem Deployment.belongTo_fieldValues (deployment : Deployment) :
    deployment.fieldValues.BelongTo .deployment := by
  have account :
      ∀ entry ∈ (if deployment.serviceAccount.isEmpty then []
          else [("deployment.service_account", deployment.serviceAccount)]),
        EntityKind.deployment.Owns entry.1 := by
    split
    · simp
    · simp only [List.forall_mem_singleton]
      exact .ofList rfl rfl
  simp only [FieldValues.BelongTo, fieldValues, List.forall_mem_append, List.forall_mem_map,
    List.forall_mem_flatMap, List.forall_mem_cons]
  exact ⟨⟨⟨⟨⟨⟨.ofList rfl rfl, .ofList rfl rfl, .ofList rfl rfl, .ofList rfl rfl,
    List.forall_mem_nil _⟩, account⟩, fun _ _ => .ofList rfl rfl⟩, fun _ _ => .ofList rfl rfl⟩,
    fun container _ => container.owns_values⟩, fun port _ => port.owns_values⟩

theorem owns_instantValues
    {kind : EntityKind}
    {path : String}
    (owns : kind.Owns path)
    (instant : Option Calendar.Instant) :
    ∀ entry ∈ instantValues path instant, kind.Owns entry.1 := by
  cases instant <;> simp [instantValues, owns]

theorem ImageLayer.owns_values (layer : ImageLayer) :
    ∀ entry ∈ layer.values, EntityKind.image.Owns entry.1 := by
  simp only [values, List.forall_mem_cons]
  exact ⟨.ofList rfl rfl, .ofList rfl rfl, List.forall_mem_nil _⟩

theorem ImageMetadata.owns_values (metadata : ImageMetadata) :
    ∀ entry ∈ metadata.values, EntityKind.image.Owns entry.1 := by
  simp only [values, List.forall_mem_append, List.forall_mem_map, List.forall_mem_flatMap]
  exact ⟨⟨owns_instantValues (.ofList rfl rfl) _, fun layer _ => layer.owns_values⟩,
    fun _ _ => .ofList rfl rfl⟩

theorem Vulnerability.owns_values (vulnerability : Vulnerability) :
    ∀ entry ∈ vulnerability.values, EntityKind.image.Owns entry.1 := by
  simp only [values, List.forall_mem_cons]
  exact ⟨.ofList rfl rfl, .ofList rfl rfl, .ofList rfl rfl, .ofList rfl rfl,
    List.forall_mem_nil _⟩

theorem Component.owns_values (component : Component) :
    ∀ entry ∈ component.values, EntityKind.image.Owns entry.1 := by
  simp only [values, List.forall_mem_append, List.forall_mem_flatMap, List.forall_mem_cons]
  exact ⟨⟨.ofList rfl rfl, .ofList rfl rfl, List.forall_mem_nil _⟩,
    fun vulnerability _ => vulnerability.owns_values⟩

theorem ImageScan.owns_values (scan : ImageScan) :
    ∀ entry ∈ scan.values, EntityKind.image.Owns entry.1 := by
  simp only [values, List.forall_mem_append, List.forall_mem_flatMap]
  exact ⟨owns_instantValues (.ofList rfl rfl) _, fun component _ => component.owns_values⟩

theorem Image.belongTo_fieldValues (image : Image) :
    image.fieldValues.BelongTo .image := by
  have metadata :
      ∀ entry ∈ (image.metadata.map ImageMetadata.values).getD [],
        EntityKind.image.Owns entry.1 := by
    cases image.metadata with
    | none => simp
    | some metadata => exact metadata.owns_values
  have scan :
      ∀ entry ∈ (image.scan.map ImageScan.values).getD [], EntityKind.image.Owns entry.1 := by
    cases image.scan with
    | none => simp
    | some scan => exact scan.owns_values
  simp only [FieldValues.BelongTo, fieldValues, List.forall_mem_append, List.forall_mem_cons]
  exact ⟨⟨⟨.ofList rfl rfl, .ofList rfl rfl, .ofList rfl rfl, .ofList rfl rfl,
    List.forall_mem_nil _⟩, metadata⟩, scan⟩

theorem ProcessIndicator.belongTo_fieldValues (process : ProcessIndicator) :
    process.fieldValues.BelongTo .process := by
  simp only [FieldValues.BelongTo, fieldValues, List.forall_mem_cons]
  exact ⟨.ofList rfl rfl, .ofList rfl rfl, .ofList rfl rfl, .ofList rfl rfl, .ofList rfl rfl,
    .ofList rfl rfl,
    List.forall_mem_nil _⟩

end Flattened

/-! ## Values under paths -/

namespace FieldValues

theorem exists_entry_of_get_ne_nil
    {values : FieldValues}
    {path : String}
    (present : values.get path ≠ []) :
    ∃ entry ∈ values.entries, entry.1 = path := by
  obtain ⟨value, member⟩ := List.exists_mem_of_ne_nil _ present
  obtain ⟨entry, found, -⟩ := List.mem_map.1 member
  obtain ⟨inEntries, same⟩ := List.mem_filter.1 found
  exact ⟨entry, inEntries, by simpa using same⟩

/-- There are values under paths of their own kind only. -/
theorem BelongTo.owns_of_get_ne_nil
    {values : FieldValues}
    {kind : EntityKind}
    {path : String}
    (belong : values.BelongTo kind)
    (present : values.get path ≠ []) :
    kind.Owns path := by
  obtain ⟨entry, member, rfl⟩ := exists_entry_of_get_ne_nil present
  exact belong entry member

theorem BelongTo.get_eq_nil
    {values : FieldValues}
    {kind other : EntityKind}
    {path : String}
    (belong : values.BelongTo kind)
    (foreign : other.Owns path)
    (different : kind ≠ other) :
    values.get path = [] := by
  by_contra present
  exact different ((belong.owns_of_get_ne_nil present).unique foreign)

theorem belongTo_empty (kind : EntityKind) : BelongTo {} kind := by
  simp [BelongTo]

end FieldValues

/-! ## The standard registry -/

/-- Every standard field lies under a path of its kind. -/
theorem FieldLabel.owns_metadata (label : FieldLabel) :
    label.metadata.kind.Owns label.metadata.path := by
  cases label <;> exact .ofList rfl rfl

/-- Different labels have different standard paths. -/
theorem FieldLabel.path_metadata_injective :
    Function.Injective fun label : FieldLabel => label.metadata.path := by
  have distinct : (FieldLabel.all.map fun label => label.metadata.path).Nodup := by decide +kernel
  intro left right equal
  exact List.inj_on_of_nodup_map distinct (mem_all left) (mem_all right) equal

/-- A registry whose fields have their standard metadata; some may be missing. -/
def FieldRegistry.IsStandard (registry : FieldRegistry) : Prop :=
  ∀ label metadata, registry.lookup label = some metadata → metadata = label.metadata

theorem FieldRegistry.isStandard_standard : standard.IsStandard := by
  intro label metadata found
  exact (Option.some.inj found).symm

/-- Dropping a field keeps a registry standard. -/
theorem FieldRegistry.IsStandard.erase
    {registry : FieldRegistry}
    (isStandard : registry.IsStandard)
    (label : FieldLabel) :
    (registry.erase label).IsStandard := by
  intro other metadata found
  rw [lookup_erase] at found
  split at found
  · simp at found
  · exact isStandard other metadata found

end WorkloadPolicy
