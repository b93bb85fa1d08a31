import FieldSelect.Proofs.Entries
import FieldSelect.Proofs.Schema.NameSets
import FieldSelect.Proofs.Yields

/-! What a view table says about its type. Either a first property is at fault, and it is the one that is reported, or
the table answers for each view as the rules say, and no other table does. -/
namespace FieldSelect

/-- A new name counts unless it is empty. -/
theorem Property.external_eq (property : Property) :
    property.external = (property.rename.filter (· ≠ "")).getD property.name := by
  rw [external]
  cases property.rename with
  | none => rfl
  | some name =>
    by_cases empty : name = ""
    · simp [Option.filter_some, empty]
    · simp [Option.filter_some, empty]

/-! ### Faults -/

/-- Every property has a name, and no two of them are shown under the same one. -/
structure Faultless (properties : List Property) : Prop where
  named : ∀ property ∈ properties, property.name ≠ ""
  distinct : properties.Pairwise fun first second => first.external ≠ second.external

/-- The first property that has no name, or the external name of one before it. -/
inductive FirstFault (properties : List Property) : SchemaFault → Prop where
  | emptyName {before after : List Property} {property : Property} (split : properties = before ++ property :: after)
      (faultless : Faultless before) (unnamed : property.name = "") :
      FirstFault properties (.emptyPropertyName before.length)
  | shared {before after : List Property} {property owner : Property} (split : properties = before ++ property :: after)
      (faultless : Faultless before) (named : property.name ≠ "") (earlier : owner ∈ before)
      (same : owner.external = property.external) :
      FirstFault properties (.duplicateProperty property.external owner.name property.name)

variable {properties : List Property} {property : Property}

theorem faultless_nil : Faultless [] := ⟨nofun, .nil⟩

theorem faultless_concat_iff : Faultless (properties ++ [property]) ↔
    Faultless properties ∧ property.name ≠ "" ∧ ∀ earlier ∈ properties, earlier.external ≠ property.external := by
  constructor
  · rintro ⟨named, distinct⟩
    obtain ⟨others, own⟩ := List.forall_mem_append.mp named
    obtain ⟨front, _, across⟩ := List.pairwise_append.mp distinct
    exact ⟨⟨others, front⟩, own property (List.mem_singleton_self _), fun earlier member =>
      across earlier member property (List.mem_singleton_self _)⟩
  · rintro ⟨⟨others, front⟩, own, across⟩
    refine ⟨List.forall_mem_append.mpr ⟨others, List.forall_mem_singleton.mpr own⟩, ?_⟩
    refine List.pairwise_append.mpr ⟨front, List.pairwise_singleton _ _, fun earlier member => ?_⟩
    exact List.forall_mem_singleton.mpr (across earlier member)

/-- What comes behind the first fault does not matter. -/
theorem FirstFault.append {fault : SchemaFault} (first : FirstFault properties fault) (more : List Property) :
    FirstFault (properties ++ more) fault := by
  cases first with
  | emptyName split faultless unnamed =>
    exact .emptyName (by rw [split, List.append_assoc, List.cons_append]) faultless unnamed
  | shared split faultless named earlier same =>
    exact .shared (by rw [split, List.append_assoc, List.cons_append]) faultless named earlier same

theorem faultless_or_firstFault (properties : List Property) :
    Faultless properties ∨ ∃ fault, FirstFault properties fault := by
  induction properties using List.reverseRecOn with
  | nil => exact .inl faultless_nil
  | append_singleton properties property ih =>
    rcases ih with faultless | ⟨fault, first⟩
    · by_cases unnamed : property.name = ""
      · exact .inr ⟨_, .emptyName rfl faultless unnamed⟩
      by_cases taken : ∃ owner ∈ properties, owner.external = property.external
      · obtain ⟨owner, earlier, same⟩ := taken
        exact .inr ⟨_, .shared rfl faultless unnamed earlier same⟩
      · refine .inl (faultless_concat_iff.mpr ⟨faultless, unnamed, fun owner earlier same => ?_⟩)
        exact taken ⟨owner, earlier, same⟩
    · exact .inr ⟨fault, first.append [property]⟩

theorem not_faultless_iff : ¬ Faultless properties ↔
    (∃ property ∈ properties, property.name = "") ∨
      ∃ first second, [first, second].Sublist properties ∧ first.external = second.external := by
  constructor
  · intro faulty
    by_contra none
    obtain ⟨named, distinct⟩ := not_or.mp none
    refine faulty ⟨fun property member unnamed => named ⟨property, member, unnamed⟩, ?_⟩
    exact List.pairwise_of_forall_sublist fun {first second} both same => distinct ⟨first, second, both, same⟩
  · rintro (⟨property, member, unnamed⟩ | ⟨first, second, both, same⟩) faultless
    · exact faultless.named property member unnamed
    · exact faultless.distinct.forall_sublist both same

/-! ### Views as the rules say -/

namespace ViewRules

/-- The view is one of the property's own: it names it, or it names none and the base view is for such properties. -/
def Assigns (rules : ViewRules) (property : Property) (view : String) : Prop :=
  view ∈ property.views ∨ view = baseView ∧ property.views = [] ∧ rules.addUnviewedToBase = true

instance (rules : ViewRules) (property : Property) (view : String) : Decidable (rules.Assigns property view) :=
  inferInstanceAs (Decidable (_ ∨ _))

/-- Some property has the view. -/
def Knows (rules : ViewRules) (properties : List Property) (view : String) : Prop :=
  ∃ property ∈ properties, rules.Assigns property view

instance (rules : ViewRules) (properties : List Property) (view : String) : Decidable (rules.Knows properties view) :=
  inferInstanceAs (Decidable (∃ property ∈ properties, rules.Assigns property view))

/-- The base view shows its own properties. Any other known view shows its own, and those of the base view as well where
the rules say so or the view is the full one. Of all other views only the full one shows anything, and that is all. -/
def Shows (rules : ViewRules) (properties : List Property) (view : String) (property : Property) : Prop :=
  if view = baseView then rules.Assigns property baseView
  else if rules.Knows properties view then
    rules.Assigns property view ∨
      (rules.includeBaseInViews = true ∨ view = fullView) ∧ rules.Assigns property baseView
  else view = fullView

end ViewRules

/-- There is such a property of this external name. -/
def Exposed (properties : List Property) (external : String) (such : Property → Prop) : Prop :=
  ∃ property ∈ properties, property.external = external ∧ such property

namespace ViewTable

/-- The table has the names of the properties, the unwrapped ones and the known views. -/
structure Covers (table : ViewTable) (rules : ViewRules) (schema : Schema) : Prop where
  typeName : table.typeName = schema.typeName
  declared : ∀ external name,
    table.declaredName? external = some name ↔ Exposed schema.properties external (·.name = name)
  unwrapped : ∀ external, table.isUnwrapped external = true ↔ Exposed schema.properties external (·.unwrapped = true)
  known : ∀ view, table.hasView view = true ↔ rules.Knows schema.properties view
  sortedDeclared : Entries.Sorted table.declared
  sortedUnwrapped : NameSet.Sorted table.unwrapped
  sortedViews : Entries.Sorted table.views

/-- And each view has the properties that it shows. -/
structure Describes (table : ViewTable) (rules : ViewRules) (schema : Schema) : Prop
    extends table.Covers rules schema where
  shown : ∀ view external, external ∈ table.propertiesIn view ↔
    Exposed schema.properties external (rules.Shows schema.properties view)
  sortedShown : ∀ view, NameSet.Sorted (table.propertiesIn view)

/-! ### Gathering views -/

variable {views : Entries NameSet} {view wanted external name : String}

/-- The members of a view that may still be to come. -/
def membersOf (views : Entries NameSet) (view : String) : NameSet := (Entries.find? view views).getD []

theorem membersOf_addToView_self : membersOf (addToView views external view) view =
    NameSet.insert external (membersOf views view) := by
  rw [membersOf, addToView, Entries.find?_insert_self, Option.getD_some, membersOf]

theorem membersOf_addToView_of_ne (different : wanted ≠ view) :
    membersOf (addToView views external view) wanted = membersOf views wanted := by
  rw [membersOf, addToView, Entries.find?_insert_of_ne different, membersOf]

theorem mem_membersOf_addToView : name ∈ membersOf (addToView views external view) wanted ↔
    (external = name ∧ wanted = view) ∨ name ∈ membersOf views wanted := by
  by_cases same : wanted = view
  · rw [same, membersOf_addToView_self, NameSet.mem_insert, and_iff_left rfl, eq_comm]
  · simp [membersOf_addToView_of_ne same, same]

theorem sorted_addToViews (sorted : Entries.Sorted views) (external : String) (names : List String) :
    Entries.Sorted (names.foldl (addToView · external ·) views) := by
  induction names generalizing views with
  | nil => exact sorted
  | cons view rest ih => exact ih (Entries.sorted_insert sorted)

theorem sorted_membersOf_addToViews (sorted : ∀ view, NameSet.Sorted (membersOf views view)) (external : String)
    (names : List String) (view : String) :
    NameSet.Sorted (membersOf (names.foldl (addToView · external ·) views) view) := by
  induction names generalizing views with
  | nil => exact sorted view
  | cons next rest ih =>
    refine ih fun wanted => ?_
    by_cases same : wanted = next
    · rw [same, membersOf_addToView_self]
      exact NameSet.sorted_insert (sorted next) external
    · rw [membersOf_addToView_of_ne same]
      exact sorted wanted

theorem mem_membersOf_addToViews {names : List String} :
    name ∈ membersOf (names.foldl (addToView · external ·) views) wanted ↔
      (external = name ∧ wanted ∈ names) ∨ name ∈ membersOf views wanted := by
  induction names generalizing views with
  | nil => simp
  | cons view rest ih =>
    rw [List.foldl_cons, ih, mem_membersOf_addToView, List.mem_cons, and_or_left, or_assoc, or_left_comm]

theorem mem_keys_addToViews {names : List String} :
    wanted ∈ Entries.keys (names.foldl (addToView · external ·) views) ↔
      wanted ∈ names ∨ wanted ∈ Entries.keys views := by
  induction names generalizing views with
  | nil => simp
  | cons view rest ih =>
    rw [List.foldl_cons, ih, addToView, Entries.mem_keys_insert, List.mem_cons, or_assoc, or_left_comm]

/-! ### Property by property -/

variable {rules : ViewRules} {table : ViewTable} {schema : Schema} {typeName : String} {such : Property → Prop}

/-- After some properties the table covers them, and each view has those that are its own. -/
structure Gathers (table : ViewTable) (rules : ViewRules) (schema : Schema) : Prop
    extends table.Covers rules schema where
  members : ∀ view external, external ∈ membersOf table.views view ↔
    Exposed schema.properties external (rules.Assigns · view)
  sortedMembers : ∀ view, NameSet.Sorted (membersOf table.views view)

theorem mem_viewsOf_iff : view ∈ viewsOf rules property ↔ rules.Assigns property view := by
  rw [viewsOf, ViewRules.Assigns]
  cases property.views with
  | nil => cases rules.addUnviewedToBase <;> simp
  | cons first rest => simp

theorem exposed_concat : Exposed (properties ++ [property]) external such ↔
    Exposed properties external such ∨ property.external = external ∧ such property := by
  simp [Exposed, or_and_right, exists_or]

theorem gathers_empty (rules : ViewRules) (typeName : String) : (empty typeName).Gathers rules ⟨typeName, []⟩ where
  typeName := rfl
  declared _ _ := iff_of_false nofun nofun
  unwrapped _ := iff_of_false nofun nofun
  known _ := iff_of_false nofun nofun
  sortedDeclared := .nil
  sortedUnwrapped := .nil
  sortedViews := .nil
  members _ _ := iff_of_false nofun nofun
  sortedMembers _ := .nil

theorem hasView_iff : table.hasView view = true ↔ view ∈ Entries.keys table.views := by
  rw [hasView, Entries.contains, Entries.mem_keys_iff, Option.isSome_iff_ne_none]

theorem isUnwrapped_iff : table.isUnwrapped external = true ↔ external ∈ table.unwrapped := List.contains_iff_mem

/-- A property with a name of its own is gathered. -/
theorem Gathers.addProperty (gathers : table.Gathers rules ⟨typeName, properties⟩) (named : property.name ≠ "")
    (fresh : ∀ earlier ∈ properties, earlier.external ≠ property.external) (index : Nat) :
    ∃ next, addProperty rules table index property = .ok next ∧
      next.Gathers rules ⟨typeName, properties ++ [property]⟩ := by
  have free (such : Property → Prop) : ¬ Exposed properties property.external such := by
    rintro ⟨earlier, member, same, _⟩
    exact fresh earlier member same
  have unknown : Entries.find? property.external table.declared = none := by
    refine Option.eq_none_iff_forall_ne_some.mpr fun name found => ?_
    exact free _ ((gathers.declared _ name).mp found)
  have notEmpty : ¬ property.name.isEmpty = true := String.isEmpty_iff.not.mpr named
  rw [ViewTable.addProperty, if_neg notEmpty]
  dsimp only
  rw [unknown]
  refine ⟨_, rfl, ?_⟩
  constructor
  case members =>
    intro view external
    rw [mem_membersOf_addToViews, gathers.members, exposed_concat, mem_viewsOf_iff, or_comm]
  case sortedMembers => exact sorted_membersOf_addToViews gathers.sortedMembers _ _
  constructor
  case typeName => exact gathers.typeName
  case declared =>
    intro external name
    rw [exposed_concat, ← gathers.declared, declaredName?, declaredName?]
    by_cases own : external = property.external
    · rw [own, Entries.find?_insert_self, unknown]
      simp
    · rw [Entries.find?_insert_of_ne own]
      simp [Ne.symm own]
  case unwrapped =>
    intro external
    rw [exposed_concat, ← gathers.unwrapped, isUnwrapped_iff, isUnwrapped_iff]
    cases property.unwrapped with
    | false => simp
    | true => simp [NameSet.mem_insert, eq_comm, or_comm]
  case known =>
    intro view
    rw [hasView_iff, mem_keys_addToViews, mem_viewsOf_iff, ← hasView_iff, gathers.known, or_comm]
    simp [ViewRules.Knows, or_and_right, exists_or]
  case sortedDeclared => exact Entries.sorted_insert gathers.sortedDeclared
  case sortedUnwrapped =>
    cases property.unwrapped with
    | false => exact gathers.sortedUnwrapped
    | true => exact NameSet.sorted_insert gathers.sortedUnwrapped _
  case sortedViews => exact sorted_addToViews gathers.sortedViews _ _

theorem Gathers.addProperty_of_unnamed (gathers : table.Gathers rules schema) (unnamed : property.name = "")
    (index : Nat) : ViewTable.addProperty rules table index property =
      .error ⟨schema.typeName, .emptyPropertyName index⟩ := by
  rw [ViewTable.addProperty, if_pos (String.isEmpty_iff.mpr unnamed), gathers.typeName]

theorem Gathers.addProperty_of_taken (gathers : table.Gathers rules schema) (named : property.name ≠ "")
    {owner : Property} (earlier : owner ∈ schema.properties) (same : owner.external = property.external) (index : Nat) :
    ViewTable.addProperty rules table index property =
      .error ⟨schema.typeName, .duplicateProperty property.external owner.name property.name⟩ := by
  have taken : Entries.find? property.external table.declared = some owner.name :=
    (gathers.declared _ _).mpr ⟨owner, earlier, same, rfl⟩
  rw [ViewTable.addProperty, if_neg (String.isEmpty_iff.not.mpr named)]
  dsimp only
  rw [taken, gathers.typeName]

/-! ### All properties -/

theorem addProperties_append {next : ViewTable} {index : Nat}
    (added : addProperties rules table index properties = .ok next) (more : List Property) :
    addProperties rules table index (properties ++ more) =
      addProperties rules next (index + properties.length) more := by
  induction properties generalizing table index with
  | nil =>
    cases added
    rfl
  | cons property rest ih =>
    obtain ⟨_, first, others⟩ := exists_of_bind_eq_ok added
    have shift : index + (rest.length + 1) = index + 1 + rest.length := by omega
    rw [List.cons_append, addProperties, first, List.length_cons, shift]
    exact ih others

theorem gathers_addProperties (rules : ViewRules) (typeName : String) (faultless : Faultless properties) :
    ∃ table, addProperties rules (empty typeName) 0 properties = .ok table ∧
      table.Gathers rules ⟨typeName, properties⟩ := by
  -- From the last property on, since what a table gathers is said of the properties before the next one.
  induction properties using List.reverseRecOn with
  | nil => exact ⟨_, rfl, gathers_empty rules typeName⟩
  | append_singleton properties property ih =>
    obtain ⟨front, named, fresh⟩ := faultless_concat_iff.mp faultless
    obtain ⟨table, added, gathers⟩ := ih front
    obtain ⟨next, last, gathered⟩ := gathers.addProperty named fresh (0 + properties.length)
    refine ⟨next, ?_, gathered⟩
    rw [addProperties_append added, addProperties, last]
    rfl

theorem addProperties_of_firstFault (rules : ViewRules) (typeName : String) {fault : SchemaFault}
    (first : FirstFault properties fault) :
    addProperties rules (empty typeName) 0 properties = .error ⟨typeName, fault⟩ := by
  cases first with
  | emptyName split faultless unnamed =>
    obtain ⟨table, added, gathers⟩ := gathers_addProperties rules typeName faultless
    rw [split, addProperties_append added, addProperties, gathers.addProperty_of_unnamed unnamed, Nat.zero_add]
    rfl
  | shared split faultless named earlier same =>
    obtain ⟨table, added, gathers⟩ := gathers_addProperties rules typeName faultless
    rw [split, addProperties_append added, addProperties, gathers.addProperty_of_taken named earlier same]
    rfl

/-! ### Base properties in other views -/

theorem find?_expand (rules : ViewRules) (views : Entries NameSet) (view : String) :
    Entries.find? view (expand rules views) = (Entries.find? view views).map fun names =>
      if view ≠ baseView ∧ (rules.includeBaseInViews ∨ view = fullView) then
        NameSet.union (membersOf views baseView) names
      else names := by
  rw [expand, membersOf]
  generalize (Entries.find? baseView views).getD [] = base
  induction views with
  | nil => rfl
  | cons entry rest ih =>
    obtain ⟨other, names⟩ := entry
    by_cases own : view = other
    · subst own
      by_cases grows : view ≠ baseView ∧ (rules.includeBaseInViews ∨ view = fullView) <;>
        simp [Entries.find?, grows]
    · by_cases grows : other ≠ baseView ∧ (rules.includeBaseInViews ∨ other = fullView) <;>
        simpa [Entries.find?, grows, own] using ih

theorem keys_expand (rules : ViewRules) (views : Entries NameSet) :
    Entries.keys (expand rules views) = Entries.keys views := by
  rw [expand, Entries.keys, List.map_map]
  refine List.map_congr_left fun entry _ => ?_
  dsimp only [Function.comp]
  split <;> rfl

/-- The table with the views as they are in the end. -/
def expanded (table : ViewTable) (rules : ViewRules) : ViewTable := { table with views := expand rules table.views }

theorem propertiesIn_expanded_of_known (known : table.hasView view = true) :
    (table.expanded rules).propertiesIn view =
      if view ≠ baseView ∧ (rules.includeBaseInViews ∨ view = fullView) then
        NameSet.union (membersOf table.views baseView) (membersOf table.views view)
      else membersOf table.views view := by
  obtain ⟨names, found⟩ := Option.isSome_iff_exists.mp known
  have own : membersOf table.views view = names := by rw [membersOf, found, Option.getD_some]
  rw [propertiesIn, expanded, find?_expand, found, Option.map_some, own]

theorem propertiesIn_expanded_of_unknown (unknown : ¬ table.hasView view = true) :
    (table.expanded rules).propertiesIn view = if view = fullView then Entries.keys table.declared else [] := by
  have missing : Entries.find? view table.views = none := Option.not_isSome_iff_eq_none.mp unknown
  rw [propertiesIn, expanded, find?_expand, missing, Option.map_none]

theorem Covers.expanded (covers : table.Covers rules schema) : (table.expanded rules).Covers rules schema := by
  refine { covers with known := fun view => ?_, sortedViews := ?_ }
  · rw [← covers.known, hasView_iff, hasView_iff, ViewTable.expanded, keys_expand]
  · rw [Entries.Sorted, ViewTable.expanded, keys_expand]
    exact covers.sortedViews

theorem Covers.mem_keys_declared_iff (covers : table.Covers rules schema) :
    external ∈ Entries.keys table.declared ↔ Exposed schema.properties external fun _ => True := by
  rw [Entries.mem_keys_iff, Option.ne_none_iff_exists']
  constructor
  · rintro ⟨name, found⟩
    obtain ⟨property, member, same, _⟩ := (covers.declared _ _).mp found
    exact ⟨property, member, same, trivial⟩
  · rintro ⟨property, member, same, _⟩
    exact ⟨property.name, (covers.declared _ _).mpr ⟨property, member, same, rfl⟩⟩

/-- The base view is as it was, other known views have taken in what they should, and unknown ones are made up. -/
theorem Gathers.mem_propertiesIn_expanded_iff (gathers : table.Gathers rules schema) :
    external ∈ (table.expanded rules).propertiesIn view ↔
      Exposed schema.properties external (rules.Shows schema.properties view) := by
  by_cases known : table.hasView view = true
  · have knows := (gathers.known view).mp known
    rw [propertiesIn_expanded_of_known known]
    by_cases base : view = baseView
    · rw [if_neg fun both => both.1 base, gathers.members, base]
      simp only [Exposed, ViewRules.Shows, if_true]
    by_cases grows : rules.includeBaseInViews = true ∨ view = fullView
    · rw [if_pos ⟨base, grows⟩, NameSet.mem_union, gathers.members, gathers.members, or_comm]
      simp only [Exposed, ViewRules.Shows, if_neg base, if_pos knows, grows, true_and, and_or_left, exists_or]
    · rw [if_neg fun both => grows both.2, gathers.members]
      simp only [Exposed, ViewRules.Shows, if_neg base, if_pos knows, grows, false_and, or_false]
  · have unknown := (gathers.known view).not.mp known
    rw [propertiesIn_expanded_of_unknown known]
    by_cases base : view = baseView
    · have notFull : view ≠ fullView := base ▸ by decide
      rw [if_neg notFull]
      -- No property has the base view, so that it shows none.
      refine iff_of_false nofun ?_
      rintro ⟨property, member, _, shows⟩
      rw [ViewRules.Shows, if_pos base, ← base] at shows
      exact unknown ⟨property, member, shows⟩
    · simp only [Exposed, ViewRules.Shows, if_neg base, if_neg unknown]
      by_cases full : view = fullView
      · rw [if_pos full, gathers.mem_keys_declared_iff]
        simp only [Exposed, full]
      · simp [full]

theorem Gathers.sorted_propertiesIn_expanded (gathers : table.Gathers rules schema) (view : String) :
    NameSet.Sorted ((table.expanded rules).propertiesIn view) := by
  by_cases known : table.hasView view = true
  · rw [propertiesIn_expanded_of_known known]
    split
    · exact NameSet.sorted_union (gathers.sortedMembers view) _
    · exact gathers.sortedMembers view
  · rw [propertiesIn_expanded_of_unknown known]
    split
    · exact gathers.sortedDeclared
    · exact .nil

/-! ### The whole table -/

theorem describes_ofSchema (rules : ViewRules) (faultless : Faultless schema.properties) :
    ∃ table, ofSchema rules schema = .ok table ∧ table.Describes rules schema := by
  obtain ⟨table, added, gathers⟩ := gathers_addProperties rules schema.typeName faultless
  refine ⟨table.expanded rules, ?_, gathers.expanded, fun _ _ => gathers.mem_propertiesIn_expanded_iff,
    gathers.sorted_propertiesIn_expanded⟩
  rw [ofSchema, added]
  rfl

theorem ofSchema_of_firstFault (rules : ViewRules) {fault : SchemaFault} (first : FirstFault schema.properties fault) :
    ofSchema rules schema = .error ⟨schema.typeName, fault⟩ := by
  rw [ofSchema, addProperties_of_firstFault rules schema.typeName first]
  rfl

theorem find?_views (table : ViewTable) (view : String) :
    Entries.find? view table.views = if table.hasView view then some (table.propertiesIn view) else none := by
  rw [hasView, Entries.contains, propertiesIn]
  cases Entries.find? view table.views <;> rfl

/-- A table is what it says. -/
theorem Describes.unique {other : ViewTable} (describes : table.Describes rules schema)
    (describes' : other.Describes rules schema) : table = other := by
  have declared : table.declared = other.declared := by
    refine Entries.eq_of_find? describes.sortedDeclared describes'.sortedDeclared fun external => ?_
    exact Option.ext fun name => (describes.declared external name).trans (describes'.declared external name).symm
  have unwrapped : table.unwrapped = other.unwrapped := by
    refine NameSet.eq_of_mem_iff describes.sortedUnwrapped describes'.sortedUnwrapped fun external => ?_
    rw [← isUnwrapped_iff, ← isUnwrapped_iff, describes.unwrapped, describes'.unwrapped]
  have views : table.views = other.views := by
    refine Entries.eq_of_find? describes.sortedViews describes'.sortedViews fun view => ?_
    have known : table.hasView view = other.hasView view := by
      rw [Bool.eq_iff_iff, describes.known, describes'.known]
    have names : table.propertiesIn view = other.propertiesIn view := by
      refine NameSet.eq_of_mem_iff (describes.sortedShown view) (describes'.sortedShown view) fun external => ?_
      rw [describes.shown, describes'.shown]
    rw [find?_views, find?_views, known, names]
  have typeName : table.typeName = other.typeName := describes.typeName.trans describes'.typeName.symm
  cases table
  cases other
  rw [mk.injEq]
  exact ⟨typeName, views, unwrapped, declared⟩

theorem ofSchema_eq_ok_iff :
    ofSchema rules schema = .ok table ↔ Faultless schema.properties ∧ table.Describes rules schema := by
  constructor
  · intro built
    rcases faultless_or_firstFault schema.properties with faultless | ⟨fault, first⟩
    · obtain ⟨other, same, describes⟩ := describes_ofSchema rules faultless
      cases built.symm.trans same
      exact ⟨faultless, describes⟩
    · cases built.symm.trans (ofSchema_of_firstFault rules first)
  · rintro ⟨faultless, describes⟩
    obtain ⟨other, built, describes'⟩ := describes_ofSchema rules faultless
    rw [built, describes.unique describes']

theorem ofSchema_eq_error_iff {error : SchemaError} : ofSchema rules schema = .error error ↔
    error.typeName = schema.typeName ∧ FirstFault schema.properties error.cause := by
  constructor
  · intro failed
    rcases faultless_or_firstFault schema.properties with faultless | ⟨fault, first⟩
    · obtain ⟨_, built, _⟩ := describes_ofSchema rules faultless
      cases failed.symm.trans built
    · cases failed.symm.trans (ofSchema_of_firstFault rules first)
      exact ⟨rfl, first⟩
  · rintro ⟨typeName, first⟩
    rw [ofSchema_of_firstFault rules first, ← typeName]

theorem exists_error_iff : (∃ error, ofSchema rules schema = .error error) ↔ ¬ Faultless schema.properties := by
  constructor
  · rintro ⟨error, failed⟩ faultless
    obtain ⟨_, built, _⟩ := describes_ofSchema rules faultless
    cases failed.symm.trans built
  · intro faulty
    obtain ⟨fault, first⟩ := (faultless_or_firstFault schema.properties).resolve_left faulty
    exact ⟨_, ofSchema_of_firstFault rules first⟩

/-- A schema has no table if a property of it has no name or two properties have one external name, which is a new name
that is not empty or else the declared one. Then the first such property is what the error is about. Otherwise its table
is the one that says of each view what the rules do, and of each property its name and whether it is unwrapped. -/
theorem ofSchema_iff_describes (rules : ViewRules) (schema : Schema) :
    (∀ property : Property, property.external = (property.rename.filter (· ≠ "")).getD property.name) ∧
    ((∃ error, ofSchema rules schema = .error error) ↔
      (∃ property ∈ schema.properties, property.name = "") ∨
        ∃ first second, [first, second].Sublist schema.properties ∧ first.external = second.external) ∧
    (∀ error, ofSchema rules schema = .error error ↔
      error.typeName = schema.typeName ∧ FirstFault schema.properties error.cause) ∧
    ∀ table, ofSchema rules schema = .ok table ↔ Faultless schema.properties ∧ table.Describes rules schema :=
  ⟨Property.external_eq, exists_error_iff.trans not_faultless_iff, fun _ => ofSchema_eq_error_iff,
    fun _ => ofSchema_eq_ok_iff⟩

/-- The full view is known, and takes in the base view even where other views do not. -/
example : ofSchema ⟨false, true⟩ ⟨"User", [⟨"id", none, [], false⟩,
      ⟨"mail", some "email", ["contact", "contact"], false⟩, ⟨"home", some "", ["full"], true⟩]⟩ =
    .ok ⟨"User", [("base", ["id"]), ("contact", ["email"]), ("full", ["home", "id"])], ["home"],
      [("email", "mail"), ("home", "home"), ("id", "id")]⟩ := by rfl

end ViewTable
end FieldSelect
