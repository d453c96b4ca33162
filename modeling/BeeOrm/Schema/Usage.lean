import BeeOrm.Schema.Alignment
import BeeOrm.Schema.FieldsQuery

/-! `tableSchema.GetUsage` and `getUsage`: where an entity is referenced. For
every registered entity, `getUsage` walks its `tableFields` tree and reports,
under the entity's type, every reference to the schema's own type, by its name
prefixed with the names of the structs that hold it. Those are the names
`buildColumnNames` gives the reference columns, so what `GetUsage` reports of an
entity is a sublist of that entity's columns. -/

namespace BeeOrm

/-- The map `getUsage` fills: the names of the referencing fields, by the
`String()` of the referencing entity type. -/
abbrev Usage := List (String × List String)

namespace TableFields

/-- One turn of the loop of `getUsage` over `fields.refs`: a reference of type
`tName` appends its name under `keyPrefix` to `results[t]`. The name is read from
the level's type at the reference's index, as `fields.t.Field(fieldID)` does. -/
def addUsage (tName t keyPrefix : String) (levelType : GoType) (results : Usage)
    (ref : Nat × String) : Usage :=
  if ref.2 = tName then
    GoMap.set results t
      (GoMap.getD results t [] ++ [keyPrefix ++ (levelType.fields.getD ref.1 zeroField).name])
  else results

mutual

/-- `tableSchema.getUsage(fields, t, prefix, results)` for a schema whose type
is named `tName`. `refs` is read with `refsTypes`, and `structs` with
`structsFields`, pairwise: the lists of each pair have equal lengths in every tree
`buildTableFields` builds. -/
def getUsage (tName : String) : TableFields → String → String → Usage → Usage
  | fields@{ structsFields := subFields, .. }, t, keyPrefix, results =>
      getNestedUsage tName fields.structs fields.t t keyPrefix 0 subFields
        ((fields.refs.zip fields.refsTypes).foldl (addUsage tName t keyPrefix fields.t) results)

/-- The loop of `getUsage` over the nested structs: the `i`-th is walked under
`keyPrefix` followed by the name of field `structs[i]` of the level's type, or by
nothing when that field is anonymous. -/
def getNestedUsage (tName : String) (structs : List Nat) (levelType : GoType)
    (t keyPrefix : String) : Nat → List TableFields → Usage → Usage
  | _, [], results => results
  | i, subFields :: rest, results =>
      let f := levelType.fields.getD (structs.getD i 0) zeroField
      getNestedUsage tName structs levelType t keyPrefix (i + 1) rest
        (getUsage tName subFields t (keyPrefix ++ if f.anonymous then "" else f.name) results)

end

end TableFields

/-- `tableSchema.GetUsage(registry)`, with the registry's entities given by their
schemas in the order the loop over `vRegistry.entities` visits them. -/
def TableSchema.getUsage (tableSchema : TableSchema) (entities : List TableSchema) : Usage :=
  entities.foldl (fun results schema =>
    schema.fields.getUsage tableSchema.t.string schema.t.string "" results) []

namespace TableFields

/-! ## What `getUsage` reports -/

/-- The names `getUsage` reports for the references of one level to the type
named `tName`, read from the fields the level records. -/
def ownUsage (tName : String) (level : TableFields × String) : List String :=
  (level.1.refs.zip level.1.refsTypes).filterMap fun ref =>
    if ref.2 = tName then some (level.2 ++ (GoMap.getD level.1.fields ref.1 zeroField).name)
    else none

/-- What `getUsage` reads of a level's type agrees with the fields the level
records: at every reference, and at the field of every nested struct. -/
def ReadsType (fields : TableFields) : Prop :=
  (∀ i ∈ fields.refs, fields.t.fields.getD i zeroField = GoMap.getD fields.fields i zeroField) ∧
  ∀ i < fields.structsFields.length, fields.t.fields.getD (fields.structs.getD i 0) zeroField =
    GoMap.getD fields.fields (fields.structs.getD i 0) zeroField

theorem getD_foldl_addUsage (tName t keyPrefix : String) (levelType : GoType) (key : String) :
    ∀ (refs : List (Nat × String)) (results : Usage),
      GoMap.getD (refs.foldl (addUsage tName t keyPrefix levelType) results) key [] =
        GoMap.getD results key [] ++ if key = t then refs.filterMap (fun ref =>
          if ref.2 = tName then some (keyPrefix ++ (levelType.fields.getD ref.1 zeroField).name)
          else none) else []
  | [], results => by simp
  | ref :: rest, results => by
      rw [List.foldl_cons, getD_foldl_addUsage _ _ _ _ _ rest, addUsage]
      by_cases typed : ref.2 = tName <;> by_cases same : key = t
      · subst same
        simp [typed, GoMap.getD_set]
      · simp [typed, same, GoMap.getD_set, Ne.symm same]
      all_goals simp [typed, same]

/-- The loop over one level's references appends that level's `ownUsage`. -/
theorem getD_foldl_addUsage_own {fields : TableFields} (tName t keyPrefix key : String)
    (reads : ∀ i ∈ fields.refs,
      fields.t.fields.getD i zeroField = GoMap.getD fields.fields i zeroField)
    (results : Usage) :
    GoMap.getD ((fields.refs.zip fields.refsTypes).foldl (addUsage tName t keyPrefix fields.t)
        results) key [] =
      GoMap.getD results key [] ++ if key = t then ownUsage tName (fields, keyPrefix) else [] := by
  rw [getD_foldl_addUsage, ownUsage]
  congr 2
  refine List.filterMap_congr fun ref member => ?_
  rw [reads ref.1 (List.of_mem_zip member).1]

mutual

/-- `getUsage` appends to `results[t]` the references of each level in the
order `buildColumnNames` visits the levels, and leaves every other key alone. -/
theorem getD_getUsage (tName : String) (key : String) :
    ∀ (fields : TableFields) (t keyPrefix : String) (results : Usage),
      AllLevels ReadsType fields →
      GoMap.getD (fields.getUsage tName t keyPrefix results) key [] =
        GoMap.getD results key [] ++
          if key = t then (fields.levels keyPrefix).flatMap (ownUsage tName) else []
  | fields@{ structsFields := subFields, .. }, t, keyPrefix, results, reads => by
      rw [AllLevels] at reads
      rw [getUsage, levels, getD_getNestedUsage tName key _ _ _ _ _ 0 subFields _
        (fun j _ below => reads.1.2 j (by simpa using below)) reads.2,
        getD_foldl_addUsage_own _ _ _ _ reads.1.1]
      by_cases same : key = t <;> simp [same, List.flatMap_cons]

theorem getD_getNestedUsage (tName : String) (key : String) (structs : List Nat)
    (levelType : GoType) (fieldMap : List (Nat × StructField)) (t keyPrefix : String) :
    ∀ (i : Nat) (subs : List TableFields) (results : Usage),
      (∀ j, i ≤ j → j < i + subs.length → levelType.fields.getD (structs.getD j 0) zeroField =
        GoMap.getD fieldMap (structs.getD j 0) zeroField) →
      allLevelsOf ReadsType subs →
      GoMap.getD (getNestedUsage tName structs levelType t keyPrefix i subs results) key [] =
        GoMap.getD results key [] ++
          if key = t then (nestedLevels structs fieldMap keyPrefix i subs).flatMap (ownUsage tName)
          else []
  | _, [], results, _, _ => by simp [getNestedUsage, nestedLevels]
  | i, subFields :: rest, results, named, reads => by
      rw [allLevelsOf] at reads
      have field := named i (Nat.le_refl i) (by simp)
      rw [getNestedUsage, nestedLevels, field,
        getD_getNestedUsage tName key structs levelType fieldMap t keyPrefix (i + 1) rest _
          (fun j above below => named j (by omega) (by simp at below ⊢; omega)) reads.2,
        getD_getUsage tName key subFields t _ results reads.1]
      by_cases same : key = t <;> simp [same, List.flatMap_append]

end

/-- The names `getUsage` reports of one level are some of its references' names. -/
theorem ownUsage_sublist_refs (tName : String) (level : TableFields × String) :
    (ownUsage tName level).Sublist
      (level.1.refs.map fun i => level.2 ++ (GoMap.getD level.1.fields i zeroField).name) := by
  unfold ownUsage
  generalize level.1.refsTypes = types
  induction level.1.refs generalizing types with
  | nil => simp
  | cons i rest induction =>
      cases types with
      | nil => simp
      | cons refType types =>
          rw [List.zip_cons_cons, List.filterMap_cons, List.map_cons]
          by_cases typed : refType = tName
          · simpa only [typed, if_true] using (induction types).cons₂ _
          · simpa only [typed, if_false] using (induction types).cons _

/-- The references of a level are a stretch of its columns. -/
theorem refs_sublist_ownNames (level : TableFields × String) :
    (level.1.refs.map fun i => level.2 ++ (GoMap.getD level.1.fields i zeroField).name).Sublist
      (ownNames level) := by
  have names : ownNames level = (level.1.columnIds.map Prod.fst).map
      fun i => level.2 ++ (GoMap.getD level.1.fields i zeroField).name := by
    simp [ownNames, ownColumns]
  have ids : level.1.refs.Sublist (level.1.columnIds.map Prod.fst) := by
    rw [columnIds_eq]
    simp only [List.map_append, List.map_map, Function.comp_def, List.map_id', List.append_assoc]
    exact (List.sublist_append_left _ _).trans (List.sublist_append_right _ _)
  rw [names]
  exact ids.map _

theorem flatMap_sublist_flatMap {α β : Type} {f g : α → List β} :
    ∀ l : List α, (∀ a ∈ l, (f a).Sublist (g a)) → (l.flatMap f).Sublist (l.flatMap g)
  | [], _ => by simp
  | a :: l, sub => by
      simpa only [List.flatMap_cons] using (sub a (List.mem_cons_self _ _)).append
        (flatMap_sublist_flatMap l fun b member => sub b (List.mem_cons_of_mem _ member))

/-- Every name `getUsage` reports of a tree is one of its columns, in column order. -/
theorem usage_sublist_buildColumnNames (tName : String) (fields : TableFields)
    (keyPrefix : String) :
    ((fields.levels keyPrefix).flatMap (ownUsage tName)).Sublist
      (fields.buildColumnNames keyPrefix).1 := by
  rw [buildColumnNames_fst]
  exact flatMap_sublist_flatMap _ fun level _ =>
    (ownUsage_sublist_refs tName level).trans (refs_sublist_ownNames level)

/-! ## The fields `buildTableFields` records -/

/-- Every field a level records is the field of its type at its index, as
`fields.fields[i] = f` with `f := t.Field(i)` records it. -/
def RecordsType (fields : TableFields) : Prop :=
  ∀ entry ∈ fields.fields, fields.t.fields[entry.1]? = some entry.2

/-- A level that records its type's fields, and lists only recorded indexes,
names its references and nested structs as its type does. -/
theorem readsType_of_recordsType {registry : Registry} {schemaTags : SchemaTags}
    {fields : TableFields} (recorded : RecordsType fields)
    (aligned : Aligned registry schemaTags fields) : ReadsType fields := by
  have typed : ∀ i ∈ listedIds fields,
      fields.t.fields.getD i zeroField = GoMap.getD fields.fields i zeroField := by
    intro i listed
    obtain ⟨f, found⟩ := Option.isSome_iff_exists.1
      ((GoMap.mem_keys_iff_get?_isSome _ _).1 (aligned.listed i listed))
    rw [List.getD_eq_getElem?_getD, recorded _ (GoMap.mem_of_get? found)]
    simp [GoMap.getD, found]
  refine ⟨fun i member => typed i ?_, fun i short => typed _ ?_⟩
  · simp [listedIds, categoryIds, categoryLists, member]
  · have within : i < fields.structs.length := aligned.structs.length_eq ▸ short
    rw [listedIds, List.mem_append, List.getD_eq_getElem?_getD, List.getElem?_eq_getElem within]
    exact .inr (List.getElem_mem within)

end TableFields

open TableFields

/-- The loop of `buildTableFields` over the fields of `t` from `index` on records
each field it builds as the field of `t` at its index, and builds nested levels
that do. -/
theorem buildFieldsFrom_recordsType {registry : Registry} {schemaTags : SchemaTags}
    {keyPrefix : String} {buildStruct : StructBuilder} {t : GoType}
    (builds : ∀ subPrefix subType adapters sub adapters',
      buildStruct subPrefix subType adapters = .ok (sub, adapters') → AllLevels RecordsType sub)
    (remaining : List StructField) :
    ∀ {index : Nat} {fields fields' : TableFields} {adapters adapters' : Adapters},
      TableSchema.buildFieldsFrom registry schemaTags keyPrefix buildStruct index remaining
        fields adapters = .ok (fields', adapters') →
      remaining = t.fields.drop index →
      (∀ entry ∈ fields.fields, t.fields[entry.1]? = some entry.2) →
      allLevelsOf RecordsType fields.structsFields →
      (∀ entry ∈ fields'.fields, t.fields[entry.1]? = some entry.2) ∧
        allLevelsOf RecordsType fields'.structsFields := by
  induction remaining with
  | nil =>
      intro index fields fields' adapters adapters' built _ recorded nested
      cases built
      exact ⟨recorded, nested⟩
  | cons f rest induction =>
      intro index fields fields' adapters adapters' built remaining recorded nested
      have later : rest = t.fields.drop (index + 1) := by
        rw [← List.tail_drop, ← remaining, List.tail_cons]
      have atIndex : t.fields[index]? = some f := by
        rw [← List.head?_drop, ← remaining, List.head?_cons]
      rw [TableSchema.buildFieldsFrom] at built
      dsimp only at built
      split at built
      · exact induction built later recorded nested
      · split at built
        · cases built
        next stepFields stepAdapters builtField =>
          have kept : stepFields.fields = GoMap.set fields.fields index f ∧
              allLevelsOf RecordsType stepFields.structsFields := by
            rcases TableSchema.buildField_effect _ _ _ rfl builtField with
              ⟨added, -⟩ | ⟨rfl, -⟩ | ⟨-, -, map, -, -, same | ⟨sub, _, builtSub, appended⟩⟩
            · exact ⟨added.fieldMap, added.nested ▸ nested⟩
            · exact ⟨rfl, nested⟩
            · exact ⟨map, same ▸ nested⟩
            · rw [appended, allLevelsOf_append]
              exact ⟨map, nested, builds _ _ _ _ _ builtSub, trivial⟩
          refine induction built later (fun entry member => ?_) kept.2
          rw [kept.1] at member
          rcases GoMap.mem_of_mem_set member with member | rfl
          · exact recorded entry member
          · exact atIndex

/-- Every level `buildTableFields` builds, within any depth bound, records its
type's fields. -/
theorem buildTableFieldsWithin_recordsType {registry : Registry} {schemaTags : SchemaTags}
    (depth : Nat) :
    ∀ {t : GoType} {start : Nat} {keyPrefix : String} {adapters adapters' : Adapters}
      {fields' : TableFields},
      TableSchema.buildTableFieldsWithin registry schemaTags depth t start keyPrefix adapters =
        .ok (fields', adapters') →
      AllLevels RecordsType fields' := by
  induction depth with
  | zero =>
      intro t start keyPrefix adapters adapters' fields' built
      have typed := (buildTableFieldsWithin_aligned 0 built).1
      rw [TableSchema.buildTableFieldsWithin] at built
      obtain ⟨recorded, nested⟩ := buildFieldsFrom_recordsType
        (fun _ _ _ _ _ thrown => by cases thrown) _ built rfl (by simp) trivial
      exact (allLevels_iff _).2 ⟨by rw [RecordsType, typed]; exact recorded, nested⟩
  | succ depth induction =>
      intro t start keyPrefix adapters adapters' fields' built
      have typed := (buildTableFieldsWithin_aligned (depth + 1) built).1
      rw [TableSchema.buildTableFieldsWithin] at built
      obtain ⟨recorded, nested⟩ := buildFieldsFrom_recordsType
        (fun _ _ _ _ _ builtSub => induction builtSub) _ built rfl (by simp) trivial
      exact (allLevels_iff _).2 ⟨by rw [RecordsType, typed]; exact recorded, nested⟩

/-- Every level of the fields `buildTableFields` builds reads its type as it
records it. -/
theorem buildTableFields_readsType {t : GoType} {registry : Registry} {start : Nat}
    {keyPrefix : String} {schemaTags : SchemaTags} {adapters adapters' : Adapters}
    {fields : TableFields}
    (built : TableSchema.buildTableFields t registry start keyPrefix schemaTags adapters =
      .ok (fields, adapters')) :
    AllLevels ReadsType fields :=
  AllLevels.imp₂ (fun _ recorded aligned => readsType_of_recordsType recorded aligned) fields
    (buildTableFieldsWithin_recordsType _ built) (buildTableFieldsWithin_aligned _ built).2.2

/-- The loop of `GetUsage` over the entities appends, under each type name, the
references of every entity of that name, in the order of the entities. -/
theorem getD_foldl_getUsage (tName key : String) :
    ∀ (entities : List TableSchema) (results : Usage),
      (∀ schema ∈ entities, AllLevels ReadsType schema.fields) →
      GoMap.getD (entities.foldl (fun results schema =>
          schema.fields.getUsage tName schema.t.string "" results) results) key [] =
        GoMap.getD results key [] ++ (entities.filter (·.t.string = key)).flatMap fun schema =>
          (schema.fields.levels "").flatMap (ownUsage tName)
  | [], results, _ => by simp
  | schema :: rest, results, reads => by
      rw [List.foldl_cons, getD_foldl_getUsage tName key rest _ fun other member =>
        reads other (List.mem_cons_of_mem _ member),
        getD_getUsage _ _ _ _ _ _ (reads schema (List.mem_cons_self _ _)), List.filter_cons]
      by_cases same : schema.t.string = key
      · simp [same]
      · simp [same, Ne.symm same]

/-- For entities whose schemas `init` built, `GetUsage` reports under each type
name the fields of that name's entities that reference the schema's type, level
by level and each under the names of the structs that hold it; and every name it
reports is a column of such an entity, in the order of the columns. -/
theorem getUsage_of_init (tableSchema : TableSchema) (entities : List TableSchema)
    (initialised : ∀ schema ∈ entities, ∃ sha256Hex fnv32a registry entityType,
      TableSchema.init sha256Hex fnv32a registry entityType = .ok schema)
    (key : String) :
    GoMap.getD (tableSchema.getUsage entities) key [] =
        (entities.filter (·.t.string = key)).flatMap (fun schema =>
          (schema.fields.levels "").flatMap (ownUsage tableSchema.t.string)) ∧
      (GoMap.getD (tableSchema.getUsage entities) key []).Sublist
        ((entities.filter (·.t.string = key)).flatMap (·.columnNames)) := by
  have reads : ∀ schema ∈ entities, AllLevels ReadsType schema.fields := fun schema member => by
    obtain ⟨_, _, _, _, built⟩ := initialised schema member
    obtain ⟨_, builtFields, -⟩ := (TableSchema.init_eq_ok built).fields
    exact buildTableFields_readsType builtFields
  have usage : GoMap.getD (tableSchema.getUsage entities) key [] =
      (entities.filter (·.t.string = key)).flatMap fun schema =>
        (schema.fields.levels "").flatMap (ownUsage tableSchema.t.string) :=
    (getD_foldl_getUsage tableSchema.t.string key entities [] reads).trans (List.nil_append _)
  refine ⟨usage, usage ▸ flatMap_sublist_flatMap _ fun schema member => ?_⟩
  obtain ⟨_, _, _, _, built⟩ := initialised schema (List.mem_of_mem_filter member)
  exact (TableSchema.init_eq_ok built).columnNames ▸ usage_sublist_buildColumnNames _ _ _

/-- An entity referencing its own type, directly and from a nested struct. -/
def categoryEntity : GoType :=
  .struct "main.Category" "Category"
    [ormField, idField, ⟨"Parent", false, [], .pointer "main.Category" true []⟩,
      ⟨"Meta", false, [], .struct "main.Meta" "Meta"
        [⟨"Owner", false, [], .pointer "main.Category" true []⟩]⟩]

/-- The schema `init` builds for `categoryEntity`. -/
def categorySchema : TableSchema :=
  (TableSchema.init id String.length defaultRegistry categoryEntity).value?.getD default

theorem extractTags_categoryEntity : extractTags defaultRegistry categoryEntity "" = [] := by
  decide

theorem buildTableFields_categoryEntity :
    TableSchema.buildTableFields categoryEntity defaultRegistry 1 "" [] {} =
      .ok ({ t := categoryEntity
             fields := [(1, idField), (2, ⟨"Parent", false, [], .pointer "main.Category" true []⟩),
               (3, categoryEntity.fields.getD 3 zeroField)]
             keyPrefix := "", uintegers := [1], structs := [3], refs := [2],
             refsTypes := ["main.Category"]
             structsFields :=
               [{ t := (categoryEntity.fields.getD 3 zeroField).type
                  fields := [(0, ⟨"Owner", false, [], .pointer "main.Category" true []⟩)]
                  keyPrefix := "Meta", refs := [0], refsTypes := ["main.Category"],
                  structsFields := [] }] },
        { mapBindToScanPointer := [("ID", .uint64Pointer), ("Parent", .scanIntNullablePointer),
            ("MetaOwner", .scanIntNullablePointer)]
          mapPointerToValue := [("ID", .uint64Value), ("Parent", .pointerUintNullableScan),
            ("MetaOwner", .pointerUintNullableScan)] }) := rfl

theorem init_categoryEntity :
    TableSchema.init id String.length defaultRegistry categoryEntity = .ok categorySchema := by
  rw [categorySchema, TableSchema.init, extractTags_categoryEntity, buildTableFields_categoryEntity]
  rfl

theorem categorySchema_usage :
    (∀ schema ∈ [categorySchema], ∃ sha256Hex fnv32a registry entityType,
      TableSchema.init sha256Hex fnv32a registry entityType = .ok schema) ∧
    (GoMap.getD (categorySchema.getUsage [categorySchema]) "main.Category" [] =
        ([categorySchema].filter (·.t.string = "main.Category")).flatMap (fun schema =>
          (schema.fields.levels "").flatMap (ownUsage categorySchema.t.string)) ∧
      (GoMap.getD (categorySchema.getUsage [categorySchema]) "main.Category" []).Sublist
        (([categorySchema].filter (·.t.string = "main.Category")).flatMap (·.columnNames))) := by
  have initialised : ∀ schema ∈ [categorySchema], ∃ sha256Hex fnv32a registry entityType,
      TableSchema.init sha256Hex fnv32a registry entityType = .ok schema := by
    rintro schema member
    rw [List.mem_singleton.1 member]
    exact ⟨_, _, _, _, init_categoryEntity⟩
  exact ⟨initialised, getUsage_of_init categorySchema [categorySchema] initialised "main.Category"⟩

/-- The reference inside `Meta` is reported under the struct's name. -/
example : GoMap.getD (categorySchema.getUsage [categorySchema]) "main.Category" [] =
    ["Parent", "MetaOwner"] := by
  rw [categorySchema, TableSchema.init, extractTags_categoryEntity, buildTableFields_categoryEntity]
  decide

end BeeOrm
