import BeeOrm.Schema.Init
import BeeOrm.Schema.Recording

/-! The column layout of a schema: the names `buildColumnNames` gives the fields
`buildTableFields` records, against the keys its other passes use for the same
fields. -/

namespace BeeOrm

/-- A field two named structs deep, tagged to be ignored. -/
def nestedIgnoreEntity : GoType :=
  .struct "main.Nested" "Nested"
    [ormField, idField,
      ⟨"A", false, [], .struct "main.A" "A"
        [⟨"B", false, [], .struct "main.B" "B"
          [⟨"X", false, [("orm", "ignore")], .basic "uint64"⟩]⟩]⟩]

/-- `extractTags` files the `ignore` tag of the nested field under its column
name `ABX`, but `buildTableFields` looks it up under `BX`, builds the field as a
column, and registers its adapters under `BX`. -/
theorem init_nested_ignore_tag_missed :
    ((TableSchema.init id String.length defaultRegistry nestedIgnoreEntity).value?.map
        fun schema => (schema.tags, schema.columnNames, GoMap.keys schema.mapBindToScanPointer)) =
      some ([("ABX", [("ignore", "true")])], ["ID", "ABX"], ["ID", "BX"]) := by
  have tags : extractTags defaultRegistry nestedIgnoreEntity "" =
      [("ABX", [("ignore", "true")])] := by decide
  have built : TableSchema.buildTableFields nestedIgnoreEntity defaultRegistry 1 ""
      [("ABX", [("ignore", "true")])] {} =
      .ok ({ t := nestedIgnoreEntity
             fields := [(1, idField), (2, nestedIgnoreEntity.fields.getD 2 zeroField)]
             keyPrefix := "", uintegers := [1], structs := [2]
             structsFields :=
               [{ t := (nestedIgnoreEntity.fields.getD 2 zeroField).type
                  fields := [(0, (nestedIgnoreEntity.fields.getD 2 zeroField).type.fields.getD 0
                    zeroField)]
                  keyPrefix := "A", structs := [0]
                  structsFields :=
                    [{ t := ((nestedIgnoreEntity.fields.getD 2 zeroField).type.fields.getD 0
                          zeroField).type
                       fields := [(0, ⟨"X", false, [("orm", "ignore")], .basic "uint64"⟩)]
                       keyPrefix := "B", uintegers := [0], structsFields := [] }] }] },
        { mapBindToScanPointer := [("ID", .uint64Pointer), ("BX", .uint64Pointer)]
          mapPointerToValue := [("ID", .uint64Value), ("BX", .uint64Value)] }) := rfl
  rw [TableSchema.init, tags, built]
  decide

variable {sha256Hex : String → String} {fnv32a : String → Nat} {registry : Registry}
  {entityType : GoType} {schema : TableSchema}

/-- On an entity type with distinct field names at each level, none of whose
nested structs opens with its soft-delete field, the columns of the schema
`init` builds are the column names of the fields `buildTableFields` records as
columns, each once per recording. -/
theorem init_columnNames_perm_declaredColumns
    (distinct : entityType.fieldNamesDistinct = true)
    (notFirst : entityType.softDeleteNotFirst = true)
    (initialised : TableSchema.init sha256Hex fnv32a registry entityType = .ok schema) :
    schema.columnNames.Perm (schema.fields.declaredColumns "") := by
  have ok := TableSchema.init_eq_ok initialised
  obtain ⟨adapters, built, -⟩ := ok.fields
  rw [ok.columnNames]
  exact TableFields.buildColumnNames_perm_declaredColumns
    (buildTableFields_records distinct notFirst (fun zero => absurd zero Nat.one_ne_zero) built) ""

/-- A field `Name` next to an embedded struct with a field `Name` of its own. -/
def shadowedNameEntity : GoType :=
  .struct "main.Person" "Person"
    [ormField, idField, ⟨"Name", false, [], .basic "string"⟩,
      ⟨"Embedded", true, [], .struct "main.Embedded" "Embedded"
        [⟨"Name", false, [], .basic "string"⟩]⟩]

/-- The schema `init` builds for `shadowedNameEntity`. -/
def shadowedNameSchema : TableSchema :=
  (TableSchema.init id String.length defaultRegistry shadowedNameEntity).value?.getD default

theorem extractTags_shadowedNameEntity :
    extractTags defaultRegistry shadowedNameEntity "" = [] := by decide

theorem buildTableFields_shadowedNameEntity :
    TableSchema.buildTableFields shadowedNameEntity defaultRegistry 1 "" [] {} =
      .ok ({ t := shadowedNameEntity
             fields := [(1, idField), (2, ⟨"Name", false, [], .basic "string"⟩),
               (3, shadowedNameEntity.fields.getD 3 zeroField)]
             keyPrefix := "", uintegers := [1], strings := [2], structs := [3]
             structsFields :=
               [{ t := (shadowedNameEntity.fields.getD 3 zeroField).type
                  fields := [(0, ⟨"Name", false, [], .basic "string"⟩)]
                  keyPrefix := "", strings := [0], structsFields := [] }] },
        { mapBindToScanPointer := [("ID", .uint64Pointer), ("Name", .nullStringPointer)]
          mapPointerToValue := [("ID", .uint64Value), ("Name", .nullStringValue)] }) := rfl

theorem init_shadowedNameEntity :
    TableSchema.init id String.length defaultRegistry shadowedNameEntity = .ok shadowedNameSchema := by
  rw [shadowedNameSchema, TableSchema.init, extractTags_shadowedNameEntity,
    buildTableFields_shadowedNameEntity]
  rfl

theorem shadowedNameEntity_columnNames_perm :
    shadowedNameEntity.fieldNamesDistinct = true ∧ shadowedNameEntity.softDeleteNotFirst = true ∧
    TableSchema.init id String.length defaultRegistry shadowedNameEntity = .ok shadowedNameSchema ∧
    shadowedNameSchema.columnNames.Perm (shadowedNameSchema.fields.declaredColumns "") :=
  ⟨by decide, by decide, init_shadowedNameEntity,
    init_columnNames_perm_declaredColumns (by decide) (by decide) init_shadowedNameEntity⟩

/-- `init` accepts the entity and lists the column `Name` twice. -/
theorem init_accepts_duplicate_column :
    TableSchema.init id String.length defaultRegistry shadowedNameEntity = .ok shadowedNameSchema ∧
    shadowedNameSchema.columnNames = ["ID", "Name", "Name"] := by
  refine ⟨init_shadowedNameEntity, ?_⟩
  rw [shadowedNameSchema, TableSchema.init, extractTags_shadowedNameEntity,
    buildTableFields_shadowedNameEntity]
  decide

/-- An entity whose soft-delete field opens an anonymous embedded struct. -/
def embeddedSoftDeleteEntity : GoType :=
  .struct "main.Note" "Note"
    [ormField, idField, ⟨"Soft", true, [], .struct "main.Soft" "Soft"
      [⟨"FakeDelete", false, [], .basic "bool"⟩, ⟨"Title", false, [], .basic "string"⟩]⟩]

/-- The schema `init` builds for `embeddedSoftDeleteEntity`. -/
def embeddedSoftDeleteSchema : TableSchema :=
  (TableSchema.init id String.length defaultRegistry embeddedSoftDeleteEntity).value?.getD default

theorem buildTableFields_embeddedSoftDeleteEntity :
    TableSchema.buildTableFields embeddedSoftDeleteEntity defaultRegistry 1 "" [] {} =
      .ok ({ t := embeddedSoftDeleteEntity
             fields := [(1, idField), (2, embeddedSoftDeleteEntity.fields.getD 2 zeroField)]
             keyPrefix := "", uintegers := [1], structs := [2]
             structsFields :=
               [{ t := (embeddedSoftDeleteEntity.fields.getD 2 zeroField).type
                  fields := [(0, ⟨"FakeDelete", false, [], .basic "bool"⟩),
                    (1, ⟨"Title", false, [], .basic "string"⟩)]
                  keyPrefix := "", strings := [1], structsFields := [] }] },
        { mapBindToScanPointer := [("ID", .uint64Pointer), ("Title", .nullStringPointer)]
          mapPointerToValue := [("ID", .uint64Value), ("Title", .nullStringValue)] }) := rfl

/-- The case the hypothesis `softDeleteNotFirst` leaves out: `FieldByName`
finds the embedded `FakeDelete`, so the schema has soft delete, but the field
stands at index 0 of its struct and `buildColumnNames` keeps the soft-delete
column only at an index above 0, so the column is missing. -/
theorem init_drops_leading_soft_delete_column :
    embeddedSoftDeleteEntity.softDeleteNotFirst = false ∧
    TableSchema.init id String.length defaultRegistry embeddedSoftDeleteEntity =
      .ok embeddedSoftDeleteSchema ∧
    embeddedSoftDeleteSchema.hasFakeDelete = true ∧
    embeddedSoftDeleteSchema.fields.declaredColumns "" = ["ID", "FakeDelete", "Title"] ∧
    embeddedSoftDeleteSchema.columnNames = ["ID", "Title"] := by
  have tags : extractTags defaultRegistry embeddedSoftDeleteEntity "" = [] := by decide
  have initialised : TableSchema.init id String.length defaultRegistry embeddedSoftDeleteEntity =
      .ok embeddedSoftDeleteSchema := by
    rw [embeddedSoftDeleteSchema, TableSchema.init, tags, buildTableFields_embeddedSoftDeleteEntity]
    rfl
  refine ⟨by decide, initialised, ?_⟩
  rw [embeddedSoftDeleteSchema, TableSchema.init, tags, buildTableFields_embeddedSoftDeleteEntity]
  decide

/-! ## The column mapping -/

theorem getElem?_append_singleton_of_ne {names : List String} {last name : String}
    (other : last ≠ name) (j : Nat) :
    (names ++ [last])[j]? = some name ↔ names[j]? = some name := by
  rw [List.getElem?_append]
  split
  · rfl
  · rename_i beyond
    rw [(List.getElem?_eq_none (by omega) : names[j]? = none)]
    cases h : j - names.length <;> simp [other]

/-- The loop of `init` over the column names maps each name to the last index it
takes. -/
theorem get?_foldl_columnMapping (names : List String) (name : String) (i : Nat) :
    GoMap.get? (names.enum.foldl (fun mapping entry => GoMap.set mapping entry.2 entry.1) [])
        name = some i ↔
      names[i]? = some name ∧ ∀ j, i < j → names[j]? ≠ some name := by
  induction names using List.reverseRecOn generalizing i with
  | nil => simp
  | append_singleton names last induction =>
      rw [List.enum_append, List.foldl_append, List.enumFrom_singleton, List.foldl_cons,
        List.foldl_nil, GoMap.get?_set]
      by_cases same : last = name
      · subst same
        rw [if_pos rfl, Option.some.injEq]
        constructor
        · rintro rfl
          refine ⟨List.getElem?_concat_length _ _, fun j later => ?_⟩
          rw [List.getElem?_eq_none (by simp; omega)]
          exact Option.noConfusion
        · rintro ⟨found, latest⟩
          have within : i < names.length + 1 := by simpa using (List.getElem?_eq_some_iff.1 found).1
          by_contra different
          exact latest names.length (by omega) (List.getElem?_concat_length _ _)
      · rw [if_neg same, induction, getElem?_append_singleton_of_ne same]
        simp only [ne_eq, getElem?_append_singleton_of_ne same]

/-- The same loop maps exactly the names. -/
theorem isSome_get?_foldl_columnMapping (names : List String) (name : String) :
    (GoMap.get? (names.enum.foldl (fun mapping entry => GoMap.set mapping entry.2 entry.1) [])
        name).isSome ↔ name ∈ names := by
  induction names using List.reverseRecOn with
  | nil => simp
  | append_singleton names last induction =>
      rw [List.enum_append, List.foldl_append, List.enumFrom_singleton, List.foldl_cons,
        List.foldl_nil, GoMap.get?_set]
      by_cases same : last = name <;> simp [same, induction, Ne.symm]

/-- The `columnMapping` of a schema `init` built maps exactly its column names,
each to the last position at which it stands among the columns; so with
distinct names it inverts `columnNames`. -/
theorem init_columnMapping_last_position
    (initialised : TableSchema.init sha256Hex fnv32a registry entityType = .ok schema)
    (name : String) (i : Nat) :
    ((GoMap.get? schema.columnMapping name).isSome ↔ name ∈ schema.columnNames) ∧
      (GoMap.get? schema.columnMapping name = some i ↔
        schema.columnNames[i]? = some name ∧ ∀ j, i < j → schema.columnNames[j]? ≠ some name) := by
  rw [(TableSchema.init_eq_ok initialised).columnMapping]
  exact ⟨isSome_get?_foldl_columnMapping _ _, get?_foldl_columnMapping _ _ _⟩

/-- The repeated column `Name` maps to its second position. -/
theorem shadowedNameSchema_columnMapping :
    TableSchema.init id String.length defaultRegistry shadowedNameEntity = .ok shadowedNameSchema ∧
    ((GoMap.get? shadowedNameSchema.columnMapping "Name").isSome ↔
        "Name" ∈ shadowedNameSchema.columnNames) ∧
      (GoMap.get? shadowedNameSchema.columnMapping "Name" = some 2 ↔
        shadowedNameSchema.columnNames[2]? = some "Name" ∧
          ∀ j, 2 < j → shadowedNameSchema.columnNames[j]? ≠ some "Name") :=
  ⟨init_shadowedNameEntity, init_columnMapping_last_position init_shadowedNameEntity "Name" 2⟩

example : GoMap.get? shadowedNameSchema.columnMapping "Name" = some 2 := by
  rw [shadowedNameSchema, TableSchema.init, extractTags_shadowedNameEntity,
    buildTableFields_shadowedNameEntity]
  decide

end BeeOrm
