import BeeOrm.Schema.Init

/-! The cached queries of the schemas `init` builds: which columns each is
invalidated on (its tracked fields and their union
`cachedIndexesTrackedFields`), and which of them `validateIndexes` lets through. -/

namespace BeeOrm

variable {hasFakeDelete : Bool}

theorem mem_keys_foldl_track (names : List String) (tracked : List (String × Bool))
    (name : String) :
    name ∈ GoMap.keys (names.foldl (fun tracked name => GoMap.set tracked name true) tracked) ↔
      name ∈ GoMap.keys tracked ∨ name ∈ names := by
  induction names generalizing tracked with
  | nil => simp
  | cons first rest induction =>
      simp only [List.foldl_cons, induction, GoMap.mem_keys_set, List.mem_cons]
      tauto

/-- The cached queries collected from some tags were compiled from the
templates of those tags. -/
theorem collectCachedQuery_fromTags (tags : List (String × FieldTags)) (collected : CachedQueries)
    (fromTags : ∀ key definition, GoMap.get? collected.cachedQueriesAll key = some definition →
      ∃ values queryOrigin isOne, (key, values) ∈ tags ∧
        cachedQueryTemplate values = some (queryOrigin, isOne) ∧
        definition = compileCachedQuery hasFakeDelete isOne queryOrigin)
    (entries : List (String × FieldTags)) (within : ∀ entry ∈ entries, entry ∈ tags) :
    ∀ key definition,
      GoMap.get? (entries.foldl (collectCachedQuery hasFakeDelete) collected).cachedQueriesAll key =
        some definition →
      ∃ values queryOrigin isOne, (key, values) ∈ tags ∧
        cachedQueryTemplate values = some (queryOrigin, isOne) ∧
        definition = compileCachedQuery hasFakeDelete isOne queryOrigin := by
  induction entries generalizing collected with
  | nil => exact fromTags
  | cons entry rest induction =>
      refine induction _ ?_ fun entry member => within entry (List.mem_cons_of_mem _ member)
      obtain ⟨entryKey, values⟩ := entry
      intro key definition found
      rw [collectCachedQuery_cachedQueriesAll] at found
      split at found
      · rename_i queryOrigin isOne template
        rw [GoMap.get?_set] at found
        split at found
        · cases found
          subst key
          exact ⟨values, queryOrigin, isOne, within _ (List.mem_cons_self _ _), template, rfl⟩
        · exact fromTags key definition found
      · exact fromTags key definition found

/-- The tracked-field map collected from some tags holds the tracked fields of
the templates of those tags, and nothing else. -/
theorem collectCachedQuery_tracked (collected : CachedQueries)
    (entries : List (String × FieldTags)) (name : String) :
    name ∈ GoMap.keys
        (entries.foldl (collectCachedQuery hasFakeDelete) collected).cachedQueriesTrackedFields ↔
      name ∈ GoMap.keys collected.cachedQueriesTrackedFields ∨
        ∃ key values queryOrigin isOne, (key, values) ∈ entries ∧
          cachedQueryTemplate values = some (queryOrigin, isOne) ∧
          name ∈ (compileCachedQuery hasFakeDelete isOne queryOrigin).trackedFields := by
  induction entries generalizing collected with
  | nil => simp
  | cons entry rest induction =>
      obtain ⟨key, values⟩ := entry
      have step : name ∈ GoMap.keys
            (collectCachedQuery hasFakeDelete collected (key, values)).cachedQueriesTrackedFields ↔
          name ∈ GoMap.keys collected.cachedQueriesTrackedFields ∨
            ∃ queryOrigin isOne, cachedQueryTemplate values = some (queryOrigin, isOne) ∧
              name ∈ (compileCachedQuery hasFakeDelete isOne queryOrigin).trackedFields := by
        rw [collectCachedQuery_cachedQueriesTrackedFields]
        split
        · rename_i queryOrigin isOne template
          simp only [template, mem_keys_foldl_track, Option.some.injEq, Prod.mk.injEq, and_assoc,
            exists_and_left, exists_eq_left']
        · simp_all
      rw [List.foldl_cons, induction, step]
      simp only [List.mem_cons, Prod.mk.injEq, or_and_right, exists_or, and_assoc,
        exists_and_left, exists_eq_left, or_assoc]

variable {sha256Hex : String → String} {fnv32a : String → Nat} {registry : Registry}
  {entityType : GoType} {schema : TableSchema}

/-- What the cached queries of a schema track. Each cached query was compiled
from the template of one of the schema's tags, and tracks the placeholder
columns of that template other than `ID`, and `FakeDelete` only when the schema
has soft delete and the template has a placeholder, while its final query starts
with the soft-delete filter whenever the schema has soft delete.
`cachedIndexesTrackedFields` is the union of the tracked fields of all
templates. -/
structure TracksPlaceholders (schema : TableSchema) : Prop where
  fromTemplate : ∀ key definition, GoMap.get? schema.cachedIndexesAll key = some definition →
    ∃ values queryOrigin isOne, (key, values) ∈ schema.tags ∧
      cachedQueryTemplate values = some (queryOrigin, isOne) ∧
      (∀ name, name ∈ definition.trackedFields ↔ name ≠ "ID" ∧
        (name ∈ placeholderNames queryOrigin ∨
          name = "FakeDelete" ∧ schema.hasFakeDelete = true ∧ placeholderNames queryOrigin ≠ [])) ∧
      (schema.hasFakeDelete = true → "`FakeDelete` = 0 ".data <+: definition.query.data)
  union : ∀ name, name ∈ GoMap.keys schema.cachedIndexesTrackedFields ↔
    ∃ key values queryOrigin isOne, (key, values) ∈ schema.tags ∧
      cachedQueryTemplate values = some (queryOrigin, isOne) ∧
      name ∈ (compileCachedQuery schema.hasFakeDelete isOne queryOrigin).trackedFields

/-- Every schema `init` builds tracks the placeholders of its templates. -/
theorem init_cachedQueries_track_placeholders
    (initialised : TableSchema.init sha256Hex fnv32a registry entityType = .ok schema) :
    TracksPlaceholders schema := by
  have ok := TableSchema.init_eq_ok initialised
  constructor
  · intro key definition found
    rw [ok.cachedIndexesAll] at found
    obtain ⟨values, queryOrigin, isOne, member, template, rfl⟩ :=
      collectCachedQuery_fromTags schema.tags {} (by simp [GoMap.get?]) schema.tags
        (fun _ member => member) key definition found
    refine ⟨values, queryOrigin, isOne, member, template,
      mem_compileCachedQuery_trackedFields _ _ _, fun soft => ?_⟩
    rw [soft]
    exact compileCachedQuery_query_prefix isOne queryOrigin
  · intro name
    rw [ok.cachedIndexesTrackedFields, collectCachedQuery_tracked]
    simp [GoMap.keys]

/-- A soft-delete entity with a cached query on an empty template and one on
the placeholder `:Name`, and an index over `FakeDelete` and `Name` serving both,
so that `init` accepts it. -/
def softDeleteDefaultQueryEntity : GoType :=
  .struct "main.Item" "Item"
    [ormField, idField, ⟨"Name", false, [("orm", "index=NameIndex:2")], .basic "string"⟩,
      ⟨"FakeDelete", false, [("orm", "index=NameIndex:1")], .basic "bool"⟩,
      ⟨"All", false, [("query", "")], .pointer "beeorm.CachedQuery" false []⟩,
      ⟨"ByName", false, [("query", ":Name = ?")], .pointer "beeorm.CachedQuery" false []⟩]

theorem extractTags_softDeleteDefaultQueryEntity :
    extractTags defaultRegistry softDeleteDefaultQueryEntity "" =
      [("Name", [("index", "NameIndex:2")]), ("FakeDelete", [("index", "NameIndex:1")]),
        ("All", [("query", "")]), ("ByName", [("query", ":Name = ?")])] := by decide

theorem buildTableFields_softDeleteDefaultQueryEntity :
    TableSchema.buildTableFields softDeleteDefaultQueryEntity defaultRegistry 1 ""
      [("Name", [("index", "NameIndex:2")]), ("FakeDelete", [("index", "NameIndex:1")]),
        ("All", [("query", "")]), ("ByName", [("query", ":Name = ?")])] {} =
      .ok ({ t := softDeleteDefaultQueryEntity
             fields := [(1, idField), (2, softDeleteDefaultQueryEntity.fields.getD 2 zeroField),
               (3, softDeleteDefaultQueryEntity.fields.getD 3 zeroField),
               (4, softDeleteDefaultQueryEntity.fields.getD 4 zeroField),
               (5, softDeleteDefaultQueryEntity.fields.getD 5 zeroField)]
             keyPrefix := "", uintegers := [1], strings := [2], fakeDelete := 3, structsFields := [] },
        { mapBindToScanPointer := [("ID", .uint64Pointer), ("Name", .nullStringPointer)]
          mapPointerToValue := [("ID", .uint64Value), ("Name", .nullStringValue)] }) := rfl

/-- The schema `init` builds for `softDeleteDefaultQueryEntity`. -/
def softDeleteDefaultQuerySchema : TableSchema :=
  (TableSchema.init id String.length defaultRegistry softDeleteDefaultQueryEntity).value?.getD
    default

theorem init_softDeleteDefaultQueryEntity :
    TableSchema.init id String.length defaultRegistry softDeleteDefaultQueryEntity =
      .ok softDeleteDefaultQuerySchema := by
  rw [softDeleteDefaultQuerySchema, TableSchema.init, extractTags_softDeleteDefaultQueryEntity,
    buildTableFields_softDeleteDefaultQueryEntity]
  rfl

theorem softDeleteDefaultQuerySchema_tracksPlaceholders :
    TableSchema.init id String.length defaultRegistry softDeleteDefaultQueryEntity =
      .ok softDeleteDefaultQuerySchema ∧ TracksPlaceholders softDeleteDefaultQuerySchema :=
  ⟨init_softDeleteDefaultQueryEntity,
    init_cachedQueries_track_placeholders init_softDeleteDefaultQueryEntity⟩

/-- `init` accepts the entity, and its default cached query reads `FakeDelete`
without tracking it. -/
theorem init_default_query_leaves_fake_delete_untracked :
    TableSchema.init id String.length defaultRegistry softDeleteDefaultQueryEntity =
      .ok softDeleteDefaultQuerySchema ∧
    (GoMap.get? softDeleteDefaultQuerySchema.cachedIndexesAll "All").map
        (fun definition => (definition.query, definition.trackedFields)) =
      some ("`FakeDelete` = 0 ORDER BY `ID`", []) := by
  refine ⟨init_softDeleteDefaultQueryEntity, ?_⟩
  rw [softDeleteDefaultQuerySchema, TableSchema.init, extractTags_softDeleteDefaultQueryEntity,
    buildTableFields_softDeleteDefaultQueryEntity]
  decide

/-- An entity with placeholders `:NameFull` and `:Name`, and an index serving
its cached query. -/
def placeholderPrefixEntity : GoType :=
  .struct "main.Person" "Person"
    [ormField, idField, ⟨"Name", false, [("orm", "index=NameIndex:2")], .basic "string"⟩,
      ⟨"NameFull", false, [("orm", "index=NameIndex:1")], .basic "string"⟩,
      ⟨"ByName", false, [("query", ":NameFull = ? ORDER BY :Name")],
        .pointer "beeorm.CachedQuery" false []⟩]

/-- `strings.Index(queryOrigin, ":"+f)` finds `:Name` inside the longer
placeholder `:NameFull`, so `init` files `Name`, which occurs only after
`ORDER BY`, as a filter column as well as an order column. -/
theorem init_longer_placeholder_files_filter :
    ((TableSchema.init id String.length defaultRegistry placeholderPrefixEntity).value?.map
        fun schema => (GoMap.get? schema.cachedIndexes "ByName").map
          fun definition => (definition.queryFields, definition.orderFields)) =
      some (some (["NameFull", "Name"], ["Name"])) := by
  have tags : extractTags defaultRegistry placeholderPrefixEntity "" =
      [("Name", [("index", "NameIndex:2")]), ("NameFull", [("index", "NameIndex:1")]),
        ("ByName", [("query", ":NameFull = ? ORDER BY :Name")])] := by decide
  have built : TableSchema.buildTableFields placeholderPrefixEntity defaultRegistry 1 ""
      [("Name", [("index", "NameIndex:2")]), ("NameFull", [("index", "NameIndex:1")]),
        ("ByName", [("query", ":NameFull = ? ORDER BY :Name")])] {} =
      .ok ({ t := placeholderPrefixEntity
             fields := [(1, idField), (2, placeholderPrefixEntity.fields.getD 2 zeroField),
               (3, placeholderPrefixEntity.fields.getD 3 zeroField),
               (4, placeholderPrefixEntity.fields.getD 4 zeroField)]
             keyPrefix := "", uintegers := [1], strings := [2, 3], structsFields := [] },
        { mapBindToScanPointer :=
            [("ID", .uint64Pointer), ("Name", .nullStringPointer), ("NameFull", .nullStringPointer)]
          mapPointerToValue :=
            [("ID", .uint64Value), ("Name", .nullStringValue), ("NameFull", .nullStringValue)] }) :=
    rfl
  rw [TableSchema.init, tags, built]
  decide

/-- A soft-delete entity with a cached query on an empty template and no index. -/
def softDeleteUnindexedEntity : GoType :=
  .struct "main.Item" "Item"
    [ormField, idField, ⟨"FakeDelete", false, [], .basic "bool"⟩,
      ⟨"All", false, [("query", "")], .pointer "beeorm.CachedQuery" false []⟩]

/-- The default template of a soft-delete entity has neither filter nor order
columns, yet `init` rejects the entity for want of an index serving it: only
the default query of an entity without soft delete is let through. -/
theorem init_rejects_soft_delete_default_query :
    (compileCachedQuery true false "").queryFields = [] ∧
    (compileCachedQuery true false "").orderFields = [] ∧
    (TableSchema.init id String.length defaultRegistry softDeleteUnindexedEntity).error? =
      some "missing index for cached query 'All' in main.Item" := by
  have tags : extractTags defaultRegistry softDeleteUnindexedEntity "" =
      [("All", [("query", "")])] := by decide
  have built : TableSchema.buildTableFields softDeleteUnindexedEntity defaultRegistry 1 ""
      [("All", [("query", "")])] {} =
      .ok ({ t := softDeleteUnindexedEntity
             fields := [(1, idField), (2, ⟨"FakeDelete", false, [], .basic "bool"⟩),
               (3, ⟨"All", false, [("query", "")], .pointer "beeorm.CachedQuery" false []⟩)]
             keyPrefix := "", uintegers := [1], fakeDelete := 2, structsFields := [] },
        { mapBindToScanPointer := [("ID", .uint64Pointer)]
          mapPointerToValue := [("ID", .uint64Value)] }) := rfl
  refine ⟨by decide, by decide, ?_⟩
  rw [TableSchema.init, tags, built]
  decide

end BeeOrm
