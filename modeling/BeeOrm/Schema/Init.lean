import BeeOrm.Schema.ColumnNames
import BeeOrm.Schema.Indexes

/-! `tableSchema.init`: the schema of one entity type, built from its tags by the
passes of the other modules, with the pool checks, the cached queries, the
index declarations and the cache-key prefix. `Initialised` collects what a
successful `init` establishes, field by field; the last sections run `init` on
entities it checks wrongly or cannot read. -/

namespace BeeOrm

/-- How a Go call returning an `error` ends: a value with a nil error, a
non-nil error, or a panic. -/
inductive GoResult (α : Type) where
  | ok (value : α)
  | error (message : String)
  | panic (message : String)
deriving DecidableEq, Repr

/-- The value of a call that returned a nil error. -/
def GoResult.value? {α : Type} : GoResult α → Option α
  | .ok value => some value
  | _ => none

/-- The message of a call that returned a non-nil error. -/
def GoResult.error? {α : Type} : GoResult α → Option String
  | .error message => some message
  | _ => none

/-- The value of a call that panicked. -/
def GoResult.panic? {α : Type} : GoResult α → Option String
  | .panic message => some message
  | _ => none

/-- The `tableSchema` fields `init` sets. -/
structure TableSchema where
  tableName : String
  mysqlPoolName : String
  t : GoType
  fields : TableFields
  fieldsQuery : String
  tags : SchemaTags
  cachedIndexes : List (String × CachedQueryDefinition)
  cachedIndexesOne : List (String × CachedQueryDefinition)
  cachedIndexesAll : List (String × CachedQueryDefinition)
  cachedIndexesTrackedFields : List (String × Bool)
  columnNames : List String
  columnMapping : List (String × Nat)
  uniqueIndices : List (String × List String)
  uniqueIndicesGlobal : List (String × List String)
  refOne : List String
  localCacheName : String
  hasLocalCache : Bool
  redisCacheName : String
  hasRedisCache : Bool
  cachePrefix : String
  structureHash : Nat
  hasFakeDelete : Bool
  hasSearchableFakeDelete : Bool
  hasUUID : Bool
  mapBindToScanPointer : List (String × ScanPointer)
  mapPointerToValue : List (String × PointerToValue)
deriving Inhabited

/-- What `init`'s loop over the tags collects. -/
structure CachedQueries where
  cachedQueries : List (String × CachedQueryDefinition) := []
  cachedQueriesOne : List (String × CachedQueryDefinition) := []
  cachedQueriesAll : List (String × CachedQueryDefinition) := []
  cachedQueriesTrackedFields : List (String × Bool) := []
  oneRefs : List String := []

/-- The template of a field's tags: its `query` tag, or failing that its
`queryOne` tag, with whether it is the single-row kind. -/
def cachedQueryTemplate (values : FieldTags) : Option (String × Bool) :=
  match GoMap.get? values "query" with
  | some query => some (query, false)
  | none => (GoMap.get? values "queryOne").map (·, true)

/-- One round of `init`'s loop over the tags: a template is compiled, and a
`ref` marker records the key. -/
def collectCachedQuery (hasFakeDelete : Bool) (collected : CachedQueries)
    (entry : String × FieldTags) : CachedQueries :=
  let (key, values) := entry
  let collected := match cachedQueryTemplate values with
    | some (query, isOne) =>
        let definition := compileCachedQuery hasFakeDelete isOne query
        let collected := if isOne then
            { collected with cachedQueriesOne := GoMap.set collected.cachedQueriesOne key definition }
          else { collected with cachedQueries := GoMap.set collected.cachedQueries key definition }
        { collected with
          cachedQueriesAll := GoMap.set collected.cachedQueriesAll key definition
          cachedQueriesTrackedFields := definition.trackedFields.foldl
            (fun tracked name => GoMap.set tracked name true)
            collected.cachedQueriesTrackedFields }
    | none => collected
  if (GoMap.get? values "ref").isSome then
    { collected with oneRefs := collected.oneRefs ++ [key] }
  else collected

theorem collectCachedQuery_cachedQueriesAll (hasFakeDelete : Bool) (collected : CachedQueries)
    (key : String) (values : FieldTags) :
    (collectCachedQuery hasFakeDelete collected (key, values)).cachedQueriesAll =
      match cachedQueryTemplate values with
      | some (query, isOne) =>
          GoMap.set collected.cachedQueriesAll key (compileCachedQuery hasFakeDelete isOne query)
      | none => collected.cachedQueriesAll := by
  simp only [collectCachedQuery]
  split <;> split <;> (try split) <;> rfl

theorem collectCachedQuery_cachedQueriesTrackedFields (hasFakeDelete : Bool)
    (collected : CachedQueries) (key : String) (values : FieldTags) :
    (collectCachedQuery hasFakeDelete collected (key, values)).cachedQueriesTrackedFields =
      match cachedQueryTemplate values with
      | some (query, isOne) => (compileCachedQuery hasFakeDelete isOne query).trackedFields.foldl
          (fun tracked name => GoMap.set tracked name true) collected.cachedQueriesTrackedFields
      | none => collected.cachedQueriesTrackedFields := by
  simp only [collectCachedQuery]
  split <;> split <;> (try split) <;> rfl

/-- The string `init` hashes into the cache-key prefix: the pool name unless it
is `default`, the table name and the `fieldsQuery` of the column layout. -/
def cachePrefixSource (mysqlPoolName tableName fieldsQuery : String) : String :=
  (if mysqlPoolName ≠ "default" then mysqlPoolName else "") ++ tableName ++ fieldsQuery

/-- `tableSchema.init(registry, entityType)`. `sha256Hex` is the `%x` rendering
of `sha256.Sum256` and `fnv32a` the `fnv.New32a` sum, which are not modelled. -/
def TableSchema.init (sha256Hex : String → String) (fnv32a : String → Nat)
    (registry : Registry) (entityType : GoType) : GoResult TableSchema :=
  let tags := extractTags registry entityType ""
  let mysqlPoolName := tags.getTag "mysql" "default" "default"
  if mysqlPoolName ∉ registry.mysqlPools then
    .error s!"mysql pool '{mysqlPoolName}' not found"
  else
  let tableName := tags.getTag "table" entityType.name entityType.name
  let localCache := tags.getTag "localCache" "default" ""
  let redisCache := tags.getTag "redisCache" "default" ""
  if localCache ≠ "" ∧ localCache ∉ registry.localCachePools then
    .error s!"local cache pool '{localCache}' not found"
  else if redisCache ≠ "" ∧ redisCache ∉ registry.mysqlPools then
    .error s!"redis pool '{redisCache}' not found"
  else
  let hasFakeDelete :=
    (entityType.fieldByName "FakeDelete").any (·.type.string = "bool")
  let hasSearchableFakeDelete :=
    hasFakeDelete && lookupTag tags "FakeDelete" "searchable" = some "true"
  let collected := tags.foldl (collectCachedQuery hasFakeDelete) {}
  match registry.plugins.findSome? (fun plugin => plugin entityType tags) with
  | some message => .error message
  | none =>
  let hasUUID := tags.getTag "uuid" "true" "false" = "true"
  if hasUUID ∧ (entityType.fieldByName "ID").any (·.type.string ≠ "uint64") then
    .error s!"entity {entityType.string} with uuid enabled must be unit64"
  else
  match parseIndexes tags collected.oneRefs with
  | .error message => .panic message
  | .ok declarations =>
  match TableSchema.buildTableFields entityType registry 1 "" tags {} with
  | .error message => .panic message
  | .ok (fields, adapters) =>
  let (columnNames, fieldsQuery) := fields.buildColumnNames ""
  let columnMapping := columnNames.enum.foldl
    (fun mapping entry => GoMap.set mapping entry.2 entry.1) []
  let cachePrefix :=
    String.mk ((sha256Hex (cachePrefixSource mysqlPoolName tableName fieldsQuery)).data.take 5)
  let schema : TableSchema :=
    { tableName, mysqlPoolName, t := entityType, fields, fieldsQuery, tags
      cachedIndexes := collected.cachedQueries
      cachedIndexesOne := collected.cachedQueriesOne
      cachedIndexesAll := collected.cachedQueriesAll
      cachedIndexesTrackedFields := collected.cachedQueriesTrackedFields
      columnNames, columnMapping
      uniqueIndices := declarations.uniqueIndicesSimple
      uniqueIndicesGlobal := declarations.uniqueIndicesSimpleGlobal
      refOne := collected.oneRefs
      localCacheName := localCache, hasLocalCache := localCache ≠ ""
      redisCacheName := redisCache, hasRedisCache := redisCache ≠ ""
      cachePrefix, structureHash := fnv32a cachePrefix
      hasFakeDelete, hasSearchableFakeDelete, hasUUID
      mapBindToScanPointer := adapters.mapBindToScanPointer
      mapPointerToValue := adapters.mapPointerToValue }
  match validateIndexes entityType.string collected.cachedQueriesOne
      collected.cachedQueries declarations.uniqueIndices declarations.indices with
  | .error message => .error message
  | .ok () => .ok schema

/-- The embedded `beeorm.ORM` field that opens every entity struct. -/
def ormField : StructField := ⟨"ORM", true, [], .struct "beeorm.ORM" "ORM" []⟩

/-- The `ID uint64` field that follows it. -/
def idField : StructField := ⟨"ID", false, [], .basic "uint64"⟩

/-- The embedded `beeorm.ORM` field with the entity-level `orm` tag `tag`. -/
def taggedOrmField (tag : String) : StructField :=
  ⟨"ORM", true, [("orm", tag)], .struct "beeorm.ORM" "ORM" []⟩

/-- A registry with the default MySQL pool and nothing else. -/
def defaultRegistry : Registry :=
  { mysqlPools := ["default"], localCachePools := [], redisPools := [], entities := [],
    enums := [], plugins := [] }

/-- `tableSchema.getCacheKey(id)`. -/
def TableSchema.getCacheKey (schema : TableSchema) (id : Nat) : String :=
  schema.cachePrefix ++ ":" ++ toString id

namespace TableSchema

/-- What a successful `init` establishes about the schema it returns: every
check passed, every pass ran without a panic, and each field holds what its pass
computed from the fields before it. -/
structure Initialised (sha256Hex : String → String) (fnv32a : String → Nat)
    (registry : Registry) (entityType : GoType) (schema : TableSchema) : Prop where
  type : schema.t = entityType
  tags : schema.tags = extractTags registry entityType ""
  mysqlPoolName : schema.mysqlPoolName = schema.tags.getTag "mysql" "default" "default"
  mysqlPoolRegistered : schema.mysqlPoolName ∈ registry.mysqlPools
  tableName : schema.tableName = schema.tags.getTag "table" entityType.name entityType.name
  localCacheName : schema.localCacheName = schema.tags.getTag "localCache" "default" ""
  hasLocalCache : schema.hasLocalCache = decide (schema.localCacheName ≠ "")
  /-- A local cache is looked up among the local cache pools. -/
  localCachePoolRegistered :
    schema.hasLocalCache = true → schema.localCacheName ∈ registry.localCachePools
  redisCacheName : schema.redisCacheName = schema.tags.getTag "redisCache" "default" ""
  hasRedisCache : schema.hasRedisCache = decide (schema.redisCacheName ≠ "")
  /-- A Redis cache is looked up among the MySQL pools. -/
  redisCachePoolChecked :
    schema.hasRedisCache = true → schema.redisCacheName ∈ registry.mysqlPools
  hasFakeDelete :
    schema.hasFakeDelete = (entityType.fieldByName "FakeDelete").any (·.type.string = "bool")
  hasSearchableFakeDelete : schema.hasSearchableFakeDelete =
    (schema.hasFakeDelete && lookupTag schema.tags "FakeDelete" "searchable" = some "true")
  cachedIndexes : schema.cachedIndexes =
    (schema.tags.foldl (collectCachedQuery schema.hasFakeDelete) {}).cachedQueries
  cachedIndexesOne : schema.cachedIndexesOne =
    (schema.tags.foldl (collectCachedQuery schema.hasFakeDelete) {}).cachedQueriesOne
  cachedIndexesAll : schema.cachedIndexesAll =
    (schema.tags.foldl (collectCachedQuery schema.hasFakeDelete) {}).cachedQueriesAll
  cachedIndexesTrackedFields : schema.cachedIndexesTrackedFields =
    (schema.tags.foldl (collectCachedQuery schema.hasFakeDelete) {}).cachedQueriesTrackedFields
  refOne : schema.refOne = (schema.tags.foldl (collectCachedQuery schema.hasFakeDelete) {}).oneRefs
  /-- No plugin rejected the entity. -/
  plugins : registry.plugins.findSome? (fun plugin => plugin entityType schema.tags) = none
  hasUUID : schema.hasUUID = decide (schema.tags.getTag "uuid" "true" "false" = "true")
  /-- With UUIDs on, the `ID` field `FieldByName` finds is a `uint64`. -/
  uuidChecked :
    schema.hasUUID = true → (entityType.fieldByName "ID").any (·.type.string ≠ "uint64") = false
  indexes : ∃ declarations, parseIndexes schema.tags schema.refOne = .ok declarations ∧
    validateIndexes entityType.string schema.cachedIndexesOne schema.cachedIndexes
      declarations.uniqueIndices declarations.indices = .ok () ∧
    schema.uniqueIndices = declarations.uniqueIndicesSimple ∧
    schema.uniqueIndicesGlobal = declarations.uniqueIndicesSimpleGlobal
  fields : ∃ adapters,
    buildTableFields entityType registry 1 "" schema.tags {} = .ok (schema.fields, adapters) ∧
    schema.mapBindToScanPointer = adapters.mapBindToScanPointer ∧
    schema.mapPointerToValue = adapters.mapPointerToValue
  columnNames : schema.columnNames = (schema.fields.buildColumnNames "").1
  fieldsQuery : schema.fieldsQuery = (schema.fields.buildColumnNames "").2
  columnMapping : schema.columnMapping =
    schema.columnNames.enum.foldl (fun mapping entry => GoMap.set mapping entry.2 entry.1) []
  cachePrefix : schema.cachePrefix = String.mk ((sha256Hex (cachePrefixSource schema.mysqlPoolName
    schema.tableName schema.fieldsQuery)).data.take 5)
  structureHash : schema.structureHash = fnv32a schema.cachePrefix

variable {sha256Hex : String → String} {fnv32a : String → Nat} {registry : Registry}
  {entityType : GoType} {schema : TableSchema}

/-- Every schema `init` returns is one it `Initialised`. -/
theorem init_eq_ok (initialised : init sha256Hex fnv32a registry entityType = .ok schema) :
    Initialised sha256Hex fnv32a registry entityType schema := by
  simp only [init] at initialised
  split at initialised
  · cases initialised
  rename_i poolRegistered
  split at initialised
  · cases initialised
  rename_i localChecked
  split at initialised
  · cases initialised
  rename_i redisChecked
  split at initialised
  · cases initialised
  rename_i pluginsAccepted
  split at initialised
  · cases initialised
  rename_i uuidChecked
  split at initialised
  · cases initialised
  rename_i declarations parsed
  split at initialised
  · cases initialised
  rename_i fields adapters built
  split at initialised
  · cases initialised
  rename_i validated
  cases initialised
  exact
    { type := rfl, tags := rfl, mysqlPoolName := rfl
      mysqlPoolRegistered := not_not.mp poolRegistered
      tableName := rfl, localCacheName := rfl, hasLocalCache := rfl
      localCachePoolRegistered := fun has =>
        not_not.mp fun absent => localChecked ⟨of_decide_eq_true has, absent⟩
      redisCacheName := rfl, hasRedisCache := rfl
      redisCachePoolChecked := fun has =>
        not_not.mp fun absent => redisChecked ⟨of_decide_eq_true has, absent⟩
      hasFakeDelete := rfl, hasSearchableFakeDelete := rfl
      cachedIndexes := rfl, cachedIndexesOne := rfl, cachedIndexesAll := rfl
      cachedIndexesTrackedFields := rfl, refOne := rfl, plugins := pluginsAccepted
      hasUUID := rfl
      uuidChecked := fun uuid => by
        simpa using fun idOther => uuidChecked ⟨of_decide_eq_true uuid, idOther⟩
      indexes := ⟨declarations, parsed, validated, rfl, rfl⟩
      fields := ⟨adapters, built, rfl, rfl⟩
      columnNames := rfl, fieldsQuery := rfl, columnMapping := rfl, cachePrefix := rfl
      structureHash := rfl }

end TableSchema

/-! ## The pool checks -/

/-- A registry with MySQL pools `default` and `search` and a Redis pool `cache`. -/
def redisPoolRegistry : Registry :=
  { mysqlPools := ["default", "search"], localCachePools := [], redisPools := ["cache"],
    entities := [], enums := [], plugins := [] }

/-- An entity cached in the Redis pool `cache`. -/
def redisCacheEntity : GoType :=
  .struct "main.Session" "Session" [taggedOrmField "redisCache=cache", idField]

/-- An entity cached in the pool `search`, which is a MySQL pool only. -/
def mysqlNamedCacheEntity : GoType :=
  .struct "main.Token" "Token" [taggedOrmField "redisCache=search", idField]

theorem extractTags_mysqlNamedCacheEntity :
    extractTags redisPoolRegistry mysqlNamedCacheEntity "" =
      [("ORM", [("redisCache", "search")])] := by decide

theorem buildTableFields_mysqlNamedCacheEntity :
    TableSchema.buildTableFields mysqlNamedCacheEntity redisPoolRegistry 1 ""
      [("ORM", [("redisCache", "search")])] {} =
      .ok ({ t := mysqlNamedCacheEntity, fields := [(1, idField)], keyPrefix := "",
             uintegers := [1], structsFields := [] },
        { mapBindToScanPointer := [("ID", .uint64Pointer)]
          mapPointerToValue := [("ID", .uint64Value)] }) := rfl

/-- The Redis pool of an entity is looked up among the MySQL pools: a
registered Redis pool is reported missing, and a MySQL pool is accepted as the
entity's Redis cache. -/
theorem init_checks_redis_pool_among_mysql_pools :
    (TableSchema.init id String.length redisPoolRegistry redisCacheEntity).error? =
      some "redis pool 'cache' not found" ∧
    ((TableSchema.init id String.length redisPoolRegistry mysqlNamedCacheEntity).value?.map
      fun schema => (schema.redisCacheName, schema.hasRedisCache)) = some ("search", true) := by
  constructor
  · rw [TableSchema.init]
    decide
  · rw [TableSchema.init, extractTags_mysqlNamedCacheEntity,
      buildTableFields_mysqlNamedCacheEntity]
    decide

/-! ## Malformed declarations -/

/-- A unique index declared on the entity without the `:` before its columns. -/
def uniqueWithoutColonEntity : GoType :=
  .struct "main.User" "User"
    [taggedOrmField "unique=Email", idField, ⟨"Email", false, [], .basic "string"⟩]

/-- A `decimal` column without the `,` before its scale. -/
def decimalWithoutCommaEntity : GoType :=
  .struct "main.Product" "Product"
    [ormField, idField, ⟨"Price", false, [("orm", "decimal=10")], .basic "float64"⟩]

/-- A float column whose precision is not a number. -/
def precisionNotNumberEntity : GoType :=
  .struct "main.Rate" "Rate"
    [ormField, idField, ⟨"Value", false, [("orm", "precision=high")], .basic "float64"⟩]

/-- A field-level unique index whose ordinal is not a number. -/
def ordinalNotNumberEntity : GoType :=
  .struct "main.Member" "Member"
    [ormField, idField, ⟨"Email", false, [("orm", "unique=Email:first")], .basic "string"⟩]

theorem extractTags_decimalWithoutCommaEntity :
    extractTags defaultRegistry decimalWithoutCommaEntity "" =
      [("Price", [("decimal", "10")])] := by decide

theorem extractTags_precisionNotNumberEntity :
    extractTags defaultRegistry precisionNotNumberEntity "" =
      [("Value", [("precision", "high")])] := by decide

theorem extractTags_ordinalNotNumberEntity :
    extractTags defaultRegistry ordinalNotNumberEntity "" =
      [("Email", [("unique", "Email:first")])] := by decide

theorem buildTableFields_precisionNotNumberEntity :
    TableSchema.buildTableFields precisionNotNumberEntity defaultRegistry 1 ""
      [("Value", [("precision", "high")])] {} =
      .ok ({ t := precisionNotNumberEntity
             fields := [(1, idField), (2, precisionNotNumberEntity.fields.getD 2 zeroField)]
             keyPrefix := "", uintegers := [1], floats := [2], floatsPrecision := [0],
             structsFields := [] },
        { mapBindToScanPointer := [("ID", .uint64Pointer), ("Value", .float64Pointer)]
          mapPointerToValue := [("ID", .uint64Value), ("Value", .float64Value)] }) := rfl

theorem buildTableFields_ordinalNotNumberEntity :
    TableSchema.buildTableFields ordinalNotNumberEntity defaultRegistry 1 ""
      [("Email", [("unique", "Email:first")])] {} =
      .ok ({ t := ordinalNotNumberEntity
             fields := [(1, idField), (2, ordinalNotNumberEntity.fields.getD 2 zeroField)]
             keyPrefix := "", uintegers := [1], strings := [2], structsFields := [] },
        { mapBindToScanPointer := [("ID", .uint64Pointer), ("Email", .nullStringPointer)]
          mapPointerToValue := [("ID", .uint64Value), ("Email", .nullStringValue)] }) := rfl

/-- `init` panics on an entity-level unique index without `:` and on a
`decimal` tag without `,`, and reads a precision or an ordinal that is not a
number as 0 and returns a schema. -/
theorem init_malformed_declarations :
    (TableSchema.init id String.length defaultRegistry uniqueWithoutColonEntity).panic? =
      some (indexOutOfRange 1 1) ∧
    (TableSchema.init id String.length defaultRegistry decimalWithoutCommaEntity).panic? =
      some (indexOutOfRange 1 1) ∧
    ((TableSchema.init id String.length defaultRegistry precisionNotNumberEntity).value?.map
      (·.fields.floatsPrecision)) = some [0] ∧
    ((parseIndexes (extractTags defaultRegistry ordinalNotNumberEntity "") []).toOption.map
      (·.uniqueIndices)) = some [("Email", [(0, "Email")])] ∧
    ((TableSchema.init id String.length defaultRegistry ordinalNotNumberEntity).value?.map
      (·.uniqueIndices)) = some [("Email", ["Email"])] := by
  refine ⟨?_, ?_, ?_, by decide, ?_⟩
  · rw [TableSchema.init]
    decide
  · rw [TableSchema.init, extractTags_decimalWithoutCommaEntity]
    decide
  · rw [TableSchema.init, extractTags_precisionNotNumberEntity,
      buildTableFields_precisionNotNumberEntity]
    decide
  · rw [TableSchema.init, extractTags_ordinalNotNumberEntity,
      buildTableFields_ordinalNotNumberEntity]
    decide

end BeeOrm
