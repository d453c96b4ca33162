import BeeOrm.Schema.Init

/-! The cache-key prefix of a schema: `init` hashes the pool name (unless it is
`default`), the table name and the `fieldsQuery` of the column layout, with no
separator between the first two. Every `fieldsQuery` entry starts with a comma,
so the layout part can be split off again, but the pool and the table cannot. -/

namespace BeeOrm

/-- A string that is empty or starts with a comma. -/
def CommaLed (s : String) : Prop :=
  ∀ first ∈ s.data.head?, first = ','

theorem commaLed_append {s t : String} (led : CommaLed s) (next : CommaLed t) :
    CommaLed (s ++ t) := by
  intro first found
  rw [String.data_append, List.head?_append] at found
  cases start : s.data.head? with
  | none =>
      rw [start, Option.none_or] at found
      exact next first found
  | some head =>
      rw [start] at found
      exact led first (by rw [start]; exact found)

theorem commaLed_foldl_append (strings : List String) {start : String} (led : CommaLed start)
    (every : ∀ s ∈ strings, CommaLed s) : CommaLed (strings.foldl (· ++ ·) start) := by
  induction strings generalizing start with
  | nil => exact led
  | cons s rest induction =>
      exact induction (commaLed_append led (every s (List.mem_cons_self _ _)))
        fun t member => every t (List.mem_cons_of_mem _ member)

theorem commaLed_renderColumn (name : String) (timed : Bool) :
    CommaLed (TableFields.renderColumn name timed) := by
  intro first found
  unfold TableFields.renderColumn at found
  split at found <;> simp_all [String.data_append, eq_comm]

mutual

/-- Every `fieldsQuery` is empty or starts with a comma. -/
theorem commaLed_buildColumnNames : ∀ (fields : TableFields) (subFieldPrefix : String),
    CommaLed (fields.buildColumnNames subFieldPrefix).2
  | fields@{ structsFields := subFields, .. }, subFieldPrefix => by
      rw [TableFields.buildColumnNames]
      refine commaLed_append (commaLed_foldl_append _ (by simp [CommaLed]) ?_)
        (commaLed_buildNestedColumnNames _ _ _ _ _)
      intro s member
      simp only [TableFields.ownColumns, List.map_map, List.mem_map] at member
      obtain ⟨⟨i, timed⟩, -, rfl⟩ := member
      exact commaLed_renderColumn _ _

theorem commaLed_buildNestedColumnNames (structs : List Nat)
    (fieldMap : List (Nat × StructField)) (subFieldPrefix : String) :
    ∀ (i : Nat) (subs : List TableFields),
      CommaLed (TableFields.buildNestedColumnNames structs fieldMap subFieldPrefix i subs).2
  | _, [] => by simp [TableFields.buildNestedColumnNames, CommaLed]
  | i, subFields :: rest => by
      rw [TableFields.buildNestedColumnNames]
      exact commaLed_append (commaLed_buildColumnNames _ _)
        (commaLed_buildNestedColumnNames structs fieldMap subFieldPrefix (i + 1) rest)

end

/-- A comma-free word followed by an empty or comma-led rest splits only one way. -/
theorem eq_of_append_commaLed {word word' rest rest' : List Char}
    (free : ',' ∉ word) (free' : ',' ∉ word')
    (led : ∀ first ∈ rest.head?, first = ',') (led' : ∀ first ∈ rest'.head?, first = ',')
    (same : word ++ rest = word' ++ rest') : word = word' ∧ rest = rest' := by
  have takeWord : ∀ {word rest : List Char}, ',' ∉ word → (∀ first ∈ rest.head?, first = ',') →
      (word ++ rest).takeWhile (· ≠ ',') = word := by
    intro word rest free led
    rw [List.takeWhile_append_of_pos fun c member => by
      simpa using fun same : c = ',' => free (same ▸ member)]
    cases rest with
    | nil => simp
    | cons first tail => simp [led first rfl]
  have words : word = word' := by
    rw [← takeWord free led, same, takeWord free' led']
  exact ⟨words, List.append_cancel_left (words ▸ same)⟩

/-- The pool-and-table part of the string `init` hashes. -/
def poolTablePrefix (mysqlPoolName tableName : String) : String :=
  (if mysqlPoolName ≠ "default" then mysqlPoolName else "") ++ tableName

variable {sha256Hex sha256Hex' : String → String} {fnv32a fnv32a' : String → Nat}
  {registry registry' : Registry} {entityType entityType' : GoType} {schema schema' : TableSchema}

/-- Two schemas `init` builds, with pool and table names free of commas, hash
the same string exactly when their pool-and-table parts are the same string and
their column layouts give the same `fieldsQuery`. -/
theorem init_cachePrefixSource_eq_iff
    (initialised : TableSchema.init sha256Hex fnv32a registry entityType = .ok schema)
    (initialised' : TableSchema.init sha256Hex' fnv32a' registry' entityType' = .ok schema')
    (commaFree : ',' ∉ (poolTablePrefix schema.mysqlPoolName schema.tableName).data)
    (commaFree' : ',' ∉ (poolTablePrefix schema'.mysqlPoolName schema'.tableName).data) :
    cachePrefixSource schema.mysqlPoolName schema.tableName schema.fieldsQuery =
        cachePrefixSource schema'.mysqlPoolName schema'.tableName schema'.fieldsQuery ↔
      poolTablePrefix schema.mysqlPoolName schema.tableName =
          poolTablePrefix schema'.mysqlPoolName schema'.tableName ∧
        schema.fieldsQuery = schema'.fieldsQuery := by
  have led : ∀ {schema : TableSchema} {sha256Hex fnv32a registry entityType},
      TableSchema.init sha256Hex fnv32a registry entityType = .ok schema →
      CommaLed schema.fieldsQuery := fun initialised => by
    exact (TableSchema.init_eq_ok initialised).fieldsQuery ▸ commaLed_buildColumnNames _ _
  have source : ∀ schema : TableSchema,
      cachePrefixSource schema.mysqlPoolName schema.tableName schema.fieldsQuery =
        poolTablePrefix schema.mysqlPoolName schema.tableName ++ schema.fieldsQuery := fun _ => rfl
  rw [source, source]
  constructor
  · intro same
    have split := eq_of_append_commaLed commaFree commaFree' (led initialised) (led initialised')
      (by simpa only [String.data_append] using congrArg String.data same)
    exact ⟨String.ext split.1, String.ext split.2⟩
  · rintro ⟨samePrefix, sameQuery⟩
    rw [samePrefix, sameQuery]

/-- A registry with the default MySQL pool and a pool `a`. -/
def twoPoolRegistry : Registry :=
  { mysqlPools := ["default", "a"], localCachePools := [], redisPools := [], entities := [],
    enums := [], plugins := [] }

/-- An entity of table `bc` on pool `a`. -/
def poolTableEntity : GoType :=
  .struct "main.Account" "Account"
    [⟨"ORM", true, [("orm", "mysql=a;table=bc")], .struct "beeorm.ORM" "ORM" []⟩, idField]

/-- An entity of table `abc` on the default pool, with the same columns. -/
def defaultPoolEntity : GoType :=
  .struct "main.Ledger" "Ledger"
    [⟨"ORM", true, [("orm", "table=abc")], .struct "beeorm.ORM" "ORM" []⟩, idField]

theorem extractTags_poolTableEntity :
    extractTags twoPoolRegistry poolTableEntity "" =
      [("ORM", [("mysql", "a"), ("table", "bc")])] := by decide

theorem extractTags_defaultPoolEntity :
    extractTags twoPoolRegistry defaultPoolEntity "" = [("ORM", [("table", "abc")])] := by decide

theorem buildTableFields_poolTableEntity :
    TableSchema.buildTableFields poolTableEntity twoPoolRegistry 1 ""
      [("ORM", [("mysql", "a"), ("table", "bc")])] {} =
      .ok ({ t := poolTableEntity, fields := [(1, idField)], keyPrefix := "", uintegers := [1],
             structsFields := [] },
        { mapBindToScanPointer := [("ID", .uint64Pointer)]
          mapPointerToValue := [("ID", .uint64Value)] }) := rfl

theorem buildTableFields_defaultPoolEntity :
    TableSchema.buildTableFields defaultPoolEntity twoPoolRegistry 1 ""
      [("ORM", [("table", "abc")])] {} =
      .ok ({ t := defaultPoolEntity, fields := [(1, idField)], keyPrefix := "", uintegers := [1],
             structsFields := [] },
        { mapBindToScanPointer := [("ID", .uint64Pointer)]
          mapPointerToValue := [("ID", .uint64Value)] }) := rfl

/-- Table `bc` on pool `a` and table `abc` on the default pool hash the same
string, and so get the same cache-key prefix. -/
theorem init_cachePrefix_collides :
    ((TableSchema.init id String.length twoPoolRegistry poolTableEntity).value?.map fun schema =>
        (schema.mysqlPoolName, schema.tableName,
          cachePrefixSource schema.mysqlPoolName schema.tableName schema.fieldsQuery,
          schema.cachePrefix)) =
      some ("a", "bc", "abc,`ID`", "abc,`") ∧
    ((TableSchema.init id String.length twoPoolRegistry defaultPoolEntity).value?.map fun schema =>
        (schema.mysqlPoolName, schema.tableName,
          cachePrefixSource schema.mysqlPoolName schema.tableName schema.fieldsQuery,
          schema.cachePrefix)) =
      some ("default", "abc", "abc,`ID`", "abc,`") := by
  constructor
  · rw [TableSchema.init, extractTags_poolTableEntity, buildTableFields_poolTableEntity]
    decide
  · rw [TableSchema.init, extractTags_defaultPoolEntity, buildTableFields_defaultPoolEntity]
    decide

/-- The schema `init` builds for `poolTableEntity`. -/
def poolTableSchema : TableSchema :=
  (TableSchema.init id String.length twoPoolRegistry poolTableEntity).value?.getD default

/-- The schema `init` builds for `defaultPoolEntity`. -/
def defaultPoolSchema : TableSchema :=
  (TableSchema.init id String.length twoPoolRegistry defaultPoolEntity).value?.getD default

theorem init_poolTableEntity :
    TableSchema.init id String.length twoPoolRegistry poolTableEntity = .ok poolTableSchema := by
  rw [poolTableSchema, TableSchema.init, extractTags_poolTableEntity,
    buildTableFields_poolTableEntity]
  rfl

theorem init_defaultPoolEntity :
    TableSchema.init id String.length twoPoolRegistry defaultPoolEntity = .ok defaultPoolSchema := by
  rw [defaultPoolSchema, TableSchema.init, extractTags_defaultPoolEntity,
    buildTableFields_defaultPoolEntity]
  rfl

theorem poolTable_cachePrefixSource_eq_iff :
    TableSchema.init id String.length twoPoolRegistry poolTableEntity = .ok poolTableSchema ∧
    TableSchema.init id String.length twoPoolRegistry defaultPoolEntity = .ok defaultPoolSchema ∧
    ',' ∉ (poolTablePrefix poolTableSchema.mysqlPoolName poolTableSchema.tableName).data ∧
    ',' ∉ (poolTablePrefix defaultPoolSchema.mysqlPoolName defaultPoolSchema.tableName).data ∧
    (cachePrefixSource poolTableSchema.mysqlPoolName poolTableSchema.tableName
          poolTableSchema.fieldsQuery =
        cachePrefixSource defaultPoolSchema.mysqlPoolName defaultPoolSchema.tableName
          defaultPoolSchema.fieldsQuery ↔
      poolTablePrefix poolTableSchema.mysqlPoolName poolTableSchema.tableName =
          poolTablePrefix defaultPoolSchema.mysqlPoolName defaultPoolSchema.tableName ∧
        poolTableSchema.fieldsQuery = defaultPoolSchema.fieldsQuery) := by
  have poolFree : ',' ∉ (poolTablePrefix poolTableSchema.mysqlPoolName
      poolTableSchema.tableName).data := by
    rw [poolTableSchema, TableSchema.init, extractTags_poolTableEntity,
      buildTableFields_poolTableEntity]
    decide
  have defaultFree : ',' ∉ (poolTablePrefix defaultPoolSchema.mysqlPoolName
      defaultPoolSchema.tableName).data := by
    rw [defaultPoolSchema, TableSchema.init, extractTags_defaultPoolEntity,
      buildTableFields_defaultPoolEntity]
    decide
  exact ⟨init_poolTableEntity, init_defaultPoolEntity, poolFree, defaultFree,
    init_cachePrefixSource_eq_iff init_poolTableEntity init_defaultPoolEntity poolFree defaultFree⟩

/-! ## The cache key of an entity -/

/-- Two cache keys are equal exactly when their prefixes and their ids are, for
a prefix free of `:`, as the five hex digits `init` takes are: `getCacheKey`
gives distinct entities of one schema, and entities of schemas with distinct
prefixes, distinct keys. -/
theorem getCacheKey_eq_iff {schema other : TableSchema} (colonFree : ':' ∉ schema.cachePrefix.data)
    (id otherId : Nat) :
    schema.getCacheKey id = other.getCacheKey otherId ↔
      schema.cachePrefix = other.cachePrefix ∧ id = otherId := by
  constructor
  · intro same
    have keys : schema.cachePrefix.data ++ ':' :: (toString id).data =
        other.cachePrefix.data ++ ':' :: (toString otherId).data := by
      simpa [TableSchema.getCacheKey] using congrArg String.data same
    have digits : ':' ∉ (toString id).data := fun colon =>
      absurd (Strconv.isDigit_of_mem_toString colon) (by decide)
    obtain ⟨prefixes, -, written⟩ := (List.append_cons_inj_of_not_mem colonFree digits).1 keys
    exact ⟨String.ext prefixes, Strconv.toString_injective (String.ext written)⟩
  · rintro ⟨same, rfl⟩
    rw [TableSchema.getCacheKey, TableSchema.getCacheKey, same]

theorem poolTableSchema_cacheKeys :
    ':' ∉ poolTableSchema.cachePrefix.data ∧
    (poolTableSchema.getCacheKey 7 = defaultPoolSchema.getCacheKey 7 ↔
      poolTableSchema.cachePrefix = defaultPoolSchema.cachePrefix ∧ 7 = 7) := by
  have colonFree : ':' ∉ poolTableSchema.cachePrefix.data := by
    rw [poolTableSchema, TableSchema.init, extractTags_poolTableEntity,
      buildTableFields_poolTableEntity]
    decide
  exact ⟨colonFree, getCacheKey_eq_iff colonFree 7 7⟩

end BeeOrm
