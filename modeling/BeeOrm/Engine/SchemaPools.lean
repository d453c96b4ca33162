import BeeOrm.Engine.Pools
import BeeOrm.Schema.Init

/-! The pool getters of `tableSchema`: `GetMysql`, `GetLocalCache` and
`GetRedisCache` ask the engine for the pools `init` read from the entity's tags.
`init` checks the MySQL pool and the local cache pool against the registry, so
on an engine whose validated registry configures those pools, in every state
its getter calls reach, the first two getters never panic and hand out a pool
opened for the schema's pool from its config. -/

namespace BeeOrm

section Getters

variable {MySQLConfig RedisConfig : Type} (validated : ValidatedRegistry MySQLConfig RedisConfig)
  (requestCacheKey : String)

/-- `tableSchema.GetMysql(engine)`. -/
def TableSchema.getMysql (schema : TableSchema) (engine : Engine MySQLConfig RedisConfig) :
    Except String (Pool MySQLConfig × Engine MySQLConfig RedisConfig) :=
  engine.getMysql validated [schema.mysqlPoolName]

/-- `tableSchema.GetLocalCache(engine)`: no pool, and `has` false, for a schema
without a local cache. -/
def TableSchema.getLocalCache (schema : TableSchema) (engine : Engine MySQLConfig RedisConfig) :
    Except String (Option (Pool LocalCachePoolConfig) × Engine MySQLConfig RedisConfig) :=
  if schema.hasLocalCache then
    (engine.getLocalCache validated requestCacheKey [schema.localCacheName]).map
      fun (cache, engine) => (some cache, engine)
  else .ok (none, engine)

/-- `tableSchema.GetRedisCache(engine)`: no pool, and `has` false, for a schema
without a Redis cache. -/
def TableSchema.getRedisCache (schema : TableSchema) (engine : Engine MySQLConfig RedisConfig) :
    Except String (Option (Pool RedisConfig) × Engine MySQLConfig RedisConfig) :=
  if schema.hasRedisCache then
    (engine.getRedis validated [schema.redisCacheName]).map fun (cache, engine) => (some cache, engine)
  else .ok (none, engine)

end Getters

/-- A lookup with a config for its code, in a map whose pools were each opened
for their own code from a config `allowed` for it, hands out a pool for the code,
opened from that config or from an allowed one. -/
theorem openPool_of_configured {Config : Type} {pools : List (String × Pool Config)}
    {allowed : String → Config → Prop} (openedFrom : OpenedFrom pools allowed) (dbCode : String)
    (config : Config) (opened : Nat) (message : String) :
    ∃ pool pools' opened', openPool pools opened dbCode (some config) message =
        .ok (pool, pools', opened') ∧
      pool.code = dbCode ∧ (pool.config = config ∨ allowed dbCode pool.config) := by
  cases present : GoMap.get? pools dbCode with
  | some pool =>
      exact ⟨pool, pools, opened, openPool_of_get? present, (openedFrom _ _ present).1,
        .inr (openedFrom _ _ present).2⟩
  | none =>
      exact ⟨⟨dbCode, config, opened⟩, GoMap.set pools dbCode ⟨dbCode, config, opened⟩, opened + 1,
        by simp [openPool, present], rfl, .inl rfl⟩

variable {sha256Hex : String → String} {fnv32a : String → Nat} {registry : Registry}
  {entityType : GoType} {schema : TableSchema}

variable {MySQLConfig RedisConfig : Type} {validated : ValidatedRegistry MySQLConfig RedisConfig}
  {requestCacheKey : String} {engine : Engine MySQLConfig RedisConfig}

/-- On an engine whose pools all come from the registry, `GetMysql` hands out a
pool opened for a configured MySQL pool from its config. -/
theorem TableSchema.getMysql_of_configured
    (invariant : engine.OpenedFromRegistry validated requestCacheKey) {config : MySQLConfig}
    (configured : GoMap.get? validated.mySQLServers schema.mysqlPoolName = some config) :
    ∃ db engine', schema.getMysql validated engine = .ok (db, engine') ∧
      db.code = schema.mysqlPoolName ∧
      GoMap.get? validated.mySQLServers schema.mysqlPoolName = some db.config := by
  obtain ⟨db, dbs, opened, found, code, fromConfig⟩ := openPool_of_configured invariant.dbs
    schema.mysqlPoolName config engine.opened s!"unregistered mysql pool '{schema.mysqlPoolName}'"
  refine ⟨db, { engine with dbs, opened }, ?_, code, fromConfig.elim (· ▸ configured) id⟩
  simp only [TableSchema.getMysql, Engine.getMysql, poolCode, List.headD_cons, configured, found]
  rfl

/-- On the same engine, `GetLocalCache` hands out a pool exactly for a schema
with a local cache, opened for it from its config when that is configured. -/
theorem TableSchema.getLocalCache_of_configured
    (invariant : engine.OpenedFromRegistry validated requestCacheKey)
    (configured : schema.hasLocalCache = true →
      (GoMap.get? validated.localCacheServers schema.localCacheName).isSome) :
    ∃ cache engine', schema.getLocalCache validated requestCacheKey engine = .ok (cache, engine') ∧
      cache.isSome = schema.hasLocalCache ∧
      ∀ pool ∈ cache, pool.code = schema.localCacheName ∧
        GoMap.get? validated.localCacheServers schema.localCacheName = some pool.config := by
  unfold TableSchema.getLocalCache
  split
  next has =>
    obtain ⟨config, registered⟩ := Option.isSome_iff_exists.1 (configured has)
    have requested : localCacheConfig validated requestCacheKey schema.localCacheName =
        some config := by
      simp [localCacheConfig, registered]
    obtain ⟨cache, pools, opened, found, code, fromConfig⟩ := openPool_of_configured
      invariant.localCache schema.localCacheName config engine.opened
      s!"unregistered local cache pool '{schema.localCacheName}'"
    refine ⟨some cache, { engine with localCache := pools, opened }, ?_, has.symm, ?_⟩
    · simp only [Engine.getLocalCache, poolCode, List.headD_cons, requested, found]
      rfl
    · simp only [Option.mem_def, Option.some.injEq]
      rintro pool rfl
      refine ⟨code, ?_⟩
      rcases fromConfig with same | registeredAs | ⟨absent, -⟩
      · exact same ▸ registered
      · exact registeredAs
      · simp [registered] at absent
  next has => exact ⟨none, engine, rfl, by simpa using has, by simp⟩

/-- For a schema `init` built from a registry whose MySQL and local cache pools
the validated registry configures, and an engine in any state its getter calls
reach from a new engine, `GetMysql` hands out a pool opened for the schema's
MySQL pool from its config, and `GetLocalCache` a pool opened for the schema's
local cache from its config exactly when the schema has one: neither panics. -/
theorem init_pool_getters_succeed
    (initialised : TableSchema.init sha256Hex fnv32a registry entityType = .ok schema)
    (mysqlConfigured : ∀ name ∈ registry.mysqlPools,
      (GoMap.get? validated.mySQLServers name).isSome)
    (localConfigured : ∀ name ∈ registry.localCachePools,
      (GoMap.get? validated.localCacheServers name).isSome)
    (calls : List PoolCall) :
    (∃ db engine, schema.getMysql validated
        (({} : Engine MySQLConfig RedisConfig).run validated requestCacheKey calls) =
          .ok (db, engine) ∧
      db.code = schema.mysqlPoolName ∧
      GoMap.get? validated.mySQLServers schema.mysqlPoolName = some db.config) ∧
    (∃ cache engine, schema.getLocalCache validated requestCacheKey
        (({} : Engine MySQLConfig RedisConfig).run validated requestCacheKey calls) =
          .ok (cache, engine) ∧
      cache.isSome = schema.hasLocalCache ∧
      ∀ pool ∈ cache, pool.code = schema.localCacheName ∧
        GoMap.get? validated.localCacheServers schema.localCacheName = some pool.config) := by
  have invariant : (({} : Engine MySQLConfig RedisConfig).run validated requestCacheKey
      calls).OpenedFromRegistry validated requestCacheKey :=
    Engine.openedFromRegistry_run Engine.openedFromRegistry_empty calls
  have ok := TableSchema.init_eq_ok initialised
  obtain ⟨config, configured⟩ := Option.isSome_iff_exists.1 (mysqlConfigured _ ok.mysqlPoolRegistered)
  exact ⟨TableSchema.getMysql_of_configured invariant configured,
    TableSchema.getLocalCache_of_configured invariant fun has =>
      localConfigured _ (ok.localCachePoolRegistered has)⟩

/-- A registry with a default MySQL pool and a default local cache pool. -/
def localCacheRegistry : Registry :=
  { mysqlPools := ["default"], localCachePools := ["default"], redisPools := [], entities := [],
    enums := [], plugins := [] }

/-- Its validated form. -/
def localCacheServers : ValidatedRegistry Nat Nat :=
  ⟨[("default", 1)], [("default", ⟨"default", 1000⟩)], []⟩

/-- An entity cached in the default local cache pool. -/
def localCacheEntity : GoType :=
  .struct "main.Country" "Country" [taggedOrmField "localCache", idField]

/-- The schema `init` builds for `localCacheEntity`. -/
def localCacheSchema : TableSchema :=
  (TableSchema.init id String.length localCacheRegistry localCacheEntity).value?.getD default

theorem init_localCacheEntity :
    TableSchema.init id String.length localCacheRegistry localCacheEntity = .ok localCacheSchema := by
  have tags : extractTags localCacheRegistry localCacheEntity "" =
      [("ORM", [("localCache", "true")])] := by decide
  have built : TableSchema.buildTableFields localCacheEntity localCacheRegistry 1 ""
      [("ORM", [("localCache", "true")])] {} =
      .ok ({ t := localCacheEntity, fields := [(1, idField)], keyPrefix := "",
             uintegers := [1], structsFields := [] },
        { mapBindToScanPointer := [("ID", .uint64Pointer)]
          mapPointerToValue := [("ID", .uint64Value)] }) := rfl
  rw [localCacheSchema, TableSchema.init, tags, built]
  rfl

theorem localCacheSchema_getters_succeed :
    TableSchema.init id String.length localCacheRegistry localCacheEntity = .ok localCacheSchema ∧
    (∀ name ∈ localCacheRegistry.mysqlPools,
      (GoMap.get? localCacheServers.mySQLServers name).isSome) ∧
    (∀ name ∈ localCacheRegistry.localCachePools,
      (GoMap.get? localCacheServers.localCacheServers name).isSome) ∧
    ((∃ db engine, localCacheSchema.getMysql localCacheServers
        (({} : Engine Nat Nat).run localCacheServers "request" [.getLocalCache [], .getRedis []]) =
          .ok (db, engine) ∧
      db.code = localCacheSchema.mysqlPoolName ∧
      GoMap.get? localCacheServers.mySQLServers localCacheSchema.mysqlPoolName = some db.config) ∧
    (∃ cache engine, localCacheSchema.getLocalCache localCacheServers "request"
        (({} : Engine Nat Nat).run localCacheServers "request" [.getLocalCache [], .getRedis []]) =
          .ok (cache, engine) ∧
      cache.isSome = localCacheSchema.hasLocalCache ∧
      ∀ pool ∈ cache, pool.code = localCacheSchema.localCacheName ∧
        GoMap.get? localCacheServers.localCacheServers localCacheSchema.localCacheName =
          some pool.config)) :=
  ⟨init_localCacheEntity, by decide, by decide,
    init_pool_getters_succeed init_localCacheEntity (by decide) (by decide) _⟩

end BeeOrm
