import BeeOrm.Foundation.GoMap
import Mathlib.Data.List.Nodup

/-! The pool getters of `Engine`: `GetMysql`, `GetLocalCache`, `GetRedis` and
`GetRedisSearch`. Each takes the code it is given (`"default"` without one),
returns the pool the engine opened for that code before, and otherwise opens
one from the registry's config for the code and keeps it; a code the registry
has no config for panics, except that `GetLocalCache` opens the request cache
on its own key. A pool is identified by the number of pools the engine opened
before it, which stands for its pointer; the configs are parameters. -/

namespace BeeOrm

/-- A `*DB`, `*LocalCache`, `*RedisCache` or `*RedisSearch` a getter hands out:
the code it was opened for, the config it was opened from, and its identity. -/
structure Pool (Config : Type) where
  code : String
  config : Config
  id : Nat
deriving DecidableEq, Repr

/-- `*localCachePoolConfig`: the pool's code and the size of its LRU. -/
structure LocalCachePoolConfig where
  code : String
  limit : Nat
deriving DecidableEq, Repr

/-- The configs of a `validatedRegistry`, by pool code. -/
structure ValidatedRegistry (MySQLConfig RedisConfig : Type) where
  mySQLServers : List (String × MySQLConfig)
  localCacheServers : List (String × LocalCachePoolConfig)
  redisServers : List (String × RedisConfig)

/-- The pools an `Engine` has opened, by code, and how many it opened. -/
structure Engine (MySQLConfig RedisConfig : Type) where
  dbs : List (String × Pool MySQLConfig) := []
  localCache : List (String × Pool LocalCachePoolConfig) := []
  redis : List (String × Pool RedisConfig) := []
  redisSearch : List (String × Pool RedisConfig) := []
  opened : Nat := 0

/-- `dbCode`: the first code given, `"default"` without one. -/
def poolCode (code : List String) : String := code.headD "default"

/-- What every getter does in its map of opened pools: the pool opened for
`dbCode`, or else one opened from `config` as the `opened`-th pool and kept
under `dbCode`; without a config it panics with `message`. -/
def openPool {Config : Type} (pools : List (String × Pool Config)) (opened : Nat)
    (dbCode : String) (config : Option Config) (message : String) :
    Except String (Pool Config × List (String × Pool Config) × Nat) :=
  match GoMap.get? pools dbCode with
  | some pool => .ok (pool, pools, opened)
  | none =>
      match config with
      | some config =>
          let pool : Pool Config := ⟨dbCode, config, opened⟩
          .ok (pool, GoMap.set pools dbCode pool, opened + 1)
      | none => .error message

section Getters

variable {MySQLConfig RedisConfig : Type} (registry : ValidatedRegistry MySQLConfig RedisConfig)
  (requestCacheKey : String)

/-- `e.GetMysql(code...)`. -/
def Engine.getMysql (engine : Engine MySQLConfig RedisConfig) (code : List String) :
    Except String (Pool MySQLConfig × Engine MySQLConfig RedisConfig) :=
  let dbCode := poolCode code
  (openPool engine.dbs engine.opened dbCode (GoMap.get? registry.mySQLServers dbCode)
      s!"unregistered mysql pool '{dbCode}'").map
    fun (db, dbs, opened) => (db, { engine with dbs, opened })

/-- The config `GetLocalCache` opens a pool from: the registered one, or for the
request cache key the request cache, an LRU of 5000 entries. -/
def localCacheConfig (dbCode : String) : Option LocalCachePoolConfig :=
  match GoMap.get? registry.localCacheServers dbCode with
  | some config => some config
  | none => if dbCode = requestCacheKey then some ⟨dbCode, 5000⟩ else none

theorem localCacheConfig_eq_some_iff {dbCode : String} {config : LocalCachePoolConfig} :
    localCacheConfig registry requestCacheKey dbCode = some config ↔
      GoMap.get? registry.localCacheServers dbCode = some config ∨
        GoMap.get? registry.localCacheServers dbCode = none ∧ dbCode = requestCacheKey ∧
          config = ⟨dbCode, 5000⟩ := by
  unfold localCacheConfig
  split
  next registered => simp [registered]
  next unregistered =>
    split
    next requested =>
      subst requested
      simp [unregistered, eq_comm]
    next other => simp [other, unregistered]

/-- `e.GetLocalCache(code...)`. -/
def Engine.getLocalCache (engine : Engine MySQLConfig RedisConfig) (code : List String) :
    Except String (Pool LocalCachePoolConfig × Engine MySQLConfig RedisConfig) :=
  let dbCode := poolCode code
  (openPool engine.localCache engine.opened dbCode
      (localCacheConfig registry requestCacheKey dbCode)
      s!"unregistered local cache pool '{dbCode}'").map
    fun (cache, localCache, opened) => (cache, { engine with localCache, opened })

/-- `e.GetRedis(code...)`. -/
def Engine.getRedis (engine : Engine MySQLConfig RedisConfig) (code : List String) :
    Except String (Pool RedisConfig × Engine MySQLConfig RedisConfig) :=
  let dbCode := poolCode code
  (openPool engine.redis engine.opened dbCode (GoMap.get? registry.redisServers dbCode)
      s!"unregistered redis cache pool '{dbCode}'").map
    fun (cache, redis, opened) => (cache, { engine with redis, opened })

/-- `e.GetRedisSearch(code...)`: a pool of its own, apart from the one
`GetRedis` opens for the same code. -/
def Engine.getRedisSearch (engine : Engine MySQLConfig RedisConfig) (code : List String) :
    Except String (Pool RedisConfig × Engine MySQLConfig RedisConfig) :=
  let dbCode := poolCode code
  (openPool engine.redisSearch engine.opened dbCode (GoMap.get? registry.redisServers dbCode)
      s!"unregistered redis cache pool '{dbCode}'").map
    fun (cache, redisSearch, opened) => (cache, { engine with redisSearch, opened })

end Getters

/-- A call of one of the getters. -/
inductive PoolCall where
  | getMysql (code : List String)
  | getLocalCache (code : List String)
  | getRedis (code : List String)
  | getRedisSearch (code : List String)
deriving DecidableEq, Repr

section Runs

variable {MySQLConfig RedisConfig : Type} (registry : ValidatedRegistry MySQLConfig RedisConfig)
  (requestCacheKey : String)

/-- The identity of the pool a getter returned, or its panic, with the engine
after it; a getter that panics leaves the engine as it was. -/
def Engine.handOut {Config : Type} (engine : Engine MySQLConfig RedisConfig) :
    Except String (Pool Config × Engine MySQLConfig RedisConfig) →
      Except String Nat × Engine MySQLConfig RedisConfig
  | .ok (pool, engine') => (.ok pool.id, engine')
  | .error message => (.error message, engine)

def Engine.call (engine : Engine MySQLConfig RedisConfig) :
    PoolCall → Except String Nat × Engine MySQLConfig RedisConfig
  | .getMysql code => engine.handOut (engine.getMysql registry code)
  | .getLocalCache code => engine.handOut (engine.getLocalCache registry requestCacheKey code)
  | .getRedis code => engine.handOut (engine.getRedis registry code)
  | .getRedisSearch code => engine.handOut (engine.getRedisSearch registry code)

/-- The engine after a sequence of getter calls, panics included. -/
def Engine.run : Engine MySQLConfig RedisConfig → List PoolCall → Engine MySQLConfig RedisConfig
  | engine, [] => engine
  | engine, call :: rest => (engine.call registry requestCacheKey call).2.run rest

end Runs

/-! ## One lookup -/

section OpenPool

variable {Config : Type} {pools pools' : List (String × Pool Config)} {opened opened' : Nat}
  {dbCode : String} {config : Option Config} {message : String} {pool : Pool Config}

theorem openPool_of_get? (present : GoMap.get? pools dbCode = some pool) :
    openPool pools opened dbCode config message = .ok (pool, pools, opened) := by
  simp [openPool, present]

/-- What a lookup that returns can have done: hand out the pool held for the
code, or open one from the config as the `opened`-th pool. -/
theorem openPool_eq_ok
    (found : openPool pools opened dbCode config message = .ok (pool, pools', opened')) :
    GoMap.get? pools dbCode = some pool ∧ pools' = pools ∧ opened' = opened ∨
      GoMap.get? pools dbCode = none ∧ config = some pool.config ∧
        pool = ⟨dbCode, pool.config, opened⟩ ∧ pools' = GoMap.set pools dbCode pool ∧
        opened' = opened + 1 := by
  unfold openPool at found
  split at found
  next present =>
    cases found
    exact .inl ⟨present, rfl, rfl⟩
  next absent =>
    split at found
    next =>
      cases found
      exact .inr ⟨absent, rfl, rfl, rfl, rfl⟩
    next => cases found

/-- A lookup keeps every pool it finds. -/
theorem get?_of_openPool
    (found : openPool pools opened dbCode config message = .ok (pool, pools', opened'))
    {code : String} {held : Pool Config} (present : GoMap.get? pools code = some held) :
    GoMap.get? pools' code = some held := by
  rcases openPool_eq_ok found with ⟨-, rfl, -⟩ | ⟨absent, -, -, rfl, -⟩
  · exact present
  · have other : dbCode ≠ code := fun same => by simp [same ▸ absent] at present
    rw [GoMap.get?_set_of_ne _ _ other, present]

theorem le_of_openPool
    (found : openPool pools opened dbCode config message = .ok (pool, pools', opened')) :
    opened ≤ opened' := by
  rcases openPool_eq_ok found with ⟨-, -, rfl⟩ | ⟨-, -, -, -, rfl⟩ <;> omega

end OpenPool

theorem get?_openPool_self
    (found : openPool pools opened dbCode config message = .ok (pool, pools', opened')) :
    GoMap.get? pools' dbCode = some pool := by
  rcases openPool_eq_ok found with ⟨present, rfl, -⟩ | ⟨-, -, -, rfl, -⟩
  · exact present
  · exact GoMap.get?_set_self _ _ _

/-! ## Getter calls keep what the engine holds -/

section Keeping

variable {MySQLConfig RedisConfig : Type} {registry : ValidatedRegistry MySQLConfig RedisConfig}
  {requestCacheKey : String}

/-- Every pool `engine` holds, `engine'` holds under the same code, and it
opened no fewer pools. -/
structure Engine.Keeps (engine engine' : Engine MySQLConfig RedisConfig) : Prop where
  dbs : ∀ code pool, GoMap.get? engine.dbs code = some pool →
    GoMap.get? engine'.dbs code = some pool
  localCache : ∀ code pool, GoMap.get? engine.localCache code = some pool →
    GoMap.get? engine'.localCache code = some pool
  redis : ∀ code pool, GoMap.get? engine.redis code = some pool →
    GoMap.get? engine'.redis code = some pool
  redisSearch : ∀ code pool, GoMap.get? engine.redisSearch code = some pool →
    GoMap.get? engine'.redisSearch code = some pool
  opened : engine.opened ≤ engine'.opened

theorem Engine.Keeps.refl (engine : Engine MySQLConfig RedisConfig) : engine.Keeps engine :=
  ⟨fun _ _ => id, fun _ _ => id, fun _ _ => id, fun _ _ => id, le_refl _⟩

theorem Engine.Keeps.trans {engine engine' engine'' : Engine MySQLConfig RedisConfig}
    (first : engine.Keeps engine') (second : engine'.Keeps engine'') : engine.Keeps engine'' :=
  ⟨fun code pool present => second.dbs code pool (first.dbs code pool present),
    fun code pool present => second.localCache code pool (first.localCache code pool present),
    fun code pool present => second.redis code pool (first.redis code pool present),
    fun code pool present => second.redisSearch code pool (first.redisSearch code pool present),
    first.opened.trans second.opened⟩

theorem map_eq_ok {ε α β : Type} {x : Except ε α} {f : α → β} {y : β}
    (mapped : x.map f = .ok y) :
    ∃ a, x = .ok a ∧ f a = y := by
  cases x with
  | error => cases mapped
  | ok a => exact ⟨a, rfl, Except.ok.inj mapped⟩

/-- A getter call ends with the engine its getter returned, or, when the getter
panicked, with the engine as it was. -/
theorem Engine.handOut_snd {Config : Type} (engine : Engine MySQLConfig RedisConfig)
    (result : Except String (Pool Config × Engine MySQLConfig RedisConfig))
    (motive : Engine MySQLConfig RedisConfig → Prop) (unchanged : motive engine)
    (returned : ∀ pool engine', result = .ok (pool, engine') → motive engine') :
    motive (engine.handOut result).2 := by
  cases result with
  | ok value => exact returned value.1 value.2 rfl
  | error => exact unchanged

/-! What each getter can do: look its code up in its own map and leave the
others alone. -/

variable {engine engine' : Engine MySQLConfig RedisConfig} {code : List String}

theorem Engine.getMysql_eq_ok {db : Pool MySQLConfig}
    (got : engine.getMysql registry code = .ok (db, engine')) :
    (∃ message, openPool engine.dbs engine.opened (poolCode code)
      (GoMap.get? registry.mySQLServers (poolCode code)) message =
        .ok (db, engine'.dbs, engine'.opened)) ∧
    engine'.localCache = engine.localCache ∧ engine'.redis = engine.redis ∧
      engine'.redisSearch = engine.redisSearch := by
  obtain ⟨⟨_, dbs, opened⟩, found, built⟩ := map_eq_ok got
  cases built
  exact ⟨⟨_, found⟩, rfl, rfl, rfl⟩

theorem Engine.getLocalCache_eq_ok {cache : Pool LocalCachePoolConfig}
    (got : engine.getLocalCache registry requestCacheKey code = .ok (cache, engine')) :
    (∃ message, openPool engine.localCache engine.opened (poolCode code)
      (localCacheConfig registry requestCacheKey (poolCode code)) message =
        .ok (cache, engine'.localCache, engine'.opened)) ∧
    engine'.dbs = engine.dbs ∧ engine'.redis = engine.redis ∧
      engine'.redisSearch = engine.redisSearch := by
  obtain ⟨⟨_, localCache, opened⟩, found, built⟩ := map_eq_ok got
  cases built
  exact ⟨⟨_, found⟩, rfl, rfl, rfl⟩

theorem Engine.getRedis_eq_ok {cache : Pool RedisConfig}
    (got : engine.getRedis registry code = .ok (cache, engine')) :
    (∃ message, openPool engine.redis engine.opened (poolCode code)
      (GoMap.get? registry.redisServers (poolCode code)) message =
        .ok (cache, engine'.redis, engine'.opened)) ∧
    engine'.dbs = engine.dbs ∧ engine'.localCache = engine.localCache ∧
      engine'.redisSearch = engine.redisSearch := by
  obtain ⟨⟨_, redis, opened⟩, found, built⟩ := map_eq_ok got
  cases built
  exact ⟨⟨_, found⟩, rfl, rfl, rfl⟩

theorem Engine.getRedisSearch_eq_ok {cache : Pool RedisConfig}
    (got : engine.getRedisSearch registry code = .ok (cache, engine')) :
    (∃ message, openPool engine.redisSearch engine.opened (poolCode code)
      (GoMap.get? registry.redisServers (poolCode code)) message =
        .ok (cache, engine'.redisSearch, engine'.opened)) ∧
    engine'.dbs = engine.dbs ∧ engine'.localCache = engine.localCache ∧
      engine'.redis = engine.redis := by
  obtain ⟨⟨_, redisSearch, opened⟩, found, built⟩ := map_eq_ok got
  cases built
  exact ⟨⟨_, found⟩, rfl, rfl, rfl⟩

theorem Engine.keeps_call (engine : Engine MySQLConfig RedisConfig) (call : PoolCall) :
    engine.Keeps (engine.call registry requestCacheKey call).2 := by
  cases call with
  | getMysql code =>
      refine engine.handOut_snd _ engine.Keeps (.refl engine) fun db engine' got => ?_
      obtain ⟨⟨_, found⟩, localCache, redis, redisSearch⟩ := Engine.getMysql_eq_ok got
      exact ⟨fun _ _ => get?_of_openPool found, localCache ▸ fun _ _ => id,
        redis ▸ fun _ _ => id, redisSearch ▸ fun _ _ => id, le_of_openPool found⟩
  | getLocalCache code =>
      refine engine.handOut_snd _ engine.Keeps (.refl engine) fun cache engine' got => ?_
      obtain ⟨⟨_, found⟩, dbs, redis, redisSearch⟩ := Engine.getLocalCache_eq_ok got
      exact ⟨dbs ▸ fun _ _ => id, fun _ _ => get?_of_openPool found, redis ▸ fun _ _ => id,
        redisSearch ▸ fun _ _ => id, le_of_openPool found⟩
  | getRedis code =>
      refine engine.handOut_snd _ engine.Keeps (.refl engine) fun cache engine' got => ?_
      obtain ⟨⟨_, found⟩, dbs, localCache, redisSearch⟩ := Engine.getRedis_eq_ok got
      exact ⟨dbs ▸ fun _ _ => id, localCache ▸ fun _ _ => id,
        fun _ _ => get?_of_openPool found, redisSearch ▸ fun _ _ => id, le_of_openPool found⟩
  | getRedisSearch code =>
      refine engine.handOut_snd _ engine.Keeps (.refl engine) fun cache engine' got => ?_
      obtain ⟨⟨_, found⟩, dbs, localCache, redis⟩ := Engine.getRedisSearch_eq_ok got
      exact ⟨dbs ▸ fun _ _ => id, localCache ▸ fun _ _ => id, redis ▸ fun _ _ => id,
        fun _ _ => get?_of_openPool found, le_of_openPool found⟩

theorem Engine.keeps_run (engine : Engine MySQLConfig RedisConfig) (calls : List PoolCall) :
    engine.Keeps (engine.run registry requestCacheKey calls) := by
  induction calls generalizing engine with
  | nil => exact .refl engine
  | cons call rest induction => exact (engine.keeps_call call).trans (induction _)

end Keeping

/-! ## One pool per code -/

section Stable

variable {MySQLConfig RedisConfig : Type} {registry : ValidatedRegistry MySQLConfig RedisConfig}
  {requestCacheKey : String}

/-- The identity of the pool the engine holds for a call's code, in the map of
the call's getter. -/
def Engine.held (engine : Engine MySQLConfig RedisConfig) : PoolCall → Option Nat
  | .getMysql code => (GoMap.get? engine.dbs (poolCode code)).map (·.id)
  | .getLocalCache code => (GoMap.get? engine.localCache (poolCode code)).map (·.id)
  | .getRedis code => (GoMap.get? engine.redis (poolCode code)).map (·.id)
  | .getRedisSearch code => (GoMap.get? engine.redisSearch (poolCode code)).map (·.id)

/-- A call whose code the engine holds a pool for returns that pool and opens
nothing. -/
theorem Engine.call_of_held {engine : Engine MySQLConfig RedisConfig} {call : PoolCall} {id : Nat}
    (held : engine.held call = some id) :
    engine.call registry requestCacheKey call = (.ok id, engine) := by
  cases call <;>
  · obtain ⟨pool, present, rfl⟩ := Option.map_eq_some'.1 held
    simp only [Engine.call, Engine.getMysql, Engine.getLocalCache, Engine.getRedis,
      Engine.getRedisSearch, openPool_of_get? present]
    rfl

theorem Engine.handOut_eq_ok {Config : Type} {engine : Engine MySQLConfig RedisConfig}
    {result : Except String (Pool Config × Engine MySQLConfig RedisConfig)} {id : Nat}
    (got : (engine.handOut result).1 = .ok id) :
    ∃ pool, result = .ok (pool, (engine.handOut result).2) ∧ pool.id = id := by
  cases result with
  | ok value => exact ⟨value.1, rfl, Except.ok.inj got⟩
  | error => cases got

/-- A call that returns leaves the engine holding the pool it returned. -/
theorem Engine.held_call {engine : Engine MySQLConfig RedisConfig} {call : PoolCall} {id : Nat}
    (got : (engine.call registry requestCacheKey call).1 = .ok id) :
    (engine.call registry requestCacheKey call).2.held call = some id := by
  cases call with
  | getMysql code =>
      obtain ⟨pool, returned, rfl⟩ := Engine.handOut_eq_ok got
      obtain ⟨⟨_, found⟩, -⟩ := Engine.getMysql_eq_ok returned
      exact Option.map_eq_some'.2 ⟨pool, get?_openPool_self found, rfl⟩
  | getLocalCache code =>
      obtain ⟨pool, returned, rfl⟩ := Engine.handOut_eq_ok got
      obtain ⟨⟨_, found⟩, -⟩ := Engine.getLocalCache_eq_ok returned
      exact Option.map_eq_some'.2 ⟨pool, get?_openPool_self found, rfl⟩
  | getRedis code =>
      obtain ⟨pool, returned, rfl⟩ := Engine.handOut_eq_ok got
      obtain ⟨⟨_, found⟩, -⟩ := Engine.getRedis_eq_ok returned
      exact Option.map_eq_some'.2 ⟨pool, get?_openPool_self found, rfl⟩
  | getRedisSearch code =>
      obtain ⟨pool, returned, rfl⟩ := Engine.handOut_eq_ok got
      obtain ⟨⟨_, found⟩, -⟩ := Engine.getRedisSearch_eq_ok returned
      exact Option.map_eq_some'.2 ⟨pool, get?_openPool_self found, rfl⟩

theorem map_id_of_keeps {Config : Type} {pools pools' : List (String × Pool Config)}
    (keeps : ∀ code pool, GoMap.get? pools code = some pool →
      GoMap.get? pools' code = some pool)
    {code : String} {id : Nat} (held : (GoMap.get? pools code).map (·.id) = some id) :
    (GoMap.get? pools' code).map (·.id) = some id := by
  obtain ⟨pool, present, rfl⟩ := Option.map_eq_some'.1 held
  exact Option.map_eq_some'.2 ⟨pool, keeps _ _ present, rfl⟩

theorem Engine.held_of_keeps {engine engine' : Engine MySQLConfig RedisConfig}
    (keeps : engine.Keeps engine') {call : PoolCall} {id : Nat}
    (held : engine.held call = some id) :
    engine'.held call = some id := by
  cases call with
  | getMysql => exact map_id_of_keeps keeps.dbs held
  | getLocalCache => exact map_id_of_keeps keeps.localCache held
  | getRedis => exact map_id_of_keeps keeps.redis held
  | getRedisSearch => exact map_id_of_keeps keeps.redisSearch held

/-- Each getter hands out one pool per code for the engine's lifetime: once a
call returns a pool, the same call, after any getter calls in between, returns
that pool again and opens nothing. -/
theorem Engine.call_run_call_of_ok (engine : Engine MySQLConfig RedisConfig) (call : PoolCall)
    {id : Nat} (got : (engine.call registry requestCacheKey call).1 = .ok id)
    (calls : List PoolCall) :
    ((engine.call registry requestCacheKey call).2.run registry requestCacheKey calls).call registry
        requestCacheKey call =
      (.ok id, (engine.call registry requestCacheKey call).2.run registry requestCacheKey calls) :=
  Engine.call_of_held (Engine.held_of_keeps (Engine.keeps_run _ calls) (Engine.held_call got))

/-- A registry with a default MySQL pool and a default Redis pool. -/
def defaultPools : ValidatedRegistry Nat Nat := ⟨[("default", 1)], [], [("default", 2)]⟩

theorem defaultPools_getMysql_again :
    (({} : Engine Nat Nat).call defaultPools "request" (.getMysql [])).1 = .ok 0 ∧
    ((({} : Engine Nat Nat).call defaultPools "request" (.getMysql [])).2.run defaultPools "request"
        [.getRedis [], .getMysql ["replica"], .getLocalCache ["request"]]).call defaultPools
        "request" (.getMysql []) =
      (.ok 0, (({} : Engine Nat Nat).call defaultPools "request" (.getMysql [])).2.run defaultPools
        "request" [.getRedis [], .getMysql ["replica"], .getLocalCache ["request"]]) :=
  ⟨rfl, Engine.call_run_call_of_ok _ _ (by rfl) _⟩

/-- The request cache opens on its key without a registered config; the
default local cache pool is not registered and panics. -/
example :
    (({} : Engine Nat Nat).call defaultPools "request" (.getLocalCache ["request"])).1 = .ok 0 ∧
    (({} : Engine Nat Nat).call defaultPools "request" (.getLocalCache [])).1 =
      .error "unregistered local cache pool 'default'" :=
  ⟨rfl, rfl⟩

end Stable

/-! ## Every pool comes from the registry -/

section Registered

variable {MySQLConfig RedisConfig : Type} {registry : ValidatedRegistry MySQLConfig RedisConfig}
  {requestCacheKey : String}

/-- Each pool of a map was opened for its own code, from a config `allowed`
for that code. -/
def OpenedFrom {Config : Type} (pools : List (String × Pool Config))
    (allowed : String → Config → Prop) : Prop :=
  ∀ code pool, GoMap.get? pools code = some pool → pool.code = code ∧ allowed code pool.config

theorem openedFrom_openPool {Config : Type} {pools pools' : List (String × Pool Config)}
    {allowed : String → Config → Prop} {opened opened' : Nat} {dbCode message : String}
    {config : Option Config} {pool : Pool Config} (openedFrom : OpenedFrom pools allowed)
    (configured : ∀ value, config = some value → allowed dbCode value)
    (found : openPool pools opened dbCode config message = .ok (pool, pools', opened')) :
    OpenedFrom pools' allowed := by
  rcases openPool_eq_ok found with ⟨-, rfl, -⟩ | ⟨-, configuredAs, built, rfl, -⟩
  · exact openedFrom
  · intro code held present
    rw [GoMap.get?_set] at present
    split at present
    next same =>
      cases present
      rw [← same, built]
      exact ⟨rfl, configured _ configuredAs⟩
    next => exact openedFrom code held present

/-- The identities of the pools an engine holds. -/
def Engine.ids (engine : Engine MySQLConfig RedisConfig) : List Nat :=
  engine.dbs.map (·.2.id) ++ engine.localCache.map (·.2.id) ++ engine.redis.map (·.2.id) ++
    engine.redisSearch.map (·.2.id)

theorem openPool_ids {Config : Type} {pools pools' : List (String × Pool Config)}
    {opened opened' : Nat} {dbCode message : String} {config : Option Config} {pool : Pool Config}
    (found : openPool pools opened dbCode config message = .ok (pool, pools', opened')) :
    pools'.map (·.2.id) = pools.map (·.2.id) ∧ opened' = opened ∨
      pools'.map (·.2.id) = pools.map (·.2.id) ++ [opened] ∧ opened' = opened + 1 := by
  rcases openPool_eq_ok found with ⟨-, rfl, rfl⟩ | ⟨absent, -, built, rfl, rfl⟩
  · exact .inl ⟨rfl, rfl⟩
  · have notKey : dbCode ∉ GoMap.keys pools := by simp [GoMap.mem_keys_iff_get?_isSome, absent]
    rw [GoMap.set_of_not_mem _ _ notKey, List.map_append, built]
    exact .inr ⟨rfl, rfl⟩

/-- A new identity between others, numbered as many as were opened. -/
theorem perm_insert_id (front back : List Nat) (opened : Nat) :
    (front ++ opened :: back).Perm (front ++ back ++ [opened]) :=
  List.perm_middle.trans ((List.perm_append_singleton _ _).symm)

/-- Opening a pool in one of an engine's maps, between the identities of the
other maps, keeps the identities distinct and below the new count. -/
theorem Engine.ids_openPool {Config : Type} {engine engine' : Engine MySQLConfig RedisConfig}
    {pools pools' : List (String × Pool Config)} {dbCode message : String}
    {config : Option Config} {pool : Pool Config} (front back : List Nat)
    (ids : engine.ids = front ++ pools.map (·.2.id) ++ back)
    (ids' : engine'.ids = front ++ pools'.map (·.2.id) ++ back)
    (found : openPool pools engine.opened dbCode config message =
      .ok (pool, pools', engine'.opened))
    (distinct : engine.ids.Nodup) (below : ∀ id ∈ engine.ids, id < engine.opened) :
    engine'.ids.Nodup ∧ ∀ id ∈ engine'.ids, id < engine'.opened := by
  rcases openPool_ids found with ⟨same, opened⟩ | ⟨added, opened⟩
  · rw [ids', same, ← ids, opened]
    exact ⟨distinct, below⟩
  · have fresh : engine.opened ∉ engine.ids := fun member => Nat.lt_irrefl _ (below _ member)
    have perm : engine'.ids.Perm (engine.ids ++ [engine.opened]) := by
      rw [ids', added, ids]
      simpa only [List.append_assoc, List.singleton_append] using
        perm_insert_id (front ++ pools.map (·.2.id)) back engine.opened
    refine ⟨perm.nodup_iff.2 (List.concat_eq_append .. ▸ distinct.concat fresh),
      fun id member => ?_⟩
    rw [opened]
    rcases List.mem_append.1 (perm.subset member) with old | new
    · exact Nat.lt_succ_of_lt (below id old)
    · rw [List.mem_singleton.1 new]
      exact Nat.lt_succ_self _

/-- What every engine reachable by getter calls satisfies: each pool it holds
was opened for its own code from the registry's config for that code, the
request cache apart, and no two of its pools share an identity. -/
structure Engine.OpenedFromRegistry (registry : ValidatedRegistry MySQLConfig RedisConfig)
    (requestCacheKey : String) (engine : Engine MySQLConfig RedisConfig) : Prop where
  dbs : OpenedFrom engine.dbs fun code config => GoMap.get? registry.mySQLServers code = some config
  localCache : OpenedFrom engine.localCache fun code config =>
    GoMap.get? registry.localCacheServers code = some config ∨
      GoMap.get? registry.localCacheServers code = none ∧ code = requestCacheKey ∧
        config = ⟨code, 5000⟩
  redis : OpenedFrom engine.redis fun code config =>
    GoMap.get? registry.redisServers code = some config
  redisSearch : OpenedFrom engine.redisSearch fun code config =>
    GoMap.get? registry.redisServers code = some config
  distinct : engine.ids.Nodup
  below : ∀ id ∈ engine.ids, id < engine.opened

theorem Engine.openedFromRegistry_empty :
    (({} : Engine MySQLConfig RedisConfig)).OpenedFromRegistry registry requestCacheKey :=
  ⟨fun _ _ absent => (nomatch absent), fun _ _ absent => (nomatch absent),
    fun _ _ absent => (nomatch absent), fun _ _ absent => (nomatch absent), List.nodup_nil,
    fun _ member => (nomatch member)⟩

theorem Engine.openedFromRegistry_call {engine : Engine MySQLConfig RedisConfig}
    (invariant : engine.OpenedFromRegistry registry requestCacheKey) (call : PoolCall) :
    (engine.call registry requestCacheKey call).2.OpenedFromRegistry registry requestCacheKey := by
  cases call with
  | getMysql code =>
      refine engine.handOut_snd _ _ invariant fun db engine' got => ?_
      obtain ⟨⟨_, found⟩, localCache, redis, redisSearch⟩ := Engine.getMysql_eq_ok got
      obtain ⟨distinct, below⟩ := Engine.ids_openPool [] (engine.localCache.map (·.2.id) ++
        engine.redis.map (·.2.id) ++ engine.redisSearch.map (·.2.id)) (by simp [Engine.ids])
        (by simp [Engine.ids, localCache, redis, redisSearch]) found invariant.distinct
        invariant.below
      exact ⟨openedFrom_openPool invariant.dbs (fun _ => id) found,
        localCache ▸ invariant.localCache, redis ▸ invariant.redis,
        redisSearch ▸ invariant.redisSearch, distinct, below⟩
  | getLocalCache code =>
      refine engine.handOut_snd _ _ invariant fun cache engine' got => ?_
      obtain ⟨⟨_, found⟩, dbs, redis, redisSearch⟩ := Engine.getLocalCache_eq_ok got
      obtain ⟨distinct, below⟩ := Engine.ids_openPool (engine.dbs.map (·.2.id))
        (engine.redis.map (·.2.id) ++ engine.redisSearch.map (·.2.id)) (by simp [Engine.ids])
        (by simp [Engine.ids, dbs, redis, redisSearch]) found invariant.distinct invariant.below
      exact ⟨dbs ▸ invariant.dbs, openedFrom_openPool invariant.localCache
        (fun _ configured => (localCacheConfig_eq_some_iff _ _).1 configured) found,
        redis ▸ invariant.redis, redisSearch ▸ invariant.redisSearch, distinct, below⟩
  | getRedis code =>
      refine engine.handOut_snd _ _ invariant fun cache engine' got => ?_
      obtain ⟨⟨_, found⟩, dbs, localCache, redisSearch⟩ := Engine.getRedis_eq_ok got
      obtain ⟨distinct, below⟩ := Engine.ids_openPool
        (engine.dbs.map (·.2.id) ++ engine.localCache.map (·.2.id))
        (engine.redisSearch.map (·.2.id)) (by simp [Engine.ids])
        (by simp [Engine.ids, dbs, localCache, redisSearch]) found invariant.distinct
        invariant.below
      exact ⟨dbs ▸ invariant.dbs, localCache ▸ invariant.localCache,
        openedFrom_openPool invariant.redis (fun _ => id) found,
        redisSearch ▸ invariant.redisSearch, distinct, below⟩
  | getRedisSearch code =>
      refine engine.handOut_snd _ _ invariant fun cache engine' got => ?_
      obtain ⟨⟨_, found⟩, dbs, localCache, redis⟩ := Engine.getRedisSearch_eq_ok got
      obtain ⟨distinct, below⟩ := Engine.ids_openPool (engine.dbs.map (·.2.id) ++
        engine.localCache.map (·.2.id) ++ engine.redis.map (·.2.id)) [] (by simp [Engine.ids])
        (by simp [Engine.ids, dbs, localCache, redis]) found invariant.distinct invariant.below
      exact ⟨dbs ▸ invariant.dbs, localCache ▸ invariant.localCache,
        redis ▸ invariant.redis, openedFrom_openPool invariant.redisSearch (fun _ => id) found,
        distinct, below⟩

theorem Engine.openedFromRegistry_run {engine : Engine MySQLConfig RedisConfig}
    (invariant : engine.OpenedFromRegistry registry requestCacheKey) (calls : List PoolCall) :
    (engine.run registry requestCacheKey calls).OpenedFromRegistry registry requestCacheKey := by
  induction calls generalizing engine with
  | nil => exact invariant
  | cons call rest induction => exact induction (Engine.openedFromRegistry_call invariant call)

/-- After any getter calls on a new engine, each pool it holds was opened for
its own code from the registry's config for that code, or, for a local cache,
is the request cache on its key, and no two of its pools share an identity. -/
theorem Engine.run_openedFromRegistry (calls : List PoolCall) :
    (({} : Engine MySQLConfig RedisConfig).run registry requestCacheKey calls).OpenedFromRegistry
      registry requestCacheKey :=
  Engine.openedFromRegistry_run Engine.openedFromRegistry_empty calls

end Registered

end BeeOrm
