import BeeOrm.Metrics.SlowQueryTree
import BeeOrm.Foundation.GoMap
import BeeOrm.Foundation.GoStrings

/-! The `mySQLLogHandler` of the `simple_metrics` plugin and the plugin calls on
it. `Handle` records a query log entry in the slow-query log, then counts it in
the group of its pool, query type, table and laziness; the `Clear` calls empty
one or the other. A panic of `Handle`, an index out of range on a short query,
is returned with the state `Handle` leaves. -/

namespace BeeOrm.Metrics

/-- `Options`. -/
structure Options where
  mySQLMetricsLimits : Int
  mySQLSlowQueriesLimit : Int
deriving DecidableEq, Repr

/-- `MySQLQueryType`. -/
inductive MySQLQueryType where
  | query | insert | update | delete | show | alter | other
deriving DecidableEq, Repr

/-- The key of a counter group, `ml.queries[pool][queryType][table][lazy]`. -/
structure GroupKey where
  pool : String
  operation : MySQLQueryType
  table : String
  lazy : Bool
deriving DecidableEq, Repr

/-- `mySQLQuery`. -/
structure QueryCounters where
  counter : UInt64
  time : UInt64
  slowQueries : UInt64
deriving DecidableEq, Repr

/-- `uint64(t)` of an `int64`. -/
def toUInt64 (t : Int) : UInt64 := UInt64.ofNat (t % 2 ^ 64).toNat

/-- One entry counted in a group. -/
def QueryCounters.record (counters : QueryCounters) (t : Int) (slow : Bool) : QueryCounters :=
  { counter := counters.counter + 1
    time := counters.time + toUInt64 t
    slowQueries := if slow then counters.slowQueries + 1 else counters.slowQueries }

/-- `mySQLLogHandler`; the four nested maps of `queries` are one map from the
group key. -/
structure LogHandler where
  queries : List (GroupKey × QueryCounters)
  slowQueries : SlowQueryTree
  slowQueriesCounter : Int
  mySQLMetricsLimits : Int
deriving DecidableEq, Repr

/-- The fields of a query log entry that `Handle` reads; `meta` is the
`beeorm.Bind` under `meta`, if any. -/
structure LogEntry where
  microseconds : Int
  query : String
  pool : String
  meta : Option (List (String × String))
  operation : String
deriving DecidableEq, Repr

/-- `s[i]`, which panics when `i` is out of range. -/
def goIndex (s : List String) (i : Nat) : Except String String :=
  match s.get? i with
  | some word => pure word
  | none => throw (indexOutOfRange i s.length)

/-- `ml.clearTableName(table)`: the part before `(`, the part after `.` if
any, without quotes. -/
def clearTableName (table : String) : String :=
  let s := Strings.split table '('
  let table := if s.length > 1 then s.getD 0 "" else table
  let s := Strings.split table '.'
  let name := if s.length > 1 then s.getD 1 "" else s.getD 0 ""
  Strings.trim name "`'"

/-! ### The ways a query names a table -/

/-- `part`, in backticks when `quoted`. -/
def quoteIf (quoted : Bool) (part : String) : String :=
  if quoted then "`" ++ part ++ "`" else part

/-- A table, optionally qualified by its database, both parts in backticks or
neither. -/
def qualifiedTable (database : Option String) (quoted : Bool) (table : String) : String :=
  (database.map fun database => quoteIf quoted database ++ ".").getD "" ++ quoteIf quoted table

/-- A table as a query names it: qualified or not, quoted or not, and followed
or not by `(` and anything after it. -/
def tableReference (database : Option String) (quoted : Bool) (table : String)
    (args : Option String) : String :=
  qualifiedTable database quoted table ++ (args.map ("(" ++ ·)).getD ""

theorem data_quoteIf (quoted : Bool) (part : String) :
    (quoteIf quoted part).data =
      (if quoted then ['`'] else []) ++ part.data ++ (if quoted then ['`'] else []) := by
  cases quoted <;> simp [quoteIf, String.data_append]

theorem not_mem_quoteIf {sep : Char} (tick : sep ≠ '`') {part : String} (free : sep ∉ part.data)
    (quoted : Bool) : sep ∉ (quoteIf quoted part).data := by
  rw [data_quoteIf]
  cases quoted <;> simp [free, tick]

/-- The first step of `clearTableName`: the part before the first `(`. -/
theorem beforeParen_eq {s : String} (free : '(' ∉ s.data) (args : Option String) :
    (if (Strings.split (s ++ (args.map ("(" ++ ·)).getD "") '(').length > 1 then
      (Strings.split (s ++ (args.map ("(" ++ ·)).getD "") '(').getD 0 ""
    else s ++ (args.map ("(" ++ ·)).getD "") = s := by
  cases args with
  | none => simp [Strings.split, Strings.splitOn_of_not_mem free]
  | some rest =>
      have data : (s ++ ("(" ++ rest)).data = s.data ++ '(' :: rest.data := by
        simp [String.data_append]
      simp [Strings.split, data, Strings.splitOn_append_cons free]

/-- The second step: the part after the `.` of a qualified table, or the table. -/
theorem afterDot_qualifiedTable {database : Option String} {table : String} (quoted : Bool)
    (freeTable : '.' ∉ table.data) (freeDatabase : ∀ name ∈ database, '.' ∉ name.data) :
    (if (Strings.split (qualifiedTable database quoted table) '.').length > 1 then
      (Strings.split (qualifiedTable database quoted table) '.').getD 1 ""
    else (Strings.split (qualifiedTable database quoted table) '.').getD 0 "") =
      quoteIf quoted table := by
  have quotedTable := not_mem_quoteIf (by decide) freeTable quoted
  cases database with
  | none => simp [qualifiedTable, Strings.split, Strings.splitOn_of_not_mem quotedTable]
  | some name =>
      have data : (qualifiedTable (some name) quoted table).data =
          (quoteIf quoted name).data ++ '.' :: (quoteIf quoted table).data := by
        simp [qualifiedTable, String.data_append]
      simp [Strings.split, data,
        Strings.splitOn_append_cons (not_mem_quoteIf (by decide) (freeDatabase name rfl) quoted),
        Strings.splitOn_of_not_mem quotedTable]

/-- The last step: the trim takes the backticks off. -/
theorem trim_quoteIf {table : String} (plain : ∀ c ∈ table.data, c ≠ '`' ∧ c ≠ '\'')
    (quoted : Bool) : Strings.trim (quoteIf quoted table) "`'" = table := by
  have unquoted : ∀ c ∈ table.data, c ∉ "`'".data := fun c member cut => by
    simp only [show "`'".data = ['`', '\''] from rfl, List.mem_cons, List.mem_singleton,
      List.not_mem_nil, or_false] at cut
    rcases cut with rfl | rfl
    · exact (plain _ member).1 rfl
    · exact (plain _ member).2 rfl
  have wrapped : Strings.trim ⟨(if quoted then ['`'] else []) ++ table.data ++
      (if quoted then ['`'] else [])⟩ "`'" = ⟨table.data⟩ :=
    Strings.trim_wrapped (by cases quoted <;> decide) unquoted
  rwa [← data_quoteIf] at wrapped

/-- `clearTableName` reads the table out of every way a query names it, so
that all of them are counted under the one table. -/
theorem clearTableName_tableReference (database : Option String) (quoted : Bool)
    (table : String) (args : Option String)
    (plainTable : ∀ c ∈ table.data, c ≠ '(' ∧ c ≠ '.' ∧ c ≠ '`' ∧ c ≠ '\'')
    (plainDatabase : ∀ name ∈ database, ∀ c ∈ name.data, c ≠ '(' ∧ c ≠ '.') :
    clearTableName (tableReference database quoted table args) = table := by
  have noParen : '(' ∉ (qualifiedTable database quoted table).data := by
    have quotedTable :=
      not_mem_quoteIf (by decide) (fun member => (plainTable _ member).1 rfl) quoted
    cases database with
    | none => simpa [qualifiedTable] using quotedTable
    | some name =>
        have quotedName :=
          not_mem_quoteIf (by decide) (fun member => (plainDatabase name rfl _ member).1 rfl) quoted
        simp [qualifiedTable, String.data_append, quotedName, quotedTable]
  dsimp only [clearTableName, tableReference]
  rw [beforeParen_eq noParen,
    afterDot_qualifiedTable quoted (fun member => (plainTable _ member).2.1 rfl)
      fun name found member => (plainDatabase name found _ member).2 rfl,
    trim_quoteIf (fun c member => (plainTable c member).2.2) quoted]

theorem shopUsers_clearTableName :
    (∀ c ∈ "users".data, c ≠ '(' ∧ c ≠ '.' ∧ c ≠ '`' ∧ c ≠ '\'') ∧
    (∀ name ∈ some "shop", ∀ c ∈ name.data, c ≠ '(' ∧ c ≠ '.') ∧
    clearTableName (tableReference (some "shop") true "users" none) = "users" := by
  have plainTable : ∀ c ∈ "users".data, c ≠ '(' ∧ c ≠ '.' ∧ c ≠ '`' ∧ c ≠ '\'' := by decide
  have plainDatabase : ∀ name ∈ some "shop", ∀ c ∈ name.data, c ≠ '(' ∧ c ≠ '.' := by
    simp only [Option.mem_def, Option.some.injEq, forall_eq']
    decide
  exact ⟨plainTable, plainDatabase,
    clearTableName_tableReference (some "shop") true "users" none plainTable plainDatabase⟩

example : clearTableName "`shop`.`users`" = "users" ∧ clearTableName "users(id)" = "users" := by
  decide

/-- The `switch` of `Handle` on the operation and the words of the lower-cased
query: the query type and the table. -/
def classify (operation : String) (splitQuery : List String) :
    Except String (MySQLQueryType × String) :=
  let named (queryType : MySQLQueryType) (i : Nat) : Except String (MySQLQueryType × String) :=
    (fun table => (queryType, clearTableName table)) <$> goIndex splitQuery i
  match operation with
  | "SELECT" =>
      match splitQuery.getD 0 "" with
      | "select" =>
          if splitQuery.length < 2 then throw (sliceOutOfRange 2 splitQuery.length)
          else match (splitQuery.drop 2).findIdx? (· = "from") with
            | some k => named .query (k + 3)
            | none => pure (.query, "unknown")
      | "show" => do
          let first ← goIndex splitQuery 1
          let followedBy (word next : String) : Except String Bool :=
            if first = word then (· = next) <$> goIndex splitQuery 2 else pure false
          if ← followedBy "tables" "like" then named .show 3
          else if ← followedBy "create" "table" then named .show 3
          else if ← followedBy "indexes" "from" then named .show 3
          else pure (.show, "unknown")
      | _ => pure (.other, "unknown")
  | "EXEC" =>
      match splitQuery.getD 0 "" with
      | "update" => named .update 1
      | "insert" => named .insert 2
      | "delete" => named .delete 2
      | "alter" => named .alter 2
      | "set" => pure (.alter, "unknown")
      | _ => pure (.other, "unknown")
  | _ => pure (.other, "unknown")

/-- `lazy`: the entry's `meta` binds `lazy` to `"1"`. -/
def LogEntry.lazy (entry : LogEntry) : Bool :=
  entry.meta.any fun metaData => GoMap.get? metaData "lazy" = some "1"

/-- The `MySQLSLowQuery` that `Handle` logs for an entry, its duration
`time.Microsecond * time.Duration(t)`. -/
def LogEntry.slowQuery (entry : LogEntry) : SlowQuery :=
  { query := Strings.toLower entry.query, pool := entry.pool
    duration := toInt64 (1000 * entry.microseconds) }

/-- The slow-query part of `Handle`: the handler with its slow-query log
updated, and `slow`, whether the entry took the place of the shortest logged
query. -/
def LogHandler.logSlowQuery (options : Options) (handler : LogHandler) (entry : LogEntry) :
    LogHandler × Bool :=
  if !entry.lazy && options.mySQLSlowQueriesLimit > 0 then
    if handler.slowQueriesCounter < options.mySQLSlowQueriesLimit then
      ({ handler with slowQueries := handler.slowQueries.insert entry.slowQuery
                      slowQueriesCounter := handler.slowQueriesCounter + 1 }, false)
    else (match handler.slowQueries.removeMin with
      | none => (handler, false)
      | some (min, rest) =>
          if min.microseconds ≤ entry.microseconds then
            ({ handler with slowQueries := rest.insertInPlace entry.slowQuery }, true)
          else (handler, false))
  else (handler, false)

/-- The metrics part of `Handle`: the entry counted in its group, unless the
group budget `mySQLMetricsLimits` is spent; a new group takes one unit of it. -/
def LogHandler.countQuery (handler : LogHandler) (entry : LogEntry) (slow : Bool) :
    LogHandler × Option String :=
  if handler.mySQLMetricsLimits ≤ 0 then (handler, none)
  else
    match classify entry.operation (Strings.split (Strings.toLower entry.query) ' ') with
    | .error message => (handler, some message)
    | .ok (queryType, table) =>
        let key : GroupKey := ⟨entry.pool, queryType, table, entry.lazy⟩
        let t := entry.microseconds
        match GoMap.get? handler.queries key with
        | some counters =>
            ({ handler with queries := GoMap.set handler.queries key (counters.record t slow) }, none)
        | none =>
            ({ handler with
                queries := GoMap.set handler.queries key ((⟨0, 0, 0⟩ : QueryCounters).record t slow)
                mySQLMetricsLimits := handler.mySQLMetricsLimits - 1 }, none)

/-- `ml.Handle(log)`: the handler after it, and the panic it ends with, if any. -/
def handle (options : Options) (handler : LogHandler) (entry : LogEntry) :
    LogHandler × Option String :=
  let logged := handler.logSlowQuery options entry
  logged.1.countQuery entry logged.2

/-- The slow-query part leaves the query groups and their budget alone. -/
@[simp] theorem logSlowQuery_groups (options : Options) (handler : LogHandler) (entry : LogEntry) :
    (handler.logSlowQuery options entry).1.queries = handler.queries ∧
      (handler.logSlowQuery options entry).1.mySQLMetricsLimits = handler.mySQLMetricsLimits := by
  unfold LogHandler.logSlowQuery
  split
  · split
    · exact ⟨rfl, rfl⟩
    · split <;> (try split) <;> exact ⟨rfl, rfl⟩
  · exact ⟨rfl, rfl⟩

/-- Counting leaves the slow-query log alone. -/
theorem countQuery_slowLog (handler : LogHandler) (entry : LogEntry) (slow : Bool) :
    (handler.countQuery entry slow).1.slowQueries = handler.slowQueries ∧
      (handler.countQuery entry slow).1.slowQueriesCounter = handler.slowQueriesCounter := by
  unfold LogHandler.countQuery
  split
  · exact ⟨rfl, rfl⟩
  · split
    · exact ⟨rfl, rfl⟩
    · dsimp only
      split <;> exact ⟨rfl, rfl⟩

/-- `Plugin`: its options, and its log handler when metrics or the slow-query
log are enabled. -/
structure Plugin where
  options : Options
  handler : Option LogHandler
deriving DecidableEq, Repr

/-- `Init(options)`. -/
def Plugin.init (options : Options) : Plugin :=
  { options
    handler :=
      if options.mySQLMetricsLimits > 0 ∨ options.mySQLSlowQueriesLimit > 0 then
        some { queries := [], slowQueries := .nil, slowQueriesCounter := 0,
               mySQLMetricsLimits := options.mySQLMetricsLimits }
      else none }

/-- The calls a run makes on the plugin: a query logged to the handler, which
`PluginInterfaceEngineCreated` registers, and the two `Clear` calls. -/
inductive Call where
  | handle (entry : LogEntry)
  | clearMySQLStats
  | clearMySQLSlowQueries
deriving DecidableEq, Repr

/-- One call: the plugin after it, and the panic it ends with, if any. -/
def Plugin.call (plugin : Plugin) : Call → Plugin × Option String
  | .handle entry =>
      match plugin.handler with
      | none => (plugin, none)
      | some handler =>
          let handled := handle plugin.options handler entry
          ({ plugin with handler := some handled.1 }, handled.2)
  | .clearMySQLStats =>
      ({ plugin with handler := plugin.handler.map fun handler =>
          { handler with queries := [], mySQLMetricsLimits := plugin.options.mySQLMetricsLimits } },
        none)
  | .clearMySQLSlowQueries =>
      ({ plugin with handler := plugin.handler.map fun handler =>
          { handler with slowQueries := .nil, slowQueriesCounter := 0 } }, none)

@[simp] theorem call_options (plugin : Plugin) (call : Call) :
    (plugin.call call).1.options = plugin.options := by
  cases call with
  | handle => simp only [Plugin.call]; split <;> rfl
  | _ => rfl

/-- A query of 100 microseconds on the default pool, not lazy. -/
def queryEntry (operation query : String) : LogEntry :=
  { microseconds := 100, query, pool := "default", meta := none, operation }

/-- `Handle` indexes the words of a query past their end when the query is
shorter than the pattern its first word selects: `SHOW TABLES`, a bare `SELECT`,
`INSERT` or `UPDATE`, and a `SELECT` ending in `FROM` panic in the caller's
query path. -/
theorem handle_panics_on_short_queries :
    ((Plugin.init ⟨1, 0⟩).call (.handle (queryEntry "SELECT" "SHOW TABLES"))).2 =
      some (indexOutOfRange 2 2) ∧
    ((Plugin.init ⟨1, 0⟩).call (.handle (queryEntry "SELECT" "SELECT"))).2 =
      some (sliceOutOfRange 2 1) ∧
    ((Plugin.init ⟨1, 0⟩).call (.handle (queryEntry "EXEC" "INSERT"))).2 =
      some (indexOutOfRange 2 1) ∧
    ((Plugin.init ⟨1, 0⟩).call (.handle (queryEntry "EXEC" "UPDATE"))).2 =
      some (indexOutOfRange 1 1) ∧
    ((Plugin.init ⟨1, 0⟩).call (.handle (queryEntry "SELECT" "SELECT * FROM"))).2 =
      some (indexOutOfRange 3 3) := by
  decide

/-- The plugin after a sequence of calls; a panic ends the call that raised it,
not the run. -/
def Plugin.run (plugin : Plugin) : List Call → Plugin
  | [] => plugin
  | call :: rest => (plugin.call call).1.run rest

/-- `MySQLQuery`. -/
structure MySQLQuery where
  counter : UInt64
  slowQueries : UInt64
  totalTime : UInt64
  table : String
  pool : String
  operation : MySQLQueryType
deriving DecidableEq, Repr

/-- `p.GetMySQLQueriesStats(l)`: the groups of laziness `l`, longest total time
first, in a stable sort. -/
def Plugin.getMySQLQueriesStats (plugin : Plugin) (l : Bool) : List MySQLQuery :=
  match plugin.handler with
  | none => []
  | some handler =>
      ((handler.queries.filter (·.1.lazy = l)).map fun entry =>
        { counter := entry.2.counter, slowQueries := entry.2.slowQueries,
          totalTime := entry.2.time, table := entry.1.table, pool := entry.1.pool,
          operation := entry.1.operation }).insertionSort
        fun first second => second.totalTime ≤ first.totalTime

/-- `p.GetMySQLSlowQueriesStats()`. -/
def Plugin.getMySQLSlowQueriesStats (plugin : Plugin) : List SlowQuery :=
  match plugin.handler with
  | none => []
  | some handler => handler.slowQueries.getChildren

/-- A `SELECT * FROM users` entry of `t` microseconds on the default pool. -/
def selectUsers (t : Int) : LogEntry :=
  { microseconds := t, query := "SELECT * FROM users", pool := "default", meta := none,
    operation := "SELECT" }

/-- With a slow-query log of one query, the second query to arrive evicts the
first and is then inserted into the empty tree that eviction leaves, and lost:
the log is empty while its counter says one query is kept. -/
theorem run_single_slot_loses_slow_queries :
    (((Plugin.init ⟨0, 1⟩).run [.handle (selectUsers 5), .handle (selectUsers 7)]).handler.map
        fun handler => (handler.slowQueries.size, handler.slowQueriesCounter)) = some (0, 1) ∧
      ((Plugin.init ⟨0, 1⟩).run [.handle (selectUsers 5), .handle (selectUsers 7)]
        ).getMySQLSlowQueriesStats = [] := by
  decide

/-- With a budget of one group, the second identical query finds the budget
spent and is not counted in the group the first one created. -/
theorem run_single_group_drops_repeated_query :
    ((Plugin.init ⟨1, 0⟩).run [.handle (selectUsers 10), .handle (selectUsers 10)]
      ).getMySQLQueriesStats false =
      [{ counter := 1, slowQueries := 0, totalTime := 10, table := "users", pool := "default",
         operation := .query }] := by
  decide

end BeeOrm.Metrics
