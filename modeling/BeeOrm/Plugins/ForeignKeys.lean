import BeeOrm.Schema.Tags
import Mathlib.Data.List.Sort
import Mathlib.Data.String.Basic

/-! The `foreign_keys` plugin. `InterfaceInitEntitySchema` picks the reference
columns that get a foreign key. When the schema of an entity is compared with
its table, `PluginInterfaceTableSQLSchemaDefinition` builds the keys those
columns want, reads the keys the table has from `INFORMATION_SCHEMA` and the
`CREATE TABLE` text, and emits one `ALTER TABLE` that drops, before the schema
change, the keys to remove or redefine, and one that adds, after it, the keys to
create. Engine and database reads are parameters. -/

namespace BeeOrm.ForeignKeys

/-- `foreignIndex`. -/
structure ForeignIndex where
  column : String
  table : String
  parentDatabase : String
  onDelete : String
deriving DecidableEq, Repr

/-- The tag name of `Init(options)`: `fk` unless the options name another. -/
def tagName (optionsTagName : String) : String :=
  if optionsTagName = "" then "fk" else optionsTagName

/-- `InterfaceInitEntitySchema`: the `fk-columns` option it sets, the reference
columns with a key, all of them under an entity-level tag but those tagged
`skip`, and those tagged themselves; `none` when it sets no option. -/
def interfaceInitEntitySchema (tagName : String) (refs : List String) (tags : SchemaTags) :
    Option (List String) :=
  if refs.length = 0 then none
  else
    let globalFK := tags.GetTag "ORM" tagName "true" "" = "true"
    let fkList := refs.filter fun column =>
      let columnTag := tags.GetTag column tagName "true" ""
      globalFK ∧ columnTag ≠ "skip" ∨ columnTag = "true"
    if fkList.length > 0 then some fkList else none

/-! ## The keys of a table -/

/-- A row of the `KEY_COLUMN_USAGE` query of `getForeignKeys`. -/
structure KeyColumnUsage where
  constraintName : String
  columnName : String
  referencedTableName : String
  referencedTableSchema : String
deriving DecidableEq, Repr

/-- The `ON DELETE` action `getForeignKeys` reads for a constraint: `RESTRICT`,
unless a line of the `CREATE TABLE` text that opens with the constraint has
`DELETE` as its last word but one, when it is that line's last word. A line that
opens with the constraint holds a space, so it has the two words read. -/
def readOnDelete (createSchema constraintName : String) : String :=
  (Strings.split createSchema '\n').foldl (fun onDelete line =>
    let line := Strings.trimSpace (Strings.trimRight line ",")
    if Strings.index line ("CONSTRAINT `" ++ constraintName ++ "`") = 0 then
      let words := Strings.split line ' '
      if Strings.toUpper (words.getD (words.length - 2) "") = "DELETE" then
        Strings.toUpper (words.getD (words.length - 1) "")
      else onDelete
    else onDelete) "RESTRICT"

/-- `getForeignKeys(engine, sqlSchema)` on the rows its query returns. -/
def getForeignKeys (rows : List KeyColumnUsage) (createSchema : String) :
    List (String × ForeignIndex) :=
  rows.foldl (fun keys row => GoMap.set keys row.constraintName
    { parentDatabase := row.referencedTableSchema, table := row.referencedTableName,
      column := row.columnName, onDelete := readOnDelete createSchema row.constraintName }) []

/-! ## The alters -/

/-- `IndexSchemaDefinition`. -/
structure IndexSchemaDefinition where
  name : String
  unique : Bool
  columns : List String
deriving DecidableEq, Repr

/-- `beeorm.Alter`. -/
structure Alter where
  sql : String
  safe : Bool
  pool : String
deriving DecidableEq, Repr

/-- The fields of `TableSQLSchemaDefinition` the plugin reads and writes. -/
structure TableSQLSchemaDefinition where
  entityIndexes : List IndexSchemaDefinition
  dbCreateSchema : String
  preAlters : List Alter
  postAlters : List Alter
deriving DecidableEq, Repr

/-- What the plugin reads from the engine and the entity schema: the database of
the entity's pool, the `String()` of its type, its table and pool, for a
reference column the table and pool database of the entity it references, and
the rows of the `KEY_COLUMN_USAGE` query. -/
structure SchemaContext where
  database : String
  entityType : String
  tableName : String
  mysqlPool : String
  refTarget : String → String × String
  keyColumnUsage : List KeyColumnUsage

/-- `buildCreateForeignKeySQL(keyName, definition)`. -/
def buildCreateForeignKeySQL (keyName : String) (definition : ForeignIndex) : String :=
  "ADD CONSTRAINT `" ++ keyName ++ "` FOREIGN KEY (`" ++ definition.column ++ "`) REFERENCES `" ++
    definition.parentDatabase ++ "`.`" ++ definition.table ++ "` (`ID`) ON DELETE " ++
    definition.onDelete

/-- `buildDropForeignKeySQL(keyName)`. -/
def buildDropForeignKeySQL (keyName : String) : String :=
  "DROP FOREIGN KEY `" ++ keyName ++ "`"

/-- The parts of an `ALTER TABLE`: `,\n` after each but the last, `;` after it. -/
def joinParts : List String → String
  | [] => ""
  | [last] => last ++ ";"
  | value :: rest => value ++ ",\n" ++ joinParts rest

/-- `sort.Strings`: byte order, which on UTF-8 is the order of code points. -/
def sortStrings (values : List String) : List String := values.insertionSort (· ≤ ·)

/-- The body of the loop over the table's keys, on the keys to add and to drop:
a key the entity does not want, or wants with another definition, is dropped;
one it wants as it is is no longer added. -/
def compareStep (state : List (String × ForeignIndex) × List (String × ForeignIndex))
    (entry : String × ForeignIndex) :
    List (String × ForeignIndex) × List (String × ForeignIndex) :=
  match GoMap.get? state.1 entry.1 with
  | none => (state.1, GoMap.set state.2 entry.1 entry.2)
  | some current =>
      if current = entry.2 then (GoMap.delete state.1 entry.1, state.2)
      else (state.1, GoMap.set state.2 entry.1 entry.2)

/-- The loop over the table's keys `dbForeignKeys`: the keys left to add and the
keys to drop. -/
def compareForeignKeys (addForeignKeys dbForeignKeys : List (String × ForeignIndex)) :
    List (String × ForeignIndex) × List (String × ForeignIndex) :=
  dbForeignKeys.foldl compareStep (addForeignKeys, [])

/-- The safe `ALTER TABLE` of the entity's table the plugin appends: its
clauses sorted, after the `alterSQL` header. -/
def alterTable (context : SchemaContext) (clauses : List String) : Alter :=
  ⟨"ALTER TABLE `" ++ context.database ++ "`.`" ++ context.tableName ++ "`\n" ++
    joinParts (sortStrings clauses), true, context.mysqlPool⟩

/-- The alters the plugin appends to `PreAlters` and `PostAlters` for the keys
to drop and to add; none when both are empty. -/
def foreignKeyAlters (context : SchemaContext)
    (addForeignKeys dropForeignKeys : List (String × ForeignIndex)) : List Alter × List Alter :=
  if addForeignKeys.length = 0 ∧ dropForeignKeys.length = 0 then ([], [])
  else
    (if dropForeignKeys.length > 0 then
        [alterTable context (dropForeignKeys.map fun entry => buildDropForeignKeySQL entry.1)]
      else [],
     if addForeignKeys.length > 0 then
        [alterTable context (addForeignKeys.map fun entry =>
          buildCreateForeignKeySQL entry.1 entry.2)]
      else [])

/-- Each of the two lists holds one alter exactly when it has keys to carry. -/
theorem foreignKeyAlters_eq (context : SchemaContext) (add drop : List (String × ForeignIndex)) :
    foreignKeyAlters context add drop =
      (if drop = [] then []
        else [alterTable context (drop.map fun entry => buildDropForeignKeySQL entry.1)],
       if add = [] then []
        else [alterTable context (add.map fun entry =>
          buildCreateForeignKeySQL entry.1 entry.2)]) := by
  unfold foreignKeyAlters
  by_cases noAdd : add = [] <;> by_cases noDrop : drop = [] <;>
    simp [noAdd, noDrop, List.length_pos]

/-- Whether an index of the schema opens with `refColumn`; `GetColumns()[0]`
panics on an index without columns. -/
def hasIndexOn (refColumn : String) : List IndexSchemaDefinition → Except String Bool
  | [] => pure false
  | index :: rest =>
      match index.columns with
      | [] => throw (indexOutOfRange 0 0)
      | first :: _ => if first = refColumn then pure true else hasIndexOn refColumn rest

/-- One reference column of the plugin's first loop: its wanted key, named
`database:type:column`, and an index `<column>Ref` when no index of the schema
opens with it. -/
def addReference (context : SchemaContext)
    (state : List (String × ForeignIndex) × List IndexSchemaDefinition) (refColumn : String) :
    Except String (List (String × ForeignIndex) × List IndexSchemaDefinition) := do
  let (table, database) := context.refTarget refColumn
  let add := GoMap.set state.1 (database ++ ":" ++ context.entityType ++ ":" ++ refColumn)
    ⟨refColumn, table, database, "RESTRICT"⟩
  let hasIndex ← hasIndexOn refColumn state.2
  pure (add, if hasIndex then state.2 else state.2 ++ [⟨refColumn ++ "Ref", false, [refColumn]⟩])

/-- `dbForeignKeys`: the keys `getForeignKeys` reads when the table exists, and
none when its `CREATE TABLE` text is empty. -/
def dbForeignKeys (context : SchemaContext) (sqlSchema : TableSQLSchemaDefinition) :
    List (String × ForeignIndex) :=
  if sqlSchema.dbCreateSchema ≠ "" then
    getForeignKeys context.keyColumnUsage sqlSchema.dbCreateSchema
  else []

/-- `PluginInterfaceTableSQLSchemaDefinition` on the `fk-columns` option `refs`:
the schema definition it leaves, or the panic it ends with. -/
def pluginInterfaceTableSQLSchemaDefinition (context : SchemaContext)
    (refs : Option (List String)) (sqlSchema : TableSQLSchemaDefinition) :
    Except String TableSQLSchemaDefinition :=
  match refs with
  | none => pure sqlSchema
  | some refsMap => do
      let (addForeignKeys, entityIndexes) ←
        refsMap.foldlM (addReference context) ([], sqlSchema.entityIndexes)
      let compared := compareForeignKeys addForeignKeys (dbForeignKeys context sqlSchema)
      let alters := foreignKeyAlters context compared.1 compared.2
      pure { sqlSchema with
        entityIndexes
        preAlters := sqlSchema.preAlters ++ alters.1
        postAlters := sqlSchema.postAlters ++ alters.2 }

/-- The `CREATE TABLE` text of a table whose key on `GroupID` sets null and whose
key on `TeamID` cascades on delete and on update. -/
def usersCreateTable : String :=
  "CREATE TABLE `users` (\n" ++
  "  CONSTRAINT `db:main.User:GroupID` FOREIGN KEY (`GroupID`) REFERENCES `groups` (`ID`) " ++
  "ON DELETE SET NULL,\n" ++
  "  CONSTRAINT `db:main.User:TeamID` FOREIGN KEY (`TeamID`) REFERENCES `teams` (`ID`) " ++
  "ON DELETE CASCADE ON UPDATE CASCADE\n) ENGINE=InnoDB"

/-- The rows `KEY_COLUMN_USAGE` gives for that table. -/
def usersKeyColumnUsage : List KeyColumnUsage :=
  [⟨"db:main.User:GroupID", "GroupID", "groups", "db"⟩,
    ⟨"db:main.User:TeamID", "TeamID", "teams", "db"⟩]

/-- The entity `main.User` of table `users` in database `db`, with references
`GroupID` and `TeamID`. -/
def usersContext : SchemaContext where
  database := "db"
  entityType := "main.User"
  tableName := "users"
  mysqlPool := "default"
  refTarget := fun column => if column = "GroupID" then ("groups", "db") else ("teams", "db")
  keyColumnUsage := usersKeyColumnUsage

/-- The schema definition of `users`, with an index on each reference. -/
def usersTable : TableSQLSchemaDefinition :=
  ⟨[⟨"GroupID", false, ["GroupID"]⟩, ⟨"TeamID", false, ["TeamID"]⟩], usersCreateTable, [], []⟩

set_option maxRecDepth 2000 in
/-- `getForeignKeys` reads only the last two words of a constraint line: the key
that sets null and the key that cascades before an `ON UPDATE` clause both read
as `RESTRICT`, equal to the keys the entity wants, so the plugin emits no alter
and the keys are never corrected. -/
theorem getForeignKeys_misreads_on_delete :
    getForeignKeys usersKeyColumnUsage usersCreateTable =
      [("db:main.User:GroupID", ⟨"GroupID", "groups", "db", "RESTRICT"⟩),
        ("db:main.User:TeamID", ⟨"TeamID", "teams", "db", "RESTRICT"⟩)] ∧
    (pluginInterfaceTableSQLSchemaDefinition usersContext (some ["GroupID", "TeamID"])
      usersTable).toOption = some usersTable := by
  decide

/-! ## Convergence -/

/-- The keys of a table after `DROP FOREIGN KEY` of each of `drops` and then
`ADD CONSTRAINT` of each of `adds`. -/
def migrate (existing : List (String × ForeignIndex)) (drops : List String)
    (adds : List (String × ForeignIndex)) : List (String × ForeignIndex) :=
  adds.foldl (fun keys entry => GoMap.set keys entry.1 entry.2) (drops.foldl GoMap.delete existing)

variable {wanted : List (String × ForeignIndex)}

/-- What the loop over the table's keys has done after the keys `done`: a key
held as wanted is neither added nor dropped, any other is added as wanted and
dropped as held. -/
structure Compared (wanted done add drop : List (String × ForeignIndex)) : Prop where
  added : ∀ name, GoMap.get? add name =
    if GoMap.get? done name = GoMap.get? wanted name then none else GoMap.get? wanted name
  dropped : ∀ name, GoMap.get? drop name =
    if GoMap.get? done name = GoMap.get? wanted name then none else GoMap.get? done name
  distinct : (GoMap.keys add).Nodup

theorem Compared.start (distinct : (GoMap.keys wanted).Nodup) : Compared wanted [] wanted [] := by
  refine ⟨fun name => ?_, fun name => ?_, distinct⟩
  · split <;> simp_all
  · split <;> rfl

/-- One key of the table, not met before, keeps the invariant. -/
theorem Compared.step {done : List (String × ForeignIndex)}
    {state : List (String × ForeignIndex) × List (String × ForeignIndex)}
    (compared : Compared wanted done state.1 state.2) {entry : String × ForeignIndex}
    (fresh : entry.1 ∉ GoMap.keys done) :
    Compared wanted (done ++ [entry]) (compareStep state entry).1 (compareStep state entry).2 := by
  have held : ∀ name, GoMap.get? (done ++ [entry]) name =
      if entry.1 = name then some entry.2 else GoMap.get? done name := fun name => by
    rw [← GoMap.set_of_not_mem _ _ fresh, GoMap.get?_set]
  have absent : GoMap.get? done entry.1 = none := (GoMap.get?_eq_none_iff _ _).2 fresh
  have addAt : GoMap.get? state.1 entry.1 = GoMap.get? wanted entry.1 := by
    rw [compared.added, absent]
    split
    · assumption
    · rfl
  have dropAt : GoMap.get? state.2 entry.1 = none := by
    rw [compared.dropped, absent]
    split <;> rfl
  unfold compareStep
  split
  next missing =>
    have wantedAt := addAt.symm.trans missing
    refine ⟨fun name => ?_, fun name => ?_, compared.distinct⟩
    · by_cases same : entry.1 = name
      · subst same
        simp [held, wantedAt, missing]
      · simp [held, same, compared.added name]
    · by_cases same : entry.1 = name
      · subst same
        simp [held, wantedAt]
      · simp [held, same, GoMap.get?_set_of_ne, compared.dropped name]
  next current found =>
    have wantedAt := addAt.symm.trans found
    split
    next unchanged =>
      refine ⟨fun name => ?_, fun name => ?_, GoMap.nodup_keys_delete compared.distinct _⟩
      · by_cases same : entry.1 = name
        · subst same
          simp [held, wantedAt, unchanged, GoMap.get?_delete]
        · simp [held, same, GoMap.get?_delete, compared.added name]
      · by_cases same : entry.1 = name
        · subst same
          simp [held, wantedAt, unchanged, dropAt]
        · simp [held, same, compared.dropped name]
    next changed =>
      refine ⟨fun name => ?_, fun name => ?_, compared.distinct⟩
      · by_cases same : entry.1 = name
        · subst same
          simp [held, wantedAt, found, Ne.symm changed]
        · simp [held, same, compared.added name]
      · by_cases same : entry.1 = name
        · subst same
          simp [held, wantedAt, Ne.symm changed]
        · simp [held, same, GoMap.get?_set_of_ne, compared.dropped name]

/-- The loop over all of a table's keys. -/
theorem compared_compareForeignKeys (distinctWanted : (GoMap.keys wanted).Nodup)
    (existing : List (String × ForeignIndex)) (distinct : (GoMap.keys existing).Nodup) :
    Compared wanted existing (compareForeignKeys wanted existing).1
      (compareForeignKeys wanted existing).2 := by
  induction existing using List.reverseRecOn with
  | nil => exact Compared.start distinctWanted
  | append_singleton done entry induction =>
      rw [GoMap.keys, List.map_append, List.nodup_append] at distinct
      rw [compareForeignKeys, List.foldl_append, List.foldl_cons, List.foldl_nil]
      exact (induction distinct.1).step fun member => distinct.2.2 member (List.mem_singleton_self _)

theorem get?_migrate (existing : List (String × ForeignIndex)) (drops : List String)
    {adds : List (String × ForeignIndex)} (distinct : (GoMap.keys adds).Nodup) (name : String) :
    GoMap.get? (migrate existing drops adds) name =
      if name ∈ GoMap.keys adds then GoMap.get? adds name
      else if name ∈ drops then none else GoMap.get? existing name := by
  rw [migrate, GoMap.get?_foldl_set _ _ distinct, GoMap.get?_foldl_delete]

/-- For any wanted keys and any keys a table has, each a Go map with every key
once, the loop over the table's keys leaves to drop exactly the table's keys not
wanted as they are, and to add exactly the wanted keys the table does not hold
as wanted, so that dropping and then adding turns the table's keys into the
wanted ones; and both are empty exactly when the two agree. -/
theorem compareForeignKeys_converge {wanted existing : List (String × ForeignIndex)}
    (distinctWanted : (GoMap.keys wanted).Nodup) (distinctExisting : (GoMap.keys existing).Nodup) :
    (∀ name, name ∈ GoMap.keys (compareForeignKeys wanted existing).2 ↔
      name ∈ GoMap.keys existing ∧
        (name ∉ GoMap.keys wanted ∨ GoMap.get? existing name ≠ GoMap.get? wanted name)) ∧
    (∀ name, name ∈ GoMap.keys (compareForeignKeys wanted existing).1 ↔
      name ∈ GoMap.keys wanted ∧
        (name ∉ GoMap.keys existing ∨ GoMap.get? existing name ≠ GoMap.get? wanted name)) ∧
    (∀ name, GoMap.get? (migrate existing (GoMap.keys (compareForeignKeys wanted existing).2)
      (compareForeignKeys wanted existing).1) name = GoMap.get? wanted name) ∧
    ((compareForeignKeys wanted existing).2 = [] ∧ (compareForeignKeys wanted existing).1 = [] ↔
      ∀ name, GoMap.get? existing name = GoMap.get? wanted name) := by
  have compared := compared_compareForeignKeys distinctWanted existing distinctExisting
  have dropped : ∀ name, name ∈ GoMap.keys (compareForeignKeys wanted existing).2 ↔
      name ∈ GoMap.keys existing ∧
        (name ∉ GoMap.keys wanted ∨ GoMap.get? existing name ≠ GoMap.get? wanted name) := by
    intro name
    simp only [GoMap.mem_keys_iff_get?_isSome, compared.dropped name]
    by_cases same : GoMap.get? existing name = GoMap.get? wanted name <;>
      simp [same, Option.isSome_iff_ne_none]
  have added : ∀ name, name ∈ GoMap.keys (compareForeignKeys wanted existing).1 ↔
      name ∈ GoMap.keys wanted ∧
        (name ∉ GoMap.keys existing ∨ GoMap.get? existing name ≠ GoMap.get? wanted name) := by
    intro name
    simp only [GoMap.mem_keys_iff_get?_isSome, compared.added name]
    by_cases same : GoMap.get? existing name = GoMap.get? wanted name <;>
      simp [same, Option.isSome_iff_ne_none]
  refine ⟨dropped, added, fun name => ?_, ?_⟩
  · rw [get?_migrate _ _ compared.distinct]
    simp only [GoMap.mem_keys_iff_get?_isSome, compared.added name, compared.dropped name]
    by_cases same : GoMap.get? existing name = GoMap.get? wanted name
    · simp [same]
    · cases wantedAt : GoMap.get? wanted name <;> simp_all [Option.isSome_iff_ne_none]
  · constructor
    · rintro ⟨noDrop, noAdd⟩ name
      have addAt := compared.added name
      have dropAt := compared.dropped name
      rw [noAdd, GoMap.get?_nil] at addAt
      rw [noDrop, GoMap.get?_nil] at dropAt
      by_cases same : GoMap.get? existing name = GoMap.get? wanted name
      · exact same
      · simp only [same, if_false] at addAt dropAt
        exact dropAt.symm.trans addAt
    · intro agree
      exact ⟨GoMap.eq_nil_of_get? fun name => by simp [compared.dropped name, agree name],
        GoMap.eq_nil_of_get? fun name => by simp [compared.added name, agree name]⟩

/-- The plugin's first loop assigns each wanted key once: the keys it wants are
a Go map. -/
theorem nodup_keys_foldlM_addReference {context : SchemaContext} {refs : List String}
    {wanted : List (String × ForeignIndex)} {entityIndexes indexes : List IndexSchemaDefinition}
    (referenced : refs.foldlM (addReference context) ([], entityIndexes) = .ok (wanted, indexes)) :
    (GoMap.keys wanted).Nodup :=
  foldlM_invariant
    (P := fun state : List (String × ForeignIndex) × List IndexSchemaDefinition =>
      (GoMap.keys state.1).Nodup)
    (fun state ref _ distinct added => by
      unfold addReference at added
      cases hasIndex : hasIndexOn ref state.2 with
      | error => simp [hasIndex, bind, Except.bind] at added
      | ok _ =>
          simp only [hasIndex, bind, Except.bind, pure, Except.pure, Except.ok.injEq] at added
          exact added ▸ GoMap.nodup_keys_set distinct _ _)
    refs (by exact List.nodup_nil) referenced

/-- The keys `getForeignKeys` reads are a Go map. -/
theorem nodup_keys_dbForeignKeys (context : SchemaContext) (sqlSchema : TableSQLSchemaDefinition) :
    (GoMap.keys (dbForeignKeys context sqlSchema)).Nodup := by
  unfold dbForeignKeys getForeignKeys
  split
  · exact List.foldlRecOn
      (motive := fun keys : List (String × ForeignIndex) => (GoMap.keys keys).Nodup)
      _ _ _ List.nodup_nil fun _ distinct _ _ => GoMap.nodup_keys_set distinct _ _
  · exact List.nodup_nil

/-- The keys `main.User` wants on `GroupID` and `TeamID`. -/
def wantedUserKeys : List (String × ForeignIndex) :=
  [("db:main.User:GroupID", ⟨"GroupID", "groups", "db", "RESTRICT"⟩),
    ("db:main.User:TeamID", ⟨"TeamID", "teams", "db", "RESTRICT"⟩)]

/-- The table of `usersContext` holding besides a key on `OrgID`, which no
reference column wants. -/
def staleUsersContext : SchemaContext :=
  { usersContext with
    keyColumnUsage := usersKeyColumnUsage ++ [⟨"db:main.User:OrgID", "OrgID", "orgs", "db"⟩] }

set_option maxRecDepth 2000 in
/-- Against that table the plugin adds no key, and drops the key on `OrgID` in
one safe alter before the schema change. -/
example : (pluginInterfaceTableSQLSchemaDefinition staleUsersContext (some ["GroupID", "TeamID"])
      usersTable).toOption.map (fun sqlSchema => (sqlSchema.preAlters, sqlSchema.postAlters)) =
    some ([⟨"ALTER TABLE `db`.`users`\nDROP FOREIGN KEY `db:main.User:OrgID`;", true, "default"⟩],
      []) := by
  decide

end BeeOrm.ForeignKeys
