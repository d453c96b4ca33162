import BeeOrm.Schema.Tags
import BeeOrm.Schema.CachedQuery
import Mathlib.Algebra.Order.Ring.Nat

/-! The index declarations of an entity and `tableSchema.validateIndexes`. An
index is a map from ordinal to column; `init` reads them from the entity-level
`unique` tag (`name:col1,col2|name2:…`), from the field-level `unique` and
`index` tags (`name[:ordinal]`, comma-separated), and adds an index `_ref` for a
reference column no index starts with. -/

namespace BeeOrm

/-- `map[int]string`: an index's columns by ordinal. -/
abbrev IndexColumns := List (Int × String)

/-- `map[string]map[int]string`: indexes by name. -/
abbrev Indexes := List (String × IndexColumns)

/-- The index maps `init` builds before validating them. -/
structure IndexDeclarations where
  uniqueIndices : Indexes := []
  uniqueIndicesSimple : List (String × List String) := []
  uniqueIndicesSimpleGlobal : List (String × List String) := []
  indices : Indexes := []

/-- `indexes[name][ordinal] = column`, creating `indexes[name]` when nil. -/
def setIndexColumn (indexes : Indexes) (name : String) (ordinal : Int) (column : String) :
    Indexes :=
  GoMap.set indexes name (GoMap.set (GoMap.getD indexes name []) ordinal column)

/-- `simple[name] = append(simple[name], column)`. -/
def appendIndexColumn (simple : List (String × List String)) (name column : String) :
    List (String × List String) :=
  GoMap.set simple name (GoMap.getD simple name [] ++ [column])

/-- One `part` of the entity-level `unique` tag, `name:col1,col2`; `def[1]`
panics when the part has no `:`. -/
def addGlobalUnique (declarations : IndexDeclarations) (part : String) :
    Except String IndexDeclarations :=
  match Strings.split part ':' with
  | name :: columns :: _ =>
      let cleared := { declarations with
        uniqueIndices := GoMap.set declarations.uniqueIndices name []
        uniqueIndicesSimple := GoMap.set declarations.uniqueIndicesSimple name []
        uniqueIndicesSimpleGlobal := GoMap.set declarations.uniqueIndicesSimpleGlobal name [] }
      pure <| (Strings.split columns ',').enum.foldl (fun declarations (i, field) =>
        { declarations with
          uniqueIndices := setIndexColumn declarations.uniqueIndices name (i + 1) field
          uniqueIndicesSimple := appendIndexColumn declarations.uniqueIndicesSimple name field
          uniqueIndicesSimpleGlobal :=
            appendIndexColumn declarations.uniqueIndicesSimpleGlobal name field })
        cleared
  | _ => throw (indexOutOfRange 1 1)

/-- The name and ordinal of one `name[:ordinal]` entry; the ordinal defaults to 1
and a malformed one parses as `strconv.ParseInt` leaves it. -/
def parseIndexEntry (indexName : String) : String × Int :=
  match Strings.split indexName ':' with
  | name :: ordinal :: _ => (name, Strconv.parseInt ordinal)
  | name :: [] => (name, 1)
  | [] => ("", 1)

/-- The field-level `unique` and `index` tags of the field with column key `k`.
An `ORM` key takes no part in unique indexes, but does in plain ones. -/
def addFieldIndexes (declarations : IndexDeclarations) (k : String) (v : FieldTags) :
    IndexDeclarations :=
  let declarations := match GoMap.get? v "unique" with
    | some keys =>
        if k ≠ "ORM" then
          (Strings.split keys ',').foldl (fun declarations indexName =>
            let (name, id) := parseIndexEntry indexName
            { declarations with
              uniqueIndices := setIndexColumn declarations.uniqueIndices name id k
              uniqueIndicesSimple := appendIndexColumn declarations.uniqueIndicesSimple name k })
            declarations
        else declarations
    | none => declarations
  match GoMap.get? v "index" with
  | some keys =>
      (Strings.split keys ',').foldl (fun declarations indexName =>
        let (name, id) := parseIndexEntry indexName
        { declarations with indices := setIndexColumn declarations.indices name id k })
        declarations
  | none => declarations

/-- The index `_ref` that `init` adds for a reference column that is the first
column of no index. -/
def addRefIndex (indices uniqueIndices : Indexes) (ref : String) : Indexes :=
  if indices.any (fun v => GoMap.getD v.2 1 "" = ref) ||
      uniqueIndices.any (fun v => GoMap.getD v.2 1 "" = ref) then indices
  else GoMap.set indices ("_" ++ ref) [(1, ref)]

/-- The index part of `tableSchema.init`: the entity-level `unique` tag, then the
field tags in map order, then the reference indexes. -/
def parseIndexes (tags : SchemaTags) (oneRefs : List String) :
    Except String IndexDeclarations := do
  let uniqueGlobal := tags.getTag "unique" "" ""
  let declarations ← if uniqueGlobal ≠ "" then
      (Strings.split uniqueGlobal '|').foldlM addGlobalUnique {}
    else pure {}
  let declarations := tags.foldl (fun declarations entry =>
    addFieldIndexes declarations entry.1 entry.2) declarations
  pure { declarations with
    indices := oneRefs.foldl
      (fun indices ref => addRefIndex indices declarations.uniqueIndices ref)
      declarations.indices }

/-! ## validateIndexes -/

/-- `same` of the duplicate check: how many of the ordinals `i, i + 1, …` up to
`len(v)` the index `v2` gives the column `v` gives, before the first mismatch. -/
def samePrefix (v v2 : IndexColumns) : (i fuel : Nat) → Nat
  | _, 0 => 0
  | i, fuel + 1 =>
      if GoMap.get? v2 i = some (GoMap.getD v i "") then 1 + samePrefix v v2 (i + 1) fuel
      else 0

/-- `valid`: the number of pairs of a query field and an equal index column. -/
def countMatches (queryFields : List String) (columns : IndexColumns) : Nat :=
  (queryFields.map fun field1 => (columns.filter (·.2 = field1)).length).sum

/-- The order-field loop: the reversed order fields matched against the index
columns from ordinal `key` downwards, counting until the first mismatch. -/
def matchOrderFields (columns : IndexColumns) : Int → List String → Nat
  | _, [] => 0
  | key, field :: rest =>
      if GoMap.getD columns key "" = field then 1 + matchOrderFields columns (key - 1) rest
      else 0

/-- Whether the index `columns` serves the multi-row cached query `v`. -/
def coversQuery (v : CachedQueryDefinition) (columns : IndexColumns) : Bool :=
  countMatches v.queryFields columns = v.queryFields.length &&
    (v.orderFields.length = 0 ||
      let key : Int := columns.length
      let key := if GoMap.getD columns key "" = "FakeDelete" then key - 1 else key
      matchOrderFields columns key v.orderFields.reverse = v.orderFields.length)

/-- Whether the unique index `columns` serves the single-row cached query `v`. -/
def matchesUniqueQuery (v : CachedQueryDefinition) (columns : IndexColumns) : Bool :=
  columns.length = v.queryFields.length &&
    countMatches v.queryFields columns = columns.length

/-- `all` of `validateIndexes`: the unique indexes, then the plain ones, a plain
index replacing a unique one of the same name. -/
def allIndexes (uniqueIndices indices : Indexes) : Indexes :=
  indices.foldl (fun all entry => GoMap.set all entry.1 entry.2)
    (uniqueIndices.foldl (fun all entry => GoMap.set all entry.1 entry.2) [])

/-- `tableSchema.validateIndexes(uniqueIndices, indices)` on the schema of the
type with `String()` `typeName`; `.ok ()` is a nil error. -/
def validateIndexes (typeName : String)
    (cachedIndexesOne cachedIndexes : List (String × CachedQueryDefinition))
    (uniqueIndices indices : Indexes) : Except String Unit := do
  let all := allIndexes uniqueIndices indices
  for (k, v) in all do
    for (k2, v2) in all do
      if k ≠ k2 ∧ samePrefix v v2 1 v.length = v.length then
        throw s!"duplicated index {k} with {k2} in {typeName}"
  for (k, v) in cachedIndexesOne do
    unless uniqueIndices.any (fun entry => matchesUniqueQuery v entry.2) do
      throw s!"missing unique index for cached query '{k}' in {typeName}"
  for (k, v) in cachedIndexes do
    unless v.query = "1 ORDER BY `ID`" || all.any (fun entry => coversQuery v entry.2) do
      throw s!"missing index for cached query '{k}' in {typeName}"

end BeeOrm
