import BeeOrm.Schema.Init
import Mathlib.Tactic.LiftLets

/-! `tableSchema.GetUniqueIndexes`: the unique indexes of a schema by name, read
from the two column lists `init` keeps beside the index maps it validates. The
lists are filled as the tags are read: a field-level member is appended in the
iteration order of the tag map, and an entity-level definition is copied over
the list of its name as a whole. -/

namespace BeeOrm

/-- `tableSchema.GetUniqueIndexes()`: the field-level lists, then the
entity-level ones over them. -/
def TableSchema.getUniqueIndexes (schema : TableSchema) : List (String × List String) :=
  schema.uniqueIndicesGlobal.foldl (fun data entry => GoMap.set data entry.1 entry.2)
    (schema.uniqueIndices.foldl (fun data entry => GoMap.set data entry.1 entry.2) [])

/-! ## Distinct names -/

/-- The two column lists of the index declarations are maps: each index name
occurs once in each. -/
structure DistinctNames (declarations : IndexDeclarations) : Prop where
  simple : (GoMap.keys declarations.uniqueIndicesSimple).Nodup
  global : (GoMap.keys declarations.uniqueIndicesSimpleGlobal).Nodup

theorem DistinctNames.addGlobalUnique {declarations added : IndexDeclarations}
    (distinct : DistinctNames declarations) {part : String}
    (ok : addGlobalUnique declarations part = .ok added) : DistinctNames added := by
  unfold BeeOrm.addGlobalUnique at ok
  split at ok
  · cases ok
    refine List.foldlRecOn _ _ _ ?_ fun declarations distinct _ _ => ?_
    · exact ⟨GoMap.nodup_keys_set distinct.simple _ _, GoMap.nodup_keys_set distinct.global _ _⟩
    · exact ⟨GoMap.nodup_keys_set distinct.simple _ _, GoMap.nodup_keys_set distinct.global _ _⟩
  · cases ok

theorem DistinctNames.addFieldIndexes {declarations : IndexDeclarations}
    (distinct : DistinctNames declarations) (k : String) (v : FieldTags) :
    DistinctNames (addFieldIndexes declarations k v) := by
  unfold BeeOrm.addFieldIndexes
  lift_lets
  intro unique
  have uniqueDistinct : DistinctNames unique := by
    simp only [unique]
    split
    · split
      · exact List.foldlRecOn _ _ _ distinct fun declarations distinct _ _ =>
          ⟨GoMap.nodup_keys_set distinct.simple _ _, distinct.global⟩
      · exact distinct
    · exact distinct
  split
  · exact List.foldlRecOn (motive := DistinctNames) _ _ _ uniqueDistinct
      fun _ distinct _ _ => ⟨distinct.simple, distinct.global⟩
  · exact uniqueDistinct

theorem DistinctNames.foldl_addFieldIndexes {read : IndexDeclarations}
    (distinct : DistinctNames read) (tags : SchemaTags) :
    DistinctNames (tags.foldl (fun declarations entry =>
      BeeOrm.addFieldIndexes declarations entry.1 entry.2) read) :=
  List.foldlRecOn tags _ read distinct fun _ distinct entry _ =>
    distinct.addFieldIndexes entry.1 entry.2

/-- The unique column lists of the declarations `init` reads: the entity-level
tag read from no declaration, then the field tags in map order. -/
theorem parseIndexes_eq_ok {tags : SchemaTags} {oneRefs : List String}
    {declarations : IndexDeclarations} (parsed : parseIndexes tags oneRefs = .ok declarations) :
    ∃ read : IndexDeclarations,
      (read = {} ∨ (Strings.split (tags.getTag "unique" "" "") '|').foldlM addGlobalUnique {} =
        .ok read) ∧
      declarations.uniqueIndicesSimple = (tags.foldl (fun declarations entry =>
        addFieldIndexes declarations entry.1 entry.2) read).uniqueIndicesSimple ∧
      declarations.uniqueIndicesSimpleGlobal = (tags.foldl (fun declarations entry =>
        addFieldIndexes declarations entry.1 entry.2) read).uniqueIndicesSimpleGlobal := by
  unfold parseIndexes at parsed
  simp only [bind, Except.bind] at parsed
  split at parsed <;> split at parsed
  next => cases parsed
  next read global => cases parsed; exact ⟨read, .inr global, rfl, rfl⟩
  next global => cases global
  next read global => cases global; cases parsed; exact ⟨{}, .inl rfl, rfl, rfl⟩

/-- Every index declaration `init` reads keeps one column list per name. -/
theorem distinctNames_parseIndexes {tags : SchemaTags} {oneRefs : List String}
    {declarations : IndexDeclarations} (parsed : parseIndexes tags oneRefs = .ok declarations) :
    DistinctNames declarations := by
  have empty : DistinctNames {} := ⟨List.nodup_nil, List.nodup_nil⟩
  obtain ⟨read, start, simple, global⟩ := parseIndexes_eq_ok parsed
  have distinct : DistinctNames read := start.elim (· ▸ empty)
    (foldlM_invariant (fun _ _ _ distinct ok => distinct.addGlobalUnique ok) _ empty)
  have fields := distinct.foldl_addFieldIndexes tags
  exact ⟨simple ▸ fields.simple, global ▸ fields.global⟩

/-- `GetUniqueIndexes` on a schema `init` returns: the entity-level list of a
name where there is one, the field-level list otherwise. -/
theorem get?_getUniqueIndexes {sha256Hex : String → String} {fnv32a : String → Nat}
    {registry : Registry} {entityType : GoType} {schema : TableSchema}
    (initialised : TableSchema.init sha256Hex fnv32a registry entityType = .ok schema)
    (name : String) :
    GoMap.get? schema.getUniqueIndexes name =
      if name ∈ GoMap.keys schema.uniqueIndicesGlobal then
        GoMap.get? schema.uniqueIndicesGlobal name
      else GoMap.get? schema.uniqueIndices name := by
  obtain ⟨declarations, parsed, -, simple, global⟩ := (TableSchema.init_eq_ok initialised).indexes
  have distinct := distinctNames_parseIndexes parsed
  rw [TableSchema.getUniqueIndexes, GoMap.get?_foldl_set _ _ (global ▸ distinct.global),
    GoMap.get?_foldl_set _ _ (simple ▸ distinct.simple)]
  split
  · rfl
  · split
    · rfl
    · rename_i absent
      rw [GoMap.get?_nil, eq_comm, GoMap.get?_eq_none_iff]
      exact absent

/-! ## The field-level lists -/

/-- The members a field-level `unique` tag gives the index `name`: the field's
key once for each entry of the tag naming the index, whatever its ordinal. The
`ORM` key gives none. -/
def uniqueMembers (name : String) (entry : String × FieldTags) : List String :=
  match GoMap.get? entry.2 "unique" with
  | some keys =>
      if entry.1 ≠ "ORM" then
        ((Strings.split keys ',').filter fun indexName => (parseIndexEntry indexName).1 = name).map
          fun _ => entry.1
      else []
  | none => []

theorem getD_appendIndexColumn (simple : List (String × List String)) (index column name : String) :
    GoMap.getD (appendIndexColumn simple index column) name [] =
      if index = name then GoMap.getD simple name [] ++ [column] else GoMap.getD simple name [] := by
  unfold appendIndexColumn GoMap.getD
  rw [GoMap.get?_set]
  split
  next same => subst same; rfl
  next => rfl

theorem getD_addFieldIndexes_simple (declarations : IndexDeclarations) (k : String)
    (v : FieldTags) (name : String) :
    GoMap.getD (addFieldIndexes declarations k v).uniqueIndicesSimple name [] =
      GoMap.getD declarations.uniqueIndicesSimple name [] ++ uniqueMembers name (k, v) := by
  unfold BeeOrm.addFieldIndexes
  lift_lets
  intro unique
  suffices base : GoMap.getD unique.uniqueIndicesSimple name [] =
      GoMap.getD declarations.uniqueIndicesSimple name [] ++ uniqueMembers name (k, v) by
    split
    · exact List.foldlRecOn (motive := fun (indexed : IndexDeclarations) =>
        GoMap.getD indexed.uniqueIndicesSimple name [] = _) _ _ _ base fun _ same _ _ => same
    · exact base
  simp only [unique, uniqueMembers]
  clear unique
  rcases GoMap.get? v "unique" with _ | keys
  · simp
  by_cases orm : k = "ORM"
  · simp [orm]
  simp only [orm, ne_eq, not_false_eq_true, if_true]
  induction Strings.split keys ',' generalizing declarations with
  | nil => simp
  | cons indexName rest induction =>
      rw [List.foldl_cons, induction, List.filter_cons]
      generalize parseIndexEntry indexName = entry
      rcases entry with ⟨index, id⟩
      rw [getD_appendIndexColumn]
      by_cases same : index = name <;> simp [same]

@[simp] theorem addFieldIndexes_uniqueIndicesSimpleGlobal (declarations : IndexDeclarations)
    (k : String) (v : FieldTags) :
    (addFieldIndexes declarations k v).uniqueIndicesSimpleGlobal =
      declarations.uniqueIndicesSimpleGlobal := by
  unfold BeeOrm.addFieldIndexes
  lift_lets
  intro unique
  suffices base : unique.uniqueIndicesSimpleGlobal = declarations.uniqueIndicesSimpleGlobal by
    split
    · exact List.foldlRecOn (motive := fun (indexed : IndexDeclarations) =>
        indexed.uniqueIndicesSimpleGlobal = _) _ _ _ base fun _ same _ _ => same
    · exact base
  simp only [unique]
  split
  · split
    · exact List.foldlRecOn (motive := fun (added : IndexDeclarations) =>
        added.uniqueIndicesSimpleGlobal = _) _ _ _ rfl fun _ same _ _ => same
    · rfl
  · rfl

/-- The field tags, read in map order, append their members to the lists. -/
theorem getD_foldl_addFieldIndexes_simple (tags : SchemaTags) (declarations : IndexDeclarations)
    (name : String) :
    GoMap.getD (tags.foldl (fun declarations entry =>
        addFieldIndexes declarations entry.1 entry.2) declarations).uniqueIndicesSimple name [] =
      GoMap.getD declarations.uniqueIndicesSimple name [] ++ tags.flatMap (uniqueMembers name) := by
  induction tags generalizing declarations with
  | nil => simp
  | cons entry tags induction =>
      rw [List.foldl_cons, induction, getD_addFieldIndexes_simple, List.flatMap_cons,
        List.append_assoc]

/-- The entity-level tag names each index in both lists. -/
def SameNames (declarations : IndexDeclarations) : Prop :=
  ∀ name, name ∈ GoMap.keys declarations.uniqueIndicesSimple ↔
    name ∈ GoMap.keys declarations.uniqueIndicesSimpleGlobal

theorem SameNames.addGlobalUnique {declarations added : IndexDeclarations}
    (same : SameNames declarations) {part : String}
    (ok : addGlobalUnique declarations part = .ok added) : SameNames added := by
  unfold BeeOrm.addGlobalUnique at ok
  split at ok
  · cases ok
    refine List.foldlRecOn (motive := SameNames) _ _ _ ?_ fun declarations same _ _ => ?_
    all_goals intro name; simp only [appendIndexColumn, GoMap.mem_keys_set, same name]
  · cases ok

/-- For an index the entity does not declare in its own tag, `GetUniqueIndexes`
lists the fields whose `unique` tag names it, in the iteration order of the tag
map, once per entry: the ordinals take no part. -/
theorem getD_getUniqueIndexes_of_field_level {sha256Hex : String → String}
    {fnv32a : String → Nat} {registry : Registry} {entityType : GoType} {schema : TableSchema}
    (initialised : TableSchema.init sha256Hex fnv32a registry entityType = .ok schema)
    {name : String} (fieldLevel : name ∉ GoMap.keys schema.uniqueIndicesGlobal) :
    GoMap.getD schema.getUniqueIndexes name [] =
      (extractTags registry entityType "").flatMap (uniqueMembers name) := by
  have ok := TableSchema.init_eq_ok initialised
  obtain ⟨declarations, parsed, -, simple, global⟩ := ok.indexes
  obtain ⟨read, start, simple', global'⟩ := parseIndexes_eq_ok parsed
  have same : SameNames read := start.elim (fun empty _ => by simp [empty, GoMap.keys])
    (foldlM_invariant (fun _ _ _ same ok => same.addGlobalUnique ok) _ fun _ => Iff.rfl)
  have unread : GoMap.getD read.uniqueIndicesSimple name [] = [] := by
    have absent : name ∉ GoMap.keys read.uniqueIndicesSimpleGlobal := by
      rwa [global, global', List.foldlRecOn (motive := fun (fields : IndexDeclarations) =>
        fields.uniqueIndicesSimpleGlobal = read.uniqueIndicesSimpleGlobal) _ _ _ rfl
        fun _ same _ _ => (addFieldIndexes_uniqueIndicesSimpleGlobal _ _ _).trans same]
        at fieldLevel
    rw [GoMap.getD, (GoMap.get?_eq_none_iff _ _).2 ((not_congr (same name)).2 absent)]
    rfl
  rw [GoMap.getD, get?_getUniqueIndexes initialised, if_neg fieldLevel, ← GoMap.getD, simple,
    simple', getD_foldl_addFieldIndexes_simple, unread, List.nil_append, ok.tags]

/-! ## Declarations the lists misreport -/

/-- A unique index `AB` over `B` then `A`, its ordinals given on the fields in
the other order. -/
def reversedOrdinalsEntity : GoType :=
  .struct "main.Pair" "Pair"
    [ormField, idField, ⟨"A", false, [("orm", "unique=AB:2")], .basic "string"⟩,
      ⟨"B", false, [("orm", "unique=AB:1")], .basic "string"⟩]

/-- A unique index `AB` declared on the entity over `A` and given a second
column `C` by a field-level tag. -/
def mixedUniqueEntity : GoType :=
  .struct "main.Account" "Account"
    [taggedOrmField "unique=AB:A", idField, ⟨"A", false, [], .basic "string"⟩,
      ⟨"C", false, [("orm", "unique=AB:2")], .basic "string"⟩]

theorem extractTags_reversedOrdinalsEntity :
    extractTags defaultRegistry reversedOrdinalsEntity "" =
      [("A", [("unique", "AB:2")]), ("B", [("unique", "AB:1")])] := by decide

theorem extractTags_mixedUniqueEntity :
    extractTags defaultRegistry mixedUniqueEntity "" =
      [("ORM", [("unique", "AB:A")]), ("C", [("unique", "AB:2")])] := by decide

theorem buildTableFields_reversedOrdinalsEntity :
    TableSchema.buildTableFields reversedOrdinalsEntity defaultRegistry 1 ""
      [("A", [("unique", "AB:2")]), ("B", [("unique", "AB:1")])] {} =
      .ok ({ t := reversedOrdinalsEntity
             fields := [(1, idField), (2, reversedOrdinalsEntity.fields.getD 2 zeroField),
               (3, reversedOrdinalsEntity.fields.getD 3 zeroField)]
             keyPrefix := "", uintegers := [1], strings := [2, 3], structsFields := [] },
        { mapBindToScanPointer :=
            [("ID", .uint64Pointer), ("A", .nullStringPointer), ("B", .nullStringPointer)]
          mapPointerToValue :=
            [("ID", .uint64Value), ("A", .nullStringValue), ("B", .nullStringValue)] }) := rfl

theorem buildTableFields_mixedUniqueEntity :
    TableSchema.buildTableFields mixedUniqueEntity defaultRegistry 1 ""
      [("ORM", [("unique", "AB:A")]), ("C", [("unique", "AB:2")])] {} =
      .ok ({ t := mixedUniqueEntity
             fields := [(1, idField), (2, mixedUniqueEntity.fields.getD 2 zeroField),
               (3, mixedUniqueEntity.fields.getD 3 zeroField)]
             keyPrefix := "", uintegers := [1], strings := [2, 3], structsFields := [] },
        { mapBindToScanPointer :=
            [("ID", .uint64Pointer), ("A", .nullStringPointer), ("C", .nullStringPointer)]
          mapPointerToValue :=
            [("ID", .uint64Value), ("A", .nullStringValue), ("C", .nullStringValue)] }) := rfl

/-- The lists `GetUniqueIndexes` reports are not the validated columns in
ordinal order: field-level members come in tag-map order, so the index `AB`
validated as `B, A` is reported as `A, B`, and as `B, A` when the map is read
the other way round; and an entity-level definition hides the column a field
adds to it. -/
theorem getUniqueIndexes_misreports_validated_columns :
    ((parseIndexes (extractTags defaultRegistry reversedOrdinalsEntity "") []).toOption.map
      (·.uniqueIndices)) = some [("AB", [(2, "A"), (1, "B")])] ∧
    ((TableSchema.init id String.length defaultRegistry reversedOrdinalsEntity).value?.map
      TableSchema.getUniqueIndexes) = some [("AB", ["A", "B"])] ∧
    ((parseIndexes (extractTags defaultRegistry reversedOrdinalsEntity "").reverse []).toOption.map
      (·.uniqueIndicesSimple)) = some [("AB", ["B", "A"])] ∧
    ((parseIndexes (extractTags defaultRegistry mixedUniqueEntity "") []).toOption.map
      (·.uniqueIndices)) = some [("AB", [(1, "A"), (2, "C")])] ∧
    ((TableSchema.init id String.length defaultRegistry mixedUniqueEntity).value?.map
      TableSchema.getUniqueIndexes) = some [("AB", ["A"])] := by
  refine ⟨by decide, ?_, by decide, by decide, ?_⟩
  · rw [TableSchema.init, extractTags_reversedOrdinalsEntity,
      buildTableFields_reversedOrdinalsEntity]
    decide
  · rw [TableSchema.init, extractTags_mixedUniqueEntity, buildTableFields_mixedUniqueEntity]
    decide

end BeeOrm
