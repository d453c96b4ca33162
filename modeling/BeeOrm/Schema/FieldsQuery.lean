import BeeOrm.Schema.CacheKey
import BeeOrm.Schema.Recording
import Mathlib.Data.String.Basic

/-! The `fieldsQuery` of a schema. `buildColumnNames` renders a column as
`,TO_SECONDS(`name`)` when its position falls in the stretch of times and dates,
or in that of their nullable forms, and as `,`name`` otherwise. `buildTableFields`
puts exactly the time fields in those stretches, so the string lists the column
names in order, each marked by whether its field is a `time.Time` or a
`*time.Time`; and since no column name holds a comma, the marked list can be
read back from it. -/

namespace BeeOrm

namespace TableFields

/-! ## The two stretches -/

/-- The entries `columnIds` gives a stretch of its indexes lying wholly inside
or wholly outside the two windows. -/
theorem map_enumFrom_window {lo hi lo' hi' n : Nat} {l : List Nat} (b : Bool)
    (marks : ∀ k, n ≤ k → k < n + l.length →
      (decide (lo ≤ k ∧ k < hi) || decide (lo' ≤ k ∧ k < hi')) = b) :
    (l.enumFrom n).map (fun entry => (entry.2,
      decide (lo ≤ entry.1 ∧ entry.1 < hi) || decide (lo' ≤ entry.1 ∧ entry.1 < hi'))) =
      l.map (·, b) := by
  conv => rhs; rw [← List.enumFrom_map_snd n l, List.map_map]
  refine List.map_congr_left fun entry member => ?_
  obtain ⟨above, below, -⟩ := List.mem_enumFrom member
  exact Prod.ext rfl (marks _ above below)

theorem window_false {lo hi lo' hi' k : Nat} (outside : ¬(lo ≤ k ∧ k < hi) ∧ ¬(lo' ≤ k ∧ k < hi')) :
    (decide (lo ≤ k ∧ k < hi) || decide (lo' ≤ k ∧ k < hi')) = false := by
  simp only [outside.1, outside.2, decide_False, Bool.or_self]

theorem window_true {lo hi lo' hi' k : Nat} (inside : lo ≤ k ∧ k < hi ∨ lo' ≤ k ∧ k < hi') :
    (decide (lo ≤ k ∧ k < hi) || decide (lo' ≤ k ∧ k < hi')) = true := by
  simpa only [Bool.or_eq_true, decide_eq_true_eq] using inside

/-- Five stretches of indexes, the second and the fourth marked by the windows
over their positions. -/
theorem enum_map_windows {ids : List Nat} (first times middle timesNullable last : List Nat)
    (stretches : ids = first ++ times ++ middle ++ timesNullable ++ last) {lo hi lo' hi' : Nat}
    (start : lo = first.length) (stop : hi = first.length + times.length)
    (start' : lo' = first.length + times.length + middle.length)
    (stop' : hi' = first.length + times.length + middle.length + timesNullable.length) :
    ids.enum.map (fun entry => (entry.2,
      decide (lo ≤ entry.1 ∧ entry.1 < hi) || decide (lo' ≤ entry.1 ∧ entry.1 < hi'))) =
      first.map (·, false) ++ times.map (·, true) ++ middle.map (·, false) ++
        timesNullable.map (·, true) ++ last.map (·, false) := by
  subst stretches start stop start' stop'
  simp only [List.enum, List.enumFrom_append, List.map_append, List.length_append]
  iterate 4 refine congrArg₂ (· ++ ·) ?_ ?_
  all_goals first
    | exact map_enumFrom_window false fun k above below => window_false (by omega)
    | exact map_enumFrom_window true fun k above below => window_true (by omega)

/-- The column indexes of a level, stretch by stretch, marked as
`buildColumnNames` renders them. -/
theorem columnIds_eq (fields : TableFields) : fields.columnIds =
    (fields.uintegers ++ fields.refs ++ fields.integers ++ fields.booleans ++
        fields.floats).map (·, false) ++
      (fields.times ++ fields.dates).map (·, true) ++
      (softDeleteIds fields ++ fields.strings ++ fields.uintegersNullable ++
        fields.integersNullable ++ fields.stringsEnums ++ fields.bytes ++
        fields.sliceStringsSets ++ fields.booleansNullable ++ fields.floatsNullable).map (·, false) ++
      (fields.timesNullable ++ fields.datesNullable).map (·, true) ++
      fields.jsons.map (·, false) := by
  unfold columnIds
  exact enum_map_windows _ _ _ _ _ (by simp only [softDeleteIds, List.append_assoc]) rfl
    (by simp only [List.length_append]; omega) (by simp only [softDeleteIds, List.length_append]; omega)
    (by simp only [softDeleteIds, List.length_append]; omega)

/-- Each column of a level is rendered with `TO_SECONDS` exactly when its field
is a time field. -/
def ColumnsTimed (fields : TableFields) : Prop :=
  ∀ entry ∈ fields.columnIds, isTimeField (GoMap.getD fields.fields entry.1 zeroField) = entry.2

/-- Each category list of a level holds time fields exactly when it is one of
the times and dates lists, and the soft-delete field is no time field. -/
structure ListsTimed (fields : TableFields) : Prop where
  lists : ∀ k < 18, ∀ i ∈ (categoryLists fields).getD k [],
    isTimeField (GoMap.getD fields.fields i zeroField) = timedList k
  softDelete : ∀ i ∈ softDeleteIds fields, isTimeField (GoMap.getD fields.fields i zeroField) = false

theorem ListsTimed.columnsTimed {fields : TableFields} (timed : ListsTimed fields) :
    ColumnsTimed fields := by
  have mark := timed.lists
  unfold ColumnsTimed
  rw [columnIds_eq]
  simp only [List.forall_mem_append, List.forall_mem_map, and_assoc]
  exact ⟨mark 0 (by decide), mark 1 (by decide), mark 2 (by decide), mark 3 (by decide),
    mark 4 (by decide), mark 5 (by decide), mark 6 (by decide), timed.softDelete,
    mark 7 (by decide), mark 8 (by decide), mark 9 (by decide), mark 10 (by decide),
    mark 11 (by decide), mark 12 (by decide), mark 13 (by decide), mark 14 (by decide),
    mark 15 (by decide), mark 16 (by decide), mark 17 (by decide)⟩

/-! ## The loop of `buildTableFields` -/

theorem getD_modify_append (lists : List (List Nat)) {k k' : Nat} (index : Nat)
    (short : k' < lists.length) :
    (lists.modify (· ++ [index]) k).getD k' [] =
      if k = k' then lists.getD k' [] ++ [index] else lists.getD k' [] := by
  simp only [List.getD_eq_getElem?_getD, List.getElem?_modify, List.getElem?_eq_getElem short]
  split <;> rfl

/-- What the loop of `buildTableFields` keeps true of a level before building
field `index`: every index its lists hold lies below `index` and marks its field
as its list marks it, and the nested levels are done. -/
structure TimesMarked (index : Nat) (fields : TableFields) : Prop where
  lists : ∀ k < 18, ∀ i ∈ (categoryLists fields).getD k [], i < index ∧
    isTimeField (GoMap.getD fields.fields i zeroField) = timedList k
  softDelete : ∀ i ∈ softDeleteIds fields, i < index ∧
    isTimeField (GoMap.getD fields.fields i zeroField) = false
  nested : allLevelsOf ColumnsTimed fields.structsFields

variable {index : Nat} {fields fields' : TableFields}

theorem TimesMarked.done (marked : TimesMarked index fields) : AllLevels ColumnsTimed fields :=
  (allLevels_iff _).2 ⟨ListsTimed.columnsTimed ⟨fun k short i member =>
    (marked.lists k short i member).2, fun i member => (marked.softDelete i member).2⟩,
    marked.nested⟩

theorem TimesMarked.start (t : GoType) (start : Nat) (keyPrefix : String) :
    TimesMarked start { t := t, keyPrefix := keyPrefix, structsFields := [] } := by
  have empty : categoryLists { t := t, keyPrefix := keyPrefix, structsFields := [] } =
      List.replicate 18 [] := rfl
  refine ⟨fun k _ i member => ?_, fun i member => ?_, trivial⟩
  · rw [empty, List.getD_eq_getElem?_getD, List.getElem?_replicate] at member
    split at member <;> cases member
  · simp [softDeleteIds] at member

/-- A field tagged `ignore` is skipped. -/
theorem TimesMarked.skip (marked : TimesMarked index fields) : TimesMarked (index + 1) fields :=
  ⟨fun k short i member => ⟨Nat.lt_succ_of_lt (marked.lists k short i member).1,
      (marked.lists k short i member).2⟩,
    fun i member => ⟨Nat.lt_succ_of_lt (marked.softDelete i member).1,
      (marked.softDelete i member).2⟩,
    marked.nested⟩

end TableFields

/-- A struct builder whose every nested struct has its columns marked. -/
def BuildsTimed (buildStruct : StructBuilder) : Prop :=
  ∀ subPrefix subType adapters sub adapters',
    buildStruct subPrefix subType adapters = .ok (sub, adapters') → TableFields.AllLevels
      TableFields.ColumnsTimed sub

open TableFields

variable {index : Nat} {fields fields' : TableFields}

/-- Building the field recorded at `index` keeps the marks. -/
theorem TableFields.TimesMarked.step {registry : Registry} {buildStruct : StructBuilder} {f : StructField}
    {tags : FieldTags} {keyPrefix : String} {adapters adapters' : Adapters}
    (builds : BuildsTimed buildStruct) (marked : TimesMarked index fields)
    (built : TableSchema.buildField registry buildStruct ⟨f, f.type.string, tags, index, keyPrefix⟩
      { fields with fields := GoMap.set fields.fields index f } adapters = .ok (fields', adapters')) :
    TimesMarked (index + 1) fields' := by
  have kept : ∀ {i : Nat} {timed : Bool},
      i < index ∧ isTimeField (GoMap.getD fields.fields i zeroField) = timed →
      i < index + 1 ∧ isTimeField (GoMap.getD (GoMap.set fields.fields index f) i zeroField) = timed :=
    fun ⟨below, timed⟩ => ⟨Nat.lt_succ_of_lt below, by
      rw [GoMap.getD, GoMap.get?_set, if_neg (Nat.ne_of_gt below)]
      exact timed⟩
  have self : GoMap.getD (GoMap.set fields.fields index f) index zeroField = f := by
    rw [GoMap.getD, GoMap.get?_set, if_pos rfl]
    rfl
  unfold TableSchema.buildField at built
  split at built
  next result leaf =>
    rcases TableSchema.buildLeafField_lists _ _ _ rfl (leaf.trans (congrArg some built)) with
      ⟨k, short, listed, timed, -, -⟩ | ⟨rfl, softDelete⟩ | ⟨rfl, -, -⟩
    · refine ⟨fun k' short' i member => ?_, fun i member => ?_, listed.nested ▸ marked.nested⟩
      · rw [listed.lists, getD_modify_append _ _ (by simpa [categoryLists] using short')]
          at member
        rw [listed.fieldMap]
        split at member
        next same =>
          subst same
          rcases List.mem_append.1 member with old | new
          · exact kept (marked.lists k short' i old)
          · rw [List.mem_singleton.1 new, self]
            exact ⟨Nat.lt_succ_self _, timed.symm⟩
        next => exact kept (marked.lists k' short' i member)
      · have same : softDeleteIds fields' = softDeleteIds fields := by
          simp only [softDeleteIds, listed.fakeDelete]
        rw [listed.fieldMap]
        exact kept (marked.softDelete i (same ▸ member))
    · refine ⟨fun k short i member => kept (marked.lists k short i member), fun i member => ?_,
        marked.nested⟩
      simp only [softDeleteIds] at member
      split at member
      · rw [List.mem_singleton.1 member]
        refine ⟨Nat.lt_succ_self _, ?_⟩
        show isTimeField (GoMap.getD (GoMap.set fields.fields index f) index zeroField) = false
        rw [self]
        exact isTimeField_of_isSoftDelete softDelete
      · cases member
    · exact ⟨fun k short i member => kept (marked.lists k short i member),
        fun i member => kept (marked.softDelete i member), marked.nested⟩
  next =>
    simp only [bind, Except.bind] at built
    split at built
    · cases built
    next builtStruct =>
      cases built
      refine ⟨fun k short i member => kept (marked.lists k short i member),
        fun i member => kept (marked.softDelete i member), ?_⟩
      rw [allLevelsOf_append]
      exact ⟨marked.nested, builds _ _ _ _ _ builtStruct, trivial⟩

/-- The loop of `buildTableFields` marks the columns of the level it builds and
of its nested levels, from any state keeping the marks. -/
theorem buildFieldsFrom_timed {registry : Registry} {schemaTags : SchemaTags}
    {keyPrefix : String} {buildStruct : StructBuilder} (builds : BuildsTimed buildStruct)
    (remaining : List StructField) :
    ∀ {index : Nat} {fields fields' : TableFields} {adapters adapters' : Adapters},
      TimesMarked index fields →
      TableSchema.buildFieldsFrom registry schemaTags keyPrefix buildStruct index remaining
        fields adapters = .ok (fields', adapters') →
      AllLevels ColumnsTimed fields' := by
  induction remaining with
  | nil =>
      intro index fields fields' adapters adapters' marked built
      cases built
      exact marked.done
  | cons f rest induction =>
      intro index fields fields' adapters adapters' marked built
      rw [TableSchema.buildFieldsFrom] at built
      dsimp only at built
      split at built
      · exact induction marked.skip built
      · split at built
        · cases built
        next builtField => exact induction (marked.step builds builtField) built

/-- `buildTableFields` within any depth bound marks the columns of every level. -/
theorem buildTableFieldsWithin_timed {registry : Registry} {schemaTags : SchemaTags}
    (depth : Nat) :
    ∀ {t : GoType} {start : Nat} {keyPrefix : String} {adapters adapters' : Adapters}
      {fields' : TableFields},
      TableSchema.buildTableFieldsWithin registry schemaTags depth t start keyPrefix adapters =
        .ok (fields', adapters') →
      AllLevels ColumnsTimed fields' := by
  induction depth with
  | zero =>
      intro t start keyPrefix adapters adapters' fields' built
      rw [TableSchema.buildTableFieldsWithin] at built
      exact buildFieldsFrom_timed (fun _ _ _ _ _ thrown => by cases thrown) _
        (TimesMarked.start t start keyPrefix) built
  | succ depth induction =>
      intro t start keyPrefix adapters adapters' fields' built
      rw [TableSchema.buildTableFieldsWithin] at built
      exact buildFieldsFrom_timed (fun _ _ _ _ _ builtSub => induction builtSub) _
        (TimesMarked.start t start keyPrefix) built

/-! ## The rendered layout -/

namespace TableFields

/-- The `fieldsQuery` entries of the columns of one level. -/
def ownRendered (level : TableFields × String) : List String :=
  (ownColumns level.1 level.2).map Prod.snd

theorem join_append (first second : List String) :
    String.join (first ++ second) = String.join first ++ String.join second :=
  String.ext (by simp only [String.data_join, List.map_append, List.flatten_append,
    String.data_append])

mutual

/-- `fieldsQuery` renders the columns of each level in turn. -/
theorem buildColumnNames_snd : ∀ (fields : TableFields) (subFieldPrefix : String),
    (fields.buildColumnNames subFieldPrefix).2 =
      String.join ((fields.levels subFieldPrefix).flatMap ownRendered)
  | fields@{ structsFields := subFields, .. }, subFieldPrefix => by
      rw [buildColumnNames, levels, List.flatMap_cons, join_append, buildNestedColumnNames_snd]
      rfl

theorem buildNestedColumnNames_snd (structs : List Nat) (fieldMap : List (Nat × StructField))
    (subFieldPrefix : String) : ∀ (i : Nat) (subs : List TableFields),
    (buildNestedColumnNames structs fieldMap subFieldPrefix i subs).2 =
      String.join ((nestedLevels structs fieldMap subFieldPrefix i subs).flatMap ownRendered)
  | _, [] => rfl
  | i, subFields :: rest => by
      rw [buildNestedColumnNames, nestedLevels, List.flatMap_append, join_append,
        buildColumnNames_snd, buildNestedColumnNames_snd]

end

/-- The columns of a `TableFields` tree in the order `buildColumnNames` lists
them, each with the field it comes from. -/
def columnSources (fields : TableFields) (subFieldPrefix : String) :
    List (String × StructField) :=
  (fields.levels subFieldPrefix).flatMap fun level => level.1.columnIds.map fun entry =>
    (level.2 ++ (GoMap.getD level.1.fields entry.1 zeroField).name,
      GoMap.getD level.1.fields entry.1 zeroField)

/-- The columns of a tree with whether each comes from a time field. -/
def columnLayout (fields : TableFields) (subFieldPrefix : String) : List (String × Bool) :=
  (fields.columnSources subFieldPrefix).map fun source => (source.1, isTimeField source.2)

end TableFields

/-- A column's entry in `fieldsQuery`: a comma, then the column in backquotes,
inside `TO_SECONDS(...)` for a time column. -/
def layoutEntry (column : String) (timed : Bool) : String :=
  "," ++ if timed then "TO_SECONDS(`" ++ column ++ "`)" else "`" ++ column ++ "`"

/-- The `fieldsQuery` of a column layout: the entries of its columns in order. -/
def renderLayout (layout : List (String × Bool)) : String :=
  String.join (layout.map fun column => layoutEntry column.1 column.2)

theorem renderColumn_eq_layoutEntry (name : String) (timed : Bool) :
    renderColumn name timed = layoutEntry name timed := by
  have time : ",TO_SECONDS(`" = "," ++ "TO_SECONDS(`" := by decide
  have plain : ",`" = "," ++ "`" := by decide
  unfold renderColumn layoutEntry
  split <;> simp only [time, plain, String.append_assoc]

namespace TableFields

/-- On a tree whose every level marks its time columns, `buildColumnNames`
lists the columns of `columnLayout` and renders each as its entry. -/
theorem buildColumnNames_eq_layout {fields : TableFields} (timed : AllLevels ColumnsTimed fields)
    (subFieldPrefix : String) :
    fields.buildColumnNames subFieldPrefix =
      ((fields.columnLayout subFieldPrefix).map Prod.fst,
        renderLayout (fields.columnLayout subFieldPrefix)) := by
  have own : ∀ level ∈ fields.levels subFieldPrefix, ownRendered level =
      level.1.columnIds.map fun entry =>
        layoutEntry (level.2 ++ (GoMap.getD level.1.fields entry.1 zeroField).name)
          (isTimeField (GoMap.getD level.1.fields entry.1 zeroField)) := fun level member => by
    rw [ownRendered, ownColumns, List.map_map]
    refine List.map_congr_left fun entry listed => ?_
    rw [AllLevels.levels fields subFieldPrefix timed level member entry listed]
    exact renderColumn_eq_layoutEntry _ _
  refine Prod.ext ?_ ?_ <;> dsimp only
  · rw [buildColumnNames_fst, columnLayout, columnSources, List.map_map, List.map_flatMap]
    refine List.flatMap_congr fun level _ => ?_
    simp only [ownNames, ownColumns, List.map_map, Function.comp_def]
  · rw [buildColumnNames_snd, renderLayout, columnLayout, columnSources, List.map_map,
      List.map_flatMap, List.flatMap_congr own]
    simp only [List.map_map, Function.comp_def]

end TableFields

/-! ## Reading the layout back -/

/-- What follows the comma of a column's entry. -/
theorem data_layoutEntry (column : String) (timed : Bool) :
    (layoutEntry column timed).data =
      ',' :: (if timed then "TO_SECONDS(`" ++ column ++ "`)" else "`" ++ column ++ "`").data := by
  rw [layoutEntry, String.data_append]
  rfl

theorem comma_not_mem_entry {column : String} (commaFree : ',' ∉ column.data) (timed : Bool) :
    ',' ∉ (if timed then "TO_SECONDS(`" ++ column ++ "`)" else "`" ++ column ++ "`").data := by
  have time : ',' ∉ "TO_SECONDS(`".data := by decide
  have quote : ',' ∉ "`".data := by decide
  have close : ',' ∉ "`)".data := by decide
  split <;> simp only [String.data_append, List.mem_append, not_or] <;> tauto

/-- The text inside an entry gives back the column and whether it is a time
column: `TO_SECONDS` starts with a letter, a quoted name with a backquote. -/
theorem eq_of_entry_eq {column column' : String} {timed timed' : Bool}
    (same : (if timed then "TO_SECONDS(`" ++ column ++ "`)" else "`" ++ column ++ "`").data =
      (if timed' then "TO_SECONDS(`" ++ column' ++ "`)" else "`" ++ column' ++ "`").data) :
    column = column' ∧ timed = timed' := by
  cases timed <;> cases timed' <;>
    simp only [String.data_append, eq_self_iff_true, Bool.false_eq_true, if_true, if_false,
      List.append_assoc] at same
  · exact ⟨String.ext (List.append_cancel_right (List.append_cancel_left same)), rfl⟩
  · simp at same
  · simp at same
  · exact ⟨String.ext (List.append_cancel_right (List.append_cancel_left same)), rfl⟩

theorem data_renderLayout_cons (column : String × Bool) (layout : List (String × Bool)) :
    (renderLayout (column :: layout)).data =
      (layoutEntry column.1 column.2).data ++ (renderLayout layout).data := by
  simp only [renderLayout, String.data_join, List.map_cons, List.flatten_cons]

theorem head?_renderLayout : ∀ (layout : List (String × Bool)),
    ∀ first ∈ (renderLayout layout).data.head?, first = ','
  | [], first, found => by simp [renderLayout] at found
  | column :: layout, first, found => by
      rw [data_renderLayout_cons, data_layoutEntry, List.cons_append, List.head?_cons,
        Option.mem_some_iff] at found
      exact found.symm

/-- A column layout whose names hold no comma is determined by its rendering. -/
theorem eq_of_renderLayout_eq : ∀ {layout layout' : List (String × Bool)},
    (∀ column ∈ layout, ',' ∉ column.1.data) → (∀ column ∈ layout', ',' ∉ column.1.data) →
    renderLayout layout = renderLayout layout' → layout = layout'
  | [], [], _, _, _ => rfl
  | [], column :: layout, _, _, same => by
      have empty := congrArg String.data same
      rw [data_renderLayout_cons, data_layoutEntry] at empty
      cases empty
  | column :: layout, [], _, _, same => by
      have empty := congrArg String.data same
      rw [data_renderLayout_cons, data_layoutEntry] at empty
      cases empty
  | column :: layout, column' :: layout', commaFree, commaFree', same => by
      have data := congrArg String.data same
      rw [data_renderLayout_cons, data_renderLayout_cons, data_layoutEntry, data_layoutEntry,
        List.cons_append, List.cons_append, List.cons.injEq] at data
      obtain ⟨entry, rest⟩ := eq_of_append_commaLed
        (comma_not_mem_entry (commaFree column (List.mem_cons_self _ _)) _)
        (comma_not_mem_entry (commaFree' column' (List.mem_cons_self _ _)) _)
        (head?_renderLayout layout) (head?_renderLayout layout') data.2
      obtain ⟨sameColumn, sameTimed⟩ := eq_of_entry_eq entry
      rw [Prod.ext sameColumn sameTimed, eq_of_renderLayout_eq
        (fun c member => commaFree c (List.mem_cons_of_mem _ member))
        (fun c member => commaFree' c (List.mem_cons_of_mem _ member)) (String.ext rest)]

/-! ## The fingerprint of a schema -/

variable {sha256Hex sha256Hex' : String → String} {fnv32a fnv32a' : String → Nat}
  {registry registry' : Registry} {entityType entityType' : GoType} {schema schema' : TableSchema}

theorem init_columnLayout
    (initialised : TableSchema.init sha256Hex fnv32a registry entityType = .ok schema) :
    schema.columnNames = (schema.fields.columnLayout "").map Prod.fst ∧
      schema.fieldsQuery = renderLayout (schema.fields.columnLayout "") := by
  have ok := TableSchema.init_eq_ok initialised
  obtain ⟨_, built, -⟩ := ok.fields
  rw [ok.columnNames, ok.fieldsQuery,
    TableFields.buildColumnNames_eq_layout (buildTableFieldsWithin_timed _ built)]
  exact ⟨rfl, rfl⟩

/-- For every entity `init` accepts, at any nesting depth, `fieldsQuery` is the
column list in order, each column rendered as `,TO_SECONDS(`c`)` when its field
is a `time.Time` or a `*time.Time` and as `,`c`` otherwise. When the column
names hold no comma, the string hashed into the cache-key prefix of a fixed
pool and table therefore determines the columns, their order and which of them
are time columns. -/
theorem init_fieldsQuery_renders_column_layout
    (initialised : TableSchema.init sha256Hex fnv32a registry entityType = .ok schema)
    (initialised' : TableSchema.init sha256Hex' fnv32a' registry' entityType' = .ok schema')
    (commaFree : ∀ column ∈ schema.columnNames, ',' ∉ column.data)
    (commaFree' : ∀ column ∈ schema'.columnNames, ',' ∉ column.data)
    (samePool : schema.mysqlPoolName = schema'.mysqlPoolName)
    (sameTable : schema.tableName = schema'.tableName) :
    schema.columnNames = (schema.fields.columnLayout "").map Prod.fst ∧
    schema.fieldsQuery = renderLayout (schema.fields.columnLayout "") ∧
    (cachePrefixSource schema.mysqlPoolName schema.tableName schema.fieldsQuery =
        cachePrefixSource schema'.mysqlPoolName schema'.tableName schema'.fieldsQuery ↔
      schema.fields.columnLayout "" = schema'.fields.columnLayout "") := by
  obtain ⟨columns, query⟩ := init_columnLayout initialised
  obtain ⟨columns', query'⟩ := init_columnLayout initialised'
  have layoutFree : ∀ {schema : TableSchema},
      schema.columnNames = (schema.fields.columnLayout "").map Prod.fst →
      (∀ column ∈ schema.columnNames, ',' ∉ column.data) →
      ∀ column ∈ schema.fields.columnLayout "", ',' ∉ column.1.data :=
    fun columns commaFree column member =>
      commaFree _ (columns ▸ List.mem_map_of_mem Prod.fst member)
  refine ⟨columns, query, ⟨fun same => ?_, fun same => by rw [samePool, sameTable, query, query',
    same]⟩⟩
  have sameQuery : schema.fieldsQuery = schema'.fieldsQuery := by
    rw [cachePrefixSource, cachePrefixSource, samePool, sameTable] at same
    have data := congrArg String.data same
    simp only [String.data_append, List.append_assoc] at data
    exact String.ext (List.append_cancel_left (List.append_cancel_left data))
  rw [query, query'] at sameQuery
  exact eq_of_renderLayout_eq (layoutFree columns commaFree) (layoutFree columns' commaFree')
    sameQuery

/-- An entity of table `events` with a `time.Time` column `At`. -/
def timedEventEntity : GoType :=
  .struct "main.Event" "Event"
    [taggedOrmField "table=events", idField, ⟨"At", false, [], .struct "time.Time" "Time" []⟩]

/-- An entity of the same table with a `string` column `At`. -/
def plainEventEntity : GoType :=
  .struct "main.Notice" "Notice"
    [taggedOrmField "table=events", idField, ⟨"At", false, [], .basic "string"⟩]

theorem extractTags_timedEventEntity :
    extractTags defaultRegistry timedEventEntity "" = [("ORM", [("table", "events")])] := by
  decide

theorem extractTags_plainEventEntity :
    extractTags defaultRegistry plainEventEntity "" = [("ORM", [("table", "events")])] := by
  decide

theorem buildTableFields_timedEventEntity :
    TableSchema.buildTableFields timedEventEntity defaultRegistry 1 ""
      [("ORM", [("table", "events")])] {} =
      .ok ({ t := timedEventEntity
             fields := [(1, idField), (2, timedEventEntity.fields.getD 2 zeroField)]
             keyPrefix := "", uintegers := [1], dates := [2], structsFields := [] },
        { mapBindToScanPointer := [("ID", .uint64Pointer), ("At", .scanStringPointer)]
          mapPointerToValue := [("ID", .uint64Value), ("At", .pointerStringScan)] }) := rfl

theorem buildTableFields_plainEventEntity :
    TableSchema.buildTableFields plainEventEntity defaultRegistry 1 ""
      [("ORM", [("table", "events")])] {} =
      .ok ({ t := plainEventEntity
             fields := [(1, idField), (2, plainEventEntity.fields.getD 2 zeroField)]
             keyPrefix := "", uintegers := [1], strings := [2], structsFields := [] },
        { mapBindToScanPointer := [("ID", .uint64Pointer), ("At", .nullStringPointer)]
          mapPointerToValue := [("ID", .uint64Value), ("At", .nullStringValue)] }) := rfl

/-- The schema `init` builds for `timedEventEntity`. -/
def timedEventSchema : TableSchema :=
  (TableSchema.init id String.length defaultRegistry timedEventEntity).value?.getD default

/-- The schema `init` builds for `plainEventEntity`. -/
def plainEventSchema : TableSchema :=
  (TableSchema.init id String.length defaultRegistry plainEventEntity).value?.getD default

theorem init_timedEventEntity :
    TableSchema.init id String.length defaultRegistry timedEventEntity = .ok timedEventSchema := by
  rw [timedEventSchema, TableSchema.init, extractTags_timedEventEntity,
    buildTableFields_timedEventEntity]
  rfl

theorem init_plainEventEntity :
    TableSchema.init id String.length defaultRegistry plainEventEntity = .ok plainEventSchema := by
  rw [plainEventSchema, TableSchema.init, extractTags_plainEventEntity,
    buildTableFields_plainEventEntity]
  rfl

example : timedEventSchema.fieldsQuery = ",`ID`,TO_SECONDS(`At`)" ∧
    plainEventSchema.fieldsQuery = ",`ID`,`At`" := by
  rw [timedEventSchema, plainEventSchema, TableSchema.init, TableSchema.init,
    extractTags_timedEventEntity, extractTags_plainEventEntity,
    buildTableFields_timedEventEntity, buildTableFields_plainEventEntity]
  decide

theorem eventSchemas_fieldsQuery_layout :
    TableSchema.init id String.length defaultRegistry timedEventEntity = .ok timedEventSchema ∧
    TableSchema.init id String.length defaultRegistry plainEventEntity = .ok plainEventSchema ∧
    (∀ column ∈ timedEventSchema.columnNames, ',' ∉ column.data) ∧
    (∀ column ∈ plainEventSchema.columnNames, ',' ∉ column.data) ∧
    timedEventSchema.mysqlPoolName = plainEventSchema.mysqlPoolName ∧
    timedEventSchema.tableName = plainEventSchema.tableName ∧
    (timedEventSchema.columnNames = (timedEventSchema.fields.columnLayout "").map Prod.fst ∧
      timedEventSchema.fieldsQuery = renderLayout (timedEventSchema.fields.columnLayout "") ∧
      (cachePrefixSource timedEventSchema.mysqlPoolName timedEventSchema.tableName
          timedEventSchema.fieldsQuery =
        cachePrefixSource plainEventSchema.mysqlPoolName plainEventSchema.tableName
          plainEventSchema.fieldsQuery ↔
      timedEventSchema.fields.columnLayout "" = plainEventSchema.fields.columnLayout "")) := by
  have timedFree : ∀ column ∈ timedEventSchema.columnNames, ',' ∉ column.data := by
    rw [timedEventSchema, TableSchema.init, extractTags_timedEventEntity,
      buildTableFields_timedEventEntity]
    decide
  have plainFree : ∀ column ∈ plainEventSchema.columnNames, ',' ∉ column.data := by
    rw [plainEventSchema, TableSchema.init, extractTags_plainEventEntity,
      buildTableFields_plainEventEntity]
    decide
  have same : timedEventSchema.mysqlPoolName = plainEventSchema.mysqlPoolName ∧
      timedEventSchema.tableName = plainEventSchema.tableName := by
    rw [timedEventSchema, plainEventSchema, TableSchema.init, TableSchema.init,
      extractTags_timedEventEntity, extractTags_plainEventEntity,
      buildTableFields_timedEventEntity, buildTableFields_plainEventEntity]
    decide
  exact ⟨init_timedEventEntity, init_plainEventEntity, timedFree, plainFree, same.1, same.2,
    init_fieldsQuery_renders_column_layout init_timedEventEntity init_plainEventEntity timedFree
      plainFree same.1 same.2⟩

end BeeOrm
