import BeeOrm.Schema.ColumnNames
import Mathlib.Data.List.Perm.Basic

/-! What `buildTableFields` records at each struct level, and that
`buildColumnNames` lists it: the column of every recorded column field once,
under the prefixes of its enclosing structs. -/

namespace BeeOrm

/-- Whether a recorded field is a column: every field but a cached query and a
nested struct, which `buildStructField` handles. -/
def isColumnField (field : StructField) : Bool :=
  match fieldCategory field.type.string, field.type with
  | .cachedQuery, _ => false
  | .other, .struct _ _ _ => false
  | _, _ => true

/-- Whether `buildBoolField`, building `field` under `keyPrefix`, makes it the
soft-delete field. -/
def isSoftDelete (keyPrefix : String) (field : StructField) : Bool :=
  fieldCategory field.type.string = .bool && keyPrefix ++ field.name = "FakeDelete"

theorem isSoftDelete_eq_false {keyPrefix : String} {field : StructField}
    (category : fieldCategory field.type.string ≠ .bool) : isSoftDelete keyPrefix field = false := by
  simp [isSoftDelete, category]

theorem isColumnField_of_isSoftDelete {keyPrefix : String} {field : StructField}
    (softDelete : isSoftDelete keyPrefix field = true) : isColumnField field = true := by
  simp only [isSoftDelete, Bool.and_eq_true, decide_eq_true_eq] at softDelete
  simp [isColumnField, softDelete.1]

/-- No nested struct of a type, at any depth, opens with its soft-delete field.
`buildColumnNames` lists the soft-delete field of a level only at a positive
index, and the fields of a nested struct are numbered from 0. -/
def GoType.softDeleteNotFirst : GoType → Bool
  | .struct _ _ fields => softDeleteNotFirstOf fields
  | _ => true
where
  softDeleteNotFirstOf : List StructField → Bool
    | [] => true
    | field :: rest =>
        (field.type.fields.head?.all fun first =>
          !isSoftDelete (if field.anonymous then "" else field.name) first) &&
        softDeleteNotFirst field.type && softDeleteNotFirstOf rest

/-- What a nested struct field needs for its level to be built as recorded. -/
def NestedWellFormed (field : StructField) : Prop :=
  field.type.fieldNamesDistinct = true ∧ field.type.softDeleteNotFirst = true ∧
    ∀ first ∈ field.type.fields.head?,
      isSoftDelete (if field.anonymous then "" else field.name) first = false

theorem softDeleteNotFirstOf_iff (fields : List StructField) :
    GoType.softDeleteNotFirst.softDeleteNotFirstOf fields = true ↔ ∀ field ∈ fields,
      (field.type.fields.head?.all fun first =>
        !isSoftDelete (if field.anonymous then "" else field.name) first) = true ∧
      field.type.softDeleteNotFirst = true := by
  induction fields with
  | nil => simp [GoType.softDeleteNotFirst.softDeleteNotFirstOf]
  | cons field rest induction =>
      simp [GoType.softDeleteNotFirst.softDeleteNotFirstOf, induction, and_assoc]

theorem nestedWellFormed_of_mem {t : GoType} (distinct : t.fieldNamesDistinct = true)
    (notFirst : t.softDeleteNotFirst = true) {field : StructField} (member : field ∈ t.fields) :
    NestedWellFormed field := by
  refine ⟨(GoType.fieldNamesDistinct_fields distinct).2 field member, ?_⟩
  cases t with
  | struct string name fields =>
      have parts := (softDeleteNotFirstOf_iff fields).1 notFirst field member
      refine ⟨parts.2, fun first found => ?_⟩
      rw [Option.mem_def] at found
      simpa [found] using parts.1
  | basic => cases member
  | pointer => cases member

namespace TableFields

/-- The category lists of one level that hold column indexes, the soft-delete
field aside. -/
def categoryLists (fields : TableFields) : List (List Nat) :=
  [fields.uintegers, fields.refs, fields.integers, fields.booleans, fields.floats,
    fields.times, fields.dates, fields.strings, fields.uintegersNullable,
    fields.integersNullable, fields.stringsEnums, fields.bytes, fields.sliceStringsSets,
    fields.booleansNullable, fields.floatsNullable, fields.timesNullable,
    fields.datesNullable, fields.jsons]

/-- The indexes of the column categories of one level. -/
def categoryIds (fields : TableFields) : List Nat := (categoryLists fields).flatten

/-- Appending an index to one of the lists adds it to their concatenation. -/
theorem flatten_modify_perm (lists : List (List Nat)) (index : Nat) {k : Nat}
    (short : k < lists.length) :
    (lists.modify (· ++ [index]) k).flatten.Perm (index :: lists.flatten) := by
  induction lists generalizing k with
  | nil => cases short
  | cons first rest induction =>
      cases k with
      | zero =>
          simpa only [List.modify_zero_cons, List.flatten_cons, List.append_assoc,
            List.singleton_append] using List.perm_middle
      | succ k =>
          simp only [List.modify_succ_cons, List.flatten_cons]
          exact ((induction (by simpa using short)).append_left first).trans List.perm_middle

/-- The soft-delete field, which `columnIds` lists only at a positive index. -/
def softDeleteIds (fields : TableFields) : List Nat :=
  if fields.fakeDelete > 0 then [fields.fakeDelete] else []

theorem columnIds_perm (fields : TableFields) :
    (fields.columnIds.map Prod.fst).Perm (categoryIds fields ++ softDeleteIds fields) := by
  have dropTimed : ∀ (ids : List Nat) (mark : Nat × Nat → Nat × Bool),
      (∀ entry, (mark entry).1 = entry.2) → (ids.enum.map mark).map Prod.fst = ids := by
    intro ids mark marked
    rw [List.map_map]
    exact (List.map_congr_left fun entry _ => marked entry).trans (List.enum_map_snd ids)
  rw [columnIds, dropTimed _ _ fun _ => rfl, categoryIds, categoryLists, softDeleteIds,
    List.perm_iff_count]
  intro id
  simp only [List.flatten_cons, List.flatten_nil, List.append_nil, List.count_append]
  omega

/-- What building keeps true of each level: the field map has distinct keys, and
the category lists with the soft-delete field hold the indexes of its column
fields, each once. -/
structure RecordsColumns (fields : TableFields) : Prop where
  nodup : (GoMap.keys fields.fields).Nodup
  perm : (categoryIds fields ++ softDeleteIds fields).Perm
    ((fields.fields.filter (isColumnField ·.2)).map Prod.fst)

/-- The column names of the fields one level records, in declaration order. -/
def declaredNames (level : TableFields × String) : List String :=
  (level.1.fields.filter (isColumnField ·.2)).map fun entry => level.2 ++ entry.2.name

/-- The column names of every field a `TableFields` tree records. -/
def declaredColumns (fields : TableFields) (subFieldPrefix : String) : List String :=
  (fields.levels subFieldPrefix).flatMap declaredNames

theorem ownNames_perm {level : TableFields × String} (recorded : RecordsColumns level.1) :
    (ownNames level).Perm (declaredNames level) := by
  let name := fun i => level.2 ++ (GoMap.getD level.1.fields i zeroField).name
  have own : ownNames level = (level.1.columnIds.map Prod.fst).map name := by
    simp [ownNames, ownColumns, name]
  have declared : declaredNames level =
      ((level.1.fields.filter (isColumnField ·.2)).map Prod.fst).map name := by
    rw [declaredNames, List.map_map]
    refine List.map_congr_left fun entry member => ?_
    simp [name, GoMap.getD, GoMap.get?_of_mem recorded.nodup (List.mem_of_mem_filter member)]
  rw [own, declared]
  exact ((columnIds_perm level.1).trans recorded.perm).map name

/-- On a tree whose every level records its columns, `buildColumnNames` lists
the column names of the recorded column fields, each once. -/
theorem buildColumnNames_perm_declaredColumns {fields : TableFields}
    (recorded : AllLevels RecordsColumns fields) (subFieldPrefix : String) :
    List.Perm (fields.buildColumnNames subFieldPrefix).1 (fields.declaredColumns subFieldPrefix) := by
  rw [buildColumnNames_fst, declaredColumns]
  exact List.Perm.flatMap_left _ fun level member =>
    ownNames_perm (AllLevels.levels fields subFieldPrefix recorded level member)

end TableFields

/-- Building a column field at `index`: the field map, the nested structs and
the soft-delete field stay, and `index` joins one of the category lists. -/
structure ColumnAdded (index : Nat) (fields fields' : TableFields) : Prop where
  fieldMap : fields'.fields = fields.fields
  nested : fields'.structsFields = fields.structsFields
  fakeDelete : fields'.fakeDelete = fields.fakeDelete
  perm : (TableFields.categoryIds fields').Perm (index :: TableFields.categoryIds fields)

/-- Building a column field at `index` that joins the category list at position
`k`: the field map, the nested structs and the soft-delete field stay. -/
structure ListedAt (k index : Nat) (fields fields' : TableFields) : Prop where
  lists : TableFields.categoryLists fields' =
    (TableFields.categoryLists fields).modify (· ++ [index]) k
  fieldMap : fields'.fields = fields.fields
  nested : fields'.structsFields = fields.structsFields
  fakeDelete : fields'.fakeDelete = fields.fakeDelete

/-- A column joining one of the category lists joins their concatenation. -/
theorem ListedAt.columnAdded {k index : Nat} {fields fields' : TableFields}
    (listed : ListedAt k index fields fields') (short : k < 18) :
    ColumnAdded index fields fields' :=
  ⟨listed.fieldMap, listed.nested, listed.fakeDelete, by
    rw [TableFields.categoryIds, listed.lists]
    exact TableFields.flatten_modify_perm _ index short⟩

/-! ## The list a leaf field joins -/

/-- Whether a field is of type `time.Time` or `*time.Time`. -/
def isTimeField (field : StructField) : Bool :=
  field.type.string = "time.Time" || field.type.string = "*time.Time"

/-- Whether the category list at position `k` of `categoryLists` is one of the
two stretches `buildColumnNames` renders with `TO_SECONDS`: times and dates, and
their nullable forms. -/
def timedList (k : Nat) : Bool := k = 5 || k = 6 || k = 15 || k = 16

theorem eq_of_fieldCategory_eq_time {typeName : String}
    (category : fieldCategory typeName = .time) : typeName = "time.Time" := by
  unfold fieldCategory at category
  iterate 13 replace category :=
    (ite_eq_iff.1 category).elim (fun taken => absurd taken.2 (by decide)) And.right
  exact (ite_eq_iff.1 category).elim And.left fun taken => absurd taken.2 (by decide)

theorem eq_of_fieldCategory_eq_timePointer {typeName : String}
    (category : fieldCategory typeName = .timePointer) : typeName = "*time.Time" := by
  unfold fieldCategory at category
  iterate 12 replace category :=
    (ite_eq_iff.1 category).elim (fun taken => absurd taken.2 (by decide)) And.right
  exact (ite_eq_iff.1 category).elim And.left fun taken => absurd taken.2 (by split <;> decide)

/-- The time fields are the two categories `buildTimeField` and
`buildTimePointerField` build. -/
theorem isTimeField_eq (field : StructField) :
    isTimeField field = (decide (fieldCategory field.type.string = .time) ||
      decide (fieldCategory field.type.string = .timePointer)) := by
  unfold isTimeField
  by_cases time : field.type.string = "time.Time"
  · rw [time]
    decide
  by_cases pointer : field.type.string = "*time.Time"
  · rw [pointer]
    decide
  have notTime := mt eq_of_fieldCategory_eq_time time
  have notPointer := mt eq_of_fieldCategory_eq_timePointer pointer
  simp [time, pointer, notTime, notPointer]

theorem timedList_of_category {field : StructField} {category : FieldCategory} {k : Nat}
    (categorised : fieldCategory field.type.string = category)
    (timed : timedList k = (decide (category = .time) || decide (category = .timePointer))) :
    timedList k = isTimeField field := by
  rw [isTimeField_eq, categorised]
  exact timed

theorem isTimeField_of_isSoftDelete {keyPrefix : String} {field : StructField}
    (softDelete : isSoftDelete keyPrefix field = true) : isTimeField field = false := by
  simp only [isSoftDelete, Bool.and_eq_true, decide_eq_true_eq] at softDelete
  rw [isTimeField_eq, softDelete.1]
  rfl

namespace TableSchema

variable (attributes : SchemaFieldAttributes) (fields : TableFields) (adapters : Adapters)

/-- A field of a column category other than `bool` that joins the list at
position `k`. -/
theorem listed_of_leaf (k : Nat) {f : StructField} {keyPrefix : String} {index : Nat}
    {fields fields' : TableFields} {category : FieldCategory}
    (categorised : fieldCategory f.type.string = category)
    (leaf : category ≠ .cachedQuery ∧ category ≠ .other ∧ category ≠ .bool) (short : k < 18)
    (listed : ListedAt k index fields fields')
    (timed : timedList k = (decide (category = .time) || decide (category = .timePointer))) :
    ∃ k < 18, ListedAt k index fields fields' ∧ timedList k = isTimeField f ∧
      isColumnField f = true ∧ isSoftDelete keyPrefix f = false :=
  ⟨k, short, listed, timedList_of_category categorised timed,
    by simp [isColumnField, categorised, leaf.1, leaf.2.1],
    isSoftDelete_eq_false (categorised ▸ leaf.2.2)⟩

/-- What building one leaf field can do to its level: append it to the category
list of its type, which holds time columns exactly when the field is a time
field; make it the soft-delete field; or, for a cached query, nothing. -/
theorem buildLeafField_lists {fields' : TableFields} {adapters' : Adapters}
    {registry : Registry} (typed : attributes.typeName = attributes.field.type.string)
    (built : buildLeafField attributes fields adapters registry = some (.ok (fields', adapters'))) :
    (∃ k < 18, ListedAt k attributes.index fields fields' ∧
        timedList k = isTimeField attributes.field ∧ isColumnField attributes.field = true ∧
        isSoftDelete attributes.keyPrefix attributes.field = false) ∨
      fields' = { fields with fakeDelete := attributes.index } ∧
        isSoftDelete attributes.keyPrefix attributes.field = true ∨
      fields' = fields ∧ isColumnField attributes.field = false ∧
        isSoftDelete attributes.keyPrefix attributes.field = false := by
  unfold buildLeafField at built
  rw [typed] at built
  split at built <;> try simp only [Option.some.injEq] at built
  -- every builder but the float ones returns its level without failing
  all_goals try obtain rfl := congrArg Prod.fst (Except.ok.inj built)
  next category => exact .inl (listed_of_leaf 0 category (by decide) (by decide) ⟨rfl, rfl, rfl, rfl⟩ rfl)
  next category => exact .inl (listed_of_leaf 8 category (by decide) (by decide) ⟨rfl, rfl, rfl, rfl⟩ rfl)
  next category => exact .inl (listed_of_leaf 2 category (by decide) (by decide) ⟨rfl, rfl, rfl, rfl⟩ rfl)
  next category => exact .inl (listed_of_leaf 9 category (by decide) (by decide) ⟨rfl, rfl, rfl, rfl⟩ rfl)
  next category =>
    unfold buildStringField
    split
    · exact .inl (listed_of_leaf 10 category (by decide) (by decide) ⟨rfl, rfl, rfl, rfl⟩ rfl)
    · exact .inl (listed_of_leaf 7 category (by decide) (by decide) ⟨rfl, rfl, rfl, rfl⟩ rfl)
  next category =>
    unfold buildStringSliceField
    split
    · exact .inl (listed_of_leaf 12 category (by decide) (by decide) ⟨rfl, rfl, rfl, rfl⟩ rfl)
    · exact .inl (listed_of_leaf 17 category (by decide) (by decide) ⟨rfl, rfl, rfl, rfl⟩ rfl)
  next category =>
    exact .inl (listed_of_leaf 11 category (by decide) (by decide) ⟨rfl, rfl, rfl, rfl⟩ rfl)
  next category =>
    have column : isColumnField attributes.field = true := by simp [isColumnField, category]
    unfold buildBoolField
    split
    next softDelete => exact .inr (.inl ⟨rfl, by simpa [isSoftDelete, category] using softDelete⟩)
    next notSoftDelete =>
      exact .inl ⟨3, by decide, ⟨rfl, rfl, rfl, rfl⟩, timedList_of_category category rfl, column,
        by simpa [isSoftDelete, category] using notSoftDelete⟩
  next category =>
    exact .inl (listed_of_leaf 13 category (by decide) (by decide) ⟨rfl, rfl, rfl, rfl⟩ rfl)
  next category =>
    unfold buildFloatField at built
    cases precision : floatPrecision attributes.tags (if attributes.typeName = "float32" then 4 else 8)
    all_goals simp only [precision, bind, Except.bind, pure, Except.pure, reduceCtorEq,
      Except.ok.injEq, Prod.mk.injEq] at built
    obtain ⟨rfl, -⟩ := built
    exact .inl (listed_of_leaf 4 category (by decide) (by decide) ⟨rfl, rfl, rfl, rfl⟩ rfl)
  next category =>
    unfold buildFloatPointerField at built
    cases precision : floatPrecision attributes.tags (if attributes.typeName = "*float32" then 4 else 8)
    all_goals simp only [precision, bind, Except.bind, pure, Except.pure, reduceCtorEq,
      Except.ok.injEq, Prod.mk.injEq] at built
    obtain ⟨rfl, -⟩ := built
    exact .inl (listed_of_leaf 14 category (by decide) (by decide) ⟨rfl, rfl, rfl, rfl⟩ rfl)
  next category =>
    exact .inr (.inr ⟨rfl, by simp [isColumnField, category],
      isSoftDelete_eq_false (by simp [category])⟩)
  next category =>
    unfold buildTimePointerField
    split
    · exact .inl (listed_of_leaf 15 category (by decide) (by decide) ⟨rfl, rfl, rfl, rfl⟩ rfl)
    · exact .inl (listed_of_leaf 16 category (by decide) (by decide) ⟨rfl, rfl, rfl, rfl⟩ rfl)
  next category =>
    unfold buildTimeField
    split
    · exact .inl (listed_of_leaf 5 category (by decide) (by decide) ⟨rfl, rfl, rfl, rfl⟩ rfl)
    · exact .inl (listed_of_leaf 6 category (by decide) (by decide) ⟨rfl, rfl, rfl, rfl⟩ rfl)
  next category =>
    have notSoftDelete : isSoftDelete attributes.keyPrefix attributes.field = false :=
      isSoftDelete_eq_false (by simp [category])
    split at built <;> simp only [Option.some.injEq, reduceCtorEq] at built
    all_goals obtain rfl := congrArg Prod.fst (Except.ok.inj built)
    next pointer =>
      have column : isColumnField attributes.field = true := by
        simp only [isColumnField, category]; simp [pointer]
      unfold buildPointerField
      split
      · exact .inl ⟨1, by decide, ⟨rfl, rfl, rfl, rfl⟩, timedList_of_category category rfl,
          column, notSoftDelete⟩
      · exact .inl ⟨17, by decide, ⟨rfl, rfl, rfl, rfl⟩, timedList_of_category category rfl,
          column, notSoftDelete⟩
    next basic =>
      exact .inl ⟨17, by decide, ⟨rfl, rfl, rfl, rfl⟩, timedList_of_category category rfl,
        by simp only [isColumnField, category]; simp [basic], notSoftDelete⟩

/-- What building one leaf field can do to its level: add a column, make the
field the soft-delete field, or, for a cached query, nothing. -/
theorem buildLeafField_effect {fields' : TableFields} {adapters' : Adapters} {registry : Registry}
    (typed : attributes.typeName = attributes.field.type.string)
    (built : buildLeafField attributes fields adapters registry = some (.ok (fields', adapters'))) :
    ColumnAdded attributes.index fields fields' ∧ isColumnField attributes.field = true ∧
        isSoftDelete attributes.keyPrefix attributes.field = false ∨
      fields' = { fields with fakeDelete := attributes.index } ∧
        isSoftDelete attributes.keyPrefix attributes.field = true ∨
      fields' = fields ∧ isColumnField attributes.field = false ∧
        isSoftDelete attributes.keyPrefix attributes.field = false := by
  rcases buildLeafField_lists attributes fields adapters typed built with
    ⟨k, short, listed, -, column, notSoftDelete⟩ | softDelete | unchanged
  · exact .inl ⟨listed.columnAdded short, column, notSoftDelete⟩
  · exact .inr (.inl softDelete)
  · exact .inr (.inr unchanged)

/-- A field `buildLeafField` leaves to `buildStructField` is neither a column
nor the soft-delete field. -/
theorem buildLeafField_eq_none {registry : Registry}
    (typed : attributes.typeName = attributes.field.type.string)
    (nested : buildLeafField attributes fields adapters registry = none) :
    isColumnField attributes.field = false ∧
      isSoftDelete attributes.keyPrefix attributes.field = false := by
  unfold buildLeafField at nested
  split at nested <;> try simp only [reduceCtorEq] at nested
  next category =>
    split at nested <;> simp only [reduceCtorEq] at nested
    next struct =>
      rw [typed] at category
      constructor
      · rw [isColumnField, category, struct]
      · simp [isSoftDelete, category]

/-- What building one field can do to its level: the three outcomes of a leaf,
or a nested struct built by `buildStruct` and appended. -/
theorem buildField_effect {registry : Registry} {buildStruct : StructBuilder}
    {fields' : TableFields} {adapters' : Adapters}
    (typed : attributes.typeName = attributes.field.type.string)
    (built : buildField registry buildStruct attributes fields adapters = .ok (fields', adapters')) :
    ColumnAdded attributes.index fields fields' ∧ isColumnField attributes.field = true ∧
        isSoftDelete attributes.keyPrefix attributes.field = false ∨
      fields' = { fields with fakeDelete := attributes.index } ∧
        isSoftDelete attributes.keyPrefix attributes.field = true ∨
      isColumnField attributes.field = false ∧
        isSoftDelete attributes.keyPrefix attributes.field = false ∧
        fields'.fields = fields.fields ∧
        TableFields.categoryIds fields' = TableFields.categoryIds fields ∧
        fields'.fakeDelete = fields.fakeDelete ∧
        (fields'.structsFields = fields.structsFields ∨
          ∃ sub nestedAdapters,
            buildStruct (if attributes.field.anonymous then "" else attributes.field.name)
              attributes.field.type adapters = .ok (sub, nestedAdapters) ∧
            fields'.structsFields = fields.structsFields ++ [sub]) := by
  unfold buildField at built
  split at built
  next result leaf =>
    rcases buildLeafField_effect attributes fields adapters typed (leaf.trans (congrArg some built))
      with added | softDelete | ⟨rfl, column, notSoftDelete⟩
    · exact .inl added
    · exact .inr (.inl softDelete)
    · exact .inr (.inr ⟨column, notSoftDelete, rfl, rfl, rfl, .inl rfl⟩)
  next nested =>
    obtain ⟨column, notSoftDelete⟩ := buildLeafField_eq_none attributes fields adapters typed nested
    simp only [bind, Except.bind] at built
    split at built
    · cases built
    next result sub nestedAdapters builtStruct =>
      cases built
      exact .inr (.inr ⟨column, notSoftDelete, rfl, rfl, rfl, .inr ⟨_, _, builtStruct, rfl⟩⟩)

end TableSchema

/-! ## The loop of `buildTableFields` -/

open TableFields

/-- What the loop of `buildTableFields` keeps true of a level before building
field `index`, with `remaining` the fields still to build under `keyPrefix`. -/
structure Recording (keyPrefix : String) (index : Nat) (remaining : List StructField)
    (fields : TableFields) extends RecordsColumns fields : Prop where
  below : ∀ key ∈ GoMap.keys fields.fields, key < index
  softDelete : 0 < fields.fakeDelete →
    ∃ field, (fields.fakeDelete, field) ∈ fields.fields ∧ isSoftDelete keyPrefix field = true
  fresh : ∀ entry ∈ fields.fields, ∀ field ∈ remaining, entry.2.name ≠ field.name
  nested : allLevelsOf RecordsColumns fields.structsFields

variable {keyPrefix : String} {index : Nat} {f : StructField} {rest : List StructField}
  {fields fields' : TableFields}

theorem Recording.start (t : GoType) (start : Nat) (remaining : List StructField) :
    Recording keyPrefix start remaining { t := t, keyPrefix := keyPrefix, structsFields := [] } :=
  ⟨⟨by simp [GoMap.keys], by simp [categoryIds, categoryLists, softDeleteIds]⟩, by simp [GoMap.keys], by simp,
    by simp, trivial⟩

/-- A field tagged `ignore` is skipped. -/
theorem Recording.skip (recording : Recording keyPrefix index (f :: rest) fields) :
    Recording keyPrefix (index + 1) rest fields :=
  ⟨recording.toRecordsColumns, fun key member => Nat.lt_succ_of_lt (recording.below key member),
    recording.softDelete,
    fun entry member field later => recording.fresh entry member field (List.mem_cons_of_mem _ later),
    recording.nested⟩

/-- A field recorded at `index` keeps the invariant once the level's columns,
soft-delete field and nested structs account for it. -/
theorem Recording.extend (recording : Recording keyPrefix index (f :: rest) fields)
    (distinct : f.name ∉ rest.map (·.name))
    (map : fields'.fields = fields.fields ++ [(index, f)])
    (perm : (categoryIds fields' ++ softDeleteIds fields').Perm
      ((fields.fields.filter (isColumnField ·.2)).map Prod.fst ++
        if isColumnField f then [index] else []))
    (softDelete : fields'.fakeDelete = fields.fakeDelete ∨
      fields'.fakeDelete = index ∧ isSoftDelete keyPrefix f = true)
    (nested : allLevelsOf RecordsColumns fields'.structsFields) :
    Recording keyPrefix (index + 1) rest fields' := by
  have fresh : index ∉ GoMap.keys fields.fields := fun member =>
    Nat.lt_irrefl _ (recording.below _ member)
  refine ⟨⟨?_, ?_⟩, ?_, ?_, ?_, nested⟩
  · rw [map, GoMap.keys, List.map_append]
    exact (List.perm_append_singleton _ _).nodup_iff.2 (List.nodup_cons.2 ⟨fresh, recording.nodup⟩)
  · cases column : isColumnField f <;> simpa [map, List.filter_append, column] using perm
  · intro key member
    simp only [map, GoMap.keys, List.map_append, List.map_cons, List.map_nil, List.mem_append,
      List.mem_singleton] at member
    rcases member with member | rfl
    · exact Nat.lt_succ_of_lt (recording.below key member)
    · exact Nat.lt_succ_self _
  · intro positive
    rcases softDelete with same | ⟨same, softDelete⟩
    · obtain ⟨field, member, softDelete⟩ := recording.softDelete (same ▸ positive)
      exact ⟨field, by simp [map, same, member], softDelete⟩
    · exact ⟨f, by simp [map, same], softDelete⟩
  · intro entry member field later
    rw [map, List.mem_append, List.mem_singleton] at member
    rcases member with member | rfl
    · exact recording.fresh entry member field (List.mem_cons_of_mem _ later)
    · exact fun same => distinct (same ▸ List.mem_map_of_mem _ later)

/-- A struct builder that builds every well-formed nested struct as recorded. -/
def BuildsRecorded (buildStruct : StructBuilder) : Prop :=
  ∀ subPrefix subType adapters sub adapters',
    buildStruct subPrefix subType adapters = .ok (sub, adapters') →
    subType.fieldNamesDistinct = true → subType.softDeleteNotFirst = true →
    (∀ first ∈ subType.fields.head?, isSoftDelete subPrefix first = false) →
    AllLevels RecordsColumns sub

/-- Two soft-delete fields of one level have the same name. -/
theorem name_eq_of_isSoftDelete {first second : StructField}
    (firstSoft : isSoftDelete keyPrefix first = true)
    (secondSoft : isSoftDelete keyPrefix second = true) : first.name = second.name := by
  simp only [isSoftDelete, Bool.and_eq_true, decide_eq_true_eq] at firstSoft secondSoft
  have same := congrArg String.data (firstSoft.2.trans secondSoft.2.symm)
  rw [String.data_append, String.data_append] at same
  exact String.ext (List.append_cancel_left same)

/-- Building a recorded field keeps the invariant. -/
theorem Recording.step {registry : Registry} {buildStruct : StructBuilder} {tags : FieldTags}
    {adapters adapters' : Adapters} (builds : BuildsRecorded buildStruct)
    (recording : Recording keyPrefix index (f :: rest) fields)
    (distinct : f.name ∉ rest.map (·.name)) (wellFormed : NestedWellFormed f)
    (leading : index = 0 → isSoftDelete keyPrefix f = false)
    (built : TableSchema.buildField registry buildStruct ⟨f, f.type.string, tags, index, keyPrefix⟩
      { fields with fields := GoMap.set fields.fields index f } adapters = .ok (fields', adapters')) :
    Recording keyPrefix (index + 1) rest fields' := by
  have appended : GoMap.set fields.fields index f = fields.fields ++ [(index, f)] :=
    GoMap.set_of_not_mem _ _ fun member => Nat.lt_irrefl _ (recording.below _ member)
  rcases TableSchema.buildField_effect _ _ _ rfl built with
    ⟨added, column, -⟩ | ⟨rfl, softDelete⟩ | ⟨column, -, map, categories, fakeDelete, nested⟩
  · refine recording.extend distinct (added.fieldMap.trans appended) ?_ (.inl added.fakeDelete)
      (added.nested ▸ recording.nested)
    have softIds : softDeleteIds fields' = softDeleteIds fields := by
      simp [softDeleteIds, added.fakeDelete]
    rw [softIds, column, if_pos rfl]
    exact (added.perm.append_right _).trans
      ((recording.perm.cons index).trans (List.perm_append_singleton _ _).symm)
  · have unset : fields.fakeDelete = 0 := by
      by_contra positive
      obtain ⟨other, member, otherSoft⟩ := recording.softDelete (Nat.pos_of_ne_zero positive)
      exact recording.fresh _ member f (List.mem_cons_self _ _)
        (name_eq_of_isSoftDelete otherSoft softDelete)
    have positive : 0 < index := Nat.pos_of_ne_zero fun zero => by
      simp [leading zero] at softDelete
    refine recording.extend distinct appended ?_ (.inr ⟨rfl, softDelete⟩) recording.nested
    have perm := recording.perm
    simp only [softDeleteIds, unset, gt_iff_lt, Nat.lt_irrefl, if_false, List.append_nil] at perm
    simpa [isColumnField_of_isSoftDelete softDelete, softDeleteIds, positive, categoryIds]
      using perm.append_right [index]
  · refine recording.extend distinct (map.trans appended) ?_ (.inl fakeDelete) ?_
    · have softIds : softDeleteIds fields' = softDeleteIds fields := by
        simp [softDeleteIds, fakeDelete]
      rw [column, if_neg Bool.false_ne_true, List.append_nil, categories, softIds]
      exact recording.perm
    · rcases nested with same | ⟨sub, nestedAdapters, builtStruct, withSub⟩
      · exact same ▸ recording.nested
      · rw [withSub, allLevelsOf_append]
        exact ⟨recording.nested, builds _ _ _ _ _ builtStruct wellFormed.1 wellFormed.2.1
          wellFormed.2.2, trivial⟩

/-- The loop of `buildTableFields` builds a level that records its columns, and
nested levels that do, from any state keeping the invariant. -/
theorem buildFieldsFrom_records {registry : Registry} {schemaTags : SchemaTags}
    {buildStruct : StructBuilder} (builds : BuildsRecorded buildStruct)
    (remaining : List StructField) :
    ∀ {index : Nat} {fields fields' : TableFields} {adapters adapters' : Adapters},
      Recording keyPrefix index remaining fields → (remaining.map (·.name)).Nodup →
      (∀ field ∈ remaining, NestedWellFormed field) →
      (index = 0 → ∀ first ∈ remaining.head?, isSoftDelete keyPrefix first = false) →
      TableSchema.buildFieldsFrom registry schemaTags keyPrefix buildStruct index remaining
        fields adapters = .ok (fields', adapters') →
      AllLevels RecordsColumns fields' := by
  induction remaining with
  | nil =>
      intro index fields fields' adapters adapters' recording _ _ _ built
      cases built
      exact (allLevels_iff _).2 ⟨recording.toRecordsColumns, recording.nested⟩
  | cons f rest induction =>
      intro index fields fields' adapters adapters' recording distinct wellFormed leading built
      rw [List.map_cons, List.nodup_cons] at distinct
      have restWellFormed := fun field member => wellFormed field (List.mem_cons_of_mem f member)
      have later : index + 1 = 0 → ∀ first ∈ rest.head?, isSoftDelete keyPrefix first = false :=
        fun zero => absurd zero (Nat.succ_ne_zero _)
      rw [TableSchema.buildFieldsFrom] at built
      dsimp only at built
      split at built
      · exact induction recording.skip distinct.2 restWellFormed later built
      · split at built
        · cases built
        next builtField =>
          exact induction (recording.step builds distinct.1 (wellFormed f (List.mem_cons_self _ _))
            (fun zero => leading zero f rfl) builtField) distinct.2 restWellFormed later built

/-- The fields of a well-formed type from `start` on meet the loop's assumptions. -/
theorem dropFields_wellFormed {t : GoType} {start : Nat} (distinct : t.fieldNamesDistinct = true)
    (notFirst : t.softDeleteNotFirst = true)
    (leading : start = 0 → ∀ first ∈ t.fields.head?, isSoftDelete keyPrefix first = false) :
    ((t.fields.drop start).map (·.name)).Nodup ∧
      (∀ field ∈ t.fields.drop start, NestedWellFormed field) ∧
      (start = 0 → ∀ first ∈ (t.fields.drop start).head?, isSoftDelete keyPrefix first = false) :=
  ⟨by
    rw [List.map_drop]
    exact (GoType.fieldNamesDistinct_fields distinct).1.sublist (List.drop_sublist _ _),
    fun field member => nestedWellFormed_of_mem distinct notFirst (List.mem_of_mem_drop member),
    fun zero => by
      subst zero
      simpa using leading rfl⟩

/-- `buildTableFields` within any depth bound builds every level of a
well-formed type as recorded. -/
theorem buildTableFieldsWithin_records {registry : Registry} {schemaTags : SchemaTags}
    (depth : Nat) :
    ∀ {t : GoType} {start : Nat} {keyPrefix : String} {adapters adapters' : Adapters}
      {fields' : TableFields},
      t.fieldNamesDistinct = true → t.softDeleteNotFirst = true →
      (start = 0 → ∀ first ∈ t.fields.head?, isSoftDelete keyPrefix first = false) →
      TableSchema.buildTableFieldsWithin registry schemaTags depth t start keyPrefix adapters =
        .ok (fields', adapters') →
      AllLevels RecordsColumns fields' := by
  induction depth with
  | zero =>
      intro t start keyPrefix adapters adapters' fields' distinct notFirst leading built
      rw [TableSchema.buildTableFieldsWithin] at built
      obtain ⟨nodup, wellFormed, first⟩ := dropFields_wellFormed distinct notFirst leading
      exact buildFieldsFrom_records (fun _ _ _ _ _ thrown => by cases thrown) _
        (Recording.start t start _) nodup wellFormed first built
  | succ depth induction =>
      intro t start keyPrefix adapters adapters' fields' distinct notFirst leading built
      rw [TableSchema.buildTableFieldsWithin] at built
      obtain ⟨nodup, wellFormed, first⟩ := dropFields_wellFormed distinct notFirst leading
      exact buildFieldsFrom_records
        (fun _ _ _ _ _ builtSub subDistinct subNotFirst subLeading =>
          induction subDistinct subNotFirst (fun _ => subLeading) builtSub) _
        (Recording.start t start _) nodup wellFormed first built

/-- Every level of the fields `buildTableFields` builds for a well-formed type
records its columns. -/
theorem buildTableFields_records {t : GoType} {registry : Registry} {start : Nat}
    {schemaTags : SchemaTags} {adapters adapters' : Adapters} {fields : TableFields}
    (distinct : t.fieldNamesDistinct = true) (notFirst : t.softDeleteNotFirst = true)
    (leading : start = 0 → ∀ first ∈ t.fields.head?, isSoftDelete keyPrefix first = false)
    (built : TableSchema.buildTableFields t registry start keyPrefix schemaTags adapters =
      .ok (fields, adapters')) :
    AllLevels RecordsColumns fields :=
  buildTableFieldsWithin_records _ distinct notFirst leading built

end BeeOrm
