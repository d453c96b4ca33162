import BeeOrm.Schema.Recording

/-! The parallel lists of `tableFields`. Beside each list of field indexes that
needs more than the index, `buildTableFields` keeps a second list: the entity
type of each reference, the fields of each nested struct, the precision and size
of each float, the width of each nullable integer, and the enum of each enum or
set column. Every builder appends to both lists of its pair, so at every nesting
level entry `i` of the second list describes the field at index `i` of the
first. -/

namespace BeeOrm

/-- The digits a nullable integer type name ends in, its width: none for the
width 0 the code gives `*int` and `*uint`. -/
def widthSuffix (size : Nat) : String := if size = 0 then "" else toString size

namespace TableFields

/-- Entry `i` of `entries` describes the field recorded in `fieldMap` at index
`ids[i]`, read with the tags the loop of `buildTableFields` looked up for it
under `keyPrefix`. -/
def Paired {α : Type} (schemaTags : SchemaTags) (fieldMap : List (Nat × StructField))
    (keyPrefix : String) (describes : StructField → FieldTags → α → Prop)
    (ids : List Nat) (entries : List α) : Prop :=
  List.Forall₂ (fun index entry => ∃ f, GoMap.get? fieldMap index = some f ∧
    describes f (GoMap.getD schemaTags (keyPrefix ++ f.name) []) entry) ids entries

section Paired

variable {α : Type} {schemaTags : SchemaTags} {fieldMap fieldMap' : List (Nat × StructField)}
  {keyPrefix : String} {describes : StructField → FieldTags → α → Prop} {ids : List Nat}
  {entries : List α}

theorem Paired.length_eq (paired : Paired schemaTags fieldMap keyPrefix describes ids entries) :
    ids.length = entries.length :=
  List.Forall₂.length_eq paired

/-- A pairing survives a field map that keeps every recorded field. -/
theorem Paired.mono (paired : Paired schemaTags fieldMap keyPrefix describes ids entries)
    (kept : ∀ index f, GoMap.get? fieldMap index = some f → GoMap.get? fieldMap' index = some f) :
    Paired schemaTags fieldMap' keyPrefix describes ids entries :=
  List.Forall₂.imp (fun index _ ⟨f, found, described⟩ => ⟨f, kept index f found, described⟩) paired

/-- Appending a recorded field's index and an entry describing it. -/
theorem Paired.snoc (paired : Paired schemaTags fieldMap keyPrefix describes ids entries)
    {index : Nat} {f : StructField} {entry : α} (found : GoMap.get? fieldMap index = some f)
    (described : describes f (GoMap.getD schemaTags (keyPrefix ++ f.name) []) entry) :
    Paired schemaTags fieldMap keyPrefix describes (ids ++ [index]) (entries ++ [entry]) :=
  List.rel_append paired (.cons ⟨f, found, described⟩ .nil)

end Paired

/-- The pairs of parallel lists of a level, each aligned under `fieldMap`. -/
structure PairsAligned (registry : Registry) (schemaTags : SchemaTags)
    (fieldMap : List (Nat × StructField)) (keyPrefix : String) (fields : TableFields) : Prop where
  /-- The entity type each reference points to. -/
  refs : Paired schemaTags fieldMap keyPrefix (fun f _ elem => ∃ elemFields, f.type = .pointer elem true elemFields)
    fields.refs fields.refsTypes
  /-- The fields of each nested struct, built for its type under its prefix. -/
  structs : Paired schemaTags fieldMap keyPrefix
    (fun f _ sub => sub.t = f.type ∧ sub.keyPrefix = if f.anonymous then "" else f.name)
    fields.structs fields.structsFields
  /-- The precision of each float column. -/
  floats : Paired schemaTags fieldMap keyPrefix
    (fun f tags precision => TableSchema.floatPrecision tags
      (if f.type.string = "float32" then 4 else 8) = .ok precision)
    fields.floats fields.floatsPrecision
  /-- The precision of each nullable float column. -/
  floatsNullablePrecision : Paired schemaTags fieldMap keyPrefix
    (fun f tags precision => TableSchema.floatPrecision tags
      (if f.type.string = "*float32" then 4 else 8) = .ok precision)
    fields.floatsNullable fields.floatsNullablePrecision
  /-- The size in bits of each nullable float column. -/
  floatsNullableSize : Paired schemaTags fieldMap keyPrefix
    (fun f _ size => size = if f.type.string = "*float32" then 32 else 64)
    fields.floatsNullable fields.floatsNullableSize
  /-- The width of each nullable unsigned column, as its type name gives it. -/
  uintegersNullable : Paired schemaTags fieldMap keyPrefix
    (fun f _ size => f.type.string = "*uint" ++ widthSuffix size)
    fields.uintegersNullable fields.uintegersNullableSize
  /-- The width of each nullable signed column, as its type name gives it. -/
  integersNullable : Paired schemaTags fieldMap keyPrefix
    (fun f _ size => f.type.string = "*int" ++ widthSuffix size)
    fields.integersNullable fields.integersNullableSize
  /-- The registered enum each `enum` tag names. -/
  stringsEnums : Paired schemaTags fieldMap keyPrefix
    (fun _ tags enum => ∃ code, GoMap.get? tags "enum" = some code ∧
      enum = GoMap.get? registry.enums code)
    fields.stringsEnums fields.enums
  /-- The registered enum each `set` tag names. -/
  sliceStringsSets : Paired schemaTags fieldMap keyPrefix
    (fun _ tags set => ∃ code, GoMap.get? tags "set" = some code ∧
      set = GoMap.get? registry.enums code)
    fields.sliceStringsSets fields.sets

variable {registry : Registry} {schemaTags : SchemaTags}
  {fieldMap fieldMap' : List (Nat × StructField)} {keyPrefix : String}

theorem PairsAligned.mono {fields : TableFields}
    (aligned : PairsAligned registry schemaTags fieldMap keyPrefix fields)
    (kept : ∀ index f, GoMap.get? fieldMap index = some f → GoMap.get? fieldMap' index = some f) :
    PairsAligned registry schemaTags fieldMap' keyPrefix fields :=
  ⟨aligned.refs.mono kept, aligned.structs.mono kept, aligned.floats.mono kept,
    aligned.floatsNullablePrecision.mono kept, aligned.floatsNullableSize.mono kept,
    aligned.uintegersNullable.mono kept, aligned.integersNullable.mono kept,
    aligned.stringsEnums.mono kept, aligned.sliceStringsSets.mono kept⟩

theorem PairsAligned.empty (t : GoType) (levelPrefix : String) :
    PairsAligned registry schemaTags fieldMap keyPrefix
      { t := t, keyPrefix := levelPrefix, structsFields := [] } :=
  ⟨.nil, .nil, .nil, .nil, .nil, .nil, .nil, .nil, .nil⟩

/-- What building a leaf field leaves as it was. -/
structure LeafFrame (fields fields' : TableFields) : Prop where
  t : fields'.t = fields.t
  keyPrefix : fields'.keyPrefix = fields.keyPrefix
  structs : fields'.structs = fields.structs
  structsFields : fields'.structsFields = fields.structsFields

end TableFields

open TableFields

/-! ## The widths of nullable integers -/

theorem mem_of_fieldCategory_eq_uintPointer {typeName : String}
    (category : fieldCategory typeName = .uintPointer) :
    typeName ∈ ["*uint", "*uint8", "*uint16", "*uint32", "*uint64"] := by
  unfold fieldCategory at category
  replace category :=
    (ite_eq_iff.1 category).elim (fun taken => absurd taken.2 (by decide)) And.right
  refine (ite_eq_iff.1 category).elim And.left fun taken => absurd taken.2 fun rest => ?_
  iterate 12 replace rest :=
    (ite_eq_iff.1 rest).elim (fun taken => absurd taken.2 (by decide)) And.right
  exact absurd rest (by decide)

theorem mem_of_fieldCategory_eq_intPointer {typeName : String}
    (category : fieldCategory typeName = .intPointer) :
    typeName ∈ ["*int", "*int8", "*int16", "*int32", "*int64"] := by
  unfold fieldCategory at category
  iterate 3 replace category :=
    (ite_eq_iff.1 category).elim (fun taken => absurd taken.2 (by decide)) And.right
  refine (ite_eq_iff.1 category).elim And.left fun taken => absurd taken.2 fun rest => ?_
  iterate 10 replace rest :=
    (ite_eq_iff.1 rest).elim (fun taken => absurd taken.2 (by decide)) And.right
  exact absurd rest (by decide)

namespace TableSchema

variable (attributes : SchemaFieldAttributes) (fields : TableFields) (adapters : Adapters)

/-- `buildUintPointerField` appends one width, the one the type name ends in. -/
theorem buildUintPointerField_width (category : fieldCategory attributes.typeName = .uintPointer) :
    ∃ size, (buildUintPointerField attributes fields adapters).1.uintegersNullableSize =
      fields.uintegersNullableSize ++ [size] ∧ attributes.typeName = "*uint" ++ widthSuffix size := by
  have member := mem_of_fieldCategory_eq_uintPointer category
  simp only [List.mem_cons, List.mem_singleton, List.not_mem_nil, or_false] at member
  unfold buildUintPointerField
  rcases member with named | named | named | named | named <;> rw [named] <;>
    exact ⟨_, rfl, by decide⟩

/-- `buildIntPointerField` appends one width, the one the type name ends in. -/
theorem buildIntPointerField_width (category : fieldCategory attributes.typeName = .intPointer) :
    ∃ size, (buildIntPointerField attributes fields adapters).1.integersNullableSize =
      fields.integersNullableSize ++ [size] ∧ attributes.typeName = "*int" ++ widthSuffix size := by
  have member := mem_of_fieldCategory_eq_intPointer category
  simp only [List.mem_cons, List.mem_singleton, List.not_mem_nil, or_false] at member
  unfold buildIntPointerField
  rcases member with named | named | named | named | named <;> rw [named] <;>
    exact ⟨_, rfl, by decide⟩

/-- Building a leaf field, recorded at its index with the tags the loop read,
keeps the pairs aligned: the builders that append to a pair append the field's
index and an entry describing it, and the others leave every pair as it was. -/
theorem buildLeafField_paired {registry : Registry} {schemaTags : SchemaTags}
    {fieldMap : List (Nat × StructField)} {keyPrefix : String} {fields' : TableFields}
    {adapters' : Adapters} (typed : attributes.typeName = attributes.field.type.string)
    (recorded : GoMap.get? fieldMap attributes.index = some attributes.field)
    (tagged : attributes.tags = GoMap.getD schemaTags (keyPrefix ++ attributes.field.name) [])
    (aligned : PairsAligned registry schemaTags fieldMap keyPrefix fields)
    (built : buildLeafField attributes fields adapters registry = some (.ok (fields', adapters'))) :
    PairsAligned registry schemaTags fieldMap keyPrefix fields' ∧ LeafFrame fields fields' := by
  unfold buildLeafField at built
  split at built <;> try simp only [Option.some.injEq] at built
  all_goals try obtain rfl := congrArg Prod.fst (Except.ok.inj built)
  next => exact ⟨{ aligned with }, rfl, rfl, rfl, rfl⟩
  next category =>
    obtain ⟨size, sized, named⟩ := buildUintPointerField_width attributes fields adapters category
    refine ⟨{ aligned with uintegersNullable := ?_ }, rfl, rfl, rfl, rfl⟩
    rw [sized]
    exact aligned.uintegersNullable.snoc recorded (typed.symm.trans named)
  next => exact ⟨{ aligned with }, rfl, rfl, rfl, rfl⟩
  next category =>
    obtain ⟨size, sized, named⟩ := buildIntPointerField_width attributes fields adapters category
    refine ⟨{ aligned with integersNullable := ?_ }, rfl, rfl, rfl, rfl⟩
    rw [sized]
    exact aligned.integersNullable.snoc recorded (typed.symm.trans named)
  next =>
    unfold buildStringField
    split
    next code found =>
      exact ⟨{ aligned with
        stringsEnums := aligned.stringsEnums.snoc recorded ⟨code, tagged ▸ found, rfl⟩ },
        rfl, rfl, rfl, rfl⟩
    next => exact ⟨{ aligned with }, rfl, rfl, rfl, rfl⟩
  next =>
    unfold buildStringSliceField
    split
    next code found =>
      exact ⟨{ aligned with
        sliceStringsSets := aligned.sliceStringsSets.snoc recorded ⟨code, tagged ▸ found, rfl⟩ },
        rfl, rfl, rfl, rfl⟩
    next => exact ⟨{ aligned with }, rfl, rfl, rfl, rfl⟩
  next => exact ⟨{ aligned with }, rfl, rfl, rfl, rfl⟩
  next =>
    unfold buildBoolField
    split <;> exact ⟨{ aligned with }, rfl, rfl, rfl, rfl⟩
  next => exact ⟨{ aligned with }, rfl, rfl, rfl, rfl⟩
  next =>
    unfold buildFloatField at built
    cases precision : floatPrecision attributes.tags (if attributes.typeName = "float32" then 4 else 8)
    all_goals simp only [precision, bind, Except.bind, pure, Except.pure, reduceCtorEq,
      Except.ok.injEq, Prod.mk.injEq] at built
    obtain ⟨rfl, -⟩ := built
    rw [tagged, typed] at precision
    exact ⟨{ aligned with floats := aligned.floats.snoc recorded precision }, rfl, rfl, rfl, rfl⟩
  next =>
    unfold buildFloatPointerField at built
    cases precision : floatPrecision attributes.tags
      (if attributes.typeName = "*float32" then 4 else 8)
    all_goals simp only [precision, bind, Except.bind, pure, Except.pure, reduceCtorEq,
      Except.ok.injEq, Prod.mk.injEq] at built
    obtain ⟨rfl, -⟩ := built
    have sized : (if attributes.typeName = "*float32" then 32 else 64) =
        if attributes.field.type.string = "*float32" then 32 else 64 := by rw [typed]
    rw [tagged, typed] at precision
    exact ⟨{ aligned with
      floatsNullablePrecision := aligned.floatsNullablePrecision.snoc recorded precision
      floatsNullableSize := aligned.floatsNullableSize.snoc recorded sized }, rfl, rfl, rfl, rfl⟩
  next => exact ⟨{ aligned with }, rfl, rfl, rfl, rfl⟩
  next =>
    unfold buildTimePointerField
    split <;> exact ⟨{ aligned with }, rfl, rfl, rfl, rfl⟩
  next =>
    unfold buildTimeField
    split <;> exact ⟨{ aligned with }, rfl, rfl, rfl, rfl⟩
  next =>
    split at built <;> simp only [Option.some.injEq, reduceCtorEq] at built
    all_goals obtain rfl := congrArg Prod.fst (Except.ok.inj built)
    next elem implementsEntity elemFields pointer =>
      unfold buildPointerField
      split
      next entity =>
        exact ⟨{ aligned with refs := aligned.refs.snoc recorded ⟨elemFields, by rw [pointer, entity]⟩ },
          rfl, rfl, rfl, rfl⟩
      next => exact ⟨{ aligned with }, rfl, rfl, rfl, rfl⟩
    next => exact ⟨{ aligned with }, rfl, rfl, rfl, rfl⟩

end TableSchema

namespace TableFields

/-- The field indexes the lists of a level hold: the column categories and the
nested structs. -/
def listedIds (fields : TableFields) : List Nat := categoryIds fields ++ fields.structs

/-- What `buildTableFields` makes true of every level it builds: the pairs of
parallel lists are aligned, every index a list holds and the soft-delete field,
once set, is a recorded field, and no index is held twice. -/
structure Aligned (registry : Registry) (schemaTags : SchemaTags) (fields : TableFields)
    extends PairsAligned registry schemaTags fields.fields fields.keyPrefix fields : Prop where
  listed : ∀ index ∈ listedIds fields, index ∈ GoMap.keys fields.fields
  fakeDelete : fields.fakeDelete ≠ 0 → fields.fakeDelete ∈ GoMap.keys fields.fields
  distinct : (listedIds fields).Nodup

/-- The lengths the pairs of an aligned level agree on. -/
theorem Aligned.lengths {registry : Registry} {schemaTags : SchemaTags} {fields : TableFields}
    (aligned : Aligned registry schemaTags fields) :
    fields.refs.length = fields.refsTypes.length ∧
      fields.structs.length = fields.structsFields.length ∧
      fields.floats.length = fields.floatsPrecision.length ∧
      fields.floatsNullable.length = fields.floatsNullablePrecision.length ∧
      fields.floatsNullablePrecision.length = fields.floatsNullableSize.length ∧
      fields.uintegersNullable.length = fields.uintegersNullableSize.length ∧
      fields.integersNullable.length = fields.integersNullableSize.length ∧
      fields.stringsEnums.length = fields.enums.length ∧
      fields.sliceStringsSets.length = fields.sets.length :=
  ⟨aligned.refs.length_eq, aligned.structs.length_eq, aligned.floats.length_eq,
    aligned.floatsNullablePrecision.length_eq,
    aligned.floatsNullablePrecision.length_eq.symm.trans aligned.floatsNullableSize.length_eq,
    aligned.uintegersNullable.length_eq, aligned.integersNullable.length_eq,
    aligned.stringsEnums.length_eq, aligned.sliceStringsSets.length_eq⟩

end TableFields

/-! ## The loop of `buildTableFields` -/

/-- What the loop of `buildTableFields` keeps of a level built for `t` under
`keyPrefix`, before building field `index`. -/
structure Aligning (registry : Registry) (schemaTags : SchemaTags) (t : GoType)
    (keyPrefix : String) (index : Nat) (fields : TableFields)
    extends Aligned registry schemaTags fields : Prop where
  below : ∀ key ∈ GoMap.keys fields.fields, key < index
  level : fields.t = t ∧ fields.keyPrefix = keyPrefix
  nested : allLevelsOf (Aligned registry schemaTags) fields.structsFields

section Loop

variable {registry : Registry} {schemaTags : SchemaTags} {t : GoType} {keyPrefix : String}
  {index : Nat} {f : StructField} {fields fields' : TableFields}

theorem Aligning.start (start : Nat) :
    Aligning registry schemaTags t keyPrefix start
      { t := t, keyPrefix := keyPrefix, structsFields := [] } :=
  ⟨⟨PairsAligned.empty t keyPrefix, by simp [listedIds, categoryIds, categoryLists], by simp,
    by simp [listedIds, categoryIds, categoryLists]⟩, by simp [GoMap.keys], ⟨rfl, rfl⟩, trivial⟩

/-- A field tagged `ignore` is skipped. -/
theorem Aligning.skip (aligning : Aligning registry schemaTags t keyPrefix index fields) :
    Aligning registry schemaTags t keyPrefix (index + 1) fields :=
  { aligning with below := fun key member => Nat.lt_succ_of_lt (aligning.below key member) }

/-- A field recorded at `index` keeps the invariant once its level's lists
account for it: its index joins one of them or none, or it becomes the
soft-delete field. -/
theorem Aligning.extend (aligning : Aligning registry schemaTags t keyPrefix index fields)
    (map : fields'.fields = GoMap.set fields.fields index f)
    (pairs : PairsAligned registry schemaTags fields'.fields keyPrefix fields')
    (level : fields'.t = t ∧ fields'.keyPrefix = keyPrefix)
    (listed : (listedIds fields').Perm (index :: listedIds fields) ∨
      listedIds fields' = listedIds fields)
    (softDelete : fields'.fakeDelete = fields.fakeDelete ∨ fields'.fakeDelete = index)
    (nested : allLevelsOf (Aligned registry schemaTags) fields'.structsFields) :
    Aligning registry schemaTags t keyPrefix (index + 1) fields' := by
  have fresh : index ∉ GoMap.keys fields.fields := fun member =>
    Nat.lt_irrefl _ (aligning.below _ member)
  have keys : GoMap.keys fields'.fields = GoMap.keys fields.fields ++ [index] := by
    rw [map, GoMap.keys_set, if_neg fresh]
  have unlisted : index ∉ listedIds fields := fun member => fresh (aligning.listed _ member)
  refine ⟨⟨level.2 ▸ pairs, fun key member => ?_, fun set => ?_, ?_⟩, fun key member => ?_,
    level, nested⟩
  · rw [keys, List.mem_append, List.mem_singleton]
    rcases listed with perm | same
    · rcases List.mem_cons.1 (perm.mem_iff.1 member) with rfl | member
      · exact .inr rfl
      · exact .inl (aligning.listed key member)
    · exact .inl (aligning.listed key (same ▸ member))
  · rw [keys, List.mem_append, List.mem_singleton]
    rcases softDelete with same | same
    · rw [same]
      exact .inl (aligning.fakeDelete (same ▸ set))
    · exact .inr same
  · rcases listed with perm | same
    · exact perm.nodup_iff.2 (List.nodup_cons.2 ⟨unlisted, aligning.distinct⟩)
    · exact same ▸ aligning.distinct
  · rw [keys, List.mem_append, List.mem_singleton] at member
    rcases member with member | rfl
    · exact Nat.lt_succ_of_lt (aligning.below key member)
    · exact Nat.lt_succ_self _

/-- A struct builder that builds every nested struct for its type, under its
prefix, with every level aligned. -/
def BuildsAligned (registry : Registry) (schemaTags : SchemaTags) (buildStruct : StructBuilder) :
    Prop :=
  ∀ subPrefix subType adapters sub adapters',
    buildStruct subPrefix subType adapters = .ok (sub, adapters') →
    sub.t = subType ∧ sub.keyPrefix = subPrefix ∧ AllLevels (Aligned registry schemaTags) sub

/-- Building the field at `index`, recorded first in the field map, keeps the
invariant. -/
theorem Aligning.step {buildStruct : StructBuilder} {adapters adapters' : Adapters}
    (builds : BuildsAligned registry schemaTags buildStruct)
    (aligning : Aligning registry schemaTags t keyPrefix index fields)
    (built : TableSchema.buildField registry buildStruct
      ⟨f, f.type.string, GoMap.getD schemaTags (keyPrefix ++ f.name) [], index, keyPrefix⟩
      { fields with fields := GoMap.set fields.fields index f } adapters = .ok (fields', adapters')) :
    Aligning registry schemaTags t keyPrefix (index + 1) fields' := by
  have recorded : GoMap.get? (GoMap.set fields.fields index f) index = some f :=
    GoMap.get?_set_self _ _ _
  have kept : ∀ key g, GoMap.get? fields.fields key = some g →
      GoMap.get? (GoMap.set fields.fields index f) key = some g := fun key g found => by
    have below := aligning.below key (List.mem_map_of_mem Prod.fst (GoMap.mem_of_get? found))
    rw [GoMap.get?_set_of_ne _ _ (Nat.ne_of_gt below)]
    exact found
  have pairs : PairsAligned registry schemaTags (GoMap.set fields.fields index f) keyPrefix
      { fields with fields := GoMap.set fields.fields index f } := by
    rw [← aligning.level.2]
    exact { aligning.toPairsAligned.mono kept with }
  unfold TableSchema.buildField at built
  split at built
  next result leaf =>
    have leafBuilt := leaf.trans (congrArg some built)
    obtain ⟨paired, frame⟩ := TableSchema.buildLeafField_paired _ _ _ rfl recorded rfl pairs leafBuilt
    rcases TableSchema.buildLeafField_effect _ _ _ rfl leafBuilt with
      ⟨added, -⟩ | ⟨rfl, -⟩ | ⟨rfl, -⟩
    · refine aligning.extend added.fieldMap (added.fieldMap ▸ paired)
        ⟨frame.t.trans aligning.level.1, frame.keyPrefix.trans aligning.level.2⟩ (.inl ?_)
        (.inl added.fakeDelete) (frame.structsFields ▸ aligning.nested)
      rw [listedIds, listedIds, frame.structs]
      exact added.perm.append_right _
    · exact aligning.extend rfl paired aligning.level (.inr rfl) (.inr rfl) aligning.nested
    · exact aligning.extend rfl paired aligning.level (.inr rfl) (.inl rfl) aligning.nested
  next =>
    simp only [bind, Except.bind] at built
    split at built
    · cases built
    next _ _ nested builtStruct =>
      obtain ⟨sub, nestedAdapters⟩ := nested
      cases built
      obtain ⟨subType, subPrefix, subAligned⟩ := builds _ _ _ _ _ builtStruct
      have paired : PairsAligned registry schemaTags (GoMap.set fields.fields index f) keyPrefix
          { fields with
            fields := GoMap.set fields.fields index f
            structs := fields.structs ++ [index]
            structsFields := fields.structsFields ++ [sub] } :=
        { pairs with structs := pairs.structs.snoc recorded ⟨subType, subPrefix⟩ }
      refine aligning.extend rfl paired aligning.level (.inl ?_) (.inl rfl) ?_
      · show (categoryIds fields ++ (fields.structs ++ [index])).Perm
          (index :: (categoryIds fields ++ fields.structs))
        rw [← List.append_assoc]
        exact List.perm_append_singleton _ _
      · rw [allLevelsOf_append]
        exact ⟨aligning.nested, subAligned, trivial⟩

/-- The loop of `buildTableFields`, from any state keeping the invariant, ends
with a level for `t` under `keyPrefix` whose every level is aligned. -/
theorem buildFieldsFrom_aligned {buildStruct : StructBuilder}
    (builds : BuildsAligned registry schemaTags buildStruct) (remaining : List StructField) :
    ∀ {index : Nat} {fields fields' : TableFields} {adapters adapters' : Adapters},
      Aligning registry schemaTags t keyPrefix index fields →
      TableSchema.buildFieldsFrom registry schemaTags keyPrefix buildStruct index remaining
        fields adapters = .ok (fields', adapters') →
      fields'.t = t ∧ fields'.keyPrefix = keyPrefix ∧ AllLevels (Aligned registry schemaTags) fields' := by
  induction remaining with
  | nil =>
      intro index fields fields' adapters adapters' aligning built
      cases built
      exact ⟨aligning.level.1, aligning.level.2,
        (allLevels_iff _).2 ⟨aligning.toAligned, aligning.nested⟩⟩
  | cons f rest induction =>
      intro index fields fields' adapters adapters' aligning built
      rw [TableSchema.buildFieldsFrom] at built
      dsimp only at built
      split at built
      · exact induction aligning.skip built
      · split at built
        · cases built
        next builtField => exact induction (aligning.step builds builtField) built

end Loop

/-- `buildTableFields` within any depth bound builds a level for its type under
its prefix, with every level aligned. -/
theorem buildTableFieldsWithin_aligned {registry : Registry} {schemaTags : SchemaTags}
    (depth : Nat) :
    ∀ {t : GoType} {start : Nat} {keyPrefix : String} {adapters adapters' : Adapters}
      {fields' : TableFields},
      TableSchema.buildTableFieldsWithin registry schemaTags depth t start keyPrefix adapters =
        .ok (fields', adapters') →
      fields'.t = t ∧ fields'.keyPrefix = keyPrefix ∧ AllLevels (Aligned registry schemaTags) fields' := by
  induction depth with
  | zero =>
      intro t start keyPrefix adapters adapters' fields' built
      rw [TableSchema.buildTableFieldsWithin] at built
      exact buildFieldsFrom_aligned (fun _ _ _ _ _ thrown => by cases thrown) _
        (Aligning.start start) built
  | succ depth induction =>
      intro t start keyPrefix adapters adapters' fields' built
      rw [TableSchema.buildTableFieldsWithin] at built
      exact buildFieldsFrom_aligned (fun _ _ _ _ _ builtSub => induction builtSub) _
        (Aligning.start start) built

/-- For every struct type, every level of the fields `buildTableFields` builds,
at every depth of nesting, keeps its parallel lists aligned: each pair has one
entry per index, and entry `i` describes the field at index `i`. Every index a
list holds, and the soft-delete field once set, is a recorded field, and no index
is held by two lists. -/
theorem buildTableFields_levels_aligned {t : GoType} {registry : Registry} {start : Nat}
    {keyPrefix : String} {schemaTags : SchemaTags} {adapters adapters' : Adapters}
    {fields : TableFields}
    (built : TableSchema.buildTableFields t registry start keyPrefix schemaTags adapters =
      .ok (fields, adapters')) :
    AllLevels (Aligned registry schemaTags) fields :=
  (buildTableFieldsWithin_aligned _ built).2.2

/-- A registry with one enum. -/
def statusRegistry : Registry :=
  { mysqlPools := ["default"], localCachePools := [], redisPools := [], entities := [],
    enums := [("statuses", ⟨["active", "archived"], [("active", 1), ("archived", 2)], "active"⟩)],
    plugins := [] }

/-- A struct with a field of each kind that fills a pair: a nullable `uint8`, a
`float32`, an enum column, a reference, and a nested struct holding a nullable
`float64`. -/
def readingStruct : GoType :=
  .struct "main.Reading" "Reading"
    [⟨"Level", false, [], .pointer "uint8" false []⟩, ⟨"Value", false, [], .basic "float32"⟩,
      ⟨"Status", false, [], .basic "string"⟩, ⟨"Owner", false, [], .pointer "main.User" true []⟩,
      ⟨"Range", false, [], .struct "main.Range" "Range" [⟨"Max", false, [], .pointer "float64" false []⟩]⟩]

/-- The tags `readingStruct` is built with. -/
def readingTags : SchemaTags := [("Status", [("enum", "statuses")])]

theorem readingStruct_levels_aligned :
    ∃ fields adapters, TableSchema.buildTableFields readingStruct statusRegistry 0 "" readingTags {} =
      .ok (fields, adapters) ∧ AllLevels (Aligned statusRegistry readingTags) fields := by
  obtain ⟨fields, adapters, built⟩ : ∃ fields adapters,
      TableSchema.buildTableFields readingStruct statusRegistry 0 "" readingTags {} =
        .ok (fields, adapters) := ⟨_, _, rfl⟩
  exact ⟨fields, adapters, built, buildTableFields_levels_aligned built⟩

example : (TableSchema.buildTableFields readingStruct statusRegistry 0 "" readingTags {}).toOption.map
    (fun built => (built.1.uintegersNullableSize, built.1.floatsPrecision, built.1.refsTypes,
      built.1.structsFields.map (·.floatsNullableSize))) =
      some ([8], [4], ["main.User"], [[64]]) := by decide

end BeeOrm
