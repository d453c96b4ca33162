import BeeOrm.Schema.Tags

/-! `buildTableFields` and the `build*Field` helpers: the second pass of the
schema builder. It sorts the fields of an entity struct, at every depth of
nested structs, into category lists by field index, and registers the bind and
scan adapters of each column under its column name. -/

namespace BeeOrm

/-- The `mapBindToScanPointer` entries: which Go function a column gets. The
first four are the closures written inline in the `build*Field` helpers. -/
inductive ScanPointer where
  | uint64Pointer
  | int64Pointer
  | nullStringPointer
  | float64Pointer
  | scanIntNullablePointer
  | scanStringNullablePointer
  | scanBoolPointer
  | scanBoolNullablePointer
  | scanFloatNullablePointer
  | scanStringPointer
deriving DecidableEq

/-- The `mapPointerToValue` entries; the first four are inline closures. -/
inductive PointerToValue where
  | uint64Value
  | int64Value
  | nullStringValue
  | float64Value
  | pointerUintNullableScan
  | pointerIntNullableScan
  | pointerStringNullableScan
  | pointerBoolScan
  | pointerBoolNullableScan
  | pointerFloatNullableScan
  | pointerStringScan
deriving DecidableEq

/-- The two adapter maps of a `tableSchema`, filled while its fields are built. -/
structure Adapters where
  mapBindToScanPointer : List (String × ScanPointer) := []
  mapPointerToValue : List (String × PointerToValue) := []

/-- Both assignments a `build*Field` helper makes for one column. -/
def Adapters.register (adapters : Adapters) (columnName : String) (scan : ScanPointer)
    (value : PointerToValue) : Adapters where
  mapBindToScanPointer := GoMap.set adapters.mapBindToScanPointer columnName scan
  mapPointerToValue := GoMap.set adapters.mapPointerToValue columnName value

/-- `tableFields`: the fields of one struct level by category. The Go field
`prefix` is `keyPrefix` here, `prefix` being a keyword of Lean. -/
structure TableFields where
  t : GoType
  fields : List (Nat × StructField) := []
  keyPrefix : String
  uintegers : List Nat := []
  integers : List Nat := []
  uintegersNullable : List Nat := []
  uintegersNullableSize : List Nat := []
  integersNullable : List Nat := []
  integersNullableSize : List Nat := []
  strings : List Nat := []
  stringsEnums : List Nat := []
  enums : List (Option Enum) := []
  sliceStringsSets : List Nat := []
  sets : List (Option Enum) := []
  bytes : List Nat := []
  fakeDelete : Nat := 0
  booleans : List Nat := []
  booleansNullable : List Nat := []
  floats : List Nat := []
  floatsPrecision : List Int := []
  floatsNullable : List Nat := []
  floatsNullablePrecision : List Int := []
  floatsNullableSize : List Nat := []
  timesNullable : List Nat := []
  datesNullable : List Nat := []
  times : List Nat := []
  dates : List Nat := []
  jsons : List Nat := []
  structs : List Nat := []
  structsFields : List TableFields
  refs : List Nat := []
  refsTypes : List String := []
deriving Inhabited

/-- `schemaFieldAttributes`, without the `Fields` pointer, which the helpers
below take and return as their state. -/
structure SchemaFieldAttributes where
  field : StructField
  typeName : String
  tags : FieldTags
  index : Nat
  keyPrefix : String

/-- `attributes.GetColumnName()`. -/
def SchemaFieldAttributes.getColumnName (attributes : SchemaFieldAttributes) : String :=
  attributes.keyPrefix ++ attributes.field.name

/-- The cases of the `switch` of `buildTableFields` on `f.Type.String()`. -/
inductive FieldCategory where
  | uint | uintPointer | int | intPointer | string | stringSlice | bytes | bool
  | boolPointer | float | floatPointer | cachedQuery | timePointer | time | other
deriving DecidableEq

/-- The `case` lists of the `switch` of `buildTableFields`. -/
def fieldCategory (typeName : String) : FieldCategory :=
  if typeName ∈ ["uint", "uint8", "uint16", "uint32", "uint64"] then .uint
  else if typeName ∈ ["*uint", "*uint8", "*uint16", "*uint32", "*uint64"] then .uintPointer
  else if typeName ∈ ["int", "int8", "int16", "int32", "int64"] then .int
  else if typeName ∈ ["*int", "*int8", "*int16", "*int32", "*int64"] then .intPointer
  else if typeName = "string" then .string
  else if typeName = "[]string" then .stringSlice
  else if typeName = "[]uint8" then .bytes
  else if typeName = "bool" then .bool
  else if typeName = "*bool" then .boolPointer
  else if typeName ∈ ["float32", "float64"] then .float
  else if typeName ∈ ["*float32", "*float64"] then .floatPointer
  else if typeName = "*beeorm.CachedQuery" then .cachedQuery
  else if typeName = "*time.Time" then .timePointer
  else if typeName = "time.Time" then .time
  else .other

namespace TableSchema

variable (attributes : SchemaFieldAttributes) (fields : TableFields) (adapters : Adapters)

def buildUintField : TableFields × Adapters :=
  ({ fields with uintegers := fields.uintegers ++ [attributes.index] },
    adapters.register attributes.getColumnName .uint64Pointer .uint64Value)

def buildUintPointerField : TableFields × Adapters :=
  let sizes := [("*uint", 0), ("*uint8", 8), ("*uint16", 16), ("*uint32", 32), ("*uint64", 64)]
  ({ fields with
      uintegersNullable := fields.uintegersNullable ++ [attributes.index]
      uintegersNullableSize :=
        fields.uintegersNullableSize ++ (GoMap.get? sizes attributes.typeName).toList },
    adapters.register attributes.getColumnName .scanIntNullablePointer .pointerUintNullableScan)

def buildIntField : TableFields × Adapters :=
  ({ fields with integers := fields.integers ++ [attributes.index] },
    adapters.register attributes.getColumnName .int64Pointer .int64Value)

def buildIntPointerField : TableFields × Adapters :=
  let sizes := [("*int", 0), ("*int8", 8), ("*int16", 16), ("*int32", 32), ("*int64", 64)]
  ({ fields with
      integersNullable := fields.integersNullable ++ [attributes.index]
      integersNullableSize :=
        fields.integersNullableSize ++ (GoMap.get? sizes attributes.typeName).toList },
    adapters.register attributes.getColumnName .scanIntNullablePointer .pointerIntNullableScan)

def buildStringField (registry : Registry) : TableFields × Adapters :=
  let fields := match GoMap.get? attributes.tags "enum" with
    | some enumCode =>
        { fields with
          stringsEnums := fields.stringsEnums ++ [attributes.index]
          enums := fields.enums ++ [GoMap.get? registry.enums enumCode] }
    | none => { fields with strings := fields.strings ++ [attributes.index] }
  (fields, adapters.register attributes.getColumnName .nullStringPointer .nullStringValue)

def buildStringSliceField (registry : Registry) : TableFields × Adapters :=
  let fields := match GoMap.get? attributes.tags "set" with
    | some setCode =>
        { fields with
          sliceStringsSets := fields.sliceStringsSets ++ [attributes.index]
          sets := fields.sets ++ [GoMap.get? registry.enums setCode] }
    | none => { fields with jsons := fields.jsons ++ [attributes.index] }
  (fields, adapters.register attributes.getColumnName
    .scanStringNullablePointer .pointerStringNullableScan)

/-- A `bool` field whose column name is `FakeDelete` becomes the soft-delete
field and gets no adapters. -/
def buildBoolField : TableFields × Adapters :=
  if attributes.getColumnName = "FakeDelete" then
    ({ fields with fakeDelete := attributes.index }, adapters)
  else
    ({ fields with booleans := fields.booleans ++ [attributes.index] },
      adapters.register attributes.getColumnName .scanBoolPointer .pointerBoolScan)

def buildBoolPointerField : TableFields × Adapters :=
  ({ fields with booleansNullable := fields.booleansNullable ++ [attributes.index] },
    adapters.register attributes.getColumnName .scanBoolNullablePointer .pointerBoolNullableScan)

/-- The storage precision of a float column: the type's default, a `precision`
tag, or the scale of a `decimal` tag. `strings.Split(decimal, ",")[1]` panics
on a `decimal` tag without a comma. -/
def floatPrecision (tags : FieldTags) (default : Int) : Except String Int :=
  match GoMap.get? tags "precision" with
  | some precisionAttribute => pure (Strconv.parseInt precisionAttribute)
  | none =>
      match GoMap.get? tags "decimal" with
      | some decimal =>
          match Strings.split decimal ',' with
          | _ :: scale :: _ => pure (Strconv.parseInt scale)
          | _ => throw (indexOutOfRange 1 1)
      | none => pure default

def buildFloatField : Except String (TableFields × Adapters) := do
  let precision ← floatPrecision attributes.tags
    (if attributes.typeName = "float32" then 4 else 8)
  pure ({ fields with
      floats := fields.floats ++ [attributes.index]
      floatsPrecision := fields.floatsPrecision ++ [precision] },
    adapters.register attributes.getColumnName .float64Pointer .float64Value)

def buildFloatPointerField : Except String (TableFields × Adapters) := do
  let precision ← floatPrecision attributes.tags
    (if attributes.typeName = "*float32" then 4 else 8)
  pure ({ fields with
      floatsNullableSize :=
        fields.floatsNullableSize ++ [if attributes.typeName = "*float32" then 32 else 64]
      floatsNullable := fields.floatsNullable ++ [attributes.index]
      floatsNullablePrecision := fields.floatsNullablePrecision ++ [precision] },
    adapters.register attributes.getColumnName
      .scanFloatNullablePointer .pointerFloatNullableScan)

def buildTimePointerField : TableFields × Adapters :=
  let fields := if (GoMap.get? attributes.tags "time").isSome then
      { fields with timesNullable := fields.timesNullable ++ [attributes.index] }
    else { fields with datesNullable := fields.datesNullable ++ [attributes.index] }
  (fields, adapters.register attributes.getColumnName
    .scanStringNullablePointer .pointerStringNullableScan)

def buildTimeField : TableFields × Adapters :=
  let fields := if (GoMap.get? attributes.tags "time").isSome then
      { fields with times := fields.times ++ [attributes.index] }
    else { fields with dates := fields.dates ++ [attributes.index] }
  (fields, adapters.register attributes.getColumnName .scanStringPointer .pointerStringScan)

/-- A pointer to an entity is a reference column; any other pointer is JSON. -/
def buildPointerField (elem : String) (implementsEntity : Bool) : TableFields × Adapters :=
  if implementsEntity then
    ({ fields with
        refs := fields.refs ++ [attributes.index]
        refsTypes := fields.refsTypes ++ [elem] },
      adapters.register attributes.getColumnName .scanIntNullablePointer .pointerUintNullableScan)
  else ({ fields with jsons := fields.jsons ++ [attributes.index] }, adapters)

def buildPointersSliceField : TableFields × Adapters :=
  ({ fields with jsons := fields.jsons ++ [attributes.index] }, adapters)

/-- The leaf cases of the `switch` of `buildTableFields`; `none` for a nested
struct, which `buildStructField` handles. -/
def buildLeafField (registry : Registry) : Option (Except String (TableFields × Adapters)) :=
  match fieldCategory attributes.typeName with
  | .uint => some (pure (buildUintField attributes fields adapters))
  | .uintPointer => some (pure (buildUintPointerField attributes fields adapters))
  | .int => some (pure (buildIntField attributes fields adapters))
  | .intPointer => some (pure (buildIntPointerField attributes fields adapters))
  | .string => some (pure (buildStringField attributes fields adapters registry))
  | .stringSlice => some (pure (buildStringSliceField attributes fields adapters registry))
  | .bytes => some (pure ({ fields with bytes := fields.bytes ++ [attributes.index] }, adapters))
  | .bool => some (pure (buildBoolField attributes fields adapters))
  | .boolPointer => some (pure (buildBoolPointerField attributes fields adapters))
  | .float => some (buildFloatField attributes fields adapters)
  | .floatPointer => some (buildFloatPointerField attributes fields adapters)
  | .cachedQuery => some (pure (fields, adapters))
  | .timePointer => some (pure (buildTimePointerField attributes fields adapters))
  | .time => some (pure (buildTimeField attributes fields adapters))
  | .other =>
      match attributes.field.type with
      | .struct _ _ _ => none
      | .pointer elem implementsEntity _ =>
          some (pure (buildPointerField attributes fields adapters elem implementsEntity))
      | .basic _ => some (pure (buildPointersSliceField attributes fields adapters))

end TableSchema

/-- The field types of a struct type that are not leaves, and how deep their
nesting goes. -/
def GoType.structDepth : GoType → Nat
  | .struct _ _ fields => structDepthOf fields + 1
  | _ => 0
where
  structDepthOf : List StructField → Nat
    | [] => 0
    | field :: rest => max (structDepth field.type) (structDepthOf rest)

/-- What `buildStructField` does for a nested struct field: the field's
`tableFields`, built under the given prefix, with the schema's adapters. -/
abbrev StructBuilder :=
  String → GoType → Adapters → Except String (TableFields × Adapters)

namespace TableSchema

/-- One field of the `switch`: a leaf by its category, a nested struct by
`buildStructField`, which builds the struct's fields under the field's own name
as prefix (none when the field is anonymous) and records them. -/
def buildField (registry : Registry) (buildStruct : StructBuilder)
    (attributes : SchemaFieldAttributes) (fields : TableFields) (adapters : Adapters) :
    Except String (TableFields × Adapters) :=
  match buildLeafField attributes fields adapters registry with
  | some built => built
  | none => do
      let subPrefix := if attributes.field.anonymous then "" else attributes.field.name
      let (subFields, adapters) ← buildStruct subPrefix attributes.field.type adapters
      pure ({ fields with
          structs := fields.structs ++ [attributes.index]
          structsFields := fields.structsFields ++ [subFields] }, adapters)

/-- The loop of `buildTableFields` from field `index` on: a field tagged
`ignore` under `prefix+f.Name` is skipped, any other is recorded in `fields`
and built by `buildField`. -/
def buildFieldsFrom (registry : Registry) (schemaTags : SchemaTags) (keyPrefix : String)
    (buildStruct : StructBuilder) :
    Nat → List StructField → TableFields → Adapters → Except String (TableFields × Adapters)
  | _, [], fields, adapters => pure (fields, adapters)
  | index, f :: rest, fields, adapters =>
      let tags := GoMap.getD schemaTags (keyPrefix ++ f.name) []
      if (GoMap.get? tags "ignore").isSome then
        buildFieldsFrom registry schemaTags keyPrefix buildStruct (index + 1) rest fields adapters
      else
        let fields := { fields with fields := GoMap.set fields.fields index f }
        match buildField registry buildStruct ⟨f, f.type.string, tags, index, keyPrefix⟩
            fields adapters with
        | .error message => .error message
        | .ok (fields, adapters) =>
            buildFieldsFrom registry schemaTags keyPrefix buildStruct (index + 1) rest fields adapters

/-- `buildTableFields` for a type whose structs nest at most `depth` deep. -/
def buildTableFieldsWithin (registry : Registry) (schemaTags : SchemaTags) :
    (depth : Nat) → (t : GoType) → (start : Nat) → (keyPrefix : String) → Adapters →
      Except String (TableFields × Adapters)
  | depth, t, start, keyPrefix, adapters =>
      let buildStruct : StructBuilder := match depth with
        | 0 => fun _ _ _ => throw "struct nesting deeper than its bound"
        | depth + 1 => fun subPrefix subType adapters =>
            buildTableFieldsWithin registry schemaTags depth subType 0 subPrefix adapters
      buildFieldsFrom registry schemaTags keyPrefix buildStruct start (t.fields.drop start)
        { t := t, keyPrefix := keyPrefix, structsFields := [] } adapters

/-- `tableSchema.buildTableFields(t, registry, start, prefix, schemaTags)`, with
the schema's adapter maps passed in and returned; `throw` is a panic. -/
def buildTableFields (t : GoType) (registry : Registry) (start : Nat)
    (keyPrefix : String) (schemaTags : SchemaTags) (adapters : Adapters) :
    Except String (TableFields × Adapters) :=
  buildTableFieldsWithin registry schemaTags t.structDepth t start keyPrefix adapters

end TableSchema

end BeeOrm
