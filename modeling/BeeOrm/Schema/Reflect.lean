import BeeOrm.Foundation.GoMap

/-! The part of Go's `reflect` package the schema builder reads: struct types,
their fields with names, embedding flags and tags, and `FieldByName`. -/

namespace BeeOrm

/-- A struct field as `reflect.StructField` describes it. The field type is a
parameter so that the fields of a struct type can be nested in `GoType`. -/
structure FieldOf (α : Type) where
  name : String
  anonymous : Bool
  /-- The struct tag as key/value pairs; `Tag.Lookup` reads the first match. -/
  tag : List (String × String)
  type : α

/-- Go types as the schema builder distinguishes them. -/
inductive GoType where
  /-- A type that is neither a pointer nor a struct, by its `String()`:
  `uint64`, `*`-free names such as `[]string`, `[]uint8` or `main.Color`. -/
  | basic (string : String)
  /-- The pointer type `*elem`; whether it implements `beeorm.Entity`; and, when
  `elem` is a struct type, its fields, which `FieldByName` searches behind an
  embedded pointer. A value of this type is finite, so the fields of a struct
  that refers to itself are given only as deep as an embedding reads them. -/
  | pointer (elem : String) (implementsEntity : Bool) (elemFields : List (FieldOf GoType))
  /-- A struct type with its `String()`, its `Name()` and its fields in order. -/
  | struct (string : String) (name : String) (fields : List (FieldOf GoType))
deriving Inhabited

abbrev StructField := FieldOf GoType

/-- The part of `reflect.Kind` the code tells apart. -/
inductive Kind where
  | ptr
  | struct
  | other
deriving DecidableEq

namespace GoType

/-- `Type.String()`. -/
def string : GoType → String
  | .basic string => string
  | .pointer elem _ _ => "*" ++ elem
  | .struct string _ _ => string

/-- `Type.Kind()`. -/
def kind : GoType → Kind
  | .basic _ => .other
  | .pointer _ _ _ => .ptr
  | .struct _ _ _ => .struct

/-- `Type.Name()` of a struct type; other types are never asked. -/
def name : GoType → String
  | .struct _ name _ => name
  | _ => ""

/-- The fields of a struct type, `Type.Field(0)` to `Type.Field(NumField() - 1)`. -/
def fields : GoType → List StructField
  | .struct _ _ fields => fields
  | _ => []

/-- The fields `FieldByName` searches behind an embedded field of this type: a
struct's own, and those of the struct a pointer points to. -/
def embeddedFields : GoType → List StructField
  | .struct _ _ fields => fields
  | .pointer _ _ elemFields => elemFields
  | .basic _ => []

/-- How deep embedded fields are nested, through structs and pointers to
structs; `FieldByName` searches no deeper. -/
def embeddingDepth : GoType → Nat
  | .struct _ _ fields => embeddingDepthOf fields + 1
  | .pointer _ _ elemFields => embeddingDepthOf elemFields + 1
  | .basic _ => 0
where
  embeddingDepthOf : List StructField → Nat
    | [] => 0
    | field :: rest =>
        max (if field.anonymous then embeddingDepth field.type else 0)
          (embeddingDepthOf rest)

/-- Go's rule that the fields of a struct type have distinct names, at every
level of the type. -/
def fieldNamesDistinct : GoType → Bool
  | .struct _ _ fields => decide (fields.map (·.name)).Nodup && fieldNamesDistinctOf fields
  | _ => true
where
  fieldNamesDistinctOf : List StructField → Bool
    | [] => true
    | field :: rest => fieldNamesDistinct field.type && fieldNamesDistinctOf rest

theorem fieldNamesDistinctOf_iff (fields : List StructField) :
    fieldNamesDistinct.fieldNamesDistinctOf fields = true ↔
      ∀ field ∈ fields, field.type.fieldNamesDistinct = true := by
  induction fields with
  | nil => simp [fieldNamesDistinct.fieldNamesDistinctOf]
  | cons field rest induction =>
      simp [fieldNamesDistinct.fieldNamesDistinctOf, induction]

theorem fieldNamesDistinct_fields {t : GoType} (distinct : t.fieldNamesDistinct = true) :
    (t.fields.map (·.name)).Nodup ∧ ∀ field ∈ t.fields, field.type.fieldNamesDistinct = true := by
  cases t with
  | struct string name fields =>
      simpa [fieldNamesDistinct, fieldNamesDistinctOf_iff] using distinct
  | basic => simp [GoType.fields]
  | pointer => simp [GoType.fields]

end GoType

namespace FieldOf

/-- `StructField.Tag.Lookup(key)`. -/
def lookup (field : StructField) (key : String) : Option String :=
  GoMap.get? field.tag key

end FieldOf

/-- The zero `reflect.StructField`, read from a Go map at a missing index. -/
def zeroField : StructField := ⟨"", false, [], .basic ""⟩

/-- The fields named `name` at embedding depth `depth`: depth 0 are the struct's
own fields, depth `d + 1` those at depth `d` behind its embedded fields, whether
of a struct type or of a pointer to one. -/
def fieldsNamedAt (name : String) : Nat → List StructField → List StructField
  | 0, fields => fields.filter (·.name = name)
  | depth + 1, fields => fields.flatMap fun field =>
      if field.anonymous then fieldsNamedAt name depth field.type.embeddedFields else []

/-- The breadth-first search of `FieldByName`: the shallowest depth with a field
of that name decides, and two such fields at that depth make the name ambiguous. -/
def fieldByNameFrom (fields : List StructField) (name : String) :
    (depth fuel : Nat) → Option StructField
  | _, 0 => none
  | depth, fuel + 1 =>
      match fieldsNamedAt name depth fields with
      | [] => fieldByNameFrom fields name (depth + 1) fuel
      | [field] => some field
      | _ :: _ :: _ => none

/-- `Type.FieldByName(name)` of a struct type. -/
def GoType.fieldByName (t : GoType) (name : String) : Option StructField :=
  fieldByNameFrom t.fields name 0 (t.embeddingDepth + 1)

/-- A field behind an embedded pointer to a struct is found, one level down. -/
example : ((GoType.struct "main.Note" "Note" [⟨"Soft", true, [], .pointer "main.Soft" false
    [⟨"FakeDelete", false, [], .basic "bool"⟩]⟩]).fieldByName "FakeDelete").map (·.name) =
      some "FakeDelete" := by
  decide

end BeeOrm
