import BeeOrm.Schema.Registry
import BeeOrm.Foundation.GoStrings

/-! `extractTags` and `extractTag`: the first pass of the schema builder, which
collects the `orm` tags of every field, at every depth of nested structs, into
one map keyed by column key, and `getTag`/`GetTag`, which read it. -/

namespace BeeOrm

/-- `fields[key][attributeName] = value`, creating `fields[key]` when it is nil. -/
def setTag (fields : SchemaTags) (key attributeName value : String) : SchemaTags :=
  GoMap.set fields key (GoMap.set (GoMap.getD fields key []) attributeName value)

/-- `fields[key][attributeName]` with the comma-ok form; a nil inner map has no keys. -/
def lookupTag (fields : SchemaTags) (key attributeName : String) : Option String :=
  (GoMap.get? fields key).bind (GoMap.get? · attributeName)

/-- `extractTag`'s reading of an `orm` tag: `;`-separated arguments, each
`key=value`, or a bare `key` standing for `"true"`. -/
def parseOrmTag (tag : String) : FieldTags :=
  (Strings.split tag ';').foldl (fun attributes arg =>
    match Strings.split arg '=' with
    | key :: value :: _ => GoMap.set attributes key value
    | key :: [] => GoMap.set attributes key "true"
    | [] => attributes) []

example : parseOrmTag "table=users;localCache;unique=Email:1" =
    [("table", "users"), ("localCache", "true"), ("unique", "Email:1")] := by decide

/-- The markers `extractTags` stores under the bare field name: the `query` and
`queryOne` struct tags and, for a pointer to a registered entity, `ref`. -/
def markField (registry : Registry) (field : StructField) (fields : SchemaTags) :
    SchemaTags :=
  let refOne := match field.type with
    | .pointer elem _ _ => if elem ∈ registry.entities then some elem else none
    | _ => none
  let fields := match field.lookup "query" with
    | some query => setTag fields field.name "query" query
    | none => fields
  let fields := match field.lookup "queryOne" with
    | some queryOne => setTag fields field.name "queryOne" queryOne
    | none => fields
  match refOne with
  | some ref => setTag fields field.name "ref" ref
  | none => fields

/-- `fields[prefix+k] = v` for every entry of a map returned by `extractTag`. -/
def storeTags (keyPrefix : String) (fields found : SchemaTags) : SchemaTags :=
  found.foldl (fun fields entry => GoMap.set fields (keyPrefix ++ entry.1) entry.2) fields

mutual

/-- The loop of `extractTags(registry, t, prefix)` over the fields of `t`,
accumulating into `fields`. -/
def extractTagsFrom (registry : Registry) (keyPrefix : String) :
    List StructField → SchemaTags → SchemaTags
  | [], fields => fields
  | field :: rest, fields =>
      let fields := storeTags keyPrefix fields
        (extractTagOf registry field.name field.anonymous field.tag field.type)
      let fields :=
        if (lookupTag fields field.name "ignore").isSome then fields
        else markField registry field fields
      extractTagsFrom registry keyPrefix rest fields

/-- `extractTag(registry, field)` for the field `name` of type `type`: its `orm`
tag under its name, or the tags of a nested struct under the field's name as
prefix (no prefix when the field is anonymous). `beeorm.ORM` and `time.Time` are
not descended into. -/
def extractTagOf (registry : Registry) (name : String) (anonymous : Bool)
    (tag : List (String × String)) : GoType → SchemaTags
  | .struct string _ inner =>
      match GoMap.get? tag "orm" with
      | some orm => [(name, parseOrmTag orm)]
      | none =>
          if string ≠ "beeorm.ORM" ∧ string ≠ "time.Time" then
            extractTagsFrom registry (if anonymous then "" else name) inner []
          else []
  | _ =>
      match GoMap.get? tag "orm" with
      | some orm => [(name, parseOrmTag orm)]
      | none => []

end

/-- `extractTag(registry, field)`. -/
def extractTag (registry : Registry) (field : StructField) : SchemaTags :=
  extractTagOf registry field.name field.anonymous field.tag field.type

/-- `extractTags(registry, entityType, prefix)`. -/
def extractTags (registry : Registry) (entityType : GoType) (keyPrefix : String) :
    SchemaTags :=
  extractTagsFrom registry keyPrefix entityType.fields []

namespace SchemaTags

/-- `tableSchema.GetTag(field, key, trueValue, defaultValue)`. It keeps Go's
case: in Lean's it would take the name of the unexported `getTag` below. -/
def GetTag (tags : SchemaTags) (field key trueValue defaultValue : String) : String :=
  match lookupTag tags field key with
  | some userValue => if userValue = "true" then trueValue else userValue
  | none => defaultValue

/-- `tableSchema.getTag(key, trueValue, defaultValue)`: an entity-level tag, read
from the tags of the `ORM` field. -/
def getTag (tags : SchemaTags) (key trueValue defaultValue : String) : String :=
  match lookupTag tags "ORM" key with
  | some userValue => if userValue = "true" then trueValue else userValue
  | none => GetTag tags "ORM" key trueValue defaultValue

end SchemaTags

end BeeOrm
