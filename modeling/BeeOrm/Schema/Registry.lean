import BeeOrm.Schema.Reflect

/-! The registry an entity schema is built against, and the tag maps the schema
builder passes between its phases. -/

namespace BeeOrm

/-- The attributes of one field: `map[string]string`. -/
abbrev FieldTags := List (String × String)

/-- The tags of every field by column key: `map[string]map[string]string`. -/
abbrev SchemaTags := List (String × FieldTags)

/-- `enum`: the values in declaration order, the 1-based position of each value,
and the default value. -/
structure Enum where
  fields : List String
  mapping : List (String × Nat)
  defaultValue : String

/-- The registry fields `tableSchema.init` reads. A plugin's
`InterfaceInitTableSchema` hook is given the entity type and its tags and may
return an error; what else a plugin records on the schema is not modelled. -/
structure Registry where
  mysqlPools : List String
  localCachePools : List String
  redisPools : List String
  /-- Keys of `registry.entities`: the `String()` of every registered entity type. -/
  entities : List String
  enums : List (String × Enum)
  plugins : List (GoType → SchemaTags → Option String)

end BeeOrm
