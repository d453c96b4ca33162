import BeeOrm.Schema.TableFields

/-! `tableFields.buildColumnNames`: the column list of an entity and the
`fieldsQuery` string that feeds its cache-key fingerprint. The columns of one
struct level come category by category, then those of its nested structs. -/

namespace BeeOrm

namespace TableFields

/-- The field indexes of one struct level in column order, the two stretches
`timesStart..timesEnd` and `timesNullableStart..timesNullableEnd` marked as
rendered with `TO_SECONDS`. The soft-delete field is listed only when its index
is positive, as `fields.fakeDelete > 0` tests. -/
def columnIds (fields : TableFields) : List (Nat × Bool) :=
  let ids := fields.uintegers ++ fields.refs ++ fields.integers ++ fields.booleans ++
    fields.floats
  let timesStart := ids.length
  let ids := ids ++ fields.times ++ fields.dates
  let timesEnd := ids.length
  let ids := ids ++ (if fields.fakeDelete > 0 then [fields.fakeDelete] else []) ++
    fields.strings ++ fields.uintegersNullable ++ fields.integersNullable ++
    fields.stringsEnums ++ fields.bytes ++ fields.sliceStringsSets ++
    fields.booleansNullable ++ fields.floatsNullable
  let timesNullableStart := ids.length
  let ids := ids ++ fields.timesNullable ++ fields.datesNullable
  let timesNullableEnd := ids.length
  let ids := ids ++ fields.jsons
  ids.enum.map fun (k, i) =>
    (i, (timesStart ≤ k ∧ k < timesEnd) || (timesNullableStart ≤ k ∧ k < timesNullableEnd))

/-- The `fieldsQuery` entry of one column. -/
def renderColumn (name : String) (timed : Bool) : String :=
  if timed then ",TO_SECONDS(`" ++ name ++ "`)" else ",`" ++ name ++ "`"

/-- The columns of one struct level under `subFieldPrefix`, with their
`fieldsQuery` entries. -/
def ownColumns (fields : TableFields) (subFieldPrefix : String) : List (String × String) :=
  fields.columnIds.map fun (i, timed) =>
    let name := subFieldPrefix ++ (GoMap.getD fields.fields i zeroField).name
    (name, renderColumn name timed)

mutual

/-- `fields.buildColumnNames(subFieldPrefix)`: the column names and `fieldsQuery`. -/
def buildColumnNames : TableFields → String → List String × String
  | fields@{ structsFields := subFields, .. }, subFieldPrefix =>
      let own := ownColumns fields subFieldPrefix
      let nested := buildNestedColumnNames fields.structs fields.fields subFieldPrefix 0 subFields
      (own.map Prod.fst ++ nested.1, String.join (own.map Prod.snd) ++ nested.2)

/-- The loop of `buildColumnNames` over `structsFields`: the `i`-th nested
struct is built under `subFieldPrefix` followed by the name of field
`structs[i]`, or by nothing when that field is anonymous. `structs[i]` is always
in range, `buildStructField` appending to both lists together. -/
def buildNestedColumnNames (structs : List Nat) (fieldMap : List (Nat × StructField))
    (subFieldPrefix : String) : Nat → List TableFields → List String × String
  | _, [] => ([], "")
  | i, subFields :: rest =>
      let field := GoMap.getD fieldMap (structs.getD i 0) zeroField
      let prefixName := subFieldPrefix ++ (if field.anonymous then "" else field.name)
      let sub := buildColumnNames subFields prefixName
      let others := buildNestedColumnNames structs fieldMap subFieldPrefix (i + 1) rest
      (sub.1 ++ others.1, sub.2 ++ others.2)

end

/-! ## The levels of a tree -/

mutual

/-- The struct levels of a `TableFields` tree in the order `buildColumnNames`
visits them, each with the prefix of its column names. -/
def levels : TableFields → String → List (TableFields × String)
  | fields@{ structsFields := subFields, .. }, subFieldPrefix =>
      (fields, subFieldPrefix) ::
        nestedLevels fields.structs fields.fields subFieldPrefix 0 subFields

/-- The levels of the nested structs, under the prefixes of
`buildNestedColumnNames`. -/
def nestedLevels (structs : List Nat) (fieldMap : List (Nat × StructField))
    (subFieldPrefix : String) : Nat → List TableFields → List (TableFields × String)
  | _, [] => []
  | i, subFields :: rest =>
      let field := GoMap.getD fieldMap (structs.getD i 0) zeroField
      levels subFields (subFieldPrefix ++ (if field.anonymous then "" else field.name)) ++
        nestedLevels structs fieldMap subFieldPrefix (i + 1) rest

end

/-- The column names `buildColumnNames` gives the fields of one level. -/
def ownNames (level : TableFields × String) : List String :=
  (ownColumns level.1 level.2).map Prod.fst

mutual

/-- `buildColumnNames` lists the columns of each level in turn. -/
theorem buildColumnNames_fst : ∀ (fields : TableFields) (subFieldPrefix : String),
    (fields.buildColumnNames subFieldPrefix).1 = (fields.levels subFieldPrefix).flatMap ownNames
  | fields@{ structsFields := subFields, .. }, subFieldPrefix => by
      rw [buildColumnNames, levels, List.flatMap_cons, buildNestedColumnNames_fst]
      rfl

theorem buildNestedColumnNames_fst (structs : List Nat) (fieldMap : List (Nat × StructField))
    (subFieldPrefix : String) : ∀ (i : Nat) (subs : List TableFields),
    (buildNestedColumnNames structs fieldMap subFieldPrefix i subs).1 =
      (nestedLevels structs fieldMap subFieldPrefix i subs).flatMap ownNames
  | _, [] => rfl
  | i, subFields :: rest => by
      rw [buildNestedColumnNames, nestedLevels, List.flatMap_append, buildColumnNames_fst,
        buildNestedColumnNames_fst]

end

mutual

/-- `P` holds of every level of a `TableFields` tree. -/
def AllLevels (P : TableFields → Prop) : TableFields → Prop
  | fields@{ structsFields := subFields, .. } => P fields ∧ allLevelsOf P subFields

/-- `P` holds of every level of every tree of a list. -/
def allLevelsOf (P : TableFields → Prop) : List TableFields → Prop
  | [] => True
  | sub :: rest => AllLevels P sub ∧ allLevelsOf P rest

end

variable {P : TableFields → Prop}

theorem allLevels_iff (fields : TableFields) :
    AllLevels P fields ↔ P fields ∧ allLevelsOf P fields.structsFields := by
  cases fields
  rw [AllLevels]

theorem allLevelsOf_append (first second : List TableFields) :
    allLevelsOf P (first ++ second) ↔ allLevelsOf P first ∧ allLevelsOf P second := by
  induction first with
  | nil => simp [allLevelsOf]
  | cons sub rest induction => simp [allLevelsOf, induction, and_assoc]

mutual

/-- Two properties of every level give every consequence of the pair. -/
theorem AllLevels.imp₂ {Q R : TableFields → Prop} (both : ∀ fields, P fields → Q fields → R fields) :
    ∀ fields, AllLevels P fields → AllLevels Q fields → AllLevels R fields
  | fields@{ structsFields := subFields, .. }, p, q => by
      rw [AllLevels] at p q ⊢
      exact ⟨both _ p.1 q.1, allLevelsOf.imp₂ both subFields p.2 q.2⟩

theorem allLevelsOf.imp₂ {Q R : TableFields → Prop}
    (both : ∀ fields, P fields → Q fields → R fields) :
    ∀ subs, allLevelsOf P subs → allLevelsOf Q subs → allLevelsOf R subs
  | [], _, _ => trivial
  | sub :: rest, p, q => ⟨AllLevels.imp₂ both sub p.1 q.1, allLevelsOf.imp₂ both rest p.2 q.2⟩

end

mutual

theorem AllLevels.levels : ∀ (fields : TableFields) (subFieldPrefix : String),
    AllLevels P fields → ∀ level ∈ fields.levels subFieldPrefix, P level.1
  | fields@{ structsFields := subFields, .. }, subFieldPrefix, all, level, member => by
      rw [AllLevels] at all
      rw [levels, List.mem_cons] at member
      rcases member with rfl | member
      · exact all.1
      · exact allLevelsOf.nestedLevels _ _ _ _ _ all.2 level member

theorem allLevelsOf.nestedLevels (structs : List Nat) (fieldMap : List (Nat × StructField))
    (subFieldPrefix : String) : ∀ (i : Nat) (subs : List TableFields),
    allLevelsOf P subs → ∀ level ∈ TableFields.nestedLevels structs fieldMap subFieldPrefix i subs,
      P level.1
  | _, [], _, level, member => by cases member
  | i, sub :: rest, all, level, member => by
      rw [allLevelsOf] at all
      rw [TableFields.nestedLevels, List.mem_append] at member
      rcases member with member | member
      · exact AllLevels.levels sub _ all.1 level member
      · exact allLevelsOf.nestedLevels structs fieldMap subFieldPrefix (i + 1) rest all.2 level member

end

end TableFields

end BeeOrm
