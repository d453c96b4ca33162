import BeeOrm.Foundation.GoStrings
import Mathlib.Data.List.Basic

/-! The compilation of a cached-query template in `tableSchema.init`: the
placeholders `:Name` are found with the regular expression `:([A-Za-z\d])+`,
rewritten to quoted column names, the soft-delete filter is added, and the
placeholders are sorted into filter columns and `ORDER BY` columns. -/

namespace BeeOrm

/-- `cachedQueryDefinition`. -/
structure CachedQueryDefinition where
  max : Nat
  query : String
  trackedFields : List String
  queryFields : List String
  orderFields : List String
deriving DecidableEq, Repr

/-- The characters `[A-Za-z\d]` of a placeholder name. -/
def isPlaceholderChar (c : Char) : Bool := c.isAlpha || c.isDigit

/-- The matches of `:([A-Za-z\d])+`, leftmost first and each as long as
possible, from a scan state: `none` outside a placeholder, `some name` after a
`:` and the name characters read since. -/
def findPlaceholders : Option (List Char) → List Char → List (List Char)
  | none, [] => []
  | some name, [] => if name = [] then [] else [':' :: name]
  | none, c :: rest => findPlaceholders (if c = ':' then some [] else none) rest
  | some name, c :: rest =>
      if isPlaceholderChar c then findPlaceholders (some (name ++ [c])) rest
      else (if name = [] then [] else [':' :: name]) ++
        findPlaceholders (if c = ':' then some [] else none) rest

/-- `re.FindAllString(query, -1)` for the placeholder expression. -/
def findAllString (query : String) : List String :=
  (findPlaceholders none query.data).map String.mk

example : findAllString "::A1 = ?, :B<:C" = [":A1", ":B", ":C"] := by decide

/-- The names of the placeholders of a template, in order, repeats included. -/
def placeholderNames (query : String) : List String :=
  (findAllString query).map (·.drop 1)

/-- One round of `init`'s loop over the placeholders: `fieldName` is added to
`fields` unless present, and the first occurrence of the placeholder in the
query is rewritten to the quoted name. -/
def rewritePlaceholder (state : List String × String) (placeholder : String) :
    List String × String :=
  let fieldName := placeholder.drop 1
  (if fieldName ∈ state.1 then state.1 else state.1 ++ [fieldName],
    Strings.replace state.2 placeholder ("`" ++ fieldName ++ "`"))

/-- The final `Query` of a template: an empty template becomes the default
query, any other gets the soft-delete filter `FakeDelete = 0 AND` in front. -/
def finalQuery (hasFakeDelete : Bool) (query : String) : String :=
  if query = "" then
    if hasFakeDelete then "`FakeDelete` = 0 ORDER BY `ID`" else "1 ORDER BY `ID`"
  else if hasFakeDelete then "`FakeDelete` = 0 AND " ++ query
  else query

/-- The body of `init`'s loop for a field carrying a `query` (`isOne` false) or
`queryOne` (`isOne` true) template `queryOrigin`. -/
def compileCachedQuery (hasFakeDelete isOne : Bool) (queryOrigin : String) :
    CachedQueryDefinition :=
  let placeholders := findAllString queryOrigin
  let rewritten := placeholders.foldl rewritePlaceholder ([], queryOrigin)
  let fields := if hasFakeDelete && 0 < placeholders.length then rewritten.1 ++ ["FakeDelete"]
    else rewritten.1
  let posOrderBy := Strings.index (Strings.toLower queryOrigin) "order by"
  let fieldsTracked := fields.filter (· ≠ "ID")
  let fieldsQuery := fields.filter fun f =>
    Strings.index queryOrigin (":" ++ f) < posOrderBy || posOrderBy = -1
  let fieldsOrder := if posOrderBy > -1 then
      (findAllString (queryOrigin.drop posOrderBy.toNat)).map (·.drop 1)
    else []
  { max := if isOne then 1 else 50000
    query := finalQuery hasFakeDelete rewritten.2
    trackedFields := fieldsTracked
    queryFields := fieldsQuery
    orderFields := fieldsOrder }

example : compileCachedQuery true false ":Age > ? ORDER BY :Name" =
    { max := 50000, query := "`FakeDelete` = 0 AND `Age` > ? ORDER BY `Name`",
      trackedFields := ["Age", "Name", "FakeDelete"],
      queryFields := ["Age", "FakeDelete"], orderFields := ["Name"] } := by decide

/-! ## Tracked fields -/

theorem mem_rewritePlaceholder_fst (state : List String × String) (placeholder name : String) :
    name ∈ (rewritePlaceholder state placeholder).1 ↔
      name ∈ state.1 ∨ name = placeholder.drop 1 := by
  by_cases present : placeholder.drop 1 ∈ state.1
  · simp only [rewritePlaceholder, present, if_true, iff_self_or]
    rintro rfl
    exact present
  · simp [rewritePlaceholder, present]

/-- The field list of the placeholder loop holds each placeholder name. -/
theorem mem_foldl_rewritePlaceholder (placeholders : List String)
    (state : List String × String) (name : String) :
    name ∈ (placeholders.foldl rewritePlaceholder state).1 ↔
      name ∈ state.1 ∨ name ∈ placeholders.map (·.drop 1) := by
  induction placeholders generalizing state with
  | nil => simp
  | cons placeholder rest induction =>
      rw [List.foldl_cons, induction, mem_rewritePlaceholder_fst]
      simp [or_assoc, eq_comm]

/-- The tracked fields of a compiled template are its placeholder names other
than `ID`, with `FakeDelete` added only when the schema has soft delete and the
template has a placeholder. -/
theorem mem_compileCachedQuery_trackedFields (hasFakeDelete isOne : Bool)
    (queryOrigin name : String) :
    name ∈ (compileCachedQuery hasFakeDelete isOne queryOrigin).trackedFields ↔
      name ≠ "ID" ∧ (name ∈ placeholderNames queryOrigin ∨
        name = "FakeDelete" ∧ hasFakeDelete = true ∧ placeholderNames queryOrigin ≠ []) := by
  have names := mem_foldl_rewritePlaceholder (findAllString queryOrigin) ([], queryOrigin) name
  have nonempty : 0 < (findAllString queryOrigin).length ↔ placeholderNames queryOrigin ≠ [] := by
    simp [placeholderNames, List.length_pos]
  simp only [List.not_mem_nil, false_or] at names
  simp only [compileCachedQuery, List.mem_filter, decide_eq_true_eq, Bool.and_eq_true,
    decide_eq_true_eq, nonempty]
  split <;> simp_all [placeholderNames, and_comm]

/-- On a soft-delete schema every final query starts with the soft-delete filter. -/
theorem compileCachedQuery_query_prefix (isOne : Bool) (queryOrigin : String) :
    "`FakeDelete` = 0 ".data <+: (compileCachedQuery true isOne queryOrigin).query.data := by
  simp only [compileCachedQuery, finalQuery, if_true]
  split <;> simp [List.prefix_append]

end BeeOrm
