import BeeOrm.Sql.Condition
import BeeOrm.Schema.CachedIndexes

/-! What the soft-delete filter `init` writes in front of a cached query's
template means to MySQL. The text "`FakeDelete` = 0 AND " is put in front of
the rewritten template without parentheses, so with `AND` binding tighter than
`OR` the filter joins only the first disjunct of the template's top-level `OR`
chain. -/

namespace BeeOrm

open Sql

/-- The condition of the soft-delete filter. -/
def fakeDeleteFilter : Condition := .compare (.column "FakeDelete") "=" (.number 0)

/-- The tokens of "`FakeDelete` = 0 AND ". -/
def fakeDeleteTokens : List Token := [.column "FakeDelete", .symbol "=", .number 0, .and]

namespace Sql

/-- `filter AND c` as SQL groups it when the text "filter AND " is written in
front of the text of `c`: the conjunction takes the leftmost disjunct of `c`'s
top-level `OR` chain only. -/
def Condition.filterFirstDisjunct (condition filter : Condition) : Condition :=
  match condition with
  | .or left right => .or (left.filterFirstDisjunct filter) right
  | _ => .and filter condition

theorem Condition.eval_filterFirstDisjunct_of_ne_or {condition : Condition}
    (notOr : ∀ left right, condition ≠ .or left right) (filter : Condition)
    (row : String → Int) (args : Nat → Int) :
    (condition.filterFirstDisjunct filter).eval row args =
      (filter.eval row args && condition.eval row args) := by
  cases condition
  case or left right => exact absurd rfl (notOr left right)
  all_goals rfl

end Sql

/-! ## The filter in front of a condition -/

theorem lex_fakeDelete_append (query : String) :
    lex ("`FakeDelete` = 0 AND " ++ query) = fakeDeleteTokens ++ lex query := by
  simp only [lex, String.data_append]
  rfl

theorem conditionTokens_fakeDelete_append (query : String) :
    conditionTokens ("`FakeDelete` = 0 AND " ++ query) =
      fakeDeleteTokens ++ conditionTokens query := by
  rw [conditionTokens, lex_fakeDelete_append, List.takeWhile_append_of_pos (by decide)]
  rfl

theorem splitLast_or_fakeDelete (tokens : List Token) :
    splitLast .or 0 (fakeDeleteTokens ++ tokens) =
      (splitLast .or 0 tokens).map fun split => (fakeDeleteTokens ++ split.1, split.2) := by
  rw [splitLast_append, show fakeDeleteTokens.foldl depthStep 0 = 0 from rfl]
  cases splitLast .or 0 tokens <;> rfl

theorem splitLast_and_fakeDelete (tokens : List Token) :
    splitLast .and 0 (fakeDeleteTokens ++ tokens) =
      match splitLast .and 0 tokens with
      | some (left, right) => some (fakeDeleteTokens ++ left, right)
      | none => some ([.column "FakeDelete", .symbol "=", .number 0], tokens) := by
  rw [splitLast_append, show fakeDeleteTokens.foldl depthStep 0 = 0 from rfl]
  cases splitLast .and 0 tokens <;> rfl

theorem parse_fakeDeleteFilter (fuel : Nat) :
    parse (fuel + 1) [.column "FakeDelete", .symbol "=", .number 0] = some fakeDeleteFilter :=
  rfl

/-- Written in front of any condition, the filter's text is read as the filter
joined to the condition's first disjunct. -/
theorem parse_fakeDelete_append {fuel : Nat} {tokens : List Token} {condition : Condition}
    (parsed : parse fuel tokens = some condition) :
    ∃ filtered, parse (fuel + 1) (fakeDeleteTokens ++ tokens) = some filtered ∧
      ∀ row args, filtered.eval row args =
        (condition.filterFirstDisjunct fakeDeleteFilter).eval row args := by
  induction fuel generalizing tokens condition with
  | zero => cases parsed
  | succ fuel induction =>
      rw [parse]
      cases orFound : splitLast .or 0 tokens with
      | some split =>
          obtain ⟨left, right⟩ := split
          rw [parse, parseWith_of_or orFound] at parsed
          simp only [Option.bind_eq_some, Option.some.injEq] at parsed
          obtain ⟨l, leftParsed, r, rightParsed, rfl⟩ := parsed
          obtain ⟨l', leftFiltered, leftEval⟩ := induction leftParsed
          rw [parseWith_of_or (by rw [splitLast_or_fakeDelete, orFound]; rfl), leftFiltered,
            parse_succ_of_parse rightParsed]
          exact ⟨_, rfl, fun row args => by
            simp [Condition.eval, Condition.filterFirstDisjunct, leftEval]⟩
      | none =>
          have notOr := parse_ne_or orFound parsed
          have filteredNoOr : splitLast .or 0 (fakeDeleteTokens ++ tokens) = none := by
            rw [splitLast_or_fakeDelete, orFound]
            rfl
          cases andFound : splitLast .and 0 tokens with
          | some split =>
              obtain ⟨left, right⟩ := split
              rw [parse, parseWith_of_and orFound andFound] at parsed
              simp only [Option.bind_eq_some, Option.some.injEq] at parsed
              obtain ⟨l, leftParsed, r, rightParsed, rfl⟩ := parsed
              have leftNotOr := parse_ne_or (splitLast_left_eq_none andFound orFound) leftParsed
              obtain ⟨l', leftFiltered, leftEval⟩ := induction leftParsed
              rw [parseWith_of_and filteredNoOr (by rw [splitLast_and_fakeDelete, andFound]),
                leftFiltered, parse_succ_of_parse rightParsed]
              refine ⟨_, rfl, fun row args => ?_⟩
              simp only [Condition.eval, leftEval,
                Condition.eval_filterFirstDisjunct_of_ne_or leftNotOr,
                Condition.eval_filterFirstDisjunct_of_ne_or notOr, Bool.and_assoc]
          | none =>
              rw [parseWith_of_and filteredNoOr (by rw [splitLast_and_fakeDelete, andFound]),
                parse_fakeDeleteFilter, parsed]
              refine ⟨_, rfl, fun row args => ?_⟩
              rw [Condition.eval_filterFirstDisjunct_of_ne_or notOr]
              rfl

/-- On a soft-delete schema, the final query of a non-empty template that
reads as `condition` reads as `condition` with the soft-delete filter joined to
its first top-level disjunct only. -/
theorem readCondition_finalQuery {query : String} (nonempty : query ≠ "")
    {condition : Condition} (read : readCondition query = some condition) :
    ∃ filtered, readCondition (finalQuery true query) = some filtered ∧
      ∀ row args, filtered.eval row args =
        (condition.filterFirstDisjunct fakeDeleteFilter).eval row args := by
  obtain ⟨filtered, parsed, same⟩ := parse_fakeDelete_append read
  refine ⟨filtered, ?_, same⟩
  rw [finalQuery, if_neg nonempty, if_pos rfl, readCondition, conditionTokens_fakeDelete_append]
  exact parse_of_le parsed (by
    simp only [List.length_append, fakeDeleteTokens, List.length_cons, List.length_nil]
    omega)

theorem disjunction_finalQuery_reading :
    "`A` = ? OR `B` = ?" ≠ "" ∧
    readCondition "`A` = ? OR `B` = ?" =
      some (.or (.compare (.column "A") "=" (.param 0)) (.compare (.column "B") "=" (.param 1))) ∧
    ∃ filtered, readCondition (finalQuery true "`A` = ? OR `B` = ?") = some filtered ∧
      ∀ row args, filtered.eval row args =
        ((Condition.or (.compare (.column "A") "=" (.param 0))
          (.compare (.column "B") "=" (.param 1))).filterFirstDisjunct fakeDeleteFilter).eval
          row args :=
  ⟨by decide, by decide,
    readCondition_finalQuery (by decide : "`A` = ? OR `B` = ?" ≠ "") (by decide)⟩

/-- A soft-delete entity with an index on `A`, `B` and `FakeDelete`, and a
cached query whose template is a disjunction. -/
def softDeleteDisjunctionEntity : GoType :=
  .struct "main.Item" "Item"
    [ormField, idField, ⟨"A", false, [("orm", "index=AB:1")], .basic "int"⟩,
      ⟨"B", false, [("orm", "index=AB:2")], .basic "int"⟩,
      ⟨"FakeDelete", false, [("orm", "index=AB:3")], .basic "bool"⟩,
      ⟨"ByAOrB", false, [("query", ":A = ? OR :B = ?")], .pointer "beeorm.CachedQuery" false []⟩]

/-- A soft-deleted row with `B` equal to the second argument. -/
def deletedRow (column : String) : Int := if column = "FakeDelete" then 1 else 5

/-- `init` accepts the entity and writes the filter in front of the
disjunction, where it joins `A = ?` only: the final query selects the
soft-deleted row through `B = ?`. -/
theorem init_soft_delete_filter_misses_disjunct :
    ((TableSchema.init id String.length defaultRegistry softDeleteDisjunctionEntity).value?.map
        fun schema => (GoMap.get? schema.cachedIndexes "ByAOrB").map (·.query)) =
      some (some "`FakeDelete` = 0 AND `A` = ? OR `B` = ?") ∧
    readCondition "`FakeDelete` = 0 AND `A` = ? OR `B` = ?" =
      some (.or (.and fakeDeleteFilter (.compare (.column "A") "=" (.param 0)))
        (.compare (.column "B") "=" (.param 1))) ∧
    (readCondition "`A` = ? OR `B` = ?").map (·.eval deletedRow fun _ => 5) = some true ∧
    (readCondition "`FakeDelete` = 0 AND `A` = ? OR `B` = ?").map
      (·.eval deletedRow fun _ => 5) = some true := by
  have tags : extractTags defaultRegistry softDeleteDisjunctionEntity "" =
      [("A", [("index", "AB:1")]), ("B", [("index", "AB:2")]),
        ("FakeDelete", [("index", "AB:3")]), ("ByAOrB", [("query", ":A = ? OR :B = ?")])] := by
    decide
  have built : TableSchema.buildTableFields softDeleteDisjunctionEntity defaultRegistry 1 ""
      [("A", [("index", "AB:1")]), ("B", [("index", "AB:2")]),
        ("FakeDelete", [("index", "AB:3")]), ("ByAOrB", [("query", ":A = ? OR :B = ?")])] {} =
      .ok ({ t := softDeleteDisjunctionEntity
             fields := [(1, idField), (2, softDeleteDisjunctionEntity.fields.getD 2 zeroField),
               (3, softDeleteDisjunctionEntity.fields.getD 3 zeroField),
               (4, softDeleteDisjunctionEntity.fields.getD 4 zeroField),
               (5, softDeleteDisjunctionEntity.fields.getD 5 zeroField)]
             keyPrefix := "", uintegers := [1], integers := [2, 3], fakeDelete := 4,
             structsFields := [] },
        { mapBindToScanPointer := [("ID", .uint64Pointer), ("A", .int64Pointer), ("B", .int64Pointer)]
          mapPointerToValue := [("ID", .uint64Value), ("A", .int64Value), ("B", .int64Value)] }) :=
    rfl
  refine ⟨?_, by decide, by decide, by decide⟩
  rw [TableSchema.init, tags, built]
  decide

end BeeOrm
