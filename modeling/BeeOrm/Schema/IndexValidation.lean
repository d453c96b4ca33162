import BeeOrm.Schema.Indexes
import Mathlib.Data.List.Nodup

/-! The index checks of `init`: the reference indexes it adds, and what
`validateIndexes` accepts. Its loops run over Go maps, whose order is
unspecified; each only continues or returns an error, so it returns nil exactly
when every entry passes, and the outcome does not depend on the order. Over
distinct columns its counting checks compare sets: a single-row cached query
needs a unique index on exactly its fields, and a multi-row one an index that
holds its fields at any ordinals and ends, before a trailing `FakeDelete`, with
its order fields. -/

namespace BeeOrm

/-! ## Loops that continue or throw -/

/-- A loop whose body never breaks returns normally exactly when every
iteration does. -/
theorem forIn_eq_ok_iff {α ε : Type} (xs : List α)
    (body : α → PUnit → Except ε (ForInStep PUnit))
    (noBreak : ∀ x, body x PUnit.unit ≠ .ok (.done PUnit.unit)) :
    forIn xs PUnit.unit body = .ok PUnit.unit ↔
      ∀ x ∈ xs, body x PUnit.unit = .ok (.yield PUnit.unit) := by
  induction xs with
  | nil => exact ⟨fun _ _ member => (nomatch member), fun _ => rfl⟩
  | cons x rest induction =>
      rw [List.forIn_cons, List.forall_mem_cons, ← induction]
      cases step : body x PUnit.unit with
      | error e => simp [bind, Except.bind]
      | ok next =>
          cases next with
          | done u => exact absurd step (noBreak x)
          | yield u => simp [bind, Except.bind]

theorem bind_unit_eq_ok {ε β : Type} (a : Except ε PUnit) (b : Except ε β) (x : β) :
    (a >>= fun _ => b) = .ok x ↔ a = .ok PUnit.unit ∧ b = .ok x := by
  cases a <;> simp [bind, Except.bind]

/-- An iteration that goes on to the next element. -/
theorem pure_bind_yield {ε : Type} :
    (pure PUnit.unit >>= fun _ => pure (ForInStep.yield PUnit.unit) : Except ε (ForInStep PUnit)) =
      .ok (.yield PUnit.unit) := rfl

/-- An iteration that returns an error. -/
theorem throw_bind_yield {ε : Type} (e : ε) :
    ((throw e : Except ε PUnit) >>= fun _ => pure (ForInStep.yield PUnit.unit)) = .error e := rfl

/-! ## The three loops -/

theorem mem_foldl_set {entries all : Indexes} {entry : String × IndexColumns}
    (member : entry ∈ entries.foldl (fun all entry => GoMap.set all entry.1 entry.2) all) :
    entry ∈ all ∨ entry ∈ entries := by
  induction entries generalizing all with
  | nil => exact .inl member
  | cons first rest induction =>
      rcases induction member with member | member
      · rcases GoMap.mem_of_mem_set member with old | rfl
        · exact .inl old
        · exact .inr (List.mem_cons_self _ _)
      · exact .inr (List.mem_cons_of_mem _ member)

/-- Every index `validateIndexes` checks was declared. -/
theorem mem_allIndexes {uniqueIndices indices : Indexes} {entry : String × IndexColumns}
    (member : entry ∈ allIndexes uniqueIndices indices) : entry ∈ uniqueIndices ++ indices := by
  rcases mem_foldl_set member with member | member
  · rcases mem_foldl_set member with member | member
    · cases member
    · exact List.mem_append_left _ member
  · exact List.mem_append_right _ member

section

variable {typeName : String}
  {cachedIndexesOne cachedIndexes : List (String × CachedQueryDefinition)}
  {uniqueIndices indices : Indexes}

/-- `validateIndexes` returns nil exactly when no index is a duplicate of
another, every single-row cached query has a matching unique index, and every
multi-row one is the default query or has a covering index. -/
theorem validateIndexes_eq_ok_iff :
    validateIndexes typeName cachedIndexesOne cachedIndexes uniqueIndices indices = .ok () ↔
      (∀ k v, (k, v) ∈ allIndexes uniqueIndices indices →
        ∀ k2 v2, (k2, v2) ∈ allIndexes uniqueIndices indices →
          k ≠ k2 → samePrefix v v2 1 v.length ≠ v.length) ∧
      (∀ k v, (k, v) ∈ cachedIndexesOne →
        ∃ entry ∈ uniqueIndices, matchesUniqueQuery v entry.2 = true) ∧
      (∀ k v, (k, v) ∈ cachedIndexes → v.query = "1 ORDER BY `ID`" ∨
        ∃ entry ∈ allIndexes uniqueIndices indices, coversQuery v entry.2 = true) := by
  unfold validateIndexes
  simp only [bind_unit_eq_ok]
  rw [forIn_eq_ok_iff, forIn_eq_ok_iff, forIn_eq_ok_iff]
  · refine and_congr ?_ (and_congr ?_ ((and_iff_left rfl).trans ?_)) <;> simp only [Prod.forall]
    · refine forall_congr' fun k => forall_congr' fun v => imp_congr_right fun _ => ?_
      rw [bind_unit_eq_ok, forIn_eq_ok_iff]
      · simp only [Prod.forall]
        refine (and_iff_left rfl).trans
          (forall_congr' fun k2 => forall_congr' fun v2 => imp_congr_right fun _ => ?_)
        split
        next duplicate =>
          simp only [throw_bind_yield, reduceCtorEq, false_iff]
          exact fun distinct => distinct duplicate.1 duplicate.2
        next distinct => exact iff_of_true rfl fun different same => distinct ⟨different, same⟩
      · intro x
        split <;> simp only [throw_bind_yield, pure_bind_yield, ne_eq, reduceCtorEq,
          Except.ok.injEq, not_false_eq_true]
    all_goals
      refine forall_congr' fun k => forall_congr' fun v => imp_congr_right fun _ => ?_
      split
      next found =>
        exact iff_of_true rfl
          (by simpa only [Bool.or_eq_true, decide_eq_true_eq, List.any_eq_true] using found)
      next missing =>
        simp only [throw_bind_yield, reduceCtorEq, false_iff]
        simpa only [Bool.or_eq_true, decide_eq_true_eq, List.any_eq_true] using missing
  all_goals intro x
  all_goals try split
  all_goals simp only [throw_bind_yield, pure_bind_yield, ne_eq, reduceCtorEq, Except.ok.injEq,
    not_false_eq_true, bind_unit_eq_ok, and_false]

end

/-! ## The duplicate check -/

theorem samePrefix_eq_iff (v v2 : IndexColumns) (i fuel : Nat) :
    samePrefix v v2 i fuel = fuel ↔
      ∀ j < fuel, GoMap.get? v2 (i + j : Nat) = some (GoMap.getD v (i + j : Nat) "") := by
  induction fuel generalizing i with
  | zero => simp [samePrefix]
  | succ fuel induction =>
      rw [samePrefix]
      split
      next first =>
        rw [show 1 + samePrefix v v2 (i + 1) fuel = fuel + 1 ↔
          samePrefix v v2 (i + 1) fuel = fuel by omega, induction]
        constructor
        · intro later j short
          cases j with
          | zero => simpa using first
          | succ j => simpa [Nat.add_assoc, Nat.add_comm 1 j] using later j (by omega)
        · intro every j short
          simpa [Nat.add_assoc, Nat.add_comm 1 j] using every (j + 1) (by omega)
      next mismatch =>
        refine iff_of_false (by omega) fun every => mismatch ?_
        simpa using every 0 (by omega)

/-- Index `v` is a prefix of index `v2`: each of the ordinals `1` to `len(v)`
of `v2` holds the column `v` has there. -/
def IsPrefixIndex (v v2 : IndexColumns) : Prop :=
  ∀ j < v.length, GoMap.get? v2 (j + 1 : Nat) = some (GoMap.getD v (j + 1 : Nat) "")

theorem samePrefix_eq_length_iff (v v2 : IndexColumns) :
    samePrefix v v2 1 v.length = v.length ↔ IsPrefixIndex v v2 := by
  rw [samePrefix_eq_iff, IsPrefixIndex]
  simp only [Nat.add_comm 1]

/-! ## Counting matches -/

/-- The columns of an index, in the order they are stored. -/
abbrev IndexColumns.columns (columns : IndexColumns) : List String := columns.map Prod.snd

theorem length_filter_column {columns : IndexColumns} (distinct : columns.columns.Nodup)
    (field : String) :
    (columns.filter (·.2 = field)).length = if field ∈ columns.columns then 1 else 0 := by
  have count : (columns.filter (·.2 = field)).length = columns.columns.count field := by
    rw [List.count, List.countP_map, List.countP_eq_length_filter]
    rfl
  split
  · rw [count, List.count_eq_one_of_mem distinct ‹_›]
  · rw [count, List.count_eq_zero_of_not_mem ‹_›]

/-- Over distinct columns, the count of equal pairs is the number of query
fields among the columns. -/
theorem countMatches_eq_length_filter {columns : IndexColumns} (distinct : columns.columns.Nodup)
    (queryFields : List String) :
    countMatches queryFields columns = (queryFields.filter (· ∈ columns.columns)).length := by
  induction queryFields with
  | nil => rfl
  | cons field rest induction =>
      rw [countMatches] at induction ⊢
      rw [List.map_cons, List.sum_cons, induction, length_filter_column distinct, List.filter_cons]
      by_cases member : field ∈ columns.columns
      · simp only [member, decide_True, if_true, List.length_cons]
        omega
      · simp only [member, decide_False, Bool.false_eq_true, if_false, Nat.zero_add]

theorem countMatches_eq_length_iff {columns : IndexColumns} (distinct : columns.columns.Nodup)
    (queryFields : List String) :
    countMatches queryFields columns = queryFields.length ↔
      ∀ field ∈ queryFields, field ∈ columns.columns := by
  rw [countMatches_eq_length_filter distinct, List.filter_length_eq_length]
  simp

/-- Over distinct fields and distinct columns, the single-row check asks for a
unique index on exactly the query's fields. -/
theorem matchesUniqueQuery_iff {v : CachedQueryDefinition} {columns : IndexColumns}
    (distinctFields : v.queryFields.Nodup) (distinct : columns.columns.Nodup) :
    matchesUniqueQuery v columns = true ↔ v.queryFields.Perm columns.columns := by
  have length : columns.columns.length = columns.length := List.length_map _ _
  simp only [matchesUniqueQuery, Bool.and_eq_true, decide_eq_true_eq]
  constructor
  · rintro ⟨sameLength, counted⟩
    rw [sameLength, countMatches_eq_length_iff distinct] at counted
    exact (List.subperm_of_subset distinctFields counted).perm_of_length_le (by omega)
  · intro perm
    have sameLength : columns.length = v.queryFields.length := by rw [perm.length_eq]; omega
    refine ⟨sameLength, ?_⟩
    rw [sameLength, countMatches_eq_length_iff distinct]
    exact fun field member => perm.subset member

/-! ## The order check -/

/-- The `n` columns of an index ending at ordinal `last`, in ordinal order. -/
def IndexColumns.window (columns : IndexColumns) : Int → Nat → List String
  | _, 0 => []
  | last, n + 1 => columns.window (last - 1) n ++ [GoMap.getD columns last ""]

/-- The ordinal the order fields of a multi-row cached query must end at: the
last one, or the one before it when the last column is `FakeDelete`. -/
def IndexColumns.orderEnd (columns : IndexColumns) : Int :=
  if GoMap.getD columns columns.length "" = "FakeDelete" then columns.length - 1
  else columns.length

theorem matchOrderFields_reverse_eq_length_iff (columns : IndexColumns) (last : Int)
    (fields : List String) :
    matchOrderFields columns last fields.reverse = fields.length ↔
      fields = columns.window last fields.length := by
  induction fields using List.reverseRecOn generalizing last with
  | nil => simp [matchOrderFields, IndexColumns.window]
  | append_singleton init field induction =>
      rw [List.reverse_append, List.reverse_singleton, List.singleton_append, matchOrderFields,
        List.length_append, List.length_singleton, IndexColumns.window]
      split
      next same =>
        rw [show ∀ m n : Nat, 1 + m = n + 1 ↔ m = n by omega, induction, same]
        exact ⟨fun earlier => by rw [← earlier], fun whole => (List.append_inj' whole rfl).1⟩
      next differ =>
        exact iff_of_false (by omega) fun whole => differ (by
          simpa using ((List.append_inj' whole rfl).2).symm)

/-- Over distinct columns, the multi-row check asks for an index holding every
query field, at any ordinal, whose columns end, before a trailing `FakeDelete`,
with the order fields in order. -/
theorem coversQuery_iff {v : CachedQueryDefinition} {columns : IndexColumns}
    (distinct : columns.columns.Nodup) :
    coversQuery v columns = true ↔
      (∀ field ∈ v.queryFields, field ∈ columns.columns) ∧
        v.orderFields = columns.window columns.orderEnd v.orderFields.length := by
  simp only [coversQuery, Bool.and_eq_true, Bool.or_eq_true, decide_eq_true_eq,
    countMatches_eq_length_iff distinct]
  refine and_congr_right fun _ => ?_
  rw [show (if GoMap.getD columns columns.length "" = "FakeDelete" then (columns.length : Int) - 1
      else columns.length) = columns.orderEnd from rfl, matchOrderFields_reverse_eq_length_iff]
  constructor
  · rintro (empty | ordered)
    · rw [List.length_eq_zero.1 empty]
      rfl
    · exact ordered
  · exact .inr

/-! ## Reference indexes -/

/-- Each reference column is the first column of some index or unique index. -/
def RefsIndexed (refs : List String) (indices uniqueIndices : Indexes) : Prop :=
  ∀ ref ∈ refs, ∃ entry ∈ indices ++ uniqueIndices, GoMap.getD entry.2 1 "" = ref

/-- What the reference pass of `init` keeps: the references it went through are
first columns, and an index named `_` and a reference holds that reference
alone. -/
structure RefPass (refs done : List String) (indices uniqueIndices : Indexes) : Prop where
  indexed : RefsIndexed done indices uniqueIndices
  own : ∀ ref ∈ refs, ∀ columns, ("_" ++ ref, columns) ∈ indices → columns = [(1, ref)]

theorem eq_of_underscore_append {ref ref' : String} (same : "_" ++ ref = "_" ++ ref') :
    ref = ref' := by
  have data := congrArg String.data same
  rw [String.data_append, String.data_append] at data
  exact String.ext (List.append_cancel_left data)

theorem RefPass.step {refs done : List String} {indices uniqueIndices : Indexes}
    {ref : String} (pass : RefPass refs done indices uniqueIndices) (member : ref ∈ refs) :
    RefPass refs (done ++ [ref]) (addRefIndex indices uniqueIndices ref) uniqueIndices := by
  unfold addRefIndex
  split
  next covered =>
    refine ⟨fun r visited => ?_, pass.own⟩
    rcases List.mem_append.1 visited with earlier | now
    · exact pass.indexed r earlier
    · rw [List.mem_singleton.1 now]
      simp only [Bool.or_eq_true, List.any_eq_true, decide_eq_true_eq] at covered
      rcases covered with ⟨entry, present, first⟩ | ⟨entry, present, first⟩
      · exact ⟨entry, List.mem_append_left _ present, first⟩
      · exact ⟨entry, List.mem_append_right _ present, first⟩
  next =>
    have added := GoMap.mem_set_self indices ("_" ++ ref) [((1 : Int), ref)]
    have addedFirst : GoMap.getD [((1 : Int), ref)] 1 "" = ref := by simp [GoMap.getD, GoMap.get?]
    refine ⟨fun r visited => ?_, fun r inRefs columns present => ?_⟩
    · rcases List.mem_append.1 visited with earlier | now
      · obtain ⟨entry, present, first⟩ := pass.indexed r earlier
        rcases List.mem_append.1 present with indexed | unique
        · by_cases replaced : entry.1 = "_" ++ ref
          · have own := pass.own ref member entry.2 (replaced ▸ indexed)
            exact ⟨_, List.mem_append_left _ added, by rw [← first, own, addedFirst]⟩
          · exact ⟨entry, List.mem_append_left _ (GoMap.mem_set_of_ne indexed replaced _),
              first⟩
        · exact ⟨entry, List.mem_append_right _ unique, first⟩
      · rw [List.mem_singleton.1 now]
        exact ⟨_, List.mem_append_left _ added, addedFirst⟩
    · rcases GoMap.mem_of_mem_set present with old | new
      · exact pass.own r inRefs columns old
      · obtain ⟨names, rfl⟩ := Prod.mk.inj new
        rw [eq_of_underscore_append names]

theorem RefPass.foldl {refs done : List String} {indices uniqueIndices : Indexes}
    (pass : RefPass refs done indices uniqueIndices) (rest : List String)
    (within : ∀ ref ∈ rest, ref ∈ refs) :
    RefPass refs (done ++ rest)
      (rest.foldl (fun indices ref => addRefIndex indices uniqueIndices ref) indices)
      uniqueIndices := by
  induction rest generalizing done indices with
  | nil => simpa using pass
  | cons ref rest induction =>
      have next := pass.step (within ref (List.mem_cons_self _ _))
      simpa using induction next fun r member => within r (List.mem_cons_of_mem _ member)

/-- The reference pass of `init` leaves every reference column the first column
of some index or unique index, when no declared index is named `_` and a
reference. -/
theorem foldl_addRefIndex_indexes_refs (uniqueIndices indices : Indexes) (oneRefs : List String)
    (unnamed : ∀ ref ∈ oneRefs, "_" ++ ref ∉ GoMap.keys indices) :
    RefsIndexed oneRefs
      (oneRefs.foldl (fun indices ref => addRefIndex indices uniqueIndices ref) indices)
      uniqueIndices := by
  have start : RefPass oneRefs [] indices uniqueIndices :=
    ⟨fun _ none => (nomatch none), fun ref member columns present =>
      absurd (List.mem_map_of_mem Prod.fst present) (unnamed ref member)⟩
  simpa using (start.foldl oneRefs fun _ => id).indexed

theorem ownerName_refs_indexed :
    (∀ ref ∈ ["Owner", "Name"],
      "_" ++ ref ∉ GoMap.keys [("ByName", [((1 : Int), "Name")])]) ∧
    RefsIndexed ["Owner", "Name"]
      (["Owner", "Name"].foldl (fun indices ref => addRefIndex indices [] ref)
        [("ByName", [(1, "Name")])]) [] :=
  ⟨by decide, foldl_addRefIndex_indexes_refs [] _ _ (by decide)⟩

/-- A declared index named `_B` that is the only one to start with `A` is
replaced by the reference index of `B`, which leaves `A` first in no index. -/
example :
    ¬RefsIndexed ["A", "B"]
      (["A", "B"].foldl (fun indices ref => addRefIndex indices [] ref) [("_B", [(1, "A")])])
      [] := by
  unfold RefsIndexed
  decide

/-! ## What `validateIndexes` accepts -/

section

variable {typeName : String}
  {cachedIndexesOne cachedIndexes : List (String × CachedQueryDefinition)}
  {uniqueIndices indices : Indexes}

/-- Over indexes with distinct columns and single-row cached queries with
distinct fields, `validateIndexes` returns nil exactly when no index is a
prefix of another, each single-row cached query has a unique index on exactly
its fields, and each multi-row one is the default query or has an index holding
its fields and ending, before a trailing `FakeDelete`, with its order fields. -/
theorem validateIndexes_accepts_iff
    (distinctColumns : ∀ entry ∈ uniqueIndices ++ indices, entry.2.columns.Nodup)
    (distinctFields : ∀ entry ∈ cachedIndexesOne, entry.2.queryFields.Nodup) :
    validateIndexes typeName cachedIndexesOne cachedIndexes uniqueIndices indices = .ok () ↔
      (∀ k v, (k, v) ∈ allIndexes uniqueIndices indices →
        ∀ k2 v2, (k2, v2) ∈ allIndexes uniqueIndices indices → k ≠ k2 →
          ¬IsPrefixIndex v v2) ∧
      (∀ k v, (k, v) ∈ cachedIndexesOne →
        ∃ name columns, (name, columns) ∈ uniqueIndices ∧
          v.queryFields.Perm columns.columns) ∧
      (∀ k v, (k, v) ∈ cachedIndexes → v.query = "1 ORDER BY `ID`" ∨
        ∃ name columns, (name, columns) ∈ allIndexes uniqueIndices indices ∧
          (∀ field ∈ v.queryFields, field ∈ columns.columns) ∧
          v.orderFields = columns.window columns.orderEnd v.orderFields.length) := by
  rw [validateIndexes_eq_ok_iff]
  refine and_congr (by simp only [ne_eq, samePrefix_eq_length_iff]) (and_congr ?_ ?_)
  · refine forall_congr' fun k => forall_congr' fun v => imp_congr_right fun declared => ?_
    simp only [Prod.exists]
    exact exists_congr fun name => exists_congr fun columns => and_congr_right fun unique =>
      matchesUniqueQuery_iff (distinctFields _ declared)
        (distinctColumns _ (List.mem_append_left _ unique))
  · refine forall_congr' fun k => forall_congr' fun v => imp_congr_right fun _ => or_congr_right ?_
    simp only [Prod.exists]
    exact exists_congr fun name => exists_congr fun columns => and_congr_right fun checked =>
      coversQuery_iff (distinctColumns _ (mem_allIndexes checked))

end

/-- A unique index on `Email`, and an index on `Age` then `Name`. -/
def userUniqueIndices : Indexes := [("Email", [(1, "Email")])]

def userIndices : Indexes := [("AgeName", [(1, "Age"), (2, "Name")])]

/-- A single-row cached query by `Email`, and a multi-row one by `Age` ordered
by `Name`. -/
def userCachedIndexesOne : List (String × CachedQueryDefinition) :=
  [("ByEmail", ⟨1, "`Email` = ?", ["Email"], ["Email"], []⟩)]

def userCachedIndexes : List (String × CachedQueryDefinition) :=
  [("ByAge", ⟨100, "`Age` = ? ORDER BY `Name`", ["Age", "Name"], ["Age"], ["Name"]⟩)]

theorem userIndexes_accepts_iff :
    (∀ entry ∈ userUniqueIndices ++ userIndices, entry.2.columns.Nodup) ∧
    (∀ entry ∈ userCachedIndexesOne, entry.2.queryFields.Nodup) ∧
    (validateIndexes "main.User" userCachedIndexesOne userCachedIndexes userUniqueIndices
        userIndices = .ok () ↔
      (∀ k v, (k, v) ∈ allIndexes userUniqueIndices userIndices →
        ∀ k2 v2, (k2, v2) ∈ allIndexes userUniqueIndices userIndices → k ≠ k2 →
          ¬IsPrefixIndex v v2) ∧
      (∀ k v, (k, v) ∈ userCachedIndexesOne →
        ∃ name columns, (name, columns) ∈ userUniqueIndices ∧
          v.queryFields.Perm columns.columns) ∧
      (∀ k v, (k, v) ∈ userCachedIndexes → v.query = "1 ORDER BY `ID`" ∨
        ∃ name columns, (name, columns) ∈ allIndexes userUniqueIndices userIndices ∧
          (∀ field ∈ v.queryFields, field ∈ columns.columns) ∧
          v.orderFields = columns.window columns.orderEnd v.orderFields.length)) :=
  ⟨by decide, by decide, validateIndexes_accepts_iff (by decide) (by decide)⟩

/-- The unique index on `Email` is a prefix of an index on `Email` then `Age`. -/
example :
    validateIndexes "main.User" [] [] userUniqueIndices [("EmailAge", [(1, "Email"), (2, "Age")])] =
      .error "duplicated index Email with EmailAge in main.User" := rfl

end BeeOrm
