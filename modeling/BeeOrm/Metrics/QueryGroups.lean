import BeeOrm.Metrics.LogHandler
import Mathlib.Data.Finset.Card
import Mathlib.Data.UInt

/-! The query groups of the `simple_metrics` plugin over whole runs of calls.
They never outnumber the budget the options give, and while the entries fall
into fewer groups than the budget, every entry is counted in its group. -/

namespace BeeOrm.Metrics

/-! ## The group budget -/

/-- The query groups between calls, for a budget of `limit` groups: one per
key, and as many as the budget has spent. -/
structure GroupBudget (limit : Int) (handler : LogHandler) : Prop where
  distinct : (GoMap.keys handler.queries).Nodup
  spent : (handler.queries.length : Int) = max limit 0 - max handler.mySQLMetricsLimits 0

namespace GroupBudget

variable {limit : Int} {handler : LogHandler}

theorem set_present (budget : GroupBudget limit handler) {key : GroupKey}
    (present : key ∈ GoMap.keys handler.queries) (value : QueryCounters) :
    GroupBudget limit { handler with queries := GoMap.set handler.queries key value } := by
  have sameKeys := GoMap.keys_set_of_mem present value
  have sameLength := congrArg List.length sameKeys
  simp only [GoMap.keys, List.length_map] at sameLength
  exact ⟨sameKeys ▸ budget.distinct, by simpa only [sameLength] using budget.spent⟩

theorem set_new (budget : GroupBudget limit handler) {key : GroupKey}
    (absent : key ∉ GoMap.keys handler.queries) (value : QueryCounters)
    (positive : 0 < handler.mySQLMetricsLimits) :
    GroupBudget limit { handler with queries := GoMap.set handler.queries key value
                                     mySQLMetricsLimits := handler.mySQLMetricsLimits - 1 } := by
  rw [GoMap.set_of_not_mem _ _ absent]
  refine ⟨?_, ?_⟩
  · simp only [GoMap.keys, List.map_append, List.map_singleton]
    exact List.concat_eq_append _ _ ▸ budget.distinct.concat absent
  · have spent := budget.spent
    simp only [List.length_append, List.length_singleton]
    push_cast
    omega

end GroupBudget

theorem groupBudget_countQuery {limit : Int} {handler : LogHandler}
    (budget : GroupBudget limit handler) (entry : LogEntry) (slow : Bool) :
    GroupBudget limit (handler.countQuery entry slow).1 := by
  unfold LogHandler.countQuery
  split
  · exact budget
  · split
    · exact budget
    · dsimp only
      split
      next present =>
        exact budget.set_present ((GoMap.mem_keys_iff_get?_isSome _ _).2 (by simp [present])) _
      next absent =>
        exact budget.set_new (by simp [GoMap.mem_keys_iff_get?_isSome, absent]) _ (by omega)

theorem groupBudget_call {plugin : Plugin}
    (budget : ∀ handler, plugin.handler = some handler →
      GroupBudget plugin.options.mySQLMetricsLimits handler) (call : Call) :
    ∀ handler, (plugin.call call).1.handler = some handler →
      GroupBudget plugin.options.mySQLMetricsLimits handler := by
  cases call with
  | handle entry =>
      simp only [Plugin.call]
      split
      next absent => simp [absent]
      next handler present =>
        rintro _ ⟨⟩
        have logged : GroupBudget plugin.options.mySQLMetricsLimits
            (handler.logSlowQuery plugin.options entry).1 := by
          obtain ⟨sameQueries, sameLimits⟩ := logSlowQuery_groups plugin.options handler entry
          have budget := budget handler present
          exact ⟨sameQueries ▸ budget.distinct, by rw [sameQueries, sameLimits]; exact budget.spent⟩
        exact groupBudget_countQuery logged entry _
  | clearMySQLStats =>
      simp only [Plugin.call, Option.map_eq_some']
      rintro _ ⟨handler, -, rfl⟩
      exact ⟨List.nodup_nil, by simp⟩
  | clearMySQLSlowQueries =>
      simp only [Plugin.call, Option.map_eq_some']
      rintro _ ⟨handler, present, rfl⟩
      exact ⟨(budget handler present).distinct, (budget handler present).spent⟩

theorem groupBudget_run {plugin : Plugin}
    (budget : ∀ handler, plugin.handler = some handler →
      GroupBudget plugin.options.mySQLMetricsLimits handler) (calls : List Call) :
    ∀ handler, (plugin.run calls).handler = some handler →
      GroupBudget plugin.options.mySQLMetricsLimits handler := by
  induction calls generalizing plugin with
  | nil => exact budget
  | cons call rest induction =>
      have next := groupBudget_call budget call
      rw [← call_options plugin call] at next
      simpa only [call_options] using induction next

/-- The two calls `GetMySQLQueriesStats(false)` and `GetMySQLQueriesStats(true)`
report every group once. -/
theorem length_getMySQLQueriesStats_add {plugin : Plugin} {handler : LogHandler}
    (present : plugin.handler = some handler) :
    (plugin.getMySQLQueriesStats false).length + (plugin.getMySQLQueriesStats true).length =
      handler.queries.length := by
  simp only [Plugin.getMySQLQueriesStats, present, List.length_insertionSort, List.length_map]
  rw [List.length_eq_length_filter_add (l := handler.queries) fun entry => !entry.1.lazy]
  simp

/-- The plugin never tracks more query groups than the metrics limit allows,
lazy and non-lazy together. -/
theorem getMySQLQueriesStats_within_limit (options : Options) (calls : List Call) :
    ((((Plugin.init options).run calls).getMySQLQueriesStats false).length +
        (((Plugin.init options).run calls).getMySQLQueriesStats true).length : Int) ≤
      max options.mySQLMetricsLimits 0 := by
  have initial : ∀ handler, (Plugin.init options).handler = some handler →
      GroupBudget (Plugin.init options).options.mySQLMetricsLimits handler := by
    simp only [Plugin.init, Option.ite_none_right_eq_some, Option.some.injEq, and_imp]
    rintro _ - rfl
    exact ⟨List.nodup_nil, by simp⟩
  cases present : ((Plugin.init options).run calls).handler with
  | none => simp [Plugin.getMySQLQueriesStats, present]
  | some handler =>
      have spent := (groupBudget_run initial calls handler present).spent
      have reported := length_getMySQLQueriesStats_add present
      simp only [Plugin.init] at spent
      omega

/-! ## Counting every entry -/

/-- The group `Handle` counts an entry in, when its query classifies. -/
def LogEntry.group? (entry : LogEntry) : Option GroupKey :=
  match classify entry.operation (Strings.split (Strings.toLower entry.query) ' ') with
  | .ok (queryType, table) => some ⟨entry.pool, queryType, table, entry.lazy⟩
  | .error _ => none

def Call.group? : Call → Option GroupKey
  | .handle entry => entry.group?
  | _ => none

/-- The groups and microseconds of the entries classified since the last
`ClearMySQLStats`, oldest first, after one more call. -/
def Call.groupHistory (history : List (GroupKey × Int)) : Call → List (GroupKey × Int)
  | .handle entry =>
      match entry.group? with
      | some group => history ++ [(group, entry.microseconds)]
      | none => history
  | .clearMySQLStats => []
  | .clearMySQLSlowQueries => history

/-- The microseconds of the entries of group `g` in a history. -/
def entriesOf (history : List (GroupKey × Int)) (g : GroupKey) : List Int :=
  (history.filter (·.1 = g)).map Prod.snd

/-- The query groups between calls, for a budget of `limit` groups and the
entries `history` classified since the last `ClearMySQLStats`: each group holds
the number of its entries and the sum of their microseconds, as `uint64`
arithmetic gives them, and each group took one unit of the budget. -/
structure CountsEvery (limit : Int) (history : List (GroupKey × Int)) (handler : LogHandler) :
    Prop where
  counts : ∀ g, (GoMap.get? handler.queries g).map (fun counters => (counters.counter, counters.time)) =
    if g ∈ history.map Prod.fst then
      some (UInt64.ofNat (entriesOf history g).length, ((entriesOf history g).map toUInt64).sum)
    else none
  budget : handler.mySQLMetricsLimits = limit - ((history.map Prod.fst).toFinset.card : Int)

theorem entriesOf_append (history : List (GroupKey × Int)) (group g : GroupKey) (t : Int) :
    entriesOf (history ++ [(group, t)]) g = entriesOf history g ++ if group = g then [t] else [] := by
  by_cases same : group = g <;> simp [entriesOf, same]

theorem entriesOf_eq_nil {history : List (GroupKey × Int)} {g : GroupKey}
    (absent : g ∉ history.map Prod.fst) : entriesOf history g = [] := by
  simp only [entriesOf, List.map_eq_nil_iff, List.filter_eq_nil_iff, decide_eq_true_eq]
  exact fun entry inHistory same => absent (List.mem_map.2 ⟨entry, inHistory, same⟩)

theorem uint64_ofNat_succ (n : Nat) : UInt64.ofNat (n + 1) = UInt64.ofNat n + 1 := by
  rw [UInt64.add_def]
  apply UInt64.eq_of_toBitVec_eq
  show BitVec.ofNat 64 (n + 1) = BitVec.ofNat 64 n + BitVec.ofNat 64 1
  rw [BitVec.ofNat_add]

/-- The metrics part of `Handle` on an entry of group `g` with budget left. -/
theorem countQuery_of_group {handler : LogHandler} {entry : LogEntry} {g : GroupKey}
    (found : entry.group? = some g) (positive : 0 < handler.mySQLMetricsLimits) (slow : Bool) :
    (handler.countQuery entry slow).1 =
      { handler with
        queries := GoMap.set handler.queries g
          ((GoMap.getD handler.queries g ⟨0, 0, 0⟩).record entry.microseconds slow)
        mySQLMetricsLimits := if g ∈ GoMap.keys handler.queries then handler.mySQLMetricsLimits
          else handler.mySQLMetricsLimits - 1 } := by
  unfold LogEntry.group? at found
  split at found
  next queryType table classified =>
    cases found
    unfold LogHandler.countQuery
    rw [if_neg (by omega), classified]
    dsimp only
    cases present : GoMap.get? handler.queries ⟨entry.pool, queryType, table, entry.lazy⟩ with
    | none =>
        have absent : ⟨entry.pool, queryType, table, entry.lazy⟩ ∉ GoMap.keys handler.queries := by
          simp [GoMap.mem_keys_iff_get?_isSome, present]
        simp [GoMap.getD, present, absent]
    | some counters =>
        have member : ⟨entry.pool, queryType, table, entry.lazy⟩ ∈ GoMap.keys handler.queries := by
          simp [GoMap.mem_keys_iff_get?_isSome, present]
        simp [GoMap.getD, present, member]
  next => cases found

/-- The metrics part of `Handle` leaves the groups alone for an entry whose
query does not classify. -/
theorem countQuery_of_group_none {handler : LogHandler} {entry : LogEntry}
    (unclassified : entry.group? = none) (slow : Bool) :
    (handler.countQuery entry slow).1 = handler := by
  unfold LogEntry.group? at unclassified
  unfold LogHandler.countQuery
  split
  · rfl
  · split
    · rfl
    · next classified => simp [classified] at unclassified

namespace CountsEvery

variable {limit : Int} {history : List (GroupKey × Int)} {handler : LogHandler}

theorem nil (limit : Int) : CountsEvery limit [] { handler with queries := [], mySQLMetricsLimits := limit } :=
  ⟨fun g => by simp, by simp⟩

/-- The tracked groups are those of the history. -/
theorem mem_keys_iff (counts : CountsEvery limit history handler) (g : GroupKey) :
    g ∈ GoMap.keys handler.queries ↔ g ∈ history.map Prod.fst := by
  have read := counts.counts g
  rw [GoMap.mem_keys_iff_get?_isSome]
  split at read
  next member =>
    obtain ⟨_, present, -⟩ := Option.map_eq_some'.1 read
    simp [present, member]
  next member => simp [Option.map_eq_none'.1 read, member]

/-- Counting an entry of group `g` while the budget lasts keeps every count. -/
theorem count (counts : CountsEvery limit history handler) {entry : LogEntry} {g : GroupKey}
    (found : entry.group? = some g)
    (room : ((history.map Prod.fst).toFinset.card : Int) < limit) (slow : Bool) :
    CountsEvery limit (history ++ [(g, entry.microseconds)]) (handler.countQuery entry slow).1 := by
  have positive : 0 < handler.mySQLMetricsLimits := by rw [counts.budget]; omega
  rw [countQuery_of_group found positive slow]
  constructor
  · intro other
    rw [GoMap.get?_set]
    by_cases same : g = other
    · subst same
      have old := counts.counts g
      simp only [List.map_append, List.map_singleton, List.mem_append, List.mem_singleton,
        or_true, if_true, Option.map_some', entriesOf_append, List.length_append, List.map_append,
        List.sum_append]
      by_cases member : g ∈ history.map Prod.fst
      · simp only [member, if_true] at old
        obtain ⟨counters, present, same⟩ := Option.map_eq_some'.1 old
        simp only [Prod.mk.injEq] at same
        simp [GoMap.getD, present, QueryCounters.record, same, uint64_ofNat_succ]
      · simp only [member, if_false, Option.map_eq_none'] at old
        simp [GoMap.getD, old, QueryCounters.record, entriesOf_eq_nil member, toUInt64]
    · simp only [same, if_false, List.map_append, List.map_singleton, List.mem_append,
        List.mem_singleton, entriesOf_append, List.append_nil]
      rw [counts.counts other]
      simp only [Ne.symm same, or_false]
  · simp only [List.map_append, List.map_singleton, List.toFinset_append, List.toFinset_cons,
      List.toFinset_nil, insert_emptyc_eq]
    by_cases member : g ∈ history.map Prod.fst
    · have within : {g} ⊆ (history.map Prod.fst).toFinset := by simpa using member
      rw [if_pos ((counts.mem_keys_iff g).2 member), Finset.union_eq_left.2 within, counts.budget]
    · rw [if_neg ((counts.mem_keys_iff g).not.2 member), Finset.union_comm, ← Finset.insert_eq,
        Finset.card_insert_of_not_mem (by simpa using member), counts.budget]
      push_cast
      omega

end CountsEvery

theorem countsEvery_call {plugin : Plugin} {history : List (GroupKey × Int)}
    (counts : ∃ handler, plugin.handler = some handler ∧
      CountsEvery plugin.options.mySQLMetricsLimits history handler) (call : Call)
    (room : ((history.map Prod.fst).toFinset.card : Int) < plugin.options.mySQLMetricsLimits) :
    ∃ handler, (plugin.call call).1.handler = some handler ∧
      CountsEvery plugin.options.mySQLMetricsLimits (call.groupHistory history) handler := by
  obtain ⟨handler, present, counts⟩ := counts
  cases call with
  | handle entry =>
      obtain ⟨sameQueries, sameLimits⟩ := logSlowQuery_groups plugin.options handler entry
      have logged : CountsEvery plugin.options.mySQLMetricsLimits history
          (handler.logSlowQuery plugin.options entry).1 :=
        ⟨sameQueries ▸ counts.counts, sameLimits ▸ counts.budget⟩
      refine ⟨_, by simp only [Plugin.call, present]; rfl, ?_⟩
      simp only [handle, Call.groupHistory]
      cases found : entry.group? with
      | none => rw [countQuery_of_group_none found]; exact logged
      | some g => exact logged.count found room _
  | clearMySQLStats =>
      refine ⟨_, by rw [Plugin.call, present]; rfl, ?_⟩
      exact CountsEvery.nil _
  | clearMySQLSlowQueries =>
      refine ⟨_, by rw [Plugin.call, present]; rfl, ?_⟩
      exact ⟨counts.counts, counts.budget⟩

theorem card_toFinset_le {small large : List GroupKey} (within : ∀ g ∈ small, g ∈ large) :
    small.toFinset.card ≤ large.toFinset.card :=
  Finset.card_le_card fun g member => List.mem_toFinset.2 (within g (List.mem_toFinset.1 member))

/-- The groups of a history after a call and of the calls after it are among
those of the history before and of the calls from it on. -/
theorem groupHistory_within (history : List (GroupKey × Int)) (call : Call) (rest : List Call) :
    ∀ g ∈ (call.groupHistory history).map Prod.fst ++ rest.filterMap Call.group?,
      g ∈ history.map Prod.fst ++ (call :: rest).filterMap Call.group? := by
  intro g member
  cases call with
  | handle entry =>
      cases found : entry.group? <;>
        simpa only [Call.groupHistory, Call.group?, found, List.filterMap_cons, List.map_append,
          List.map_singleton, List.append_assoc, List.singleton_append] using member
  | clearMySQLStats =>
      rw [Call.groupHistory, List.map_nil, List.nil_append] at member
      exact List.mem_append_right _ (by simpa only [Call.group?, List.filterMap_cons] using member)
  | clearMySQLSlowQueries => simpa only [Call.groupHistory, Call.group?, List.filterMap_cons] using member

theorem countsEvery_run {plugin : Plugin} {history : List (GroupKey × Int)}
    (counts : ∃ handler, plugin.handler = some handler ∧
      CountsEvery plugin.options.mySQLMetricsLimits history handler) (calls : List Call)
    (fewer : ((history.map Prod.fst ++ calls.filterMap Call.group?).toFinset.card : Int) <
      plugin.options.mySQLMetricsLimits) :
    ∃ handler, (plugin.run calls).handler = some handler ∧
      CountsEvery plugin.options.mySQLMetricsLimits (calls.foldl Call.groupHistory history)
        handler := by
  induction calls generalizing plugin history with
  | nil => exact counts
  | cons call rest induction =>
      have room : ((history.map Prod.fst).toFinset.card : Int) < plugin.options.mySQLMetricsLimits :=
        lt_of_le_of_lt (Int.ofNat_le.2 (card_toFinset_le fun g => List.mem_append_left _)) fewer
      have next := countsEvery_call counts call room
      rw [← call_options plugin call] at next
      have within := Int.ofNat_le.2 (card_toFinset_le (groupHistory_within history call rest))
      have later := induction next (by rw [call_options]; exact lt_of_le_of_lt within fewer)
      simpa only [Plugin.run, List.foldl_cons, call_options] using later

/-- While the entries of a run fall into fewer groups than the metrics limit,
`GetMySQLQueriesStats` reports every group with entries since the last
`ClearMySQLStats`, with their number as `Counter` and the sum of their
microseconds as `TotalTime`: none of their entries is lost. -/
theorem getMySQLQueriesStats_counts_every_entry (options : Options) (calls : List Call)
    (fewer : ((calls.filterMap Call.group?).toFinset.card : Int) < options.mySQLMetricsLimits)
    (g : GroupKey) (tracked : g ∈ (calls.foldl Call.groupHistory []).map Prod.fst) :
    ∃ slowQueries,
      ({ counter := UInt64.ofNat (entriesOf (calls.foldl Call.groupHistory []) g).length
         slowQueries
         totalTime := ((entriesOf (calls.foldl Call.groupHistory []) g).map toUInt64).sum
         table := g.table, pool := g.pool, operation := g.operation } : MySQLQuery) ∈
        ((Plugin.init options).run calls).getMySQLQueriesStats g.lazy := by
  have initial : ∃ handler, (Plugin.init options).handler = some handler ∧
      CountsEvery (Plugin.init options).options.mySQLMetricsLimits [] handler := by
    refine ⟨_, by rw [Plugin.init, if_pos (Or.inl (by omega))], ?_⟩
    exact ⟨fun g => by simp, by simp [Plugin.init]⟩
  obtain ⟨handler, present, counts⟩ :=
    countsEvery_run initial calls (by simpa [Plugin.init] using fewer)
  have read := counts.counts g
  rw [if_pos tracked] at read
  obtain ⟨counters, found, same⟩ := Option.map_eq_some'.1 read
  simp only [Prod.mk.injEq] at same
  refine ⟨counters.slowQueries, ?_⟩
  simp only [Plugin.getMySQLQueriesStats, present]
  rw [(List.perm_insertionSort _ _).mem_iff]
  exact List.mem_map.2 ⟨(g, counters),
    List.mem_filter.2 ⟨GoMap.mem_of_get? found, by simp⟩, by simp [same]⟩

theorem twoGroupBudget_counts_repeated_query :
    (([Call.handle (selectUsers 10), .handle (selectUsers 10)].filterMap Call.group?).toFinset.card :
        Int) < (⟨2, 0⟩ : Options).mySQLMetricsLimits ∧
    (⟨"default", .query, "users", false⟩ : GroupKey) ∈
      ([Call.handle (selectUsers 10), .handle (selectUsers 10)].foldl Call.groupHistory []).map
        Prod.fst ∧
    ∃ slowQueries,
      ({ counter := UInt64.ofNat (entriesOf ([Call.handle (selectUsers 10),
            .handle (selectUsers 10)].foldl Call.groupHistory []) ⟨"default", .query, "users", false⟩).length
         slowQueries
         totalTime := ((entriesOf ([Call.handle (selectUsers 10), .handle (selectUsers 10)].foldl
            Call.groupHistory []) ⟨"default", .query, "users", false⟩).map toUInt64).sum
         table := "users", pool := "default", operation := .query } : MySQLQuery) ∈
        ((Plugin.init ⟨2, 0⟩).run [.handle (selectUsers 10), .handle (selectUsers 10)]
          ).getMySQLQueriesStats false :=
  ⟨by decide, by decide,
    getMySQLQueriesStats_counts_every_entry ⟨2, 0⟩ _ (by decide) ⟨"default", .query, "users", false⟩
      (by decide)⟩

end BeeOrm.Metrics
