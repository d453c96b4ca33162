import BeeOrm.Metrics.LogHandler

/-! The slow-query log of the `simple_metrics` plugin over whole runs of calls.
With a limit of at least two queries it keeps, after every call, one node per
counted query, and the longest non-lazy queries handled since it was last
cleared, as many as the limit allows. -/

namespace BeeOrm.Metrics

open SlowQueryTree

/-! ## The longest durations -/

/-- `kept` is the `limit` longest of `history` as a multiset: it holds
`min limit history.length` of its elements, and none of the others is longer
than any of them. -/
structure KeepsLongest (limit : Nat) (history kept : List Int) : Prop where
  length_eq : kept.length = min limit history.length
  split : ∃ dropped, history.Perm (kept ++ dropped) ∧ ∀ x ∈ kept, ∀ y ∈ dropped, y ≤ x

namespace KeepsLongest

variable {limit : Nat} {history kept : List Int}

theorem nil (limit : Nat) : KeepsLongest limit [] [] :=
  ⟨by simp, [], by simp, by simp⟩

theorem perm (keeps : KeepsLongest limit history kept) {kept' : List Int}
    (reordered : kept.Perm kept') : KeepsLongest limit history kept' := by
  obtain ⟨length_eq, dropped, split, longer⟩ := keeps
  exact ⟨reordered.length_eq ▸ length_eq, dropped, split.trans (reordered.append_right _),
    fun x member => longer x (reordered.mem_iff.2 member)⟩

/-- While there is room, a new duration is kept. -/
theorem cons_of_lt (keeps : KeepsLongest limit history kept) (room : kept.length < limit)
    (d : Int) : KeepsLongest limit (d :: history) (d :: kept) := by
  obtain ⟨length_eq, dropped, split, -⟩ := keeps
  have none : dropped = [] := by
    have lengths := split.length_eq
    rw [List.length_append] at lengths
    exact List.length_eq_zero.1 (by omega)
  subst none
  exact ⟨by simp only [List.length_cons]; omega, [], split.cons d, by simp⟩

/-- When the log is full, a duration no shorter than the shortest kept one
takes its place. -/
theorem replace {rest : List Int} {shortest : Int}
    (keeps : KeepsLongest limit history (rest ++ [shortest])) (full : limit ≤ rest.length + 1)
    (shortestIs : ∀ x ∈ rest, shortest ≤ x) {d : Int} (longer : shortest ≤ d) :
    KeepsLongest limit (d :: history) (d :: rest) := by
  obtain ⟨length_eq, dropped, split, below⟩ := keeps
  simp only [List.length_append, List.length_singleton] at length_eq
  refine ⟨by simp only [List.length_cons]; omega, shortest :: dropped, ?_, ?_⟩
  · simpa using split.cons d
  · have droppedBelow : ∀ y ∈ dropped, y ≤ shortest := below shortest (by simp)
    rintro x (_ | ⟨_, kept⟩) y (_ | ⟨_, gone⟩)
    · exact longer
    · exact (droppedBelow y gone).trans longer
    · exact shortestIs x kept
    · exact below x (List.mem_append_left _ kept) y gone

/-- When the log is full, a duration no longer than every kept one is dropped. -/
theorem skip (keeps : KeepsLongest limit history kept) (full : limit ≤ kept.length) {d : Int}
    (shorter : ∀ x ∈ kept, d ≤ x) : KeepsLongest limit (d :: history) kept := by
  obtain ⟨length_eq, dropped, split, below⟩ := keeps
  refine ⟨by simp only [List.length_cons]; omega, d :: dropped,
    (split.cons d).trans List.perm_middle.symm, ?_⟩
  rintro x kept y (_ | ⟨_, gone⟩)
  exacts [shorter x kept, below x kept y gone]

end KeepsLongest

/-! ## The slow-query log -/

/-- What the slow-query log of `limit` queries holds between calls, `history`
being the durations of the non-lazy entries handled since it was last
cleared: an ordered tree with one node per counted query, of durations in whole
microseconds, keeping the longest of `history`. -/
structure SlowLog (limit : Nat) (history : List Int) (tree : SlowQueryTree) (counter : Int) :
    Prop where
  ordered : tree.Ordered
  counted : (tree.size : Int) = counter
  wholeMicroseconds : ∀ query ∈ tree.getChildren, 1000 ∣ query.duration
  keepsLongest : KeepsLongest limit history (tree.getChildren.map (·.duration))

namespace SlowLog

variable {limit : Nat} {history : List Int} {tree : SlowQueryTree} {counter : Int}

theorem nil (limit : Nat) : SlowLog limit [] .nil 0 :=
  ⟨trivial, rfl, by simp [getChildren], KeepsLongest.nil limit⟩

theorem insert (log : SlowLog limit history tree counter) (room : counter < limit)
    (value : SlowQuery) (whole : 1000 ∣ value.duration) :
    SlowLog limit (value.duration :: history) (tree.insert value) (counter + 1) := by
  have reordered := getChildren_insert_perm tree value
  refine ⟨ordered_insert log.ordered value, by simp [← log.counted], fun query member => ?_, ?_⟩
  · rcases List.mem_cons.1 (reordered.mem_iff.1 member) with rfl | member
    exacts [whole, log.wholeMicroseconds query member]
  · have shorter : (tree.getChildren.map (·.duration)).length < limit := by
      simp only [List.length_map, length_getChildren]
      have := log.counted
      omega
    exact (log.keepsLongest.cons_of_lt shorter value.duration).perm (reordered.map _).symm

theorem replace (log : SlowLog limit history tree counter) (full : limit ≤ counter)
    (two : 2 ≤ limit) {min : SlowQuery} {rest : SlowQueryTree}
    (removed : tree.removeMin = some (min, rest)) (value : SlowQuery)
    (whole : 1000 ∣ value.duration) (longer : min.duration ≤ value.duration) :
    SlowLog limit (value.duration :: history) (rest.insertInPlace value) counter := by
  have sizes := size_of_removeMin removed
  have listed := getChildren_of_removeMin removed
  have counted := log.counted
  have nonempty : rest ≠ .nil := by
    rintro rfl
    simp only [size] at sizes
    omega
  have reordered := getChildren_insert_perm rest value
  rw [insertInPlace_of_ne_nil nonempty]
  refine ⟨ordered_insert (ordered_of_removeMin log.ordered removed) value,
    by simp [← log.counted, ← sizes], fun query member => ?_, ?_⟩
  · rcases List.mem_cons.1 (reordered.mem_iff.1 member) with rfl | member
    · exact whole
    · exact log.wholeMicroseconds query (by simp [listed, member])
  · have keeps := log.keepsLongest
    rw [listed, List.map_append, List.map_singleton] at keeps
    have room : limit ≤ (rest.getChildren.map (·.duration)).length + 1 := by
      simp only [List.length_map, length_getChildren]
      omega
    have shortestIs : ∀ x ∈ rest.getChildren.map (·.duration), min.duration ≤ x := by
      simpa using duration_le_of_removeMin log.ordered removed
    exact (keeps.replace room shortestIs longer).perm (reordered.map _).symm

theorem skip (log : SlowLog limit history tree counter) (full : limit ≤ counter)
    {min : SlowQuery} {rest : SlowQueryTree} (removed : tree.removeMin = some (min, rest))
    {d : Int} (shorter : d < min.duration) : SlowLog limit (d :: history) tree counter := by
  refine ⟨log.ordered, log.counted, log.wholeMicroseconds, log.keepsLongest.skip ?_ ?_⟩
  · simp only [List.length_map, length_getChildren]
    have := log.counted
    omega
  · have shortest := duration_le_of_removeMin log.ordered removed
    simp only [List.mem_map, getChildren_of_removeMin removed, List.mem_append,
      List.mem_singleton]
    rintro x ⟨query, member | rfl, rfl⟩
    exacts [(shorter.trans_le (shortest query member)).le, shorter.le]

end SlowLog

/-- A duration in range is held in `time.Duration` nanoseconds without overflow. -/
theorem toInt64_thousand_mul {t : Int} (inRange : 0 ≤ t ∧ t ≤ 2 ^ 63 / 1000) :
    toInt64 (1000 * t) = 1000 * t := by
  unfold toInt64
  omega

theorem microseconds_le_iff {query : SlowQuery} (whole : 1000 ∣ query.duration) (t : Int) :
    query.microseconds ≤ t ↔ query.duration ≤ 1000 * t := by
  obtain ⟨j, durationIs⟩ := whole
  rw [SlowQuery.microseconds, durationIs, Int.mul_tdiv_cancel_left j (by decide)]
  omega

/-- The slow-query part of one `Handle` call keeps the log, for a limit of at
least two queries and a duration in range. -/
theorem slowLog_logSlowQuery {options : Options} {limit : Nat} {history : List Int}
    {handler : LogHandler} (log : SlowLog limit history handler.slowQueries handler.slowQueriesCounter)
    (limitIs : options.mySQLSlowQueriesLimit = limit) (two : 2 ≤ limit) {entry : LogEntry}
    (inRange : 0 ≤ entry.microseconds ∧ entry.microseconds ≤ 2 ^ 63 / 1000) :
    SlowLog limit (if entry.lazy then history else 1000 * entry.microseconds :: history)
      (handler.logSlowQuery options entry).1.slowQueries
      (handler.logSlowQuery options entry).1.slowQueriesCounter := by
  unfold LogHandler.logSlowQuery
  cases lazy : entry.lazy
  case true => simpa using log
  case false =>
    have enabled : options.mySQLSlowQueriesLimit > 0 := by omega
    have duration : entry.slowQuery.duration = 1000 * entry.microseconds :=
      toInt64_thousand_mul inRange
    have whole : 1000 ∣ entry.slowQuery.duration := ⟨_, duration⟩
    simp only [Bool.not_false, Bool.true_and, decide_eq_true enabled, ite_true,
      Bool.false_eq_true, ite_false]
    split
    next room =>
      simpa [duration] using log.insert (by omega) entry.slowQuery whole
    next full =>
      split
      next empty =>
        rw [removeMin_eq_none_iff] at empty
        have counted := log.counted
        simp only [empty, SlowQueryTree.size] at counted
        omega
      next min rest removed =>
        have compared := microseconds_le_iff (t := entry.microseconds)
          (log.wholeMicroseconds min (by simp [getChildren_of_removeMin removed]))
        split
        next longer =>
          simpa [duration] using log.replace (by omega) two removed entry.slowQuery whole
            (duration ▸ compared.1 longer)
        next shorter =>
          exact log.skip (by omega) removed (by rw [compared] at shorter; omega)

/-- The durations of the non-lazy entries handled since the slow-query log was
last cleared, latest first, after one more call. -/
def Call.slowHistory (history : List Int) : Call → List Int
  | .handle entry => if entry.lazy then history else 1000 * entry.microseconds :: history
  | .clearMySQLStats => history
  | .clearMySQLSlowQueries => []

theorem slowLog_call {plugin : Plugin} {limit : Nat} {history : List Int}
    (log : ∃ handler, plugin.handler = some handler ∧
      SlowLog limit history handler.slowQueries handler.slowQueriesCounter)
    (limitIs : plugin.options.mySQLSlowQueriesLimit = limit) (two : 2 ≤ limit) (call : Call)
    (inRange : ∀ entry, call = .handle entry →
      0 ≤ entry.microseconds ∧ entry.microseconds ≤ 2 ^ 63 / 1000) :
    ∃ handler, (plugin.call call).1.handler = some handler ∧
      SlowLog limit (call.slowHistory history) handler.slowQueries handler.slowQueriesCounter := by
  obtain ⟨handler, present, log⟩ := log
  cases call with
  | handle entry =>
      have logged := slowLog_logSlowQuery log limitIs two (inRange entry rfl)
      obtain ⟨sameTree, sameCounter⟩ :=
        countQuery_slowLog (handler.logSlowQuery plugin.options entry).1 entry
          (handler.logSlowQuery plugin.options entry).2
      refine ⟨_, by simp only [Plugin.call, present]; rfl, ?_⟩
      simpa only [handle, sameTree, sameCounter, Call.slowHistory] using logged
  | clearMySQLStats =>
      refine ⟨_, by rw [Plugin.call, present]; rfl, ?_⟩
      exact log
  | clearMySQLSlowQueries =>
      refine ⟨_, by rw [Plugin.call, present]; rfl, ?_⟩
      exact SlowLog.nil limit

theorem slowLog_run {plugin : Plugin} {limit : Nat} {history : List Int}
    (log : ∃ handler, plugin.handler = some handler ∧
      SlowLog limit history handler.slowQueries handler.slowQueriesCounter)
    (limitIs : plugin.options.mySQLSlowQueriesLimit = limit) (two : 2 ≤ limit) (calls : List Call)
    (inRange : ∀ entry, Call.handle entry ∈ calls →
      0 ≤ entry.microseconds ∧ entry.microseconds ≤ 2 ^ 63 / 1000) :
    ∃ handler, (plugin.run calls).handler = some handler ∧
      SlowLog limit (calls.foldl Call.slowHistory history) handler.slowQueries
        handler.slowQueriesCounter := by
  induction calls generalizing plugin history with
  | nil => exact log
  | cons call rest induction =>
      have first := slowLog_call log limitIs two call fun entry same =>
        inRange entry (same ▸ List.mem_cons_self _ _)
      exact induction first (by rw [call_options, limitIs]) fun entry member =>
        inRange entry (List.mem_cons_of_mem _ member)

/-- A slow-query log of at least two queries keeps one node per counted query
after every call, and lists, from the longest down, the longest durations
handled since it was last cleared, as many as the limit allows. -/
theorem getMySQLSlowQueriesStats_keeps_longest (options : Options) (limit : Nat)
    (limitIs : options.mySQLSlowQueriesLimit = limit) (two : 2 ≤ limit) (calls : List Call)
    (inRange : ∀ entry, Call.handle entry ∈ calls →
      0 ≤ entry.microseconds ∧ entry.microseconds ≤ 2 ^ 63 / 1000) :
    (∃ handler, ((Plugin.init options).run calls).handler = some handler ∧
        (handler.slowQueries.size : Int) = handler.slowQueriesCounter) ∧
      KeepsLongest limit (calls.foldl Call.slowHistory [])
        (((Plugin.init options).run calls).getMySQLSlowQueriesStats.map (·.duration)) ∧
      ((Plugin.init options).run calls).getMySQLSlowQueriesStats.Sorted
        fun first second => second.duration ≤ first.duration := by
  have initial : ∃ handler, (Plugin.init options).handler = some handler ∧
      SlowLog limit [] handler.slowQueries handler.slowQueriesCounter := by
    refine ⟨_, by rw [Plugin.init, if_pos (Or.inr (by omega))], ?_⟩
    exact SlowLog.nil limit
  obtain ⟨handler, present, log⟩ := slowLog_run initial limitIs two calls inRange
  simp only [Plugin.getMySQLSlowQueriesStats, present]
  exact ⟨⟨handler, rfl, log.counted⟩, log.keepsLongest, sorted_getChildren log.ordered⟩

theorem twoSlotLog_keeps_longest :
    (⟨0, 2⟩ : Options).mySQLSlowQueriesLimit = (2 : Nat) ∧ 2 ≤ 2 ∧
    (∀ entry, Call.handle entry ∈
        [.handle (selectUsers 5), .handle (selectUsers 7), .handle (selectUsers 3)] →
      0 ≤ entry.microseconds ∧ entry.microseconds ≤ 2 ^ 63 / 1000) ∧
    (∃ handler, ((Plugin.init ⟨0, 2⟩).run
        [.handle (selectUsers 5), .handle (selectUsers 7), .handle (selectUsers 3)]).handler =
          some handler ∧ (handler.slowQueries.size : Int) = handler.slowQueriesCounter) ∧
      KeepsLongest 2 ([Call.handle (selectUsers 5), .handle (selectUsers 7),
          .handle (selectUsers 3)].foldl Call.slowHistory [])
        (((Plugin.init ⟨0, 2⟩).run [.handle (selectUsers 5), .handle (selectUsers 7),
          .handle (selectUsers 3)]).getMySQLSlowQueriesStats.map (·.duration)) ∧
      ((Plugin.init ⟨0, 2⟩).run [.handle (selectUsers 5), .handle (selectUsers 7),
          .handle (selectUsers 3)]).getMySQLSlowQueriesStats.Sorted
        fun first second => second.duration ≤ first.duration :=
  have inRange : ∀ entry, Call.handle entry ∈
      [.handle (selectUsers 5), .handle (selectUsers 7), .handle (selectUsers 3)] →
      0 ≤ entry.microseconds ∧ entry.microseconds ≤ 2 ^ 63 / 1000 := by
    simp [selectUsers]
  ⟨rfl, le_rfl, inRange, getMySQLSlowQueriesStats_keeps_longest ⟨0, 2⟩ 2 rfl le_rfl _ inRange⟩

/-! ## The search-tree order over every run -/

/-- The slow-query part of `Handle` keeps the tree ordered, whatever the limit
and the duration. -/
theorem ordered_logSlowQuery (options : Options) {handler : LogHandler}
    (ordered : handler.slowQueries.Ordered) (entry : LogEntry) :
    (handler.logSlowQuery options entry).1.slowQueries.Ordered := by
  unfold LogHandler.logSlowQuery
  split
  · split
    · exact ordered_insert ordered _
    · split
      · exact ordered
      next min rest removed =>
        split
        · exact ordered_insertInPlace (ordered_of_removeMin ordered removed) _
        · exact ordered
  · exact ordered

/-- The slow-query tree of the plugin's handler, if any, is ordered. -/
def TreeOrdered (plugin : Plugin) : Prop :=
  ∀ handler, plugin.handler = some handler → handler.slowQueries.Ordered

theorem treeOrdered_call {plugin : Plugin} (ordered : TreeOrdered plugin) (call : Call) :
    TreeOrdered (plugin.call call).1 := by
  intro handler' present
  cases call with
  | handle entry =>
      simp only [Plugin.call] at present
      split at present
      · exact ordered handler' present
      next handler found =>
        cases present
        rw [handle, (countQuery_slowLog _ entry _).1]
        exact ordered_logSlowQuery _ (ordered handler found) entry
  | clearMySQLStats =>
      obtain ⟨handler, found, rfl⟩ := Option.map_eq_some'.1 present
      exact ordered handler found
  | clearMySQLSlowQueries =>
      obtain ⟨handler, -, rfl⟩ := Option.map_eq_some'.1 present
      trivial

theorem treeOrdered_run {plugin : Plugin} (ordered : TreeOrdered plugin) (calls : List Call) :
    TreeOrdered (plugin.run calls) := by
  induction calls generalizing plugin with
  | nil => exact ordered
  | cons call rest induction => exact induction (treeOrdered_call ordered call)

/-- For every limit and every run of calls, the slow-query tree stays a binary
search tree on durations, and `GetMySQLSlowQueriesStats` lists each of its nodes
once, from the longest duration down. -/
theorem run_slowQueries_ordered (options : Options) (calls : List Call) :
    (∀ handler, ((Plugin.init options).run calls).handler = some handler →
      handler.slowQueries.Ordered ∧
        ((Plugin.init options).run calls).getMySQLSlowQueriesStats.Perm
          handler.slowQueries.nodes) ∧
    ((Plugin.init options).run calls).getMySQLSlowQueriesStats.Sorted
      fun first second => second.duration ≤ first.duration := by
  have initial : TreeOrdered (Plugin.init options) := by
    intro handler present
    simp only [Plugin.init] at present
    split at present
    · cases present
      trivial
    · cases present
  have ordered := treeOrdered_run initial calls
  refine ⟨fun handler present => ⟨ordered handler present, ?_⟩, ?_⟩
  · rw [Plugin.getMySQLSlowQueriesStats, present]
    exact getChildren_perm_nodes _
  · rw [Plugin.getMySQLSlowQueriesStats]
    split
    · exact List.sorted_nil
    next handler present => exact sorted_getChildren (ordered handler present)

end BeeOrm.Metrics
