import Mathlib.Data.List.Sort
import Mathlib.Algebra.Group.Int

/-! The slow-query log of the `simple_metrics` plugin: an unbalanced binary
search tree of queries by duration, with `insert`, the minimum `findMin` finds
and unlinks, and `getChildren`, which lists the tree from the longest duration
down. -/

namespace BeeOrm.Metrics

/-- An `int64` value, wrapped into range as Go's arithmetic wraps it. -/
def toInt64 (x : Int) : Int := (x + 2 ^ 63) % 2 ^ 64 - 2 ^ 63

/-- `MySQLSLowQuery`, with its `time.Duration` in nanoseconds. -/
structure SlowQuery where
  query : String
  pool : String
  duration : Int
deriving DecidableEq, Repr

/-- `Duration.Microseconds()`: whole microseconds, truncated toward zero. -/
def SlowQuery.microseconds (value : SlowQuery) : Int := value.duration.tdiv 1000

/-- `*mySqlSlowQueryTreeNode`, `nil` included. -/
inductive SlowQueryTree where
  | nil
  | node (left : SlowQueryTree) (value : SlowQuery) (right : SlowQueryTree)
deriving DecidableEq, Repr

namespace SlowQueryTree

/-- `n.insert(value)`: shorter durations go left, equal and longer ones right. -/
def insert : SlowQueryTree → SlowQuery → SlowQueryTree
  | nil, value => node nil value nil
  | node left current right, value =>
      if value.duration < current.duration then node (left.insert value) current right
      else node left current (right.insert value)

/-- `n.findMin(nil)` with the unlinking `Handle` does after it: the leftmost
value, and the tree with the leftmost node replaced by its right subtree. -/
def removeMin : SlowQueryTree → Option (SlowQuery × SlowQueryTree)
  | nil => none
  | node left value right =>
      match left.removeMin with
      | none => some (value, right)
      | some (min, rest) => some (min, node rest value right)

/-- `ml.slowQueries.insert(value)` with its result dropped: a non-empty tree
gets the new node in place, an empty one stays empty. -/
def insertInPlace : SlowQueryTree → SlowQuery → SlowQueryTree
  | nil, _ => nil
  | tree@(node _ _ _), value => tree.insert value

/-- `n.getChildren()`: the right subtree, the node, then the left subtree. -/
def getChildren : SlowQueryTree → List SlowQuery
  | nil => []
  | node left value right => right.getChildren ++ [value] ++ left.getChildren

/-- The nodes of a tree, each once: the node, then its left and right subtrees. -/
def nodes : SlowQueryTree → List SlowQuery
  | nil => []
  | node left value right => value :: (left.nodes ++ right.nodes)

/-- The number of nodes. -/
def size : SlowQueryTree → Nat
  | nil => 0
  | node left _ right => left.size + 1 + right.size

/-- Every duration of the left subtree is shorter than the node's, and no
duration of the right subtree is, at every node. -/
def Ordered : SlowQueryTree → Prop
  | nil => True
  | node left value right =>
      left.Ordered ∧ right.Ordered ∧
        (∀ other ∈ left.getChildren, other.duration < value.duration) ∧
        ∀ other ∈ right.getChildren, value.duration ≤ other.duration

@[simp] theorem length_getChildren (tree : SlowQueryTree) :
    tree.getChildren.length = tree.size := by
  induction tree with
  | nil => rfl
  | node left value right leftSize rightSize =>
      simp [getChildren, size, leftSize, rightSize]
      omega

theorem getChildren_insert_perm (tree : SlowQueryTree) (value : SlowQuery) :
    (tree.insert value).getChildren.Perm (value :: tree.getChildren) := by
  induction tree with
  | nil => simp [insert, getChildren]
  | node left current right leftPerm rightPerm =>
      simp only [insert]
      split
      · rw [getChildren, getChildren]
        exact (leftPerm.append_left _).trans List.perm_middle
      · rw [getChildren, getChildren]
        exact (rightPerm.append_right _).append_right _

@[simp] theorem size_insert (tree : SlowQueryTree) (value : SlowQuery) :
    (tree.insert value).size = tree.size + 1 := by
  rw [← length_getChildren, (getChildren_insert_perm tree value).length_eq]
  simp

theorem ordered_insert {tree : SlowQueryTree} (ordered : tree.Ordered) (value : SlowQuery) :
    (tree.insert value).Ordered := by
  induction tree with
  | nil => simp [insert, Ordered, getChildren]
  | node left current right leftOrdered rightOrdered =>
      obtain ⟨leftIs, rightIs, below, above⟩ := ordered
      simp only [insert]
      split
      next shorter =>
        refine ⟨leftOrdered leftIs, rightIs, fun other member => ?_, above⟩
        rcases List.mem_cons.1 ((getChildren_insert_perm left value).mem_iff.1 member) with
          rfl | member
        exacts [shorter, below other member]
      next longer =>
        refine ⟨leftIs, rightOrdered rightIs, below, fun other member => ?_⟩
        rcases List.mem_cons.1 ((getChildren_insert_perm right value).mem_iff.1 member) with
          rfl | member
        exacts [not_lt.1 longer, above other member]

/-- Unlinking the minimum takes the last query `getChildren` lists. -/
theorem getChildren_of_removeMin {tree rest : SlowQueryTree} {min : SlowQuery}
    (removed : tree.removeMin = some (min, rest)) :
    tree.getChildren = rest.getChildren ++ [min] := by
  induction tree generalizing min rest with
  | nil => cases removed
  | node left value right leftMin _ =>
      simp only [removeMin] at removed
      split at removed
      next leftless =>
        cases removed
        cases left with
        | nil => simp [getChildren]
        | node => simp [removeMin] at leftless; split at leftless <;> cases leftless
      next min' rest' leftRemoved =>
        cases removed
        simp [getChildren, leftMin leftRemoved]

theorem removeMin_eq_none_iff (tree : SlowQueryTree) : tree.removeMin = none ↔ tree = nil := by
  cases tree with
  | nil => simp [removeMin]
  | node left value right =>
      simp only [removeMin, reduceCtorEq, iff_false]
      split <;> simp

theorem size_of_removeMin {tree rest : SlowQueryTree} {min : SlowQuery}
    (removed : tree.removeMin = some (min, rest)) : rest.size + 1 = tree.size := by
  rw [← length_getChildren, ← length_getChildren, getChildren_of_removeMin removed]
  simp

theorem ordered_of_removeMin {tree rest : SlowQueryTree} {min : SlowQuery}
    (ordered : tree.Ordered) (removed : tree.removeMin = some (min, rest)) : rest.Ordered := by
  induction tree generalizing min rest with
  | nil => cases removed
  | node left value right leftMin _ =>
      obtain ⟨leftIs, rightIs, below, above⟩ := ordered
      simp only [removeMin] at removed
      split at removed
      · cases removed
        exact rightIs
      next min' rest' leftRemoved =>
        cases removed
        refine ⟨leftMin leftIs leftRemoved, rightIs, fun other member => ?_, above⟩
        exact below other (by simp [getChildren_of_removeMin leftRemoved, member])

theorem insertInPlace_of_ne_nil {tree : SlowQueryTree} (nonempty : tree ≠ nil) (value : SlowQuery) :
    tree.insertInPlace value = tree.insert value := by
  cases tree
  · contradiction
  · rfl

theorem ordered_insertInPlace {tree : SlowQueryTree} (ordered : tree.Ordered) (value : SlowQuery) :
    (tree.insertInPlace value).Ordered := by
  cases tree
  · trivial
  · exact ordered_insert ordered value

/-- `getChildren` lists every node once. -/
theorem getChildren_perm_nodes (tree : SlowQueryTree) : tree.getChildren.Perm tree.nodes := by
  induction tree with
  | nil => rfl
  | node left value right leftPerm rightPerm =>
      rw [getChildren, nodes, List.append_assoc]
      exact List.perm_middle.trans ((List.perm_append_comm.trans (leftPerm.append rightPerm)).cons _)

/-- An ordered tree lists its queries from the longest duration down. -/
theorem sorted_getChildren {tree : SlowQueryTree} (ordered : tree.Ordered) :
    tree.getChildren.Sorted fun first second => second.duration ≤ first.duration := by
  induction tree with
  | nil => simp [getChildren]
  | node left value right leftSorted rightSorted =>
      obtain ⟨leftIs, rightIs, below, above⟩ := ordered
      rw [getChildren, List.Sorted, List.pairwise_append, List.pairwise_append]
      refine ⟨⟨rightSorted rightIs, List.pairwise_singleton _ _,
        fun first member second same => ?_⟩, leftSorted leftIs,
        fun first member second later => ?_⟩
      · rw [List.mem_singleton] at same
        exact same ▸ above first member
      · rcases List.mem_append.1 member with member | member
        · exact ((below second later).trans_le (above first member)).le
        · rw [List.mem_singleton] at member
          exact member ▸ (below second later).le

/-- The query `removeMin` unlinks from an ordered tree is no longer than any it
leaves. -/
theorem duration_le_of_removeMin {tree rest : SlowQueryTree} {min : SlowQuery}
    (ordered : tree.Ordered) (removed : tree.removeMin = some (min, rest)) :
    ∀ other ∈ rest.getChildren, min.duration ≤ other.duration := by
  have sorted := sorted_getChildren ordered
  rw [getChildren_of_removeMin removed, List.Sorted, List.pairwise_append] at sorted
  exact fun other member => sorted.2.2 other member min (List.mem_singleton_self min)

end SlowQueryTree

end BeeOrm.Metrics
