import Mathlib.Data.List.Basic
import Mathlib.Data.List.Nodup

/-! Go maps as association lists. Iteration order is the list order: a new key
is appended and an assignment to a present key keeps its position. Go leaves the
iteration order of a map unspecified, so a result that must hold for every order
is stated over every list. A loop over a map that can fail is a `foldlM` in
`Except`, and what each of its steps keeps holds after it. -/

namespace BeeOrm

namespace GoMap

variable {κ ν : Type} [DecidableEq κ]

/-- `value, has := m[key]`: `none` when the key is absent. -/
def get? : List (κ × ν) → κ → Option ν
  | [], _ => none
  | (present, value) :: rest, key =>
      if present = key then some value else get? rest key

/-- `m[key]` read without the comma-ok form: the zero value when absent. -/
def getD (m : List (κ × ν)) (key : κ) (zero : ν) : ν :=
  (get? m key).getD zero

/-- `m[key] = value`. -/
def set : List (κ × ν) → κ → ν → List (κ × ν)
  | [], key, value => [(key, value)]
  | (present, old) :: rest, key, value =>
      if present = key then (key, value) :: rest
      else (present, old) :: set rest key value

def keys (m : List (κ × ν)) : List κ := m.map Prod.fst

/-- `delete(m, key)`. -/
def delete (m : List (κ × ν)) (key : κ) : List (κ × ν) := m.filter (·.1 ≠ key)

@[simp] theorem get?_nil (key : κ) : get? ([] : List (κ × ν)) key = none := rfl

@[simp] theorem get?_set_self (m : List (κ × ν)) (key : κ) (value : ν) :
    get? (set m key value) key = some value := by
  induction m with
  | nil => simp [set, get?]
  | cons entry rest induction =>
      by_cases present : entry.1 = key <;> simp [set, get?, present, induction]

theorem get?_set_of_ne (m : List (κ × ν)) {key other : κ} (value : ν)
    (different : key ≠ other) : get? (set m key value) other = get? m other := by
  induction m with
  | nil => simp [set, get?, different]
  | cons entry rest induction =>
      by_cases present : entry.1 = key
      · have : entry.1 ≠ other := present ▸ different
        simp [set, get?, present, different, this]
      · simp [set, get?, present, induction]

theorem get?_set (m : List (κ × ν)) (key other : κ) (value : ν) :
    get? (set m key value) other = if key = other then some value else get? m other := by
  split
  · subst other
    exact get?_set_self m key value
  · exact get?_set_of_ne m value ‹_›

theorem getD_set (m : List (κ × ν)) (key other : κ) (value zero : ν) :
    getD (set m key value) other zero = if key = other then value else getD m other zero := by
  rw [getD, get?_set]
  split <;> rfl

theorem mem_keys_iff_get?_isSome (m : List (κ × ν)) (key : κ) :
    key ∈ keys m ↔ (get? m key).isSome := by
  induction m with
  | nil => simp [keys]
  | cons entry rest induction =>
      by_cases present : entry.1 = key
      · simp [keys, get?, present]
      · simp [keys, get?, present, Ne.symm present, ← induction]

theorem keys_set (m : List (κ × ν)) (key : κ) (value : ν) :
    keys (set m key value) = if key ∈ keys m then keys m else keys m ++ [key] := by
  induction m with
  | nil => simp [set, keys]
  | cons entry rest induction =>
      by_cases present : entry.1 = key
      · simp [set, keys, present]
      · simp only [keys] at induction
        by_cases member : key ∈ rest.map Prod.fst <;>
          simp_all [set, keys, Ne.symm present]

@[simp] theorem mem_keys_set (m : List (κ × ν)) (key other : κ) (value : ν) :
    other ∈ keys (set m key value) ↔ other ∈ keys m ∨ other = key := by
  rw [keys_set]
  split <;> simp_all [or_iff_left_of_imp]

theorem keys_set_of_mem {m : List (κ × ν)} {key : κ} (present : key ∈ keys m) (value : ν) :
    keys (set m key value) = keys m := by
  rw [keys_set, if_pos present]

theorem set_of_not_mem (m : List (κ × ν)) {key : κ} (value : ν) (absent : key ∉ keys m) :
    set m key value = m ++ [(key, value)] := by
  induction m with
  | nil => rfl
  | cons entry rest induction =>
      have present : entry.1 ≠ key := fun same => absent (by simp [keys, ← same])
      simp only [keys, List.map_cons, List.mem_cons, not_or] at absent
      simp [set, present, induction absent.2]

theorem mem_of_get? {m : List (κ × ν)} {key : κ} {value : ν} (found : get? m key = some value) :
    (key, value) ∈ m := by
  induction m with
  | nil => cases found
  | cons entry rest induction =>
      simp only [get?] at found
      split at found
      next present => cases found; simp [← present]
      next => exact List.mem_cons_of_mem _ (induction found)

theorem mem_set_self (m : List (κ × ν)) (key : κ) (value : ν) :
    (key, value) ∈ set m key value := by
  induction m with
  | nil => exact List.mem_singleton_self _
  | cons entry rest induction =>
      simp only [set]
      split
      · exact List.mem_cons_self _ _
      · exact List.mem_cons_of_mem _ induction

theorem mem_set_of_ne {m : List (κ × ν)} {entry : κ × ν} (member : entry ∈ m) {key : κ}
    (other : entry.1 ≠ key) (value : ν) : entry ∈ set m key value := by
  induction m with
  | nil => cases member
  | cons head rest induction =>
      simp only [set]
      split
      next same =>
        rcases List.mem_cons.1 member with rfl | member
        · exact absurd same other
        · exact List.mem_cons_of_mem _ member
      next =>
        rcases List.mem_cons.1 member with rfl | member
        · exact List.mem_cons_self _ _
        · exact List.mem_cons_of_mem _ (induction member)

theorem mem_of_mem_set {m : List (κ × ν)} {key : κ} {value : ν} {entry : κ × ν}
    (member : entry ∈ set m key value) : entry ∈ m ∨ entry = (key, value) := by
  induction m with
  | nil => exact .inr (List.mem_singleton.1 member)
  | cons head rest induction =>
      simp only [set] at member
      split at member
      · rcases List.mem_cons.1 member with rfl | member
        · exact .inr rfl
        · exact .inl (List.mem_cons_of_mem _ member)
      · rcases List.mem_cons.1 member with rfl | member
        · exact .inl (List.mem_cons_self _ _)
        · exact (induction member).imp (List.mem_cons_of_mem _) id

theorem get?_eq_none_iff (m : List (κ × ν)) (key : κ) : get? m key = none ↔ key ∉ keys m := by
  rw [mem_keys_iff_get?_isSome, Option.not_isSome_iff_eq_none]

theorem get?_delete (m : List (κ × ν)) (key other : κ) :
    get? (delete m key) other = if key = other then none else get? m other := by
  induction m with
  | nil => simp [delete]
  | cons entry rest induction =>
      by_cases same : entry.1 = key
      · have dropped : delete (entry :: rest) key = delete rest key := by
          simp [delete, List.filter_cons, same]
        rw [dropped, induction]
        split
        · rfl
        · simp [get?, same, *]
      · have kept : delete (entry :: rest) key = entry :: delete rest key := by
          simp [delete, List.filter_cons, same]
        rw [kept, get?, induction, get?]
        by_cases hit : entry.1 = other
        · have : key ≠ other := fun found => same (hit.trans found.symm)
          simp [hit, this]
        · simp [hit]

theorem nodup_keys_set {m : List (κ × ν)} (nodup : (keys m).Nodup) (key : κ) (value : ν) :
    (keys (set m key value)).Nodup := by
  rw [keys_set]
  split
  · exact nodup
  · exact List.concat_eq_append .. ▸ nodup.concat ‹_›

theorem nodup_keys_delete {m : List (κ × ν)} (nodup : (keys m).Nodup) (key : κ) :
    (keys (delete m key)).Nodup :=
  nodup.sublist ((List.filter_sublist m).map Prod.fst)

/-- Deleting keys one after another removes exactly them. -/
theorem get?_foldl_delete (m : List (κ × ν)) (deleted : List κ) (key : κ) :
    get? (deleted.foldl delete m) key = if key ∈ deleted then none else get? m key := by
  induction deleted generalizing m with
  | nil => simp
  | cons first rest induction =>
      rw [List.foldl_cons, induction, get?_delete]
      by_cases member : key ∈ rest
      · simp [member]
      · by_cases same : first = key <;> simp [member, same, Ne.symm]

/-- Assigning the entries of a map with distinct keys one after another reads
them back, and leaves the other keys alone. -/
theorem get?_foldl_set (m entries : List (κ × ν)) (distinct : (keys entries).Nodup) (key : κ) :
    get? (entries.foldl (fun m entry => set m entry.1 entry.2) m) key =
      if key ∈ keys entries then get? entries key else get? m key := by
  induction entries generalizing m with
  | nil => simp [keys]
  | cons entry rest induction =>
      obtain ⟨fresh, distinct⟩ : entry.1 ∉ keys rest ∧ (keys rest).Nodup := List.nodup_cons.1 distinct
      have member : key ∈ keys (entry :: rest) ↔ entry.1 = key ∨ key ∈ keys rest := by
        simp [keys, eq_comm]
      rw [List.foldl_cons, induction _ distinct, get?_set]
      by_cases same : entry.1 = key
      · subst same
        rw [if_neg fresh, if_pos rfl, if_pos (member.2 (.inl rfl)), get?, if_pos rfl]
      · rw [if_neg same, get?, if_neg same]
        simp only [member, same, false_or]

theorem eq_nil_of_get? {m : List (κ × ν)} (absent : ∀ key, get? m key = none) : m = [] := by
  cases m with
  | nil => rfl
  | cons entry rest => simpa [get?] using absent entry.1

theorem get?_of_mem {m : List (κ × ν)} {key : κ} {value : ν} (nodup : (keys m).Nodup)
    (member : (key, value) ∈ m) : get? m key = some value := by
  induction m with
  | nil => cases member
  | cons entry rest induction =>
      simp only [keys, List.map_cons, List.nodup_cons] at nodup
      rcases List.mem_cons.mp member with rfl | member
      · simp [get?]
      · have present : entry.1 ≠ key := fun same =>
          nodup.1 (same ▸ List.mem_map_of_mem Prod.fst member)
        simp [get?, present, induction nodup.2 member]

end GoMap

/-- What every step of a fold in `Except` keeps holds of its result. -/
theorem foldlM_invariant {α β ε : Type} {P : α → Prop} {f : α → β → Except ε α}
    (step : ∀ a b a', P a → f a b = .ok a' → P a') :
    ∀ (l : List β) {a a' : α}, P a → l.foldlM f a = .ok a' → P a'
  | [], _, _, holds, ok => by cases ok; exact holds
  | b :: l, a, _, holds, ok => by
      rw [List.foldlM_cons] at ok
      cases next : f a b with
      | error _ => rw [next] at ok; cases ok
      | ok _ =>
          rw [next] at ok
          exact foldlM_invariant step l (step a b _ holds next) ok

end BeeOrm
