import BeeOrm.Schema.Registry
import BeeOrm.Foundation.GoStrings

/-! `initEnum` and the lookups of `enum`. An enum is declared as a struct whose
fields hold its values; `initEnum` lists the values in declaration order and maps
each to its 1-based position, a repeated value to the position it last takes. -/

namespace BeeOrm

namespace Enum

/-- `enum.GetFields()`. -/
def getFields (enum : Enum) : List String := enum.fields

/-- `enum.GetDefault()`. -/
def getDefault (enum : Enum) : String := enum.defaultValue

/-- `enum.Has(value)`: whether `value` is a key of the mapping. -/
def has (enum : Enum) (value : String) : Bool := (GoMap.get? enum.mapping value).isSome

/-- `enum.Index(value)`: the zero value for a value the mapping lacks. -/
def index (enum : Enum) (value : String) : Nat := GoMap.getD enum.mapping value 0

end Enum

/-- The body of the loop of `initEnum` for field `i` holding `name`. -/
def initEnumStep (state : List String × List (String × Nat)) (field : Nat × String) :
    List String × List (String × Nat) :=
  (state.1 ++ [field.2], GoMap.set state.2 field.2 (field.1 + 1))

/-- `initEnum(ref, defaultValue...)`, with `ref` given by the string values of
its fields in declaration order. Without a default, `enum.fields[0]` panics on a
struct with no fields. -/
def initEnum (ref : List String) (defaultValue : List String) : Except String Enum := do
  let (fields, mapping) := ref.enum.foldl initEnumStep ([], [])
  let defaultValue ← match defaultValue, fields with
    | value :: _, _ => pure value
    | [], first :: _ => pure first
    | [], [] => throw (indexOutOfRange 0 0)
  pure { fields := fields, mapping := mapping, defaultValue := defaultValue }

/-- What the loop of `initEnum` keeps between the values read so far and the
mapping: the keys are the values, and each key is mapped to a position at which
its value stands. -/
structure EnumAgrees (fields : List String) (mapping : List (String × Nat)) : Prop where
  has : ∀ value, (GoMap.get? mapping value).isSome ↔ value ∈ fields
  index : ∀ value position, GoMap.get? mapping value = some position →
    0 < position ∧ fields[position - 1]? = some value

theorem EnumAgrees.empty : EnumAgrees [] [] :=
  ⟨by simp, by simp⟩

/-- One turn of the loop: the value read at the next position is mapped to it. -/
theorem EnumAgrees.step {fields : List String} {mapping : List (String × Nat)}
    (agrees : EnumAgrees fields mapping) (name : String) :
    EnumAgrees (fields ++ [name]) (GoMap.set mapping name (fields.length + 1)) := by
  constructor
  · intro value
    by_cases same : name = value
    · subst same
      simp
    · simp [GoMap.get?_set_of_ne _ _ same, agrees.has, Ne.symm same]
  · intro value position found
    by_cases same : name = value
    · subst same
      rw [GoMap.get?_set_self, Option.some.injEq] at found
      subst found
      simp
    · rw [GoMap.get?_set_of_ne _ _ same] at found
      obtain ⟨positive, atPosition⟩ := agrees.index value position found
      have within : position - 1 < fields.length := (List.getElem?_eq_some_iff.1 atPosition).1
      exact ⟨positive, by rw [List.getElem?_append_left within, atPosition]⟩

/-- The whole loop, from any state keeping the invariant: it appends the values
read and keeps the invariant. -/
theorem foldl_initEnumStep (values : List String) :
    ∀ {fields : List String} {mapping : List (String × Nat)}, EnumAgrees fields mapping →
      ((values.enumFrom fields.length).foldl initEnumStep (fields, mapping)).1 = fields ++ values ∧
      EnumAgrees ((values.enumFrom fields.length).foldl initEnumStep (fields, mapping)).1
        ((values.enumFrom fields.length).foldl initEnumStep (fields, mapping)).2 := by
  induction values with
  | nil => exact fun agrees => ⟨by simp, agrees⟩
  | cons name rest induction =>
      intro fields mapping agrees
      have next := induction (agrees.step name)
      rw [List.length_append, List.length_singleton, List.append_assoc,
        List.singleton_append] at next
      exact next

/-- `initEnum` returns, when given a default or at least one value, an enum
listing the values in order, whose mapping agrees with them, and whose default
is the given one or else the first value. -/
theorem initEnum_eq_ok {ref defaultValue : List String} (given : defaultValue ≠ [] ∨ ref ≠ []) :
    ∃ enum, initEnum ref defaultValue = .ok enum ∧ enum.fields = ref ∧
      EnumAgrees enum.fields enum.mapping ∧ (defaultValue ++ ref).head? = some enum.defaultValue := by
  obtain ⟨listed, agrees⟩ : (ref.enum.foldl initEnumStep ([], [])).1 = [] ++ ref ∧
      EnumAgrees (ref.enum.foldl initEnumStep ([], [])).1 (ref.enum.foldl initEnumStep ([], [])).2 :=
    foldl_initEnumStep ref EnumAgrees.empty
  rw [List.nil_append] at listed
  unfold initEnum
  generalize ref.enum.foldl initEnumStep ([], []) = loop at listed agrees
  obtain ⟨fields, mapping⟩ := loop
  dsimp only at listed agrees ⊢
  subst listed
  match defaultValue, fields, given with
  | value :: _, _, _ => exact ⟨_, rfl, rfl, agrees, rfl⟩
  | [], first :: _, _ => exact ⟨_, rfl, rfl, agrees, rfl⟩
  | [], [], given => simp at given

/-- `initEnum` panics exactly on a struct with no fields and no default given. -/
theorem initEnum_eq_error_iff (ref defaultValue : List String) :
    (∃ message, initEnum ref defaultValue = .error message) ↔ ref = [] ∧ defaultValue = [] := by
  constructor
  · rintro ⟨message, failed⟩
    by_contra given
    obtain ⟨enum, built, -⟩ := initEnum_eq_ok (by tauto : defaultValue ≠ [] ∨ ref ≠ [])
    cases failed.symm.trans built
  · rintro ⟨rfl, rfl⟩
    exact ⟨_, rfl⟩

/-- A value of the enum has an index at which it stands. -/
theorem EnumAgrees.index_of_mem {enum : Enum} (agrees : EnumAgrees enum.fields enum.mapping)
    {value : String} (member : value ∈ enum.fields) :
    0 < enum.index value ∧ enum.fields[enum.index value - 1]? = some value := by
  obtain ⟨position, found⟩ := Option.isSome_iff_exists.1 ((agrees.has value).2 member)
  have index : enum.index value = position := by simp [Enum.index, GoMap.getD, found]
  exact index ▸ agrees.index value position found

/-- Any other string has index 0. -/
theorem EnumAgrees.index_of_not_mem {enum : Enum} (agrees : EnumAgrees enum.fields enum.mapping)
    {value : String} (absent : value ∉ enum.fields) : enum.index value = 0 := by
  have missing : GoMap.get? enum.mapping value = none :=
    Option.not_isSome_iff_eq_none.1 fun found => absent ((agrees.has value).1 found)
  simp [Enum.index, GoMap.getD, missing]

/-- For a struct of one or more values, repeats allowed, the lookups of the enum
`initEnum` builds agree with its value list: `Has` holds of exactly the values,
`Index` gives each value a position at which it stands and every other string 0,
and when the values are distinct, the position of each. -/
theorem initEnum_lookups_agree (first : String) (rest defaultValue : List String) :
    ∃ enum, initEnum (first :: rest) defaultValue = .ok enum ∧
      enum.getFields = first :: rest ∧
      (∀ value, enum.has value = true ↔ value ∈ enum.getFields) ∧
      (∀ value ∈ enum.getFields, 1 ≤ enum.index value ∧
        enum.index value ≤ enum.getFields.length ∧
        enum.getFields[enum.index value - 1]? = some value) ∧
      (∀ value, value ∉ enum.getFields → enum.index value = 0) ∧
      (enum.getFields.Nodup → ∀ (i : Nat) (h : i < enum.getFields.length),
        enum.index enum.getFields[i] = i + 1) := by
  obtain ⟨enum, built, listed, agrees, -⟩ := initEnum_eq_ok (.inr (List.cons_ne_nil first rest))
  refine ⟨enum, built, listed, agrees.has, fun value member => ?_,
    fun value absent => agrees.index_of_not_mem absent, fun distinct i short => ?_⟩
  · obtain ⟨positive, atIndex⟩ := agrees.index_of_mem member
    have within := (List.getElem?_eq_some_iff.1 atIndex).1
    exact ⟨positive, by unfold Enum.getFields; omega, atIndex⟩
  · obtain ⟨positive, atIndex⟩ := agrees.index_of_mem (List.getElem_mem short)
    obtain ⟨within, equal⟩ := List.getElem?_eq_some_iff.1 atIndex
    have := distinct.getElem_inj_iff.1 equal
    omega

/-- A repeated value is mapped to the last position it takes. -/
example : (initEnum ["active", "archived", "active"] []).toOption.map
    (fun enum => (enum.index "active", enum.index "archived", enum.index "deleted")) =
      some (3, 2, 0) := by decide

end BeeOrm
