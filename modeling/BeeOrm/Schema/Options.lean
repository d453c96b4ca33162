import BeeOrm.Foundation.GoMap

/-! The plugin options of a table schema: `SetOption` stores a value under a
plugin and a key, creating the maps it needs; `GetOption` reads it, nil when the
options, the plugin or the key have none; `GetOptionString` asserts that what it
reads is a string. Over any sequence of writes, a read returns the value of the
last write to its plugin and key. -/

namespace BeeOrm

/-- A value held as `interface{}`: nil, a string, or a value of another dynamic
type, by the name of its type. -/
inductive AnyValue where
  | nil
  | string (value : String)
  | other (typeName : String)
deriving DecidableEq, Repr

/-- `tableSchema.options`: nil, or the options of each plugin by key. -/
abbrev PluginOptions := Option (List (String × List (String × AnyValue)))

/-- `tableSchema.GetOption(plugin, key)`. -/
def getOption (options : PluginOptions) (plugin key : String) : AnyValue :=
  match options with
  | none => .nil
  | some options =>
      match GoMap.get? options plugin with
      | none => .nil
      | some values => GoMap.getD values key .nil

/-- `tableSchema.GetOptionString(plugin, key)`: the type assertion `val.(string)`
panics on a value of another type. -/
def getOptionString (options : PluginOptions) (plugin key : String) : Except String String :=
  match getOption options plugin key with
  | .nil => .ok ""
  | .string value => .ok value
  | .other typeName => .error s!"interface conversion: interface \x7b\x7d is {typeName}, not string"

/-- `tableSchema.SetOption(plugin, key, value)`. -/
def setOption (options : PluginOptions) (plugin key : String) (value : AnyValue) :
    PluginOptions :=
  match options with
  | none => some [(plugin, [(key, value)])]
  | some options =>
      match GoMap.get? options plugin with
      | none => some (GoMap.set options plugin [(key, value)])
      | some before => some (GoMap.set options plugin (GoMap.set before key value))

/-- One call of `SetOption`. -/
structure OptionWrite where
  plugin : String
  key : String
  value : AnyValue
deriving DecidableEq, Repr

/-- One write changes the read of its own plugin and key only. -/
theorem getOption_setOption (options : PluginOptions) (plugin key : String) (value : AnyValue)
    (plugin' key' : String) :
    getOption (setOption options plugin key value) plugin' key' =
      if plugin = plugin' ∧ key = key' then value else getOption options plugin' key' := by
  have single : ∀ values : List (String × AnyValue),
      GoMap.getD (GoMap.set values key value) key' .nil =
        if key = key' then value else GoMap.getD values key' .nil := fun values =>
    GoMap.getD_set values key key' value .nil
  cases options with
  | none =>
      by_cases samePlugin : plugin = plugin' <;>
        by_cases sameKey : key = key' <;> simp [getOption, setOption, GoMap.get?, GoMap.getD, *]
  | some options =>
      cases present : GoMap.get? options plugin with
      | none =>
          by_cases samePlugin : plugin = plugin'
          · subst samePlugin
            by_cases sameKey : key = key' <;>
              simp [getOption, setOption, present, GoMap.get?, GoMap.getD, sameKey]
          · simp [getOption, setOption, present, GoMap.get?_set_of_ne _ _ samePlugin, samePlugin]
      | some before =>
          by_cases samePlugin : plugin = plugin'
          · subst samePlugin
            simp [getOption, setOption, present, single]
          · simp [getOption, setOption, present, GoMap.get?_set_of_ne _ _ samePlugin, samePlugin]

/-- A run of writes, from any options: the read of a plugin and key is the value
of the last write to them, or the read before the run. -/
theorem getOption_foldl_setOption (options : PluginOptions) (writes : List OptionWrite)
    (plugin key : String) :
    getOption (writes.foldl (fun options write =>
        setOption options write.plugin write.key write.value) options) plugin key =
      ((writes.reverse.find? fun write => write.plugin = plugin ∧ write.key = key).map
        (·.value)).getD (getOption options plugin key) := by
  induction writes using List.reverseRecOn with
  | nil => rfl
  | append_singleton writes write induction =>
      rw [List.foldl_append, List.foldl_cons, List.foldl_nil, getOption_setOption, induction,
        List.reverse_append, List.reverse_singleton, List.singleton_append, List.find?_cons]
      by_cases same : write.plugin = plugin ∧ write.key = key <;> simp [same]

/-- After any sequence of `SetOption` calls, from any options, `GetOption` of a
plugin and key returns the value of the last call for that plugin and key, or
what it returned before when there was none; so from a new schema,
`GetOptionString` never panics when every value written is nil or a string. -/
theorem getOption_after_writes (options : PluginOptions) (writes : List OptionWrite)
    (plugin key : String) :
    getOption (writes.foldl (fun options write =>
        setOption options write.plugin write.key write.value) options) plugin key =
      ((writes.reverse.find? fun write => write.plugin = plugin ∧ write.key = key).map
        (·.value)).getD (getOption options plugin key) ∧
    ((∀ write ∈ writes, ∀ typeName, write.value ≠ .other typeName) →
      ∃ value, getOptionString (writes.foldl (fun options write =>
        setOption options write.plugin write.key write.value) none) plugin key = .ok value) := by
  refine ⟨getOption_foldl_setOption options writes plugin key, fun strings => ?_⟩
  rw [getOptionString, getOption_foldl_setOption]
  split
  · exact ⟨_, rfl⟩
  · exact ⟨_, rfl⟩
  next typeName read =>
    -- a value of another type was read, so some write stored it
    obtain ⟨write, found, valued⟩ := Option.map_eq_some'.1
      ((Option.getD_eq_iff.1 read).resolve_right (by simp [getOption]))
    exact (strings write (List.mem_reverse.1 (List.mem_of_find?_eq_some found)) typeName valued).elim

/-- Writes to two plugins under one key, with an overwrite. -/
def tableOptionWrites : List OptionWrite :=
  [⟨"sql", "table", .string "users"⟩, ⟨"log", "table", .string "audit"⟩,
    ⟨"sql", "table", .string "accounts"⟩]

theorem tableOptionWrites_read_back :
    (∀ write ∈ tableOptionWrites, ∀ typeName, write.value ≠ .other typeName) ∧
    getOption (tableOptionWrites.foldl (fun options write =>
        setOption options write.plugin write.key write.value) none) "sql" "table" =
      ((tableOptionWrites.reverse.find? fun write => write.plugin = "sql" ∧ write.key = "table").map
        (·.value)).getD (getOption none "sql" "table") ∧
    ((∀ write ∈ tableOptionWrites, ∀ typeName, write.value ≠ .other typeName) →
      ∃ value, getOptionString (tableOptionWrites.foldl (fun options write =>
        setOption options write.plugin write.key write.value) none) "sql" "table" = .ok value) :=
  ⟨by simp [tableOptionWrites], getOption_after_writes none tableOptionWrites "sql" "table"⟩

example : getOption (tableOptionWrites.foldl (fun options write =>
    setOption options write.plugin write.key write.value) none) "sql" "table" =
      .string "accounts" := by decide

example : getOptionString (setOption (setOption none "sql" "table" (.string "users")) "sql" "limit"
    (.other "int")) "sql" "limit" = .error "interface conversion: interface \x7b\x7d is int, not string" :=
  rfl

end BeeOrm
