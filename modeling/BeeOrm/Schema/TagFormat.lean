import BeeOrm.Schema.Tags

/-! The format of an `orm` struct tag as `extractTag` reads it: arguments
separated by `;`, each `key=value` or a bare `key`. A map of attributes written
in that form is read back as itself when it has entries, distinct keys and no
separator in a key or a value; and every map `parseOrmTag` returns is of that
kind, so writing back what it read and reading again changes nothing. -/

namespace BeeOrm

/-- The `orm` tag text of a map of attributes: `key=value` for each entry, in
order, separated by `;`. -/
def renderOrmTag (attributes : FieldTags) : String :=
  String.mk ([';'].intercalate (attributes.map fun entry => entry.1.data ++ '=' :: entry.2.data))

/-- A map of attributes the tag format carries: some entries, distinct keys, and
no separator in a key or a value. -/
structure Renderable (attributes : FieldTags) : Prop where
  nonempty : attributes ≠ []
  distinct : (GoMap.keys attributes).Nodup
  plain : ∀ entry ∈ attributes, ';' ∉ entry.1.data ∧ '=' ∉ entry.1.data ∧
    ';' ∉ entry.2.data ∧ '=' ∉ entry.2.data

/-- The body of the loop of `parseOrmTag` over the arguments. -/
def parseArgument (attributes : FieldTags) (arg : String) : FieldTags :=
  match Strings.split arg '=' with
  | key :: value :: _ => GoMap.set attributes key value
  | key :: [] => GoMap.set attributes key "true"
  | [] => attributes

theorem parseOrmTag_eq (tag : String) :
    parseOrmTag tag = (Strings.split tag ';').foldl parseArgument [] := rfl

/-! ## Reading back a rendered map -/

/-- The arguments of a rendered map are its entries, each written `key=value`. -/
theorem split_renderOrmTag {attributes : FieldTags} (nonempty : attributes ≠ [])
    (noSemicolon : ∀ entry ∈ attributes, ';' ∉ entry.1.data ∧ ';' ∉ entry.2.data) :
    Strings.split (renderOrmTag attributes) ';' =
      attributes.map fun entry => String.mk (entry.1.data ++ '=' :: entry.2.data) := by
  have pieces : ∀ piece ∈ attributes.map (fun entry => entry.1.data ++ '=' :: entry.2.data),
      ';' ∉ piece := by
    simp only [List.mem_map]
    rintro _ ⟨entry, member, rfl⟩
    simpa using noSemicolon entry member
  rw [Strings.split, renderOrmTag, Strings.splitOn_eq,
    List.splitOn_intercalate _ ';' pieces (by simpa using nonempty), List.map_map]
  rfl

/-- An argument `key=value` with no `=` in the key or the value splits into the two. -/
theorem split_argument {key value : String} (plainKey : '=' ∉ key.data)
    (plainValue : '=' ∉ value.data) :
    Strings.split (String.mk (key.data ++ '=' :: value.data)) '=' = [key, value] := by
  show (Strings.splitOn '=' (key.data ++ '=' :: value.data)).map String.mk = _
  rw [Strings.splitOn_append_cons plainKey, Strings.splitOn_of_not_mem plainValue]
  rfl

/-- Assigning entries with distinct keys, none of them present, appends them. -/
theorem foldl_set_of_nodup (entries : List (String × String)) :
    ∀ m : FieldTags, (GoMap.keys (m ++ entries)).Nodup →
      entries.foldl (fun m entry => GoMap.set m entry.1 entry.2) m = m ++ entries := by
  induction entries with
  | nil => simp
  | cons entry rest induction =>
      intro m distinct
      have fresh : entry.1 ∉ GoMap.keys m := by
        simp only [GoMap.keys, List.map_append, List.map_cons] at distinct
        exact fun member => (List.nodup_append.1 distinct).2.2 member (List.mem_cons_self _ _)
      rw [List.foldl_cons, GoMap.set_of_not_mem _ _ fresh, induction _ (by simpa using distinct)]
      simp

theorem parseOrmTag_renderOrmTag_eq_self {attributes : FieldTags}
    (renderable : Renderable attributes) :
    parseOrmTag (renderOrmTag attributes) = attributes := by
  have arguments : ∀ m : FieldTags, ∀ entries ⊆ attributes,
      (entries.map fun entry => String.mk (entry.1.data ++ '=' :: entry.2.data)).foldl
        parseArgument m = entries.foldl (fun m entry => GoMap.set m entry.1 entry.2) m := by
    intro m entries within
    induction entries generalizing m with
    | nil => rfl
    | cons entry rest induction =>
        obtain ⟨-, plainKey, -, plainValue⟩ := renderable.plain entry (within (List.mem_cons_self _ _))
        rw [List.map_cons, List.foldl_cons, List.foldl_cons, parseArgument,
          split_argument plainKey plainValue]
        exact induction _ fun other member => within (List.mem_cons_of_mem _ member)
  rw [parseOrmTag_eq, split_renderOrmTag renderable.nonempty
      fun entry member => ⟨(renderable.plain entry member).1, (renderable.plain entry member).2.2.1⟩,
    arguments _ _ (List.Subset.refl _), foldl_set_of_nodup _ _ (by simpa using renderable.distinct)]
  rfl

/-- A map the format carries is read back as itself. -/
theorem parseOrmTag_renderOrmTag {attributes : FieldTags} (renderable : Renderable attributes) :
    parseOrmTag (renderOrmTag attributes) = attributes :=
  parseOrmTag_renderOrmTag_eq_self renderable

/-- The attributes of an ORM field tag written in the canonical form. -/
def usersTableAttributes : FieldTags := [("table", "users"), ("localCache", "true")]

theorem usersTableAttributes_read_back :
    Renderable usersTableAttributes ∧
      parseOrmTag (renderOrmTag usersTableAttributes) = usersTableAttributes :=
  have renderable : Renderable usersTableAttributes := ⟨by decide, by decide, by decide⟩
  ⟨renderable, parseOrmTag_renderOrmTag renderable⟩

/-! ## What `parseOrmTag` returns -/

theorem parseArgument_ne_nil (attributes : FieldTags) (arg : String) :
    parseArgument attributes arg ≠ [] := by
  unfold parseArgument
  split
  · exact List.ne_nil_of_mem (GoMap.mem_set_self _ _ _)
  · exact List.ne_nil_of_mem (GoMap.mem_set_self _ _ _)
  · rename_i empty
    exact absurd empty (List.ne_nil_of_length_pos (by simp [Strings.split]))

/-- One argument keeps the map the format's kind, for an argument free of `;`. -/
theorem parseArgument_plain {attributes : FieldTags} {arg : String}
    (plain : ∀ entry ∈ attributes, ';' ∉ entry.1.data ∧ '=' ∉ entry.1.data ∧
      ';' ∉ entry.2.data ∧ '=' ∉ entry.2.data)
    (noSemicolon : ';' ∉ arg.data) :
    ∀ entry ∈ parseArgument attributes arg, ';' ∉ entry.1.data ∧ '=' ∉ entry.1.data ∧
      ';' ∉ entry.2.data ∧ '=' ∉ entry.2.data := by
  have piece : ∀ piece ∈ Strings.split arg '=', ';' ∉ piece.data ∧ '=' ∉ piece.data := by
    simp only [Strings.split, List.mem_map]
    rintro _ ⟨piece, member, rfl⟩
    exact ⟨fun inPiece => noSemicolon (Strings.mem_of_mem_splitOn member _ inPiece).2,
      fun inPiece => (Strings.mem_of_mem_splitOn member _ inPiece).1 rfl⟩
  intro entry member
  unfold parseArgument at member
  split at member
  next key value _ pieces =>
    rcases GoMap.mem_of_mem_set member with member | rfl
    · exact plain entry member
    · simp only [pieces, List.mem_cons] at piece
      exact ⟨(piece key (.inl rfl)).1, (piece key (.inl rfl)).2,
        (piece value (.inr (.inl rfl))).1, (piece value (.inr (.inl rfl))).2⟩
  next key pieces =>
    rcases GoMap.mem_of_mem_set member with member | rfl
    · exact plain entry member
    · simp only [pieces, List.mem_singleton] at piece
      exact ⟨(piece key rfl).1, (piece key rfl).2, show ';' ∉ "true".data by decide,
        show '=' ∉ "true".data by decide⟩
  next => exact plain entry member

theorem nodup_keys_parseArgument {attributes : FieldTags} (distinct : (GoMap.keys attributes).Nodup)
    (arg : String) : (GoMap.keys (parseArgument attributes arg)).Nodup := by
  unfold parseArgument
  split
  · exact GoMap.nodup_keys_set distinct _ _
  · exact GoMap.nodup_keys_set distinct _ _
  · exact distinct

/-- The loop of `parseOrmTag` over arguments free of `;` keeps the map one the
format carries once it has read an argument. -/
theorem foldl_parseArgument_renderable : ∀ (args : List String) (attributes : FieldTags),
    (∀ arg ∈ args, ';' ∉ arg.data) → (GoMap.keys attributes).Nodup →
    (∀ entry ∈ attributes, ';' ∉ entry.1.data ∧ '=' ∉ entry.1.data ∧ ';' ∉ entry.2.data ∧
      '=' ∉ entry.2.data) →
    args ≠ [] ∨ attributes ≠ [] → Renderable (args.foldl parseArgument attributes)
  | [], _, _, distinct, plain, nonempty =>
      ⟨nonempty.resolve_left (by simp), distinct, plain⟩
  | arg :: rest, attributes, noSemicolon, distinct, plain, _ =>
      foldl_parseArgument_renderable rest _
        (fun other member => noSemicolon other (List.mem_cons_of_mem _ member))
        (nodup_keys_parseArgument distinct arg)
        (parseArgument_plain plain (noSemicolon arg (List.mem_cons_self _ _)))
        (.inr (parseArgument_ne_nil attributes arg))

/-- Every map `parseOrmTag` returns, from any tag text, is one the format
carries: it has entries, its keys are distinct, and no key or value holds `;`
or `=`. -/
theorem parseOrmTag_renderable (tag : String) : Renderable (parseOrmTag tag) := by
  have arguments : ∀ arg ∈ Strings.split tag ';', ';' ∉ arg.data := by
    simp only [Strings.split, List.mem_map]
    rintro _ ⟨piece, member, rfl⟩ inPiece
    exact (Strings.mem_of_mem_splitOn member _ inPiece).1 rfl
  exact foldl_parseArgument_renderable _ [] arguments List.nodup_nil (by simp)
    (.inl (List.ne_nil_of_length_pos (by simp [Strings.split])))

/-- Repeated keys, a bare key and a value cut at its second `=` are read once
and written in the canonical form. -/
example : renderOrmTag (parseOrmTag "a=1;b;a=2=3") = "a=2;b=true" := by decide

end BeeOrm
