import BeeOrm.Schema.CachedQuery
import Mathlib.Data.List.Chain
import Mathlib.Data.String.Basic

/-! The placeholder rewrite of `tableSchema.init` replaces the placeholders of a
template one at a time, each with `strings.Replace(query, variable, "`name`", 1)`,
which rewrites the first occurrence of the placeholder's text in the whole query.
It equals rewriting every maximal placeholder at once: the text before the
current match never holds a `:` followed by a name character, so the first
occurrence is the match itself. -/

namespace BeeOrm

/-- A placeholder's name in backquotes, or the lone `:` a scan in a placeholder
state has read when no name character follows. -/
def closePlaceholder (name : List Char) : List Char :=
  if name = [] then [':'] else '`' :: name ++ ['`']

/-- Every maximal placeholder of a text replaced at once by its name in
backquotes, in one pass with the scan states of `findPlaceholders`. -/
def rewriteAll : Option (List Char) → List Char → List Char
  | none, [] => []
  | some name, [] => closePlaceholder name
  | none, c :: rest => if c = ':' then rewriteAll (some []) rest else c :: rewriteAll none rest
  | some name, c :: rest =>
      if isPlaceholderChar c then rewriteAll (some (name ++ [c])) rest
      else closePlaceholder name ++
        if c = ':' then rewriteAll (some []) rest else c :: rewriteAll none rest

example : rewriteAll none ":a:ab = ?, ::c".data = "`a``ab` = ?, :`c`".data := by decide

/-- One round of the rewrite loop on the characters of the query. -/
def rewriteFirst (text placeholder : List Char) : List Char :=
  Strings.replaceFirst placeholder ('`' :: placeholder.drop 1 ++ ['`']) text

/-- No `:` of a text is directly followed by a character of a placeholder name:
no placeholder starts in it. -/
def PlaceholderFree (text : List Char) : Prop :=
  text.Chain' fun c d => c = ':' → isPlaceholderChar d = false

/-! ## The first occurrence -/

/-- A placeholder does not occur in a text where no placeholder starts, nor
across its end when the next character is not a name character. -/
theorem replaceFirst_append_of_free {name : List Char}
    (named : ∀ c ∈ name.head?, isPlaceholderChar c = true) (nonempty : name ≠ []) (new : List Char) :
    ∀ {text : List Char} (rest : List Char), PlaceholderFree (text ++ rest.take 1) →
      Strings.replaceFirst (':' :: name) new (text ++ rest) =
        text ++ Strings.replaceFirst (':' :: name) new rest
  | [], _, _ => rfl
  | c :: text, rest, free => by
      obtain ⟨first, more, rfl⟩ := List.exists_cons_of_ne_nil nonempty
      have firstNamed := named first rfl
      have step : ∀ d ∈ (text ++ rest).head?, c = ':' → isPlaceholderChar d = false := by
        simpa [List.head?_append, List.head?_take] using (List.chain'_cons'.1 free).1
      have absent : ((':' :: first :: more).isPrefixOf (c :: (text ++ rest))) = false := by
        cases after : text ++ rest with
        | nil => simp [List.isPrefixOf]
        | cons d _ =>
            rw [after] at step
            by_cases colon : c = ':'
            · have : d ≠ first := fun same => by simp_all
              simp [List.isPrefixOf, colon, Ne.symm this]
            · simp [List.isPrefixOf, Ne.symm colon]
      rw [List.cons_append, Strings.replaceFirst, absent, if_neg Bool.false_ne_true,
        replaceFirst_append_of_free named nonempty new rest free.tail, List.cons_append]

/-- A placeholder at the front of a text is the occurrence replaced. -/
theorem replaceFirst_front {old : List Char} (nonempty : old ≠ []) (new rest : List Char) :
    Strings.replaceFirst old new (old ++ rest) = new ++ rest := by
  obtain ⟨first, more, rfl⟩ := List.exists_cons_of_ne_nil nonempty
  rw [List.cons_append, Strings.replaceFirst, ← List.cons_append,
    if_pos (List.isPrefixOf_iff_prefix.2 (List.prefix_append _ _)), List.drop_left]

/-! ## The loop -/

/-- The text a scan state has read and not yet passed on: the `:` and the name
characters since. -/
def pendingText : Option (List Char) → List Char
  | none => []
  | some name => ':' :: name

/-- What the rewrite loop keeps true of the text `done` it has rewritten, in a
scan state: no placeholder starts in it, nor at its end outside a placeholder,
and a pending name holds only name characters. -/
def Rewritten : Option (List Char) → List Char → Prop
  | none, done => PlaceholderFree done ∧ done.getLast? ≠ some ':'
  | some name, done => PlaceholderFree done ∧ ∀ c ∈ name, isPlaceholderChar c = true

theorem free_of_colon_not_mem : ∀ {text : List Char}, ':' ∉ text → PlaceholderFree text
  | [], _ => List.chain'_nil
  | c :: text, absent => by
      rw [List.mem_cons, not_or] at absent
      exact List.Chain'.cons' (free_of_colon_not_mem absent.2) fun _ _ colon =>
        absurd colon.symm absent.1

theorem free_append_char {done : List Char} (free : PlaceholderFree done) (c : Char)
    (fits : done.getLast? = some ':' → isPlaceholderChar c = false) :
    PlaceholderFree (done ++ [c]) :=
  List.chain'_append.2 ⟨free, List.chain'_singleton c, fun last isLast d first colon => by
    rw [List.head?_cons, Option.mem_some_iff] at first
    exact first ▸ fits (colon ▸ isLast)⟩

/-- A closed placeholder keeps the text free; it ends with `:` only when the
name was empty. -/
theorem free_append_close {done name : List Char} (free : PlaceholderFree done)
    (named : ∀ c ∈ name, isPlaceholderChar c = true) :
    PlaceholderFree (done ++ closePlaceholder name) ∧
      ((done ++ closePlaceholder name).getLast? = some ':' → name = []) := by
  unfold closePlaceholder
  split
  next empty => exact ⟨free_append_char free ':' fun _ => rfl, fun _ => empty⟩
  next =>
    have quoted : ':' ∉ '`' :: name ++ ['`'] := fun member => by
      simp only [List.cons_append, List.mem_cons, List.mem_append, List.mem_singleton] at member
      rcases member with tick | member | tick
      · exact absurd tick (by decide)
      · exact absurd (named ':' member) (by decide)
      · exact absurd tick (by decide)
    refine ⟨List.chain'_append.2 ⟨free, free_of_colon_not_mem quoted, ?_⟩, fun last => ?_⟩
    · intro _ _ d first _
      simp only [List.cons_append, List.head?_cons, Option.mem_some_iff] at first
      exact first ▸ rfl
    · simp only [← List.append_assoc, List.getLast?_concat, Option.some.injEq] at last
      exact absurd last (by decide)

/-- Leaving a placeholder state rewrites the pending placeholder in place. -/
theorem foldl_rewriteFirst_close {done name : List Char} (free : PlaceholderFree done)
    (named : ∀ c ∈ name, isPlaceholderChar c = true) (rest : List Char) :
    (if name = [] then [] else [':' :: name]).foldl rewriteFirst (done ++ (':' :: name) ++ rest) =
      done ++ closePlaceholder name ++ rest := by
  unfold closePlaceholder
  split
  next empty => simp [empty]
  next nonempty =>
    rw [List.foldl_cons, List.foldl_nil, rewriteFirst, List.append_assoc,
      replaceFirst_append_of_free (fun c member => named c (List.mem_of_mem_head? member)) nonempty
        _ _ (by simpa using free_append_char free ':' fun _ => rfl),
      replaceFirst_front (List.cons_ne_nil _ _)]
    simp

/-- The loop from any scan state: the rewritten text followed by the text still
to scan becomes the rewritten text followed by the one-pass rewrite of the rest,
and no placeholder starts in the result. -/
theorem foldl_rewriteFirst :
    ∀ (text : List Char) (state : Option (List Char)) (done : List Char), Rewritten state done →
      (findPlaceholders state text).foldl rewriteFirst (done ++ pendingText state ++ text) =
          done ++ rewriteAll state text ∧
        PlaceholderFree (done ++ rewriteAll state text)
  | [], none, done, ⟨free, _⟩ => by simpa [findPlaceholders, rewriteAll, pendingText] using free
  | [], some name, done, ⟨free, named⟩ => by
      simp only [findPlaceholders, rewriteAll, pendingText, List.append_nil]
      have closed := foldl_rewriteFirst_close free named []
      simp only [List.append_nil] at closed
      exact ⟨closed, (free_append_close free named).1⟩
  | c :: rest, none, done, ⟨free, notColon⟩ => by
      simp only [findPlaceholders, rewriteAll, pendingText, List.append_nil]
      split
      next colon =>
        subst colon
        simpa [pendingText] using foldl_rewriteFirst rest (some []) done ⟨free, by simp⟩
      next notColon' =>
        have continued := foldl_rewriteFirst rest none (done ++ [c])
          ⟨free_append_char free c fun last => absurd last notColon, by simpa using notColon'⟩
        simpa [pendingText] using continued
  | c :: rest, some name, done, ⟨free, named⟩ => by
      simp only [findPlaceholders, rewriteAll, pendingText]
      split
      next nameChar =>
        have continued := foldl_rewriteFirst rest (some (name ++ [c])) done
          ⟨free, by simpa [or_imp, forall_and] using ⟨named, nameChar⟩⟩
        simpa [pendingText] using continued
      next notNameChar =>
        rw [List.foldl_append, foldl_rewriteFirst_close free named]
        obtain ⟨closedFree, closedLast⟩ := free_append_close free named
        split
        next colon =>
          subst colon
          have continued := foldl_rewriteFirst rest (some []) (done ++ closePlaceholder name)
            ⟨closedFree, by simp⟩
          simpa [pendingText] using continued
        next notColon =>
          have continued := foldl_rewriteFirst rest none (done ++ closePlaceholder name ++ [c])
            ⟨free_append_char closedFree c fun _ => by simpa using notNameChar,
              by simpa using notColon⟩
          simpa [pendingText] using continued

/-- A text in which no placeholder starts has no placeholder matches, also
right after a `:` the scan has just read. -/
theorem findPlaceholders_of_free :
    ∀ (text : List Char) (state : Option (List Char)), state = none ∨ state = some [] →
      PlaceholderFree (pendingText state ++ text) → findPlaceholders state text = []
  | [], state, start, _ => by rcases start with rfl | rfl <;> rfl
  | c :: rest, state, start, free => by
      have next := findPlaceholders_of_free rest (if c = ':' then some [] else none)
        (by split <;> simp)
      have tailFree (free : PlaceholderFree (c :: rest)) :
          PlaceholderFree (pendingText (if c = ':' then some [] else none) ++ rest) := by
        split
        next colon => subst colon; exact free
        next => exact free.tail
      rcases start with rfl | rfl
      · exact next (tailFree free)
      · obtain ⟨notName, free⟩ := List.chain'_cons.1 free
        simp only [findPlaceholders, notName rfl, if_true, List.nil_append]
        exact next (tailFree free)

/-! ## The loop of init over strings -/

theorem rewritePlaceholder_snd_data (state : List String × String) (placeholder : String) :
    (rewritePlaceholder state placeholder).2.data = rewriteFirst state.2.data placeholder.data := by
  simp [rewritePlaceholder, Strings.replace, rewriteFirst, String.data_drop]

theorem foldl_rewritePlaceholder_snd_data (placeholders : List String)
    (state : List String × String) :
    (placeholders.foldl rewritePlaceholder state).2.data =
      (placeholders.map String.data).foldl rewriteFirst state.2.data := by
  induction placeholders generalizing state with
  | nil => rfl
  | cons placeholder rest induction =>
      rw [List.foldl_cons, induction, rewritePlaceholder_snd_data]
      rfl

/-- The placeholder loop of init rewrites a template in one pass: the
first-occurrence replacements, one per match in match order, give the text in
which every maximal placeholder is replaced by its quoted name at once, and
the result has no placeholder left. -/
theorem rewritePlaceholder_loop_eq_rewriteAll (fields : List String) (query : String) :
    ((findAllString query).foldl rewritePlaceholder (fields, query)).2 =
        ⟨rewriteAll none query.data⟩ ∧
      findAllString ((findAllString query).foldl rewritePlaceholder (fields, query)).2 = [] := by
  have placeholders : (findAllString query).map String.data = findPlaceholders none query.data := by
    simp [findAllString, Function.comp_def]
  obtain ⟨rewritten, free⟩ := foldl_rewriteFirst query.data none [] ⟨List.chain'_nil, by simp⟩
  simp only [List.nil_append, pendingText] at rewritten free
  have loop : ((findAllString query).foldl rewritePlaceholder (fields, query)).2 =
      ⟨rewriteAll none query.data⟩ :=
    String.ext (by rw [foldl_rewritePlaceholder_snd_data, placeholders, rewritten])
  refine ⟨loop, ?_⟩
  rw [loop, findAllString, findPlaceholders_of_free _ none (Or.inl rfl) free, List.map_nil]

end BeeOrm
