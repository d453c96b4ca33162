import Mathlib.Data.List.Basic
import Mathlib.Algebra.Group.Int

/-! The functions of Go's `strings` package that the modelled code calls, on the
characters of a string. Every separator the code passes to `strings.Split` is one
character, and every `strings.Replace` call replaces one occurrence, so only
those forms are modelled. `strings.ToLower` and `strings.ToUpper` are modelled on
ASCII letters only, where Go maps every Unicode letter: on a query holding a
non-ASCII capital, such as `Ünits`, the model keeps the capital that Go lowers,
so where Go counts `Ünits` and `ünits` as one table the model counts two. -/

namespace BeeOrm

/-- The value an index out of range panics with. -/
def indexOutOfRange (index length : Nat) : String :=
  s!"runtime error: index out of range [{index}] with length {length}"

/-- The value `s[low:]` panics with when `low` exceeds the length `high`. -/
def sliceOutOfRange (low high : Nat) : String :=
  s!"runtime error: slice bounds out of range [{low}:{high}]"

namespace Strings

/-- `strings.Split(s, sep)` for a one-character separator, on characters. -/
def splitOn (sep : Char) : List Char → List (List Char)
  | [] => [[]]
  | c :: rest =>
      if c = sep then [] :: splitOn sep rest
      else match splitOn sep rest with
        | [] => [[c]]
        | first :: others => (c :: first) :: others

/-- `strings.Split(s, sep)` for a one-character separator. -/
def split (s : String) (sep : Char) : List String :=
  (splitOn sep s.data).map String.mk

example : split "a:b::c" ':' = ["a", "b", "", "c"] := by decide
example : split "" ';' = [""] := by decide

/-- The position of the first occurrence of `pattern`, on characters. -/
def indexOf (pattern : List Char) : List Char → Option Nat
  | [] => if pattern = [] then some 0 else none
  | c :: rest =>
      if pattern.isPrefixOf (c :: rest) then some 0
      else (indexOf pattern rest).map (· + 1)

/-- `strings.Index(s, substr)`: the first position of `substr`, or `-1`. -/
def index (s substr : String) : Int :=
  match indexOf substr.data s.data with
  | some position => position
  | none => -1

example : index "a :Name = ?" ":Name" = 2 := by decide
example : index "abc" ":x" = -1 := by decide

/-- `strings.Replace(s, old, new, 1)` for a non-empty `old`, on characters. -/
def replaceFirst (old new : List Char) : List Char → List Char
  | [] => []
  | c :: rest =>
      if old.isPrefixOf (c :: rest) then new ++ (c :: rest).drop old.length
      else c :: replaceFirst old new rest

/-- `strings.Replace(s, old, new, 1)`. -/
def replace (s old new : String) : String :=
  ⟨replaceFirst old.data new.data s.data⟩

example : replace ":A = :A" ":A" "`A`" = "`A` = :A" := by decide

/-- `strings.ToLower(s)` on ASCII letters; Go also lowers the other Unicode letters. -/
def toLower (s : String) : String := ⟨s.data.map Char.toLower⟩

/-- `strings.Trim(s, cutset)`: `s` without the leading and trailing characters
that are in `cutset`. -/
def trim (s cutset : String) : String :=
  ⟨((s.data.dropWhile (· ∈ cutset.data)).reverse.dropWhile (· ∈ cutset.data)).reverse⟩

example : trim "`users`" "`'" = "users" := by decide

theorem dropWhile_of_head {p : Char → Bool} :
    ∀ {l : List Char}, (∀ c ∈ l.head?, p c = false) → l.dropWhile p = l
  | [], _ => rfl
  | c :: _, head => List.dropWhile_cons_of_neg (by simpa using head c rfl)

/-- `strings.Trim` takes off the cutset characters put around a string that has
none of them. -/
theorem trim_wrapped {cutset : String} {quote name : List Char}
    (quotes : ∀ c ∈ quote, c ∈ cutset.data) (plain : ∀ c ∈ name, c ∉ cutset.data) :
    trim ⟨quote ++ name ++ quote⟩ cutset = ⟨name⟩ := by
  have cut : ∀ c ∈ quote, decide (c ∈ cutset.data) = true := fun c member => by
    simpa using quotes c member
  show String.mk ((((quote ++ name ++ quote).dropWhile (· ∈ cutset.data)).reverse.dropWhile
    (· ∈ cutset.data)).reverse) = String.mk name
  congr 1
  rw [List.append_assoc, List.dropWhile_append_of_pos cut]
  cases name with
  | nil =>
      rw [List.nil_append, List.dropWhile_eq_nil_iff.2 cut]
      rfl
  | cons c rest =>
      have kept : ∀ d ∈ (c :: rest).reverse.head?, decide (d ∈ cutset.data) = false :=
        fun d found => by
          simpa using plain d (List.mem_reverse.1 (List.mem_of_mem_head? found))
      have first : ¬decide (c ∈ cutset.data) = true := by
        simpa using plain c (List.mem_cons_self _ _)
      rw [List.cons_append, List.dropWhile_cons_of_neg (p := fun x => decide (x ∈ cutset.data)) first,
        ← List.cons_append,
        List.reverse_append, List.dropWhile_append_of_pos (by simpa using cut),
        dropWhile_of_head kept, List.reverse_reverse]

/-- `strings.TrimRight(s, cutset)`: `s` without the trailing characters that are
in `cutset`. -/
def trimRight (s cutset : String) : String :=
  ⟨(s.data.reverse.dropWhile (· ∈ cutset.data)).reverse⟩

/-- `unicode.IsSpace`: the Latin-1 spaces and the other characters of Unicode's
`White_Space` property. -/
def isSpace (c : Char) : Bool :=
  c ∈ ['\t', '\n', '\x0b', '\x0c', '\r', ' ', '\u0085', '\u00a0', '\u1680', '\u2028', '\u2029',
    '\u202f', '\u205f', '\u3000'] || ('\u2000' ≤ c && c ≤ '\u200a')

/-- `strings.TrimSpace(s)`. -/
def trimSpace (s : String) : String :=
  ⟨((s.data.dropWhile isSpace).reverse.dropWhile isSpace).reverse⟩

example : trimSpace (trimRight "  CONSTRAINT `a` ON DELETE CASCADE,,\r" ",") =
    "CONSTRAINT `a` ON DELETE CASCADE,," := by decide

/-- `strings.ToUpper(s)` on ASCII letters; Go also raises the other Unicode letters. -/
def toUpper (s : String) : String := ⟨s.data.map Char.toUpper⟩

@[simp] theorem length_splitOn_pos (sep : Char) (s : List Char) :
    0 < (splitOn sep s).length := by
  cases s with
  | nil => simp [splitOn]
  | cons c rest =>
      simp only [splitOn]
      split
      · simp
      · split <;> simp

/-- The model of `strings.Split` is the library's `List.splitOn`. -/
theorem splitOn_eq (sep : Char) : ∀ s : List Char, splitOn sep s = s.splitOn sep
  | [] => rfl
  | c :: rest => by
      rw [splitOn, splitOn_eq sep rest]
      simp only [List.splitOn, List.splitOnP_cons, beq_iff_eq]
      split
      · rfl
      · split
        next empty => exact absurd empty (List.splitOnP_ne_nil _ _)
        next first others split => rw [split]; rfl

/-- A string split at its first separator: the part before it, then the split
of the rest. -/
theorem splitOn_append_cons {sep : Char} {s : List Char} (free : sep ∉ s) (t : List Char) :
    splitOn sep (s ++ sep :: t) = s :: splitOn sep t := by
  rw [splitOn_eq, splitOn_eq]
  exact List.splitOnP_first (· == sep) s (fun c member same => free (eq_of_beq same ▸ member)) sep
    (beq_self_eq_true _) t

/-- A string without the separator is one piece. -/
theorem splitOn_of_not_mem {sep : Char} {s : List Char} (free : sep ∉ s) :
    splitOn sep s = [s] := by
  rw [splitOn_eq]
  exact List.splitOnP_eq_single (· == sep) s fun c member same => free (eq_of_beq same ▸ member)

/-- Every piece `strings.Split` returns is made of characters of the string
other than the separator. -/
theorem mem_of_mem_splitOn {sep : Char} :
    ∀ {s piece : List Char}, piece ∈ splitOn sep s → ∀ c ∈ piece, c ≠ sep ∧ c ∈ s
  | [], piece, member, c, inPiece => by
      simp only [splitOn, List.mem_singleton] at member
      simp [member] at inPiece
  | d :: rest, piece, member, c, inPiece => by
      simp only [splitOn] at member
      split at member
      · rcases List.mem_cons.1 member with rfl | member
        · cases inPiece
        · exact (mem_of_mem_splitOn member c inPiece).imp_right (List.mem_cons_of_mem d)
      · rename_i other
        split at member
        · rw [List.mem_singleton.1 member, List.mem_singleton] at inPiece
          subst inPiece
          exact ⟨other, List.mem_cons_self _ _⟩
        · rename_i first others split
          rcases List.mem_cons.1 member with rfl | member
          · rcases List.mem_cons.1 inPiece with rfl | inFirst
            · exact ⟨other, List.mem_cons_self _ _⟩
            · exact (mem_of_mem_splitOn (split ▸ List.mem_cons_self _ _) c inFirst).imp_right
                (List.mem_cons_of_mem d)
          · exact (mem_of_mem_splitOn (split ▸ List.mem_cons_of_mem _ member) c inPiece).imp_right
              (List.mem_cons_of_mem d)

end Strings

namespace Strconv

/-- The value of a non-empty run of decimal digits. -/
def digitsValue : List Char → Option Nat
  | [] => none
  | digits =>
      if digits.all Char.isDigit then
        some (digits.foldl (fun value c => 10 * value + (c.toNat - '0'.toNat)) 0)
      else none

/-- `strconv.ParseInt(s, 10, 64)` and `strconv.Atoi(s)` with the error
discarded, as the modelled code does: `0` on a syntax error, the nearest `int64`
bound on a range error. -/
def parseInt (s : String) : Int :=
  let (negative, digits) := match s.data with
    | '-' :: rest => (true, rest)
    | '+' :: rest => (false, rest)
    | chars => (false, chars)
  match digitsValue digits with
  | none => 0
  | some value => if negative then max (-(value : Int)) (-2 ^ 63) else min value (2 ^ 63 - 1)

example : parseInt "12" = 12 ∧ parseInt "-3" = -3 ∧ parseInt "x" = 0 ∧ parseInt "" = 0 := by
  decide

theorem digitChar_digit : ∀ d < 10,
    (Nat.digitChar d).isDigit = true ∧ (Nat.digitChar d).toNat - '0'.toNat = d := by
  decide

/-- The decimal digits `strconv.FormatUint(n, 10)` writes in front of `ds`: a
non-empty run of digits whose value is `n`. -/
theorem toDigitsCore_ten : ∀ (fuel n : Nat) (ds : List Char), n < fuel →
    ∃ digits, digits ≠ [] ∧ digits.all Char.isDigit = true ∧
      digits.foldl (fun value c => 10 * value + (c.toNat - '0'.toNat)) 0 = n ∧
      Nat.toDigitsCore 10 fuel n ds = digits ++ ds
  | 0, _, _, below => absurd below (Nat.not_lt_zero _)
  | fuel + 1, n, ds, below => by
      obtain ⟨isDigit, value⟩ := digitChar_digit (n % 10) (Nat.mod_lt _ (by decide))
      have step : Nat.toDigitsCore 10 (fuel + 1) n ds =
          if n / 10 = 0 then Nat.digitChar (n % 10) :: ds
          else Nat.toDigitsCore 10 fuel (n / 10) (Nat.digitChar (n % 10) :: ds) := rfl
      rw [step]
      split
      next last =>
        refine ⟨[Nat.digitChar (n % 10)], List.cons_ne_nil _ _, by simp [isDigit], ?_, rfl⟩
        simp only [List.foldl_cons, List.foldl_nil, value]
        omega
      next more =>
        obtain ⟨digits, -, allDigits, digitsValue, built⟩ :=
          toDigitsCore_ten fuel (n / 10) (Nat.digitChar (n % 10) :: ds) (by omega)
        refine ⟨digits ++ [Nat.digitChar (n % 10)], by simp, by simp [allDigits, isDigit], ?_,
          by rw [built]; simp⟩
        rw [List.foldl_append, digitsValue, List.foldl_cons, List.foldl_nil, value]
        omega

/-- What `strconv.FormatUint(n, 10)` writes reads back as `n`. -/
theorem digitsValue_toDigits (n : Nat) : digitsValue (Nat.toDigits 10 n) = some n := by
  obtain ⟨digits, nonempty, allDigits, value, built⟩ := toDigitsCore_ten (n + 1) n [] (by omega)
  show digitsValue (Nat.toDigitsCore 10 (n + 1) n []) = some n
  rw [built, List.append_nil]
  cases digits with
  | nil => exact absurd rfl nonempty
  | cons c rest => simp only [digitsValue, allDigits, if_true, value]

/-- Distinct numbers are written differently. -/
theorem toString_injective {a b : Nat} (same : toString a = toString b) : a = b := by
  have read : digitsValue (Nat.toDigits 10 a) = digitsValue (Nat.toDigits 10 b) :=
    congrArg (fun s : String => digitsValue s.data) same
  rw [digitsValue_toDigits, digitsValue_toDigits] at read
  exact Option.some.inj read

/-- A number is written with digits only. -/
theorem isDigit_of_mem_toString {n : Nat} {c : Char} (member : c ∈ (toString n).data) :
    c.isDigit = true := by
  obtain ⟨digits, -, allDigits, -, built⟩ := toDigitsCore_ten (n + 1) n [] (by omega)
  have written : (toString n).data = digits := by
    show Nat.toDigitsCore 10 (n + 1) n [] = digits
    rw [built, List.append_nil]
  rw [written] at member
  exact List.all_eq_true.1 allDigits c member

end Strconv

end BeeOrm
