import BeeOrm.Foundation.GoStrings

/-! The reading of a cached query's SQL that the theorems about its filter are
stated over: the condition `SELECT … WHERE <query>` hands MySQL, read up to
`ORDER BY` with MySQL's operator precedence (`OR` below `AND` below `NOT` below
comparison), the parameters `?` numbered from the left, and its value on a
row. Only the grammar of a cached-query condition is read: comparisons of
columns, parameters and numbers, a number alone, `AND`, `OR`, `NOT` and
parentheses. -/

namespace BeeOrm.Sql

/-- A token of a query. -/
inductive Token where
  | column (name : String)
  | param (index : Nat)
  | number (value : Nat)
  | symbol (text : String)
  | and
  | or
  | not
  | lparen
  | rparen
  | word (text : String)
  | other (c : Char)
deriving DecidableEq, Repr

/-- What the lexer is inside of. -/
inductive LexState where
  | start
  | quoted (name : List Char)
  | word (text : List Char)
  | symbol (text : List Char)
deriving DecidableEq, Repr

def isWordChar (c : Char) : Bool := c.isAlphanum || c = '_'

def isSymbolChar (c : Char) : Bool := c = '=' || c = '<' || c = '>' || c = '!'

/-- A run of word characters: a keyword, a number, or another word, in lower case. -/
def wordToken (text : List Char) : Token :=
  match Strings.toLower (String.mk text) with
  | "and" => .and
  | "or" => .or
  | "not" => .not
  | lower =>
      match Strconv.digitsValue text with
      | some value => .number value
      | none => .word lower

/-- A character read between tokens: the tokens it makes, the state it opens,
and the number of parameters read after it. -/
def begin (params : Nat) (c : Char) : List Token × LexState × Nat :=
  if c = '`' then ([], .quoted [], params)
  else if isWordChar c then ([], .word [c], params)
  else if isSymbolChar c then ([], .symbol [c], params)
  else if c = '(' then ([.lparen], .start, params)
  else if c = ')' then ([.rparen], .start, params)
  else if c = '?' then ([.param params], .start, params + 1)
  else if c.isWhitespace then ([], .start, params)
  else ([.other c], .start, params)

/-- The token a state holds when the input ends; an open quote is an error. -/
def LexState.flush : LexState → List Token
  | .start => []
  | .quoted _ => [.other '`']
  | .word text => [wordToken text]
  | .symbol text => [.symbol (String.mk text)]

/-- The tokens of the rest of a query, `params` parameters having been read. -/
def lexFrom (params : Nat) : LexState → List Char → List Token
  | state, [] => state.flush
  | .start, c :: rest =>
      let started := begin params c
      started.1 ++ lexFrom started.2.2 started.2.1 rest
  | .quoted name, c :: rest =>
      if c = '`' then .column (String.mk name) :: lexFrom params .start rest
      else lexFrom params (.quoted (name ++ [c])) rest
  | .word text, c :: rest =>
      if isWordChar c then lexFrom params (.word (text ++ [c])) rest
      else
        let started := begin params c
        wordToken text :: started.1 ++ lexFrom started.2.2 started.2.1 rest
  | .symbol text, c :: rest =>
      if isSymbolChar c then lexFrom params (.symbol (text ++ [c])) rest
      else
        let started := begin params c
        .symbol (String.mk text) :: started.1 ++ lexFrom started.2.2 started.2.1 rest

def lex (query : String) : List Token := lexFrom 0 .start query.data

example : lex "`A` >= ? AND (NOT `B`=? or 1)" =
    [.column "A", .symbol ">=", .param 0, .and, .lparen, .not, .column "B", .symbol "=",
      .param 1, .or, .number 1, .rparen] := by decide

/-- An operand of a comparison. -/
inductive Operand where
  | column (name : String)
  | param (index : Nat)
  | number (value : Nat)
deriving DecidableEq, Repr

/-- A condition as SQL groups it; `paren` keeps the parentheses written. -/
inductive Condition where
  | literal (value : Nat)
  | compare (left : Operand) (op : String) (right : Operand)
  | and (left right : Condition)
  | or (left right : Condition)
  | not (operand : Condition)
  | paren (inner : Condition)
deriving DecidableEq, Repr

/-- The value of an operand on a row, with the arguments bound to the parameters. -/
def Operand.value (row : String → Int) (args : Nat → Int) : Operand → Int
  | .column name => row name
  | .param index => args index
  | .number value => value

def compareBy (op : String) (x y : Int) : Bool :=
  match op with
  | "=" => x == y
  | "<>" | "!=" => x != y
  | "<" => decide (x < y)
  | "<=" => decide (x ≤ y)
  | ">" => decide (y < x)
  | ">=" => decide (y ≤ x)
  | _ => false

/-- Whether a row satisfies a condition. -/
def Condition.eval (row : String → Int) (args : Nat → Int) : Condition → Bool
  | .literal value => value != 0
  | .compare left op right => compareBy op (left.value row args) (right.value row args)
  | .and left right => left.eval row args && right.eval row args
  | .or left right => left.eval row args || right.eval row args
  | .not operand => !operand.eval row args
  | .paren inner => inner.eval row args

/-! ## Parsing -/

def depthStep (depth : Int) : Token → Int
  | .lparen => depth + 1
  | .rparen => depth - 1
  | _ => depth

/-- The tokens before and after the last `separator` at parenthesis depth zero,
`depth` being the depth before `tokens`. -/
def splitLast (separator : Token) : Int → List Token → Option (List Token × List Token)
  | _, [] => none
  | depth, token :: rest =>
      match splitLast separator (depthStep depth token) rest with
      | some (left, right) => some (token :: left, right)
      | none => if depth = 0 ∧ token = separator then some ([], rest) else none

def parseOperand : Token → Option Operand
  | .column name => some (.column name)
  | .param index => some (.param index)
  | .number value => some (.number value)
  | _ => none

/-- One level of the grammar, `sub` reading the parts: split at the last `OR`
at depth zero, else at the last `AND`, else read `NOT`, parentheses, a number
or a comparison. Splitting at the last separator groups `OR` and `AND` chains
to the left. -/
def parseWith (sub : List Token → Option Condition) (tokens : List Token) : Option Condition :=
  match splitLast .or 0 tokens with
  | some (left, right) => do return .or (← sub left) (← sub right)
  | none =>
      match splitLast .and 0 tokens with
      | some (left, right) => do return .and (← sub left) (← sub right)
      | none =>
          match tokens with
          | .not :: rest => .not <$> sub rest
          | .lparen :: rest =>
              if rest.getLast? = some .rparen then .paren <$> sub rest.dropLast else none
          | [.number value] => some (.literal value)
          | [left, .symbol op, right] => do
              return .compare (← parseOperand left) op (← parseOperand right)
          | _ => none

/-- A condition read with `fuel` levels of nesting. -/
def parse : Nat → List Token → Option Condition
  | 0, _ => none
  | fuel + 1, tokens => parseWith (parse fuel) tokens

/-- The tokens of the condition: those before `ORDER`. -/
def conditionTokens (query : String) : List Token :=
  (lex query).takeWhile (· != .word "order")

/-- The condition a query selects its rows by. -/
def readCondition (query : String) : Option Condition :=
  parse ((conditionTokens query).length + 1) (conditionTokens query)

example : readCondition "NOT `A` = ? OR `B` < 3 AND (`C` > ?) ORDER BY `A`" =
    some (.or (.not (.compare (.column "A") "=" (.param 0)))
      (.and (.compare (.column "B") "<" (.number 3))
        (.paren (.compare (.column "C") ">" (.param 1))))) := by decide

/-! ## Splitting at a separator -/

theorem splitLast_append (separator : Token) (depth : Int) (front back : List Token) :
    splitLast separator depth (front ++ back) =
      match splitLast separator (front.foldl depthStep depth) back with
      | some (left, right) => some (front ++ left, right)
      | none => (splitLast separator depth front).map fun split => (split.1, split.2 ++ back) := by
  induction front generalizing depth with
  | nil =>
      simp only [List.nil_append, List.foldl_nil]
      cases splitLast separator depth back <;> rfl
  | cons token rest induction =>
      rw [List.cons_append, splitLast, induction, List.foldl_cons, splitLast]
      cases splitLast separator (rest.foldl depthStep (depthStep depth token)) back with
      | some split => rfl
      | none =>
          cases splitLast separator (depthStep depth token) rest with
          | some split => rfl
          | none => simp only [Option.map_none']; split <;> rfl

/-- The separator a split is made at stands between its two sides. -/
theorem eq_of_splitLast {separator : Token} {depth : Int} {tokens left right : List Token}
    (split : splitLast separator depth tokens = some (left, right)) :
    tokens = left ++ separator :: right := by
  induction tokens generalizing depth left right with
  | nil => cases split
  | cons token rest induction =>
      simp only [splitLast] at split
      split at split
      next inner => cases split; simp [induction inner]
      next => split at split <;> simp_all

/-- The left side of a split has no `other` separator at depth zero that the
whole has none of. -/
theorem splitLast_left_eq_none {separator other : Token} {tokens left right : List Token}
    (split : splitLast separator 0 tokens = some (left, right))
    (noOther : splitLast other 0 tokens = none) : splitLast other 0 left = none := by
  rw [eq_of_splitLast split, splitLast_append] at noOther
  split at noOther
  · cases noOther
  · simpa using noOther

/-! ## The grammar at a separator -/

theorem parseWith_of_or {sub : List Token → Option Condition} {tokens left right : List Token}
    (found : splitLast .or 0 tokens = some (left, right)) :
    parseWith sub tokens = (sub left).bind fun l => (sub right).bind fun r => some (.or l r) := by
  unfold parseWith
  rw [found]
  rfl

theorem parseWith_of_and {sub : List Token → Option Condition} {tokens left right : List Token}
    (noOr : splitLast .or 0 tokens = none) (found : splitLast .and 0 tokens = some (left, right)) :
    parseWith sub tokens = (sub left).bind fun l => (sub right).bind fun r => some (.and l r) := by
  unfold parseWith
  rw [noOr, found]
  rfl

/-! ## Fuel -/

/-- A level of the grammar reads at least what its parts read. -/
theorem parseWith_mono {sub sub' : List Token → Option Condition}
    (more : ∀ tokens condition, sub tokens = some condition → sub' tokens = some condition)
    {tokens : List Token} {condition : Condition} (parsed : parseWith sub tokens = some condition) :
    parseWith sub' tokens = some condition := by
  have both : ∀ {left right : List Token} {f : Condition → Condition → Condition},
      ((sub left).bind fun l => (sub right).bind fun r => some (f l r)) = some condition →
      ((sub' left).bind fun l => (sub' right).bind fun r => some (f l r)) = some condition := by
    intro left right f parsed
    simp only [Option.bind_eq_some] at parsed ⊢
    obtain ⟨l, leftParsed, r, rightParsed, same⟩ := parsed
    exact ⟨l, more _ _ leftParsed, r, more _ _ rightParsed, same⟩
  have one : ∀ {inner : List Token} {f : Condition → Condition},
      f <$> sub inner = some condition → f <$> sub' inner = some condition := by
    intro inner f parsed
    simp only [Option.map_eq_map, Option.map_eq_some'] at parsed ⊢
    obtain ⟨c, innerParsed, rfl⟩ := parsed
    exact ⟨c, more _ _ innerParsed, rfl⟩
  revert parsed
  unfold parseWith
  split
  · exact both
  · split
    · exact both
    · split
      · exact one
      · split
        · exact one
        · exact id
      all_goals exact id

theorem parse_succ_of_parse {fuel : Nat} {tokens : List Token} {condition : Condition}
    (parsed : parse fuel tokens = some condition) : parse (fuel + 1) tokens = some condition := by
  induction fuel generalizing tokens condition with
  | zero => cases parsed
  | succ fuel induction => exact parseWith_mono (fun _ _ => induction) parsed

theorem parse_of_le {fuel more : Nat} {tokens : List Token} {condition : Condition}
    (parsed : parse fuel tokens = some condition) (enough : fuel ≤ more) :
    parse more tokens = some condition := by
  induction enough with
  | refl => exact parsed
  | step _ induction => exact parse_succ_of_parse induction

/-- A condition with no `OR` at depth zero is not a disjunction. -/
theorem parse_ne_or {fuel : Nat} {tokens : List Token} {condition : Condition}
    (noOr : splitLast .or 0 tokens = none) (parsed : parse fuel tokens = some condition) :
    ∀ left right, condition ≠ .or left right := by
  rintro left right rfl
  cases fuel with
  | zero => cases parsed
  | succ fuel =>
      rw [parse] at parsed
      unfold parseWith at parsed
      simp only [noOr] at parsed
      split at parsed
      · simp [Option.bind_eq_some] at parsed
      · split at parsed
        all_goals simp_all [Option.bind_eq_some]

end BeeOrm.Sql
