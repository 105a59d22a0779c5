import HttpGauge.Path.Query
import HttpGauge.Text.Blank

/-!
# Reading path expressions

The joints between queries bind to the left, the tighter the higher their level.  A bracket applies
to the whole query on its left, but not across an arithmetic operation: it belongs to the operand.
In a filter, parentheses enclose a query where they can, and conditions otherwise.
-/

namespace HttpGauge.Path

open HttpGauge.Json HttpGauge.Number HttpGauge.Text

/-! ## Joints -/

/-- What joins two queries. -/
inductive Joint where
  | arithmetic (operation : Operation)
  /-- From everything in the nodes of the first. -/
  | descend
  /-- From the nodes of the first. -/
  | child
  /-- One after the other. -/
  | union
  /-- What both have. -/
  | intersection
  /-- Those of the first that have the second. -/
  | whichHave
  deriving DecidableEq, Repr

namespace Joint

/-- How tightly a joint binds. -/
def level : Joint → Nat
  | .arithmetic .add | .arithmetic .sub => 1
  | .arithmetic .mul => 2
  | .descend => 3
  | .child => 4
  | .union => 5
  | .intersection => 6
  | .whichHave => 7

/-- The level up to which brackets are read: that of the tightest operation. -/
def bracketLevel : Nat :=
  level (.arithmetic .mul)

/-- The joint that a token stands for between two queries. -/
def ofToken? : Token → Option Joint
  | .symbol '+' => some (.arithmetic .add)
  | .symbol '-' => some (.arithmetic .sub)
  | .symbol '*' => some (.arithmetic .mul)
  | .descend => some .descend
  | .symbol '.' => some .child
  | .symbol '|' => some .union
  | .symbol '&' => some .intersection
  | .whereWord => some .whichHave
  | _ => none

/-- Two joined queries. -/
def join : Joint → Query → Query → Query
  | .arithmetic operation, first, second =>
      .arithmetic operation (Operand.ofQuery first) (Operand.ofQuery second)
  | .descend, first, second => .descendants first second
  | .child, first, second => .child first second
  | .union, first, second => .union first second
  | .intersection, first, second => .intersection first second
  | .whichHave, first, second => .whichHave first second

end Joint

/-- The operation that a token stands for. -/
def operation? (token : Token) : Option Operation :=
  match Joint.ofToken? token with
  | some (.arithmetic operation) => some operation
  | _ => none

/-- An operation comes next. -/
def startsOperation : List Token → Bool
  | token :: _ => (operation? token).isSome
  | [] => false

namespace Parser

/-! ## Parts without queries -/

/-- The tokens after what was read. -/
abbrev Rest := List Token

/-- Names between commas. -/
def names : List Token → Option (List String × Rest)
  | .name name :: .symbol ',' :: rest => do
      let more ← names rest
      return (name :: more.1, more.2)
  | .name name :: rest => some ([name], rest)
  | _ => none

/-- A bound of a range, if there is one. -/
def bound : List Token → Option Int × List Token
  | .number n :: rest => (some n, rest)
  | tokens => (none, tokens)

/-- A range of positions: two or three bounds between colons. -/
def range (tokens : List Token) : Option (Query × Rest) :=
  let start := bound tokens
  match start.2 with
  | .symbol ':' :: rest =>
      let stop := bound rest
      match stop.2 with
      | .symbol ':' :: rest =>
          let step := bound rest
          some (.slice start.1 stop.1 step.1, step.2)
      | rest => some (.slice start.1 stop.1 none, rest)
  | _ => none

/-- What brackets hold with or without a query on their left. -/
def selection : List Token → Option (Query × Rest)
  | .symbol '*' :: rest => some (.slice none none none, rest)
  | .name name :: rest => do
      let found ← names (.name name :: rest)
      return (.fields found.1, found.2)
  | .number n :: .symbol ':' :: rest => range (.number n :: .symbol ':' :: rest)
  | .number n :: rest => some (.index n, rest)
  | tokens => range tokens

/-- The value that a condition compares with. -/
def literal? : Token → Option Value
  | .name text => some (.str text)
  | .number n => some (.int n)
  | .decimal x => some (.float x)
  | .truth value => some (.bool value)
  | _ => none

/-- The digits of a number, a comma or parenthesis after it, and the text that follows. -/
def argument (close : Char) (text : List Char) : Option (Nat × List Char) :=
  let digits := Token.digits text
  match digits.2 with
  | c :: rest =>
      if c = close && !digits.1.isEmpty && digits.1.length ≤ digitLimit then
        some (ofDigits digits.1, rest)
      else none
  | [] => none

/-- What follows at least one blank. -/
def afterBlanks : List Char → Option (List Char)
  | c :: rest => if isBlank c then some (rest.dropWhile isBlank) else none
  | [] => none

/-- The arguments of a split: a character, a position and the number of cuts. -/
def pieceArguments : List Char → Option Query
  | separator :: ',' :: rest =>
      if separator = '\n' then none
      else do
        let position ← argument ',' (← afterBlanks rest)
        match ← afterBlanks position.2 with
        | '-' :: '1' :: ')' :: _ => some (.piece separator position.1 none)
        | rest => do
            let cuts ← argument ')' rest
            some (.piece separator position.1 (some cuts.1))
  | _ => none

/-- The query of a named operator; what follows its arguments is not looked at. -/
def operator? : List Char → Option Query
  | ['t', 'h', 'i', 's'] => some .this
  | ['p', 'a', 'r', 'e', 'n', 't'] => some .parent
  | ['l', 'e', 'n'] => some .size
  | ['k', 'e', 'y', 's'] => some .keys
  | ['s', 'o', 'r', 't', 'e', 'd'] => some .sorted
  | 's' :: 't' :: 'r' :: '(' :: ')' :: _ => some .text
  | 's' :: 'p' :: 'l' :: 'i' :: 't' :: '(' :: rest => pieceArguments rest
  | _ => none

/-- A number and the kind it is of. -/
def numeral? : Token → Option (Value × Bool)
  | .number n => some (.int n, false)
  | .decimal x => some (.float x, true)
  | _ => none

/-! ## Queries -/

/-- What a filter holds so far: a query that may go on, or finished conditions. -/
inductive Clause where
  | pending (target : Query)
  | settled (conditions : List (Query × Option (Comparison × Value)))

/-- The conditions of a clause: a query alone has to find something. -/
def Clause.toConditions : Clause → List (Query × Option (Comparison × Value))
  | .pending target => [(target, none)]
  | .settled conditions => conditions

/-- The given token, and then the rest. -/
def closing {α : Type} (close : Char) : Option (α × Rest) → Option (α × Rest)
  | some (result, .symbol c :: rest) => if c = close then some (result, rest) else none
  | _ => none

mutual

/-- A query whose joints bind tighter than a level, in a number of steps. -/
def query : Nat → Nat → List Token → Option (Query × Rest)
  | 0, _, _ => none
  | fuel + 1, level, tokens => do
      let first ← primary fuel tokens
      continuation fuel level first.1 first.2

/-- A query without joints of its own. -/
def primary : Nat → List Token → Option (Query × Rest)
  | 0, _ => none
  | fuel + 1, tokens =>
      match tokens with
      | .symbol '$' :: rest => some (.root, rest)
      | .symbol '@' :: rest => some (.this, rest)
      | .symbol '*' :: rest => some (.fields ["*"], rest)
      | .symbol '(' :: rest => closing ')' (query fuel 0 rest)
      | .symbol '[' :: rest => closing ']' (selection rest)
      | .operator text :: rest => (operator? text).map (·, rest)
      | .name name :: rest => (names (.name name :: rest)).map fun found =>
          (.fields found.1, found.2)
      | token :: rest => do computation fuel (← numeral? token) rest
      | [] => none

/-- An operation whose left operand is a number. -/
def computation : Nat → Value × Bool → List Token → Option (Query × Rest)
  | 0, _, _ => none
  | fuel + 1, left, tokens =>
      match tokens with
      | sign :: rest => do
          let operation ← operation? sign
          match rest with
          | [] => none
          | token :: rest =>
              match numeral? token with
              | some right =>
                  if startsOperation rest then
                    let second ← computation fuel right rest
                    some (.arithmetic operation (.constant left.1) (.found second.1), second.2)
                  else if left.2 = right.2 then
                    some (.arithmetic operation (.constant left.1) (.constant right.1), rest)
                  else none
              | none =>
                  let second ← query fuel (Joint.arithmetic operation).level (token :: rest)
                  some (.arithmetic operation (.constant left.1) (Operand.ofQuery second.1),
                    second.2)
      | [] => none

/-- Go on with a query: joints tighter than a level, and brackets up to operations. -/
def continuation : Nat → Nat → Query → List Token → Option (Query × Rest)
  | 0, _, _, _ => none
  | _ + 1, _, first, [] => some (first, [])
  | fuel + 1, level, first, token :: rest =>
      if token = .symbol '[' && level ≤ Joint.bracketLevel then do
        let second ← bracket fuel rest
        continuation fuel level (.child first second.1) second.2
      else
        match Joint.ofToken? token with
        | none => some (first, token :: rest)
        | some joint =>
            if joint.level ≤ level then some (first, token :: rest)
            else do
              let joined ← operand fuel joint first rest
              continuation fuel level joined.1 joined.2

/-- The right side of a joint. -/
def operand : Nat → Joint → Query → List Token → Option (Query × Rest)
  | 0, _, _, _ => none
  | _ + 1, _, _, [] => none
  | fuel + 1, joint, first, token :: rest =>
      match joint, numeral? token, startsOperation rest with
      | .arithmetic operation, some right, false =>
          some (.arithmetic operation (Operand.ofQuery first) (.constant right.1), rest)
      | _, _, _ => do
          let second ← query fuel joint.level (token :: rest)
          some (joint.join first second.1, second.2)

/-- What a bracket after a query holds, and the closing bracket. -/
def bracket : Nat → List Token → Option (Query × Rest)
  | 0, _ => none
  | fuel + 1, tokens =>
      match tokens with
      | .symbol '?' :: rest => closing ']' do
          let found ← clauses fuel rest
          some (.filter found.1.toConditions, found.2)
      | .sortKey descending :: rest => closing ']' do
          let found ← sortKeys fuel (.sortKey descending :: rest)
          some (.sortedBy found.1, found.2)
      | _ => closing ']' (selection tokens)

/-- The keys to sort by. -/
def sortKeys : Nat → List Token → Option (List (Query × Bool) × Rest)
  | 0, _ => none
  | fuel + 1, tokens =>
      match tokens with
      | .sortKey descending :: rest => do
          let first ← query fuel 0 rest
          match first.2 with
          | .sortKey next :: rest => do
              let more ← sortKeys fuel (.sortKey next :: rest)
              some ((first.1, descending) :: more.1, more.2)
          | rest => some ([(first.1, descending)], rest)
      | _ => none

/-- Clauses between ampersands. -/
def clauses : Nat → List Token → Option (Clause × Rest)
  | 0, _ => none
  | fuel + 1, tokens => do
      let first ← clause fuel tokens
      match first with
      | (.settled conditions, .symbol '&' :: rest) => do
          let more ← clauses fuel rest
          some (.settled (conditions ++ more.1.toConditions), more.2)
      | _ => some first

/-- A clause: conditions in parentheses, or a query that may be compared. -/
def clause : Nat → List Token → Option (Clause × Rest)
  | 0, _ => none
  | fuel + 1, tokens =>
      match tokens with
      | .symbol '(' :: rest => do
          match ← closing ')' (clauses fuel rest) with
          | (.pending first, rest) => do
              let found ← continuation fuel 0 first rest
              condition found.1 found.2
          | (.settled conditions, rest) => some (.settled conditions, rest)
      | _ => do
          let found ← query fuel 0 tokens
          condition found.1 found.2

/-- A query, with the comparison after it. -/
def condition (target : Query) : List Token → Option (Clause × Rest)
  | .comparison comparison :: token :: rest => do
      let value ← literal? token
      some (.settled [(target, some (comparison, value))], rest)
  | .comparison _ :: [] => none
  | rest => some (.pending target, rest)

end

end Parser

/-- Read a path expression. -/
def Query.read (text : List Char) : Option Query :=
  match Token.read text with
  | none => none
  | some tokens =>
      match Parser.query (4 * tokens.length + 4) 0 tokens with
      | some (query, []) => some query
      | _ => none

end HttpGauge.Path
