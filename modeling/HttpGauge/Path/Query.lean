import HttpGauge.Json.Value
import HttpGauge.Path.Token

/-!
# Path queries

What a path expression asks for, as a tree.  A query leads from a node of a document to an ordered
list of nodes; queries are joined by going on from each node that the left one finds.
-/

namespace HttpGauge.Path

open HttpGauge.Json

/-- The arithmetic operations. -/
inductive Operation where
  /-- The sum, or one after the other. -/
  | add
  | sub
  /-- The product, or a repetition. -/
  | mul
  deriving DecidableEq, Repr

mutual

/-- A query. -/
inductive Query where
  | root
  | this
  | parent
  /-- The members of these names; an asterisk among them stands for all names. -/
  | fields (names : List String)
  /-- The item at a position, counted from the end if negative. -/
  | index (position : Int)
  /-- The items of a range of positions. -/
  | slice (start stop step : Option Int)
  | size
  | keys
  /-- The items, or the keys, in rising order. -/
  | sorted
  /-- The items in the order of these keys, each rising unless marked. -/
  | sortedBy (keys : List (Query × Bool))
  | text
  /-- A piece of a string that is split at a character, into limited many cuts. -/
  | piece (separator : Char) (position : Nat) (cuts : Option Nat)
  /-- The items that meet all conditions: to find something, or something that compares so. -/
  | filter (conditions : List (Query × Option (Comparison × Value)))
  /-- The second from every node of the first. -/
  | child (first second : Query)
  /-- The second from every node of the first and from everything in it. -/
  | descendants (first second : Query)
  /-- The nodes of the first, then those of the second. -/
  | union (first second : Query)
  /-- The nodes that both have, which no document answers. -/
  | intersection (first second : Query)
  /-- The nodes of the first from which the second finds something. -/
  | whichHave (first second : Query)
  | arithmetic (operation : Operation) (left right : Operand)

/-- An operand: a value, or what a query finds. -/
inductive Operand where
  | constant (value : Value)
  | found (query : Query)

end

instance : Inhabited Query :=
  ⟨.root⟩

/-- Counts of cuts and of repetitions are below this bound. -/
def countBound : Nat := 2 ^ 63

/-- A query as an operand: a single name is a text there, and no member. -/
def Operand.ofQuery : Query → Operand
  | .fields [name] => .constant (.str name)
  | query => .found query

end HttpGauge.Path
