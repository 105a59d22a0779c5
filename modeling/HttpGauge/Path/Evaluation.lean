import HttpGauge.Path.Arithmetic
import HttpGauge.Path.Node
import HttpGauge.Path.Query

/-!
# Evaluating path queries

A query leads from a node to a list of nodes.  It fails where the values that it meets do not admit
what it asks for (no order, no number of the size of an integer, a step of zero) or where it leaves
the document.
-/

namespace HttpGauge.Path

open HttpGauge.Json

/-! ## What is found -/

/-- What a query finds. -/
inductive Found where
  | many (nodes : List Node)
  /-- One node that is not in a list: a sort gives back what it cannot sort. -/
  | bare (node : Node)
  deriving DecidableEq

/-- A query as a function of the node that it starts from; without a result it fails. -/
abbrev Finder := Node → Option Found

namespace Found

/-- The nodes, where a list is needed. -/
def nodes? : Found → Option (List Node)
  | .many nodes => some nodes
  | .bare _ => none

/-- Something is found. -/
def isPresent : Found → Bool
  | .many nodes => !nodes.isEmpty
  | .bare _ => true

/-- Values by themselves. -/
def wholes (values : List Value) : Found :=
  .many (values.map Node.whole)

end Found

/-- The nodes that a query finds from each of some nodes, in order. -/
def fromEach (finder : Finder) : List Node → Option (List Node)
  | [] => some []
  | node :: rest => do
      let first ← (← finder node).nodes?
      let more ← fromEach finder rest
      return first ++ more

/-- The nodes from which a query finds something. -/
def whichFind (finder : Finder) : List Node → Option (List Node)
  | [] => some []
  | node :: rest => do
      let present := (← finder node).isPresent
      let more ← whichFind finder rest
      return if present then node :: more else more

/-! ## Everything in a node -/

mutual

/-- What a query finds from a value and from everything in it, a whole before its parts. -/
def fromWithin (finder : Finder) (enclosing : List Value) : Value → Option (List Node)
  | .arr items => do
      let here ← (← finder ⟨.arr items, enclosing⟩).nodes?
      let more ← fromItems finder (.arr items :: enclosing) items
      return here ++ more
  | .obj members => do
      let here ← (← finder ⟨.obj members, enclosing⟩).nodes?
      let more ← fromMembers finder (.obj members :: enclosing) members
      return here ++ more
  | value => do (← finder ⟨value, enclosing⟩).nodes?

/-- The same from each item. -/
def fromItems (finder : Finder) (enclosing : List Value) : List Value → Option (List Node)
  | [] => some []
  | item :: rest => do
      let first ← fromWithin finder enclosing item
      let more ← fromItems finder enclosing rest
      return first ++ more

/-- The same from each member. -/
def fromMembers (finder : Finder) (enclosing : List Value) :
    List (String × Value) → Option (List Node)
  | [] => some []
  | (_, value) :: rest => do
      let first ← fromWithin finder enclosing value
      let more ← fromMembers finder enclosing rest
      return first ++ more

end

/-- The same from each of some nodes. -/
def fromAllWithin (finder : Finder) : List Node → Option (List Node)
  | [] => some []
  | node :: rest => do
      let first ← fromWithin finder node.enclosing node.value
      let more ← fromAllWithin finder rest
      return first ++ more

/-! ## Conditions -/

/-- A value compares so with another; without an order, or with a pattern, there is no answer. -/
def compares? (comparison : Comparison) (left right : Value) : Option Bool :=
  match comparison with
  | .equal => some (isEqual left right)
  | .notEqual => some (!isEqual left right)
  | .less => isLess? left right
  | .greater => isLess? right left
  | .atMost => do return (← isLess? left right) || isEqual left right
  | .atLeast => do return (← isLess? right left) || isEqual left right
  | .matching => none

/-- Some node compares so with a value; all of them are compared. -/
def someCompares (comparison : Comparison) (right : Value) : List Node → Option Bool
  | [] => some false
  | node :: rest => do
      let first ← compares? comparison node.value right
      let more ← someCompares comparison right rest
      return first || more

/-- A condition, ready to be asked of an item. -/
abbrev Asked := Finder × Option (Comparison × Value)

/-- An item meets a condition. -/
def meets (condition : Asked) (item : Value) : Option Bool := do
  let found ← condition.1 (.whole item)
  if !found.isPresent then return false
  else
    match condition.2 with
    | none => return true
    | some (comparison, right) => someCompares comparison right (← found.nodes?)

/-- An item meets all conditions; each of them is asked. -/
def meetsAll (item : Value) : List Asked → Option Bool
  | [] => some true
  | condition :: rest => do
      let first ← meets condition item
      let more ← meetsAll item rest
      return first && more

/-- The items that meet all conditions. -/
def chosen (conditions : List Asked) : List Value → Option (List Value)
  | [] => some []
  | item :: rest => do
      let keep ← meetsAll item conditions
      let more ← chosen conditions rest
      return if keep then item :: more else more

/-- The items of a node that meet all conditions; of an object, those among its values. -/
def filterNode (conditions : List Asked) (node : Node) : Option (List Node) :=
  match node.value with
  | .arr items => do return (← chosen conditions items).map node.part
  | .obj members => do
      let values := members.map (·.2)
      let held : Node := ⟨.arr values, node.enclosing⟩
      return (← chosen conditions values).map held.part
  | _ => some []

/-! ## Sorting -/

/-- The items, or the keys, in rising order. -/
def sortNode (node : Node) : Option Found := do
  match node.value with
  | .arr items => return .wholes [.arr (← sortItems isLess? items)]
  | .obj members => return .wholes [.arr (← sortItems isLess? (members.map (.str ·.1)))]
  | _ => return .bare node

/-- The first value precedes the second by a key; a key that does not tell gives no answer. -/
def keyPrecedes? (key : Finder × Bool) (left right : Value) : Option (Option Bool) := do
  let lefts ← key.1 (.whole left)
  let rights ← key.1 (.whole right)
  if !lefts.isPresent || !rights.isPresent then return none
  else
    let lefts ← lefts.nodes?
    if 1 < lefts.length then return none
    else
      match lefts, ← rights.nodes? with
      | [a], [b] =>
          if isEqual a.value b.value then return none
          else return some ((← isLess? a.value b.value) != key.2)
      | _, _ => return none

/-- The first value precedes the second by the first key that tells. -/
def precedes? (left right : Value) : List (Finder × Bool) → Option Bool
  | [] => some false
  | key :: rest => do
      match ← keyPrecedes? key left right with
      | some answer => return answer
      | none => precedes? left right rest

/-- The items in the order of some keys. -/
def sortNodeBy (keys : List (Finder × Bool)) (node : Node) : Option Found := do
  match node.value with
  | .arr items =>
      return .wholes [.arr (← sortItems (fun left right => precedes? left right keys) items)]
  | _ => return .bare node

/-! ## Arithmetic -/

/-- The results of an operation on pairs in turn: a first mismatch leaves none at all. -/
def computeAll (operation : Operation) (pairs : List (Node × Node)) : Option Found :=
  match pairs.mapM fun pair => compute operation pair.1.value pair.2.value with
  | .ok values => some (.wholes values)
  | .error .mismatch => some (.many [])
  | .error .failure => none

/-- An operand, ready to be asked. -/
inductive Argument where
  | constant (value : Value)
  | found (finder : Finder)

/-- An operation on operands: a constant goes with every node, and nodes go in pairs. -/
def computeArguments (operation : Operation) (left right : Argument) (node : Node) :
    Option Found := do
  match left, right with
  | .constant left, .constant right => computeAll operation [(.whole left, .whole right)]
  | .constant left, .found right =>
      let rights ← (← right node).nodes?
      computeAll operation (rights.map (.whole left, ·))
  | .found left, .constant right =>
      let lefts ← (← left node).nodes?
      computeAll operation (lefts.map (·, .whole right))
  | .found left, .found right =>
      let lefts ← left node
      let rights ← right node
      if !lefts.isPresent || !rights.isPresent then return .many []
      else
        let lefts ← lefts.nodes?
        let rights ← rights.nodes?
        if lefts.length = rights.length then computeAll operation (lefts.zip rights)
        else return .many []

/-! ## Queries -/

mutual

/-- What a query finds from a node. -/
def Query.find : Query → Finder
  | .root, node => some (.many [node.root])
  | .this, node => some (.many [node])
  | .parent, node => node.parent?.map fun enclosing => .many [enclosing]
  | .fields names, node => some (.many (node.fields names))
  | .index position, node => some (.many (node.item? position).toList)
  | .slice start stop step, node => (node.slice? start stop step).map .many
  | .size, node => some (.wholes (node.size?.map fun size => .int size).toList)
  | .keys, node => some (.wholes (node.keys.map .str))
  | .sorted, node => sortNode node
  | .sortedBy keys, node => sortNodeBy (keyFinders keys) node
  | .text, node => node.text?.map fun text => .wholes [.str text]
  | .piece separator position cuts, node =>
      some (.wholes ((node.piece? separator position cuts).map .str).toList)
  | .filter conditions, node => (filterNode (askedConditions conditions) node).map .many
  | .child first second, node => do
      return .many (← fromEach second.find (← (← first.find node).nodes?))
  | .descendants first second, node => do
      match ← first.find node with
      | .many nodes => return .many (← fromAllWithin second.find nodes)
      | .bare found => return .many (← fromAllWithin second.find [found])
  | .union first second, node => do
      let firsts ← first.find node
      let seconds ← second.find node
      return .many ((← firsts.nodes?) ++ (← seconds.nodes?))
  | .intersection _ _, _ => none
  | .whichHave first second, node => do
      return .many (← whichFind second.find (← (← first.find node).nodes?))
  | .arithmetic operation left right, node =>
      computeArguments operation left.argument right.argument node

/-- An operand, ready to be asked. -/
def Operand.argument : Operand → Argument
  | .constant value => .constant value
  | .found query => .found query.find

/-- Keys to sort by, ready to be asked. -/
def keyFinders : List (Query × Bool) → List (Finder × Bool)
  | [] => []
  | (query, descending) :: rest => (query.find, descending) :: keyFinders rest

/-- Conditions, ready to be asked. -/
def askedConditions : List (Query × Option (Comparison × Value)) → List Asked
  | [] => []
  | (query, test) :: rest => (query.find, test) :: askedConditions rest

end

end HttpGauge.Path
