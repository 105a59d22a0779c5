import HttpGauge.Json.Display
import HttpGauge.Json.Writer
import HttpGauge.Path.Ordering
import HttpGauge.Path.Query
import HttpGauge.Text.Pieces

/-!
# Nodes of documents

A node is a value together with the values that enclose it, the nearest first.  This module holds
the steps from a node that need no further query.
-/

namespace HttpGauge.Path

open HttpGauge.Json HttpGauge.Text

/-! ## Nodes -/

/-- A node of a document. -/
structure Node where
  value : Value
  /-- What encloses the value, the nearest first. -/
  enclosing : List Value
  deriving DecidableEq

namespace Node

/-- A value by itself. -/
def whole (value : Value) : Node :=
  ⟨value, []⟩

/-- The node of a part of a node's value. -/
def part (node : Node) (value : Value) : Node :=
  ⟨value, node.value :: node.enclosing⟩

/-- What encloses the node; around a whole document there is nothing. -/
def parent? (node : Node) : Option Node :=
  match node.enclosing with
  | [] => none
  | value :: enclosing => some ⟨value, enclosing⟩

/-- The whole document. -/
def root (node : Node) : Node :=
  whole (node.enclosing.getLastD node.value)

/-! ## Members and items -/

/-- The members of the given names, or all. -/
def fields (names : List String) (node : Node) : List Node :=
  match node.value with
  | .obj members =>
      if names.contains "*" then members.map fun member => node.part member.2
      else names.filterMap fun name => (Members.get? name members).map node.part
  | _ => []

/-- The place of a position in a list of some length; a negative one counts from the end. -/
def place? (length : Nat) (position : Int) : Option Nat :=
  let fromStart := if position < 0 then position + length else position
  if 0 ≤ fromStart && fromStart < length then some fromStart.toNat else none

/-- The item at a position. -/
def item? (position : Int) (node : Node) : Option Node :=
  match node.value with
  | .arr items =>
      match place? items.length position with
      | some place => items[place]?.map node.part
      | none => none
  | _ => none

/-- A bound of a range, brought between the places where it may lie. -/
def clamp (length : Nat) (low high : Int) (bound : Int) : Int :=
  if bound < 0 then max (bound + length) low else min bound high

/-- The places of a range: from the start on, one step after the other, up to before the stop. -/
def places (length : Nat) (start stop : Option Int) (step : Int) : List Nat :=
  if 0 < step then
    let first := (start.map (clamp length 0 length)).getD 0
    let last := (stop.map (clamp length 0 length)).getD length
    (List.range length).filter fun place =>
      first ≤ place && place < last && (place - first) % step = 0
  else
    let first := (start.map (clamp length (-1) (length - 1))).getD (length - 1)
    let last := (stop.map (clamp length (-1) (length - 1))).getD (-1)
    (List.range length).reverse.filter fun place =>
      last < place && place ≤ first && (first - place) % step = 0

/-- The items of a range; a step of zero leads nowhere unless there are none. -/
def slice? (start stop step : Option Int) (node : Node) : Option (List Node) :=
  match node.value with
  | .arr items =>
      if items.isEmpty then some []
      else if step = some 0 then none
      else some ((places items.length start stop (step.getD 1)).filterMap fun place =>
        items[place]?.map node.part)
  | _ => some []

/-! ## Operators -/

/-- The number of characters, items or members. -/
def size? (node : Node) : Option Nat :=
  match node.value with
  | .str text => some text.length
  | .arr items => some items.length
  | .obj members => some members.length
  | _ => none

/-- The keys of an object. -/
def keys (node : Node) : List String :=
  match node.value with
  | .obj members => members.map (·.1)
  | _ => []

/-- The value as a text, if it has one. -/
def text? (node : Node) : Option String :=
  if node.value.hasLongInt then none else some node.value.displayBare

/-- Join all pieces from a number on again. -/
def limitCuts (separator : Char) : Nat → List (List Char) → List (List Char)
  | _, [] => []
  | 0, pieces => [joinWith separator pieces]
  | cuts + 1, piece :: rest => piece :: limitCuts separator cuts rest

/-- A piece of a string. -/
def piece? (separator : Char) (position : Nat) (cuts : Option Nat) (node : Node) :
    Option String :=
  match node.value with
  | .str text =>
      let pieces := splitAt separator text.toList
      match cuts with
      | none => pieces[position]?.map String.ofList
      | some cuts =>
          if cuts < countBound then
            (limitCuts separator cuts pieces)[position]?.map String.ofList
          else none
  | _ => none

end Node

end HttpGauge.Path
