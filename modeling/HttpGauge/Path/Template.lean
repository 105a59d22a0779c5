import HttpGauge.Text.Blank

/-!
# Path templates

A template is a row of expressions in braces with literal text between them.  Braces nest, and
those inside a quoted string of an expression do not count.  A template without braces is a single
expression.
-/

namespace HttpGauge.Path

open HttpGauge.Text

/-! ## Segments -/

/-- A segment of a template. -/
inductive Segment where
  /-- Text that stands for itself. -/
  | literal (text : List Char)
  /-- The text of an expression, without blanks around it. -/
  | expression (text : List Char)
  deriving DecidableEq, Repr

/-- Why a text is no template. -/
inductive Imbalance where
  | strayBrace
  /-- An expression, or a string in one, that does not end. -/
  | unclosed
  deriving DecidableEq, Repr

/-- Where in a template a character stands. -/
inductive Place where
  | literal
  /-- In an expression, this many braces deep beyond the first. -/
  | expression (depth : Nat)
  /-- In a string of an expression, up to the given quote. -/
  | string (depth : Nat) (quote : Char)
  deriving DecidableEq, Repr

/-- The literal of some text in reverse; without text there is none. -/
def literalOf (held : List Char) : List Segment :=
  if held.isEmpty then [] else [.literal held.reverse]

/-- The expression of some text in reverse. -/
def expressionOf (held : List Char) : Segment :=
  .expression (trimBlank held.reverse)

/-- Split what is left of a template; the text of the current segment so far is held in reverse. -/
def scan : Place → List Char → List Char → Except Imbalance (List Segment)
  | .literal, held, [] => .ok (literalOf held)
  | .expression _, _, [] => .error .unclosed
  | .string _ _, _, [] => .error .unclosed
  | .literal, held, c :: rest =>
      if c = '\x7b' then (scan (.expression 0) [] rest).map (literalOf held ++ ·)
      else if c = '\x7d' then .error .strayBrace
      else scan .literal (c :: held) rest
  | .expression depth, held, c :: rest =>
      if c = '\'' || c = '"' then scan (.string depth c) (c :: held) rest
      else if c = '\x7b' then scan (.expression (depth + 1)) (c :: held) rest
      else if c = '\x7d' then
        match depth with
        | 0 => (scan .literal [] rest).map (expressionOf held :: ·)
        | depth + 1 => scan (.expression depth) (c :: held) rest
      else scan (.expression depth) (c :: held) rest
  | .string depth quote, held, c :: rest =>
      scan (if c = quote then .expression depth else .string depth quote) (c :: held) rest

/-- A brace. -/
def isBrace (c : Char) : Bool :=
  c = '\x7b' || c = '\x7d'

/-- Split a template into its segments. -/
def split (template : List Char) : Except Imbalance (List Segment) :=
  if template.any isBrace then scan .literal [] template
  else .ok [.expression (trimBlank template)]

/-! ## Rooted expressions -/

/-- Let an expression start at the root: a relative one goes on from there. -/
def normalize (expression : List Char) : List Char :=
  match expression with
  | [] => ['$']
  | '$' :: _ => expression
  | '.' :: _ => '$' :: expression
  | '[' :: _ => '$' :: expression
  | _ => '$' :: '.' :: expression

end HttpGauge.Path
