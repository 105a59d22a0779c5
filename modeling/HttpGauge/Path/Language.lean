import HttpGauge.Path.Evaluation
import HttpGauge.Path.Parser

/-!
# Path languages

What the expressions of a template mean is left open.  A path language says which texts are
expressions and what each of them finds in a document; what it says of a text that is none, or of
an expression that cannot be applied, is its own wording.  One such language is that of queries.
-/

namespace HttpGauge

open HttpGauge.Json

/-- An expression by what it finds in a document, or why it cannot be applied to it. -/
abbrev Search := Value → Except String (List Value)

/-- A language of path expressions. -/
structure PathLanguage where
  /-- The search that a text asks for, or why the text is no expression. -/
  read : List Char → Except String Search

namespace Path

/-- The search of a query; where it finds no list of nodes, it cannot be applied. -/
def Query.search (query : Query) : Search := fun document =>
  match query.find (.whole document) with
  | some (.many nodes) => .ok (nodes.map Node.value)
  | _ => .error "the document does not admit the expression"

/-- The language of queries. -/
def Query.language : PathLanguage where
  read text :=
    match Query.read text with
    | some query => .ok query.search
    | none => .error "the text is no path expression"

/-- Its expressions are the texts that are read as queries. -/
theorem Query.read_language_eq_ok_iff {text : List Char} {search : Search} :
    language.read text = .ok search ↔ ∃ query, read text = some query ∧ search = query.search := by
  cases found : read text <;> simp [language, found, eq_comm]

end Path

end HttpGauge
