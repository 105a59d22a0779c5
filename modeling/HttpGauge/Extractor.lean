import HttpGauge.Path.Language
import HttpGauge.Path.Template
import HttpGauge.Trace

/-!
# Extractors

A compiled template.  Each of its segments selects values of a document: an expression what it
finds in the path language, and a literal its own text.
-/

namespace HttpGauge

open HttpGauge.Json HttpGauge.Path HttpGauge.Text

/-- A compiled segment. -/
inductive Selector where
  /-- The text of a literal. -/
  | literal (text : String)
  /-- The search of an expression. -/
  | query (search : Search)

/-- A compiled template. -/
structure Extractor where
  template : String
  selectors : List Selector

/-! ## Compilation -/

/-- The template that selects the whole document. -/
def wholeTemplate : String := "\x7b$\x7d"

/-- Compile a segment; only an expression that is none of the language does not compile. -/
def Path.Segment.compile (language : PathLanguage) : Segment → Except String Selector
  | .literal text => .ok (.literal (String.ofList text))
  | .expression text => (language.read (normalize text)).map .query

namespace Extractor

/-- Compile a template. -/
def ofTemplate (language : PathLanguage) (template : String) :
    Except ConfigurationFault Extractor :=
  match split template.toList with
  | .error .strayBrace => .error (.strayBrace template)
  | .error .unclosed => .error (.unclosedExpression template)
  | .ok segments =>
      match segments.mapM (Segment.compile language) with
      | .ok selectors => .ok ⟨template, selectors⟩
      | .error reason => .error (.invalidPath template reason)

/-- The logger of compilations. -/
def logger : String := "webmetric.adapters.driven.jsonpath.extractor"

/-- What is logged of a compiled template. -/
def summary (extractor : Extractor) : String :=
  "Compiled JSONPath " ++ quote extractor.template ++ " into "
    ++ Number.intText extractor.selectors.length ++ " segment(s)"

/-- Compile a template; the empty one selects the whole document. -/
def compile (language : PathLanguage) (template : String) : Traced Extractor :=
  match ofTemplate language (if template.isEmpty then wholeTemplate else template) with
  | .error fault => .fail (.configuration fault)
  | .ok extractor => .logging logger .debug extractor.summary (.ok extractor)

/-! ## Extraction -/

/-- The values that a segment selects. -/
def select (document : Value) : Selector → Except Failure (List Value)
  | .literal text => .ok [.str text]
  | .query search => (search document).mapError fun reason => .extraction (.pathFailed reason)

/-- The values that the segments of a template select, segment by segment. -/
def find (extractor : Extractor) (document : Value) : Except Failure (List (List Value)) :=
  extractor.selectors.mapM (select document)

end Extractor

end HttpGauge
