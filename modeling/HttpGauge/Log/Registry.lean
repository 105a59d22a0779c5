import HttpGauge.Log
import HttpGauge.Text.Casing
import HttpGauge.Text.Quoted

/-!
# The registry of loggers

Loggers have dotted names.  One without a level of its own takes that of its nearest ancestor, and
in the end that of the root.  Setting up the log gives levels to the root, to the libraries that
say too much, and to the loggers of this one.
-/

namespace HttpGauge.Log

open HttpGauge.Text

/-! ## Names -/

/-- The names before the dots of a reversed name, the longest first; a dot that follows a dot is
passed over. -/
def namesBefore : List Char → List String
  | '.' :: c :: rest => String.ofList (c :: rest).reverse :: namesBefore rest
  | _ :: rest => namesBefore rest
  | [] => []

/-- The ancestors of a logger, the nearest first. -/
def ancestors (name : String) : List String :=
  namesBefore name.toList.reverse

/-- The root has two names. -/
def isRoot (name : String) : Bool :=
  name == "" || name == "root"

/-! ## Levels -/

/-- The number of a logger that has no level of its own. -/
def unset : Int := 0

/-- The number of a level's name: some levels have a second one, and there is one for none. -/
def numberOfName? (name : String) : Option Int :=
  match Level.ofName? name with
  | some level => some level.number
  | none =>
      if name = "FATAL" then some Level.critical.number
      else if name = "WARN" then some Level.warning.number
      else if name = "NOTSET" then some unset
      else none

/-- The loggers of a process. -/
structure Registry where
  root : Int := Level.warning.number
  /-- The levels of other loggers, the latest first. -/
  own : List (String × Int) := []
  handlers : Nat := 0
  deriving DecidableEq, Repr

namespace Registry

/-- The level of a logger's own. -/
def level (registry : Registry) (name : String) : Int :=
  ((registry.own.find? (·.1 == name)).map (·.2)).getD unset

/-- Give a logger a level. -/
def setLevel (name : String) (number : Int) (registry : Registry) : Registry :=
  { registry with own := (name, number) :: registry.own }

@[simp]
theorem level_setLevel (registry : Registry) (name other : String) (number : Int) :
    (registry.setLevel name number).level other =
      if name = other then number else registry.level other := by
  by_cases same : name = other <;> simp [level, setLevel, same]

/-- The level that applies to a logger. -/
def effectiveLevel (registry : Registry) (name : String) : Int :=
  if isRoot name then registry.root
  else
    (((name :: ancestors name).map registry.level).find? (· != unset)).getD registry.root

/-- Records of this level are written by the logger. -/
def isEnabled (registry : Registry) (name : String) (number : Int) : Bool :=
  registry.effectiveLevel name ≤ number

/-! ## Setting up -/

/-- The loggers of libraries that say too much. -/
def quiet : List String := ["aiohttp", "asyncio"]

/-- The ancestor of the loggers of this library. -/
def application : String := "webmetric"

/-- A name that is no level. -/
structure UnknownLevel where
  /-- The name, in upper case. -/
  name : String
  deriving DecidableEq, Repr

/-- The wording. -/
def UnknownLevel.message (fault : UnknownLevel) : String :=
  "Unknown level: " ++ quote fault.name

/-- Set up everything but the loggers of this library. -/
def prepare (registry : Registry) : Registry :=
  quiet.foldl (fun registry name => registry.setLevel name Level.warning.number)
    { registry with root := Level.info.number, handlers := registry.handlers + 1 }

theorem level_prepare (registry : Registry) (name : String) :
    registry.prepare.level name =
      if name ∈ quiet then Level.warning.number else registry.level name := by
  have others (number : Int) (handlers : Nat) :
      { registry with root := number, handlers := handlers }.level name = registry.level name := rfl
  simp only [prepare, quiet, List.foldl, level_setLevel, others, List.mem_cons, List.not_mem_nil,
    or_false]
  grind

/-- Set up the log; a level that is unknown does not undo what is set up before it. -/
def configure (registry : Registry) (level : String) : Except UnknownLevel Unit × Registry :=
  let name := upper level
  match numberOfName? name with
  | some number => (.ok (), registry.prepare.setLevel application number)
  | none => (.error ⟨name⟩, registry.prepare)

theorem configure_of_named {level : String} {number : Int}
    (named : numberOfName? (upper level) = some number) (registry : Registry) :
    registry.configure level = (.ok (), registry.prepare.setLevel application number) := by
  simp [configure, named]

theorem configure_of_unnamed {level : String} (unnamed : numberOfName? (upper level) = none)
    (registry : Registry) :
    registry.configure level = (.error ⟨upper level⟩, registry.prepare) := by
  simp [configure, unnamed]

end Registry

end HttpGauge.Log
