import HttpGauge.Number.Binary64

/-!
# JSON values

Integers and floating-point numbers are kept apart, and an object is a list of members in the
order in which its keys first occur.
-/

namespace HttpGauge.Json

open HttpGauge.Number

/-- A JSON value. -/
inductive Value where
  | null
  | bool (truth : Bool)
  /-- A number written without fraction and exponent. -/
  | int (n : Int)
  /-- A number written with a fraction or an exponent. -/
  | float (x : Binary64)
  | str (text : String)
  | arr (items : List Value)
  | obj (members : List (String × Value))
  deriving Inhabited

/-- The members of an object, in order. -/
abbrev Members := List (String × Value)

/-- Induction over values, with a hypothesis about every item and every member. -/
@[induction_eliminator]
theorem Value.induct {motive : Value → Prop} (null : motive .null)
    (bool : ∀ truth, motive (.bool truth)) (int : ∀ n, motive (.int n))
    (float : ∀ x, motive (.float x)) (str : ∀ text, motive (.str text))
    (arr : ∀ items, (∀ item ∈ items, motive item) → motive (.arr items))
    (obj : ∀ members : Members, (∀ member ∈ members, motive member.2) → motive (.obj members)) :
    ∀ value, motive value
  | .null => null
  | .bool truth => bool truth
  | .int n => int n
  | .float x => float x
  | .str text => str text
  | .arr items => arr items fun item _ => induct null bool int float str arr obj item
  | .obj members => obj members fun member _ => induct null bool int float str arr obj member.2
  termination_by value => sizeOf value
  decreasing_by
    · have shorter := List.sizeOf_lt_of_mem ‹item ∈ items›
      simp only [Value.arr.sizeOf_spec]
      omega
    · have shorter := List.sizeOf_lt_of_mem ‹member ∈ members›
      obtain ⟨key, value⟩ := member
      simp only [Value.obj.sizeOf_spec, Prod.mk.sizeOf_spec] at shorter ⊢
      omega

/-! ## Members -/

/-- Set a member: a key that occurs keeps its place, a new one comes last. -/
def Members.put (key : String) (value : Value) : Members → Members
  | [] => [(key, value)]
  | member :: rest =>
      if member.1 = key then (key, value) :: rest else member :: Members.put key value rest

/-- The members that remain when each pair is set in turn. -/
def Members.ofPairs (pairs : List (String × Value)) : Members :=
  pairs.foldl (fun members pair => members.put pair.1 pair.2) []

/-- The value of a key. -/
def Members.get? (key : String) (members : Members) : Option Value :=
  (members.find? (·.1 == key)).map (·.2)

@[simp]
theorem Members.get?_cons (key spelling : String) (value : Value) (rest : Members) :
    Members.get? key ((spelling, value) :: rest) =
      if spelling = key then some value else Members.get? key rest := by
  by_cases same : spelling = key <;> simp [Members.get?, same]

/-! ## Equality -/

mutual

/-- Values are compared part by part. -/
def Value.decEq : (a b : Value) → Decidable (a = b)
  | .null, .null => isTrue rfl
  | .bool a, .bool b => decidable_of_iff (a = b) (by simp)
  | .int a, .int b => decidable_of_iff (a = b) (by simp)
  | .float a, .float b => decidable_of_iff (a = b) (by simp)
  | .str a, .str b => decidable_of_iff (a = b) (by simp)
  | .arr a, .arr b =>
      match Value.decEqItems a b with
      | isTrue same => isTrue (by rw [same])
      | isFalse differ => isFalse (by simpa using differ)
  | .obj a, .obj b =>
      match Value.decEqMembers a b with
      | isTrue same => isTrue (by rw [same])
      | isFalse differ => isFalse (by simpa using differ)
  | .null, .bool _ | .null, .int _ | .null, .float _ | .null, .str _ | .null, .arr _
  | .null, .obj _ | .bool _, .null | .bool _, .int _ | .bool _, .float _ | .bool _, .str _
  | .bool _, .arr _ | .bool _, .obj _ | .int _, .null | .int _, .bool _ | .int _, .float _
  | .int _, .str _ | .int _, .arr _ | .int _, .obj _ | .float _, .null | .float _, .bool _
  | .float _, .int _ | .float _, .str _ | .float _, .arr _ | .float _, .obj _ | .str _, .null
  | .str _, .bool _ | .str _, .int _ | .str _, .float _ | .str _, .arr _ | .str _, .obj _
  | .arr _, .null | .arr _, .bool _ | .arr _, .int _ | .arr _, .float _ | .arr _, .str _
  | .arr _, .obj _ | .obj _, .null | .obj _, .bool _ | .obj _, .int _ | .obj _, .float _
  | .obj _, .str _ | .obj _, .arr _ => isFalse (by simp)

/-- Items are compared one by one. -/
def Value.decEqItems : (a b : List Value) → Decidable (a = b)
  | [], [] => isTrue rfl
  | a :: as, b :: bs =>
      match Value.decEq a b, Value.decEqItems as bs with
      | isTrue head, isTrue tail => isTrue (by rw [head, tail])
      | isFalse differ, _ => isFalse fun same => differ (List.cons.inj same).1
      | _, isFalse differ => isFalse fun same => differ (List.cons.inj same).2
  | [], _ :: _ | _ :: _, [] => isFalse (by simp)

/-- Members are compared one by one. -/
def Value.decEqMembers : (a b : List (String × Value)) → Decidable (a = b)
  | [], [] => isTrue rfl
  | (k, a) :: as, (l, b) :: bs =>
      if key : k = l then
        match Value.decEq a b, Value.decEqMembers as bs with
        | isTrue head, isTrue tail => isTrue (by rw [key, head, tail])
        | isFalse differ, _ => isFalse (by simp [key, differ])
        | _, isFalse differ => isFalse (by simp [differ])
      else isFalse (by simp [key])
  | [], _ :: _ | _ :: _, [] => isFalse (by simp)

end

instance : DecidableEq Value :=
  Value.decEq

end HttpGauge.Json
