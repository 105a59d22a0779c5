import HttpGauge.Metric
import HttpGauge.Text.Casing
import HttpGauge.Text.Pieces

/-!
# Header sets

Headers as they are sent: every key once, in the order of its first declaration, with the value
declared last.  Declared keys are brought into canonical form, in which each part between hyphens
is capitalized.
-/

namespace HttpGauge

open HttpGauge.Text

/-- The keys and values of a request, each key once. -/
abbrev HeaderSet := List (String × String)

namespace HeaderSet

/-- Set a header: a key that is set already keeps its place. -/
def set (key value : String) : HeaderSet → HeaderSet
  | [] => [(key, value)]
  | header :: rest =>
      if header.1 = key then (key, value) :: rest else header :: set key value rest

/-- The value of a key in exactly this spelling. -/
def get? (key : String) (headers : HeaderSet) : Option String :=
  (headers.find? (·.1 == key)).map (·.2)

/-- The keys, in order. -/
def keys (headers : HeaderSet) : List String :=
  headers.map (·.1)

/-- Some key is the given lower-case key in some case. -/
def hasKey (lowerKey : String) (headers : HeaderSet) : Bool :=
  headers.any fun header => lower header.1 == lowerKey

@[simp]
theorem get?_set_self (key value : String) (headers : HeaderSet) :
    (headers.set key value).get? key = some value := by
  induction headers with
  | nil => simp [set, get?]
  | cons header rest ih =>
      by_cases same : header.1 = key
      · simp [set, get?, same]
      · simpa [set, get?, same] using ih

/-- Setting a key leaves the values of the others. -/
theorem get?_set_of_ne {key other : String} (value : String) (headers : HeaderSet)
    (differ : key ≠ other) : (headers.set key value).get? other = headers.get? other := by
  induction headers with
  | nil => simp [set, get?, differ]
  | cons header rest ih =>
      by_cases same : header.1 = key
      · simp [set, get?, same, differ]
      · rw [set, if_neg same]
        by_cases found : header.1 = other
        · simp [get?, found]
        · simpa [get?, found] using ih

end HeaderSet

/-! ## Canonical keys -/

/-- The canonical form of a key. -/
def canonicalKeyChars (key : List Char) : List Char :=
  joinWith '-' ((splitAt '-' key).map capitalizeChars)

/-- The canonical form of a key. -/
def canonicalKey (key : String) : String :=
  String.ofList (canonicalKeyChars key.toList)

/-- The headers that declarations result in. -/
def HeaderSet.ofDeclared (declared : List Header) : HeaderSet :=
  declared.foldl (fun headers header => headers.set (canonicalKey header.key) header.value) []

end HttpGauge
