import HttpGauge.Proofs.Course
import HttpGauge.Proofs.Json.Writing
import HttpGauge.Request

/-!
# Values that are written and read

A request carries a JSON value as ASCII text, and a measurement carries one as canonical text.
Main statements: the body of a request is read back as the value of the metric; the canonical text
of a value is read back as its canonical value, which is all that the text tells of the value.
-/

namespace HttpGauge

open HttpGauge.Json HttpGauge.Number HttpGauge.Text

/-! ## Bodies of requests -/

namespace WebMetric

/-- The request of a metric whose only body is a value that can be written. -/
theorem request_of_jsonBody {web : WebMetric} {value : Value}
    (sends : web.method = some .post ∨ web.method = some .put) (noText : web.body = "")
    (given : web.jsonBody = some value) (short : value.hasLongInt = false) :
    web.request =
      .ok ⟨web.effectiveMethod, web.url, some (value.write .ascii), web.sentHeaders⟩ := by
  have notGet : web.effectiveMethod ≠ .get := by
    unfold effectiveMethod
    rcases sends with post | put
    · rw [post]
      nofun
    · rw [put]
      nofun
  have textless : web.hasTextBody = false := by
    rw [hasTextBody, noText]
    rfl
  have writable : web.hasLongBody = false := by
    rw [hasLongBody, given]
    exact short
  rw [request, sentBody, textless, writable, given, decide_eq_false notGet, Bool.false_and,
    Bool.and_false]
  rfl

/-- The body of a request is ASCII, and is read back as the value that the metric declares. -/
theorem jsonBody_reads_back {web : WebMetric} {value : Value}
    (sends : web.method = some .post ∨ web.method = some .put) (noText : web.body = "")
    (given : web.jsonBody = some value) (writable : value.IsWritable) :
    ∃ request body, web.request = .ok request ∧ request.body = some body ∧
      (∀ byte ∈ Utf8.encode body, byte < 0x80) ∧
      ∀ lenient, readBytes lenient (Utf8.encode body) = .ok value := by
  refine ⟨_, value.write .ascii, request_of_jsonBody sends noText given writable.hasLongInt_eq, rfl,
    ?_, ?_⟩
  · apply lt_of_mem_encode
    rw [Value.write, String.toList_ofList]
    exact writable.isAscii
  · intro lenient
    exact writable.readBytes_write .ascii lenient

/-- Escaped keys, characters of two units and a negative zero are read back. -/
theorem jsonBody_reads_back_of_escaped :
    ∃ request body,
      ({ method := some .put
         url := "https://metrics.test"
         jsonBody := some (.obj [("\"\n", .arr [.int (-7), .float (.finite true ⟨0, by decide⟩),
           .str "𝄞é"])]) } : WebMetric).request = .ok request ∧
      request.body = some body ∧ (∀ byte ∈ Utf8.encode body, byte < 0x80) ∧
      ∀ lenient, readBytes lenient (Utf8.encode body) =
        .ok (.obj [("\"\n", .arr [.int (-7), .float (.finite true ⟨0, by decide⟩), .str "𝄞é"])]) := by
  have items : ∀ item ∈ [Value.int (-7), .float (.finite true ⟨0, by decide⟩), .str "𝄞é"],
      item.IsWritable := by
    intro item member
    simp only [List.mem_cons, List.not_mem_nil, or_false] at member
    rcases member with rfl | rfl | rfl
    · exact .int (by decide +kernel)
    · exact .float true _
    · exact .str _
  have members : ∀ member ∈ [("\"\n", Value.arr _)], member.2.IsWritable :=
    List.forall_mem_singleton.mpr (.arr items)
  exact jsonBody_reads_back (Or.inr rfl) rfl rfl (.obj (by decide) members)

end WebMetric

/-! ## Canonical values -/

/-- A double is an integer when it takes the same place in the order. -/
theorem toInt?_eq_some_iff {x : Binary64} {n : Int} :
    x.toInt? = some n ↔ x.extended? = some (Binary64.extendedOfInt n) := by
  have positive := Binary64.unitsPerOne_pos
  unfold Binary64.toInt? Binary64.extendedOfInt
  generalize Binary64.unitsPerOne = one at positive ⊢
  cases x with
  | nan => simp [Binary64.units?, Binary64.extended?]
  | infinite negative => cases negative <;> simp [Binary64.units?, Binary64.extended?]
  | finite negative rank =>
      simp only [Binary64.units?, Binary64.extended?, Option.some.injEq,
        Binary64.Extended.units.injEq]
      generalize Binary64.signed negative (Binary64.units rank) = count
      constructor
      · intro whole
        split at whole
        · rename_i divides
          rw [← Option.some.inj whole]
          exact (Int.ediv_mul_cancel (Int.dvd_of_emod_eq_zero divides)).symm
        · contradiction
      · rintro rfl
        rw [if_pos (Int.mul_emod_left n one), Int.mul_ediv_cancel n (by omega)]

/-- The double is an integer that is written without exponent. -/
theorem plainInt?_eq_some_iff {x : Binary64} {n : Int} :
    plainInt? x = some n ↔
      x.extended? = some (Binary64.extendedOfInt n) ∧ n.natAbs < 10 ^ 21 := by
  rw [← toInt?_eq_some_iff]
  unfold plainInt? plainLimit
  cases x.toInt? with
  | none => simp
  | some m =>
      dsimp only
      by_cases small : m.natAbs < 10 ^ 21
      · rw [if_pos small]
        constructor
        · rintro ⟨⟩
          exact ⟨rfl, small⟩
        · exact And.left
      · rw [if_neg small]
        constructor
        · intro found
          contradiction
        · rintro ⟨⟨⟩, bounded⟩
          exact absurd bounded small

/-- Such an integer is not too long. -/
theorem exceedsLimit_of_plainInt? {x : Binary64} {n : Int} (plain : plainInt? x = some n) :
    exceedsLimit n = false := by
  obtain ⟨-, small⟩ := plainInt?_eq_some_iff.mp plain
  refine Bool.eq_false_iff.mpr fun long => ?_
  have reaches := exceedsLimit_iff.mp long
  have more : 10 ^ 21 ≤ 10 ^ digitLimit := Nat.pow_le_pow_right (by decide) (by decide)
  exact Nat.not_lt_of_le (Nat.le_trans more reaches) small

namespace Json.Value

section Maps

variable {items : List Value} {members : Members}

theorem canonicalItems_eq_map : canonicalItems items = items.map canonical := by
  induction items with
  | nil => rfl
  | cons item later ih => rw [canonicalItems, ih, List.map_cons]

theorem canonicalMembers_eq_map :
    canonicalMembers members = members.map fun member => (member.1, member.2.canonical) := by
  induction members with
  | nil => rfl
  | cons member later ih => rw [canonicalMembers, ih, List.map_cons]

end Maps

/-- What is canonical of a value: wherever a double is an integer of less than so many digits, the
integer stands in its place, and all else is as it was. -/
inductive HasCanonical : Value → Value → Prop where
  | null : HasCanonical .null .null
  | bool (truth : Bool) : HasCanonical (.bool truth) (.bool truth)
  | int (n : Int) : HasCanonical (.int n) (.int n)
  | whole {x : Binary64} {n : Int} (equal : x.extended? = some (Binary64.extendedOfInt n))
      (small : n.natAbs < 10 ^ 21) : HasCanonical (.float x) (.int n)
  | float {x : Binary64}
      (other : ∀ n : Int, n.natAbs < 10 ^ 21 → x.extended? ≠ some (Binary64.extendedOfInt n)) :
      HasCanonical (.float x) (.float x)
  | str (text : String) : HasCanonical (.str text) (.str text)
  | arr {items others : List Value} (length : items.length = others.length)
      (each : ∀ pair ∈ items.zip others, HasCanonical pair.1 pair.2) :
      HasCanonical (.arr items) (.arr others)
  | obj {members others : Members} (length : members.length = others.length)
      (keys : ∀ pair ∈ members.zip others, pair.1.1 = pair.2.1)
      (each : ∀ pair ∈ members.zip others, HasCanonical pair.1.2 pair.2.2) :
      HasCanonical (.obj members) (.obj others)

/-- What stands for a double. -/
theorem canonical_float (x : Binary64) :
    (∃ n, plainInt? x = some n ∧ (Value.float x).canonical = .int n) ∨
      plainInt? x = none ∧ (Value.float x).canonical = .float x := by
  rw [canonical]
  cases plainInt? x with
  | some n => exact Or.inl ⟨n, rfl, rfl⟩
  | none => exact Or.inr ⟨rfl, rfl⟩

/-- Every value has a canonical one. -/
theorem IsWritable.hasCanonical {value : Value} (writable : value.IsWritable) :
    value.HasCanonical value.canonical := by
  induction writable with
  | null => exact .null
  | bool truth => exact .bool truth
  | int => exact .int _
  | float negative rank =>
      rcases canonical_float (.finite negative rank) with ⟨n, plain, same⟩ | ⟨other, same⟩
      · obtain ⟨equal, small⟩ := plainInt?_eq_some_iff.mp plain
        rw [same]
        exact .whole equal small
      · rw [same]
        refine .float fun n small equal => ?_
        rw [plainInt?_eq_some_iff.mpr ⟨equal, small⟩] at other
        contradiction
  | str text => exact .str text
  | @arr items _ ih =>
      rw [canonical, canonicalItems_eq_map]
      refine .arr (List.length_map _).symm ?_
      rw [← List.map_prod_left_eq_zip]
      exact List.forall_mem_map.mpr ih
  | @obj members _ _ ih =>
      rw [canonical, canonicalMembers_eq_map]
      refine .obj (List.length_map _).symm ?_ ?_
      · rw [← List.map_prod_left_eq_zip]
        exact List.forall_mem_map.mpr fun _ _ => rfl
      · rw [← List.map_prod_left_eq_zip]
        exact List.forall_mem_map.mpr ih

/-- Lists of the same length are paired by a function when their items are. -/
theorem eq_map_of_zip {α β : Type} {f : α → β} {items : List α} {others : List β}
    (length : items.length = others.length) (each : ∀ pair ∈ items.zip others, pair.2 = f pair.1) :
    others = items.map f :=
  calc others
      = (items.zip others).map Prod.snd := (List.map_snd_zip (Nat.le_of_eq length.symm)).symm
    _ = (items.zip others).map (f ∘ Prod.fst) := List.map_congr_left each
    _ = items.map f := by rw [← List.map_map, List.map_fst_zip (Nat.le_of_eq length)]

/-- A value has no other. -/
theorem HasCanonical.eq {value other : Value} (canonical : value.HasCanonical other) :
    other = value.canonical := by
  induction canonical with
  | null | bool | int | str => rfl
  | whole equal small =>
      rw [Value.canonical, plainInt?_eq_some_iff.mpr ⟨equal, small⟩]
  | @float x other =>
      rcases canonical_float x with ⟨n, plain, -⟩ | ⟨-, same⟩
      · obtain ⟨equal, small⟩ := plainInt?_eq_some_iff.mp plain
        exact absurd equal (other n small)
      · exact same.symm
  | @arr items others length each ih =>
      rw [Value.canonical, canonicalItems_eq_map]
      rw [eq_map_of_zip length ih]
  | @obj members others length keys each ih =>
      have same : others = members.map fun member => (member.1, member.2.canonical) :=
        eq_map_of_zip length fun pair inside => Prod.ext (keys pair inside).symm (ih pair inside)
      rw [Value.canonical, canonicalMembers_eq_map, same]

/-- Canonical values stay as they are. -/
theorem IsWritable.canonical_canonical {value : Value} (writable : value.IsWritable) :
    value.canonical.canonical = value.canonical := by
  induction writable with
  | null | bool | int | str => rfl
  | float negative rank =>
      rcases canonical_float (.finite negative rank) with ⟨n, -, same⟩ | ⟨-, same⟩
      · rw [same]
        rfl
      · rw [same, same]
  | @arr items _ ih =>
      simp only [Value.canonical, canonicalItems_eq_map, List.map_map]
      congr 1
      exact List.map_congr_left ih
  | @obj members _ _ ih =>
      simp only [Value.canonical, canonicalMembers_eq_map, List.map_map]
      congr 1
      exact List.map_congr_left fun member inside => Prod.ext rfl (ih member inside)

/-- JSON has a text for a canonical value. -/
theorem IsWritable.canonical {value : Value} (writable : value.IsWritable) :
    value.canonical.IsWritable := by
  induction writable with
  | null => exact .null
  | bool truth => exact .bool truth
  | int short => exact .int short
  | float negative rank =>
      rcases canonical_float (.finite negative rank) with ⟨n, plain, same⟩ | ⟨-, same⟩
      · rw [same]
        exact .int (exceedsLimit_of_plainInt? plain)
      · rw [same]
        exact .float negative rank
  | str text => exact .str text
  | @arr items _ ih =>
      rw [Value.canonical, canonicalItems_eq_map]
      exact .arr (List.forall_mem_map.mpr ih)
  | @obj members distinct _ ih =>
      rw [Value.canonical, canonicalMembers_eq_map]
      refine .obj ?_ (List.forall_mem_map.mpr ih)
      rwa [List.map_map]

end Json.Value

/-- The canonical text of a value is read back as its canonical value.  That value has the same
text, and two values have the same text exactly when they have the same canonical value. -/
theorem canonical_text_faithful {value : Value} {sets : List (List Value)}
    (writable : value.IsWritable) (isFirst : IsFirst value sets) :
    ∃ text, firstValue sets = .ok (value, text) ∧
      readBytes false (Utf8.encode text) = .ok value.canonical ∧
      (∀ other, value.HasCanonical other ↔ other = value.canonical) ∧
      (∀ later, IsFirst value.canonical later →
        firstValue later = .ok (value.canonical, text)) ∧
      ∀ other others, other.IsWritable → IsFirst other others →
        (firstValue others = .ok (other, text) ↔ other.canonical = value.canonical) := by
  have canonical := writable.canonical
  refine ⟨value.canonical.write .plain, ?_, canonical.readBytes_write .plain false, ?_, ?_, ?_⟩
  · exact firstValue_eq_ok_iff.mpr ⟨isFirst, writable.hasLongInt_eq, rfl⟩
  · intro other
    constructor
    · exact Value.HasCanonical.eq
    · rintro rfl
      exact writable.hasCanonical
  · intro later isFirst
    refine firstValue_eq_ok_iff.mpr ⟨isFirst, canonical.hasLongInt_eq, ?_⟩
    rw [writable.canonical_canonical]
  · intro other others writableToo isFirstToo
    rw [firstValue_eq_ok_iff]
    constructor
    · rintro ⟨-, -, same⟩
      exact writableToo.canonical.eq_of_write_eq .plain canonical same.symm
    · intro same
      exact ⟨isFirstToo, writableToo.hasLongInt_eq, by rw [same]⟩

/-- Doubles that are integers, one of them a negative zero, lose their fraction and no more. -/
theorem canonical_text_faithful_of_integral :
    ∃ text, firstValue [[], [.arr [.float (.finite true ⟨0, by decide⟩), .bool true]]] =
        .ok (.arr [.float (.finite true ⟨0, by decide⟩), .bool true], text) ∧
      readBytes false (Utf8.encode text) = .ok (.arr [.int 0, .bool true]) := by
  have items : ∀ item ∈ [Value.float (.finite true ⟨0, by decide⟩), .bool true],
      item.IsWritable := by
    intro item member
    simp only [List.mem_cons, List.not_mem_nil, or_false] at member
    rcases member with rfl | rfl
    · exact .float true _
    · exact .bool true
  have isFirst : IsFirst (.arr [.float (.finite true ⟨0, by decide⟩), .bool true])
      [[], [.arr [.float (.finite true ⟨0, by decide⟩), .bool true]]] :=
    ⟨[[]], [], [], rfl, by simp⟩
  have canonical : (Value.arr [.float (.finite true ⟨0, by decide⟩), .bool true]).canonical =
      .arr [.int 0, .bool true] := by
    decide +kernel
  obtain ⟨text, found, read, -⟩ := canonical_text_faithful (.arr items) isFirst
  exact ⟨text, found, canonical ▸ read⟩

end HttpGauge
