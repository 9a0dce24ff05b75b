import RequestFilter.Proofs.Json.Gap
import RequestFilter.Proofs.Json.Integral
import RequestFilter.Proofs.Request.Gap
import RequestFilter.Proofs.Request.Json

/-!
The status of a request, from a number or a text.

A whole number is a status by its digits. Digits alone may be any number that 64 bits hold. Every
other spelling, with a sign, with zeros behind a point or with an exponent, is read as a number of
64 bits first, and the status is the digits of that. It is the number that is spelled if that is one
of 64 bits and the digits without the point are too.
-/

set_option autoImplicit false

namespace RequestFilter

open Json (Gap Phrase QuotedText SpelledNumeral onPhrase)

/-! ### What is read of a number -/

private theorem status?_of_toInt? {n : Json.Number} {z : Int} (rounded : ∀ m, n ≠ .natural m)
    (whole : n.toDouble.toInt? = some z) (lower : -2 ^ 63 ≤ z) (upper : z < 2 ^ 63) :
    status? (.number n) = some (toString z) := by
  have inside : clampToInt64 z = z := by
    rw [clampToInt64]
    omega
  have digits : statusOfDouble n.toDouble = toString z := by
    simp only [statusOfDouble, whole, inside]
  cases n with
  | natural m => exact absurd rfl (rounded m)
  | negative | double => exact congrArg some digits

/-- The spellings of a status: a text, or a numeral that denotes a whole number. The digits of the
number are the status if the numeral is digits alone that 64 bits hold. They are, too, if the number
is one of 64 bits, and so is the significand that is taken of the numeral where it is divided by a
power of ten. Every numeral that is not digits alone gives the digits of the number that it is read
as, within 64 signed bits. -/
inductive SpellsStatus : Phrase → String → Prop
  | text {s : QuotedText} {status : String} (content : s.content? = some status) :
      SpellsStatus (.string s) status
  | digits {n : SpelledNumeral} {z : Int} (plain : n.numeral.IsPlain)
      (denotes : n.numeral.value = z) (bound : z < 2 ^ 64) : SpellsStatus (.number n) (toString z)
  | exact {n : SpelledNumeral} {z : Int} {x : Double} (denotes : n.numeral.value = z)
      (whole : x.toInt? = some z) (lower : -2 ^ 63 ≤ z) (upper : z < 2 ^ 63)
      (divided : n.numeral.taken.exponent < 0 →
        ∃ y : Double, y.toInt? = some (n.numeral.taken.significand : Int)) :
      SpellsStatus (.number n) (toString z)
  | rounded {n : SpelledNumeral} {y : Int} (marked : ¬n.numeral.IsPlain)
      (read : n.numeral.double.toInt? = some y) (lower : -2 ^ 63 ≤ y) (upper : y < 2 ^ 63) :
      SpellsStatus (.number n) (toString y)

namespace SpellsStatus

variable {p : Phrase} {status : String}

private theorem ne_null (spelled : SpellsStatus p status) : p ≠ .word .null := by
  cases spelled <;> exact Phrase.noConfusion

private theorem onPhrase_value_number {n : SpelledNumeral}
    (finite : n.numeral.number.toDouble.isFinite = true) (levels : Nat) :
    onPhrase Json.Node.value levels (.number n) = some (.number n.numeral.number) := by
  have read := n.toOption_readNumber Json.Numeral.ends_nil
  rw [SpelledNumeral.number?, if_pos finite] at read
  simp only [onPhrase, Phrase.tree, Json.Node.value, toOption_map, read, Option.map_some]

private theorem onPhrase_status (spelled : SpellsStatus p status) (levels : Nat) :
    onPhrase (Json.choice "Status" status?) levels p = some status := by
  have natural {n : SpelledNumeral} {m : Nat} {z : Int}
      (number : n.numeral.number = .natural m) (bound : m < 2 ^ 64) (same : z = m) :
      onPhrase (Json.choice "Status" status?) levels (.number n) = some (toString z) := by
    have finite : n.numeral.number.toDouble.isFinite = true := by
      rw [number]
      exact Double.isFinite_ofRatio_whole false bound
    rw [Json.onPhrase_choice, onPhrase_value_number finite, Option.bind_some, number, same]
    rfl
  have rounded {n : SpelledNumeral} {z : Int} (other : ∀ m, n.numeral.number ≠ .natural m)
      (whole : n.numeral.number.toDouble.toInt? = some z) (lower : -2 ^ 63 ≤ z)
      (upper : z < 2 ^ 63) :
      onPhrase (Json.choice "Status" status?) levels (.number n) = some (toString z) := by
    rw [Json.onPhrase_choice, onPhrase_value_number (Double.isFinite_of_toInt? whole),
      Option.bind_some, status?_of_toInt? other whole lower upper]
  cases spelled with
  | @text s status content =>
    have read := s.toOption_readString []
    rw [content] at read
    rw [Json.onPhrase_choice]
    simp only [onPhrase, Phrase.tree, Json.Node.value, toOption_map, read, Option.map_some]
    rfl
  | digits plain denotes bound =>
    obtain ⟨m, number, same⟩ := Json.Numeral.number_of_isPlain plain denotes bound
    exact natural number (by omega) same
  | @exact n z x denotes whole lower upper divided =>
    by_cases plain : n.numeral.IsPlain
    · obtain ⟨m, number, same⟩ := Json.Numeral.number_of_isPlain plain denotes (by omega)
      exact natural number (by omega) same
    · have other (m : Nat) (number : n.numeral.number = .natural m) :=
        plain (Json.Numeral.isPlain_of_number number)
      refine rounded other ?_ lower upper
      rw [Json.Numeral.toInt?_number plain]
      refine Json.Numeral.toInt?_double n.formed denotes whole (by omega) fun negative => ?_
      obtain ⟨y, significand⟩ := divided negative
      exact Double.isShort_of_toInt? significand
  | rounded marked read lower upper =>
    have other (m : Nat) (number : _ = Json.Number.natural m) :=
      marked (Json.Numeral.isPlain_of_number number)
    refine rounded other ?_ lower upper
    rw [Json.Numeral.toInt?_number marked, read]

end SpellsStatus

/-! ### The status of a request -/

namespace Request

def statusField : Json.Field Request :=
  .defaulted "status" (Json.optional (Json.choice "Status" status?))
    fun r v => { r with status := v }

private theorem statusField_mem : statusField ∈ shape.fields :=
  List.mem_of_getElem? (i := 2) rfl

abbrev StatusGap := Gap shape statusField

private theorem fill_statusField {p : Phrase} {status : String} (spelled : SpellsStatus p status)
    (levels : Nat) (r : Request) :
    statusField.fill levels p r = some { r with status := some status } := by
  rw [statusField, Json.Field.fill_defaulted, Json.onPhrase_optional spelled.ne_null,
    spelled.onPhrase_status]
  rfl

private theorem keeps_status (known : Option String) :
    ∀ f ∈ shape.fields, f.name ≠ "status" → f.Keeps fun r => r.status = known := by
  have other {α : Type} {decoder : Json.Decoder α} {set : Request → α → Request} (name : String)
      (untouched : ∀ r a, (set r a).status = r.status) :
      (Json.Field.defaulted name decoder set).name ≠ "status" →
        (Json.Field.defaulted name decoder set).Keeps fun r => r.status = known := by
    intro _
    exact Json.Field.keeps_defaulted (fun _ => True) name (fun _ _ _ _ => trivial)
      fun r a kept _ => (untouched r a).trans kept
  simp only [shape, List.forall_mem_cons]
  refine ⟨other _ fun _ _ => rfl, other _ fun _ _ => rfl, fun differs => absurd rfl differs,
    other _ fun _ _ => rfl, other _ fun _ _ => rfl, other _ fun _ _ => rfl, other _ fun _ _ => rfl,
    other _ fun _ _ => rfl, other _ fun _ _ => rfl, other _ fun _ _ => rfl, other _ fun _ _ => rfl,
    other _ fun _ _ => rfl, other _ fun _ _ => rfl, other _ fun _ _ => rfl, List.forall_mem_nil _⟩

section Gap

variable {p q : Phrase} {status : String} (spelled : SpellsStatus p status) (gap : StatusGap)
  (levels : Nat)
include spelled

private theorem ofPhrase?_fill_eq (spelled' : SpellsStatus q status) :
    ofPhrase? (levels + 1) (gap.fill p) = ofPhrase? (levels + 1) (gap.fill q) := by
  refine (gap.splits isFreeForm nodup_fields statusField_mem levels).made_eq ?_
  funext r
  rw [fill_statusField spelled, fill_statusField spelled']

private theorem status_of_ofPhrase? {r : Request}
    (read : ofPhrase? (levels + 1) (gap.fill p) = some r) :
    r.status = some status := by
  refine (gap.splits isFreeForm nodup_fields statusField_mem levels).made_keeps
    (P := fun r => r.status = some status) (keeps_status _) (fun before after filled => ?_) read
  rw [fill_statusField spelled] at filled
  cases filled
  rfl

end Gap

end Request

/-- A dump is loaded alike with two spellings of one status in a request, and the request has that
status. -/
theorem load_status {p q : Phrase} {status : String} (spelled : SpellsStatus p status)
    (spelled' : SpellsStatus q status) (dump : Request.DumpGap) (gap : Request.StatusGap)
    (taken : dump.Takes (gap.fill p)) (taken' : dump.Takes (gap.fill q)) (rs : List Request) :
    (Request.load (dump.fill (gap.fill p)) = .ok rs ↔
        Request.load (dump.fill (gap.fill q)) = .ok rs) ∧
      (Request.load (dump.fill (gap.fill p)) = .ok rs →
        ∃ r, rs[dump.place]? = some r ∧ r.status = some status) := by
  obtain ⟨levels, start, next, count, load⟩ := dump.exists_load
  have read := load _ (gap.isNested_fill p) taken
  have read' := load _ (gap.isNested_fill q) taken'
  constructor
  · have same := Request.ofPhrase?_fill_eq spelled gap levels spelled'
    rw [← toOption_eq_some_iff, ← toOption_eq_some_iff, read, read', Request.around, same]
    rfl
  · intro loaded
    rw [← toOption_eq_some_iff, read] at loaded
    obtain ⟨first, r, others, started, here, -, rfl⟩ := Request.around_eq_some_iff.mp loaded
    refine ⟨r, ?_, Request.status_of_ofPhrase? spelled gap levels here⟩
    rw [← count first started, List.getElem?_append_right (Nat.le_refl _), Nat.sub_self]
    rfl

/-- The least number of 64 signed bits, with a point and an exponent and as a text, in a request
that is an array on the second line. -/
theorem load_status_applied :
    let number := "\x7b\"url\":\"u\"\x7d\n[\"v\",null,-9.223372036854775808E+18]"
    let text := "\x7b\"url\":\"u\"\x7d\n[\"v\",null,\"-9223372036854775808\"]"
    let r : Request := { url := "v", status := some "-9223372036854775808" }
    Request.load text = .ok [{ url := "u" }, r] ∧ Request.load number = .ok [{ url := "u" }, r] ∧
      ∃ found, [{ url := "u" }, r][1]? = some found ∧
        found.status = some (toString (-2 ^ 63 : Int)) := by
  intro number text r
  let numeral : Json.Numeral :=
    ⟨true, ['9'], some "223372036854775808".toList, some (false, ['1', '8'])⟩
  let n : SpelledNumeral := {
    numeral, exponent := ['E', '+', '1', '8']
    formed := by
      refine ⟨Or.inr ⟨'9', [], rfl, by decide, by simp [numeral]⟩, ?_, ?_⟩
      · rintro ds ⟨⟩
        exact ⟨by decide, List.all_eq_true.mp (by decide)⟩
      · rintro power ⟨⟩
        exact ⟨by decide, List.all_eq_true.mp (by decide)⟩
    spells := .signed (Or.inr rfl) false ['1', '8'] }
  have decimal : n.numeral.decimal = ⟨2 ^ 63, 0⟩ := by decide +kernel
  have denotes : n.numeral.value = (-2 ^ 63 : Int) := by
    rw [Json.Numeral.value, if_pos rfl, decimal]
    norm_num [Decimal.value]
  have undivided : ¬n.numeral.taken.exponent < 0 := by decide +kernel
  have spelled : SpellsStatus (.number n) (toString (-2 ^ 63 : Int)) :=
    .exact (x := .ofInt (-2 ^ 63)) denotes (by decide +kernel) (by decide) (by decide)
      fun divided => absurd divided undivided
  have spelled' : SpellsStatus (.string (.ofString (toString (-2 ^ 63 : Int))))
      (toString (-2 ^ 63 : Int)) := .text (QuotedText.content?_ofString _)
  let dump : Request.DumpGap :=
    .line ["\x7b\"url\":\"u\"\x7d".toList] [] (by simp) .empty .empty
  let gap : Request.StatusGap :=
    .element .empty [.bare (.string (.ofString "v")), .bare (.word .null)] [] .empty .empty rfl
  have filled : dump.fill (gap.fill (.number n)) = number := by decide +kernel
  have filled' : dump.fill (gap.fill (.string (.ofString (toString (-2 ^ 63 : Int))))) = text := by
    decide +kernel
  have taken : dump.Takes (gap.fill (.number n)) := ⟨by decide +kernel, by decide +kernel⟩
  have taken' : dump.Takes (gap.fill (.string (.ofString (toString (-2 ^ 63 : Int))))) :=
    ⟨by decide +kernel, by decide +kernel⟩
  have loaded : Request.load text = .ok [{ url := "u" }, r] := by decide +kernel
  have alike := load_status spelled spelled' dump gap taken taken' [{ url := "u" }, r]
  rw [filled, filled'] at alike
  exact ⟨loaded, alike.1.mpr loaded, alike.2 (alike.1.mpr loaded)⟩

/-- Requests that are loaded with a numeral as their status have the digits of a number. -/
def ShowsDigits (n : SpelledNumeral) (z : Int) : Prop :=
  ∀ (dump : Request.DumpGap) (gap : Request.StatusGap) (rs : List Request),
    dump.Takes (gap.fill (.number n)) → Request.load (dump.fill (gap.fill (.number n))) = .ok rs →
    ∃ r, rs[dump.place]? = some r ∧ r.status = some (toString z)

private def loneDump : Request.DumpGap := .array .empty .empty .empty [] [] .empty .empty

private def loneStatus : Request.StatusGap :=
  .member .empty [.bare "url" (.string (.ofString "a"))] [] (.bare (.ofString "status"))
    .empty .empty (QuotedText.content?_ofString _)

/-- The largest odd number of 53 bits, with a zero behind a point. -/
private def withPoint : SpelledNumeral where
  numeral := ⟨false, "9007199254740991".toList, some ['0'], none⟩
  exponent := []
  formed := Json.Numeral.isWellFormed_fraction false
    (Or.inr ⟨'9', "007199254740991".toList, by decide, by decide,
      List.all_eq_true.mp (by decide)⟩) Json.Numeral.isDigits_zero
  spells := .none

/-- The least whole number that is no number of 64 bits, with an exponent. -/
private def withPower : SpelledNumeral where
  numeral := ⟨false, "9007199254740993".toList, none, some (false, ['0'])⟩
  exponent := ['e', '0']
  formed := by
    refine ⟨Or.inr ⟨'9', "007199254740993".toList, by decide, by decide,
      List.all_eq_true.mp (by decide)⟩, ?_, ?_⟩
    · intro ds absent
      cases absent
    · rintro power ⟨⟩
      exact ⟨by decide, List.all_eq_true.mp (by decide)⟩
  spells := .unsigned (Or.inl rfl) ['0']

/-- A whole number is not always read by its digits: not if it is a number of 64 bits and is spelled
with a zero behind a point, and not if 64 bits hold it and it is spelled with an exponent. -/
theorem not_load_status_digits :
    (¬ ∀ (n : SpelledNumeral) (z : Int), n.numeral.value = z →
        (∃ x : Double, x.toInt? = some z) → ShowsDigits n z) ∧
      ¬ ∀ (n : SpelledNumeral) (z : Int), n.numeral.value = z → 0 ≤ z → z < 2 ^ 64 →
        n.numeral.fraction = none → ShowsDigits n z := by
  constructor
  · intro digits
    have decimal : withPoint.numeral.decimal = ⟨90071992547409910, -1⟩ := by decide +kernel
    have denotes : withPoint.numeral.value = (9007199254740991 : Int) := by
      rw [Json.Numeral.value, if_neg (by decide), decimal]
      norm_num [Decimal.value]
    have double : (Double.ofNat 9007199254740991).toInt? = some 9007199254740991 := by
      decide +kernel
    have loaded : Request.load (loneDump.fill (loneStatus.fill (.number withPoint))) =
        .ok [{ url := "a", status := some "9007199254740990" }] := by decide +kernel
    obtain ⟨r, found, status⟩ :=
      digits withPoint _ denotes ⟨_, double⟩ loneDump loneStatus _ trivial loaded
    cases found
    exact absurd status (by decide +kernel)
  · intro digits
    have decimal : withPower.numeral.decimal = ⟨9007199254740993, 0⟩ := by decide +kernel
    have denotes : withPower.numeral.value = (9007199254740993 : Int) := by
      rw [Json.Numeral.value, if_neg (by decide), decimal]
      norm_num [Decimal.value]
    have loaded : Request.load (loneDump.fill (loneStatus.fill (.number withPower))) =
        .ok [{ url := "a", status := some "9007199254740992" }] := by decide +kernel
    obtain ⟨r, found, status⟩ :=
      digits withPower _ denotes (by decide) (by decide) rfl loneDump loneStatus _ trivial loaded
    cases found
    exact absurd status (by decide +kernel)

end RequestFilter
