import RequestFilter.Proofs.Json.Reads
import RequestFilter.Query.Evaluate
import RequestFilter.Query.Json

/-!
The JSON form of a query loses nothing.

The value of a predicate is written without a mark of what it is. Its two kinds are told apart when
it is read: a text is written as a string, and a count of bytes as a number or as null, which no
text is written as.
-/

set_option autoImplicit false

namespace RequestFilter

open Json (Fills Reads)

private theorem Flag.reads (levels : Nat) (f : Flag) : Reads Flag.decode levels (.string f.name) f
    := by
  have known :
      (all.map fun g => (g.name, g)).find? (fun n => n.1 == f.name) = some (f.name, f) := by
    cases f <;> rfl
  exact .oneOf levels known

private theorem FlagValue.reads (levels : Nat) {v : FlagValue}
    (writable : ∀ x ∈ v.size?, (Json.Number.double x).IsWritable) :
    Reads (Json.choice "FlagValue" FlagValue.ofJson?) levels v.toJson v := by
  cases v with
  | text s => exact .choice (.string levels s) rfl
  | size count =>
    cases count with
    | none => exact .choice (.null levels) rfl
    | some x => exact .choice (.number levels (writable x rfl)) rfl

private theorem Predicate.nodup_fields : (Predicate.shape.fields.map Json.Field.name).Nodup
    := by decide

private theorem Predicate.reads (levels : Nat) {p : Predicate}
    (writable : ∀ x ∈ p.value.size?, (Json.Number.double x).IsWritable) :
    Reads Predicate.decode (levels + 1) p.toJson p := by
  have fills : Fills levels Predicate.shape.fields
      [("type", .string p.flag.name), ("value", p.value.toJson), ("negative", .boolean p.negative)]
      Predicate.shape.empty ⟨some p.flag, some p.value, some p.negative⟩ :=
    .mandatory _ _ (Flag.reads levels p.flag) <|
    .mandatory _ _ (FlagValue.reads levels writable) <|
    .mandatory _ _ (.boolean levels p.negative) <|
    .nil _
  exact (Reads.shape nodup_fields fills).map Predicate.ofDraft

namespace Query

private theorem nodup_fields : (Query.shape.fields.map Json.Field.name).Nodup := by decide

private theorem reads (levels : Nat) {q : Query}
    (writable : ∀ p ∈ q.predicates, ∀ x ∈ p.value.size?, (Json.Number.double x).IsWritable) :
    Reads Query.decode (levels + 3) q.toJson q := by
  have fills : Fills (levels + 2) Query.shape.fields
      [("text", .array (q.terms.map .string)),
        ("flags", .array (q.predicates.map Predicate.toJson))]
      Query.shape.empty q :=
    .mandatory _ _ (.list fun s _ => .string (levels + 1) s) <|
    .mandatory _ _ (.list fun p hp => Predicate.reads levels (writable p hp)) <|
    .nil _
  exact .shape nodup_fields fills

/-- A query is read back from its JSON text and accepts the same requests as before, if the counts
of bytes in it are finite and are read from their texts as they are. -/
theorem ofJson_toJson {q : Query}
    (finite : ∀ p ∈ q.predicates, ∀ x ∈ p.value.size?, x.isFinite = true)
    (readBack : ∀ p ∈ q.predicates, ∀ x ∈ p.value.size?, Json.IsReadBack x) :
    ∃ back, Query.ofJson q.toJson.toText = .ok back ∧ back = q ∧
      ∀ r : Request, back.accepts r = q.accepts r := by
  refine ⟨q, ?_, rfl, fun _ => rfl⟩
  have whole := Json.decodeText_text
    (reads 124 fun p hp x hx => ⟨finite p hp x hx, readBack p hp x hx⟩)
  rwa [Query.ofJson, Json.Value.toText, String.toList_ofList]

/-- A query with characters that are escaped, a negative tenth on a flag that takes no count, an
unknown count, and a text. -/
theorem ofJson_toJson_applied :
    let q : Query :=
      ⟨["say \"hi\"\n", "-\u0007é\\"],
        [⟨.method, .size (some (Decimal.toDouble true ⟨1, -1⟩)), true⟩, ⟨.size, .size none, false⟩,
          ⟨.regexp, .text "\t", false⟩]⟩
    (∀ p ∈ q.predicates, ∀ x ∈ p.value.size?, x.isFinite = true) ∧
      ∃ back, Query.ofJson q.toJson.toText = .ok back ∧ back = q ∧
        ∀ r : Request, back.accepts r = q.accepts r := by
  intro q
  have tenth : Decimal.toDouble true ⟨1, -1⟩ = .ranked true 0x3FB999999999999A (by decide) := by
    decide +kernel
  have finite : ∀ p ∈ q.predicates, ∀ x ∈ p.value.size?, x.isFinite = true := by
    have isFinite : (Decimal.toDouble true ⟨1, -1⟩).isFinite = true := by decide +kernel
    simp [q, FlagValue.size?, isFinite]
  have readBack : ∀ p ∈ q.predicates, ∀ x ∈ p.value.size?, Json.IsReadBack x := by
    have read : Json.IsReadBack (Decimal.toDouble true ⟨1, -1⟩) := by
      rw [tenth]
      exact Json.isReadBack_of_shortest true _ (by decide +kernel) (by decide +kernel)
    simpa [q, FlagValue.size?] using read
  exact ⟨finite, ofJson_toJson finite readBack⟩

end Query
end RequestFilter
