import RequestFilter.Proofs.Json.Written

/-!
Decoders on written values.

`Reads decoder levels v a` says that a decoder takes the written value `v` for `a`. There is one
lemma for each way of making decoders, so that what a decoder makes of a written value follows from
what its parts make of the parts. A structure is read from an object that names its fields in
order: `Fills` goes through the fields and the members together.
-/

set_option autoImplicit false

namespace RequestFilter.Json

open Numeral (Ends)

/-- A decoder takes a written value for `a`, whatever text follows. -/
structure Reads {α : Type} (decoder : Decoder α) (levels : Nat) (v : Value) (a : α) : Prop where
  fits : v.Fits levels
  decoded : ∀ rest, Ends rest → decoder levels (v.tree rest) = .ok a

namespace Reads

variable {α β : Type} {decoder : Decoder α} {levels : Nat} {v : Value} {a : α}

/-! ### Scalars -/

theorem string (levels : Nat) (s : String) : Reads Json.string levels (.string s) s where
  fits := .string levels s
  decoded rest _ := by simp [Json.string, Value.tree, readString_quotedTail, Except.map]

theorem boolean (levels : Nat) (b : Bool) : Reads Json.boolean levels (.boolean b) b where
  fits := .boolean levels b
  decoded rest _ := by cases b <;> rfl

theorem double (levels : Nat) {x : Double} (writable : (Number.double x).IsWritable) :
    Reads Json.double levels (.number (.double x)) x where
  fits := .number levels writable
  decoded rest ends := by
    have read := readNumber_text writable ends
    simp [Json.double, Value.tree, read, Except.map, Number.toDouble]

theorem word16 (levels : Nat) {n : Nat} (small : n < 0x10000) :
    Reads Json.word16 levels (.number (.natural n)) n where
  fits := .number levels (Nat.lt_trans small (by decide))
  decoded rest ends := by
    have writable : (Number.natural n).IsWritable := Nat.lt_trans small (by decide)
    simp [Json.word16, Value.tree, readNumber_text writable ends, small]

theorem oneOf (levels : Nat) {names : List (String × α)} {name key : String}
    (known : names.find? (fun n => n.1 == name) = some (key, a)) :
    Reads (Json.oneOf names) levels (.string name) a where
  fits := .string levels name
  decoded rest _ := by
    simp [Json.oneOf, named, Value.tree, readString_quotedTail, known, Except.map]

/-! ### Values that may be null, and values of several shapes -/

theorem optional_null (decoder : Decoder α) (levels : Nat) :
    Reads (Json.optional decoder) levels .null none where
  fits := .null levels
  decoded _ _ := rfl

theorem optional (h : Reads decoder levels v a) (present : v ≠ .null) :
    Reads (Json.optional decoder) levels v (some a) where
  fits := h.fits
  decoded rest ends := by
    have read := h.decoded rest ends
    cases v with
    | null => exact absurd rfl present
    | boolean b => cases b <;> simp_all [Json.optional, Value.tree, Except.map]
    | number n => simp_all [Json.optional, Value.tree, Except.map]
    | string s => simp_all [Json.optional, Value.tree, Except.map]
    | array vs => simp_all [Json.optional, Value.tree, Except.map]
    | object ms => simp_all [Json.optional, Value.tree, Except.map]

theorem orDefault (default : α) (h : Reads decoder levels v a) (present : v ≠ .null) :
    Reads (Json.orDefault default decoder) levels v a where
  fits := h.fits
  decoded rest ends := by
    simp [Json.orDefault, (h.optional present).decoded rest ends, Except.map]

theorem choice {name : String} {accept? : Value → Option α} (fits : v.Fits levels)
    (accepted : accept? v = some a) : Reads (Json.choice name accept?) levels v a where
  fits := fits
  decoded rest ends := by simp [Json.choice, value_tree fits ends, accepted]

theorem map (g : α → β) (h : Reads decoder levels v a) :
    Reads (fun levels node => (decoder levels node).map g) levels v (g a) where
  fits := h.fits
  decoded rest ends := by rw [h.decoded rest ends, Except.map]

/-! ### Lists -/

theorem list {toJson : α → Value} {as : List α}
    (each : ∀ a ∈ as, Reads decoder levels (toJson a) a) :
    Reads (Json.list decoder) (levels + 1) (.array (as.map toJson)) as where
  fits := by
    refine .array fun v hv => ?_
    obtain ⟨a, member, rfl⟩ := List.mem_map.mp hv
    exact (each a member).fits
  decoded rest _ := by
    have items : (itemsTree (as.map toJson) rest).decode decoder levels = .ok as := by
      induction as with
      | nil => simp [itemsTree, Items.decode]
      | cons a as ih =>
        have first := (each a List.mem_cons_self).decoded _ (ends_itemsText (as.map toJson) rest)
        have tail := ih fun b hb => each b (List.mem_cons_of_mem a hb)
        simp only [List.map_cons, itemsTree, Items.decode, first, tail, Except.mapError, bind,
          Except.bind, pure, Except.pure]
    simp only [Json.list, Value.tree, enter, items, bind, Except.bind]

end Reads

/-! ### Structures -/

/-- The members name the fields in order, and reading them takes one draft to another. -/
inductive Fills {δ : Type} (levels : Nat) :
    List (Field δ) → List (String × Value) → δ → δ → Prop
  | nil (draft : δ) : Fills levels [] [] draft draft
  | cons {f : Field δ} {fs : List (Field δ)} {v : Value} {ms : List (String × Value)}
      {before draft after : δ} (fits : v.Fits levels)
      (put : ∀ rest, Ends rest → f.put levels (v.tree rest) before = .ok draft)
      (more : Fills levels fs ms draft after) :
      Fills levels (f :: fs) ((f.name, v) :: ms) before after

namespace Fills

variable {α δ : Type} {levels : Nat} {fs : List (Field δ)} {ms : List (String × Value)}
  {before after : δ}

theorem defaulted {decoder : Decoder α} {v : Value} {a : α} (name : String) (set : δ → α → δ)
    (h : Reads decoder levels v a) (more : Fills levels fs ms (set before a) after) :
    Fills levels (.defaulted name decoder set :: fs) ((name, v) :: ms) before after := by
  refine .cons (f := .defaulted name decoder set) h.fits (fun rest ends => ?_) more
  simp only [Field.defaulted, h.decoded rest ends, Except.map]

theorem mandatory {decoder : Decoder α} {v : Value} {a : α} (name : String) (set : δ → α → δ)
    (h : Reads decoder levels v a) (more : Fills levels fs ms (set before a) after) :
    Fills levels (.mandatory name decoder set :: fs) ((name, v) :: ms) before after := by
  refine .cons (f := .mandatory name decoder set) h.fits (fun rest ends => ?_) more
  simp only [Field.mandatory, h.decoded rest ends, Except.map]

private theorem fits (h : Fills levels fs ms before after) : ∀ m ∈ ms, m.2.Fits levels := by
  induction h with
  | nil => nofun
  | cons first _ _ ih =>
    intro m hm
    rcases List.mem_cons.mp hm with rfl | later
    · exact first
    · exact ih m later

end Fills

namespace Shape

variable {δ : Type} {shape : Shape δ}

private theorem find?_name {f : Field δ} {fs : List (Field δ)} (nodup : (fs.map Field.name).Nodup)
    (member : f ∈ fs) : fs.find? (fun g => g.name == f.name) = some f := by
  induction fs with
  | nil => cases member
  | cons g gs ih =>
    rw [List.map_cons, List.nodup_cons] at nodup
    rcases List.mem_cons.mp member with rfl | later
    · simp
    · have other : (g.name == f.name) = false := by
        rw [beq_eq_false_iff_ne]
        intro same
        exact nodup.1 (same ▸ List.mem_map_of_mem later)
      rw [List.find?_cons, other]
      exact ih nodup.2 later

private theorem decodeMembers_membersTree (nodup : (shape.fields.map Field.name).Nodup)
    {levels : Nat} {fs done : List (Field δ)} {ms : List (String × Value)} {before after : δ}
    (fills : Fills levels fs ms before after) (split : shape.fields = done ++ fs)
    (rest : List Char) :
    shape.decodeMembers levels (membersTree ms rest) (done.map Field.name).reverse before =
      .ok after := by
  induction fills generalizing done with
  | nil draft =>
    have complete : shape.fields.find? (fun f => f.required &&
        !((done.map Field.name).reverse.contains f.name)) = none := by
      rw [List.find?_eq_none]
      intro f hf
      rw [split, List.append_nil] at hf
      have seen : f.name ∈ done.map Field.name := List.mem_map_of_mem hf
      simp [seen]
    rw [membersTree, decodeMembers, complete]
  | @cons f fs v ms before draft after fits put more ih =>
    have member : f ∈ shape.fields := by simp [split]
    have fresh : (done.map Field.name).reverse.contains f.name = false := by
      rw [split, List.map_append, List.map_cons] at nodup
      have apart := (List.nodup_append.mp nodup).2.2
      rw [Bool.eq_false_iff, ne_eq, List.contains_iff_mem, List.mem_reverse]
      exact fun seen => apart _ seen _ List.mem_cons_self rfl
    have here := put _ (ends_membersText ms rest)
    have moved : shape.fields = (done ++ [f]) ++ fs := by simp [split]
    have later := ih moved
    rw [List.map_append, List.reverse_append] at later
    simp only [membersTree, decodeMembers, readString_quotedTail, find?_name nodup member, fresh,
      Field.putAt, here, Except.mapError, bind, Except.bind, Bool.false_eq_true, if_false]
    exact later

end Shape

/-- A structure is read from an object that names its fields in order. -/
theorem Reads.shape {δ : Type} {shape : Shape δ} {levels : Nat} {ms : List (String × Value)} {a : δ}
    (nodup : (shape.fields.map Field.name).Nodup)
    (fills : Fills levels shape.fields ms shape.empty a) :
    Reads shape.decode (levels + 1) (.object ms) a where
  fits := .object fills.fits
  decoded rest _ := by
    have members := Shape.decodeMembers_membersTree nodup fills (List.nil_append _).symm rest
    simp only [Shape.decode, Value.tree, enter, bind, Except.bind]
    exact members

/-! ### Whole texts -/

theorem decodeText_text {α : Type} {decoder : Decoder α} {v : Value} {a : α}
    (h : Reads decoder maxDepth v a) : decodeText decoder v.text = .ok a := by
  have decoded := h.decoded [] Numeral.ends_nil
  simp only [decodeText, read_text h.fits, decoded, rest?_tree h.fits, Option.getD_some]
  rfl

end RequestFilter.Json
