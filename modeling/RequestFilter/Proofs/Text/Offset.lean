import RequestFilter.Proofs.Text.Run
import RequestFilter.Text.Offset

/-!
What is read of a text by offsets. A byte below 128 is a character of the text, so a search for such
a character among the bytes ends where a search among the characters ends; and an offset that is
the length of some beginning of the text lies between two characters.
-/

set_option autoImplicit false

namespace RequestFilter.Text

/-! ### Lengths in bytes -/

@[simp] theorem byteLength_nil : byteLength [] = 0 := rfl

@[simp] theorem byteLength_cons (c : Char) (cs : List Char) :
    byteLength (c :: cs) = c.utf8Size + byteLength cs := rfl

@[simp] theorem byteLength_append (a b : List Char) :
    byteLength (a ++ b) = byteLength a + byteLength b := by
  induction a with
  | nil => simp
  | cons c a ih => rw [List.cons_append, byteLength_cons, ih, byteLength_cons, Nat.add_assoc]

private theorem size_utf8Encode (cs : List Char) : cs.utf8Encode.size = byteLength cs := by
  induction cs with
  | nil => rfl
  | cons c cs ih =>
    rw [List.utf8Encode_cons, ByteArray.size_append, ih, List.utf8Encode_singleton]
    simp

theorem byteLength_toList (text : String) : byteLength text.toList = text.utf8ByteSize := by
  rw [← size_utf8Encode, ← String.toByteArray_ofList, String.ofList_toList,
    String.size_toByteArray]

private theorem byteLength_eq_zero_iff {cs : List Char} : byteLength cs = 0 ↔ cs = [] := by
  cases cs with
  | nil => simp
  | cons c cs =>
    have positive : 0 < c.utf8Size := Char.utf8Size_pos c
    simp only [byteLength_cons, reduceCtorEq, iff_false]
    omega

theorem byteLength_cons_ne_zero (c : Char) (cs : List Char) : byteLength (c :: cs) ≠ 0 :=
  fun none => List.cons_ne_nil c cs (byteLength_eq_zero_iff.mp none)

theorem prefix_iff_byteLength_le {a b text : List Char} (ha : a <+: text) (hb : b <+: text) :
    a <+: b ↔ byteLength a ≤ byteLength b := by
  constructor
  · rintro ⟨rest, rfl⟩
    rw [byteLength_append]
    omega
  · intro le
    rcases List.prefix_or_prefix_of_prefix ha hb with shorter | ⟨rest, rfl⟩
    · exact shorter
    · have none : rest = [] := by
        rw [byteLength_append] at le
        exact byteLength_eq_zero_iff.mp (by omega)
      simp [none]

theorem eq_of_byteLength_eq {a b text : List Char} (ha : a <+: text) (hb : b <+: text)
    (same : byteLength a = byteLength b) : a = b := by
  have shorter : a <+: b := (prefix_iff_byteLength_le ha hb).mpr (Nat.le_of_eq same)
  have longer : b <+: a := (prefix_iff_byteLength_le hb ha).mpr (Nat.le_of_eq same.symm)
  exact shorter.eq_of_length_le longer.length_le

/-! ### Bytes and characters -/

def byteList (cs : List Char) : List Char :=
  cs.flatMap fun c => (String.utf8EncodeChar c).map Char.ofUInt8

theorem byteChars_eq {text : String} {cs : List Char} (spelled : text.toList = cs) :
    byteChars text = (byteList cs).toArray := by
  have bytes : text.toUTF8 = cs.utf8Encode := by
    rw [String.toUTF8_eq_toByteArray, ← String.toByteArray_ofList, ← spelled,
      String.ofList_toList]
  rw [byteChars, bytes, List.utf8Encode, List.data_toByteArray, List.map_toArray, byteList,
    List.map_flatMap]

theorem byteList_append (a b : List Char) : byteList (a ++ b) = byteList a ++ byteList b :=
  List.flatMap_append

theorem length_byteList (cs : List Char) : (byteList cs).length = byteLength cs := by
  induction cs with
  | nil => rfl
  | cons c cs ih =>
    rw [byteList, List.flatMap_cons, ← byteList, List.length_append, ih]
    simp

theorem size_byteChars {text : String} {cs : List Char} (spelled : text.toList = cs) :
    (byteChars text).size = byteLength cs := by
  rw [byteChars_eq spelled, List.size_toArray, length_byteList]

private theorem toNat_ofUInt8 (b : UInt8) : (Char.ofUInt8 b).toNat = b.toNat :=
  UInt8.toNat_toUInt32 b

theorem byteList_cons {c : Char} (small : c.toNat < 128) (cs : List Char) :
    byteList (c :: cs) = c :: byteList cs := by
  have single : c.utf8Size = 1 :=
    Char.utf8Size_eq_one_iff.mpr (UInt32.le_iff_toNat_le.mpr (Nat.le_of_lt_succ small))
  have same : (Char.ofUInt8 c.val.toUInt8).toNat = c.toNat := by
    rw [toNat_ofUInt8, UInt32.toNat_toUInt8]
    exact Nat.mod_eq_of_lt (Nat.lt_trans small (by decide))
  rw [byteList, List.flatMap_cons, String.utf8EncodeChar_eq_singleton single, List.map_singleton,
    Char.toNat_inj.mp same]
  rfl

private theorem le_toNat_byte {n : Nat} (low : 128 ≤ n) (high : n < 256) :
    128 ≤ (Char.ofUInt8 (UInt8.ofNat n)).toNat := by
  rw [toNat_ofUInt8, UInt8.toNat_ofNat', Nat.mod_eq_of_lt high]
  exact low

private theorem le_toNat_of_mem_utf8EncodeChar {c d : Char} (large : 128 ≤ c.toNat)
    (hd : d ∈ (String.utf8EncodeChar c).map Char.ofUInt8) : 128 ≤ d.toNat := by
  have value : 128 ≤ c.val.toNat := large
  obtain ⟨b, hb, rfl⟩ := List.mem_map.mp hd
  revert hb
  fun_cases String.utf8EncodeChar c with
  | case1 v small => omega
  | case2 v | case3 v | case4 v =>
    intro hb
    simp only [List.mem_cons, List.not_mem_nil, or_false] at hb
    rcases hb with rfl | rfl | rfl | rfl <;> exact le_toNat_byte (by omega) (by omega)

private theorem mem_of_mem_byteList {d : Char} (small : d.toNat < 128) {cs : List Char}
    (hd : d ∈ byteList cs) : d ∈ cs := by
  induction cs with
  | nil => exact hd
  | cons c cs ih =>
    by_cases own : c.toNat < 128
    · rw [byteList_cons own] at hd
      rcases List.mem_cons.mp hd with rfl | later
      · exact List.mem_cons_self
      · exact List.mem_cons_of_mem c (ih later)
    · rw [byteList, List.flatMap_cons, ← byteList] at hd
      rcases List.mem_append.mp hd with part | later
      · have large := le_toNat_of_mem_utf8EncodeChar (Nat.le_of_not_lt own) part
        omega
      · exact List.mem_cons_of_mem c (ih later)

private theorem exists_byteList_cons (c : Char) (cs : List Char) :
    ∃ d ds, byteList (c :: cs) = d :: ds ∧ (d = c ∨ 128 ≤ d.toNat ∧ 128 ≤ c.toNat) := by
  by_cases own : c.toNat < 128
  · exact ⟨c, byteList cs, byteList_cons own cs, .inl rfl⟩
  · have large : 128 ≤ c.toNat := Nat.le_of_not_lt own
    have filled : (String.utf8EncodeChar c).map Char.ofUInt8 ≠ [] := by
      simp
    obtain ⟨d, ds, bytes⟩ := List.exists_cons_of_ne_nil filled
    refine ⟨d, ds ++ byteList cs, ?_, .inr ⟨?_, large⟩⟩
    · rw [byteList, List.flatMap_cons, bytes]
      rfl
    · exact le_toNat_of_mem_utf8EncodeChar large (bytes ▸ List.mem_cons_self)

private theorem exists_of_byteList_eq_cons {m : Char} (small : m.toNat < 128) {cs ds : List Char}
    (bytes : byteList cs = m :: ds) : ∃ rest, cs = m :: rest ∧ byteList rest = ds := by
  cases cs with
  | nil => cases bytes
  | cons c rest =>
    obtain ⟨d, _, first, same⟩ := exists_byteList_cons c rest
    obtain rfl : d = m := (List.cons.inj (first.symm.trans bytes)).1
    rcases same with rfl | ⟨large, _⟩
    · rw [byteList_cons small] at bytes
      exact ⟨rest, rfl, (List.cons.inj bytes).2⟩
    · omega

theorem head?_byteList {m : Char} (small : m.toNat < 128) {cs : List Char} :
    (byteList cs).head? = some m ↔ cs.head? = some m := by
  constructor
  · intro first
    obtain ⟨ds, bytes⟩ := List.head?_eq_some_iff.mp first
    obtain ⟨rest, rfl, _⟩ := exists_of_byteList_eq_cons small bytes
    rfl
  · intro first
    obtain ⟨rest, rfl⟩ := List.head?_eq_some_iff.mp first
    rw [byteList_cons small]
    rfl

theorem prefix_byteList_iff {marks cs : List Char} (small : ∀ m ∈ marks, m.toNat < 128) :
    marks <+: byteList cs ↔ marks <+: cs := by
  induction marks generalizing cs with
  | nil => simp
  | cons m marks ih =>
    have here : m.toNat < 128 := small m List.mem_cons_self
    have later : ∀ d ∈ marks, d.toNat < 128 := fun d hd => small d (List.mem_cons_of_mem m hd)
    constructor
    · rintro ⟨tail, bytes⟩
      obtain ⟨rest, rfl, same⟩ := exists_of_byteList_eq_cons here bytes.symm
      exact List.cons_prefix_cons.mpr ⟨rfl, (ih later).mp ⟨tail, same.symm⟩⟩
    · rintro ⟨rest, rfl⟩
      rw [List.cons_append, byteList_cons here]
      exact List.cons_prefix_cons.mpr ⟨rfl, (ih later).mpr (List.prefix_append marks rest)⟩

section Ascii

variable {p : Char → Bool} (ascii : ∀ c, p c = true → c.toNat < 128)

include ascii

/-- What holds of characters below 128 only holds of the first byte exactly if it holds of the first
character. -/
theorem exists_first_byte (c : Char) (cs : List Char) :
    ∃ d ds, byteList (c :: cs) = d :: ds ∧ p d = p c := by
  have other (x : Char) (large : 128 ≤ x.toNat) : p x = false :=
    Bool.eq_false_iff.mpr fun holds => Nat.not_lt_of_le large (ascii x holds)
  obtain ⟨d, ds, bytes, rfl | ⟨first, own⟩⟩ := exists_byteList_cons c cs
  · exact ⟨d, ds, bytes, rfl⟩
  · exact ⟨d, ds, bytes, by rw [other d first, other c own]⟩

theorem all_byteList (cs : List Char) : (byteList cs).all p = cs.all p := by
  induction cs with
  | nil => rfl
  | cons c cs ih =>
    cases holds : p c with
    | true => rw [byteList_cons (ascii c holds), List.all_cons, List.all_cons, ih]
    | false =>
      obtain ⟨d, ds, bytes, same⟩ := exists_first_byte ascii c cs
      rw [bytes, List.all_cons, List.all_cons, same, holds, Bool.false_and, Bool.false_and]

end Ascii

/-! ### Searches -/

section Search

variable {stops : Char → Bool} (ascii : ∀ c, stops c = true → c.toNat < 128)
  {before run rest : List Char}

include ascii in
private theorem not_stops_byteList (free : ∀ c ∈ run, stops c = false) :
    ∀ d ∈ byteList run, stops d = false := by
  intro d hd
  cases stop : stops d with
  | false => rfl
  | true =>
    have none := free d (mem_of_mem_byteList (ascii d stop) hd)
    rw [stop] at none
    cases none

include ascii in
private theorem endsRun_byteList (ended : EndsRun (fun c => !stops c) rest) :
    EndsRun (fun c => !stops c) (byteList rest) := by
  cases rest with
  | nil => exact endsRun_nil _
  | cons c cs =>
    have stop : stops c = true := by simpa using ended
    rw [byteList_cons (ascii c stop)]
    simpa using stop

include ascii in
theorem findIdx?_byteList_eq_none (free : ∀ c ∈ run, stops c = false) :
    (byteList run).findIdx? stops = none := by
  rw [List.findIdx?_eq_none_iff]
  exact not_stops_byteList ascii free

include ascii in
theorem findIdx?_byteList (free : ∀ c ∈ run, stops c = false) {mark : Char}
    (stop : stops mark = true) :
    (byteList (run ++ mark :: rest)).findIdx? stops = some (byteLength run) := by
  rw [byteList_append, byteList_cons (ascii mark stop), List.findIdx?_append,
    findIdx?_byteList_eq_none ascii free, List.findIdx?_cons, stop, length_byteList]
  simp

private theorem seek_of_stops {bytes : Array Char} {i : Nat} {c : Char}
    (read : byteAt bytes i = .ok c) (stop : stops c = true) (count : Nat) :
    seek stops bytes i (count + 1) = .ok i := by
  rw [seek, read]
  exact if_pos stop

private theorem seek_of_passed {bytes : Array Char} {i : Nat} {c : Char}
    (read : byteAt bytes i = .ok c) (passed : stops c = false) (count : Nat) :
    seek stops bytes i (count + 1) = seek stops bytes (i + 1) count := by
  rw [seek, read]
  exact if_neg (Bool.eq_false_iff.mp passed)

theorem byteAt_toArray (before : List Char) (c : Char) (after : List Char) :
    byteAt (before ++ c :: after).toArray before.length = .ok c := by
  simp [byteAt]

private theorem seek_toArray (free : ∀ c ∈ run, stops c = false)
    (ended : EndsRun (fun c => !stops c) rest) :
    seek stops (before ++ run ++ rest).toArray before.length (run.length + rest.length) =
      .ok (before.length + run.length) := by
  induction run generalizing before with
  | nil =>
    cases rest with
    | nil => rfl
    | cons c cs =>
      have stop : stops c = true := by simpa using ended
      have count : ([] : List Char).length + (c :: cs).length = cs.length + 1 := by simp
      rw [List.append_nil, count, seek_of_stops (byteAt_toArray before c cs) stop]
      rfl
  | cons c run ih =>
    have read : byteAt (before ++ c :: run ++ rest).toArray before.length = .ok c := by
      rw [List.append_assoc]
      exact byteAt_toArray before c (run ++ rest)
    have count : (c :: run).length + rest.length = run.length + rest.length + 1 := by
      rw [List.length_cons]
      omega
    have moved : before ++ c :: run ++ rest = (before ++ [c]) ++ run ++ rest := by simp
    have later := @ih (before ++ [c]) fun d hd => free d (List.mem_cons_of_mem c hd)
    rw [count, seek_of_passed read (free c List.mem_cons_self), moved]
    rw [List.length_append, List.length_singleton] at later
    rw [later, List.length_cons]
    congr 1
    omega

include ascii in
/-- A search through the bytes stops where a search through the characters does. -/
theorem seek_byteChars {text : String} (spelled : text.toList = before ++ run ++ rest)
    (free : ∀ c ∈ run, stops c = false) (ended : EndsRun (fun c => !stops c) rest) :
    seek stops (byteChars text) (byteLength before)
        ((byteChars text).size - byteLength before) =
      .ok (byteLength before + byteLength run) := by
  have count : (byteChars text).size - byteLength before =
      (byteList run).length + (byteList rest).length := by
    rw [size_byteChars spelled, length_byteList, length_byteList, byteLength_append,
      byteLength_append]
    omega
  rw [count, byteChars_eq spelled, byteList_append, byteList_append, ← length_byteList before,
    ← length_byteList run]
  exact seek_toArray (not_stops_byteList ascii free) (endsRun_byteList ascii ended)

end Search

/-! ### Reads and cuts -/

section Cuts

variable {text : String} {before piece after : List Char}

theorem getElem?_byteChars (spelled : text.toList = before ++ after) :
    (byteChars text)[byteLength before]? = (byteList after).head? := by
  rw [byteChars_eq spelled, byteList_append, ← length_byteList, List.getElem?_toArray,
    List.getElem?_append_right (Nat.le_refl _), Nat.sub_self, List.head?_eq_getElem?]

theorem bytesBetween_byteChars (spelled : text.toList = before ++ piece ++ after) :
    bytesBetween (byteChars text) (byteLength before) (byteLength before + byteLength piece) =
      .ok (byteList piece).toArray := by
  have size : ¬(byteChars text).size < byteLength before + byteLength piece := by
    rw [size_byteChars spelled]
    simp
  have cut : (byteChars text).extract (byteLength before)
      (byteLength before + byteLength piece) = (byteList piece).toArray := by
    rw [byteChars_eq spelled, byteList_append, byteList_append, ← length_byteList before,
      ← length_byteList piece]
    simp
  rw [bytesBetween, if_neg (by omega), if_neg size, cut]

private theorem isValid_byteLength (spelled : text.toList = before ++ after) :
    (String.Pos.Raw.mk (byteLength before)).IsValid text := by
  refine String.Pos.Raw.isValid_iff_exists_append.mpr ⟨.ofList before, .ofList after, ?_, ?_⟩
  · rw [← String.ofList_append, ← spelled, String.ofList_toList]
  · apply String.Pos.Raw.ext
    rw [String.byteIdx_rawEndPos, ← byteLength_toList, String.toList_ofList]

/-- An offset at which a text can be cut. -/
structure IsOffset (text : String) (i : Nat) : Prop where
  within : i ≤ text.utf8ByteSize
  between : (String.Pos.Raw.mk i).IsValid text

theorem isOffset_byteLength (spelled : text.toList = before ++ after) :
    IsOffset text (byteLength before) where
  within := by
    rw [← byteLength_toList, spelled, byteLength_append]
    exact Nat.le_add_right ..
  between := isValid_byteLength spelled

theorem textBetween_byteLength (spelled : text.toList = before ++ piece ++ after) :
    textBetween text (byteLength before) (byteLength before + byteLength piece) =
      .ok (.ofList piece) := by
  have size : ¬text.utf8ByteSize < byteLength before + byteLength piece := by
    rw [← byteLength_toList, spelled]
    simp
  have start : (String.Pos.Raw.mk (byteLength before)).IsValid text :=
    isValid_byteLength (spelled.trans (List.append_assoc ..))
  have stop : (String.Pos.Raw.mk (byteLength before + byteLength piece)).IsValid text := by
    rw [← byteLength_append]
    exact isValid_byteLength spelled
  have bytes : text.toByteArray = before.utf8Encode ++ (piece.utf8Encode ++ after.utf8Encode) := by
    rw [← List.utf8Encode_append, ← List.utf8Encode_append, ← List.append_assoc, ← spelled,
      ← String.toByteArray_ofList, String.ofList_toList]
  have cut : (before.utf8Encode ++ (piece.utf8Encode ++ after.utf8Encode)).extract
      (before.utf8Encode.size + 0) (before.utf8Encode.size + piece.utf8Encode.size) =
        piece.utf8Encode := by
    rw [ByteArray.extract_append_size_add, ByteArray.extract_append_eq_left rfl]
  rw [textBetween, if_neg (by omega), if_neg size, dif_pos ⟨start, stop⟩]
  congr 1
  apply String.toByteArray_inj.mp
  rw [String.toByteArray_extract, String.toByteArray_ofList, bytes]
  dsimp only
  rwa [size_utf8Encode, size_utf8Encode, Nat.add_zero] at cut

theorem textBetween_zero (spelled : text.toList = piece ++ after) :
    textBetween text 0 (byteLength piece) = .ok (.ofList piece) := by
  have cut := textBetween_byteLength (show text.toList = [] ++ piece ++ after from spelled)
  rwa [byteLength_nil, Nat.zero_add] at cut

end Cuts

end RequestFilter.Text
