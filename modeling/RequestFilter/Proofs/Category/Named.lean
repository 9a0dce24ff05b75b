import Mathlib.Data.List.Nodup
import RequestFilter.Proofs.Category.Set
import RequestFilter.Proofs.Text.Padding

/-!
Sets of categories by the names that ask for them.

A name stands for a set if it is one of the known names, blanks around it and the case of its
letters aside. A list of names gives the union of what they stand for, or the first name that stands
for nothing.
-/

set_option autoImplicit false

namespace RequestFilter

/-- Two names that differ in the blanks around them and in the case of ASCII letters only. -/
def SameName (a b : String) : Prop :=
  ∃ k l, Text.IsPadded k a.toList ∧ Text.IsPadded l b.toList ∧
    k.map Char.toLower = l.map Char.toLower

private theorem sameName_iff (a b : String) :
    SameName a b ↔
      (Text.trim a.toList).map Char.toLower = (Text.trim b.toList).map Char.toLower := by
  constructor
  · rintro ⟨k, l, left, right, same⟩
    rw [left.trim_eq, right.trim_eq, ← Text.trim_map_toLower, same, Text.trim_map_toLower]
  · intro same
    exact ⟨_, _, Text.isPadded_trim _, Text.isPadded_trim _, same⟩

private theorem SameName.symm {a b : String} (h : SameName a b) : SameName b a :=
  (sameName_iff b a).mpr ((sameName_iff a b).mp h).symm

namespace CategorySet

/-- A name stands for a set if it is the known name of the set, written in its own way. -/
def Names (name : String) (s : CategorySet) : Prop :=
  ∃ known, (known, s) ∈ named ∧ SameName known name

/-! ### One name -/

private theorem trim_known {known : String} {s : CategorySet} (h : (known, s) ∈ named) :
    (Text.trim known.toList).map Char.toLower = known.toList := by
  have all : named.all (fun n => (Text.trim n.1.toList).map Char.toLower == n.1.toList) = true := by
    decide +kernel
  have own : ((Text.trim known.toList).map Char.toLower == known.toList) = true :=
    List.all_eq_true.mp all (known, s) h
  exact eq_of_beq own

private theorem known_unique {known : String} {s t : CategorySet} (hs : (known, s) ∈ named)
    (ht : (known, t) ∈ named) : s = t := by
  have nodup : (named.map Prod.fst).Nodup := by decide
  exact congrArg Prod.snd (List.inj_on_of_nodup_map nodup hs ht rfl)

private theorem ofName?_eq_some_iff (name : String) (s : CategorySet) :
    ofName? name = some s ↔ Names name s := by
  have key {known : String} {t : CategorySet} (h : (known, t) ∈ named) :
      known.toList = (Text.trim name.toList).map Char.toLower ↔ SameName known name := by
    rw [sameName_iff, trim_known h]
  simp only [ofName?, Option.map_eq_some_iff, Prod.exists, exists_eq_right]
  constructor
  · rintro ⟨known, found⟩
    have member := List.mem_of_find?_eq_some found
    have spelled : known.toList = (Text.trim name.toList).map Char.toLower := by
      simpa using List.find?_some found
    exact ⟨known, member, (key member).mp spelled⟩
  · rintro ⟨known, member, same⟩
    have spelled := (key member).mpr same
    cases found : named.find? (·.1.toList == (Text.trim name.toList).map Char.toLower) with
    | none =>
      have passed := List.find?_eq_none.mp found _ member
      exact absurd spelled (by simpa using passed)
    | some n =>
      -- what is found first may only be the known name itself, which stands for one set
      obtain ⟨known', t⟩ := n
      have first := List.mem_of_find?_eq_some found
      have again : known'.toList = (Text.trim name.toList).map Char.toLower := by
        simpa using List.find?_some found
      obtain rfl : known' = known := String.toList_inj.mp (again.trans spelled.symm)
      exact ⟨known', by rw [known_unique first member]⟩

private theorem Names.unique {name : String} {s t : CategorySet} (hs : Names name s)
    (ht : Names name t) :
    s = t :=
  Option.some.inj <|
    ((ofName?_eq_some_iff name s).mpr hs).symm.trans ((ofName?_eq_some_iff name t).mpr ht)

private theorem Names.sameName {a b : String} {s : CategorySet} (h : Names a s)
    (same : SameName a b) :
    Names b s := by
  obtain ⟨known, member, spelled⟩ := h
  rw [sameName_iff] at same spelled
  exact ⟨known, member, (sameName_iff known b).mpr (spelled.trans same)⟩

private theorem names_name (c : Category) : Names c.name (single c) := by
  have member : (c.name, single c) ∈ named :=
    List.mem_cons_of_mem _ (List.mem_map_of_mem c.mem_all)
  exact ⟨c.name, member, (sameName_iff _ _).mpr rfl⟩

private theorem Names.isEmpty_eq_false {name : String} {s : CategorySet} (h : Names name s) :
    s.isEmpty = false := by
  obtain ⟨known, member, -⟩ := h
  have filled : named.all (fun n => !n.2.isEmpty) = true := by decide
  simpa using List.all_eq_true.mp filled _ member

/-! ### Lists of names -/

private theorem exists_unionOfNames {names : List String}
    (known : ∀ name ∈ names, ∃ t, Names name t) :
    ∃ s, unionOfNames names = .ok s ∧
      ∀ c, s.contains c = true ↔ ∃ name ∈ names, ∃ t, Names name t ∧ t.contains c = true := by
  induction names with
  | nil => exact ⟨empty, rfl, by simp⟩
  | cons name names ih =>
    obtain ⟨t, stands⟩ := known name List.mem_cons_self
    obtain ⟨s, union, members⟩ := ih fun n hn => known n (List.mem_cons_of_mem name hn)
    have found := (ofName?_eq_some_iff name t).mpr stands
    refine ⟨t.union s, by simp only [unionOfNames, found, union]; rfl, fun c => ?_⟩
    have first : (∃ t', Names name t' ∧ t'.contains c = true) ↔ t.contains c = true := by
      constructor
      · rintro ⟨t', also, member⟩
        rwa [← also.unique stands]
      · exact fun member => ⟨t, stands, member⟩
    rw [contains_union, Bool.or_eq_true, members, List.exists_mem_cons_iff, first]

private theorem unionOfNames_unknown {before : List String} {name : String} (after : List String)
    (known : ∀ n ∈ before, ∃ t, Names n t) (unknown : ¬∃ t, Names name t) :
    unionOfNames (before ++ name :: after) = .error name := by
  induction before with
  | nil =>
    have none : ofName? name = none := by
      rw [Option.eq_none_iff_forall_ne_some]
      exact fun t found => unknown ⟨t, (ofName?_eq_some_iff name t).mp found⟩
    simp only [List.nil_append, unionOfNames, none]
  | cons n before ih =>
    obtain ⟨t, stands⟩ := known n List.mem_cons_self
    have rest := ih fun m hm => known m (List.mem_cons_of_mem n hm)
    simp only [List.cons_append, unionOfNames, (ofName?_eq_some_iff n t).mpr stands, rest]
    rfl

private theorem exists_first_unknown {names : List String} (h : ¬∀ name ∈ names, ∃ t, Names name t)
    :
    ∃ before name after, names = before ++ name :: after ∧ (∀ n ∈ before, ∃ t, Names n t) ∧
      ¬∃ t, Names name t := by
  induction names with
  | nil => exact absurd (fun name none => absurd none List.not_mem_nil) h
  | cons name names ih =>
    by_cases stands : ∃ t, Names name t
    · have later : ¬∀ n ∈ names, ∃ t, Names n t :=
        fun all => h (List.forall_mem_cons.mpr ⟨stands, all⟩)
      obtain ⟨before, unknown, after, rfl, known, none⟩ := ih later
      exact ⟨name :: before, unknown, after, rfl, List.forall_mem_cons.mpr ⟨stands, known⟩, none⟩
    · exact ⟨[], name, names, rfl, by simp, stands⟩

private theorem exists_ofNames {names : List String} (known : ∀ name ∈ names, ∃ t, Names name t) :
    ∃ s, ofNames names = .ok s ∧ s.isEmpty = false ∧
      ∀ c, s.contains c = true ↔
        names = [] ∨ ∃ name ∈ names, ∃ t, Names name t ∧ t.contains c = true := by
  cases names with
  | nil => exact ⟨full, rfl, rfl, fun c => iff_of_true (contains_full c) (Or.inl rfl)⟩
  | cons name names =>
    obtain ⟨s, union, members⟩ := exists_unionOfNames known
    obtain ⟨t, stands⟩ := known name List.mem_cons_self
    obtain ⟨c, member⟩ := (isEmpty_eq_false_iff t).mp stands.isEmpty_eq_false
    have filled : s.isEmpty = false := (isEmpty_eq_false_iff s).mpr
      ⟨c, (members c).mpr ⟨name, List.mem_cons_self, t, stands, member⟩⟩
    refine ⟨s, by simp [ofNames, union, filled], filled, fun d => ?_⟩
    rw [members, or_iff_right (List.cons_ne_nil name names)]

private theorem ofNames_eq_ok_iff (names : List String) (s : CategorySet) :
    ofNames names = .ok s ↔
      (∀ name ∈ names, ∃ t, Names name t) ∧
        ∀ c, s.contains c = true ↔
          names = [] ∨ ∃ name ∈ names, ∃ t, Names name t ∧ t.contains c = true := by
  by_cases known : ∀ name ∈ names, ∃ t, Names name t
  · obtain ⟨v, given, -, own⟩ := exists_ofNames known
    rw [given]
    constructor
    · rintro ⟨⟩
      exact ⟨known, own⟩
    · rintro ⟨-, same⟩
      rw [ext_contains fun c => Bool.eq_iff_iff.mpr ((own c).trans (same c).symm)]
  · obtain ⟨before, name, after, rfl, listed, unknown⟩ := exists_first_unknown known
    have failed : ofNames (before ++ name :: after) = .error (.unknownCategory name) := by
      simp only [ofNames, unionOfNames_unknown after listed unknown]
    rw [failed]
    exact iff_of_false (fun ok => by cases ok) fun h => known h.1

private theorem ofNames_eq_error_iff (names : List String) (e : LoadError) :
    ofNames names = .error e ↔
      ∃ before name after, names = before ++ name :: after ∧ (∀ n ∈ before, ∃ t, Names n t) ∧
        (¬∃ t, Names name t) ∧ e = .unknownCategory name := by
  constructor
  · intro failed
    have unknown : ¬∀ name ∈ names, ∃ t, Names name t := by
      intro known
      obtain ⟨s, given, -⟩ := exists_ofNames known
      cases given.symm.trans failed
    obtain ⟨before, name, after, rfl, listed, none⟩ := exists_first_unknown unknown
    simp only [ofNames, unionOfNames_unknown after listed none, Except.error.injEq] at failed
    exact ⟨before, name, after, rfl, listed, none, failed.symm⟩
  · rintro ⟨before, name, after, rfl, listed, none, rfl⟩
    simp only [ofNames, unionOfNames_unknown after listed none]

private theorem ofNames_names {s : CategorySet} (filled : s.isEmpty = false) :
    ofNames s.names = .ok s := by
  by_cases all : s.isUnrestricted = true
  · have whole : s = full := by simpa [isUnrestricted_iff, filled] using all
    rw [whole]
    decide
  · have listed : s.names = (Category.all.filter fun c => s.contains c).map Category.name := by
      rw [names, if_neg all]
    have some : s.names ≠ [] := by
      obtain ⟨c, member⟩ := (isEmpty_eq_false_iff s).mp filled
      rw [listed]
      exact List.ne_nil_of_mem (List.mem_map_of_mem (List.mem_filter.mpr ⟨c.mem_all, member⟩))
    rw [ofNames_eq_ok_iff]
    have known : ∀ name ∈ s.names, ∃ t, Names name t := by
      rw [listed, List.forall_mem_map]
      exact fun c _ => ⟨single c, names_name c⟩
    refine ⟨known, fun c => ?_⟩
    rw [or_iff_right some, listed]
    constructor
    · intro member
      have own : c ∈ Category.all.filter fun c => s.contains c :=
        List.mem_filter.mpr ⟨c.mem_all, member⟩
      exact ⟨c.name, List.mem_map_of_mem own, single c, names_name c, by simp⟩
    · rintro ⟨name, hn, t, stands, member⟩
      obtain ⟨d, hd, rfl⟩ := List.mem_map.mp hn
      rw [stands.unique (names_name d), contains_single, decide_eq_true_eq] at member
      exact member ▸ (List.mem_filter.mp hd).2

/-- Names that are given again in another order, number or way of writing ask for the same set. -/
private theorem ofNames_same {names others : List String} {s : CategorySet}
    (given : ofNames names = .ok s) (kept : ∀ name ∈ names, ∃ other ∈ others, SameName name other)
    (added : ∀ other ∈ others, ∃ name ∈ names, SameName name other) : ofNames others = .ok s := by
  obtain ⟨known, members⟩ := (ofNames_eq_ok_iff names s).mp given
  have nothing : names = [] ↔ others = [] := by
    constructor
    · rintro rfl
      by_contra some
      obtain ⟨other, hn⟩ := List.exists_mem_of_ne_nil others some
      obtain ⟨name, none, -⟩ := added other hn
      cases none
    · rintro rfl
      by_contra some
      obtain ⟨name, hn⟩ := List.exists_mem_of_ne_nil names some
      obtain ⟨other, none, -⟩ := kept name hn
      cases none
  refine (ofNames_eq_ok_iff others s).mpr ⟨fun other ho => ?_, fun c => ?_⟩
  · obtain ⟨name, hn, same⟩ := added other ho
    obtain ⟨t, stands⟩ := known name hn
    exact ⟨t, stands.sameName same⟩
  · rw [members, nothing]
    refine or_congr_right ⟨?_, ?_⟩
    · rintro ⟨name, hn, t, stands, member⟩
      obtain ⟨other, ho, same⟩ := kept name hn
      exact ⟨other, ho, t, stands.sameName same, member⟩
    · rintro ⟨other, ho, t, stands, member⟩
      obtain ⟨name, hn, same⟩ := added other ho
      exact ⟨name, hn, t, stands.sameName same.symm, member⟩

/-- A list of names gives a set exactly if every name stands for one. It is their union, or the full
set for no names, and never without members; it does not depend on the order and number of the names
or on how they are written, and its own names ask for it again. A list with a name that stands for
nothing gives the first such name back as it was given. -/
theorem ofNames_union (names : List String) :
    ((∃ s, ofNames names = .ok s) ↔ ∀ name ∈ names, ∃ t, Names name t) ∧
      (∀ s, ofNames names = .ok s →
        (∀ c, s.contains c = true ↔
          names = [] ∨ ∃ name ∈ names, ∃ t, Names name t ∧ t.contains c = true) ∧
        s.isEmpty = false ∧ ofNames s.names = .ok s ∧
        ∀ others, (∀ name ∈ names, ∃ other ∈ others, SameName name other) →
          (∀ other ∈ others, ∃ name ∈ names, SameName name other) → ofNames others = .ok s) ∧
      ∀ e, ofNames names = .error e ↔
        ∃ before name after, names = before ++ name :: after ∧ (∀ n ∈ before, ∃ t, Names n t) ∧
          (¬∃ t, Names name t) ∧ e = .unknownCategory name := by
  refine ⟨⟨?_, ?_⟩, ?_, ofNames_eq_error_iff names⟩
  · rintro ⟨s, given⟩
    exact ((ofNames_eq_ok_iff names s).mp given).1
  · intro known
    obtain ⟨s, given, -⟩ := exists_ofNames known
    exact ⟨s, given⟩
  · intro s given
    obtain ⟨known, members⟩ := (ofNames_eq_ok_iff names s).mp given
    obtain ⟨t, again, filled, -⟩ := exists_ofNames known
    obtain rfl : t = s := Except.ok.inj (again.symm.trans given)
    exact ⟨members, filled, ofNames_names filled, fun others => ofNames_same given⟩

/-- Names with blanks and capitals, given twice and in another order, and a list with an unknown
name in it. -/
theorem ofNames_union_applied :
    let s := ofList [.html, .js]
    ofNames ["\u00A0JS ", "html", "js"] = .ok s ∧
      s.isEmpty = false ∧
      ofNames s.names = .ok s ∧
      ofNames ["HTML", "Js\t"] = .ok s ∧
      ofNames ["html", " Gifs", "js"] = .error (.unknownCategory " Gifs") := by
  intro s
  have given : ofNames ["\u00A0JS ", "html", "js"] = .ok s := by decide +kernel
  have same (a b : String) (h : (Text.trim a.toList).map Char.toLower =
      (Text.trim b.toList).map Char.toLower) : SameName a b := (sameName_iff a b).mpr h
  have js : SameName "\u00A0JS " "Js\t" := same _ _ (by decide)
  have html : SameName "html" "HTML" := same _ _ (by decide)
  have plain : SameName "js" "Js\t" := same _ _ (by decide)
  obtain ⟨-, filled, own, others⟩ := (ofNames_union _).2.1 s given
  refine ⟨given, filled, own, others _ ?_ ?_, ?_⟩
  · simp [js, html, plain]
  · simp [js, html, plain]
  · refine ((ofNames_union _).2.2 _).mpr ⟨["html"], " Gifs", ["js"], rfl, ?_, ?_, rfl⟩
    · intro n hn
      rw [List.mem_singleton.mp hn]
      exact ⟨single .html, names_name .html⟩
    · rintro ⟨t, stands⟩
      have read := (ofName?_eq_some_iff " Gifs" t).mpr stands
      have none : ofName? " Gifs" = none := by decide +kernel
      cases none.symm.trans read

end CategorySet
end RequestFilter
