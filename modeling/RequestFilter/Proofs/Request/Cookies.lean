import RequestFilter.Proofs.Json.Respell
import RequestFilter.Request.Json

/-!
Cookies that are spelled in another way.

Cookies are read off a whole value, so a cookie and an object that holds a list of cookies are not
structures of the reader, but they too are read by filling in a draft. A list of cookies may stand
bare or in an object of its own, and is read alike, as long as the levels suffice for both.
-/

set_option autoImplicit false

namespace RequestFilter

open Json (Dialect ElementStep Field Filling Member Node Padded Phrase Spaces Value onPhrase)

/-! ### Cookies -/

namespace Cookie

/-- How the parts of a cookie are read, each off a whole value. What a choice is called shows in
faults only. -/
def fields : List (Json.Field Cookie) :=
  [.defaulted "name" (Json.choice "" textOrNull?) fun c s => { c with name := s.getD "" },
    .defaulted "value" (Json.choice "" textOrNull?) fun c s => { c with value := s.getD "" },
    .defaulted "domain" (Json.choice "" textOrNull?) fun c s => { c with domain := s }]

def filling (levels : Nat) : Filling Cookie :=
  ⟨fields, levels, fun p => (onPhrase Node.value levels p).isSome⟩

private theorem putMember_cases (levels : Nat) (name : String) :
    ((filling levels).put? name = none ∧
        ∀ seen c v, putMember (seen, c) (name, v) = some (seen, c)) ∨
      ∃ set : Cookie → Option String → Cookie,
        ((filling levels).put? name = some fun p c =>
            ((onPhrase Node.value levels p).bind textOrNull?).map (set c)) ∧
          ∀ seen c v, putMember (seen, c) (name, v) =
            if name ∈ seen then none else (textOrNull? v).map fun s => (name :: seen, set c s) := by
  have fill (name : String) (set : Cookie → Option String → Cookie) :
      (Field.defaulted name (Json.choice "" textOrNull?) set).fill levels = fun p c =>
        ((onPhrase Node.value levels p).bind textOrNull?).map (set c) := by
    funext p c
    rw [Field.fill_defaulted, Json.onPhrase_choice]
  by_cases isName : name = "name"
  · subst isName
    exact Or.inr ⟨_, congrArg some (fill _ _), fun seen c v => by simp [putMember]⟩
  · by_cases isValue : name = "value"
    · subst isValue
      exact Or.inr ⟨_, congrArg some (fill _ _), fun seen c v => by simp [putMember]⟩
    · by_cases isDomain : name = "domain"
      · subst isDomain
        exact Or.inr ⟨_, congrArg some (fill _ _), fun seen c v => by simp [putMember]⟩
      · refine Or.inl ⟨Filling.put?_eq_none ?_, fun seen c v => ?_⟩
        · simp [filling, fields, Field.defaulted, isName, isValue, isDomain]
        · simp [putMember, isName, isValue, isDomain]

private theorem run_filling (levels : Nat) (ms : List Member) (seen : List String) (c : Cookie) :
    (filling levels).run ms seen c =
      (ms.mapM (Member.read? levels)).bind fun members =>
        (members.foldlM putMember (seen, c)).map Prod.snd := by
  induction ms generalizing seen c with
  | nil => rfl
  | cons m ms ih =>
    rw [Member.mapM_read?_cons]
    cases named : m.name? with
    | none => rw [Filling.run_cons_unspelled named, Option.bind_none, Option.bind_none]
    | some name =>
      rcases putMember_cases levels name with ⟨unknown, put⟩ | ⟨set, known, put⟩
      · rw [Filling.run_cons_unknown named unknown, ih]
        cases read : onPhrase Node.value levels m.value with
        | none => simp [filling, read]
        | some v => simp [filling, read, put, Option.bind_assoc]
      · rw [Filling.run_cons_known named known]
        cases read : onPhrase Node.value levels m.value with
        | none => simp
        | some v =>
          by_cases before : name ∈ seen
          · simp [put, before, Option.bind_assoc]
          · cases text : textOrNull? v <;> simp [ih, put, before, text, Option.bind_assoc]

private theorem onPhrase_object (levels : Nat) (space : Spaces) (ms : List Member) :
    (onPhrase Node.value (levels + 1) (.object space ms)).bind cookie? =
      (filling levels).run ms [] {} := by
  rw [Json.onPhrase_value_object, Option.bind_map, run_filling]
  rfl

/-- How a cookie may be spelled. Since a cookie is read as a whole, so must be the values that stand
under unknown names. -/
def dialect : Dialect where
  known := ["name", "value", "domain"]
  nullable := ["name", "value", "domain"]
  free p := p.IsValue 99
  inner _ _ _ := False

private theorem accepts {levels : Nat} (room : 99 ≤ levels) :
    (filling levels).Accepts {} dialect where
  commute := by
    simp only [filling, fields, List.pairwise_cons, List.forall_mem_cons, List.not_mem_nil,
      false_imp_iff, implies_true, and_true, List.Pairwise.nil]
    repeat' apply And.intro
    all_goals exact .defaulted fun _ _ _ => rfl
  known := rfl
  nullable := List.Subset.refl _
  passes p free := free.isSome room
  idle := by
    simp only [filling, fields, List.forall_mem_cons]
    exact ⟨fun _ => rfl, fun _ => rfl, fun _ => rfl, fun _ h => absurd h List.not_mem_nil⟩

private theorem onPhrase_eq {p q : Phrase} (step : dialect.ObjectStep p q) {levels : Nat}
    (room : 100 ≤ levels) :
    (onPhrase Node.value levels p).bind cookie? = (onPhrase Node.value levels q).bind cookie? := by
  obtain ⟨space, space', step⟩ := step
  cases levels with
  | zero => exact absurd room (Nat.not_succ_le_zero 99)
  | succ levels =>
    rw [onPhrase_object, onPhrase_object]
    exact (accepts (Nat.le_of_succ_le_succ room)).run_eq step fun _ _ _ _ _ within => within.elim

end Cookie

/-! ### Lists of cookies -/

namespace Cookies

private theorem onPhrase_array (levels : Nat) (space : Spaces) (items : List (Padded Phrase)) :
    (onPhrase Node.value (levels + 1) (.array space items)).bind cookieList? =
      items.mapM fun i => (onPhrase Node.value levels i.part).bind cookie? := by
  rw [Json.onPhrase_value_array, Option.bind_map]
  exact mapM_bind _ cookie? items

private theorem onPhrase_eq {p q : Phrase} (step : ElementStep Cookie.dialect.ObjectStep p q)
    {levels : Nat} (room : 101 ≤ levels) :
    (onPhrase Node.value levels p).bind cookieList? =
      (onPhrase Node.value levels q).bind cookieList? := by
  cases levels with
  | zero => exact absurd room (Nat.not_succ_le_zero 100)
  | succ levels =>
    obtain ⟨space, space', items, items', rfl, rfl, same⟩ :=
      step.exists_mapM_eq fun p q step => Cookie.onPhrase_eq step (Nat.le_of_succ_le_succ room)
    rw [onPhrase_array, onPhrase_array, same]

def filling (levels : Nat) : Filling (Option (List Cookie)) where
  fields := [.defaulted "cookies" (Json.choice "" cookieList?) fun _ cs => some cs]
  levels := levels
  passes p := (onPhrase Node.value levels p).isSome

variable {levels : Nat} {name : String}

private theorem put?_cookies : (filling levels).put? "cookies" = some fun p _ =>
    ((onPhrase Node.value levels p).bind cookieList?).map some := by
  have fill : (Field.defaulted "cookies" (Json.choice "" cookieList?) fun _ cs => some cs).fill
      levels = fun p _ => ((onPhrase Node.value levels p).bind cookieList?).map some := by
    funext p draft
    rw [Field.fill_defaulted, Json.onPhrase_choice]
  exact congrArg some fill

private theorem put?_eq_none (other : name ≠ "cookies") : (filling levels).put? name = none := by
  apply Filling.put?_eq_none
  simp [filling, Field.defaulted, other]

def lists (members : List (String × Value)) : List (String × Value) :=
  members.filter fun m => m.1 == "cookies"

private theorem lists_cons_of_ne (other : name ≠ "cookies") (v : Value)
    (members : List (String × Value)) :
    lists ((name, v) :: members) = lists members := by
  simp [lists, other]

private theorem lists_cons_cookies (v : Value) (members : List (String × Value)) :
    lists (("cookies", v) :: members) = ("cookies", v) :: lists members := by
  simp [lists]

private theorem cookies?_object (members : List (String × Value)) :
    cookies? (.object members) =
      match lists members with
      | [(_, v)] => cookieList? v
      | _ => none := rfl

private theorem run_filling_again (ms : List Member) (cs : Option (List Cookie)) :
    (filling levels).run ms ["cookies"] cs =
      (ms.mapM (Member.read? levels)).bind fun members =>
        if (lists members).isEmpty then some cs else none := by
  induction ms with
  | nil => rfl
  | cons m ms ih =>
    rw [Member.mapM_read?_cons]
    cases named : m.name? with
    | none => rw [Filling.run_cons_unspelled named, Option.bind_none, Option.bind_none]
    | some name =>
      by_cases known : name = "cookies"
      · subst known
        rw [Filling.run_cons_known named put?_cookies]
        simp [Option.bind_assoc, lists_cons_cookies]
      · rw [Filling.run_cons_unknown named (put?_eq_none known), ih]
        cases read : onPhrase Node.value levels m.value with
        | none => simp [filling, read]
        | some v => simp [filling, read, Option.bind_assoc, lists_cons_of_ne known]

private theorem run_filling (ms : List Member) :
    ((filling levels).run ms [] none).join =
      (ms.mapM (Member.read? levels)).bind fun members =>
        cookies? (.object members) := by
  induction ms with
  | nil => rfl
  | cons m ms ih =>
    rw [Member.mapM_read?_cons]
    cases named : m.name? with
    | none =>
      rw [Filling.run_cons_unspelled named, Option.bind_none, Option.bind_none]
      rfl
    | some name =>
      by_cases known : name = "cookies"
      · subst known
        rw [Filling.run_cons_known named put?_cookies]
        cases read : onPhrase Node.value levels m.value with
        | none => simp
        | some v =>
          simp only [List.not_mem_nil, if_false, Option.bind_some, run_filling_again,
            Option.bind_assoc, cookies?_object, lists_cons_cookies]
          cases ms.mapM (Member.read? levels) with
          | none => cases cookieList? v <;> rfl
          | some members =>
            simp only [Option.bind_some]
            cases lists members <;> cases list : cookieList? v <;> simp [list]
      · rw [Filling.run_cons_unknown named (put?_eq_none known)]
        cases read : onPhrase Node.value levels m.value with
        | none => simp [filling, read]
        | some v =>
          rw [if_pos (by simp [filling, read]), ih]
          simp [Option.bind_assoc, cookies?_object, lists_cons_of_ne known]

private theorem onPhrase_object (levels : Nat) (space : Spaces) (ms : List Member) :
    (onPhrase Node.value (levels + 1) (.object space ms)).bind cookies? =
      ((filling levels).run ms [] none).join := by
  rw [Json.onPhrase_value_object, Option.bind_map, run_filling]
  rfl

private theorem onPhrase_bare (levels : Nat) (space : Spaces) (items : List (Padded Phrase)) :
    (onPhrase Node.value levels (.array space items)).bind cookies? =
      (onPhrase Node.value levels (.array space items)).bind cookieList? := by
  cases levels with
  | zero => rfl
  | succ levels =>
    rw [Json.onPhrase_value_array, Option.bind_map, Option.bind_map]
    rfl

/-- How an object that holds a list of cookies may be spelled. -/
def dialect : Dialect where
  known := ["cookies"]
  nullable := []
  free p := p.IsValue 99
  inner name p q := name = "cookies" ∧ ElementStep Cookie.dialect.ObjectStep p q

/-- One step of spelling a list of cookies in another way. -/
inductive Step : Phrase → Phrase → Prop
  | bare {p q : Phrase} (step : ElementStep Cookie.dialect.ObjectStep p q) : Step p q
  | wrapped {p q : Phrase} (step : dialect.ObjectStep p q) : Step p q
  /-- A bare list is put into an object. -/
  | wrap (space inner : Spaces) (items : List (Padded Phrase)) {m : Member}
      (name : m.name? = some "cookies") (value : m.value = .array inner items) :
      Step (.array inner items) (.object space [m])

theorem Step.ne_null {p q : Phrase} (step : Step p q) : p ≠ .word .null ∧ q ≠ .word .null := by
  cases step with
  | bare step => exact step.ne_null
  | wrapped step => exact step.ne_null
  | wrap space inner items name value => exact ⟨Phrase.noConfusion, Phrase.noConfusion⟩

private theorem accepts (room : 99 ≤ levels) : (filling levels).Accepts none dialect where
  commute := by
    simp only [filling, List.pairwise_cons, List.not_mem_nil, false_imp_iff, implies_true,
      List.Pairwise.nil, and_self]
  known := rfl
  nullable := List.nil_subset _
  passes p free := free.isSome room
  idle _ _ h := absurd h List.not_mem_nil

/-- The lists in a value are nested less than 102 levels deep. -/
def IsShallow : Phrase → Prop
  | .object _ ms => ∀ m ∈ ms, (Member.value m).Fits 101
  | p => p.Fits 101

theorem isShallow_of_fits {p : Phrase} (fits : p.Fits 101) : IsShallow p := by
  cases p with
  | object space ms =>
    intro m hm
    cases fits with
    | object _ each => exact (each m hm).mono (by decide)
  | word | number | string | array => exact fits

private theorem fits_iff {p q : Phrase} (step : ElementStep Cookie.dialect.ObjectStep p q) :
    p.Fits 101 ↔ q.Fits 101 :=
  step.fits_iff fun _ _ step => step.fits_iff (fun _ free => free.1) fun _ _ _ none => none.elim

theorem Step.isShallow_iff {p q : Phrase} (step : Step p q) : IsShallow p ↔ IsShallow q := by
  cases step with
  | bare step =>
    have fits := fits_iff step
    obtain ⟨space, space', before, after, step⟩ := step
    exact fits
  | wrapped step =>
    obtain ⟨space, space', step⟩ := step
    exact step.forall_iff (P := fun _ p => p.Fits 101)
      (fun _ _ _ free => free.1.mono (by decide)) (fun _ h => absurd h List.not_mem_nil)
      fun _ _ _ within => fits_iff within.2
  | wrap space inner items name value =>
    simp only [IsShallow, List.forall_mem_singleton, value]

theorem Step.onPhrase_eq {p q : Phrase} (step : Step p q) (shallow : IsShallow p) {levels : Nat}
    (room : 103 ≤ levels) :
    (onPhrase Node.value levels p).bind cookies? =
      (onPhrase Node.value levels q).bind cookies? := by
  cases step with
  | bare step =>
    have same := Cookies.onPhrase_eq step (Nat.le_trans (by decide) room)
    obtain ⟨space, space', before, after, step⟩ := step
    rw [onPhrase_bare, onPhrase_bare, same]
  | wrapped step =>
    obtain ⟨space, space', step⟩ := step
    cases levels with
    | zero => exact absurd room (Nat.not_succ_le_zero 102)
    | succ levels =>
      -- Below the object the list takes a level, and each cookie another one.
      have enough : 101 ≤ levels := by omega
      rw [onPhrase_object, onPhrase_object]
      refine congrArg Option.join ((accepts (by omega)).run_eq step ?_)
      rintro m _ name q - ⟨rfl, step⟩
      refine ⟨_, put?_cookies, ?_⟩
      rw [Cookies.onPhrase_eq step enough]
  | wrap space inner items name value =>
    cases levels with
    | zero => exact absurd room (Nat.not_succ_le_zero 102)
    | succ levels =>
      have below : onPhrase Node.value (levels + 1) (.array inner items) =
          onPhrase Node.value levels (.array inner items) :=
        Json.onPhrase_value_eq shallow (by omega) (by omega)
      rw [onPhrase_object, onPhrase_bare, below, Filling.run_cons_known name put?_cookies, value]
      cases (onPhrase Node.value levels (.array inner items)).bind cookieList? <;> rfl

end Cookies
end RequestFilter
