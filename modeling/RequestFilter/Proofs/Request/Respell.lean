import Mathlib.Logic.Relation
import RequestFilter.Proofs.Request.Cookies
import RequestFilter.Proofs.Request.Forms
import RequestFilter.Proofs.Request.Shape

/-!
Requests that are spelled in another way.

Recorders order the members of a request as they like, leave parts out or give null for them, add
members of their own, and put cookies into a list or into an object with one. One step of each kind,
anywhere in a request, leaves what is read of it as it is, and so do any number of steps, forwards
and back. Lists of cookies must not be nested too deep for the object around them, which holds of
what is nested less than 100 levels deep, and is kept by every step.
-/

set_option autoImplicit false

namespace RequestFilter

open Json (Dialect ElementStep Field Member Padded Phrase Spaces onPhrase)

/-! ### Parts of a request -/

def UrlDetails.dialect : Dialect := shape.dialect ["scheme", "host"] fun _ _ _ => False

def Cause.dialect : Dialect := shape.dialect ["type"] fun _ _ _ => False

def Header.dialect : Dialect := shape.dialect ["name", "value"] fun _ _ _ => False

def ResponseHeaders.dialect : Dialect :=
  shape.dialect ["headers"] fun name p q =>
    name = "headers" ∧ ElementStep Header.dialect.ObjectStep p q

private theorem UrlDetails.onPhrase_eq {p q : Phrase} (step : dialect.ObjectStep p q) (levels : Nat)
    :
    onPhrase shape.decode levels p = onPhrase shape.decode levels q := by
  refine isFreeForm.onPhrase_decode_eq (isFreeForm.accepts (List.Subset.refl _) ?_)
    (fun _ _ _ _ none => none.elim) step levels
  simp only [shape, List.forall_mem_cons]
  exact ⟨fun _ _ => rfl, fun _ _ => rfl, List.forall_mem_nil _⟩

private theorem Cause.onPhrase_eq {p q : Phrase} (step : dialect.ObjectStep p q) (levels : Nat) :
    onPhrase shape.decode levels p = onPhrase shape.decode levels q :=
  isFreeForm.onPhrase_decode_eq
    (isFreeForm.accepts (List.Subset.refl _) (List.forall_mem_singleton.mpr fun _ _ => rfl))
    (fun _ _ _ _ none => none.elim) step levels

private theorem Header.onPhrase_eq {p q : Phrase} (step : dialect.ObjectStep p q) (levels : Nat) :
    onPhrase shape.decode levels p = onPhrase shape.decode levels q := by
  refine isFreeForm.onPhrase_decode_eq (isFreeForm.accepts (List.Subset.refl _) ?_)
    (fun _ _ _ _ none => none.elim) step levels
  simp only [shape, List.forall_mem_cons]
  exact ⟨fun _ _ => rfl, fun _ _ => rfl, List.forall_mem_nil _⟩

namespace ResponseHeaders

/-- One step of spelling the headers of a response in another way, which are an object with a list
or an array with one. -/
inductive Step : Phrase → Phrase → Prop
  | named {p q : Phrase} (step : dialect.ObjectStep p q) : Step p q
  | listed {p q : Phrase} (step : ElementStep (ElementStep Header.dialect.ObjectStep) p q) :
      Step p q

private theorem Step.ne_null {p q : Phrase} (step : Step p q) : p ≠ .word .null ∧ q ≠ .word .null
    := by
  cases step with
  | named step => exact step.ne_null
  | listed step => exact step.ne_null

private theorem fill_eq {p q : Phrase} (step : ElementStep Header.dialect.ObjectStep p q)
    (levels : Nat) :
    ∀ f ∈ shape.fields, f.fill levels p = f.fill levels q := by
  have same := Header.isFreeForm.isFixed_decode.onPhrase_list_eq
    (fun levels _ _ step => Header.onPhrase_eq step levels) step levels
  refine List.forall_mem_singleton.mpr (Field.fill_defaulted_congr ?_)
  rw [Json.onPhrase_orDefault, Json.onPhrase_orDefault,
    Json.onPhrase_optional_congr step.ne_null same]

private theorem onPhrase_eq {p q : Phrase} (step : Step p q) (levels : Nat) :
    onPhrase shape.decode levels p = onPhrase shape.decode levels q := by
  cases step with
  | named step =>
    refine isFreeForm.onPhrase_decode_eq (isFreeForm.accepts (List.Subset.refl _)
      (List.forall_mem_singleton.mpr fun _ _ => rfl)) ?_ step levels
    rintro levels name p q ⟨rfl, step⟩
    exact ⟨_, rfl, fill_eq step levels _ List.mem_cons_self⟩
  | listed step =>
    exact isFreeForm.onPhrase_decode_eq_of_element step (fun levels _ _ step => fill_eq step levels)
      levels

end ResponseHeaders

namespace Request

/-- One step of spelling a part of a request in another way. -/
inductive PartStep : String → Phrase → Phrase → Prop
  | urlDetails {p q : Phrase} (step : UrlDetails.dialect.ObjectStep p q) :
      PartStep "urlDetails" p q
  | cause {p q : Phrase} (step : Cause.dialect.ObjectStep p q) : PartStep "cause" p q
  | responseHeaders {p q : Phrase} (step : ResponseHeaders.Step p q) :
      PartStep "responseHeaders" p q
  | responseCookies {p q : Phrase} (step : Cookies.Step p q) : PartStep "responseCookies" p q

/-- How a request may be spelled. Only its URL must not be null. -/
def dialect : Dialect :=
  shape.dialect
    ["method", "status", "httpVersion", "urlDetails", "remoteAddress", "remotePort", "cause",
      "mimeType", "contentSize", "transferredSize", "fromCache", "responseHeaders",
      "responseCookies"]
    PartStep

example : dialect.known = "url" :: dialect.nullable := rfl

private theorem accepts (levels : Nat) : (shape.filling levels).Accepts {} dialect := by
  refine isFreeForm.accepts (List.subset_cons_self _ _) ?_ levels
  simp only [shape, List.forall_mem_cons]
  refine ⟨fun h => ?_, fun _ _ => rfl, fun _ _ => rfl, fun _ _ => rfl, fun _ _ => rfl,
    fun _ _ => rfl, fun _ _ => rfl, fun _ _ => rfl, fun _ _ => rfl, fun _ _ => rfl,
    fun _ _ => rfl, fun _ _ => rfl, fun _ _ => rfl, fun _ _ => rfl, List.forall_mem_nil _⟩
  exact absurd h (by decide)

private theorem PartStep.exists_put? {name : String} {p q : Phrase} (step : PartStep name p q)
    (shallow : name = "responseCookies" → Cookies.IsShallow p) {levels : Nat}
    (room : 103 ≤ levels) :
    ∃ put, (shape.filling levels).put? name = some put ∧ put p = put q := by
  cases step with
  | urlDetails step =>
    have same := UrlDetails.onPhrase_eq step levels
    exact ⟨_, rfl, Field.fill_defaulted_congr (Json.onPhrase_optional_congr step.ne_null same)⟩
  | cause step =>
    have same := Cause.onPhrase_eq step levels
    exact ⟨_, rfl, Field.fill_defaulted_congr (Json.onPhrase_optional_congr step.ne_null same)⟩
  | responseHeaders step =>
    have same := ResponseHeaders.onPhrase_eq step levels
    exact ⟨_, rfl, Field.fill_defaulted_congr (Json.onPhrase_optional_congr step.ne_null same)⟩
  | responseCookies step =>
    have same : onPhrase (Json.choice "Cookies" cookies?) levels p =
        onPhrase (Json.choice "Cookies" cookies?) levels q := by
      rw [Json.onPhrase_choice, Json.onPhrase_choice, step.onPhrase_eq (shallow rfl) room]
    exact ⟨_, rfl, Field.fill_defaulted_congr (Json.onPhrase_optional_congr step.ne_null same)⟩

/-- The lists of cookies are nested less than 102 levels deep. -/
def IsShallow : Phrase → Prop
  | .object _ ms =>
    ∀ m ∈ ms, Member.name? m = some "responseCookies" → Cookies.IsShallow (Member.value m)
  | _ => True

private theorem isShallow_of_fits {p : Phrase} (fits : p.Fits 99) : IsShallow p := by
  cases fits with
  | object space each =>
    intro m hm _
    exact Cookies.isShallow_of_fits ((each m hm).mono (by decide))
  | word | number | string | array => trivial

private theorem isShallow_iff {p q : Phrase} (step : dialect.ObjectStep p q) :
    IsShallow p ↔ IsShallow q := by
  obtain ⟨space, space', step⟩ := step
  refine step.forall_iff
    (P := fun name p => name = some "responseCookies" → Cookies.IsShallow p) ?_ ?_ ?_
  · rintro name p unknown - ⟨⟩
    exact absurd (by decide) unknown
  · exact fun _ _ _ => Cookies.isShallow_of_fits (.word 101 .null)
  · intro name p q part
    cases part with
    | responseCookies step => exact imp_congr_right fun _ => step.isShallow_iff
    | urlDetails | cause | responseHeaders => simp

/-- A request is read alike before and after a step. -/
private theorem ofPhrase?_eq_of_step {p q : Phrase} (step : dialect.ObjectStep p q)
    (shallow : IsShallow p) {levels : Nat} (room : 104 ≤ levels) :
    ofPhrase? levels p = ofPhrase? levels q := by
  obtain ⟨space, space', step⟩ := step
  cases levels with
  | zero => exact absurd room (Nat.not_succ_le_zero 103)
  | succ levels =>
    rw [ofPhrase?, ofPhrase?, decode, isFreeForm.toOption_decode_object,
      isFreeForm.toOption_decode_object]
    refine (accepts levels).run_eq step fun m hm name q spelled part => ?_
    refine PartStep.exists_put? part (fun known => shallow m hm ?_) (Nat.le_of_succ_le_succ room)
    rw [spelled, known]

/-- Two spellings of a request, from one to the other by steps forwards and back. -/
def Respelled : Phrase → Phrase → Prop := Relation.EqvGen dialect.ObjectStep

namespace Respelled

variable {p q : Phrase}

private theorem ofPhrase?_eq (h : Respelled p q) :
    (IsShallow p ↔ IsShallow q) ∧
      (IsShallow p → ∀ levels, 104 ≤ levels → ofPhrase? levels p = ofPhrase? levels q) := by
  induction h with
  | rel p q step =>
    exact ⟨isShallow_iff step, fun shallow _ room => ofPhrase?_eq_of_step step shallow room⟩
  | refl p => exact ⟨Iff.rfl, fun _ _ _ => rfl⟩
  | symm p q _ ih =>
    exact ⟨ih.1.symm, fun shallow levels room => (ih.2 (ih.1.mpr shallow) levels room).symm⟩
  | trans p q r _ _ first second =>
    exact ⟨first.1.trans second.1, fun shallow levels room =>
      (first.2 shallow levels room).trans (second.2 (first.1.mp shallow) levels room)⟩

private theorem isObject_iff (h : Respelled p q) : p.IsObject ↔ q.IsObject := by
  induction h with
  | rel p q step => exact iff_of_true step.isObject.1 step.isObject.2
  | refl p => exact Iff.rfl
  | symm p q _ ih => exact ih.symm
  | trans p q r _ _ first second => exact first.trans second

end Respelled
end Request

/-! ### Dumps -/

def arrayDump (items : List (Padded Phrase)) : String :=
  .ofList ('[' :: [','].intercalate (items.map Padded.text) ++ [']'])

def linesDump (items : List (Padded Phrase)) : String :=
  .ofList (['\n'].intercalate (items.map Padded.text))

private theorem toOption_loadArray_arrayDump (items : List (Padded Phrase)) :
    (Request.loadArray (arrayDump items).toList).toOption =
      items.mapM fun i => Request.ofPhrase? (Json.maxDepth - 1) i.part := by
  rw [arrayDump, String.toList_ofList, Request.toOption_loadArray_intercalate]

private theorem isArrayText_arrayDump (items : List (Padded Phrase)) :
    Request.isArrayText (arrayDump items).toList = true := by
  rw [arrayDump, String.toList_ofList]
  rfl

section Lines

variable {items : List (Padded Phrase)} (each : ∀ i ∈ items, Request.StandsOnLine i)
include each

private theorem toOption_loadLines_linesDump :
    (Request.loadLines (linesDump items).toList).toOption =
      items.mapM fun i => Request.ofPhrase? Json.maxDepth i.part := by
  cases items with
  | nil => rfl
  | cons i items =>
    rw [linesDump, String.toList_ofList,
      Request.toOption_loadLines_intercalate (List.cons_ne_nil _ _) each]

private theorem isArrayText_linesDump : Request.isArrayText (linesDump items).toList = false := by
  cases items with
  | nil => rfl
  | cons i items =>
    rw [linesDump, String.toList_ofList, Request.isArrayText_lines (List.cons_ne_nil _ _) each]

end Lines

private theorem forall_isObject_of_respelled {ps qs : List (Padded Phrase)}
    (respelled : List.Forall₂ (fun p q => Request.Respelled p.part q.part) ps qs)
    (objects : ∀ p ∈ ps, p.part.IsObject) : ∀ q ∈ qs, q.part.IsObject := by
  induction respelled with
  | nil => exact objects
  | cons first later ih =>
    rw [List.forall_mem_cons] at objects ⊢
    exact ⟨first.isObject_iff.mp objects.1, ih objects.2⟩

private theorem mapM_ofPhrase?_eq {ps qs : List (Padded Phrase)}
    (respelled : List.Forall₂ (fun p q => Request.Respelled p.part q.part) ps qs)
    (nested : ∀ p ∈ ps, p.part.Fits 99) {levels : Nat} (room : 104 ≤ levels) :
    (ps.mapM fun p => Request.ofPhrase? levels p.part) =
      qs.mapM fun q => Request.ofPhrase? levels q.part := by
  induction respelled with
  | nil => rfl
  | @cons p q ps qs first later ih =>
    have shallow := Request.isShallow_of_fits (nested p List.mem_cons_self)
    rw [List.mapM_cons, List.mapM_cons, first.ofPhrase?_eq.2 shallow levels room,
      ih fun p hp => nested p (List.mem_cons_of_mem _ hp)]

/-- Requests that are spelled in another way are loaded alike, from an array and from lines: their
members may change places, members of unknown names come and go, also nulls for parts that are
missing, and lists of cookies stand bare or in an object. -/
theorem load_respelled {ps qs : List (Padded Phrase)}
    (respelled : List.Forall₂ (fun p q => Request.Respelled p.part q.part) ps qs)
    (each : ∀ p ∈ ps, p.part.IsObject ∧ p.part.Fits 99) (rs : List Request) :
    (Request.load (arrayDump ps) = .ok rs ↔ Request.load (arrayDump qs) = .ok rs) ∧
      ((∀ p ∈ ps, '\n' ∉ p.text) → (∀ q ∈ qs, '\n' ∉ q.text) →
        (Request.load (linesDump ps) = .ok rs ↔ Request.load (linesDump qs) = .ok rs)) := by
  have nested (p : Padded Phrase) (hp : p ∈ ps) := (each p hp).2
  constructor
  · have alike := (toOption_loadArray_arrayDump ps).trans
      ((mapM_ofPhrase?_eq respelled nested (by decide)).trans
        (toOption_loadArray_arrayDump qs).symm)
    rw [Request.load_of_array_eq (isArrayText_arrayDump ps),
      Request.load_of_array_eq (isArrayText_arrayDump qs), ← toOption_eq_some_iff,
      ← toOption_eq_some_iff, toOption_bind, toOption_bind, alike]
  · intro free free'
    have objects (p : Padded Phrase) (hp : p ∈ ps) := (each p hp).1
    have objects' := forall_isObject_of_respelled respelled objects
    have stands (p : Padded Phrase) (hp : p ∈ ps) : Request.StandsOnLine p :=
      ⟨objects p hp, free p hp⟩
    have stands' (q : Padded Phrase) (hq : q ∈ qs) : Request.StandsOnLine q :=
      ⟨objects' q hq, free' q hq⟩
    have alike := (toOption_loadLines_linesDump stands).trans
      ((mapM_ofPhrase?_eq respelled nested (by decide)).trans
        (toOption_loadLines_linesDump stands').symm)
    rw [Request.load_of_lines_eq (isArrayText_linesDump stands),
      Request.load_of_lines_eq (isArrayText_linesDump stands'), ← toOption_eq_some_iff,
      ← toOption_eq_some_iff, toOption_bind, toOption_bind, alike]

/-- A request with one cookie, and the same with a null in the cookie, the list in an object, a null
for its method, and half of a surrogate pair under an unknown name. -/
theorem load_respelled_applied :
    let before := "\x7b\"url\":\"a\",\"responseCookies\":[\x7b\"name\":\"n\"\x7d]\x7d"
    let after := "\x7b\"x\":\"\\uD83D\",\"method\":null,\"responseCookies\":" ++
      "\x7b\"cookies\":[\x7b\"domain\":null,\"name\":\"n\"\x7d]\x7d,\"url\":\"a\"\x7d"
    let r : Request := { url := "a", responseCookies := some [{ name := "n" }] }
    Request.load before = .ok [r] ∧ Request.load after = .ok [r] ∧
      Request.load ("[" ++ after ++ "]") = .ok [r] := by
  intro before after r
  let url : Member := .bare "url" (.string (.ofString "a"))
  let name : Member := .bare "name" (.string (.ofString "n"))
  let domain : Member := .bare "domain" (.word .null)
  let list (cookie : List Member) : Phrase := .array .empty [.bare (.object .empty cookie)]
  let cookies (value : Phrase) : Member := .bare "responseCookies" value
  let wrapped (value : Phrase) : Phrase := .object .empty [Member.bare "cookies" value]
  let half : Phrase := .string
    ⟨['\\', 'u', 'D', '8', '3', 'D', '"'], .code (Json.mem_hexDigits_of_all (by decide)) .close⟩
  let p : Phrase := .object .empty [url, cookies (list [name])]
  let q : Phrase := .object .empty [Member.bare "x" half, Member.bare "method" (.word .null),
    cookies (wrapped (list [domain, name])), url]
  have step {ms ms' : List Member} (step : Request.dialect.Step ms ms') :
      Request.Respelled (.object .empty ms) (.object .empty ms') :=
    .rel _ _ (.members .empty .empty step)
  have cookie : Cookie.dialect.Step [name] [domain, name] :=
    .null (Member.name?_bare _ _) (by decide) rfl (by
      rw [List.forall_mem_singleton, Member.name?_bare]
      decide)
  have element : ElementStep Cookie.dialect.ObjectStep
      (.array .empty ([] ++ Padded.bare (.object .empty [name]) :: []))
      (.array .empty ([] ++ Padded.bare (.object .empty [domain, name]) :: [])) :=
    .element .empty .empty [] [] (.members .empty .empty cookie)
  have swapped : Request.dialect.Step [url, cookies (list [name])] [cookies (list [name]), url] :=
    .order (.swap _ _ _)
  have spelled : Request.dialect.Step [cookies (list [name]), url]
      [cookies (list [domain, name]), url] :=
    .within (Member.name?_bare _ _) (Member.name?_bare _ _) (.responseCookies (.bare element))
  have put : Request.dialect.Step [cookies (list [domain, name]), url]
      [cookies (wrapped (list [domain, name])), url] :=
    .within (Member.name?_bare _ _) (Member.name?_bare _ _)
      (.responseCookies (.wrap .empty .empty _ (Member.name?_bare _ _) rfl))
  have method : Request.dialect.Step [cookies (wrapped (list [domain, name])), url]
      [Member.bare "method" (.word .null), cookies (wrapped (list [domain, name])), url] :=
    .null (Member.name?_bare _ _) (by decide) rfl (by
      simp only [List.forall_mem_cons, cookies, url, Member.name?_bare]
      exact ⟨by decide, by decide, List.forall_mem_nil _⟩)
  have respelled : Request.Respelled p q :=
    .trans _ _ _ (step swapped) <| .trans _ _ _ (step spelled) <| .trans _ _ _ (step put) <|
      .trans _ _ _ (step method) <| step (.unknown (Member.name?_bare "x" half) (by decide) trivial)
  have nested : p.Fits 99 := by
    have cookie : Phrase.Fits 97 (.object .empty [name]) :=
      .object .empty (List.forall_mem_singleton.mpr (.string 96 _))
    have list : (list [name]).Fits 98 := .array .empty (List.forall_mem_singleton.mpr cookie)
    exact .object .empty
      (List.forall_mem_cons.mpr ⟨.string 98 _, List.forall_mem_singleton.mpr list⟩)
  have alike := load_respelled (.cons respelled .nil : List.Forall₂
    (fun p q => Request.Respelled p.part q.part) [Padded.bare p] [Padded.bare q])
    (List.forall_mem_singleton.mpr ⟨⟨_, _, rfl⟩, nested⟩) [r]
  have loaded : Request.load before = .ok [r] := by decide +kernel
  have array : Request.load (arrayDump [.bare p]) = .ok [r] := by decide +kernel
  have text : linesDump [.bare p] = before := by decide +kernel
  have text' : linesDump [.bare q] = after := by decide +kernel
  have arrayText' : arrayDump [.bare q] = "[" ++ after ++ "]" := by decide +kernel
  refine ⟨loaded, ?_, ?_⟩
  · rw [← text']
    refine (alike.2 ?_ ?_).mp (text ▸ loaded)
    · exact List.forall_mem_singleton.mpr (by decide +kernel)
    · exact List.forall_mem_singleton.mpr (by decide +kernel)
  · rw [← arrayText']
    exact alike.1.mp array

end RequestFilter
