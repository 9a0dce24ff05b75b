import Mathlib.Data.List.Basic
import RequestFilter.Proofs.Request.Endpoint
import RequestFilter.Proofs.Text.Search
import RequestFilter.Proofs.Text.Sigma
import RequestFilter.Query.Evaluate
import RequestFilter.Suggest

/-!
The rules of the flags that look at texts, as one comparison with the values observed on a request.

A flag either compares lower forms, and then every value agrees with its own lower form, or it
compares the value as recorded, and then only a value that is its own lower form is sure to.
-/

set_option autoImplicit false

namespace RequestFilter

namespace Flag

/-- Whether a flag compares with the lower form of what was recorded. -/
def ignoresCase : Flag → Bool
  | .method | .protocol | .domain | .remoteIp | .hasResponseHeader | .cause | .setCookieName
  | .setCookieValue => true
  | _ => false

/-- Whether a flag compares with a text as it was recorded. -/
def keepsCase : Flag → Bool
  | .statusCode | .scheme | .mimeType | .setCookieDomain => true
  | _ => false

theorem valueOf_eq_lower {f : Flag} (texts : (f.ignoresCase || f.keepsCase) = true) {v : String}
    (ne : v ≠ "") : f.valueOf v = .text (Text.lower v) := by
  have filled : v.isEmpty = false := by simpa using ne
  cases f with
  | transferred | size | largerThan | transferredLargerThan | is | regexp => cases texts
  | _ => simp [valueOf, filled, isSize]

theorem ne_regexp_of_texts {f : Flag} (texts : (f.ignoresCase || f.keepsCase) = true) :
    f ≠ .regexp := by
  rintro rfl
  cases texts

/-- How a flag compares a recorded value with the text sought: the whole text or a part of it, the
lower form or the value as it is. An address is compared with its port, if that is known. -/
def agrees (f : Flag) (port : Option UInt16) (value sought : String) : Bool :=
  match f with
  | .statusCode | .scheme => value == sought
  | .method | .hasResponseHeader => Text.lower value == sought
  | .mimeType | .setCookieDomain => Text.holds value sought
  | .protocol | .domain | .cause | .setCookieName | .setCookieValue =>
    Text.holds (Text.lower value) sought
  | .remoteIp => Text.holds (Text.lower (remoteEndpoint value port)) sought
  | _ => false

end Flag

/-- A rule holds of a request exactly if some value observed on it agrees with the text. -/
theorem Request.matchesText_eq_any_observed (r : Request) (f : Flag)
    (texts : (f.ignoresCase || f.keepsCase) = true) (sought : String) :
    r.matchesText f sought =
      (r.observed f).any fun value => f.agrees r.remotePort value sought := by
  have single (known : Option String) (test : String → Bool) :
      known.any test = known.toList.any test := by
    cases known <;> simp
  cases f with
  | statusCode => cases h : r.status <;> simp [matchesText, observed, Flag.agrees, h]
  | scheme => cases h : r.scheme? <;> simp [matchesText, observed, Flag.agrees, h]
  | method => exact single r.method _
  | protocol => exact single r.httpVersion _
  | domain => exact single r.host? _
  | cause => exact single r.causeKind? _
  | mimeType => exact single r.mimeType _
  | remoteIp =>
    cases h : r.remoteAddress <;>
      simp [matchesText, testLower, endpoint?, observed, Flag.agrees, h]
  | hasResponseHeader | setCookieName | setCookieValue =>
    simp only [matchesText, observed, Flag.agrees, List.any_map]
    rfl
  | setCookieDomain =>
    simp only [matchesText, observed, Flag.agrees, List.any_filterMap]
    rfl
  | _ => simp [Flag.ignoresCase, Flag.keepsCase] at texts

theorem Predicate.holds_text (r : Request) {f : Flag}
    (texts : (f.ignoresCase || f.keepsCase) = true) {sought : String} (filled : sought ≠ "")
    (negative : Bool) :
    holds ⟨f, .text sought, negative⟩ r =
      (((r.observed f).any fun value => f.agrees r.remotePort value sought) != negative) := by
  have typed : (FlagValue.text sought).isBlank = false := by
    simpa [FlagValue.isBlank] using filled
  rw [holds, holdsBy, typed, Bool.false_or, Request.matchesValue,
    if_neg (Flag.ne_regexp_of_texts texts), r.matchesText_eq_any_observed f texts]

/-! ### The address with its port -/

private theorem exists_toList_remoteEndpoint (address : String) (port : Option UInt16) :
    ∃ left right, (remoteEndpoint address port).toList = left ++ address.toList ++ right ∧
      (∀ c ∈ left, Text.isCased c = false) ∧ ∀ c ∈ right, Text.isCased c = false := by
  have plain : ∃ left right, address.toList = left ++ address.toList ++ right ∧
      (∀ c ∈ left, Text.isCased c = false) ∧ ∀ c ∈ right, Text.isCased c = false :=
    ⟨[], [], by simp, by simp, by simp⟩
  cases port with
  | none => exact plain
  | some p =>
    by_cases unused : p = 0
    · rw [unused]
      exact plain
    have digits : ∀ c ∈ decimalDigits p.toNat, Text.isCased c = false := fun c hc =>
      Text.isCased_of_isDigit (isDigit_of_mem_decimalDigits hc)
    rw [toList_remoteEndpoint address unused, bracketed]
    split
    · refine ⟨['['], ']' :: ':' :: decimalDigits p.toNat, by simp, ?_, ?_⟩
      · exact List.forall_mem_singleton.mpr (by decide)
      · exact List.forall_mem_cons.mpr ⟨by decide, List.forall_mem_cons.mpr ⟨by decide, digits⟩⟩
    · refine ⟨[], ':' :: decimalDigits p.toNat, rfl, List.forall_mem_nil _, ?_⟩
      exact List.forall_mem_cons.mpr ⟨by decide, digits⟩

/-- The lower form of an address stands in that of the address with its port: what is added has
no case, so a sigma at either end is lowered as if the address stood alone. -/
private theorem holds_lower_remoteEndpoint (address : String) (port : Option UInt16) :
    Text.holds (Text.lower (remoteEndpoint address port)) (Text.lower address) = true := by
  obtain ⟨left, right, shown, uncasedLeft, uncasedRight⟩ :=
    exists_toList_remoteEndpoint address port
  rw [Text.holds_iff, Text.lower, Text.lower, String.toList_ofList, String.toList_ofList, shown]
  exact Text.lowerList_infix_of_not_turnsSigma
    (Text.not_turnsSigma_of_uncased uncasedLeft uncasedRight address.toList)

namespace Flag

theorem agrees_lower {f : Flag} (folds : f.ignoresCase = true) (port : Option UInt16)
    (value : String) : f.agrees port value (Text.lower value) = true := by
  cases f with
  | method | hasResponseHeader => exact beq_self_eq_true (Text.lower value)
  | protocol | domain | cause | setCookieName | setCookieValue =>
    exact Text.holds_self (Text.lower value)
  | remoteIp => exact holds_lower_remoteEndpoint value port
  | _ => cases folds

private theorem agrees_self {f : Flag} (recorded : f.keepsCase = true) (port : Option UInt16)
    (value : String) : f.agrees port value value = true := by
  cases f with
  | statusCode | scheme => exact beq_self_eq_true value
  | mimeType | setCookieDomain => exact Text.holds_self value
  | _ => cases recorded

private theorem lower_eq_of_holds {v : String} (held : Text.holds v (Text.lower v) = true) :
    Text.lower v = v := by
  rw [Text.holds_iff] at held
  have grown : v.toList.length ≤ (Text.lower v).toList.length := by
    rw [Text.lower, String.toList_ofList]
    exact Text.length_le_lowerList v.toList
  exact String.toList_inj.mp (held.eq_of_length_le grown)

theorem agrees_lower_iff {f : Flag} (recorded : f.keepsCase = true) (port : Option UInt16)
    (value : String) :
    f.agrees port value (Text.lower value) = true ↔ Text.lower value = value := by
  constructor
  · intro agreed
    cases f with
    | statusCode | scheme => exact (eq_of_beq agreed).symm
    | mimeType | setCookieDomain => exact lower_eq_of_holds agreed
    | _ => cases recorded
  · intro same
    rw [same]
    exact agrees_self recorded port value

end Flag
end RequestFilter
