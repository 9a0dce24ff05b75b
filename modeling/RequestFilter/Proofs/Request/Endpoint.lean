import RequestFilter.Proofs.Number.Digits
import RequestFilter.Proofs.Text.Run
import RequestFilter.Request.Basic

/-!
Telling the address and the port of an endpoint as it is shown.

Digits have no colon, so the port stands behind the last one. Before it stands an address without a
colon, or one with a colon in brackets, and these two are never the same text: brackets that belong
to an address are not taken for brackets around one.
-/

set_option autoImplicit false

namespace RequestFilter

def bracketed (address : List Char) : List Char :=
  if ':' ∈ address then '[' :: address ++ [']'] else address

private theorem colon_mem_bracketed_iff {address : List Char} :
    ':' ∈ bracketed address ↔ ':' ∈ address := by
  unfold bracketed
  split <;> simp

private theorem bracketed_injective : Function.Injective bracketed := by
  intro a b same
  have colon : ':' ∈ a ↔ ':' ∈ b := by
    rw [← colon_mem_bracketed_iff, same, colon_mem_bracketed_iff]
  unfold bracketed at same
  by_cases inner : ':' ∈ a
  · rw [if_pos inner, if_pos (colon.mp inner)] at same
    exact List.append_cancel_right (List.cons.inj same).2
  · rwa [if_neg inner, if_neg (mt colon.mpr inner)] at same

theorem toList_remoteEndpoint (address : String) {port : UInt16} (used : port ≠ 0) :
    (remoteEndpoint address (some port)).toList =
      bracketed address.toList ++ ':' :: decimalDigits port.toNat := by
  unfold remoteEndpoint bracketed
  simp only [if_neg used, List.contains_iff_mem]
  split
  · change ("[" ++ address ++ "]:" ++ toString port.toNat).toList = _
    simp [String.toList_append, decimalDigits]
  · change (address ++ ":" ++ toString port.toNat).toList = _
    simp [String.toList_append, decimalDigits]

/-- What stands behind the last colon is a port, so it is cut off in one way only. -/
private theorem eq_of_append_port_eq {a b : List Char} {m n : Nat}
    (same : a ++ ':' :: decimalDigits m = b ++ ':' :: decimalDigits n) : a = b ∧ m = n := by
  -- read from the end, the digits are a run that the colon ends
  have cut (address : List Char) (k : Nat) :
      (address ++ ':' :: decimalDigits k).reverse.span Char.isDigit =
        ((decimalDigits k).reverse, ':' :: address.reverse) := by
    rw [List.reverse_append, List.reverse_cons, List.append_assoc, List.singleton_append]
    exact Text.span_append_of_endsRun
      (fun c hc => isDigit_of_mem_decimalDigits (List.mem_reverse.mp hc))
      (Text.endsRun_cons.mpr (by decide))
  have parts := cut a m
  rw [same, cut b n] at parts
  obtain ⟨digits, rest⟩ := Prod.mk.inj parts
  exact ⟨List.reverse_inj.mp (List.cons.inj rest).2.symm,
    decimalDigits_injective (List.reverse_inj.mp digits).symm⟩

/-- Addresses with ports that are not zero are shown alike only if both are the same. -/
theorem eq_of_remoteEndpoint_eq {a b : String} {p q : UInt16} (hp : p ≠ 0) (hq : q ≠ 0)
    (same : remoteEndpoint a (some p) = remoteEndpoint b (some q)) : a = b ∧ p = q := by
  have shown := congrArg String.toList same
  rw [toList_remoteEndpoint a hp, toList_remoteEndpoint b hq] at shown
  obtain ⟨address, port⟩ := eq_of_append_port_eq shown
  exact ⟨String.toList_inj.mp (bracketed_injective address), UInt16.toNat_inj.mp port⟩

/-- An address with brackets and colons of its own, put together in two ways. -/
theorem eq_of_remoteEndpoint_eq_applied :
    let a := "[:" ++ ":1]:80"
    let b := "[::1]" ++ ":80"
    (443 : UInt16) ≠ 0 ∧ (0x1BB : UInt16) ≠ 0 ∧
      remoteEndpoint a (some 443) = remoteEndpoint b (some 0x1BB) ∧
      a = b ∧ (443 : UInt16) = 0x1BB := by
  intro a b
  have same : remoteEndpoint a (some 443) = remoteEndpoint b (some 0x1BB) := by decide
  exact ⟨by decide, by decide, same, eq_of_remoteEndpoint_eq (by decide) (by decide) same⟩

/-- Without a port, an address may be shown as another one is with its port. -/
example : remoteEndpoint "a:1" none = remoteEndpoint "a" (some 1) := by decide

end RequestFilter
