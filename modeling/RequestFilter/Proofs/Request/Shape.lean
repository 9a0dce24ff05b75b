import RequestFilter.Proofs.Json.Filling
import RequestFilter.Request.Json

/-!
Requests and their parts are free in form: no part has to be given, and parts may be read in any
order.
-/

set_option autoImplicit false

namespace RequestFilter

theorem UrlDetails.isFreeForm : UrlDetails.shape.IsFreeForm where
  optional := rfl
  fixed := by
    simp only [shape, List.forall_mem_cons]
    exact ⟨.defaulted _ _ (Json.isFixed_string.orDefault ""),
      .defaulted _ _ (Json.isFixed_string.orDefault ""), List.forall_mem_nil _⟩
  commute := List.pairwise_pair.mpr (.defaulted fun _ _ _ => rfl)

theorem Cause.isFreeForm : Cause.shape.IsFreeForm where
  optional := rfl
  fixed := List.forall_mem_singleton.mpr (.defaulted _ _ Json.isFixed_string.optional)
  commute := List.pairwise_singleton _ _

theorem Header.isFreeForm : Header.shape.IsFreeForm where
  optional := rfl
  fixed := by
    simp only [shape, List.forall_mem_cons]
    exact ⟨.defaulted _ _ (Json.isFixed_string.orDefault ""),
      .defaulted _ _ (Json.isFixed_string.orDefault ""), List.forall_mem_nil _⟩
  commute := List.pairwise_pair.mpr (.defaulted fun _ _ _ => rfl)

theorem ResponseHeaders.isFreeForm : ResponseHeaders.shape.IsFreeForm where
  optional := rfl
  fixed := List.forall_mem_singleton.mpr
    (.defaulted _ _ (Header.isFreeForm.isFixed_decode.list.orDefault []))
  commute := List.pairwise_singleton _ _

theorem Request.isFreeForm : Request.shape.IsFreeForm where
  optional := rfl
  fixed := by
    simp only [shape, List.forall_mem_cons]
    exact ⟨.defaulted _ _ Json.isFixed_string,
      .defaulted _ _ Json.isFixed_string.optional,
      .defaulted _ _ (Json.isFixed_choice _ _).optional,
      .defaulted _ _ Json.isFixed_string.optional,
      .defaulted _ _ UrlDetails.isFreeForm.isFixed_decode.optional,
      .defaulted _ _ Json.isFixed_string.optional,
      .defaulted _ _ Json.isFixed_word16.optional,
      .defaulted _ _ Cause.isFreeForm.isFixed_decode.optional,
      .defaulted _ _ Json.isFixed_string.optional,
      .defaulted _ _ Json.isFixed_double.optional,
      .defaulted _ _ Json.isFixed_double.optional,
      .defaulted _ _ (Json.isFixed_boolean.orDefault false),
      .defaulted _ _ ResponseHeaders.isFreeForm.isFixed_decode.optional,
      .defaulted _ _ (Json.isFixed_choice _ _).optional, List.forall_mem_nil _⟩
  commute := by
    simp only [shape, List.pairwise_cons, List.forall_mem_cons, List.not_mem_nil, false_imp_iff,
      implies_true, and_true, List.Pairwise.nil]
    repeat' apply And.intro
    all_goals exact .defaulted fun _ _ _ => rfl

end RequestFilter
