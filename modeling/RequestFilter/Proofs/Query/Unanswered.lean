import RequestFilter.Proofs.Query.Matcher

/-!
Predicates that cannot be answered.

A value may be of the wrong kind for its flag, a size may be unknown on either side, and a pattern
may be ill-formed. Then the rule of the flag is not satisfied, and only then does the sign of the
predicate count: the predicate holds exactly if it is negative.
-/

set_option autoImplicit false

namespace RequestFilter

/-- What leaves the rule of a flag without an answer on a request, by a compiler of patterns. -/
inductive Request.Unanswered (compile : Pattern.Compiler) (r : Request) : Flag → FlagValue → Prop
  | textForCount {f : Flag} (sized : f.isSize = true) (s : String) :
      Unanswered compile r f (.text s)
  | unknownCount {f : Flag} (sized : f.isSize = true) : Unanswered compile r f (.size none)
  | unknownContent {f : Flag} (content : f = .size ∨ f = .largerThan)
      (unknown : r.contentSize = none) (v : FlagValue) : Unanswered compile r f v
  /-- What comes from the cache is not transferred. -/
  | notTransferred {f : Flag} (transfer : f = .transferred ∨ f = .transferredLargerThan)
      (unknown : r.transferredSize = none ∨ r.fromCache = true) (v : FlagValue) :
      Unanswered compile r f v
  | countForText {f : Flag} (texts : f.isSize = false) (count : Option Double) :
      Unanswered compile r f (.size count)
  | illFormed {s : String} (refused : compile s = none) : Unanswered compile r .regexp (.text s)

namespace Request

private theorem matchesValue_text_of_isSize (r : Request) (compile : Pattern.Compiler) {f : Flag}
    (sized : f.isSize = true) (s : String) : r.matchesValue compile f (.text s) = false := by
  cases f with
  | size | transferred | largerThan | transferredLargerThan => rfl
  | _ => cases sized

private theorem matchesSize_of_not_isSize (r : Request) {f : Flag} (texts : f.isSize = false)
    (count : Double) : r.matchesSize f count = false := by
  cases f with
  | size | transferred | largerThan | transferredLargerThan => cases texts
  | _ => rfl

private theorem matchesSize_of_unknown {r : Request} {f : Flag}
    (unknown : (f = .size ∨ f = .largerThan) ∧ r.contentSize = none ∨
      (f = .transferred ∨ f = .transferredLargerThan) ∧
        (r.transferredSize = none ∨ r.fromCache = true)) (count : Double) :
    r.matchesSize f count = false := by
  rcases unknown with ⟨rfl | rfl, missing⟩ | ⟨rfl | rfl, missing | cached⟩
  all_goals simp only [matchesSize, *]
  all_goals simp

private theorem Unanswered.matchesValue_eq_false {compile : Pattern.Compiler} {r : Request}
    {f : Flag} {v : FlagValue} (h : r.Unanswered compile f v) :
    r.matchesValue compile f v = false := by
  -- a text for a size is refused whatever is known of the request
  have counted (sized : f.isSize = true) (none : ∀ count, r.matchesSize f count = false) :
      r.matchesValue compile f v = false := by
    cases v with
    | text s => exact r.matchesValue_text_of_isSize compile sized s
    | size count =>
      cases count with
      | none => rfl
      | some count => exact none count
  cases h with
  | textForCount sized s => exact r.matchesValue_text_of_isSize compile sized s
  | unknownCount sized => rfl
  | unknownContent content unknown =>
    refine counted ?_ (matchesSize_of_unknown (Or.inl ⟨content, unknown⟩))
    rcases content with rfl | rfl <;> rfl
  | notTransferred transfer unknown =>
    refine counted ?_ (matchesSize_of_unknown (Or.inr ⟨transfer, unknown⟩))
    rcases transfer with rfl | rfl <;> rfl
  | countForText texts count =>
    cases count with
    | none => rfl
    | some count => exact r.matchesSize_of_not_isSize texts count
  | illFormed refused => rw [matchesValue, if_pos rfl, matchesPattern, refused, Option.any_none]

end Request

private theorem Predicate.holdsBy_of_matchesValue_eq_false {compile : Pattern.Compiler}
    {r : Request} {f : Flag} {v : FlagValue} (filled : v.isBlank = false)
    (refused : r.matchesValue compile f v = false) (negative : Bool) :
    holdsBy compile ⟨f, v, negative⟩ r = negative := by
  rw [holdsBy, filled, refused, Bool.false_or, Bool.false_bne]

/-- Every flag has a predicate that is not negative and holds of some request. -/
private theorem Predicate.exists_holds (f : Flag) :
    ∃ v r, FlagValue.isBlank v = false ∧ Predicate.holds ⟨f, v, false⟩ r = true := by
  let x : Option String := some "x"
  let two : Option Double := some (.ofNat 2)
  let r : Request :=
    { url := "x", method := x, status := x, httpVersion := x, urlDetails := some ⟨"x", "x"⟩
      remoteAddress := x, cause := some ⟨x⟩, mimeType := x, contentSize := two
      transferredSize := two, responseHeaders := some ⟨[⟨"x", "x"⟩]⟩
      responseCookies := some [⟨"x", "x", x⟩] }
  cases f with
  | size | transferred => exact ⟨.size two, r, rfl, by decide +kernel⟩
  | largerThan | transferredLargerThan =>
    exact ⟨.size (some (.ofNat 1)), r, rfl, by decide +kernel⟩
  | _ => exact ⟨.text "x", r, rfl, by decide⟩

/-- A predicate that cannot be answered on a request does not hold of it, and its negation does,
whatever compiles its pattern and whether it was made ready before or not. This is not for want of
requests: by the compiler of the program every flag has a predicate with an answer that holds of
some request. -/
theorem holds_unanswered :
    (∀ (compile : Pattern.Compiler) (r : Request) (f : Flag) (v : FlagValue) (negative : Bool),
      v.isBlank = false → r.Unanswered compile f v →
        Predicate.holdsBy compile ⟨f, v, negative⟩ r = negative ∧
          (ReadyPredicate.ofPredicate compile ⟨f, v, negative⟩).holds r = negative) ∧
      ∀ f : Flag, ∃ v r, FlagValue.isBlank v = false ∧
        ¬Request.Unanswered Pattern.compile? r f v ∧ Predicate.holds ⟨f, v, false⟩ r = true := by
  constructor
  · intro compile r f v negative filled h
    rw [ReadyPredicate.holds_ofPredicate]
    have answer :=
      Predicate.holdsBy_of_matchesValue_eq_false filled h.matchesValue_eq_false negative
    exact ⟨answer, answer⟩
  · intro f
    obtain ⟨v, r, filled, held⟩ := Predicate.exists_holds f
    refine ⟨v, r, filled, fun h => ?_, held⟩
    rw [Predicate.holds,
      Predicate.holdsBy_of_matchesValue_eq_false filled h.matchesValue_eq_false] at held
    cases held

/-- A size that came from the cache, a pattern that is not closed and one that repeats too much, a
pattern that another compiler refuses, a count for a word, a text for a count and a size that nobody
knows. -/
theorem holds_unanswered_applied :
    let r : Request := { url := "a", transferredSize := some (.ofNat 1), fromCache := true }
    let refusing : Pattern.Compiler := fun _ => none
    Predicate.holds ⟨.transferred, .size (some (.ofNat 1)), false⟩ r = false ∧
      Predicate.holds ⟨.regexp, .text "(a", true⟩ r = true ∧
      Predicate.holds ⟨.regexp, .text "(a\x7b1000\x7d)\x7b1000\x7d", false⟩ r = false ∧
      Predicate.holdsBy refusing ⟨.regexp, .text "a", false⟩ r = false ∧
      (ReadyPredicate.ofPredicate refusing ⟨.is, .size none, true⟩).holds r = true ∧
      Predicate.holds ⟨.transferredLargerThan, .text "0", false⟩ r = false ∧
      (ReadyPredicate.ofPredicate refusing ⟨.largerThan, .size (some (.ofNat 0)), true⟩).holds r =
        true := by
  intro r refusing
  have unclosed : Pattern.compile? "(a" = none := by decide
  have large : Pattern.compile? "(a\x7b1000\x7d)\x7b1000\x7d" = none := by decide
  have unanswered := holds_unanswered.1
  refine ⟨?_, ?_, ?_, ?_, ?_, ?_, ?_⟩
  · have cached : r.Unanswered Pattern.compile? .transferred (.size (some (.ofNat 1))) :=
      .notTransferred (Or.inl rfl) (Or.inr rfl) _
    exact (unanswered Pattern.compile? r _ _ false rfl cached).1
  · exact (unanswered Pattern.compile? r _ _ true rfl (.illFormed unclosed)).1
  · exact (unanswered Pattern.compile? r _ _ false rfl (.illFormed large)).1
  · exact (unanswered refusing r _ _ false rfl (.illFormed rfl)).1
  · exact (unanswered refusing r _ _ true rfl (.countForText rfl none)).2
  · exact (unanswered Pattern.compile? r _ _ false rfl (.textForCount rfl "0")).1
  · exact (unanswered refusing r _ _ true rfl (.unknownContent (Or.inr rfl) rfl _)).2

end RequestFilter
