import RequestFilter.Proofs.Results
import RequestFilter.Proofs.Text.Offset
import RequestFilter.Proofs.Url.Split
import RequestFilter.Url.Scan

/-!
A search by offsets finds the pieces of a URL, and every offset on the way can be used. The marks
that end a piece are all below 128, so none of them is found inside a character.
-/

set_option autoImplicit false

namespace RequestFilter.Url

open Text

/-! ### Marks are below 128 -/

private theorem lt_of_le {c last : Char} (small : last.toNat < 128) (le : c.val ≤ last.val) :
    c.toNat < 128 :=
  Nat.lt_of_le_of_lt (UInt32.le_iff_toNat_le.mp le) small

private theorem lt_of_isAlpha {c : Char} (h : c.isAlpha = true) : c.toNat < 128 := by
  rcases Bool.or_eq_true_iff.mp h with upper | lower
  · exact @lt_of_le c 'Z' (by decide) (of_decide_eq_true upper).2
  · exact @lt_of_le c 'z' (by decide) (of_decide_eq_true (Bool.and_eq_true_iff.mp lower).2)

private theorem lt_of_isSchemeChar {c : Char} (h : isSchemeChar c = true) : c.toNat < 128 := by
  simp only [isSchemeChar, Bool.or_eq_true, decide_eq_true_eq] at h
  rcases h with ((letterOrDigit | rfl) | rfl) | rfl
  · rcases Bool.or_eq_true_iff.mp letterOrDigit with letter | digit
    · exact lt_of_isAlpha letter
    · exact @lt_of_le c '9' (by decide) (of_decide_eq_true (Bool.and_eq_true_iff.mp digit).2)
  all_goals decide

private theorem lt_of_eq {m : Char} (small : m.toNat < 128) (c : Char) (h : decide (c = m) = true) :
    c.toNat < 128 := by
  rw [of_decide_eq_true h]
  exact small

namespace Scan

variable {url : String}

/-! ### The scheme -/

private theorem schemeLength_of_colon {run rest : List Char}
    (spelled : url.toList = run ++ ':' :: rest) (free : ∀ c ∈ run, decide (c = ':') = false) :
    schemeLength (byteChars url) =
      .ok (if isScheme run = true then some (byteLength run) else none) := by
  have found : (byteChars url).findIdx? (· = ':') = some (byteLength run) := by
    rw [byteChars_eq spelled, List.findIdx?_toArray]
    exact findIdx?_byteList (lt_of_eq (by decide)) free (by decide)
  rw [schemeLength, found]
  cases run with
  | nil => rfl
  | cons c others =>
    obtain ⟨d, ds, bytes, same⟩ :=
      exists_first_byte (p := Char.isAlpha) (fun _ => lt_of_isAlpha) c (others ++ ':' :: rest)
    have first : byteAt (byteChars url) 0 = .ok d := by
      rw [byteChars_eq spelled, List.cons_append, bytes]
      rfl
    dsimp only
    rw [if_neg (byteLength_cons_ne_zero c others), first, ok_bind, same]
    cases letter : c.isAlpha with
    | false =>
      rw [isScheme, letter]
      rfl
    | true =>
      -- The scan goes on after the first byte, which is the whole first character.
      have single : byteLength [c] = 1 :=
        Char.utf8Size_eq_one_iff.mpr
          (UInt32.le_iff_toNat_le.mpr (Nat.le_of_lt_succ (lt_of_isAlpha letter)))
      have between : bytesBetween (byteChars url) 1 (byteLength (c :: others)) =
          .ok (byteList others).toArray := by
        have cut := bytesBetween_byteChars
          (show url.toList = [c] ++ others ++ ':' :: rest from spelled)
        rwa [← byteLength_append, single] at cut
      rw [between]
      simp only [Bool.not_true, Bool.false_eq_true, if_false, ok_bind, List.all_toArray,
        all_byteList fun _ => lt_of_isSchemeChar, isScheme, letter, Bool.true_and]
      rfl

/-- The search for a scheme finds the one at which the URL is cut. -/
private theorem schemeLength_byteChars (url : String) :
    schemeLength (byteChars url) =
      .ok ((splitScheme? url.toList).map fun (scheme, _) => byteLength scheme) := by
  obtain ⟨run, rest, spelled, free, ended⟩ := exists_run (fun c => decide (c ≠ ':')) url.toList
  have unmarked : ∀ c ∈ run, decide (c = ':') = false := by simpa using free
  cases rest with
  | nil =>
    rw [List.append_nil] at spelled
    have absent : (byteChars url).findIdx? (· = ':') = none := by
      rw [byteChars_eq spelled, List.findIdx?_toArray]
      exact findIdx?_byteList_eq_none (lt_of_eq (by decide)) unmarked
    rw [schemeLength, absent, spelled, splitScheme?_eq_none free]
    rfl
  | cons c rest =>
    obtain rfl : c = ':' := by simpa using ended
    rw [schemeLength_of_colon spelled unmarked, spelled, splitScheme?_append free]
    cases isScheme run <;> rfl

private theorem slashesAfter_toArray {before bytes : List Char} {colon : Nat}
    (length : before.length = colon + 1) :
    slashesAfter (before ++ bytes).toArray colon = .ok (decide (['/', '/'] <+: bytes)) := by
  have size : (before ++ bytes).toArray.size = colon + 1 + bytes.length := by
    rw [List.size_toArray, List.length_append, length]
  rw [slashesAfter, size]
  -- The two bytes are read only where there are two.
  rcases bytes with _ | ⟨b, _ | ⟨d, ds⟩⟩
  · rw [if_neg (by simp)]
    rfl
  · rw [if_neg (by simp), decide_eq_false (by simp)]
    rfl
  · have next : byteAt (before ++ b :: d :: ds).toArray (colon + 1) = .ok b := by
      rw [← length]
      exact byteAt_toArray before b (d :: ds)
    have second : byteAt (before ++ b :: d :: ds).toArray (colon + 2) = .ok d := by
      have read := byteAt_toArray (before ++ [b]) d ds
      rw [List.length_append, length, List.append_assoc] at read
      exact read
    have long : colon + 2 < colon + 1 + (b :: d :: ds).length := by
      simp only [List.length_cons]
      omega
    have both : ['/', '/'] <+: b :: d :: ds ↔ b = '/' ∧ d = '/' := by simp [eq_comm]
    rw [if_pos long, next, ok_bind, second, ok_bind, decide_eq_decide.mpr both, Bool.decide_and]
    rfl

private theorem slashesAfter_byteChars {scheme rest : List Char}
    (spelled : url.toList = scheme ++ [':'] ++ rest) :
    slashesAfter (byteChars url) (byteLength scheme) = .ok (decide (['/', '/'] <+: rest)) := by
  have colon : (byteList (scheme ++ [':'])).length = byteLength scheme + 1 := by
    rw [length_byteList, byteLength_append]
    rfl
  have begin : ['/', '/'] <+: byteList rest ↔ ['/', '/'] <+: rest := prefix_byteList_iff (by simp)
  rw [byteChars_eq spelled, byteList_append, slashesAfter_toArray colon, decide_eq_decide.mpr begin]

private theorem schemeEnd?_of_splitScheme? {scheme rest : List Char}
    (cut : splitScheme? url.toList = some (scheme, rest)) :
    schemeEnd? url = some (byteLength scheme + if ['/', '/'] <+: rest then 3 else 1) := by
  rw [schemeEnd?.eq_def, cut]
  split
  · rename_i same
    cases same
    simp
  · rename_i found other same
    cases same
    have plain : ¬['/', '/'] <+: rest := by
      rintro ⟨after, rfl⟩
      exact other after rfl
    rw [if_neg plain]
  · rename_i none
    cases none

private theorem schemeEnd_byteChars (url : String) :
    schemeEnd (byteChars url) = .ok (schemeEnd? url) := by
  rw [schemeEnd, schemeLength_byteChars, ok_bind]
  cases cut : splitScheme? url.toList with
  | none =>
    rw [schemeEnd?.eq_def, cut]
    rfl
  | some found =>
    obtain ⟨scheme, rest⟩ := found
    have spelled : url.toList = scheme ++ [':'] ++ rest := by
      rw [(splitScheme?_eq_some_iff.mp cut).2]
      simp
    rw [schemeEnd?_of_splitScheme? cut]
    dsimp only [Option.map_some]
    rw [slashesAfter_byteChars spelled, ok_bind]
    by_cases slashes : ['/', '/'] <+: rest
    · rw [decide_eq_true slashes, if_pos slashes]
      rfl
    · rw [decide_eq_false slashes, if_neg slashes]
      rfl

/-! ### The user's part -/

private theorem stopsUser_eq (c : Char) :
    (decide (c = '@') || endsAuthority c) = !(decide (c ≠ '@') && !endsAuthority c) := by
  simp

private theorem lt_of_stopsUser (c : Char) (h : (decide (c = '@') || endsAuthority c) = true) :
    c.toNat < 128 := by
  have marks : ∀ m ∈ ['@', '/', '?', '#'], m.toNat < 128 := by simp
  rw [stopsUser_eq, Bool.not_eq_true', Bool.eq_false_iff, ne_eq, passesUser_iff,
    Decidable.not_not] at h
  exact marks c h

private theorem userEnd_byteChars {opening user rest : List Char}
    (spelled : url.toList = opening ++ user ++ rest) (isUser : IsUser user rest) :
    userEnd (byteChars url) (byteLength opening) = .ok (byteLength (opening ++ user)) := by
  rw [userEnd]
  cases isUser with
  | @named name rest plain =>
    have parts : url.toList = opening ++ name ++ '@' :: rest := by simpa using spelled
    have mark : (byteChars url)[byteLength opening + byteLength name]? = some '@' := by
      rw [← byteLength_append, getElem?_byteChars parts, byteList_cons (by decide)]
      rfl
    rw [seek_byteChars lt_of_stopsUser parts
      (fun c hc => by rw [stopsUser_eq, plain c hc]; rfl) (by simp), ok_bind, if_pos mark]
    simp only [byteLength_append, Nat.add_assoc]
    rfl
  | @absent authority after plain ended =>
    have parts : url.toList = opening ++ authority ++ after := by simpa using spelled
    have stopped : EndsRun (fun c => !(decide (c = '@') || endsAuthority c)) after :=
      fun c hc => by simp [ended c hc]
    have other : (byteChars url)[byteLength opening + byteLength authority]? ≠ some '@' := by
      rw [← byteLength_append, getElem?_byteChars parts, ne_eq, head?_byteList (by decide)]
      intro first
      have ends := ended '@' first
      revert ends
      decide
    rw [seek_byteChars lt_of_stopsUser parts
      (fun c hc => by rw [stopsUser_eq, plain c hc]; rfl) stopped, ok_bind, if_neg other,
      List.append_nil]
    rfl

/-! ### The host -/

private theorem lt_of_endsHost (c : Char) (h : endsHost c = true) : c.toNat < 128 := by
  have marks : ∀ m ∈ ['/', '?', '#', ':'], m.toNat < 128 := by simp
  exact marks c (endsHost_iff.mp h)

private theorem hostEnd_byteChars {before rest : List Char} (spelled : url.toList = before ++ rest)
    :
    hostEnd (byteChars url) (byteLength before) =
      .ok ((splitHostName? rest).map fun (host, _) => byteLength before + byteLength host) := by
  rw [hostEnd, getElem?_byteChars spelled]
  by_cases bracket : rest.head? = some '['
  · have between : bytesBetween (byteChars url) (byteLength before) (byteChars url).size =
        .ok (byteList rest).toArray := by
      rw [size_byteChars spelled, byteLength_append]
      exact bytesBetween_byteChars (spelled.trans (List.append_nil _).symm)
    rw [if_pos ((head?_byteList (by decide)).mpr bracket), between, ok_bind, List.findIdx?_toArray]
    obtain ⟨inner, rfl⟩ := List.head?_eq_some_iff.mp bracket
    obtain ⟨name, tail, rfl, plain, ended⟩ := exists_run (fun c => decide (c ≠ ']')) inner
    have free : ∀ c ∈ '[' :: name, decide (c = ']') = false := by simpa using plain
    cases tail with
    | nil =>
      rw [List.append_nil, findIdx?_byteList_eq_none (lt_of_eq (by decide)) free,
        splitHostName?_eq_none plain]
      rfl
    | cons c after =>
      obtain rfl : c = ']' := by simpa using ended
      have named : splitHostName? ('[' :: (name ++ ']' :: after)) =
          some ('[' :: name ++ [']'], after) :=
        splitHostName?_eq_some_iff.mpr ⟨by simp, .bracketed after plain⟩
      rw [← List.cons_append, findIdx?_byteList (lt_of_eq (by decide)) free (by decide),
        List.cons_append, named]
      simp only [Option.map_some, byteLength_append, Nat.add_assoc]
      rfl
  · obtain ⟨host, after, rfl, plain, ended⟩ := exists_run (fun c => !endsHost c) rest
    have named : splitHostName? (host ++ after) = some (host, after) :=
      splitHostName?_eq_some_iff.mpr ⟨rfl, .plain bracket plain ended⟩
    have parts : url.toList = before ++ host ++ after := by rw [spelled, List.append_assoc]
    rw [if_neg (fun first => bracket ((head?_byteList (by decide)).mp first)),
      seek_byteChars lt_of_endsHost parts (fun c hc => by simpa using plain c hc) ended, named]
    rfl

/-! ### The pieces -/

private theorem exists_marks {scheme rest : List Char}
    (cut : splitScheme? url.toList = some (scheme, rest)) :
    ∃ marks after, url.toList = scheme ++ marks ++ after ∧
      schemeEnd? url = some (byteLength (scheme ++ marks)) ∧
      (marks = [':'] ∧ ¬['/', '/'] <+: rest ∨
        marks = [':', '/', '/'] ∧ rest = '/' :: '/' :: after) := by
  have spelled := (splitScheme?_eq_some_iff.mp cut).2
  have ends := schemeEnd?_of_splitScheme? cut
  by_cases slashes : ['/', '/'] <+: rest
  · rw [if_pos slashes] at ends
    obtain ⟨after, rfl⟩ := slashes
    refine ⟨[':', '/', '/'], after, by rw [spelled]; simp, ?_, .inr ⟨rfl, rfl⟩⟩
    rw [ends, byteLength_append]
    rfl
  · rw [if_neg slashes] at ends
    refine ⟨[':'], rest, by rw [spelled]; simp, ?_, .inl ⟨rfl, slashes⟩⟩
    rw [ends, byteLength_append]
    rfl

private theorem hostPosition_eq (url : String) : hostPosition url = .ok (hostPosition? url) := by
  rw [hostPosition, schemeEnd_byteChars, ok_bind, hostPosition?]
  cases cut : splitScheme? url.toList with
  | none =>
    rw [schemeEnd?.eq_def, splitHost?.eq_def, cut]
    rfl
  | some found =>
    obtain ⟨scheme, rest⟩ := found
    obtain ⟨marks, after, spelled, ends, kind⟩ := exists_marks cut
    rw [ends]
    dsimp only
    rw [textBetween_zero spelled, ok_bind, String.toList_ofList]
    rcases kind with ⟨rfl, other⟩ | ⟨rfl, rfl⟩
    · have opens : ['/', '/'].isSuffixOf (scheme ++ [':']) = false := by
        rw [Bool.eq_false_iff, ne_eq, List.isSuffixOf_iff_suffix]
        intro suffix
        have last := suffix.getLast (List.cons_ne_nil '/' ['/'])
        simp at last
      rw [opens, splitHost?_eq_none cut other]
      rfl
    · have opens : ['/', '/'].isSuffixOf (scheme ++ [':', '/', '/']) = true :=
        List.isSuffixOf_iff_suffix.mpr ⟨scheme ++ [':'], by simp⟩
      obtain ⟨user, after, rfl, isUser⟩ := exists_isUser after
      have parts : url.toList = scheme ++ [':', '/', '/'] ++ user ++ after := by
        rw [spelled, List.append_assoc _ user]
      rw [opens, splitHost?_eq_map cut isUser, userEnd_byteChars parts isUser]
      simp only [ok_bind, hostEnd_byteChars parts, Option.map_map]
      rfl

private theorem scheme_eq (url : String) : scheme url = .ok (scheme? url) := by
  rw [scheme, schemeLength_byteChars, ok_bind, scheme?]
  cases cut : splitScheme? url.toList with
  | none => rfl
  | some found =>
    obtain ⟨scheme, rest⟩ := found
    dsimp only [Option.map_some]
    rw [textBetween_zero (splitScheme?_eq_some_iff.mp cut).2]
    rfl

private theorem host_eq (url : String) : host url = .ok (host? url) := by
  rw [host, hostPosition_eq, ok_bind]
  cases found : hostPosition? url with
  | none =>
    have uncut : splitHost? url.toList = none := Option.map_eq_none_iff.mp found
    rw [host?, uncut]
    rfl
  | some position =>
    obtain ⟨start, stop⟩ := position
    obtain ⟨scheme, user, host, after, cut, rfl, rfl⟩ := exists_isCut found
    rw [cut.host?_eq]
    cases host with
    | nil =>
      dsimp only
      rw [if_pos (by simp)]
      rfl
    | cons c cs =>
      have positive := byteLength_cons_ne_zero c cs
      dsimp only
      rw [if_neg (by omega), textBetween_byteLength cut.text]
      rfl

end Scan

/-! ### All offsets can be used -/

section Offsets

variable {url : String}

private theorem schemeEnd?_usable {p : Nat} (found : schemeEnd? url = some p) :
    IsOffset url p ∧ ∃ name n, scheme? url = some name ∧ textBetween url 0 n = .ok name ∧
      (p = n + 1 ∨ p = n + 3) := by
  cases cut : splitScheme? url.toList with
  | none =>
    rw [schemeEnd?.eq_def, cut] at found
    cases found
  | some pieces =>
    obtain ⟨scheme, rest⟩ := pieces
    obtain ⟨marks, after, spelled, ends, kind⟩ := Scan.exists_marks cut
    obtain rfl := Option.some.inj (ends.symm.trans found)
    refine ⟨isOffset_byteLength spelled, .ofList scheme, byteLength scheme, ?_, ?_, ?_⟩
    · rw [scheme?, cut]
      rfl
    · exact textBetween_zero (spelled.trans (List.append_assoc ..))
    · rw [byteLength_append]
      rcases kind with ⟨rfl, _⟩ | ⟨rfl, _⟩
      · exact .inl rfl
      · exact .inr rfl

private theorem hostPosition?_usable {a b : Nat} (found : hostPosition? url = some (a, b)) :
    ∃ p opening, schemeEnd? url = some p ∧ textBetween url 0 p = .ok opening ∧
      [':', '/', '/'] <:+ opening.toList ∧ p ≤ a ∧ a ≤ b ∧ IsOffset url a ∧ IsOffset url b := by
  obtain ⟨scheme, user, host, after, cut, rfl, rfl⟩ := exists_isCut found
  have opening : byteLength (scheme ++ [':', '/', '/']) = byteLength scheme + 3 := by
    rw [byteLength_append]
    rfl
  refine ⟨byteLength scheme + 3, .ofList (scheme ++ [':', '/', '/']), cut.schemeEnd?_eq, ?_, ?_,
    ?_, ?_, ?_, ?_⟩
  · rw [← opening]
    have parts : url.toList = scheme ++ [':', '/', '/'] ++ (user ++ host ++ after) := by
      rw [cut.text]
      simp
    exact textBetween_zero parts
  · rw [String.toList_ofList]
    exact List.suffix_append scheme _
  · rw [byteLength_append, opening]
    exact Nat.le_add_right ..
  · exact Nat.le_add_right ..
  · exact isOffset_byteLength (cut.text.trans (List.append_assoc ..))
  · rw [← byteLength_append]
    exact isOffset_byteLength cut.text

private theorem host?_eq_none_iff :
    host? url = none ↔ hostPosition? url = none ∨ ∃ a, hostPosition? url = some (a, a) := by
  cases found : hostPosition? url with
  | none =>
    have uncut : splitHost? url.toList = none := Option.map_eq_none_iff.mp found
    simp [host?, uncut]
  | some position =>
    obtain ⟨a, b⟩ := position
    obtain ⟨scheme, user, host, after, cut, rfl, rfl⟩ := exists_isCut found
    rw [cut.host?_eq]
    cases host with
    | nil => simp
    | cons c cs =>
      have positive := byteLength_cons_ne_zero c cs
      refine iff_of_false (by simp) ?_
      rintro (absent | ⟨a, same⟩)
      · cases absent
      · obtain ⟨rfl, longer⟩ := Prod.mk.inj (Option.some.inj same)
        omega

/-- Every offset into a URL that is computed on the way to its scheme and its host can be used: none
is beyond the end or inside a character, and what is read by offsets is the scheme and the host. -/
theorem offsets_usable (url : String) :
    (∀ p, schemeEnd? url = some p →
      IsOffset url p ∧ ∃ name n, scheme? url = some name ∧ textBetween url 0 n = .ok name ∧
        (p = n + 1 ∨ p = n + 3)) ∧
    (∀ a b, hostPosition? url = some (a, b) →
      ∃ p opening, schemeEnd? url = some p ∧ textBetween url 0 p = .ok opening ∧
        [':', '/', '/'] <:+ opening.toList ∧ p ≤ a ∧ a ≤ b ∧ IsOffset url a ∧ IsOffset url b) ∧
    (Scan.schemeLength (byteChars url) =
        .ok ((splitScheme? url.toList).map fun (scheme, _) => byteLength scheme) ∧
      Scan.schemeEnd (byteChars url) = .ok (schemeEnd? url) ∧
      Scan.scheme url = .ok (scheme? url) ∧
      Scan.hostPosition url = .ok (hostPosition? url) ∧
      Scan.host url = .ok (host? url)) ∧
    (host? url = none ↔ hostPosition? url = none ∨ ∃ a, hostPosition? url = some (a, a)) :=
  ⟨fun _ => schemeEnd?_usable, fun _ _ => hostPosition?_usable,
    ⟨Scan.schemeLength_byteChars url, Scan.schemeEnd_byteChars url, Scan.scheme_eq url,
      Scan.hostPosition_eq url, Scan.host_eq url⟩,
    host?_eq_none_iff⟩

end Offsets

end RequestFilter.Url
