import Mathlib.Data.List.Basic
import RequestFilter.Proofs.Text.Offset
import RequestFilter.Proofs.Url.Split
import RequestFilter.Request.Basic

/-!
Where the host stands in the authority of a URL.

The user's part ends at the first `@` of the authority, so the host follows the last one only if no
other comes before it. A host in brackets ends at the first closing bracket, wherever that is, so it
stays inside the authority only if the authority has one.
-/

set_option autoImplicit false

namespace RequestFilter

open Text Url

namespace Url

private theorem IsUser.inside {user rest : List Char} (h : IsUser user rest) :
    ∀ c ∈ user, (!endsAuthority c) = true := by
  cases h with
  | named _ plain =>
    intro c hc
    rcases List.mem_append.mp hc with name | last
    · exact (Bool.and_eq_true_iff.mp (plain c name)).2
    · rw [List.mem_singleton.mp last]
      decide
  | absent => simp

/-! ### The authority -/

/-- The authority of a URL: what stands between the offset `first` after the scheme and the first
character that ends it. -/
inductive IsAuthority (url : String) : Nat → List Char → Prop
  | intro {opening authority rest : List Char} (text : url.toList = opening ++ authority ++ rest)
      (begins : schemeEnd? url = some (byteLength opening))
      (inside : ∀ c ∈ authority, c ∉ ['/', '?', '#'])
      (ended : ∀ c ∈ rest.head?, c ∈ ['/', '?', '#']) :
      IsAuthority url (byteLength opening) authority

private theorem not_endsAuthority_iff {c : Char} : (!endsAuthority c) = true ↔ c ∉ ['/', '?', '#']
    := by
  rw [Bool.not_eq_true', Bool.eq_false_iff, ne_eq, endsAuthority_iff]

private theorem IsCut.isAuthority_iff {url : String} {scheme user host after : List Char}
    (cut : IsCut url.toList scheme user host after) {first : Nat} {authority : List Char} :
    IsAuthority url first authority ↔
      first = byteLength (scheme ++ [':', '/', '/']) ∧
        authority = user ++ (host ++ after).takeWhile fun c => !endsAuthority c := by
  have whole : (user ++ (host ++ after)).takeWhile (fun c => !endsAuthority c) =
      user ++ (host ++ after).takeWhile fun c => !endsAuthority c :=
    List.takeWhile_append_of_pos cut.user.inside
  have opened : schemeEnd? url = some (byteLength (scheme ++ [':', '/', '/'])) := by
    rw [cut.schemeEnd?_eq, byteLength_append]
    rfl
  constructor
  · rintro ⟨text, begins, inside, ended⟩
    rename_i opening rest
    have sameLength : byteLength opening = byteLength (scheme ++ [':', '/', '/']) :=
      Option.some_inj.mp (begins.symm.trans opened)
    have spelled := cut.text
    rw [List.append_assoc _ host, List.append_assoc _ user] at spelled
    rw [List.append_assoc] at text
    have same : opening = scheme ++ [':', '/', '/'] :=
      eq_of_byteLength_eq ⟨_, text.symm⟩ ⟨_, spelled.symm⟩ sameLength
    rw [same] at text
    have tail := List.append_cancel_left (text.symm.trans spelled)
    refine ⟨sameLength, ?_⟩
    rw [← whole, ← tail, takeWhile_append_of_endsRun
      (fun c hc => not_endsAuthority_iff.mpr (inside c hc))
      (endsRun_not_iff.mpr fun c hc => endsAuthority_iff.mpr (ended c hc))]
  · rintro ⟨rfl, rfl⟩
    obtain ⟨run, rest, split, inside, ended⟩ :=
      exists_run (fun c => !endsAuthority c) (host ++ after)
    rw [split, takeWhile_append_of_endsRun inside ended]
    refine @IsAuthority.intro url _ _ rest ?_ opened (fun c hc => not_endsAuthority_iff.mp ?_)
      fun c hc => endsAuthority_iff.mp (endsRun_not_iff.mp ended c hc)
    · rw [cut.text, List.append_assoc _ host, split]
      simp
    · rcases List.mem_append.mp hc with before | within
      · exact cut.user.inside c before
      · exact inside c within

/-! ### The user's part -/

/-- Whether `start` is the offset after the last `@` of an authority that begins at `first`; without
an `@` it is `first` itself. -/
def FollowsUser (authority : List Char) (first start : Nat) : Prop :=
  ('@' ∉ authority → start = first) ∧
    ∀ user host, authority = user ++ '@' :: host → '@' ∉ host →
      start = first + byteLength (user ++ ['@'])

private theorem exists_last {m : Char} {cs : List Char} (h : m ∈ cs) :
    ∃ before after, cs = before ++ m :: after ∧ m ∉ after := by
  obtain ⟨after, before, reversed, fresh⟩ :=
    List.eq_append_cons_of_mem (List.mem_reverse.mpr h)
  refine ⟨before.reverse, after.reverse, ?_, by simpa using fresh⟩
  rw [← List.reverse_reverse cs, reversed]
  simp

private theorem followsUser_iff {name rest : List Char} (fresh : '@' ∉ name) (first : Nat) :
    FollowsUser (name ++ '@' :: rest) first (first + byteLength (name ++ ['@'])) ↔
      '@' ∉ rest := by
  constructor
  · intro follows again
    obtain ⟨before, after, rfl, last⟩ := exists_last again
    have later := follows.2 (name ++ '@' :: before) after (by simp) last
    have positive : 0 < '@'.utf8Size := Char.utf8Size_pos '@'
    simp only [byteLength_append, byteLength_cons, byteLength_nil] at later
    omega
  · intro only
    refine ⟨fun none => absurd (by simp) none, fun user host same _ => ?_⟩
    rw [((List.append_cons_inj_of_notMem fresh only).mp same).1]

/-- The host begins after the user's part exactly if there is no second `@` in the authority. -/
private theorem IsUser.followsUser_iff_count {user rest : List Char} (isUser : IsUser user rest)
    (first : Nat) :
    let authority := user ++ rest.takeWhile fun c => !endsAuthority c
    FollowsUser authority first (first + byteLength user) ↔ authority.count '@' ≤ 1 := by
  intro authority
  cases isUser with
  | @named name rest plain =>
    have fresh : '@' ∉ name := fun again => absurd (plain '@' again) (by decide)
    have split : authority = name ++ '@' :: rest.takeWhile fun c => !endsAuthority c := by
      simp [authority]
    rw [split, followsUser_iff fresh, List.count_append, List.count_cons_self,
      List.count_eq_zero_of_not_mem fresh, ← List.count_eq_zero]
    omega
  | @absent inside after plain ended =>
    have inner : ∀ c ∈ inside, (!endsAuthority c) = true :=
      fun c hc => (Bool.and_eq_true_iff.mp (plain c hc)).2
    have whole : authority = inside := by
      rw [← takeWhile_append_of_endsRun inner ended]
      rfl
    have none : '@' ∉ authority := by
      rw [whole]
      exact fun some => absurd (plain '@' some) (by decide)
    refine iff_of_true ⟨fun _ => by simp, fun user host same _ => ?_⟩ ?_
    · exact absurd (by rw [same]; simp) none
    · rw [List.count_eq_zero_of_not_mem none]
      exact Nat.zero_le 1

/-! ### The host -/

/-- A host lies in the authority exactly if it is not in brackets that the authority leaves open. -/
private theorem inside_iff_closed {host after : List Char} (isHost : IsHost host after) :
    let rest := (host ++ after).takeWhile fun c => !endsAuthority c
    (∀ c ∈ host, (!endsAuthority c) = true) ↔ (rest.head? = some '[' → ']' ∈ rest) := by
  intro rest
  cases isHost with
  | @bracketed name _ plain =>
    have shape : '[' :: name ++ [']'] ++ after = '[' :: name ++ ']' :: after := by simp
    have fresh : ']' ∉ '[' :: name := by
      intro again
      rcases List.mem_cons.mp again with first | later
      · exact absurd first (by decide)
      · exact absurd (plain ']' later) (by decide)
    constructor
    · intro inside _
      have whole : '[' :: name ++ [']'] <+: rest := prefix_takeWhile_iff.mpr inside
      exact whole.mem (by simp)
    · intro closed
      have found : ']' ∈ rest := closed rfl
      -- An authority that ended within the brackets would have no closing one.
      have reached : '[' :: name <+: rest :=
        (List.prefix_or_prefix_of_prefix ⟨_, shape.symm⟩
          (List.takeWhile_prefix _)).resolve_right fun shorter => fresh (shorter.mem found)
      intro c hc
      rcases List.mem_append.mp hc with opened | last
      · exact List.mem_takeWhile_imp (p := fun c => !endsAuthority c) (reached.mem opened)
      · rw [List.mem_singleton.mp last]
        decide
  | plain unbracketed plain =>
    refine iff_of_true (fun c hc => ?_) fun bracket => ?_
    · have passed := plain c hc
      rw [endsHost, Bool.not_or, Bool.and_eq_true] at passed
      exact passed.1
    · rw [List.head?_takeWhile] at bracket
      exact absurd (Option.filter_eq_some_iff.mp bracket).1 unbracketed

private theorem inside_iff_le (host after : List Char) :
    (∀ c ∈ host, (!endsAuthority c) = true) ↔
      byteLength host ≤ byteLength ((host ++ after).takeWhile fun c => !endsAuthority c) := by
  rw [← prefix_iff_byteLength_le (List.prefix_append _ after) (List.takeWhile_prefix _),
    prefix_takeWhile_iff]

end Url

/-- The host begins after the last `@` of the authority, or where the authority begins if it has no
`@`, exactly if the authority has at most one. What a request is taken to have as its host, and its
cookies as their domain, is the text from there on. -/
theorem hostPosition_followsUser_iff {url : String} {start stop : Nat}
    (found : hostPosition? url = some (start, stop)) :
    (∃ first authority, IsAuthority url first authority) ∧
      ∀ first authority, IsAuthority url first authority →
        (FollowsUser authority first start ↔ authority.count '@' ≤ 1) ∧
        ∀ r : Request, r.url = url → r.urlDetails = none →
          (∃ host, textBetween url start stop = .ok host ∧
            r.host? = if host = "" then none else some host) ∧
          ∀ cookie : Cookie, cookie.domain = none → r.cookieDomain? cookie = r.host? := by
  obtain ⟨scheme, user, host, after, cut, rfl, rfl⟩ := exists_isCut found
  refine ⟨⟨_, _, cut.isAuthority_iff.mpr ⟨rfl, rfl⟩⟩, fun first authority isAuthority => ?_⟩
  obtain ⟨rfl, rfl⟩ := cut.isAuthority_iff.mp isAuthority
  refine ⟨?_, fun r known noDetails => ⟨⟨.ofList host, ?_, ?_⟩, fun cookie unknown => ?_⟩⟩
  · rw [byteLength_append _ user]
    exact cut.user.followsUser_iff_count _
  · exact textBetween_byteLength cut.text
  · rw [Request.host?, noDetails, known]
    simpa using cut.host?_eq
  · rw [Request.cookieDomain?, unknown]

/-- A password with a colon before it, and an `@` in the path. -/
theorem hostPosition_followsUser_iff_applied :
    let url := "s://u:p@h/@"
    let authority := "u:p@h".toList
    hostPosition? url = some (8, 9) ∧ IsAuthority url 4 authority ∧
      (FollowsUser authority 4 8 ↔ authority.count '@' ≤ 1) ∧ authority.count '@' ≤ 1 := by
  intro url authority
  have found : hostPosition? url = some (8, 9) := by decide
  have isAuthority : IsAuthority url 4 authority :=
    @IsAuthority.intro url ['s', ':', '/', '/'] authority ['/', '@'] (by decide) (by decide)
      (by simp [authority]) (by simp)
  exact ⟨found, isAuthority,
    ((hostPosition_followsUser_iff found).2 4 authority isAuthority).1, by decide⟩

/-- A password with an `@`: the host begins within the password. -/
theorem not_followsUser_password :
    let url := "http://alice:p@ss@host.test/"
    let authority := "alice:p@ss@host.test".toList
    hostPosition? url = some (15, 27) ∧ IsAuthority url 7 authority ∧
      ¬FollowsUser authority 7 15 ∧ Request.host? { url := url } = some "ss@host.test" := by
  intro url authority
  refine ⟨by decide, ?_, fun follows => ?_, by decide⟩
  · exact @IsAuthority.intro url ['h', 't', 't', 'p', ':', '/', '/'] authority ['/'] (by decide)
      (by decide) (by simp [authority]) (by simp)
  · exact absurd (follows.2 "alice:p@ss".toList "host.test".toList (by decide) (by decide))
      (by decide)

/-- The host ends no later than the authority, and has no character that ends one, exactly if it is
not in brackets that the authority leaves open. -/
theorem hostPosition_inside_iff {url : String} {start stop : Nat}
    (found : hostPosition? url = some (start, stop)) :
    (∃ first authority, IsAuthority url first authority) ∧
      ∀ first authority, IsAuthority url first authority →
        ∃ user rest host, authority = user ++ rest ∧ start = first + byteLength user ∧
          textBetween url start stop = .ok host ∧
          ((∀ c ∈ host.toList, c ∉ ['/', '?', '#']) ↔ (rest.head? = some '[' → ']' ∈ rest)) ∧
          (stop ≤ first + byteLength authority ↔ (rest.head? = some '[' → ']' ∈ rest)) := by
  obtain ⟨scheme, user, host, after, cut, rfl, rfl⟩ := exists_isCut found
  refine ⟨⟨_, _, cut.isAuthority_iff.mpr ⟨rfl, rfl⟩⟩, fun first authority isAuthority => ?_⟩
  obtain ⟨rfl, rfl⟩ := cut.isAuthority_iff.mp isAuthority
  refine ⟨user, _, .ofList host, rfl, byteLength_append _ _, textBetween_byteLength cut.text,
    Iff.trans ?_ (inside_iff_closed cut.host), Iff.trans ?_ (inside_iff_closed cut.host)⟩
  · simp only [String.toList_ofList, not_endsAuthority_iff]
  · rw [inside_iff_le host after]
    simp only [byteLength_append]
    omega

/-- A host in brackets after a user, and another closing bracket after the authority. -/
theorem hostPosition_inside_iff_applied :
    let url := "s://u@[::1]:80/]"
    let authority := "u@[::1]:80".toList
    hostPosition? url = some (6, 11) ∧ IsAuthority url 4 authority ∧
      ∃ user rest host, authority = user ++ rest ∧ 6 = 4 + byteLength user ∧
        textBetween url 6 11 = .ok host ∧
        ((∀ c ∈ host.toList, c ∉ ['/', '?', '#']) ↔ (rest.head? = some '[' → ']' ∈ rest)) ∧
        (11 ≤ 4 + byteLength authority ↔ (rest.head? = some '[' → ']' ∈ rest)) := by
  intro url authority
  have found : hostPosition? url = some (6, 11) := by decide
  have isAuthority : IsAuthority url 4 authority :=
    @IsAuthority.intro url ['s', ':', '/', '/'] authority ['/', ']'] (by decide) (by decide)
      (by simp [authority]) (by simp)
  exact ⟨found, isAuthority, (hostPosition_inside_iff found).2 4 authority isAuthority⟩

/-- A bracket that is closed only in the query: the host goes on through the path. -/
theorem not_inside_open_bracket :
    let url := "http://[::1/?q=]x"
    let authority := "[::1".toList
    hostPosition? url = some (7, 16) ∧ IsAuthority url 7 authority ∧
      ¬16 ≤ 7 + byteLength authority ∧ Request.host? { url := url } = some "[::1/?q=]" := by
  intro url authority
  refine ⟨by decide, ?_, by decide, by decide⟩
  exact @IsAuthority.intro url ['h', 't', 't', 'p', ':', '/', '/'] authority
    ['/', '?', 'q', '=', ']', 'x'] (by decide) (by decide) (by simp [authority]) (by simp)

end RequestFilter
