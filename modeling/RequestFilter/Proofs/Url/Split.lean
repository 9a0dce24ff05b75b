import RequestFilter.Proofs.Text.Run
import RequestFilter.Url

/-!
The pieces of a URL. A URL is cut at the first character that cannot belong to a piece; here it is
said which texts are pieces, and that a URL is cut into pieces exactly if it is made of them.
-/

set_option autoImplicit false

namespace RequestFilter.Url

open Text

/-! ### Marks -/

theorem endsAuthority_iff {c : Char} : endsAuthority c = true ↔ c ∈ ['/', '?', '#'] := by
  simp [endsAuthority, or_assoc]

theorem endsHost_iff {c : Char} : endsHost c = true ↔ c ∈ ['/', '?', '#', ':'] := by
  simp [endsHost, endsAuthority, or_assoc]

theorem passesUser_iff {c : Char} :
    (decide (c ≠ '@') && !endsAuthority c) = true ↔ c ∉ ['@', '/', '?', '#'] := by
  simp [endsAuthority, and_assoc]

/-! ### The scheme -/

private theorem ne_colon_of_isScheme {scheme : List Char} (valid : isScheme scheme = true) :
    ∀ c ∈ scheme, decide (c ≠ ':') = true := by
  cases scheme with
  | nil => simp
  | cons first others =>
    rw [isScheme, Bool.and_eq_true, List.all_eq_true] at valid
    obtain ⟨letter, marks⟩ := valid
    intro c hc
    rw [decide_eq_true_iff]
    rintro rfl
    rcases List.mem_cons.mp hc with rfl | later
    · exact absurd letter (by decide)
    · exact absurd (marks _ later) (by decide)

theorem splitScheme?_append {run : List Char} (free : ∀ c ∈ run, decide (c ≠ ':') = true)
    (rest : List Char) :
    splitScheme? (run ++ ':' :: rest) = if isScheme run then some (run, rest) else none := by
  rw [splitScheme?, span_append_of_endsRun free (by simp)]
  rfl

theorem splitScheme?_eq_none {url : List Char} (free : ∀ c ∈ url, decide (c ≠ ':') = true) :
    splitScheme? url = none := by
  have whole := span_append_of_endsRun free (endsRun_nil _)
  rw [List.append_nil] at whole
  rw [splitScheme?, whole]

theorem splitScheme?_eq_some_iff {url scheme rest : List Char} :
    splitScheme? url = some (scheme, rest) ↔
      isScheme scheme = true ∧ url = scheme ++ ':' :: rest := by
  constructor
  · intro found
    obtain ⟨run, after, rfl, free, ended⟩ := exists_run (fun c => decide (c ≠ ':')) url
    cases after with
    | nil =>
      rw [List.append_nil, splitScheme?_eq_none free] at found
      cases found
    | cons c after =>
      obtain rfl : c = ':' := by simpa using ended
      rw [splitScheme?_append free] at found
      obtain ⟨valid, same⟩ := Option.ite_none_right_eq_some.mp found
      cases same
      exact ⟨valid, rfl⟩
  · rintro ⟨valid, rfl⟩
    rw [splitScheme?_append (ne_colon_of_isScheme valid), if_pos valid]

/-! ### The user's part -/

/-- The user's part of an authority, before the rest of the URL: all up to an `@`, or nothing if no
`@` comes before the authority ends. -/
inductive IsUser : List Char → List Char → Prop
  | named {name : List Char} (rest : List Char)
      (plain : ∀ c ∈ name, (decide (c ≠ '@') && !endsAuthority c) = true) :
      IsUser (name ++ ['@']) rest
  | absent {authority after : List Char}
      (plain : ∀ c ∈ authority, (decide (c ≠ '@') && !endsAuthority c) = true)
      (ended : EndsRun (fun c => !endsAuthority c) after) : IsUser [] (authority ++ after)

private theorem splitUser_append {user rest : List Char} (h : IsUser user rest) :
    splitUser (user ++ rest) = (user, rest) := by
  cases h with
  | named _ plain =>
    rw [List.append_assoc, List.singleton_append, splitUser,
      span_append_of_endsRun plain (by simp)]
    rfl
  | @absent authority after plain ended =>
    have stopped : EndsRun (fun c => decide (c ≠ '@') && !endsAuthority c) after :=
      fun c hc => by simp [ended c hc]
    rw [List.nil_append, splitUser, span_append_of_endsRun plain stopped]
    -- An authority that goes on with an `@` would not be over.
    cases after with
    | nil => rfl
    | cons c cs =>
      have other : c ≠ '@' := by
        rintro rfl
        exact absurd (endsRun_cons.mp ended) (by decide)
      split
      · rename_i next
        cases next
        exact absurd rfl other
      · rfl

theorem exists_isUser (cs : List Char) : ∃ user rest, cs = user ++ rest ∧ IsUser user rest := by
  obtain ⟨run, after, rfl, plain, ended⟩ :=
    exists_run (fun c => decide (c ≠ '@') && !endsAuthority c) cs
  by_cases named : after.head? = some '@'
  · obtain ⟨rest, rfl⟩ := List.head?_eq_some_iff.mp named
    exact ⟨run ++ ['@'], rest, by simp, .named rest plain⟩
  · refine ⟨[], run ++ after, rfl, .absent plain fun c hc => ?_⟩
    have other : c ≠ '@' := by
      rintro rfl
      exact named hc
    simpa [other] using ended c hc

/-! ### The host -/

/-- The host of a URL, before the text after it: a name in brackets, or all up to the end of the
authority or a colon. -/
inductive IsHost : List Char → List Char → Prop
  | bracketed {name : List Char} (after : List Char)
      (plain : ∀ c ∈ name, decide (c ≠ ']') = true) : IsHost ('[' :: name ++ [']']) after
  | plain {host after : List Char} (unbracketed : (host ++ after).head? ≠ some '[')
      (plain : ∀ c ∈ host, (!endsHost c) = true) (ended : EndsRun (fun c => !endsHost c) after) :
      IsHost host after

theorem splitHostName?_eq_some_iff {cs host after : List Char} :
    splitHostName? cs = some (host, after) ↔ cs = host ++ after ∧ IsHost host after := by
  constructor
  · intro found
    rw [splitHostName?.eq_def] at found
    split at found
    · rename_i cs
      obtain ⟨name, rest, rfl, plain, ended⟩ := exists_run (fun c => decide (c ≠ ']')) cs
      rw [span_append_of_endsRun plain ended] at found
      cases rest with
      | nil => cases found
      | cons c rest =>
        obtain rfl : c = ']' := by simpa using ended
        cases found
        exact ⟨by simp, .bracketed after plain⟩
    · rename_i unbracketed
      obtain ⟨run, rest, rfl, plain, ended⟩ := exists_run (fun c => !endsHost c) cs
      rw [span_append_of_endsRun plain ended] at found
      cases found
      refine ⟨rfl, .plain (fun bracket => ?_) plain ended⟩
      obtain ⟨rest, same⟩ := List.head?_eq_some_iff.mp bracket
      exact unbracketed rest same
  · rintro ⟨rfl, h⟩
    cases h with
    | @bracketed name _ plain =>
      have shape : '[' :: name ++ [']'] ++ after = '[' :: (name ++ ']' :: after) := by simp
      rw [shape, splitHostName?, span_append_of_endsRun plain (by simp)]
      rfl
    | plain unbracketed plain ended =>
      rw [splitHostName?.eq_def]
      split
      · rename_i begun
        exact absurd (by rw [begun]; rfl) unbracketed
      · rw [span_append_of_endsRun plain ended]

theorem splitHostName?_eq_none {name : List Char}
    (unclosed : ∀ c ∈ name, decide (c ≠ ']') = true) : splitHostName? ('[' :: name) = none := by
  have whole := span_append_of_endsRun unclosed (endsRun_nil _)
  rw [List.append_nil] at whole
  rw [splitHostName?, whole]

theorem exists_of_splitHostName?_eq_none {cs : List Char} (none : splitHostName? cs = none) :
    ∃ name, cs = '[' :: name ∧ ∀ c ∈ name, decide (c ≠ ']') = true := by
  rw [splitHostName?.eq_def] at none
  split at none
  · rename_i cs
    obtain ⟨name, rest, rfl, plain, ended⟩ := exists_run (fun c => decide (c ≠ ']')) cs
    rw [span_append_of_endsRun plain ended] at none
    cases rest with
    | nil => exact ⟨name, by rw [List.append_nil], plain⟩
    | cons c rest =>
      obtain rfl : c = ']' := by simpa using ended
      cases none
  · cases none

/-! ### URLs with a host -/

/-- The pieces of a URL whose scheme is followed by two slashes. -/
structure IsCut (url scheme user host after : List Char) : Prop where
  text : url = scheme ++ [':', '/', '/'] ++ user ++ host ++ after
  scheme : isScheme scheme = true
  user : IsUser user (host ++ after)
  host : IsHost host after

theorem splitHost?_eq_map {url scheme user rest : List Char}
    (cut : splitScheme? url = some (scheme, '/' :: '/' :: (user ++ rest)))
    (isUser : IsUser user rest) :
    splitHost? url = (splitHostName? rest).map fun (host, after) =>
      ⟨scheme ++ [':', '/', '/'] ++ user, host, after⟩ := by
  rw [splitHost?, cut]
  simp only [splitUser_append isUser]

theorem splitHost?_eq_none {url scheme rest : List Char}
    (cut : splitScheme? url = some (scheme, rest)) (other : ¬['/', '/'] <+: rest) :
    splitHost? url = none := by
  rw [splitHost?.eq_def]
  split
  · rename_i found
    cases cut.symm.trans found
    exact absurd (List.prefix_append ['/', '/'] _) other
  · rfl

/-- A URL has a host exactly if it is made of pieces, and then it is cut at the host. -/
private theorem splitHost?_eq_some_iff {url before host after : List Char} :
    splitHost? url = some ⟨before, host, after⟩ ↔
      ∃ scheme user, IsCut url scheme user host after ∧
        before = scheme ++ [':', '/', '/'] ++ user := by
  constructor
  · intro found
    rw [splitHost?.eq_def] at found
    split at found
    · rename_i scheme rest cut
      obtain ⟨valid, rfl⟩ := splitScheme?_eq_some_iff.mp cut
      obtain ⟨user, rest, rfl, isUser⟩ := exists_isUser rest
      rw [splitUser_append isUser] at found
      obtain ⟨⟨host, after⟩, named, same⟩ := Option.map_eq_some_iff.mp found
      obtain ⟨rfl, isHost⟩ := splitHostName?_eq_some_iff.mp named
      cases same
      exact ⟨scheme, user, ⟨by simp, valid, isUser, isHost⟩, rfl⟩
    · cases found
  · rintro ⟨scheme, user, ⟨rfl, valid, isUser, isHost⟩, rfl⟩
    have shape : scheme ++ [':', '/', '/'] ++ user ++ host ++ after =
        scheme ++ ':' :: '/' :: '/' :: (user ++ (host ++ after)) := by simp
    have named : splitHostName? (host ++ after) = some (host, after) :=
      splitHostName?_eq_some_iff.mpr ⟨rfl, isHost⟩
    rw [shape, splitHost?_eq_map (splitScheme?_eq_some_iff.mpr ⟨valid, rfl⟩) isUser, named]
    rfl

namespace IsCut

variable {url : String} {scheme user host after : List Char}
  (cut : IsCut url.toList scheme user host after)

include cut

private theorem splitScheme?_eq :
    splitScheme? url.toList = some (scheme, '/' :: '/' :: (user ++ host ++ after)) :=
  splitScheme?_eq_some_iff.mpr ⟨cut.scheme, by rw [cut.text]; simp⟩

private theorem splitHost?_eq :
    splitHost? url.toList = some ⟨scheme ++ [':', '/', '/'] ++ user, host, after⟩ :=
  splitHost?_eq_some_iff.mpr ⟨scheme, user, cut, rfl⟩

theorem scheme?_eq : scheme? url = some (.ofList scheme) := by
  rw [scheme?, cut.splitScheme?_eq]
  rfl

theorem schemeEnd?_eq : schemeEnd? url = some (byteLength scheme + 3) := by
  rw [schemeEnd?, cut.splitScheme?_eq]
  rfl

theorem host?_eq : host? url = if host.isEmpty then none else some (.ofList host) := by
  rw [host?, cut.splitHost?_eq]

end IsCut

theorem exists_isCut {url : String} {start stop : Nat}
    (found : hostPosition? url = some (start, stop)) :
    ∃ scheme user host after, IsCut url.toList scheme user host after ∧
      start = byteLength (scheme ++ [':', '/', '/'] ++ user) ∧
      stop = start + byteLength host := by
  obtain ⟨⟨before, host, after⟩, split, same⟩ := Option.map_eq_some_iff.mp found
  obtain ⟨scheme, user, cut, rfl⟩ := splitHost?_eq_some_iff.mp split
  cases same
  exact ⟨scheme, user, host, after, cut, rfl, rfl⟩

end RequestFilter.Url
