import RequestFilter.Proofs.Text.Ascii
import RequestFilter.Proofs.Url.Split

/-!
URLs that differ in the case of ASCII letters only.

Schemes, marks and brackets are looked for without regard to case, so such URLs are cut at the same
places, and their pieces differ in the case of letters only.
-/

set_option autoImplicit false

namespace RequestFilter.Url

open Text

/-! ### Characters -/

private theorem isCaseless_isSchemeChar : IsCaseless isSchemeChar := isCaseless_of_ascii (by decide)

private theorem isCaseless_isAlpha : IsCaseless Char.isAlpha := isCaseless_of_ascii (by decide)

private theorem isCaseless_endsAuthority : IsCaseless fun c => !endsAuthority c :=
  isCaseless_of_ascii (by decide)

private theorem isCaseless_endsHost : IsCaseless fun c => !endsHost c := isCaseless_of_ascii
    (by decide)

/-! ### Pieces -/

section Runs

variable {p : Char → Bool} (caseless : IsCaseless p)

include caseless

private theorem forall_mem_map_toLower {cs : List Char} (holds : ∀ c ∈ cs, p c = true) :
    ∀ c ∈ cs.map Char.toLower, p c = true := by
  intro c hc
  obtain ⟨d, member, rfl⟩ := List.mem_map.mp hc
  rw [caseless]
  exact holds d member

private theorem endsRun_map_toLower {cs : List Char} (ended : EndsRun p cs) :
    EndsRun p (cs.map Char.toLower) := by
  intro c hc
  rw [List.head?_map] at hc
  obtain ⟨d, first, rfl⟩ := Option.map_eq_some_iff.mp hc
  rw [caseless]
  exact ended d first

end Runs

private theorem isScheme_map_toLower (cs : List Char) : isScheme (cs.map Char.toLower) = isScheme cs
    := by
  cases cs with
  | nil => rfl
  | cons c cs =>
    rw [List.map_cons, isScheme, isScheme, isCaseless_isAlpha, List.all_map]
    exact congrArg (c.isAlpha && cs.all ·) (funext isCaseless_isSchemeChar)

private theorem splitScheme?_map_toLower (cs : List Char) :
    splitScheme? (cs.map Char.toLower) =
      (splitScheme? cs).map (Prod.map (List.map Char.toLower) (List.map Char.toLower)) := by
  have colon : IsCaseless fun c => decide (c ≠ ':') := isCaseless_of_ascii (by decide)
  obtain ⟨run, rest, rfl, free, ended⟩ := exists_run (fun c => decide (c ≠ ':')) cs
  have free' := forall_mem_map_toLower colon free
  cases rest with
  | nil =>
    rw [List.append_nil, splitScheme?_eq_none free, splitScheme?_eq_none free']
    rfl
  | cons c rest =>
    obtain rfl : c = ':' := by simpa using ended
    have mark : ':'.toLower = ':' := by decide
    rw [List.map_append, List.map_cons, mark, splitScheme?_append free', splitScheme?_append free,
      isScheme_map_toLower]
    split <;> rfl

private theorem IsUser.map_toLower {user rest : List Char} (h : IsUser user rest) :
    IsUser (user.map Char.toLower) (rest.map Char.toLower) := by
  have passes : IsCaseless fun c => decide (c ≠ '@') && !endsAuthority c :=
    isCaseless_of_ascii (by decide)
  cases h with
  | named _ plain =>
    rw [List.map_append]
    exact .named _ (forall_mem_map_toLower passes plain)
  | absent plain ended =>
    rw [List.map_append]
    exact .absent (forall_mem_map_toLower passes plain)
      (endsRun_map_toLower isCaseless_endsAuthority ended)

private theorem IsHost.map_toLower {host after : List Char} (h : IsHost host after) :
    IsHost (host.map Char.toLower) (after.map Char.toLower) := by
  have closing : IsCaseless fun c => decide (c ≠ ']') := isCaseless_of_ascii (by decide)
  have opening : IsCaseless fun c => decide (c = '[') := isCaseless_of_ascii (by decide)
  cases h with
  | bracketed _ plain =>
    rw [List.map_append, List.map_cons]
    exact .bracketed _ (forall_mem_map_toLower closing plain)
  | plain unbracketed plain ended =>
    refine .plain ?_ (forall_mem_map_toLower isCaseless_endsHost plain)
      (endsRun_map_toLower isCaseless_endsHost ended)
    rw [← List.map_append, List.head?_map, ne_eq, Option.map_eq_some_iff]
    rintro ⟨c, first, bracket⟩
    rw [toLower_eq_iff opening] at bracket
    exact unbracketed (bracket ▸ first)

private theorem splitHostName?_map_toLower (cs : List Char) :
    splitHostName? (cs.map Char.toLower) =
      (splitHostName? cs).map (Prod.map (List.map Char.toLower) (List.map Char.toLower)) := by
  cases cut : splitHostName? cs with
  | some pieces =>
    obtain ⟨rfl, isHost⟩ := splitHostName?_eq_some_iff.mp cut
    exact splitHostName?_eq_some_iff.mpr ⟨List.map_append, isHost.map_toLower⟩
  | none =>
    obtain ⟨name, rfl, unclosed⟩ := exists_of_splitHostName?_eq_none cut
    have closing : IsCaseless fun c => decide (c ≠ ']') := isCaseless_of_ascii (by decide)
    exact splitHostName?_eq_none (forall_mem_map_toLower closing unclosed)

private theorem slashes_prefix_map_toLower_iff {rest : List Char} :
    ['/', '/'] <+: rest.map Char.toLower ↔ ['/', '/'] <+: rest := by
  have slash (c : Char) : '/' = c.toLower ↔ '/' = c := by
    rw [eq_comm, toLower_eq_iff (isCaseless_of_ascii (by decide)), eq_comm]
  cases rest with
  | nil => rfl
  | cons c rest =>
    cases rest with
    | nil => simp [List.cons_prefix_cons]
    | cons d rest => simp [List.cons_prefix_cons, slash]

/-! ### The whole URL -/

def HostSplit.lowerAscii (s : HostSplit) : HostSplit :=
  ⟨s.before.map Char.toLower, s.host.map Char.toLower, s.after.map Char.toLower⟩

private theorem splitHost?_map_toLower (url : List Char) :
    splitHost? (url.map Char.toLower) = (splitHost? url).map HostSplit.lowerAscii := by
  have lowered := splitScheme?_map_toLower url
  cases cut : splitScheme? url with
  | none =>
    rw [cut] at lowered
    rw [splitHost?, splitHost?, cut, lowered]
    rfl
  | some pieces =>
    obtain ⟨scheme, rest⟩ := pieces
    rw [cut] at lowered
    by_cases slashes : ['/', '/'] <+: rest
    -- with two slashes both URLs have a user's part, and it ends at the same mark
    · obtain ⟨rest, rfl⟩ := slashes
      obtain ⟨user, rest, rfl, isUser⟩ := exists_isUser rest
      have whole : splitScheme? url = some (scheme, '/' :: '/' :: (user ++ rest)) := cut
      have shape : splitScheme? (url.map Char.toLower) = some (scheme.map Char.toLower,
          '/' :: '/' :: (user.map Char.toLower ++ rest.map Char.toLower)) := by
        rw [lowered, ← List.map_append]
        rfl
      rw [splitHost?_eq_map whole isUser, splitHost?_eq_map shape isUser.map_toLower,
        splitHostName?_map_toLower, Option.map_map, Option.map_map]
      congr 1
      funext pieces
      simp [HostSplit.lowerAscii]
    · rw [splitHost?_eq_none cut slashes, splitHost?_eq_none lowered]
      · rfl
      · exact fun slashes' => slashes (slashes_prefix_map_toLower_iff.mp slashes')

theorem scheme?_lowerAscii (url : String) :
    scheme? (lowerAscii url) = (scheme? url).map lowerAscii := by
  rw [scheme?, scheme?, toList_lowerAscii, splitScheme?_map_toLower]
  cases splitScheme? url.toList with
  | none => rfl
  | some pieces => exact congrArg some (lowerAscii_ofList pieces.1).symm

theorem host?_lowerAscii (url : String) : host? (lowerAscii url) = (host? url).map lowerAscii := by
  rw [host?, host?, toList_lowerAscii, splitHost?_map_toLower]
  cases splitHost? url.toList with
  | none => rfl
  | some s =>
    simp only [Option.map_some, HostSplit.lowerAscii, List.isEmpty_map]
    split
    · rfl
    · rw [Option.map_some, lowerAscii_ofList]

end RequestFilter.Url
