import RequestFilter.Proofs.Text.Offset
import RequestFilter.Proofs.Url.Split

/-!
URLs that are put together from their parts are taken apart into these parts again. A part may hold
characters that separate other parts: the user's part a colon, a name in brackets colons, and what
follows the authority any character at all.
-/

set_option autoImplicit false

namespace RequestFilter.Url

open Text

/-! ### Parts -/

/-- The parts of a URL with an authority. -/
structure Parts where
  scheme : String
  user : Option String := none
  host : String
  port : Option String := none
  rest : String := ""

namespace Parts

def userText (p : Parts) : String :=
  match p.user with
  | some user => user ++ "@"
  | none => ""

def portText (p : Parts) : String :=
  match p.port with
  | some port => ":" ++ port
  | none => ""

def text (p : Parts) : String :=
  p.scheme ++ "://" ++ p.userText ++ p.host ++ p.portText ++ p.rest

inductive NamesScheme : List Char → Prop
  | intro {first : Char} {others : List Char} (letter : first.isAlpha = true)
      (marks : ∀ c ∈ others, c.isAlphanum = true ∨ c ∈ ['+', '-', '.']) :
      NamesScheme (first :: others)

/-- The texts that are hosts: names in brackets, and names without a bracket at their start. -/
inductive NamesHost : List Char → Prop
  | bracketed {name : List Char} (plain : ∀ c ∈ name, c ∉ [']', '@', '/', '?', '#']) :
      NamesHost ('[' :: name ++ [']'])
  | plain {first : Char} {others : List Char} (unbracketed : first ≠ '[')
      (plain : ∀ c ∈ first :: others, c ∉ ['/', '?', '#', ':', '@']) :
      NamesHost (first :: others)

/-- No part holds a character that would end it. -/
structure IsWellFormed (p : Parts) : Prop where
  scheme : NamesScheme p.scheme.toList
  user : ∀ user ∈ p.user, ∀ c ∈ user.toList, c ∉ ['@', '/', '?', '#']
  host : NamesHost p.host.toList
  port : ∀ port ∈ p.port, ∀ c ∈ port.toList, c.isDigit = true
  rest : ∀ c ∈ p.rest.toList.head?, c ∈ ['/', '?', '#']

/-! ### The pieces at which the URL is cut -/

private theorem NamesScheme.isScheme {scheme : List Char} (h : NamesScheme scheme) :
    isScheme scheme = true := by
  cases h with
  | intro letter marks =>
    rw [Url.isScheme, letter, Bool.true_and, List.all_eq_true]
    intro c hc
    simpa [isSchemeChar, or_assoc] using marks c hc

private theorem NamesHost.passesUser {host : List Char} (h : NamesHost host) :
    ∀ c ∈ host, c ∉ ['@', '/', '?', '#'] := by
  cases h with
  | @bracketed name plain =>
    intro c hc
    rw [List.mem_append, List.mem_cons, List.mem_singleton] at hc
    rcases hc with (rfl | hc) | rfl
    · decide
    · exact List.not_mem_of_not_mem_cons (plain c hc)
    · decide
  | plain _ plain =>
    have among : ['@', '/', '?', '#'] ⊆ ['/', '?', '#', ':', '@'] := by simp
    exact fun c hc mark => plain c hc (among mark)

private theorem NamesHost.ne_nil {host : List Char} (h : NamesHost host) : host ≠ [] := by
  cases h with
  | bracketed => simp
  | plain => simp

private theorem NamesHost.isHost {host after : List Char} (h : NamesHost host)
    (ended : EndsRun (fun c => !endsHost c) after) : IsHost host after := by
  cases h with
  | bracketed plain =>
    exact .bracketed after fun c hc => decide_eq_true (List.ne_of_not_mem_cons (plain c hc))
  | plain unbracketed plain =>
    refine .plain (by simpa using unbracketed) (fun c hc => ?_) ended
    rw [Bool.not_eq_true', Bool.eq_false_iff, ne_eq, endsHost_iff]
    exact fun mark => plain c hc (List.mem_append_left ['@'] mark)

section Pieces

variable {p : Parts} (wellFormed : p.IsWellFormed)

include wellFormed

private theorem endsRun_rest : EndsRun (fun c => !endsAuthority c) p.rest.toList :=
  endsRun_not_iff.mpr fun c hc => endsAuthority_iff.mpr (wellFormed.rest c hc)

private theorem passesUser_portText : ∀ c ∈ p.portText.toList, c ∉ ['@', '/', '?', '#'] := by
  unfold portText
  split
  · rename_i port known
    intro c hc
    rw [String.toList_append, List.mem_append] at hc
    rcases hc with colon | digit
    · rw [List.mem_singleton.mp colon]
      decide
    · have isDigit := wellFormed.port port known c digit
      intro mark
      simp only [List.mem_cons, List.not_mem_nil, or_false] at mark
      rcases mark with rfl | rfl | rfl | rfl <;> exact absurd isDigit (by decide)
  · simp

private theorem endsRun_portText_append_rest :
    EndsRun (fun c => !endsHost c) (p.portText.toList ++ p.rest.toList) := by
  unfold portText
  split
  · rw [String.toList_append]
    exact endsRun_cons.mpr (by decide)
  · refine endsRun_not_iff.mpr fun c hc => endsHost_iff.mpr ?_
    exact List.mem_append_left [':'] (wellFormed.rest c hc)

private theorem isUser_userText :
    IsUser p.userText.toList (p.host.toList ++ (p.portText.toList ++ p.rest.toList)) := by
  unfold userText
  split
  · rename_i user known
    rw [String.toList_append]
    exact .named _ fun c hc => passesUser_iff.mpr (wellFormed.user user known c hc)
  · rw [← List.append_assoc]
    refine .absent (fun c hc => passesUser_iff.mpr ?_) (endsRun_rest wellFormed)
    rcases List.mem_append.mp hc with host | port
    · exact wellFormed.host.passesUser c host
    · exact passesUser_portText wellFormed c port

/-- A URL is cut where its parts were put together. -/
private theorem isCut_text : IsCut p.text.toList p.scheme.toList p.userText.toList p.host.toList
    (p.portText.toList ++ p.rest.toList) where
  text := by simp [text]
  scheme := wellFormed.scheme.isScheme
  user := isUser_userText wellFormed
  host := wellFormed.host.isHost (endsRun_portText_append_rest wellFormed)

end Pieces

end Parts

/-- A URL has the scheme and the host that it was put together from, and its authority begins three
bytes after the scheme. -/
theorem extract_text {p : Parts} (wellFormed : p.IsWellFormed) :
    scheme? p.text = some p.scheme ∧
      schemeEnd? p.text = some (p.scheme.utf8ByteSize + 3) ∧
      host? p.text = some p.host := by
  have cut := Parts.isCut_text wellFormed
  refine ⟨?_, ?_, ?_⟩
  · rw [cut.scheme?_eq, String.ofList_toList]
  · rw [cut.schemeEnd?_eq, byteLength_toList]
  · rw [cut.host?_eq, if_neg (by simpa using wellFormed.host.ne_nil), String.ofList_toList]

/-- A user with a colon, a host in brackets, a port, and a path that looks like an authority. -/
theorem extract_text_applied :
    let p : Parts :=
      { scheme := "h2+x", user := some "ö:[p", host := "[::1]", port := some "80"
        rest := "/a@[b]://c" }
    p.IsWellFormed ∧ p.text = "h2+x://ö:[p@[::1]:80/a@[b]://c" ∧
      scheme? p.text = some "h2+x" ∧ schemeEnd? p.text = some 7 ∧ host? p.text = some "[::1]" := by
  intro p
  have scheme : p.scheme.toList = ['h', '2', '+', 'x'] := by decide
  have host : p.host.toList = '[' :: [':', ':', '1'] ++ [']'] := by decide
  have wellFormed : p.IsWellFormed :=
    { scheme := by rw [scheme]; exact .intro (by decide) (by simp)
      user := by simp [p]
      host := by rw [host]; exact .bracketed (by simp)
      port := by simp [p]
      rest := by simp [p] }
  exact ⟨wellFormed, by decide, extract_text wellFormed⟩

end RequestFilter.Url
