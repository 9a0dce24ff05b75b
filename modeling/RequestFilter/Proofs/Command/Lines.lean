import RequestFilter.Proofs.Command.Filter
import RequestFilter.Proofs.Suggest.Accept

/-!
The output of a command, read back line by line.

URLs and suggestions are written as they are, so a line feed in one of them begins a new line, and a
tab in a suggestion a new cell. What is read back is what was written exactly if there are none, and
in a suggestion they come only from a value that a dump brings along.
-/

set_option autoImplicit false

namespace RequestFilter

/-- Requests for a command: none without a file, else those of the dump in the file. -/
inductive Files.Supplies (files : Files) : Option String → List Request → Prop
  | none : Supplies files none []
  | read {path text : String} {rs : List Request} (read : files path = .ok text)
      (loaded : Request.load text = .ok rs) : Supplies files (some path) rs

private theorem Files.Supplies.requests_eq {files : Files} {path : String} {rs : List Request}
    (h : files.Supplies (some path) rs) : files.requests path = .ok rs := by
  cases h with
  | read read loaded => exact Files.requests_of_load read loaded

private theorem Report.pieces_text (report : Report) :
    Text.pieces report.text.toList =
      (report.lines.toList.flatMap fun line => Text.pieces line.toList) ++ [[]] := by
  have lines : report.text.toList =
      (report.lines.toList.map String.toList).flatMap (· ++ ['\n']) := by
    rw [toList_text, List.flatMap_map]
  rw [lines, Text.pieces_flatMap, List.flatMap_map]

namespace Command

variable {files : Files} {input query text time : String} {prefs : Option String}
  {rs : List Request}

private theorem ofOutcome_filter {s : CategorySet} {urlsOnly : Bool}
    (supplied : files.Supplies (some input) rs) (prefers : files.Prefers prefs s) :
    Transcript.ofOutcome time (run files (.filter input query prefs urlsOnly)).outcome =
      ⟨0, (filterReport rs query s urlsOnly).text,
        [Summary.message ⟨(filterRequests rs query s).length, rs.length, s.names⟩ time]⟩ := by
  rw [outcome_filter_of_ok supplied.requests_eq prefers.categories_eq]
  rfl

private theorem pieces_filterReport (rs : List Request) (query : String) (s : CategorySet) :
    Text.pieces (filterReport rs query s true).text.toList =
      ((filterRequests rs query s).map fun r => r.url.toList).flatMap Text.pieces ++ [[]] := by
  rw [Report.pieces_text, filterReport, List.flatMap_map, List.flatMap_map]
  rfl

def suggestReport (text : String) (rs : List Request) : Report :=
  ⟨((Suggestion.ofText text rs).map Suggestion.outputLine).toArray, #[]⟩

private theorem outcome_suggest {source : Option String} (supplied : files.Supplies source rs) :
    (run files (.suggest text source)).outcome = (.ok (), suggestReport text rs) := by
  have written (before : Run (List Request)) (given : before.continued {} = (.ok rs, {})) :
      (before >>= fun rs =>
        (Suggestion.ofText text rs).forM fun s => Run.writeLine s.outputLine).outcome =
        (.ok (), suggestReport text rs) := by
    rw [Run.outcome, Run.continued_bind, given]
    dsimp only
    rw [Run.continued_writeLines, Array.empty_append]
    rfl
  cases supplied with
  | none => exact written _ rfl
  | read read loaded =>
    refine written _ ?_
    rw [Run.continued_lift, Files.requests_of_load read loaded]
    rfl

private theorem ofOutcome_suggest {source : Option String} (supplied : files.Supplies source rs) :
    Transcript.ofOutcome time (run files (.suggest text source)).outcome =
      ⟨0, (suggestReport text rs).text, []⟩ := by
  rw [outcome_suggest supplied]
  rfl

private theorem pieces_suggestReport (text : String) (rs : List Request) :
    Text.pieces (suggestReport text rs).text.toList =
      ((Suggestion.ofText text rs).flatMap fun s =>
        Text.pieces (s.display.toList ++ '\t' :: s.text.toList)) ++ [[]] := by
  rw [Report.pieces_text, suggestReport, List.flatMap_map]
  simp [Suggestion.outputLine, String.toList_append]

end Command

namespace Suggestion

variable {text : String} {rs : List Request}

/-- The rows of suggestions are read back exactly if no completion breaks its row: the earlier
tokens, which stand before the completion in the second cell, have no blanks. -/
private theorem rows_eq_iff :
    ((ofText text rs).flatMap fun s =>
        Text.pieces (s.display.toList ++ '\t' :: s.text.toList)).map (List.splitOn '\t') =
      (ofText text rs).map (fun s => [s.display.toList, s.text.toList]) ↔
    ∀ s ∈ ofText text rs, '\n' ∉ s.display.toList ∧ '\t' ∉ s.display.toList := by
  rw [Text.map_splitOn_rows_eq_iff]
  refine forall₂_congr fun s offered => ?_
  have feed : '\n' ∈ s.text.toList → '\n' ∈ s.display.toList :=
    mem_display_of_mem_text offered (by decide) (by decide)
  have tab : '\t' ∈ s.text.toList → '\t' ∈ s.display.toList :=
    mem_display_of_mem_text offered (by decide) (by decide)
  rw [and_iff_left_of_imp fun whole => mt feed whole, and_iff_left_of_imp fun whole => mt tab whole]

/-- A completion with a blank is a flag with a value as it was observed on one of the requests. -/
private theorem exists_observed_of_blank {s : Suggestion} (offered : s ∈ ofText text rs) {c : Char}
    (blank : Text.isBlank c = true) (hc : c ∈ s.display.toList) :
    ∃ f : Flag, ∃ negative, ∃ r ∈ rs, ∃ v ∈ r.observed f,
      s.display.toList = f.token negative v.toList := by
  obtain ⟨f, negative, v, given, spelled⟩ :=
    exists_token_of_mem_candidates (mem_ofText.mp offered).2.1
  obtain ⟨start, rest, parts⟩ := List.append_of_mem hc
  obtain ⟨begun, -, value⟩ := Flag.exists_token_of_blank (spelled ▸ parts) blank
  have inValue : c ∈ v.toList := by simp [value]
  obtain ⟨r, recorded, observed⟩ := mem_observed_of_blank given inValue blank
  exact ⟨f, negative, r, recorded, v, observed, spelled⟩

end Suggestion

/-- The output of the commands, read back line by line. A URL stands on as many lines as it is cut
into by its line feeds. There are as many lines as requests that are kept, and each line is the URL
of its request, exactly if no URL is cut. Suggestions, read back as rows of cells, are what was
suggested exactly if no completion has a line feed or a tab. A completion that has one is a flag
with a value as it was observed. -/
theorem transcript_lines (files : Files) (time : String) :
    (∀ (input query : String) (prefs : Option String) (rs : List Request) (s : CategorySet),
        files.Supplies (some input) rs → files.Prefers prefs s →
        let shown := Transcript.ofOutcome time
          (Command.run files (.filter input query prefs true)).outcome
        let kept := filterRequests rs query s
        let urls := kept.map fun r => r.url.toList
        let whole := ∀ url ∈ urls, '\n' ∉ url
        shown.status = 0 ∧
          shown.messages = [Summary.message ⟨kept.length, rs.length, s.names⟩ time] ∧
          ∃ lines, Text.pieces shown.output.toList = lines ++ [[]] ∧
            lines = urls.flatMap Text.pieces ∧ (lines.length = kept.length ↔ whole) ∧
            (lines = urls ↔ whole)) ∧
      ∀ (text : String) (source : Option String) (rs : List Request), files.Supplies source rs →
        let shown := Transcript.ofOutcome time (Command.run files (.suggest text source)).outcome
        let offered := Suggestion.ofText text rs
        let rows := offered.map fun s => [s.display.toList, s.text.toList]
        shown.status = 0 ∧
          ∃ lines, Text.pieces shown.output.toList = lines ++ [[]] ∧
            (lines.map (List.splitOn '\t') = rows ↔
              ∀ s ∈ offered, '\n' ∉ s.display.toList ∧ '\t' ∉ s.display.toList) ∧
            ∀ s ∈ offered, ∀ c ∈ s.display.toList, c = '\n' ∨ c = '\t' →
              ∃ f : Flag, ∃ negative, ∃ r ∈ rs, ∃ v ∈ r.observed f,
                s.display.toList = f.token negative v.toList := by
  constructor
  · intro input query prefs rs s supplied prefers shown kept urls whole
    have written : shown = ⟨0, (Command.filterReport rs query s true).text,
        [Summary.message ⟨kept.length, rs.length, s.names⟩ time]⟩ :=
      Command.ofOutcome_filter supplied prefers
    have count : urls.length = kept.length := List.length_map _
    rw [written]
    refine ⟨rfl, rfl, _, Command.pieces_filterReport rs query s, rfl, ?_, ?_⟩
    · rw [← count]
      exact Text.length_flatMap_pieces_eq_iff
    · exact Text.flatMap_pieces_eq_iff
  · intro text source rs supplied shown offered rows
    have written : shown = ⟨0, (Command.suggestReport text rs).text, []⟩ :=
      Command.ofOutcome_suggest supplied
    rw [written]
    refine ⟨rfl, _, Command.pieces_suggestReport text rs, Suggestion.rows_eq_iff, ?_⟩
    intro s listed c hc mark
    have blank : Text.isBlank c = true := by
      rcases mark with rfl | rfl <;> decide
    exact Suggestion.exists_observed_of_blank listed blank hc

/-- Two requests, the second with a line feed in its URL and a tab in its status. -/
theorem transcript_lines_applied :
    let files : Files := fun _ => .ok ("[\x7b\"url\":\"a\"\x7d," ++
      "\x7b\"url\":\"b\\nc\",\"status\":\"4\\t4\"\x7d]")
    let rs : List Request := [{ url := "a" }, { url := "b\nc", status := some "4\t4" }]
    let urls (query : String) := Text.pieces (Transcript.ofOutcome "0.1"
      (Command.run files (.filter "dump" query none true)).outcome).output.toList
    let lines (text : String) := Text.pieces (Transcript.ofOutcome "0.1"
      (Command.run files (.suggest text (some "dump"))).outcome).output.toList
    let rows (text : String) :=
      (Suggestion.ofText text rs).map fun s => [s.display.toList, s.text.toList]
    files.Supplies (some "dump") rs ∧ files.Prefers none .full ∧
      urls "-b" = [['a'], []] ∧ urls "" = [['a'], ['b'], ['c'], []] ∧
      (lines "u -is:r").map (List.splitOn '\t') = rows "u -is:r" ++ [[[]]] ∧
      (lines "status-code:4").map (List.splitOn '\t') ≠ rows "status-code:4" ++ [[[]]] := by
  intro files rs urls lines rows
  have supplied : files.Supplies (some "dump") rs := .read rfl (by decide +kernel)
  have kept (query : String) :=
    (transcript_lines files "0.1").1 "dump" query none rs .full supplied .all
  have offered (text : String) :=
    (transcript_lines files "0.1").2 text (some "dump") rs supplied
  have behind (read : List (List Char)) : (read ++ [[]]).map (List.splitOn '\t') =
      read.map (List.splitOn '\t') ++ [[[]]] := List.map_append
  refine ⟨supplied, .all, ?_, ?_, ?_, ?_⟩
  · obtain ⟨-, -, _, cut, rfl, -⟩ := kept "-b"
    exact cut.trans (by decide +kernel)
  · obtain ⟨-, -, _, cut, rfl, -⟩ := kept ""
    exact cut.trans (by decide +kernel)
  · obtain ⟨-, read, cut, same, -⟩ := offered "u -is:r"
    have values : Suggestion.valueCandidates
        ((Suggestion.tokens "u -is:r".toList).getLast?.getD []) rs = ["-is:running"] := by
      decide +kernel
    have whole : ∀ s ∈ Suggestion.ofText "u -is:r" rs,
        '\n' ∉ s.display.toList ∧ '\t' ∉ s.display.toList := by
      intro s listed
      have single := (Suggestion.mem_ofText.mp listed).2.1
      rw [Suggestion.mem_candidates, values] at single
      rw [List.mem_singleton.mp single]
      decide
    change (Text.pieces _).map _ = _
    rw [cut, behind, same.mpr whole]
  · obtain ⟨-, read, cut, same, -⟩ := offered "status-code:4"
    have listed : ⟨"status-code:4\t4", "status-code:4\t4"⟩ ∈
        Suggestion.ofText "status-code:4" rs := by
      rw [Suggestion.mem_ofText, Suggestion.mem_candidates]
      decide +kernel
    change (Text.pieces _).map _ ≠ _
    rw [cut, behind]
    intro recovered
    exact absurd (same.mp (List.append_cancel_right recovered) _ listed).2 (by decide)

/-- A URL with a line feed, and a status with a tab. -/
theorem not_transcript_lines :
    (¬ ∀ (files : Files) (time input query : String) (prefs : Option String) (rs : List Request)
        (s : CategorySet), files.Supplies (some input) rs → files.Prefers prefs s →
        let shown := Transcript.ofOutcome time
          (Command.run files (.filter input query prefs true)).outcome
        let kept := filterRequests rs query s
        ∃ lines, Text.pieces shown.output.toList = lines ++ [[]] ∧
          lines.length = kept.length ∧ lines = kept.map fun r => r.url.toList) ∧
      ¬ ∀ (files : Files) (time text : String) (source : Option String) (rs : List Request),
        files.Supplies source rs →
        let shown := Transcript.ofOutcome time (Command.run files (.suggest text source)).outcome
        ∃ lines, Text.pieces shown.output.toList = lines ++ [[]] ∧
          lines.map (List.splitOn '\t') = (Suggestion.ofText text rs).map
            fun s => [s.display.toList, s.text.toList] := by
  let files : Files := fun _ => .ok "\x7b\"url\":\"a\\nb\",\"status\":\"2\\t0\"\x7d"
  let rs : List Request := [{ url := "a\nb", status := some "2\t0" }]
  have supplied : files.Supplies (some "dump") rs := .read rfl (by decide +kernel)
  constructor
  · intro readable
    obtain ⟨lines, cut, count, -⟩ := readable files "0.1" "dump" "" none rs .full supplied .all
    rw [Command.ofOutcome_filter supplied .all, Command.pieces_filterReport] at cut
    rw [← List.append_cancel_right cut] at count
    exact absurd count (by decide +kernel)
  · intro readable
    obtain ⟨lines, cut, same⟩ := readable files "0.1" "status-code:" (some "dump") rs supplied
    rw [Command.ofOutcome_suggest supplied, Command.pieces_suggestReport] at cut
    rw [← List.append_cancel_right cut] at same
    have listed : ⟨"status-code:2\t0", "status-code:2\t0"⟩ ∈
        Suggestion.ofText "status-code:" rs := by
      rw [Suggestion.mem_ofText, Suggestion.mem_candidates]
      decide +kernel
    exact absurd (Suggestion.rows_eq_iff.mp same _ listed).2 (by decide)

end RequestFilter
