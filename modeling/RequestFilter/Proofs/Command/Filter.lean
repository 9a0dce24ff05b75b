import RequestFilter.Proofs.Command.Run
import RequestFilter.Proofs.Request.Reload

/-!
The output of filtering is a dump.

Filtering its own output, by the same query and the same preferences, writes the same lines again.
-/

set_option autoImplicit false

namespace RequestFilter

theorem Report.toList_text (report : Report) :
    report.text.toList = report.lines.toList.flatMap fun line => line.toList ++ ['\n'] := by
  simp [Report.text, String.toList_join, List.flatMap_map]

private theorem Request.load_report {rs : List Request} (nonempty : rs ≠ [])
    (sizes : ∀ r ∈ rs, r.HasWritableSizes) {report : Report}
    (lines : report.lines.toList = rs.map (outputLine false)) : load report.text = .ok rs := by
  have text : report.text.toList = (rs.map fun r => r.toLine.toList).flatMap (· ++ ['\n']) := by
    simp [Report.toList_text, lines, List.flatMap_map, outputLine]
  have each : ∀ l ∈ rs.map (fun r => r.toLine.toList), Text.IsLine l := by
    intro l hl
    obtain ⟨r, hr, rfl⟩ := List.mem_map.mp hl
    exact isLine_toLine (sizes r hr)
  apply load_of_lines nonempty sizes
  · rw [text, Text.lines_flatMap each]
  · obtain ⟨r, others, rfl⟩ := List.exists_cons_of_ne_nil nonempty
    rw [text, List.map_cons, List.flatMap_cons, List.append_assoc]
    exact isArrayText_toLine (sizes r List.mem_cons_self) _

private theorem Files.exists_of_requests {files : Files} {path : String} {rs : List Request}
    (h : files.requests path = .ok rs) : ∃ text, Request.load text = .ok rs := by
  unfold Files.requests at h
  split at h
  · cases h
  · exact ⟨_, eq_ok_of_mapError_eq_ok h⟩

namespace Command

variable {files : Files} {input query : String} {prefs : Option String}

/-- Filtering a report of its own, by the same query and preferences, writes the same lines, if the
sizes in it are read from their texts as they are. -/
theorem outcome_filter_report {files' : Files} {path : String} {rs : List Request} {s : CategorySet}
    (requests : files.requests input = .ok rs) (categories : files.categories prefs = .ok s)
    (nonempty : filterRequests rs query s ≠ [])
    (readBack : ∀ r ∈ filterRequests rs query s, r.HasReadBackSizes)
    (written : files' path = .ok (run files (.filter input query prefs false)).outcome.2.text)
    (same : files'.categories prefs = files.categories prefs) :
    ∃ again, (run files' (.filter path query prefs false)).outcome = (.ok (), again) ∧
      again.lines = (run files (.filter input query prefs false)).outcome.2.lines := by
  rw [outcome_filter_of_ok requests categories] at written ⊢
  obtain ⟨text, loaded⟩ := Files.exists_of_requests requests
  have sizes : ∀ r ∈ filterRequests rs query s, r.HasWritableSizes := fun r hr =>
    ⟨Request.hasFiniteSizes_of_load loaded r (List.mem_filter.mp hr).1, readBack r hr⟩
  have again := Files.requests_of_load written (Request.load_report nonempty sizes rfl)
  refine ⟨_, outcome_filter_of_ok again (same.trans categories), ?_⟩
  rw [filterReport, filterReport, filterRequests_filterRequests]

end Command
end RequestFilter
