import RequestFilter.Command.Basic
import RequestFilter.Proofs.Query.Matcher

/-!
What a run of a command writes before it ends or fails.

A step that fails ends the run, and the report stays as it was before the step. Filtering reads both
of its files before it writes its first line, so a filter command that fails has written nothing.
-/

set_option autoImplicit false

namespace RequestFilter

/-! ### Steps of a run -/

namespace Run

theorem continued_bind {α β : Type} (first : Run α) (next : α → Run β) (before : Report) :
    (first >>= next).continued before =
      match first.continued before with
      | (.ok a, after) => (next a).continued after
      | (.error e, after) => (.error e, after) := by
  simp only [continued, ExceptT.run_bind, StateT.run_bind]
  obtain ⟨result, after⟩ := StateT.run first.run before
  cases result with
  | ok a => rfl
  | error e => rfl

theorem continued_lift {α : Type} (result : Except CommandError α) (before : Report) :
    (liftM result : Run α).continued before = (result, before) := rfl

private theorem continued_writeSummary (s : Summary) (before : Report) :
    (writeSummary s).continued before =
      (.ok (), { before with summaries := before.summaries.push s }) := rfl

theorem continued_writeLines {α : Type} (f : α → String) (as : List α) (before : Report) :
    Run.continued (as.forM fun a => writeLine (f a)) before =
      (.ok (), { before with lines := before.lines ++ (as.map f).toArray }) := by
  induction as generalizing before with
  | nil =>
    rw [List.map_nil, Array.append_empty]
    rfl
  | cons a as ih =>
    have first : (a :: as).forM (fun a => writeLine (f a)) =
        writeLine (f a) >>= fun _ => as.forM fun a => writeLine (f a) := List.forM_cons
    have step : (writeLine (f a)).continued before =
        (.ok (), { before with lines := before.lines.push (f a) }) := rfl
    rw [first, continued_bind, step]
    dsimp only
    rw [ih, List.map_cons, List.toArray_cons, Array.push_eq_append, Array.append_assoc]

end Run

/-! ### Files that are read -/

namespace Files

variable {files : Files} {path text : String}

theorem requests_of_load {loaded : Except LoadError (List Request)}
    (read : files path = .ok text) (load : Request.load text = loaded) :
    files.requests path = loaded.mapError (.badDump path) := by
  simp only [requests, read, load]

private theorem categories_of_ofJson {parsed : Except LoadError CategorySet}
    (read : files path = .ok text) (parse : CategorySet.ofJson text = parsed) :
    files.categories (some path) = parsed.mapError (.badPrefs path) := by
  simp only [categories, read, parse]

end Files

/-! ### Filtering -/

namespace Command

/-- What filtering writes: the lines of the requests that are kept, and one summary. -/
def filterReport (rs : List Request) (query : String) (s : CategorySet) (urlsOnly : Bool) :
    Report :=
  let kept := filterRequests rs query s
  ⟨(kept.map (Request.outputLine urlsOnly)).toArray, #[⟨kept.length, rs.length, s.names⟩]⟩

variable (files : Files) (input query : String) (prefs : Option String) (urlsOnly : Bool)

/-- Filtering fails with nothing written, or ends with all that it has to write. -/
private theorem outcome_filter :
    (run files (.filter input query prefs urlsOnly)).outcome =
      match files.requests input with
      | .error e => (.error e, {})
      | .ok rs =>
        match files.categories prefs with
        | .error e => (.error e, {})
        | .ok s => (.ok (), filterReport rs query s urlsOnly) := by
  rw [Run.outcome, run, Run.continued_bind, Run.continued_lift]
  cases files.requests input with
  | error e => rfl
  | ok rs =>
    dsimp only
    rw [Run.continued_bind, Run.continued_lift]
    cases files.categories prefs with
    | error e => rfl
    | ok s =>
      dsimp only
      rw [Matcher.filter_parse, Run.continued_bind, Run.continued_writeLines]
      dsimp only
      rw [Run.continued_writeSummary, Array.empty_append]
      rfl

variable {files input query prefs urlsOnly}

theorem outcome_filter_of_ok {rs : List Request} {s : CategorySet}
    (requests : files.requests input = .ok rs) (categories : files.categories prefs = .ok s) :
    (run files (.filter input query prefs urlsOnly)).outcome =
      (.ok (), filterReport rs query s urlsOnly) := by
  rw [outcome_filter, requests]
  dsimp only
  rw [categories]

end Command

/-- Preferences give categories: all of them without a file, else those that the file asks for. -/
inductive Files.Prefers (files : Files) : Option String → CategorySet → Prop
  | all : Prefers files none .full
  | read {path json : String} {s : CategorySet} (read : files path = .ok json)
      (parsed : CategorySet.ofJson json = .ok s) : Prefers files (some path) s

theorem Files.Prefers.categories_eq {files : Files} {prefs : Option String} {s : CategorySet}
    (h : files.Prefers prefs s) : files.categories prefs = .ok s := by
  cases h with
  | all => rfl
  | read read parsed => exact Files.categories_of_ofJson read parsed

end RequestFilter
