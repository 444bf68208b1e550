import Mathlib.Data.List.Forall2
import QueryLint.Cli.Output
import QueryLint.Proofs.Json.ReadBack
import QueryLint.Proofs.Json.RoundTrip

/-!
The results that the JSON output holds.

Main statement: in either layout the output is the text of one and the same array. It has an element
for each result, in order, which gives the name and beside it the report or else the error, and the
results can be read back from it.
-/

namespace QueryLint

open Json

theorem integral_nat {value : Nat} (small : value < wordBound) : Integral (.nat value) := by
  have bound : wordBound = 2 ^ 64 := by decide
  exact .integer (by omega) (by omega)

theorem integral_map {α : Type} (encode : α → Json) (values : List α)
    (each : ∀ value ∈ values, Integral (encode value)) : Integral (.array (values.map encode)) := by
  apply Integral.array
  intro item member
  obtain ⟨value, present, rfl⟩ := List.mem_map.mp member
  exact each value present

/-- An object is without fractions if its two fields are. -/
theorem integral_pair {first second : String} {left right : Json} (integral : Integral left)
    (integralOther : Integral right) : Integral (.object [(first, left), (second, right)]) := by
  apply Integral.object
  intro field member
  rcases List.mem_pair.mp member with rfl | rfl
  · exact integral
  · exact integralOther

theorem Finding.integral_toJson (finding : Finding) : Integral finding.toJson :=
  integral_pair (.string _) (.string _)

theorem StatementReport.integral_toJson (statement : StatementReport)
    (small : statement.index < wordBound) : Integral statement.toJson :=
  integral_pair (integral_nat small)
    (integral_map Finding.toJson _ fun finding _ => finding.integral_toJson)

theorem Report.integral_toJson (report : Report) (numbered : report.Numbered) :
    Integral report.toJson := by
  have statements : Integral (.array (report.statements.map StatementReport.toJson)) :=
    integral_map _ _ fun statement member => statement.integral_toJson (numbered statement member)
  rw [Report.toJson]
  cases report.sourceName with
  | some name => exact integral_pair (.string name) statements
  | none => exact .object (List.forall_mem_singleton.mpr statements)

namespace Cli

/-- The statement numbers of a report are held in 64 bits. -/
def FileResult.Numbered (result : FileResult) : Prop :=
  ∀ report, result.outcome = .ok report → report.Numbered

theorem FileResult.integral_toJson (result : FileResult) (numbered : result.Numbered) :
    Integral result.toJson := by
  obtain ⟨name, outcome⟩ := result
  cases outcome with
  | ok report => exact integral_pair (.string name) (report.integral_toJson (numbered report rfl))
  | error message => exact integral_pair (.string name) (.string message)

/-- Either layout is the text of the same value. -/
theorem parse?_formatJson (results : List FileResult)
    (numbered : ∀ result ∈ results, result.Numbered) (compact : Bool) :
    Json.Parser.parse? (formatJson compact results) = some (resultsJson results) := by
  have integral : Integral (resultsJson results) :=
    integral_map _ _ fun result member => result.integral_toJson (numbered result member)
  rw [formatJson]
  cases compact with
  | true => exact parse?_render Layout.blank_compact integral
  | false => exact parse?_render Layout.blank_pretty integral

/-- What an element says of a result: its name, and the report or else the error. -/
inductive Describes : FileResult → Json → Prop
  | report {name : String} {report : Report} {value : Json}
      (read : Report.ofJson value = .ok report) :
      Describes ⟨name, .ok report⟩ (.object [("name", .string name), ("report", value)])
  | error (name message : String) :
      Describes ⟨name, .error message⟩
        (.object [("name", .string name), ("error", .string message)])

theorem FileResult.describes_toJson (result : FileResult) (numbered : result.Numbered) :
    Describes result result.toJson := by
  obtain ⟨name, outcome⟩ := result
  cases outcome with
  | ok report => exact .report (report.ofJson_toJson (numbered report rfl))
  | error message => exact .error name message

/-- Reads an element by its names. One that has both a report and an error, or neither, is
refused. -/
def FileResult.ofJson (element : Json) : Except DecodeError FileResult := do
  let name ← decodeString (element.get "name")
  match element.get? "report", element.get? "error" with
  | some report, none => return ⟨name, .ok (← Report.ofJson report)⟩
  | none, some message => return ⟨name, .error (← decodeString message)⟩
  | _, _ => .error .notOneKey

theorem Describes.ofJson {result : FileResult} {element : Json}
    (describes : Describes result element) : FileResult.ofJson element = .ok result := by
  cases describes with
  | error name message => rfl
  | @report name report value read =>
    -- A report is no null, so the field counts as given.
    have held : (Json.object [("name", .string name), ("report", value)]).get? "report" =
        some value := by
      cases value with
      | null => cases read
      | _ => rfl
    have absent : (Json.object [("name", .string name), ("report", value)]).get? "error" =
        none := rfl
    have named : (Json.object [("name", .string name), ("report", value)]).get "name" =
        .string name := rfl
    rw [FileResult.ofJson, held, absent, named, decodeString]
    simp only [bind, Except.bind, read, pure, Except.pure]

/-- The output of either layout is read as one array. Its elements describe the results one by one,
the results are read back from them, and no other results have this output in any layout. -/
theorem formatJson_reads_back (results : List FileResult)
    (numbered : ∀ result ∈ results, result.Numbered) :
    ∃ elements : List Json,
      (∀ compact, Json.Parser.parse? (formatJson compact results) = some (.array elements)) ∧
      List.Forall₂ Describes results elements ∧
      decodeList FileResult.ofJson (.array elements) = .ok results ∧
      ∀ others : List FileResult, (∀ result ∈ others, result.Numbered) →
        ∀ compact layout, formatJson compact others = formatJson layout results →
          others = results := by
  have decoded (results : List FileResult) (numbered : ∀ result ∈ results, result.Numbered) :
      decodeList FileResult.ofJson (resultsJson results) = .ok results :=
    decodeList_map FileResult.toJson results fun result member =>
      (result.describes_toJson (numbered result member)).ofJson
  refine ⟨results.map FileResult.toJson, parse?_formatJson results numbered, ?_,
    decoded results numbered, ?_⟩
  · rw [List.forall₂_map_right_iff, List.forall₂_same]
    intro result member
    exact result.describes_toJson (numbered result member)
  · intro others numberedOthers compact layout same
    have value : resultsJson others = resultsJson results := by
      have read := parse?_formatJson others numberedOthers compact
      rw [same, parse?_formatJson results numbered layout] at read
      exact (Option.some.inj read).symm
    have read := decoded others numberedOthers
    rw [value, decoded results numbered] at read
    exact (Except.ok.inj read).symm

/-- Quotes, a line break, a control character and letters beyond ASCII, in a report with the
greatest number there is, and beside it an error. -/
theorem formatJson_reads_back_escaped :
    let report : Report :=
      ⟨some "naïve \"q\".sql", [⟨wordBound - 1, [⟨"CODE", "a\nb\x01\\"⟩]⟩, ⟨1, []⟩]⟩
    let results : List FileResult := [⟨"q.sql", .ok report⟩, ⟨"", .error "Σ\t"⟩]
    (∀ result ∈ results, result.Numbered) ∧
      ∃ elements : List Json,
        Json.Parser.parse? (formatJson true results) = some (.array elements) ∧
        Json.Parser.parse? (formatJson false results) = some (.array elements) ∧
        List.Forall₂ Describes results elements ∧
        decodeList FileResult.ofJson (.array elements) = .ok results := by
  intro report results
  have small : report.Numbered := by
    rintro statement (_ | ⟨_, _ | ⟨_, ⟨⟩⟩⟩) <;> decide
  have numbered : ∀ result ∈ results, result.Numbered := by
    intro result member given outcome
    rcases List.mem_pair.mp member with rfl | rfl
    · cases outcome
      exact small
    · cases outcome
  obtain ⟨elements, read, describes, decoded, -⟩ := formatJson_reads_back results numbered
  exact ⟨numbered, elements, read true, read false, describes, decoded⟩

end Cli

end QueryLint
