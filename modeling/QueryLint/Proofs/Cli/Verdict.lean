import Mathlib.Algebra.GroupWithZero.Nat
import Mathlib.Algebra.Order.BigOperators.Group.List
import Mathlib.Algebra.Order.Group.Nat
import QueryLint.Cli.Run
import QueryLint.Proofs.Cli.Results
import QueryLint.Proofs.Detection.Selection
import QueryLint.Proofs.Text.Numeral

/-!
The verdict of the command, told in four ways: by the status it exits with, by the headers of the
text output, by the summary line and by the JSON output. All four say the same of every list of
results, and the numbers of the summary are the numbers of sections and lines above it. A run puts
the output where it is asked to, and how the output is formatted has no part in the status.
-/

namespace QueryLint.Cli

/-! ### Sections of the text output -/

theorem Status.text_injective (coloured : Bool) : Function.Injective (Status.text coloured) := by
  intro first second
  cases coloured <;> cases first <;> cases second <;> decide

/-- The first line of a result's section gives its name and a word in a colour. -/
def HeadedBy (coloured : Bool) (colour : Colour) (word : String) (result : FileResult) : Prop :=
  (sectionLines coloured result).head? =
    some ("== [" ++ result.name ++ "] " ++ paint coloured colour word ++ "\n")

instance (coloured : Bool) (colour : Colour) (word : String) (result : FileResult) :
    Decidable (HeadedBy coloured colour word result) := inferInstanceAs (Decidable (_ = _))

theorem head?_sectionLines (coloured : Bool) (status : Status) (result : FileResult) :
    (sectionLines coloured result).head? =
      some ("== [" ++ result.name ++ "] " ++ status.text coloured ++ "\n") ↔
        result.status = status := by
  rw [sectionLines, headerLine, List.head?_cons, Option.some_inj, String.append_left_inj,
    String.append_right_inj]
  exact (Status.text_injective coloured).eq_iff

theorem headedBy_pass_iff (coloured : Bool) (result : FileResult) :
    HeadedBy coloured .green "PASS" result ↔ result.isClean = true := by
  have status : result.status = .pass ↔ result.isClean = true := by
    obtain ⟨name, outcome⟩ := result
    cases outcome with
    | error message => simp [FileResult.status, FileResult.isError, FileResult.isClean]
    | ok report => simp [FileResult.status, FileResult.isError]
  exact (head?_sectionLines coloured .pass result).trans status

theorem headedBy_error_iff (coloured : Bool) (result : FileResult) :
    HeadedBy coloured .red "ERROR" result ↔ result.isError = true := by
  have status : result.status = .error ↔ result.isError = true := by
    rw [FileResult.status]
    by_cases failed : result.isError = true
    · rw [if_pos failed]
      exact iff_of_true rfl failed
    · rw [if_neg failed]
      refine iff_of_false ?_ failed
      split <;> decide
  exact (head?_sectionLines coloured .error result).trans status

/-- The lines about findings in a result's section: all below the header, unless the header tells of
an error. -/
def findingLines (coloured : Bool) (result : FileResult) : List String :=
  if HeadedBy coloured .red "ERROR" result then [] else (sectionLines coloured result).tail

/-- The findings of a result, each with the number of its statement. -/
def FileResult.located (result : FileResult) : List (Nat × Finding) :=
  match result.outcome with
  | .ok report =>
    report.statements.flatMap fun statement => statement.findings.map (statement.index, ·)
  | .error _ => []

/-- A number of fewer than three digits has spaces before it. -/
theorem padded_eq (value : Nat) :
    padded value =
      String.ofList (List.replicate (3 - (toString value).length) ' ') ++ toString value := by
  have digits : toString value = String.ofList (Nat.toDigits 10 value) := rfl
  rw [padded, digits, String.length_ofList, String.ofList_append]

theorem findingLine_eq (coloured : Bool) (index : Nat) (finding : Finding) :
    findingLine coloured index finding =
      "S:" ++ String.ofList (List.replicate (3 - (toString index).length) ' ') ++
        toString index ++ " | " ++ paint coloured .yellow finding.detector ++ " | " ++
        finding.message ++ "\n" := by
  rw [findingLine, padded_eq, ← String.append_assoc]

/-- A section has a line for each finding, which spells out the number of the statement, the code and
the message. -/
theorem findingLines_eq (coloured : Bool) (result : FileResult) :
    findingLines coloured result = result.located.map fun entry =>
      "S:" ++ String.ofList (List.replicate (3 - (toString entry.1).length) ' ') ++
        toString entry.1 ++ " | " ++ paint coloured .yellow entry.2.detector ++ " | " ++
        entry.2.message ++ "\n" := by
  have headed := headedBy_error_iff coloured result
  obtain ⟨name, outcome⟩ := result
  cases outcome with
  | error message =>
    rw [findingLines, if_pos (headed.mpr rfl)]
    rfl
  | ok report =>
    have below : (sectionLines coloured ⟨name, .ok report⟩).tail = reportLines coloured report := rfl
    rw [findingLines, if_neg fun failed => Bool.false_ne_true (headed.mp failed), below,
      reportLines, FileResult.located, List.map_flatMap]
    apply List.flatMap_congr
    intro statement _
    rw [List.map_map]
    apply List.map_congr_left
    intro finding _
    exact findingLine_eq coloured statement.index finding

theorem length_reportLines (coloured : Bool) (report : Report) :
    (reportLines coloured report).length = report.findings.length := by
  simp only [reportLines, Report.findings, List.length_flatMap, List.length_map]

/-! ### The summary -/

theorem addUp_eq_sum (counts : List Nat) : addUp counts = counts.sum := rfl

theorem findingCount_eq_length (report : Report) :
    report.findingCount = report.findings.length := by
  rw [Report.findingCount, addUp_eq_sum, Report.findings, List.length_flatMap]

theorem FileResult.length_located (result : FileResult) :
    result.located.length = result.findingCount := by
  obtain ⟨name, outcome⟩ := result
  cases outcome with
  | error message => rfl
  | ok report =>
    simp only [located, findingCount, Report.findingCount, addUp_eq_sum, List.length_flatMap,
      List.length_map]

/-- The nested sums count the lines. -/
theorem length_findingLines (coloured : Bool) (results : List FileResult) :
    (results.flatMap (findingLines coloured)).length =
      addUp (results.map FileResult.findingCount) := by
  simp only [addUp_eq_sum, List.length_flatMap, findingLines_eq, List.length_map,
    FileResult.length_located]

/-- The numbers that a summary gives. -/
structure Tally where
  files : Nat
  findings : Nat
  errors : Nat
deriving DecidableEq, Repr

/-- Parse errors are mentioned only if there are any. -/
def Tally.text (tally : Tally) : String :=
  counted tally.files "file" ++ ", " ++ counted tally.findings "finding" ++
    (if 0 < tally.errors then ", " ++ counted tally.errors "parse error" else "") ++ "\n"

theorem Tally.text_clean (files : Nat) :
    Tally.text ⟨files, 0, 0⟩ = counted files "file" ++ ", 0 findings\n" := by
  have ending : ", " ++ (counted 0 "finding" ++
      ((if 0 < 0 then ", " ++ counted 0 "parse error" else "") ++ "\n")) = ", 0 findings\n" := by
    decide
  rw [Tally.text, String.append_assoc, String.append_assoc, String.append_assoc, ending]

/-- A count starts with its numeral. -/
theorem toList_counted (count : Nat) (noun : String) :
    ∃ plural : List Char, ∀ rest : List Char,
      (counted count noun).toList ++ rest =
        Nat.toDigits 10 count ++ ' ' :: (noun.toList ++ plural ++ rest) := by
  refine ⟨(if count = 1 then "" else "s").toList, ?_⟩
  intro rest
  have spelt : (toString count).toList = Nat.toDigits 10 count := Nat.toList_repr
  simp only [counted, String.toList_append, spelt, List.append_assoc]
  rfl

/-- What follows a count can be read off the text, and so can the count. -/
theorem counted_append_inj {first second : Nat} {noun : String} {rest tail : List Char}
    (same : (counted first noun).toList ++ rest = (counted second noun).toList ++ tail) :
    first = second ∧ rest = tail := by
  obtain ⟨plural, spelt⟩ := toList_counted first noun
  obtain ⟨otherPlural, speltOther⟩ := toList_counted second noun
  have count : first = second := by
    rw [spelt, speltOther] at same
    exact (Text.numeral_append_inj same).1
  subst count
  exact ⟨rfl, List.append_cancel_left same⟩

theorem Tally.text_injective : Function.Injective Tally.text := by
  intro first second same
  obtain ⟨files, findings, errors⟩ := first
  obtain ⟨otherFiles, otherFindings, otherErrors⟩ := second
  have letters := congrArg String.toList same
  simp only [Tally.text, String.toList_append, List.append_assoc] at letters
  obtain ⟨sameFiles, letters⟩ := counted_append_inj letters
  obtain ⟨sameFindings, letters⟩ := counted_append_inj (List.append_cancel_left letters)
  have sameErrors : errors = otherErrors := by
    by_cases some : 0 < errors
    · by_cases others : 0 < otherErrors
      · simp only [if_pos some, if_pos others, String.toList_append, List.append_assoc] at letters
        exact (counted_append_inj (List.append_cancel_left letters)).1
      · simp [if_pos some, if_neg others] at letters
    · by_cases others : 0 < otherErrors
      · simp [if_neg some, if_pos others] at letters
      · omega
  rw [sameFiles, sameFindings, sameErrors]

/-- The summary counts the results, the lines about findings and the sections headed by an error. -/
theorem summaryLine_eq (coloured : Bool) (results : List FileResult) :
    summaryLine results =
      Tally.text ⟨results.length, (results.flatMap (findingLines coloured)).length,
        results.countP fun result => HeadedBy coloured .red "ERROR" result⟩ := by
  have errors : (results.countP fun result => HeadedBy coloured .red "ERROR" result) =
      results.countP FileResult.isError := by
    apply List.countP_congr
    intro result _
    rw [decide_eq_true_iff, headedBy_error_iff]
  rw [length_findingLines, errors]
  rfl

/-! ### Clean results -/

theorem hasFindings_eq_false_iff (report : Report) :
    report.hasFindings = false ↔ ∀ statement ∈ report.statements, statement.findings = [] := by
  rw [Report.hasFindings, List.any_eq_false]
  simp only [Bool.not_eq_true, Bool.not_eq_false', List.isEmpty_iff]

theorem findings_eq_nil_iff (report : Report) :
    report.findings = [] ↔ report.hasFindings = false := by
  rw [hasFindings_eq_false_iff, Report.findings, List.flatMap_eq_nil_iff]

theorem isClean_iff (result : FileResult) :
    result.isClean = true ↔ result.findingCount = 0 ∧ result.isError = false := by
  obtain ⟨name, outcome⟩ := result
  cases outcome with
  | error message => simp [FileResult.isClean, FileResult.isError]
  | ok report =>
    simp [FileResult.isClean, FileResult.isError, FileResult.findingCount, findingCount_eq_length,
      findings_eq_nil_iff]

theorem hasFailures_eq_false_iff (results : List FileResult) :
    hasFailures results = false ↔ ∀ result ∈ results, result.isClean = true := by
  rw [hasFailures, List.any_eq_false]
  simp only [Bool.not_eq_true', Bool.not_eq_false]

/-- Nothing failed just if nothing is counted. -/
theorem hasFailures_iff_counts (results : List FileResult) :
    hasFailures results = false ↔
      addUp (results.map FileResult.findingCount) = 0 ∧ results.countP FileResult.isError = 0 := by
  rw [hasFailures_eq_false_iff, addUp_eq_sum, List.sum_eq_zero_iff, List.forall_mem_map,
    List.countP_eq_zero, ← forall₂_and]
  simp only [isClean_iff, Bool.not_eq_true]

/-- An element of the JSON output with a report in which no statement has a finding. -/
def CleanElement (element : Json) : Prop :=
  ∃ report statements, element.get? "report" = some report ∧
    report.get "statements" = .array statements ∧
    ∀ statement ∈ statements, statement.get "findings" = .array []

theorem get_statements (report : Report) :
    report.toJson.get "statements" = .array (report.statements.map StatementReport.toJson) := by
  obtain ⟨sourceName, statements⟩ := report
  cases sourceName <;> rfl

theorem cleanElement_iff (result : FileResult) :
    CleanElement result.toJson ↔ result.isClean = true := by
  obtain ⟨name, outcome⟩ := result
  cases outcome with
  | error message =>
    refine iff_of_false ?_ (by simp [FileResult.isClean])
    rintro ⟨report, statements, absent, -⟩
    cases absent
  | ok report =>
    have held : (FileResult.toJson ⟨name, .ok report⟩).get? "report" = some report.toJson := rfl
    have clean : FileResult.isClean ⟨name, .ok report⟩ = true ↔
        ∀ statement ∈ report.statements, statement.findings = [] := by
      rw [← hasFindings_eq_false_iff, FileResult.isClean, Bool.not_eq_true']
    have empty (statement : StatementReport) :
        statement.toJson.get "findings" = .array [] ↔ statement.findings = [] := by
      have listed : statement.toJson.get "findings" =
          .array (statement.findings.map Finding.toJson) := rfl
      rw [listed, Json.array.injEq, List.map_eq_nil_iff]
    rw [CleanElement, held, clean]
    constructor
    · rintro ⟨element, statements, same, listed, all⟩ statement member
      cases same
      rw [get_statements] at listed
      cases listed
      exact (empty statement).mp (all _ (List.mem_map_of_mem member))
    · intro all
      refine ⟨_, _, rfl, get_statements report, ?_⟩
      intro element member
      obtain ⟨statement, present, rfl⟩ := List.mem_map.mp member
      exact (empty statement).mpr (all statement present)

/-- The JSON output is read back as an array, and its elements tell whether anything failed. -/
theorem cleanElements_iff (results : List FileResult)
    (numbered : ∀ result ∈ results, result.Numbered) (compact : Bool) :
    ∃ elements, Json.Parser.parse? (formatJson compact results) = some (.array elements) ∧
      elements.length = results.length ∧
      (hasFailures results = false ↔ ∀ element ∈ elements, CleanElement element) := by
  refine ⟨_, parse?_formatJson results numbered compact, List.length_map _, ?_⟩
  rw [hasFailures_eq_false_iff, List.forall_mem_map]
  simp only [cleanElement_iff]

/-! ### The run -/

/-- Whether a file can be written does not depend on what is to be written. -/
theorem writeText_of_writable (files : FileTree) (path content : String)
    (writable : ∃ other written, files.writeText path other = .ok written) :
    ∃ written, files.writeText path content = .ok written := by
  obtain ⟨other, written, done⟩ := writable
  rw [FileTree.writeText, FileTree.writeBytes] at done ⊢
  cases placed : files.target path with
  | error cause =>
    rw [placed] at done
    cases done
  | ok place =>
    simp only [placed, bind, Except.bind] at done ⊢
    split at done
    · cases done
    · cases done
    · cases done
    · exact ⟨_, rfl⟩

/-- A run has put a text where the options ask for it: on the standard output, where it ends its last
line, or in a file. -/
def Delivers (world : World) (options : Options) (text : String) (outcome : Outcome) : Prop :=
  match options.output with
  | none =>
    outcome.stdout = (if text.endsWith "\n" then text else text ++ "\n") ∧
      outcome.written = none ∧ outcome.files = world.files
  | some path =>
    outcome.stdout = "" ∧ outcome.written = some (path, text) ∧
      world.files.writeText path text = .ok outcome.files

/-- The output of a run can be written. -/
def Writable (world : World) (options : Options) : Prop :=
  ∀ path ∈ options.output, ∃ text written, world.files.writeText path text = .ok written

/-- What is written about some results, in the format that is asked for. Text has colours only on a
terminal. -/
def formatted (world : World) (options : Options) (results : List FileResult) : String :=
  match options.format with
  | .text => formatText (options.output.isNone && world.terminal) results
  | .json => formatJson options.compact results

theorem content_eq_formatted (world : World) (options : Options) (results : List FileResult) :
    content world.terminal options results = formatted world options results := rfl

/-- A run whose output can be written delivers it, and its status says whether a result is not
clean. -/
theorem deliver_of_writable (world : World) (options : Options) (results : List FileResult)
    (writable : Writable world options) :
    (deliver world options results).status =
        (if hasFailures results then statusFailure else statusClean) ∧
      Delivers world options (formatted world options results) (deliver world options results) := by
  rw [deliver, Delivers, ← content_eq_formatted]
  cases output : options.output with
  | none => exact ⟨rfl, rfl, rfl, rfl⟩
  | some path =>
    obtain ⟨written, done⟩ := writeText_of_writable world.files path
      (content world.terminal options results) (writable path output)
    simp only [done, and_self]

theorem run_of_readable (parser : Parser) (explain : Stop → String) (world : World)
    (arguments : List String) (options : Options) (sources : List Source)
    (parsed : Options.parse arguments = .ok options)
    (readable : readInput world.files world.stdin options.files = .ok sources)
    (writable : Writable world options) :
    let results := sources.map (inspect parser options)
    let outcome := run parser explain world arguments
    outcome.status = (if hasFailures results then statusFailure else statusClean) ∧
      Delivers world options (formatted world options results) outcome := by
  simp only [run, parsed, runOptions, readable]
  exact deliver_of_writable world options _ writable

/-- The status, the headers, the summary and the JSON output agree on every list of results. The
summary gives the number of results, of lines about findings and of sections headed by an error; the
lines spell the findings out one by one, and the JSON output is read back as one element for each
result. With inputs that can be read and an output that can be written, a run delivers the format
that is asked for, and its status does not depend on the format, the layout or the warnings. -/
theorem verdicts_agree :
    (∀ (coloured : Bool) (results : List FileResult),
      formatText coloured results =
        String.join (results.flatMap (sectionLines coloured)) ++ summaryLine results ∧
      (hasFailures results = false ↔
        ∀ result ∈ results, HeadedBy coloured .green "PASS" result) ∧
      (hasFailures results = false ↔
        summaryLine results = counted results.length "file" ++ ", 0 findings\n") ∧
      summaryLine results =
        Tally.text ⟨results.length, (results.flatMap (findingLines coloured)).length,
          results.countP fun result => HeadedBy coloured .red "ERROR" result⟩ ∧
      ∀ result ∈ results, findingLines coloured result = result.located.map fun entry =>
        "S:" ++ String.ofList (List.replicate (3 - (toString entry.1).length) ' ') ++
          toString entry.1 ++ " | " ++ paint coloured .yellow entry.2.detector ++ " | " ++
          entry.2.message ++ "\n") ∧
    Function.Injective Tally.text ∧
    (∀ (compact : Bool) (results : List FileResult),
      formatJson compact results =
        (resultsJson results).render (if compact then .compact else .pretty) ∧
      (hasFailures results = false ↔
        ∀ element ∈ (resultsJson results).items, CleanElement element) ∧
      ((∀ result ∈ results, result.Numbered) →
        ∃ elements, Json.Parser.parse? (formatJson compact results) = some (.array elements) ∧
          elements.length = results.length ∧
          (hasFailures results = false ↔ ∀ element ∈ elements, CleanElement element))) ∧
    (∀ (parser : Parser) (explain : Stop → String) (world : World) (arguments : List String)
      (options : Options) (sources : List Source),
      Options.parse arguments = .ok options →
      readInput world.files world.stdin options.files = .ok sources → Writable world options →
      let results := sources.map (inspect parser options)
      let outcome := run parser explain world arguments
      outcome.status = (if hasFailures results then statusFailure else statusClean) ∧
        Delivers world options (formatted world options results) outcome) ∧
    ∀ (parser : Parser) (explain : Stop → String) (world : World)
      (arguments others : List String) (options other : Options) (sources : List Source),
      Options.parse arguments = .ok options → Options.parse others = .ok other →
      other = { options with
        format := other.format, compact := other.compact, quiet := other.quiet } →
      readInput world.files world.stdin options.files = .ok sources → Writable world options →
      (run parser explain world others).status = (run parser explain world arguments).status := by
  refine ⟨?_, Tally.text_injective, ?_, run_of_readable, ?_⟩
  · intro coloured results
    refine ⟨?_, ?_, ?_, summaryLine_eq coloured results,
      fun result _ => findingLines_eq coloured result⟩
    · rw [formatText, String.join_append, String.join_cons, String.join_nil, String.append_empty]
    · simp only [headedBy_pass_iff, hasFailures_eq_false_iff]
    · have counts : summaryLine results = Tally.text ⟨results.length,
          addUp (results.map FileResult.findingCount), results.countP FileResult.isError⟩ := rfl
      rw [← Tally.text_clean, counts, Tally.text_injective.eq_iff, Tally.mk.injEq,
        hasFailures_iff_counts]
      simp only [true_and]
  · intro compact results
    refine ⟨rfl, ?_, fun numbered => cleanElements_iff results numbered compact⟩
    rw [hasFailures_eq_false_iff, resultsJson, Json.items, List.forall_mem_map]
    simp only [cleanElement_iff]
  · intro parser explain world arguments others options other sources parsed parsedOther same
      readable writable
    have first := run_of_readable parser explain world arguments options sources parsed readable
      writable
    have second := run_of_readable parser explain world others other sources parsedOther
      (by rw [same]; exact readable) (by rw [same]; exact writable)
    have inspected : inspect parser other = inspect parser options := by
      rw [same]
      rfl
    rw [first.1, second.1, inspected]

/-- A text with two findings and one that is not parsed, reported in two ways to a file that is not
there yet. -/
theorem verdicts_agree_mixed :
    let parser : Parser := fun _ sql => if sql = "" then .ok [flaggedTwice] else .error .tooDeep
    let entries : List (String × Entry) :=
      [("q.sql", .file (.ok .empty)), ("bad.sql", .file (.ok "(".toUTF8))]
    let world : World := ⟨⟨.directory entries none, []⟩, .ok .empty, true⟩
    let arguments := ["q.sql", "bad.sql", "-o", "out"]
    let others := arguments ++ ["-qc", "--format=json"]
    let options : Options := { files := ["q.sql", "bad.sql"], output := some "out" }
    let other : Options := { options with format := .json, compact := true, quiet := true }
    let sources : List Source := [⟨"q.sql", ""⟩, ⟨"bad.sql", "("⟩]
    let results := sources.map (inspect parser options)
    let outcome := run parser (fun _ => "") world arguments
    let outcomeOther := run parser (fun _ => "") world others
    Options.parse arguments = .ok options ∧ Options.parse others = .ok other ∧
      readInput world.files world.stdin options.files = .ok sources ∧ Writable world options ∧
      (∀ result ∈ results, result.Numbered) ∧
      outcome.status = statusFailure ∧ outcomeOther.status = statusFailure ∧
      outcome.written = some ("out",
        "== [q.sql] FAIL\nS:  0 | NAIVE_REGEXP_CONTAINS | " ++ Rule.RegexpContains.message ++
          "\nS:  0 | IN_SUBQUERY_WITHOUT_AGGREGATION | " ++ Rule.InSubquery.message ++
          "\n== [bad.sql] ERROR\nParse error (Bigquery): sql parser error: " ++
          "recursion limit exceeded\n" ++
          "2 files, 2 findings, 1 parse error\n") ∧
      ∃ json elements, outcomeOther.written = some ("out", json) ∧
        Json.Parser.parse? json = some (.array elements) ∧ elements.length = 2 ∧
        ¬∀ element ∈ elements, CleanElement element := by
  intro parser entries world arguments others options other sources results outcome outcomeOther
  have parsed : Options.parse arguments = .ok options := rfl
  have parsedOther : Options.parse others = .ok other := rfl
  have readable : readInput world.files world.stdin options.files = .ok sources := by
    decide +kernel
  have writable : Writable world options := by
    intro path asked
    cases asked
    have free : (world.files.writeText "out" "").toOption.isSome = true := by
      decide +kernel
    cases done : world.files.writeText "out" "" with
    | ok written => exact ⟨"", written, done⟩
    | error cause => simp [done, Except.toOption] at free
  have numbered : ∀ result ∈ results, result.Numbered := by
    intro result member report made
    rcases List.mem_pair.mp member with rfl | rfl <;> cases made
    exact List.forall_mem_singleton.mpr (by decide)
  have failed : hasFailures results = true := by decide +kernel
  obtain ⟨-, -, json, delivered, same⟩ := verdicts_agree
  obtain ⟨status, stdout, written, -⟩ :=
    delivered parser (fun _ => "") world arguments options sources parsed readable writable
  obtain ⟨-, -, writtenOther, -⟩ :=
    delivered parser (fun _ => "") world others other sources parsedOther readable writable
  have statusOther := same parser (fun _ => "") world arguments others options other sources parsed
    parsedOther rfl readable writable
  obtain ⟨elements, read, length, clean⟩ := (json true results).2.2 numbered
  have unclean : ¬∀ element ∈ elements, CleanElement element := by
    rw [← clean, failed]
    exact Bool.noConfusion
  have found : outcome.status = statusFailure := status
  refine ⟨parsed, parsedOther, readable, writable, numbered, found, statusOther.trans found, ?_,
    _, elements, writtenOther, read, length, unclean⟩
  rw [written]
  decide +kernel

end QueryLint.Cli
