import QueryLint.Proofs.Cli.Verdict
import QueryLint.Proofs.Detection.Selection
import QueryLint.Proofs.SharedCte.Totals
import QueryLint.Proofs.Text.LineBreak

/-!
The lines of the text output. Each result has a header line, a line for each finding or one for its
parse error, and a summary line comes last. A line is ended by a line break; whether it holds
another depends on the texts that it is made of. Of those, the message about a shared common table
expression repeats an alias as it stands, and an alias in quotes may hold line breaks.

Main statement: for results that were found by inspection, the output has one line break for each
line and one for each that is repeated from an alias. There is one line to a finding if no alias
holds one.
-/

namespace QueryLint

open Text (lineBreaks)

/-! ### Line breaks in messages -/

/-- The entries of the `WITH` clause of the query that a statement carries. -/
def Sql.Statement.entries (statement : Statement) : List Cte :=
  (statement.query?.bind (·.withClause)).getD []

namespace Rule.SharedCte

open Sql

theorem Notice.lineBreaks_text (notice : Notice) :
    lineBreaks notice.text = lineBreaks notice.name := by
  have spelt : notice.text = "CTE with multiple references: alias " ++ notice.name ++
      " is referenced " ++ Nat.repr notice.count ++ " times." := rfl
  have start : lineBreaks "CTE with multiple references: alias " = 0 := by decide
  have middle : lineBreaks " is referenced " = 0 := by decide
  have ending : lineBreaks " times." = 0 := by decide
  simp only [spelt, Text.lineBreaks_append, Text.lineBreaks_repr, start, middle, ending]
  omega

theorem declared_of_mem_queryNotices (query : Query) (ctes : List Cte)
    (declared : query.withClause = some ctes) (notice : Notice)
    (member : notice ∈ queryNotices query) : ∃ cte ∈ ctes, declaredName cte = notice.name := by
  rw [queryNotices_eq query ctes declared] at member
  apply List.mem_map.mp
  rcases List.mem_append.mp member with entry | table
  · obtain ⟨before, beginning, noticed⟩ := List.mem_flatMap.mp entry
    rw [noticesAfterEntry] at noticed
    split at noticed
    · have known := ((mem_noticesOf _ _ notice).mp noticed).1
      rw [mem_declaredNames] at known
      exact ((List.mem_inits before ctes).mp beginning).sublist.map declaredName |>.subset known
    · cases noticed
  · obtain ⟨visited, -, noticed⟩ := List.mem_flatMap.mp table
    rw [noticesAfterTable] at noticed
    split at noticed
    · have named := ((mem_noticesOf _ _ notice).mp noticed).1
      exact (mem_declaredNames ctes _).mp ((mem_named _ _ _).mp named).2
    · cases noticed

/-- A message repeats the line breaks of an alias that the statement declares. -/
theorem exists_entry_of_mem_messages (statement : Statement) (message : String)
    (member : message ∈ messages statement) :
    ∃ cte ∈ statement.entries, lineBreaks message = lineBreaks cte.name.value := by
  obtain ⟨notice, noticed, rfl⟩ := List.mem_map.mp member
  rw [notices] at noticed
  split at noticed
  next query carried =>
    cases declared : query.withClause with
    | none =>
      rw [queryNotices, declared] at noticed
      cases noticed
    | some ctes =>
      obtain ⟨cte, present, named⟩ :=
        declared_of_mem_queryNotices query ctes declared notice noticed
      have entries : statement.entries = ctes := by
        rw [Statement.entries, carried, Option.bind_some, declared, Option.getD_some]
      refine ⟨cte, entries ▸ present, ?_⟩
      rw [Notice.lineBreaks_text, ← named, declaredName, Text.lineBreaks_lowercase]
  next => cases noticed

end Rule.SharedCte

namespace Detector

theorem lineBreaks_code (detector : Detector) : lineBreaks detector.code = 0 := by
  cases detector <;> decide

/-- The messages of the other detectors are fixed and hold no line break. -/
theorem lineBreaks_of_mem_messages (detector : Detector) (other : detector ≠ .sharedCte)
    (statement : Sql.Statement) (message : String)
    (member : message ∈ detector.messages statement) : lineBreaks message = 0 := by
  cases detector with
  | sharedCte => exact absurd rfl other
  | regexpContains =>
    obtain ⟨node, -, made⟩ := List.mem_flatMap.mp member
    have spelt : message = Rule.RegexpContains.message := by
      unfold Rule.RegexpContains.nodeMessages at made
      split at made
      · split at made
        · exact List.mem_singleton.mp made
        · cases made
      · cases made
    rw [spelt]
    decide +kernel
  | inSubquery =>
    obtain ⟨node, -, made⟩ := List.mem_flatMap.mp member
    have spelt : message = Rule.InSubquery.message := by
      unfold Rule.InSubquery.nodeMessages at made
      split at made
      · exact List.eq_of_mem_replicate made
      · cases made
    rw [spelt]
    decide +kernel

end Detector

/-- The aliases that the statements of a request declare. -/
def declaredAliases (parser : Parser) (request : Request) : List String :=
  match parser request.dialect request.sql with
  | .ok statements => statements.flatMap fun statement => statement.entries.map (·.name.value)
  | .error _ => []

/-- A finding names its detector in one line, and a line break in its message is one of an alias. -/
theorem lineBreaks_of_analyze (parser : Parser) (request : Request) (report : Report)
    (made : analyze parser request = .ok report) (finding : Finding)
    (member : finding ∈ report.findings) :
    lineBreaks finding.detector = 0 ∧
      (0 < lineBreaks finding.message → finding.detector = Detector.sharedCte.code ∧
        ∃ name ∈ declaredAliases parser request,
          lineBreaks name = lineBreaks finding.message) := by
  cases parsed : parser request.dialect request.sql with
  | error failure =>
    rw [analyze_of_failed parser request failure parsed] at made
    cases made
  | ok statements =>
    rw [analyze_of_parsed parser request statements parsed] at made
    cases made
    obtain ⟨entry, reported, found⟩ := List.mem_flatMap.mp member
    obtain ⟨index, inside, rfl⟩ := List.mem_mapIdx.mp reported
    obtain ⟨detector, -, finds⟩ := List.mem_flatMap.mp found
    obtain ⟨message, emitted, rfl⟩ := List.mem_map.mp finds
    refine ⟨detector.lineBreaks_code, ?_⟩
    intro broken
    by_cases shared : detector = .sharedCte
    · subst shared
      obtain ⟨cte, declared, same⟩ :=
        Rule.SharedCte.exists_entry_of_mem_messages statements[index] message emitted
      refine ⟨rfl, cte.name.value, ?_, same.symm⟩
      rw [declaredAliases, parsed]
      exact List.mem_flatMap.mpr ⟨_, List.getElem_mem inside, List.mem_map_of_mem declared⟩
    · have plain := detector.lineBreaks_of_mem_messages shared _ message emitted
      simp only [plain] at broken
      omega

namespace Cli

/-! ### Lines and what they are made of -/

theorem lineBreaks_padded (value : Nat) : lineBreaks (padded value) = 0 := by
  rw [lineBreaks, padded, String.toList_ofList, List.count_append, Text.count_lineBreak_toDigits,
    List.count_replicate]
  rfl

theorem lineBreaks_counted (count : Nat) (noun : String) :
    lineBreaks (counted count noun) = lineBreaks noun := by
  have digits : lineBreaks (toString count) = 0 := Text.lineBreaks_repr count
  have space : lineBreaks " " = 0 := by decide
  have ending : lineBreaks (if count = 1 then "" else "s") = 0 := by split <;> decide
  rw [counted, Text.lineBreaks_append, Text.lineBreaks_append, Text.lineBreaks_append, digits,
    space, ending]
  omega

theorem lineBreaks_summaryLine (results : List FileResult) :
    lineBreaks (summaryLine results) = 1 := by
  have comma : lineBreaks ", " = 0 := by decide
  have files : lineBreaks "file" = 0 := by decide
  have findings : lineBreaks "finding" = 0 := by decide
  have failures : lineBreaks "parse error" = 0 := by decide
  have errors : lineBreaks (if 0 < results.countP FileResult.isError
      then ", " ++ counted (results.countP FileResult.isError) "parse error" else "") = 0 := by
    split
    · rw [Text.lineBreaks_append, lineBreaks_counted, comma, failures]
    · rfl
  simp only [summaryLine, Text.lineBreaks_append, lineBreaks_counted, comma, files, findings,
    errors]
  rfl

theorem lineBreaks_headerLine (result : FileResult) :
    lineBreaks (headerLine false result) = lineBreaks result.name + 1 := by
  have opening : lineBreaks "== [" = 0 := by decide
  have closing : lineBreaks "] " = 0 := by decide
  have status : lineBreaks (result.status.text false) = 0 := by cases result.status <;> decide
  have ending : lineBreaks "\n" = 1 := by decide
  simp only [headerLine, Text.lineBreaks_append, opening, closing, status, ending]
  omega

theorem lineBreaks_findingLine (index : Nat) (finding : Finding) :
    lineBreaks (findingLine false index finding) =
      lineBreaks finding.detector + lineBreaks finding.message + 1 := by
  have opening : lineBreaks "S:" = 0 := by decide
  have bar : lineBreaks " | " = 0 := by decide
  have code : paint false .yellow finding.detector = finding.detector := rfl
  have ending : lineBreaks "\n" = 1 := by decide
  simp only [findingLine, Text.lineBreaks_append, lineBreaks_padded, opening, bar, code, ending]
  omega

theorem lineBreaks_reportLines (report : Report) :
    (reportLines false report).map lineBreaks =
      report.findings.map fun finding =>
        lineBreaks finding.detector + lineBreaks finding.message + 1 := by
  rw [reportLines, Report.findings, List.map_flatMap, List.map_flatMap]
  apply List.flatMap_congr
  intro statement _
  rw [List.map_map]
  apply List.map_congr_left
  intro finding _
  rw [Function.comp_apply, lineBreaks_findingLine]

/-- The line breaks that the messages of some findings hold. -/
def messageBreaks (findings : List Finding) : Nat :=
  (findings.map fun finding => lineBreaks finding.message).sum

theorem sum_of_plain_detectors (findings : List Finding)
    (plain : ∀ finding ∈ findings, lineBreaks finding.detector = 0) :
    (findings.map fun finding =>
      lineBreaks finding.detector + lineBreaks finding.message + 1).sum =
        findings.length + messageBreaks findings := by
  induction findings with
  | nil => rfl
  | cons finding rest ih =>
    have first := plain finding List.mem_cons_self
    have others := ih fun other member => plain other (List.mem_cons_of_mem _ member)
    simp only [messageBreaks, List.map_cons, List.sum_cons, List.length_cons] at others ⊢
    omega

theorem messageBreaks_eq_zero_iff (findings : List Finding) :
    messageBreaks findings = 0 ↔ ∀ finding ∈ findings, lineBreaks finding.message = 0 := by
  rw [messageBreaks, List.sum_eq_zero_iff]
  simp only [List.mem_map, forall_exists_index, and_imp, forall_apply_eq_imp_iff₂]

/-- A section has a header line and a line for each finding or for the error. -/
theorem length_sectionLines (result : FileResult) :
    (sectionLines false result).length =
      1 + result.findings.length + if result.isError then 1 else 0 := by
  obtain ⟨name, outcome⟩ := result
  cases outcome with
  | error message => rfl
  | ok report =>
    simp only [sectionLines, List.length_cons, length_reportLines, FileResult.findings,
      FileResult.isError, Bool.false_eq_true, if_false]
    omega

theorem length_sections (results : List FileResult) :
    (results.flatMap (sectionLines false)).length =
      results.length + (results.flatMap FileResult.findings).length +
        results.countP FileResult.isError := by
  induction results with
  | nil => rfl
  | cons result rest ih =>
    simp only [List.flatMap_cons, List.length_append, List.length_cons, List.countP_cons, ih,
      length_sectionLines]
    omega

/-- Texts without line breaks leave a section with one for each line, beside those of messages. -/
theorem lineBreaks_section (result : FileResult) (name : lineBreaks result.name = 0)
    (error : ∀ text, result.outcome = .error text → lineBreaks text = 0)
    (plain : ∀ finding ∈ result.findings, lineBreaks finding.detector = 0) :
    lineBreaks (String.join (sectionLines false result)) =
      (sectionLines false result).length + messageBreaks result.findings := by
  have header := lineBreaks_headerLine result
  rw [length_sectionLines, Text.lineBreaks_join, sectionLines, List.map_cons, List.sum_cons, header,
    name]
  obtain ⟨title, outcome⟩ := result
  cases outcome with
  | error text =>
    have ending : lineBreaks "\n" = 1 := by decide
    simp only [List.map_cons, List.map_nil, List.sum_cons, List.sum_nil, Text.lineBreaks_append,
      error text rfl, ending]
    rfl
  | ok report =>
    simp only [FileResult.findings, FileResult.isError] at plain ⊢
    rw [lineBreaks_reportLines, sum_of_plain_detectors report.findings plain]
    simp only [Bool.false_eq_true, if_false]
    omega

theorem lineBreaks_sections (results : List FileResult)
    (each : ∀ result ∈ results, lineBreaks (String.join (sectionLines false result)) =
      (sectionLines false result).length + messageBreaks result.findings) :
    lineBreaks (String.join (results.flatMap (sectionLines false))) =
      (results.flatMap (sectionLines false)).length +
        messageBreaks (results.flatMap FileResult.findings) := by
  induction results with
  | nil => rfl
  | cons result rest ih =>
    have first := each result List.mem_cons_self
    have others := ih fun other member => each other (List.mem_cons_of_mem _ member)
    have added : messageBreaks (result.findings ++ rest.flatMap FileResult.findings) =
        messageBreaks result.findings + messageBreaks (rest.flatMap FileResult.findings) := by
      rw [messageBreaks, List.map_append, List.sum_append]
      rfl
    rw [List.flatMap_cons, List.flatMap_cons, String.join_append, Text.lineBreaks_append, first,
      others, List.length_append, added]
    omega

theorem ends_of_mem_sectionLines (result : FileResult) (line : String)
    (member : line ∈ sectionLines false result) : ∃ body, line = body ++ "\n" := by
  rcases List.mem_cons.mp member with rfl | below
  · exact ⟨_, rfl⟩
  · cases outcome : result.outcome with
    | error text =>
      simp only [outcome, List.mem_singleton] at below
      exact ⟨text, below⟩
    | ok report =>
      simp only [outcome] at below
      obtain ⟨statement, -, written⟩ := List.mem_flatMap.mp below
      obtain ⟨finding, -, rfl⟩ := List.mem_map.mp written
      exact ⟨_, rfl⟩

theorem ends_of_mem_lines (results : List FileResult) (line : String)
    (member : line ∈ results.flatMap (sectionLines false) ++ [summaryLine results]) :
    ∃ body, line = body ++ "\n" := by
  rcases List.mem_append.mp member with inner | last
  · obtain ⟨result, -, written⟩ := List.mem_flatMap.mp inner
    exact ends_of_mem_sectionLines result line written
  · rw [List.mem_singleton.mp last]
    exact ⟨_, rfl⟩

/-- The whole text has one line break for each line, beside those of messages. -/
theorem lineBreaks_output (results : List FileResult)
    (each : ∀ result ∈ results, lineBreaks (String.join (sectionLines false result)) =
      (sectionLines false result).length + messageBreaks result.findings) :
    lineBreaks (formatText false results) =
      results.length + (results.flatMap FileResult.findings).length +
        results.countP FileResult.isError + 1 +
          messageBreaks (results.flatMap FileResult.findings) := by
  rw [formatText, String.join_append, Text.lineBreaks_append, lineBreaks_sections results each,
    String.join_cons, String.join_nil, String.append_empty, lineBreaks_summaryLine,
    length_sections]
  omega

theorem lineBreaks_of_mem_findings (parser : Parser) (request : Request) (result : FileResult)
    (made : ∀ report, result.outcome = .ok report → analyze parser request = .ok report)
    (finding : Finding) (found : finding ∈ result.findings) :
    lineBreaks finding.detector = 0 ∧
      (0 < lineBreaks finding.message → finding.detector = Detector.sharedCte.code ∧
        ∃ name ∈ declaredAliases parser request,
          lineBreaks name = lineBreaks finding.message) := by
  obtain ⟨title, outcome⟩ := result
  cases outcome with
  | ok report => exact lineBreaks_of_analyze parser request report (made report rfl) finding found
  | error text => cases found

/-- The text about results of inspection, with names and error texts of one line, is one line for
each result, for each finding and for each parse error, and a summary line. It has as many line
breaks as lines, and beside these only those that messages repeat from aliases: none if no alias
holds one. -/
theorem lineBreaks_formatText (parser : Parser) (request : FileResult → Request)
    (results : List FileResult)
    (made : ∀ result ∈ results, ∀ report, result.outcome = .ok report →
      analyze parser (request result) = .ok report)
    (names : ∀ result ∈ results, lineBreaks result.name = 0)
    (errors : ∀ result ∈ results, ∀ text, result.outcome = .error text → lineBreaks text = 0) :
    let findings := results.flatMap FileResult.findings
    let lines := results.flatMap (sectionLines false) ++ [summaryLine results]
    let count := results.length + findings.length + results.countP FileResult.isError + 1
    formatText false results = String.join lines ∧ lines.length = count ∧
      (∀ line ∈ lines, ∃ body, line = body ++ "\n") ∧
      lineBreaks (formatText false results) = count + messageBreaks findings ∧
      (∀ result ∈ results, ∀ finding ∈ result.findings, 0 < lineBreaks finding.message →
        finding.detector = Detector.sharedCte.code ∧
          ∃ name ∈ declaredAliases parser (request result),
            lineBreaks name = lineBreaks finding.message) ∧
      ((∀ result ∈ results, ∀ name ∈ declaredAliases parser (request result),
          lineBreaks name = 0) →
        lineBreaks (formatText false results) = count) := by
  intro findings lines count
  have traced (result : FileResult) (member : result ∈ results) :=
    lineBreaks_of_mem_findings parser (request result) result (made result member)
  have length : lines.length = count := by
    rw [List.length_append, length_sections, List.length_singleton]
  have total : lineBreaks (formatText false results) = count + messageBreaks findings :=
    lineBreaks_output results fun result member =>
      lineBreaks_section result (names result member) (errors result member)
        fun finding found => (traced result member finding found).1
  refine ⟨rfl, length, ends_of_mem_lines results, total, fun result member finding found =>
    (traced result member finding found).2, ?_⟩
  intro plain
  have silent : messageBreaks findings = 0 := by
    rw [messageBreaks_eq_zero_iff]
    intro finding held
    obtain ⟨result, member, found⟩ := List.mem_flatMap.mp held
    -- A line break in the message would be one of an alias, and no alias holds one.
    by_contra broken
    obtain ⟨-, name, declared, same⟩ :=
      (traced result member finding found).2 (Nat.pos_of_ne_zero broken)
    rw [← same] at broken
    exact broken (plain result member name declared)
  rw [total, silent, Nat.add_zero]

/-- A text with findings of every detector beside one that could not be parsed. -/
theorem lineBreaks_formatText_found :
    let shared : Sql.Statement := .query
      { Rule.SharedCte.readingFrom ["c", "a"] with withClause := some Rule.SharedCte.chained }
    let parser : Parser := fun _ _ => .ok [shared, flaggedTwice]
    let report : Report := ⟨none, statementReports {} [shared, flaggedTwice]⟩
    let results : List FileResult := [⟨"a.sql", .ok report⟩, ⟨"b.sql", .error "Parse error"⟩]
    analyze parser { sql := "WITH" } = .ok report ∧
      declaredAliases parser { sql := "WITH" } = ["a", "b", "C"] ∧
      (results.flatMap FileResult.findings).length = 4 ∧
      lineBreaks (formatText false results) = 2 + 4 + 1 + 1 := by
  intro shared parser report results
  have parsed : analyze parser { sql := "WITH" } = .ok report :=
    analyze_of_parsed parser { sql := "WITH" } _ rfl
  have aliases : declaredAliases parser { sql := "WITH" } = ["a", "b", "C"] := rfl
  have four : (results.flatMap FileResult.findings).length = 4 := by decide +kernel
  have either (result : FileResult) (member : result ∈ results) :
      result = ⟨"a.sql", .ok report⟩ ∨ result = ⟨"b.sql", .error "Parse error"⟩ := by
    simpa only [results, List.mem_cons, List.not_mem_nil, or_false] using member
  have made (result : FileResult) (member : result ∈ results) (found : Report)
      (outcome : result.outcome = .ok found) : analyze parser { sql := "WITH" } = .ok found := by
    rcases either result member with rfl | rfl <;> cases outcome
    exact parsed
  have errors (result : FileResult) (member : result ∈ results) (text : String)
      (outcome : result.outcome = .error text) : lineBreaks text = 0 := by
    rcases either result member with rfl | rfl <;> cases outcome
    decide
  have names (result : FileResult) (member : result ∈ results) : lineBreaks result.name = 0 := by
    rcases either result member with rfl | rfl <;> decide
  obtain ⟨-, -, -, -, -, single⟩ :=
    lineBreaks_formatText parser (fun _ => { sql := "WITH" }) results made names errors
  have counted := single (by
    intro result _ name declared
    rw [aliases] at declared
    rcases declared with _ | ⟨_, _ | ⟨_, _ | ⟨_, ⟨⟩⟩⟩⟩ <;> decide)
  rw [four] at counted
  exact ⟨parsed, aliases, four, counted⟩

/-- An alias in quotes that holds a line break, and a query that reads it twice. -/
def readingBrokenAlias : Sql.Query :=
  let name : Sql.Ident := ⟨"a\nb", some '`', ⟨1, 6, 2, 3⟩⟩
  ⟨some [⟨name, Rule.SharedCte.readingFrom ["t"]⟩],
    .select ⟨.absent, [], [⟨.table [.ident name] [], []⟩, ⟨.table [.ident name] [], []⟩], none,
      .keys [], none, none, []⟩, [], []⟩

/-- The only finding takes two lines, so there are four line breaks in the place of three. -/
theorem lineBreaks_broken_alias :
    let parser : Parser := fun _ _ => .ok [.query readingBrokenAlias]
    let result := inspect parser {} ⟨"q.sql", "WITH"⟩
    lineBreaks result.name = 0 ∧ result.isError = false ∧ result.findings.length = 1 ∧
      formatText false [result] =
        "== [q.sql] FAIL\nS:  0 | CTE_MULTIPLE_REFERENCES | " ++
          "CTE with multiple references: alias a\nb is referenced 2 times.\n" ++
          "1 file, 1 finding\n" ∧
      lineBreaks (formatText false [result]) = 4 := by
  decide +kernel

end Cli

end QueryLint
