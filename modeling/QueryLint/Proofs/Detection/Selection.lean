import QueryLint.Analysis

/-!
What a configuration does to a report. The detectors inspect a statement apart from one another, so
a configuration takes findings out of the report that the default configuration gives and does
nothing else: no statement is left out, and no finding changes or moves. Which findings stay depends
on the detectors whose codes are listed, not on how the codes are spelt, ordered or repeated.
-/

namespace QueryLint

/-- The report on a statement without the findings of detectors that may not run. -/
def StatementReport.keeping (config : Config) (statement : StatementReport) : StatementReport :=
  { statement with
    findings := statement.findings.filter fun finding => config.isEnabled finding.detector }

/-- The report without the findings of detectors that may not run; every statement stays. -/
def Report.keeping (config : Config) (report : Report) : Report :=
  { report with statements := report.statements.map (·.keeping config) }

namespace Detector

theorem detector_of_mem_findings (detector : Detector) (statement : Sql.Statement)
    (finding : Finding) (member : finding ∈ detector.findings statement) :
    finding.detector = detector.code := by
  obtain ⟨message, -, made⟩ := List.mem_map.mp member
  rw [← made]

/-- The findings of one detector stay or go together. -/
theorem filter_findings (config : Config) (detector : Detector) (statement : Sql.Statement) :
    ((detector.findings statement).filter fun finding => config.isEnabled finding.detector) =
      if config.isEnabled detector.code then detector.findings statement else [] := by
  split
  next running =>
    apply List.filter_eq_self.mpr
    intro finding member
    rw [detector_of_mem_findings detector statement finding member, running]
  next stopped =>
    apply List.filter_eq_nil_iff.mpr
    intro finding member
    rw [detector_of_mem_findings detector statement finding member]
    exact stopped

theorem flatMap_filter_findings (config : Config) (statement : Sql.Statement)
    (detectors : List Detector) :
    (detectors.filter fun detector => config.isEnabled detector.code).flatMap
        (·.findings statement) =
      (detectors.flatMap (·.findings statement)).filter fun finding =>
        config.isEnabled finding.detector := by
  induction detectors with
  | nil => rfl
  | cons detector rest ih =>
    rw [List.flatMap_cons, List.filter_append, filter_findings, ← ih]
    by_cases running : config.isEnabled detector.code = true
    · simp only [List.filter_cons, if_pos running, List.flatMap_cons]
    · simp only [List.filter_cons, if_neg running, List.nil_append]

end Detector

theorem Text.eqIgnoringAsciiCase_iff (left right : String) :
    eqIgnoringAsciiCase left right = true ↔
      left.toList.map Char.toLower = right.toList.map Char.toLower := beq_iff_eq

namespace Config

/-- By default all detectors run. -/
theorem findings_default (statement : Sql.Statement) :
    ({} : Config).findings statement = Detector.all.flatMap (·.findings statement) := rfl

theorem findings_eq_filter (config : Config) (statement : Sql.Statement) :
    config.findings statement =
      (({} : Config).findings statement).filter fun finding =>
        config.isEnabled finding.detector := by
  rw [findings_default, findings, Detector.enabledBy, Detector.flatMap_filter_findings]

/-- Every listed code that some detector has is among the others too, in some spelling. -/
def Covers (listed others : List String) : Prop :=
  ∀ code ∈ listed, (∃ detector : Detector, Text.eqIgnoringAsciiCase code detector.code) →
    ∃ other ∈ others, Text.eqIgnoringAsciiCase code other

/-- Two configurations that list the codes of the same detectors. Order, repeats, the case of ASCII
letters and codes that no detector has make no difference. -/
structure SameSelection (first second : Config) : Prop where
  enabled : first.enabled = second.enabled
  forth : Covers first.disabled second.disabled
  back : Covers second.disabled first.disabled

/-- A detector that one list names is named by a list that covers it. -/
theorem Covers.any {listed others : List String} (covers : Covers listed others)
    (detector : Detector)
    (named : (listed.any fun code => Text.eqIgnoringAsciiCase code detector.code) = true) :
    (others.any fun code => Text.eqIgnoringAsciiCase code detector.code) = true := by
  obtain ⟨code, member, equal⟩ := List.any_eq_true.mp named
  obtain ⟨other, present, alike⟩ := covers code member ⟨detector, equal⟩
  rw [Text.eqIgnoringAsciiCase_iff] at equal alike
  have spelt : Text.eqIgnoringAsciiCase other detector.code = true :=
    (Text.eqIgnoringAsciiCase_iff _ _).mpr (alike.symm.trans equal)
  exact List.any_eq_true.mpr ⟨other, present, spelt⟩

theorem isEnabled_congr {first second : Config} (same : SameSelection first second)
    (detector : Detector) : first.isEnabled detector.code = second.isEnabled detector.code := by
  have named := Bool.eq_iff_iff.mpr
    ⟨same.forth.any detector, same.back.any detector⟩
  rw [isEnabled, isEnabled, same.enabled, named]

theorem enabledBy_congr {first second : Config} (same : SameSelection first second) :
    Detector.enabledBy first = Detector.enabledBy second := by
  rw [Detector.enabledBy, Detector.enabledBy]
  apply List.filter_congr
  intro detector _
  exact isEnabled_congr same detector

end Config

/-- Filtering a report is filtering what each statement gives: no statement goes, and none is
numbered anew. -/
theorem keeping_statementReports (config : Config) (statements : List Sql.Statement) :
    (statementReports {} statements).map (·.keeping config) =
      statementReports config statements := by
  apply List.ext_getElem?
  intro index
  simp only [statementReports, List.getElem?_map, List.getElem?_mapIdx, Option.map_map]
  congr 1
  funext statement
  rw [Config.findings_eq_filter config statement]
  rfl

theorem analyze_of_parsed (parser : Parser) (request : Request) (statements : List Sql.Statement)
    (parsed : parser request.dialect request.sql = .ok statements) :
    analyze parser request =
      .ok ⟨request.sourceName, statementReports request.config statements⟩ := by
  rw [analyze, Parser.parse, parsed]
  rfl

theorem analyze_of_failed (parser : Parser) (request : Request) (failure : ParserFailure)
    (failed : parser request.dialect request.sql = .error failure) :
    analyze parser request =
      .error ((ParseError.ofFailure failure).inDialect request.dialect) := by
  rw [analyze, Parser.parse, failed]
  rfl

/-- A configuration decides on a report only by the findings that it takes out. Where the text is
parsed, the report is that of the default configuration without the findings of detectors that may
not run, and its entries are those of the statements, in order, each made from its own statement;
where it is not, the error is the same. Configurations that list the same detectors give the same
answer. -/
theorem analyze_keeps_enabled (parser : Parser) (request : Request) (config : Config) :
    (∀ statements, parser request.dialect request.sql = .ok statements →
      ∃ whole report : Report,
        analyze parser { request with config := {} } = .ok whole ∧
        analyze parser { request with config } = .ok report ∧
        report = whole.keeping config ∧
        report.statements.length = statements.length ∧
        ∀ (index : Nat) (statement : Sql.Statement), statements[index]? = some statement →
          report.statements[index]? = some ⟨index, config.findings statement⟩) ∧
    (∀ failure, parser request.dialect request.sql = .error failure →
      ∃ error,
        analyze parser { request with config := {} } = .error error ∧
        analyze parser { request with config } = .error error) ∧
    ∀ other : Config, Config.SameSelection config other →
      analyze parser { request with config } = analyze parser { request with config := other } := by
  refine ⟨?_, ?_, ?_⟩
  · intro statements parsed
    refine ⟨_, _, analyze_of_parsed parser _ statements parsed,
      analyze_of_parsed parser _ statements parsed, ?_, ?_, ?_⟩
    · rw [Report.keeping]
      simp only [keeping_statementReports]
    · exact List.length_mapIdx
    · intro index statement found
      simp only [statementReports, List.getElem?_mapIdx, found, Option.map_some]
  · intro failure failed
    exact ⟨_, analyze_of_failed parser _ failure failed, analyze_of_failed parser _ failure failed⟩
  · intro other same
    have findings : config.findings = other.findings := by
      funext statement
      rw [Config.findings, Config.findings, Config.enabledBy_congr same]
    rw [analyze, analyze]
    simp only [statementReports, findings]

/-- A statement with a finding of each of two detectors. -/
def flaggedTwice : Sql.Statement :=
  .delete [] [] (some (.binary .operator
    (.call ⟨[.ident ⟨"REGEXP_CONTAINS", none, .empty⟩], .absent, .absent, none, [], .absent, []⟩)
    (.inSubquery (.atom "Identifier" [])
      ⟨none, .select ⟨.absent, [], [], none, .keys [], none, none, []⟩, [], []⟩))) []

/-- One detector is listed in small letters beside a code that no detector has. -/
theorem analyze_keeps_enabled_listed :
    let parser : Parser := fun _ sql => if sql = "" then .error .tooDeep else .ok [flaggedTwice]
    let config : Config := ⟨true, ["nothing", "naive_regexp_contains"]⟩
    let other : Config := ⟨true, ["NAIVE_REGEXP_CONTAINS", "Naive_Regexp_Contains"]⟩
    (∃ whole report : Report,
      analyze parser { sql := "DELETE" } = .ok whole ∧
      analyze parser { sql := "DELETE", config } = .ok report ∧ report = whole.keeping config ∧
      whole.findings.map (·.detector) =
        ["NAIVE_REGEXP_CONTAINS", "IN_SUBQUERY_WITHOUT_AGGREGATION"] ∧
      report.findings.map (·.detector) = ["IN_SUBQUERY_WITHOUT_AGGREGATION"]) ∧
    (∃ error, analyze parser { sql := "" } = .error error ∧
      analyze parser { sql := "", config } = .error error) ∧
    Config.SameSelection config other ∧
    analyze parser { sql := "DELETE", config } =
      analyze parser { sql := "DELETE", config := other } := by
  intro parser config other
  have same : Config.SameSelection config other := by
    refine ⟨rfl, ?_, ?_⟩
    · rintro code member ⟨detector, known⟩
      rcases member with _ | ⟨_, _ | ⟨_, ⟨⟩⟩⟩
      · cases detector <;> exact absurd known (by decide)
      · exact ⟨"NAIVE_REGEXP_CONTAINS", List.mem_cons_self, by decide⟩
    · rintro code member -
      refine ⟨"naive_regexp_contains", by decide, ?_⟩
      rcases member with _ | ⟨_, _ | ⟨_, ⟨⟩⟩⟩ <;> decide
  have parsed : parser .bigquery "DELETE" = .ok [flaggedTwice] := if_neg (by decide)
  obtain ⟨kept, -, alike⟩ := analyze_keeps_enabled parser { sql := "DELETE" } config
  obtain ⟨whole, report, all, some, filtered, -⟩ := kept [flaggedTwice] parsed
  have failed := (analyze_keeps_enabled parser { sql := "" } config).2.1 .tooDeep rfl
  refine ⟨⟨whole, report, all, some, filtered, ?_, ?_⟩, failed, same, alike other same⟩
  · cases (analyze_of_parsed parser { sql := "DELETE" } _ parsed).symm.trans all
    decide +kernel
  · cases (analyze_of_parsed parser { sql := "DELETE", config } _ parsed).symm.trans some
    decide +kernel

end QueryLint
