import QueryLint.Report
import QueryLint.Request

/-!
Configurations, requests and reports in JSON. What is written reads back as what it was written
from: a field that is left out is one whose absence reads as the value left out. So a document that
has been read and written once no longer changes, whichever of the accepted forms it came in.

Statement numbers are held in 64 bits. A number that was read always is, so the bound is needed only
for reports that come from elsewhere.
-/

namespace QueryLint

namespace Json

/-- The names of the fields that a value has; only an object has any. -/
def fieldNames : Json → List String
  | .object fields => fields.map (·.1)
  | _ => []

section Reading

variable {α β : Type} {decode : Json → Except DecodeError α}

/-- What a sequence of steps gives in the end was given by each of them on the way. -/
theorem exists_of_bind_ok {first : Except DecodeError α} {next : α → Except DecodeError β}
    {result : β} (read : (first >>= next) = .ok result) :
    ∃ value, first = .ok value ∧ next value = .ok result := by
  cases first with
  | error error => cases read
  | ok value => exact ⟨value, rfl, read⟩

theorem exists_of_required_ok {given : List (String × Json)} {name : String} {result : α}
    (read : required given name decode = .ok result) : ∃ value, decode value = .ok result := by
  rw [required] at read
  split at read
  next value found => exact ⟨value, read⟩
  next absent => cases read

theorem exists_of_mem_mapM {items : List Json} {values : List α}
    (read : items.mapM decode = .ok values) (value : α) (member : value ∈ values) :
    ∃ item, decode item = .ok value := by
  induction items generalizing values with
  | nil =>
    cases read
    cases member
  | cons item rest ih =>
    rw [List.mapM_cons] at read
    obtain ⟨first, here, read⟩ := exists_of_bind_ok read
    obtain ⟨others, there, read⟩ := exists_of_bind_ok read
    cases read
    rcases List.mem_cons.mp member with rfl | later
    · exact ⟨item, here⟩
    · exact ih there later

theorem exists_of_mem_decodeList {list : Json} {values : List α}
    (read : decodeList decode list = .ok values) (value : α) (member : value ∈ values) :
    ∃ item, decode item = .ok value := by
  cases list with
  | array items => exact exists_of_mem_mapM read value member
  | _ => cases read

theorem decodeList_map (encode : α → Json) (values : List α)
    (each : ∀ value ∈ values, decode (encode value) = .ok value) :
    decodeList decode (.array (values.map encode)) = .ok values := by
  rw [decodeList]
  induction values with
  | nil => rfl
  | cons value rest ih =>
    have others := ih fun other member => each other (List.mem_cons_of_mem _ member)
    rw [List.map_cons, List.mapM_cons, each value List.mem_cons_self, others]
    rfl

theorem decodeList_strings (values : List String) :
    decodeList decodeString (strings values) = .ok values :=
  decodeList_map .string values fun _ _ => rfl

theorem decodeIndex_nat (value : Nat) (small : value < wordBound) :
    decodeIndex (nat value) = .ok value := by
  have positive : ¬(value : Int) < 0 := by omega
  rw [nat, decodeIndex, if_neg positive, Int.toNat_natCast, if_pos small]

theorem lt_wordBound_of_decodeIndex {value : Json} {index : Nat}
    (read : decodeIndex value = .ok index) : index < wordBound := by
  unfold decodeIndex at read
  split at read
  next number =>
    split at read
    next negative => cases read
    next =>
      split at read
      next small =>
        cases read
        exact small
      next large => cases read
  next => cases read

/-- An object without faults that leaves out no required field is read as it stands. -/
theorem Shape.read_object (shape : Shape) (given : List (String × Json))
    (sound : shape.firstFault? given = none) (complete : shape.missing? given = none) :
    shape.read (.object given) = .ok given := by
  simp only [Shape.read, sound, complete]

end Reading

end Json

open Json

theorem Config.ofJson_toJson (config : Config) : ofJson config.toJson = .ok config := by
  obtain ⟨enabled, disabled⟩ := config
  cases disabled with
  | nil => rfl
  | cons code rest =>
    have codes := decodeList_strings (code :: rest)
    rw [toJson, ofJson, Shape.read_object]
    · simp [defaulted, List.lookup_cons, decodeBool, codes, bind, Except.bind, pure, Except.pure]
    · simp [Shape.firstFault?, shape, fault?, decodeBool, codes]
    · rfl

theorem Dialect.ofJson_toJson (dialect : Dialect) : ofJson dialect.toJson = .ok dialect := by
  rw [toJson, ofJson, decodeName, ofName?_name]

theorem Request.ofJson_toJson (request : Request) : ofJson request.toJson = .ok request := by
  obtain ⟨sql, dialect, sourceName, config⟩ := request
  have settings := config.ofJson_toJson
  have language := dialect.ofJson_toJson
  rw [toJson, ofJson, Shape.read_object]
  · cases sourceName <;>
      simp [required, defaulted, List.lookup_cons, decodeString, decodeOption, settings, language,
        bind, Except.bind, pure, Except.pure, Except.map]
  · cases sourceName <;>
      simp [Shape.firstFault?, shape, fault?, decodeString, decodeOption, settings, language,
        Except.map]
  · cases sourceName <;> rfl

theorem Finding.ofJson_toJson (finding : Finding) : ofJson finding.toJson = .ok finding := rfl

theorem StatementReport.ofJson_toJson (statement : StatementReport)
    (small : statement.index < wordBound) : ofJson statement.toJson = .ok statement := by
  obtain ⟨index, findings⟩ := statement
  have number := decodeIndex_nat index small
  have list := decodeList_map Finding.toJson findings fun finding _ => finding.ofJson_toJson
  rw [toJson, ofJson, Shape.read_object]
  · simp [required, List.lookup_cons, number, list, bind, Except.bind, pure, Except.pure]
  · simp [Shape.firstFault?, shape, fault?, number, list]
  · rfl

theorem StatementReport.index_lt_of_ofJson {value : Json} {statement : StatementReport}
    (read : ofJson value = .ok statement) : statement.index < wordBound := by
  obtain ⟨given, -, read⟩ := exists_of_bind_ok read
  obtain ⟨index, number, read⟩ := exists_of_bind_ok read
  obtain ⟨findings, -, read⟩ := exists_of_bind_ok read
  cases read
  obtain ⟨written, decoded⟩ := exists_of_required_ok number
  exact lt_wordBound_of_decodeIndex decoded

namespace Report

/-- The statement numbers are held in 64 bits. -/
def Numbered (report : Report) : Prop :=
  ∀ statement ∈ report.statements, statement.index < wordBound

theorem ofJson_toJson (report : Report) (numbered : report.Numbered) :
    ofJson report.toJson = .ok report := by
  obtain ⟨sourceName, statements⟩ := report
  have list := decodeList_map StatementReport.toJson statements fun statement member =>
    statement.ofJson_toJson (numbered statement member)
  rw [toJson, ofJson, Shape.read_object]
  · cases sourceName <;>
      simp [required, defaulted, List.lookup_cons, decodeString, decodeOption, list, bind,
        Except.bind, pure, Except.pure, Except.map]
  · cases sourceName <;>
      simp [Shape.firstFault?, shape, fault?, decodeString, decodeOption, list, Except.map]
  · cases sourceName <;> rfl

theorem numbered_of_ofJson {value : Json} {report : Report} (read : ofJson value = .ok report) :
    report.Numbered := by
  obtain ⟨given, -, read⟩ := exists_of_bind_ok read
  obtain ⟨sourceName, -, read⟩ := exists_of_bind_ok read
  obtain ⟨statements, list, read⟩ := exists_of_bind_ok read
  cases read
  intro statement member
  obtain ⟨written, decoded⟩ := exists_of_required_ok list
  obtain ⟨item, single⟩ := exists_of_mem_decodeList decoded statement member
  exact StatementReport.index_lt_of_ofJson single

end Report

/-- A configuration, a request and a report read back from what is written for them, and fields are
left out exactly where there is nothing to say. What was read from any document reads back from
what is written for it. -/
theorem ofJson_of_written :
    (∀ config : Config, Config.ofJson config.toJson = .ok config ∧
      ("disabledDetectors" ∈ config.toJson.fieldNames ↔ config.disabled ≠ [])) ∧
    (∀ request : Request, Request.ofJson request.toJson = .ok request ∧
      ("sourceName" ∈ request.toJson.fieldNames ↔ request.sourceName ≠ none)) ∧
    (∀ report : Report, report.Numbered → Report.ofJson report.toJson = .ok report ∧
      ("sourceName" ∈ report.toJson.fieldNames ↔ report.sourceName ≠ none)) ∧
    (∀ value config, Config.ofJson value = .ok config →
      Config.ofJson config.toJson = .ok config) ∧
    (∀ value request, Request.ofJson value = .ok request →
      Request.ofJson request.toJson = .ok request) ∧
    ∀ value report, Report.ofJson value = .ok report →
      Report.ofJson report.toJson = .ok report := by
  refine ⟨?_, ?_, ?_, ?_, ?_, ?_⟩
  · intro config
    refine ⟨config.ofJson_toJson, ?_⟩
    cases named : config.disabled <;> simp [Config.toJson, fieldNames, named]
  · intro request
    refine ⟨request.ofJson_toJson, ?_⟩
    cases named : request.sourceName <;> simp [Request.toJson, fieldNames, named]
  · intro report numbered
    refine ⟨report.ofJson_toJson numbered, ?_⟩
    cases named : report.sourceName <;> simp [Report.toJson, fieldNames, named]
  · intro value config _
    exact config.ofJson_toJson
  · intro value request _
    exact request.ofJson_toJson
  · intro value report read
    exact report.ofJson_toJson (Report.numbered_of_ofJson read)

/-- A report given as arrays with a null name, and with the greatest number there is. -/
theorem ofJson_of_written_arrays :
    let value : Json := .array [.null, .array [.array
      [.nat (wordBound - 1), .array [.array [.string "CODE", .string "text"]]], .array
      [.nat 1, .array []]]]
    let report : Report := ⟨none, [⟨wordBound - 1, [⟨"CODE", "text"⟩]⟩, ⟨1, []⟩]⟩
    Report.ofJson value = .ok report ∧ report.Numbered ∧
      Report.ofJson report.toJson = .ok report ∧ "sourceName" ∉ report.toJson.fieldNames := by
  intro value report
  have read : Report.ofJson value = .ok report := by rfl
  have numbered : report.Numbered := by
    rintro statement (_ | ⟨_, _ | ⟨_, ⟨⟩⟩⟩) <;> decide
  obtain ⟨-, -, whole, -, -, again⟩ := ofJson_of_written
  have absent := (whole report numbered).2
  exact ⟨read, numbered, again value report read, fun named => absent.mp named rfl⟩

end QueryLint
