import Mathlib.Data.List.Perm.Basic
import QueryLint.Proofs.Keyed
import QueryLint.Report
import QueryLint.Request

/-!
The forms in which a record may be written. An object gives fields by name, in any order and beside
fields that are not known; an array gives them in the order of declaration, and leaves out only some
at its end. The two forms are read in different ways, each with its own rules for a field that is
missing.

The five records that are read are taken together. Each is a list of slots, and what a record reads
as is put together from what its slots hold. Main statement: an object is read just if what it gives
for the slots can be read and nothing required is missing, and a document in another form reads as
the same value, whichever forms the records inside it have.
-/

namespace QueryLint.Json

/-- The records that are read from JSON. -/
inductive Record
  | request
  | config
  | report
  | statement
  | finding

def Record.Value : Record → Type
  | request => Request
  | config => Config
  | report => Report
  | statement => StatementReport
  | finding => Finding

def Record.ofJson : (record : Record) → Json → Except DecodeError record.Value
  | request => Request.ofJson
  | config => Config.ofJson
  | report => Report.ofJson
  | statement => StatementReport.ofJson
  | finding => Finding.ofJson

def Record.shape : Record → Shape
  | request => Request.shape
  | config => Config.shape
  | report => Report.shape
  | statement => StatementReport.shape
  | finding => Finding.shape

/-- What a field may hold. -/
inductive Kind
  | text
  | flag
  | index
  | optionalText
  | dialect
  | list (item : Kind)
  | record (record : Record)

def Kind.Value : Kind → Type
  | text => String
  | flag => Bool
  | index => Nat
  | optionalText => Option String
  | dialect => Dialect
  | list item => List item.Value
  | record inner => inner.Value

def Kind.decode : (kind : Kind) → Json → Except DecodeError kind.Value
  | text => decodeString
  | flag => decodeBool
  | index => decodeIndex
  | optionalText => decodeOption decodeString
  | dialect => Dialect.ofJson
  | list item => decodeList item.decode
  | record inner => inner.ofJson

/-- A field of a record, with the value that it has when it is left out. Without one it is required.
-/
structure Slot where
  name : String
  kind : Kind
  default : Option kind.Value

namespace Slot

/-- What some fields give for a slot, if that can be read. -/
def held (slot : Slot) (given : List (String × Json)) : Option slot.kind.Value :=
  match given.lookup slot.name with
  | some value => (slot.kind.decode value).toOption
  | none => slot.default

def field (slot : Slot) : Field := ⟨slot.name, slot.default.isNone, fault? slot.kind.decode⟩

def sql : Slot := ⟨"sql", .text, none⟩

def dialect : Slot := ⟨"dialect", .dialect, some Dialect.bigquery⟩

def sourceName : Slot := ⟨"sourceName", .optionalText, some (none : Option String)⟩

def config : Slot := ⟨"config", .record .config, some ({} : Config)⟩

def enabled : Slot := ⟨"enabled", .flag, some true⟩

def disabled : Slot := ⟨"disabledDetectors", .list .text, some ([] : List String)⟩

def statements : Slot := ⟨"statements", .list (.record .statement), none⟩

def index : Slot := ⟨"statementIndex", .index, none⟩

def findings : Slot := ⟨"findings", .list (.record .finding), none⟩

def detector : Slot := ⟨"detector", .text, none⟩

def message : Slot := ⟨"message", .text, none⟩

end Slot

/-- The slots of a record, in the order of declaration. -/
def Record.slots : Record → List Slot
  | request => [.sql, .dialect, .sourceName, .config]
  | config => [.enabled, .disabled]
  | report => [.sourceName, .statements]
  | statement => [.index, .findings]
  | finding => [.detector, .message]

/-- A value for each of some slots. -/
inductive Filling : List Slot → Type
  | empty : Filling []
  | fill {slot : Slot} {rest : List Slot} (value : slot.kind.Value) (others : Filling rest) :
      Filling (slot :: rest)

/-- The values that some fields give for slots, if all of them can be read. -/
def gather : (slots : List Slot) → List (String × Json) → Option (Filling slots)
  | [], _ => some .empty
  | slot :: rest, given => (slot.held given).bind fun value => (gather rest given).map (.fill value)

/-- The record whose slots hold some values. -/
def Record.build : (record : Record) → Filling record.slots → record.Value
  | request, .fill sql (.fill language (.fill name (.fill settings .empty))) =>
    (⟨sql, language, name, settings⟩ : Request)
  | config, .fill enabled (.fill disabled .empty) => (⟨enabled, disabled⟩ : Config)
  | report, .fill name (.fill entries .empty) => (⟨name, entries⟩ : Report)
  | statement, .fill place (.fill found .empty) => (⟨place, found⟩ : StatementReport)
  | finding, .fill detector (.fill message .empty) => (⟨detector, message⟩ : Finding)

theorem Record.fields_shape (record : Record) :
    record.shape.fields = record.slots.map Slot.field := by
  cases record <;> rfl

theorem Record.nodup_names (record : Record) : (record.slots.map (·.name)).Nodup := by
  cases record <;> decide

/-! ### Reading without regard to the cause of a failure -/

section Reading

variable {α β : Type}

theorem toOption_eq_some_iff {result : Except DecodeError α} {value : α} :
    result.toOption = some value ↔ result = .ok value := by
  cases result <;> simp [Except.toOption]

theorem toOption_bind (first : Except DecodeError α) (next : α → Except DecodeError β) :
    (first >>= next).toOption = first.toOption.bind fun value => (next value).toOption := by
  cases first <;> rfl

theorem fault?_eq_none_iff (decode : Json → Except DecodeError α) (value : Json) :
    fault? decode value = none ↔ ∃ read, decode value = .ok read := by
  rw [fault?]
  cases decode value <;> simp

/-- Lists of values that are read alike one by one are read alike. -/
theorem toOption_mapM_congr (decode : Json → Except DecodeError α) (values others : List Json)
    (length : values.length = others.length)
    (each : ∀ (position : Nat) value other, values[position]? = some value →
      others[position]? = some other → (decode value).toOption = (decode other).toOption) :
    (values.mapM decode).toOption = (others.mapM decode).toOption := by
  induction values generalizing others with
  | nil =>
    cases others with
    | nil => rfl
    | cons other rest => cases length
  | cons value values ih =>
    cases others with
    | nil => cases length
    | cons other others =>
      have first := each 0 value other rfl rfl
      have rest := ih others (Nat.succ.inj length) fun position => each (position + 1)
      simp only [List.mapM_cons, toOption_bind, first, rest]

end Reading

/-! ### What a record reads as -/

namespace Slot

theorem toOption_required (slot : Slot) (given : List (String × Json))
    (needed : slot.default = none) :
    (required given slot.name slot.kind.decode).toOption = slot.held given := by
  rw [required, held]
  cases given.lookup slot.name with
  | some value => rfl
  | none => exact needed.symm

theorem toOption_defaulted (slot : Slot) (given : List (String × Json)) (value : slot.kind.Value)
    (spared : slot.default = some value) :
    (defaulted given slot.name slot.kind.decode value).toOption = slot.held given := by
  rw [defaulted, held]
  cases given.lookup slot.name with
  | some value => rfl
  | none => exact spared.symm

theorem held_of_lookup {slot : Slot} {given other : List (String × Json)}
    (same : given.lookup slot.name = other.lookup slot.name) :
    slot.held given = slot.held other := by
  rw [held, held, same]

end Slot

section Gather

variable {γ : Type} (given : List (String × Json))

theorem map_gather_cons (slot : Slot) (rest : List Slot) (next : Filling (slot :: rest) → γ) :
    (gather (slot :: rest) given).map next =
      (slot.held given).bind fun value => (gather rest given).map fun others =>
        next (.fill value others) := by
  rw [gather]
  cases slot.held given with
  | none => rfl
  | some value => exact Option.map_map _ _ _

theorem map_gather_pair (first second : Slot) (next : Filling [first, second] → γ) :
    (gather [first, second] given).map next =
      (first.held given).bind fun left => (second.held given).bind fun right =>
        some (next (.fill left (.fill right .empty))) := by
  simp only [map_gather_cons]
  rfl

theorem gather_congr (other : List (String × Json)) (slots : List Slot)
    (same : ∀ slot ∈ slots, slot.held given = slot.held other) :
    gather slots given = gather slots other := by
  induction slots with
  | nil => rfl
  | cons slot rest ih =>
    obtain ⟨first, others⟩ := List.forall_mem_cons.mp same
    rw [gather, gather, first, ih others]

theorem isSome_gather (slots : List Slot) :
    (gather slots given).isSome ↔ ∀ slot ∈ slots, (slot.held given).isSome := by
  induction slots with
  | nil => simp [gather]
  | cons slot rest ih =>
    rw [List.forall_mem_cons, ← ih, gather]
    cases slot.held given <;> simp

/-- What has been gathered tells what each slot held. -/
theorem held_of_gather (other : List (String × Json)) (slots : List Slot) (filling : Filling slots)
    (gathered : gather slots given = some filling) (again : gather slots other = some filling) :
    ∀ slot ∈ slots, slot.held given = slot.held other := by
  induction slots with
  | nil => simp
  | cons slot rest ih =>
    simp only [gather, Option.bind_eq_some_iff, Option.map_eq_some_iff] at gathered again
    obtain ⟨value, here, others, there, rfl⟩ := gathered
    obtain ⟨value', here', others', there', same⟩ := again
    cases same
    exact List.forall_mem_cons.mpr ⟨here.trans here'.symm, ih others there there'⟩

end Gather

namespace Record

/-- A record is read by checking its fields and then putting together what its slots hold. -/
theorem toOption_ofJson (record : Record) (value : Json) :
    (record.ofJson value).toOption =
      (record.shape.read value).toOption.bind fun given =>
        (gather record.slots given).map record.build := by
  cases record with
  | request =>
    have sql (given) : (required given "sql" decodeString).toOption = Slot.sql.held given :=
      Slot.sql.toOption_required given rfl
    have dialect (given) : (defaulted given "dialect" Dialect.ofJson .bigquery).toOption =
        Slot.dialect.held given := Slot.dialect.toOption_defaulted given _ rfl
    have name (given) : (defaulted given "sourceName" (decodeOption decodeString) none).toOption =
        Slot.sourceName.held given := Slot.sourceName.toOption_defaulted given _ rfl
    have config (given) : (defaulted given "config" Config.ofJson {}).toOption =
        Slot.config.held given := Slot.config.toOption_defaulted given _ rfl
    change (Request.ofJson value).toOption = _
    simp only [Request.ofJson, toOption_bind, sql, dialect, name, config]
    refine congrArg _ (funext fun given => Eq.symm ?_)
    refine (map_gather_cons given .sql _ (build request)).trans ?_
    refine congrArg _ (funext fun sql => ?_)
    refine (map_gather_cons given .dialect _ fun rest => build request (.fill sql rest)).trans ?_
    exact congrArg _ (funext fun dialect => map_gather_pair given .sourceName .config _)
  | config =>
    have enabled (given) : (defaulted given "enabled" decodeBool true).toOption =
        Slot.enabled.held given := Slot.enabled.toOption_defaulted given _ rfl
    have disabled (given) :
        (defaulted given "disabledDetectors" (decodeList decodeString) []).toOption =
          Slot.disabled.held given := Slot.disabled.toOption_defaulted given _ rfl
    change (Config.ofJson value).toOption = _
    simp only [Config.ofJson, toOption_bind, enabled, disabled]
    exact congrArg _ (funext fun given => (map_gather_pair given _ _ (build config)).symm)
  | report =>
    have name (given) : (defaulted given "sourceName" (decodeOption decodeString) none).toOption =
        Slot.sourceName.held given := Slot.sourceName.toOption_defaulted given _ rfl
    have statements (given) :
        (required given "statements" (decodeList StatementReport.ofJson)).toOption =
          Slot.statements.held given := Slot.statements.toOption_required given rfl
    change (Report.ofJson value).toOption = _
    simp only [Report.ofJson, toOption_bind, name, statements]
    exact congrArg _ (funext fun given => (map_gather_pair given _ _ (build report)).symm)
  | statement =>
    have index (given) : (required given "statementIndex" decodeIndex).toOption =
        Slot.index.held given := Slot.index.toOption_required given rfl
    have findings (given) : (required given "findings" (decodeList Finding.ofJson)).toOption =
        Slot.findings.held given := Slot.findings.toOption_required given rfl
    change (StatementReport.ofJson value).toOption = _
    simp only [StatementReport.ofJson, toOption_bind, index, findings]
    exact congrArg _ (funext fun given => (map_gather_pair given _ _ (build statement)).symm)
  | finding =>
    have detector (given) : (required given "detector" decodeString).toOption =
        Slot.detector.held given := Slot.detector.toOption_required given rfl
    have message (given) : (required given "message" decodeString).toOption =
        Slot.message.held given := Slot.message.toOption_required given rfl
    change (Finding.ofJson value).toOption = _
    simp only [Finding.ofJson, toOption_bind, detector, message]
    exact congrArg _ (funext fun given => (map_gather_pair given _ _ (build finding)).symm)

theorem build_injective (record : Record) : Function.Injective record.build := by
  intro filling other same
  cases record with
  | request =>
    obtain _ | ⟨sql, _ | ⟨dialect, _ | ⟨name, _ | ⟨config, _ | _⟩⟩⟩⟩ := filling
    obtain _ | ⟨sql', _ | ⟨dialect', _ | ⟨name', _ | ⟨config', _ | _⟩⟩⟩⟩ := other
    cases same
    rfl
  | _ =>
    obtain _ | ⟨first, _ | ⟨second, _ | _⟩⟩ := filling
    obtain _ | ⟨first', _ | ⟨second', _ | _⟩⟩ := other
    cases same
    rfl

/-- What is given for the slots can be read, and no slot that has to be filled is left out. -/
structure Readable (record : Record) (given : List (String × Json)) : Prop where
  sound : ∀ slot ∈ record.slots, ∀ value, (slot.name, value) ∈ given →
    ∃ read, slot.kind.decode value = .ok read
  complete : ∀ slot ∈ record.slots, slot.default = none → slot.name ∈ given.map (·.1)

theorem find?_field (record : Record) (slot : Slot) (member : slot ∈ record.slots) :
    record.shape.fields.find? (·.name == slot.name) = some slot.field := by
  rw [fields_shape, List.find?_map]
  have distinct := record.nodup_names
  generalize record.slots = slots at member distinct
  induction slots with
  | nil => cases member
  | cons first rest ih =>
    obtain ⟨fresh, distinctRest⟩ := List.nodup_cons.mp distinct
    rcases List.mem_cons.mp member with rfl | later
    · simp [Slot.field]
    · have different : first.name ≠ slot.name := fun same =>
        fresh (List.mem_map.mpr ⟨slot, later, same.symm⟩)
      rw [List.find?_cons_of_neg (by simpa [Slot.field] using different)]
      exact ih later distinctRest

theorem firstFault?_eq_none_iff (record : Record) (given : List (String × Json)) :
    record.shape.firstFault? given = none ↔
      ∀ slot ∈ record.slots, ∀ value, (slot.name, value) ∈ given →
        ∃ read, slot.kind.decode value = .ok read := by
  simp only [Shape.firstFault?, List.findSome?_eq_none_iff, Prod.forall]
  constructor
  · intro faultless slot member value held
    have fault := faultless slot.name value held
    rw [record.find?_field slot member, Option.bind_some] at fault
    exact (fault?_eq_none_iff _ _).mp fault
  · intro sound name value held
    cases found : record.shape.fields.find? (·.name == name) with
    | none => rfl
    | some field =>
      have listed := List.mem_of_find?_eq_some found
      have named : field.name = name := by simpa using List.find?_some found
      rw [fields_shape] at listed
      obtain ⟨slot, member, rfl⟩ := List.mem_map.mp listed
      subst named
      exact (fault?_eq_none_iff _ _).mpr (sound slot member value held)

theorem missing?_eq_none_iff (record : Record) (given : List (String × Json)) :
    record.shape.missing? given = none ↔
      ∀ slot ∈ record.slots, slot.default = none → slot.name ∈ given.map (·.1) := by
  rw [Shape.missing?, List.findIdx?_eq_none_iff, fields_shape, List.forall_mem_map]
  apply forall₂_congr
  intro slot _
  have absent : (given.lookup slot.name).isNone = true ↔ slot.name ∉ given.map (·.1) := by
    rw [Option.isNone_iff_eq_none, lookup_eq_none_iff_not_mem]
  rw [Slot.field, Bool.and_eq_false_iff, ← Bool.not_eq_true, ← Bool.not_eq_true,
    Option.isNone_iff_eq_none, absent, not_not]
  exact imp_iff_not_or.symm

theorem firstFault?_missing?_iff (record : Record) (given : List (String × Json)) :
    record.Readable given ↔
      record.shape.firstFault? given = none ∧ record.shape.missing? given = none := by
  rw [firstFault?_eq_none_iff, missing?_eq_none_iff]
  exact ⟨fun readable => ⟨readable.sound, readable.complete⟩, fun both => ⟨both.1, both.2⟩⟩

/-- Fields without repeats can be read just if every slot holds something. -/
theorem readable_iff_held (record : Record) (given : List (String × Json))
    (distinct : (given.map (·.1)).Nodup) :
    record.Readable given ↔ ∀ slot ∈ record.slots, (slot.held given).isSome := by
  constructor
  · intro readable slot member
    rw [Slot.held]
    cases found : given.lookup slot.name with
    | some value =>
      obtain ⟨read, decoded⟩ :=
        readable.sound slot member value ((lookup_eq_some_iff_mem distinct _ _).mp found)
      simp [decoded, Except.toOption]
    | none =>
      have absent := (lookup_eq_none_iff_not_mem _).mp found
      exact Option.isSome_iff_ne_none.mpr fun needed =>
        absent (readable.complete slot member needed)
  · intro held
    refine ⟨?_, ?_⟩
    · intro slot member value present
      have some := held slot member
      rw [Slot.held, (lookup_eq_some_iff_mem distinct _ _).mpr present] at some
      obtain ⟨read, decoded⟩ := Option.isSome_iff_exists.mp some
      exact ⟨read, toOption_eq_some_iff.mp decoded⟩
    · intro slot member needed
      by_contra absent
      have some := held slot member
      rw [Slot.held, (lookup_eq_none_iff_not_mem _).mpr absent] at some
      simp [needed] at some

/-- An object reads as the record that its fields make up. -/
theorem toOption_ofJson_object (record : Record) (given : List (String × Json))
    (distinct : (given.map (·.1)).Nodup) :
    (record.ofJson (.object given)).toOption = (gather record.slots given).map record.build := by
  rw [toOption_ofJson]
  -- The checks that come first refuse just those fields that do not fill every slot.
  by_cases readable : record.Readable given
  · obtain ⟨faultless, complete⟩ := (record.firstFault?_missing?_iff given).mp readable
    simp only [Shape.read, faultless, complete, Except.toOption, Option.bind_some]
  · have refused : (record.shape.read (.object given)).toOption = none := by
      rw [firstFault?_missing?_iff, not_and] at readable
      rw [Shape.read]
      cases faults : record.shape.firstFault? given with
      | some error => rfl
      | none =>
        cases missing : record.shape.missing? given with
        | some position => rfl
        | none => exact absurd missing (readable faults)
    have partly : gather record.slots given = none := by
      rw [readable_iff_held record given distinct, ← isSome_gather] at readable
      simpa using readable
    rw [refused, partly]
    rfl

theorem named_shape (record : Record) (values : List Json) :
    record.shape.named values = (record.slots.map (·.name)).zip values := by
  rw [Shape.named, fields_shape, List.map_map]
  rfl

/-- An array reads as the object that names its items, unless it has too many. -/
theorem toOption_ofJson_array (record : Record) (values : List Json)
    (short : values.length ≤ record.slots.length) :
    (record.ofJson (.array values)).toOption =
      (record.ofJson (.object (record.shape.named values))).toOption := by
  have fits : ¬record.shape.fields.length < values.length := by
    rw [fields_shape, List.length_map]
    omega
  rw [toOption_ofJson, toOption_ofJson]
  refine congrArg (Option.bind · _) ?_
  rw [Shape.read, Shape.read]
  cases record.shape.firstFault? (record.shape.named values) with
  | some error => rfl
  | none =>
    cases record.shape.missing? (record.shape.named values) with
    | some position => rfl
    | none => simp only [if_neg fits]

/-- Objects whose slots hold the same values read alike. -/
theorem toOption_ofJson_congr (record : Record) (given other : List (String × Json))
    (distinct : (given.map (·.1)).Nodup) (distinctOther : (other.map (·.1)).Nodup)
    (same : ∀ slot ∈ record.slots, slot.held given = slot.held other) :
    (record.ofJson (.object given)).toOption = (record.ofJson (.object other)).toOption := by
  rw [toOption_ofJson_object record given distinct,
    toOption_ofJson_object record other distinctOther, gather_congr given other record.slots same]

theorem exists_ofJson_object_iff (record : Record) (given : List (String × Json))
    (distinct : (given.map (·.1)).Nodup) :
    (∃ result, record.ofJson (.object given) = .ok result) ↔ record.Readable given := by
  rw [record.readable_iff_held given distinct, ← isSome_gather, ← Option.isSome_map,
    ← record.toOption_ofJson_object given distinct, Option.isSome_iff_exists]
  exact exists_congr fun result => toOption_eq_some_iff.symm

/-- The order of the fields has no part in what an object reads as. -/
theorem toOption_ofJson_perm (record : Record) (given other : List (String × Json))
    (distinct : (given.map (·.1)).Nodup) (permuted : given.Perm other) :
    (record.ofJson (.object given)).toOption = (record.ofJson (.object other)).toOption := by
  have distinctOther : (other.map (·.1)).Nodup := (permuted.map _).nodup_iff.mp distinct
  apply record.toOption_ofJson_congr given other distinct distinctOther
  intro slot _
  exact Slot.held_of_lookup (lookup_congr distinct distinctOther _ fun value => permuted.mem_iff)

/-- Fields that are not known have no part in what an object reads as. -/
theorem toOption_ofJson_unknown (record : Record) (given other : List (String × Json))
    (distinctOther : (other.map (·.1)).Nodup) (included : given.Sublist other)
    (unknown : ∀ field ∈ other, field ∈ given ∨ field.1 ∉ record.slots.map (·.name)) :
    (record.ofJson (.object given)).toOption = (record.ofJson (.object other)).toOption := by
  have distinct : (given.map (·.1)).Nodup := distinctOther.sublist (included.map _)
  apply record.toOption_ofJson_congr given other distinct distinctOther
  intro slot member
  apply Slot.held_of_lookup
  apply lookup_congr distinct distinctOther
  intro value
  refine ⟨fun held => included.subset held, fun held => ?_⟩
  exact (unknown _ held).resolve_right fun foreign => foreign (List.mem_map_of_mem member)

/-- What an object reads as tells what its slots hold. -/
theorem ofJson_object_eq_iff (record : Record) (given other : List (String × Json))
    (distinct : (given.map (·.1)).Nodup) (distinctOther : (other.map (·.1)).Nodup)
    {result result' : record.Value} (read : record.ofJson (.object given) = .ok result)
    (read' : record.ofJson (.object other) = .ok result') :
    result = result' ↔ ∀ slot ∈ record.slots, slot.held given = slot.held other := by
  have made := record.toOption_ofJson_object given distinct
  have made' := record.toOption_ofJson_object other distinctOther
  rw [read] at made
  rw [read'] at made'
  obtain ⟨filling, gathered, rfl⟩ := Option.map_eq_some_iff.mp made.symm
  obtain ⟨filling', gathered', rfl⟩ := Option.map_eq_some_iff.mp made'.symm
  constructor
  · intro equal
    cases record.build_injective equal
    exact held_of_gather given other record.slots filling gathered gathered'
  · intro same
    rw [gather_congr given other record.slots same, gathered'] at gathered
    cases gathered
    rfl

end Record

/-! ### Documents in another form -/

/-- The same value in another form. Lists are recast item by item. In an object the fields may stand
in another order, with others beside them that are not known, and each value in another form. An
array holds the values of an object's fields in the order of declaration, each in whatever form:
where the object leaves a field out, the array holds what reads as the default (`null` for a source
name), and fields at the end that have their default may be dropped. -/
inductive Recast : Kind → Json → Json → Prop
  | same (kind : Kind) (value : Json) : Recast kind value value
  | back {kind : Kind} {value other : Json} (recast : Recast kind value other) :
      Recast kind other value
  | chain {kind : Kind} {value middle other : Json} (first : Recast kind value middle)
      (second : Recast kind middle other) : Recast kind value other
  | items {item : Kind} {values others : List Json} (length : values.length = others.length)
      (each : ∀ (position : Nat) value other, values[position]? = some value →
        others[position]? = some other → Recast item value other) :
      Recast (.list item) (.array values) (.array others)
  | fields {record : Record} {given other : List (String × Json)}
      (distinct : (given.map (·.1)).Nodup) (distinctOther : (other.map (·.1)).Nodup)
      (absent : ∀ slot ∈ record.slots,
        (given.lookup slot.name = none ↔ other.lookup slot.name = none))
      (each : ∀ slot ∈ record.slots, ∀ value value', given.lookup slot.name = some value →
        other.lookup slot.name = some value' → Recast slot.kind value value') :
      Recast (.record record) (.object given) (.object other)
  | array {record : Record} {given : List (String × Json)} {values : List Json}
      (distinct : (given.map (·.1)).Nodup) (short : values.length ≤ record.slots.length)
      (kept : ∀ (position : Nat) slot value item, record.slots[position]? = some slot →
        given.lookup slot.name = some value → values[position]? = some item →
        Recast slot.kind value item)
      (filled : ∀ (position : Nat) slot item, record.slots[position]? = some slot →
        given.lookup slot.name = none → values[position]? = some item →
        ∃ default, slot.default = some default ∧ slot.kind.decode item = .ok default)
      (dropped : ∀ (position : Nat) slot, record.slots[position]? = some slot →
        values[position]? = none → slot.default ≠ none ∧ slot.held given = slot.default) :
      Recast (.record record) (.object given) (.array values)

namespace Recast

/-- A value that is recast is read alike. -/
theorem toOption_decode {kind : Kind} {value other : Json} (recast : Recast kind value other) :
    (kind.decode value).toOption = (kind.decode other).toOption := by
  induction recast with
  | same => rfl
  | back _ ih => exact ih.symm
  | chain _ _ first second => exact first.trans second
  | @items item values others length _ ih =>
    exact toOption_mapM_congr item.decode values others length ih
  | @fields record given other distinct distinctOther absent _ ih =>
    apply record.toOption_ofJson_congr given other distinct distinctOther
    intro slot member
    have missing := absent slot member
    have alike := ih slot member
    rw [Slot.held, Slot.held]
    cases here : given.lookup slot.name with
    | none => rw [missing.mp here]
    | some value =>
      cases there : other.lookup slot.name with
      | none => simp [here, there] at missing
      | some value' => exact alike value value' here there
  | @array record given values distinct short _ filled dropped ih =>
    -- The array reads as the object that names its items, and that is compared slot by slot.
    have named := record.nodup_names
    refine Eq.trans ?_ (record.toOption_ofJson_array values short).symm
    rw [record.named_shape]
    apply record.toOption_ofJson_congr given _ distinct (nodup_keys_zip named values)
    intro slot member
    obtain ⟨position, placed⟩ := List.mem_iff_getElem?.mp member
    have name : (record.slots.map (·.name))[position]? = some slot.name := by
      rw [List.getElem?_map, placed, Option.map_some]
    have found := lookup_zip named values position slot.name name
    cases item : values[position]? with
    | none =>
      rw [Slot.held.eq_def _ (List.zip _ _), found, item]
      exact (dropped position slot placed item).2
    | some written =>
      rw [Slot.held, Slot.held, found, item]
      cases here : given.lookup slot.name with
      | none =>
        obtain ⟨default, spared, read⟩ := filled position slot written placed here item
        simp only [spared, read, Except.toOption]
      | some value => exact ih position slot value written placed here item

end Recast

/-- An object without repeated fields is read just if what it gives for the slots can be read and
every slot without a default is given. Fields may be given in any order and beside others that are
not known, and the document may be recast, in particular as an array, without a change in what it
reads as. Two objects read as the same record just if all their slots hold the same values. -/
theorem ofJson_forms (record : Record) :
    (∀ given : List (String × Json), (given.map (·.1)).Nodup →
      ((∃ result, record.ofJson (.object given) = .ok result) ↔
        (∀ slot ∈ record.slots, ∀ value, (slot.name, value) ∈ given →
          ∃ read, slot.kind.decode value = .ok read) ∧
        ∀ slot ∈ record.slots, slot.default = none → slot.name ∈ given.map (·.1))) ∧
    (∀ given other : List (String × Json), (given.map (·.1)).Nodup → given.Perm other →
      ∀ result, record.ofJson (.object given) = .ok result ↔
        record.ofJson (.object other) = .ok result) ∧
    (∀ given other : List (String × Json), (other.map (·.1)).Nodup → given.Sublist other →
      (∀ field ∈ other, field ∈ given ∨ field.1 ∉ record.slots.map (·.name)) →
      ∀ result, record.ofJson (.object given) = .ok result ↔
        record.ofJson (.object other) = .ok result) ∧
    (∀ value other, Recast (.record record) value other →
      ∀ result, record.ofJson value = .ok result ↔ record.ofJson other = .ok result) ∧
    ∀ (given other : List (String × Json)) (result result' : record.Value),
      (given.map (·.1)).Nodup → (other.map (·.1)).Nodup →
      record.ofJson (.object given) = .ok result → record.ofJson (.object other) = .ok result' →
      (result = result' ↔ ∀ slot ∈ record.slots, slot.held given = slot.held other) := by
  have alike (value other : Json)
      (same : (record.ofJson value).toOption = (record.ofJson other).toOption)
      (result : record.Value) :
      record.ofJson value = .ok result ↔ record.ofJson other = .ok result := by
    rw [← toOption_eq_some_iff, ← toOption_eq_some_iff, same]
  refine ⟨?_, ?_, ?_, ?_, ?_⟩
  · intro given distinct
    rw [record.exists_ofJson_object_iff given distinct]
    exact ⟨fun readable => ⟨readable.sound, readable.complete⟩, fun both => ⟨both.1, both.2⟩⟩
  · intro given other distinct permuted
    exact alike _ _ (record.toOption_ofJson_perm given other distinct permuted)
  · intro given other distinct included unknown
    exact alike _ _ (record.toOption_ofJson_unknown given other distinct included unknown)
  · intro value other recast
    exact alike value other recast.toOption_decode
  · intro given other result result' distinct distinctOther read read'
    exact record.ofJson_object_eq_iff given other distinct distinctOther read read'

/-- A request given as an object, in another order beside a field that is not known, and as an array
that fills in what the object leaves out; with its settings as an object and as an array. -/
theorem ofJson_forms_request :
    let settings : Json := .object [("disabledDetectors", .array [.string "A"])]
    let request : Request := ⟨"SELECT 1", .bigquery, none, ⟨true, ["A"]⟩⟩
    Request.ofJson (.object [("config", settings), ("sql", .string "SELECT 1")]) = .ok request ∧
    Request.ofJson (.object [("sql", .string "SELECT 1"), ("config", settings)]) = .ok request ∧
    Request.ofJson (.object [("config", settings), ("note", .null), ("sql", .string "SELECT 1")]) =
      .ok request ∧
    Request.ofJson (.array [.string "SELECT 1", .string "bigquery", .null,
      .array [.bool true, .array [.string "A"]]]) = .ok request ∧
    ¬∃ result, Request.ofJson (.object [("config", settings)]) = .ok result := by
  intro settings request
  obtain ⟨decodes, permuted, unknown, recast, -⟩ := ofJson_forms .request
  have read : Request.ofJson (.object [("config", settings), ("sql", .string "SELECT 1")]) =
      .ok request := by rfl
  have inner : Recast (.record .config) settings (.array [.bool true, .array [.string "A"]]) := by
    refine .array (by decide) (by decide) ?_ ?_ ?_
    · rintro (_ | _ | position) slot value item ⟨⟩ ⟨⟩ ⟨⟩
      exact .same _ _
    · rintro (_ | _ | position) slot item ⟨⟩ absent ⟨⟩
      · exact ⟨true, rfl, rfl⟩
      · cases absent
    · rintro (_ | _ | position) slot ⟨⟩ ⟨⟩
  have outer : Recast (.record .request)
      (.object [("config", settings), ("sql", .string "SELECT 1")])
      (.array [.string "SELECT 1", .string "bigquery", .null,
        .array [.bool true, .array [.string "A"]]]) := by
    refine .array (by decide) (by decide) ?_ ?_ ?_
    · rintro (_ | _ | _ | _ | position) slot value item ⟨⟩ ⟨⟩ ⟨⟩
      · exact .same _ _
      · exact inner
    · rintro (_ | _ | _ | _ | position) slot item ⟨⟩ absent ⟨⟩
      · cases absent
      · exact ⟨Dialect.bigquery, rfl, rfl⟩
      · exact ⟨(none : Option String), rfl, rfl⟩
      · cases absent
    · rintro (_ | _ | _ | _ | position) slot ⟨⟩ ⟨⟩
  refine ⟨read, ?_, ?_, (recast _ _ outer request).mp read, ?_⟩
  · exact (permuted _ _ (by decide) (.swap _ _ []) request).mp read
  · refine (unknown _ _ (by decide) (.cons_cons _ (.cons _ (.refl _))) ?_ request).mp read
    rintro field (_ | ⟨_, _ | ⟨_, _ | ⟨_, ⟨⟩⟩⟩⟩)
    · exact .inl (.head _)
    · exact .inr (by decide)
    · exact .inl (.tail _ (.head _))
  · intro read
    have complete := ((decodes _ (by decide)).mp read).2 .sql (.head _) rfl
    exact absurd complete (by decide)

end QueryLint.Json
