/-
This file states that a look-up agrees with the full report of a scan: it shows the entries that the
report has under the name, or under the base, in the order and in the form of the report.
-/

import Outline.Proofs.Outcome
import Outline.Proofs.Report

namespace Outline

namespace Json

/-- The value that an object has for a key. -/
def field? (key : String) : Json → Option Json
  | object fields => fields.lookup key.toList
  | _ => none

/-- The items of the array that an object has for a key. -/
def entries (key : String) (value : Json) : List Json :=
  match value.field? key with
  | some (array items) => items
  | _ => []

def isText (text : Text) : Json → Bool
  | string other => other == text
  | _ => false

/-- An entry is named by the text in its name field. -/
def isNamed (name : Text) (entry : Json) : Bool := (entry.field? "name").any (isText name)

def hasBase (name : Text) (entry : Json) : Bool := (entry.entries "base_classes").any (isText name)

/-- A record has its fields under their keys. -/
theorem field?_record (key : String) (fields : List (String × Json)) :
    (record fields).field? key = fields.lookup key := by
  show (fields.map fun field => (field.1.toList, field.2)).lookup key.toList = fields.lookup key
  induction fields with
  | nil => rfl
  | cons field fields inductionHypothesis =>
      obtain ⟨other, value⟩ := field
      by_cases same : key = other
      · subst same
        simp
      · have keyDifferent : (key == other) = false := beq_eq_false_iff_ne.mpr same
        have textDifferent : (key.toList == other.toList) = false :=
          beq_eq_false_iff_ne.mpr fun equal => same (String.toList_injective equal)
        simpa [List.lookup_cons, keyDifferent, textDifferent] using inductionHypothesis

end Json

open Json

theorem FunctionEntry.isNamed_report (name : Text) (function : FunctionEntry) :
    isNamed name function.toJson.dropNulls = (function.name == name) := by
  rw [FunctionEntry.dropNulls_toJson, isNamed, field?_record]
  rfl

theorem ClassEntry.isNamed_report (name : Text) (entry : ClassEntry) :
    isNamed name entry.toJson.dropNulls = (entry.name == name) := by
  rw [ClassEntry.dropNulls_toJson, isNamed, field?_record]
  rfl

theorem ClassEntry.hasBase_report (name : Text) (entry : ClassEntry) :
    Json.hasBase name entry.toJson.dropNulls = ClassEntry.hasBase (some name) entry := by
  have bases : entry.toJson.dropNulls.entries "base_classes" = entry.bases.map Json.string := by
    rw [ClassEntry.dropNulls_toJson, entries, field?_record]
    rfl
  rw [Json.hasBase, bases, List.any_map, ClassEntry.hasBase]
  congr 1

/-- The first entry with a name is written as the first written entry with that name. -/
theorem find?_report {α : Type} {report : α → Json} {named : α → Bool} {name : Text}
    (same : ∀ entry, isNamed name (report entry) = named entry) (entries : List α) :
    (entries.map report).find? (isNamed name) = (entries.find? named).map report := by
  rw [List.find?_map]
  congr 2
  funext entry
  exact same entry

theorem ClassEntry.filter_report (name : Text) (classes : List ClassEntry) :
    (classes.map fun entry => entry.toJson.dropNulls).filter (Json.hasBase name) =
      (ClassEntry.withBase (some name) classes).map fun entry => entry.toJson.dropNulls := by
  rw [List.filter_map, ClassEntry.withBase]
  congr 2
  funext entry
  exact ClassEntry.hasBase_report name entry

namespace Command

/-- The settings under which a scan shows every kind of entry. -/
def fullSettings (hideSelf : Bool) : Settings := { hideSelf := hideSelf }

/-- The report of a scan that includes every kind of entry. -/
def fullReport (hideSelf : Bool) (summary : Summary) : Json :=
  scanReport (fullSettings hideSelf) ((fullSettings hideSelf).apply summary)

/-- The answer of a report to a name: its first function with the name, or else its first class. -/
def namedAnswer? (report : Json) (name : Text) : Option Json :=
  (((report.entries "functions").find? (isNamed name)).map fun entry => record [("function", entry)]).or
    (((report.entries "classes").find? (isNamed name)).map fun entry => record [("class", entry)])

/-- The answer of a report to a base: all its classes with the base, in the order of the report. -/
def heirsAnswer? (report : Json) (name : Text) : Option Json :=
  match (report.entries "classes").filter (Json.hasBase name) with
  | [] => none
  | heirs => some (array (heirs.map fun entry => record [("class", entry)]))

def reportAnswer? (report : Json) (name : Text) (base : Bool) : Option Json :=
  if base then heirsAnswer? report name else namedAnswer? report name

/-- A value is all that is printed, and can be told from what is printed. -/
def Output.Prints (output : Output) (value : Json) : Prop :=
  output.exitCode = 0 ∧ output.console = [] ∧ ∀ other : Json, output.stdout = line other.render ↔ other = value

/-- An answer is printed alone, and without an answer nothing is printed but a failure. -/
def Output.Shows (output : Output) : Option Json → Prop
  | some answer => output.Prints answer
  | none => output.exitCode = 1 ∧ output.console = [] ∧ output.stdout = []

theorem line_injective : Function.Injective line := fun _ _ same => List.append_cancel_right same

theorem prints_line (value : Json) (stderr : Text) :
    Output.Prints { stdout := line value.render, stderr := stderr } value := by
  refine ⟨rfl, rfl, fun other => ?_⟩
  rw [line_injective.eq_iff, render_injective.eq_iff, eq_comm]

section

variable (hideSelf : Bool) (summary : Summary)

theorem entries_functions_fullReport :
    (fullReport hideSelf summary).entries "functions" =
      ((fullSettings hideSelf).apply summary).functions.map fun entry => entry.toJson.dropNulls := by
  rw [entries, fullReport, scanReport, field?_record]
  rfl

theorem entries_classes_fullReport :
    (fullReport hideSelf summary).entries "classes" =
      ((fullSettings hideSelf).apply summary).classes.map fun entry => entry.toJson.dropNulls := by
  rw [entries, fullReport, scanReport, field?_record]
  rfl

theorem nameReport?_eq (name : Text) :
    nameReport? ((fullSettings hideSelf).apply summary) name =
      namedAnswer? (fullReport hideSelf summary) name := by
  rw [nameReport?, namedAnswer?, entries_functions_fullReport, entries_classes_fullReport,
    find?_report (FunctionEntry.isNamed_report name), find?_report (ClassEntry.isNamed_report name),
    Option.map_map, Option.map_map]
  rfl

theorem baseReport?_eq (name : Text) :
    baseReport? ((fullSettings hideSelf).apply summary) name =
      heirsAnswer? (fullReport hideSelf summary) name := by
  rw [baseReport?, heirsAnswer?, entries_classes_fullReport, ClassEntry.filter_report]
  cases ClassEntry.withBase (some name) ((fullSettings hideSelf).apply summary).classes with
  | nil => rfl
  | cons first later =>
      simp only [List.map_cons, List.map_map]
      rfl

/-- A look-up among the entries is a look-up in the full report. -/
theorem findReport?_eq (name : Text) (base : Bool) :
    findReport? ((fullSettings hideSelf).apply summary) name base =
      reportAnswer? (fullReport hideSelf summary) name base := by
  cases base with
  | false => exact nameReport?_eq hideSelf summary name
  | true => exact baseReport?_eq hideSelf summary name

end

/-- Only one setting matters to a look-up. -/
theorem findOutput_shows (file name : Text) (base : Bool) (settings : Settings) (summary : Summary)
    (stderr : Text) :
    Output.Shows { findOutput file name base settings summary with stderr := stderr }
      (reportAnswer? (fullReport settings.hideSelf summary) name base) := by
  rw [← findReport?_eq]
  change Output.Shows { (match findReport? ((fullSettings settings.hideSelf).apply summary) name base with
    | some report => { stdout := line report.render }
    | none => .failure 1 (absence file name base) : Output) with stderr := stderr } _
  cases findReport? ((fullSettings settings.hideSelf).apply summary) name base with
  | none => exact ⟨rfl, rfl, rfl⟩
  | some report => exact prints_line report stderr

/-- Notes change neither the exit code nor what is printed. -/
theorem exists_perform_outcome {host : Host} {request : Request} {output : Output}
    (answered : (answer host request).outcome = .ok output) (verbose : Bool) :
    ∃ stderr, (perform host ⟨request, verbose⟩).outcome = .ok { output with stderr := stderr } := by
  cases verbose with
  | false => exact ⟨output.stderr, answered⟩
  | true =>
      refine ⟨(answer host request).notes.flatMap noteLine ++ output.stderr, ?_⟩
      show (answer host request).outcome.map _ = _
      rw [answered]
      rfl

/-- A look-up in a file that can be scanned shows the answer of the full report, which is what the scan
of that file prints under settings that include everything and agree on the receiver. -/
theorem find_agrees_with_scan {host : Host} {loaded : Settings.Loaded} {summary : Summary} {file : Text}
    (loads : Settings.load host host.current = .ok loaded)
    (scans : SourceFile.summary host host.current file = .ok summary) (name : Text) (base verbose : Bool) :
    let report := fullReport loaded.settings.hideSelf summary
    (∃ output, (perform host ⟨.find file name base, verbose⟩).outcome = .ok output ∧
        output.Shows (reportAnswer? report name base)) ∧
      ∀ other otherLoaded scanVerbose,
        Settings.load other other.current = .ok otherLoaded →
        otherLoaded.settings =
          { hideSelf := loaded.settings.hideSelf, includeFunctions := true, includeClasses := true,
            includeGlobals := true } →
        SourceFile.summary other other.current file = .ok summary →
        ∃ output, (perform other ⟨.scan file true, scanVerbose⟩).outcome = .ok output ∧
          output.Prints report := by
  intro report
  constructor
  · have answered := @answer_outcome host (.find file name base) file loaded loads rfl
    rw [scans] at answered
    obtain ⟨stderr, performed⟩ := exists_perform_outcome answered verbose
    exact ⟨_, performed, findOutput_shows file name base loaded.settings summary stderr⟩
  · intro other otherLoaded scanVerbose otherLoads full otherScans
    have answered := @answer_outcome other (.scan file true) file otherLoaded otherLoads rfl
    rw [otherScans, full] at answered
    obtain ⟨stderr, performed⟩ := exists_perform_outcome answered scanVerbose
    exact ⟨_, performed, prints_line report stderr⟩

/-- A host with a settings file, whose document is given, and a source file. -/
def settledHost (switches : List (String × Bool)) (source : Text) : Host :=
  let disk : Disk :=
    { current := ⟨['/'], ["work".toList]⟩
      items := [(["work".toList, Settings.fileName], .file []),
        (["work".toList, "a.py".toList], .file (Utf8.encode source))] }
  let entries := switches.map fun (key, on) => (key.toList, Content.switch on)
  disk.hostWith fun _ => .value (.mapping [(Settings.sectionName, .mapping entries)])

/-- Classes that a scan leaves out are found by their base, and without the receiver that is hidden. -/
theorem find_agrees_with_scan_hidden :
    let source := "def C(b):\nclass C(B):\n    def __init__(self, x):\nclass D(B, C):\n".toList
    let host := settledHost [("hide_self", true), ("include_classes", false)] source
    let full := settledHost [("hide_self", true)] source
    let summary := Summary.scan source "a.py".toList
    (Settings.load host host.current = .ok { settings := { hideSelf := true, includeClasses := false } } ∧
        SourceFile.summary host host.current "a.py".toList = .ok summary) ∧
      (∃ output, (perform host ⟨.find "a.py".toList "B".toList true, false⟩).outcome = .ok output ∧
        output.Shows (reportAnswer? (fullReport true summary) "B".toList true)) ∧
      ∃ output, (perform full ⟨.scan "a.py".toList true, true⟩).outcome = .ok output ∧
        output.Prints (fullReport true summary) := by
  intro source host full summary
  have loads : Settings.load host host.current =
      .ok { settings := { hideSelf := true, includeClasses := false } } := by decide
  have fullLoads : Settings.load full full.current = .ok { settings := { hideSelf := true } } := by decide
  have scans : SourceFile.summary host host.current "a.py".toList = .ok summary := by decide +kernel
  have fullScans : SourceFile.summary full full.current "a.py".toList = .ok summary := by decide +kernel
  obtain ⟨found, scanned⟩ := find_agrees_with_scan loads scans "B".toList true false
  exact ⟨⟨loads, scans⟩, found, scanned full _ true fullLoads rfl fullScans⟩

end Command

end Outline
