/-
This file states that the JSON report of a scan loses nothing: dropping absent annotations keeps records
apart, and so the written report determines the entries.
-/

import Outline.Command.Answer
import Outline.Proofs.Prune

namespace Outline

namespace Json

theorem record_injective : Function.Injective record := by
  intro fields fields' same
  have pairs : Function.Injective fun field : String × Json => (field.1.toList, field.2) := by
    rintro ⟨key, value⟩ ⟨key', value'⟩ same
    obtain ⟨keys, values⟩ := Prod.mk.inj same
    exact Prod.ext (String.toList_injective keys) values
  exact List.map_injective_iff.mpr pairs (object.inj same)

/-- A field whose value is absent is left out. -/
def optionalField (key : String) (text : Option Text) : List (String × Json) :=
  (text.map fun text => (key, string text)).toList

theorem optionalField_inj {key : String} {text text' : Option Text}
    (same : optionalField key text = optionalField key text') : text = text' := by
  cases text <;> cases text' <;> simp_all [optionalField]

theorem string_injective : Function.Injective (string : Text → Json) := fun _ _ => string.inj

end Json

open Json

theorem Argument.dropNulls_toJson (argument : Argument) :
    argument.toJson.dropNulls =
      record (("name", string argument.name) :: optionalField "type_annotation" argument.hint) := by
  obtain ⟨name, hint⟩ := argument
  cases hint <;> simp [toJson, record, Json.optional, optionalField, dropNulls, dropNullsFields, isNull]

/-- An absent annotation differs from every annotation, the empty one included. -/
theorem Argument.report_injective :
    Function.Injective fun argument : Argument => argument.toJson.dropNulls := by
  rintro ⟨name, hint⟩ ⟨name', hint'⟩ same
  simp only [Argument.dropNulls_toJson] at same
  obtain ⟨names, hints⟩ := List.cons.inj (record_injective same)
  rw [string.inj (Prod.mk.inj names).2, optionalField_inj hints]

theorem FunctionEntry.dropNulls_toJson (function : FunctionEntry) :
    function.toJson.dropNulls = record [("name", string function.name),
      ("arguments", array (function.arguments.map fun argument => argument.toJson.dropNulls))] := by
  simp [toJson, record, dropNulls, dropNullsFields, dropNullsItems_eq_map, isNull, Function.comp_def]

theorem FunctionEntry.report_injective :
    Function.Injective fun function : FunctionEntry => function.toJson.dropNulls := by
  rintro ⟨name, arguments⟩ ⟨name', arguments'⟩ same
  simp only [FunctionEntry.dropNulls_toJson] at same
  have fields := record_injective same
  simp only [List.cons.injEq, Prod.mk.injEq, string.injEq, array.injEq, true_and, and_true] at fields
  obtain ⟨rfl, items⟩ := fields
  rw [List.map_injective_iff.mpr Argument.report_injective items]

theorem ClassEntry.dropNulls_toJson (entry : ClassEntry) :
    entry.toJson.dropNulls = record [("name", string entry.name),
      ("base_classes", array (entry.bases.map string)),
      ("constructor_arguments",
        array (entry.constructorArguments.map fun argument => argument.toJson.dropNulls))] := by
  simp [toJson, record, dropNulls, dropNullsFields, dropNullsItems_eq_map, isNull, Function.comp_def]

theorem ClassEntry.report_injective :
    Function.Injective fun entry : ClassEntry => entry.toJson.dropNulls := by
  rintro ⟨name, bases, arguments⟩ ⟨name', bases', arguments'⟩ same
  simp only [ClassEntry.dropNulls_toJson] at same
  have fields := record_injective same
  simp only [List.cons.injEq, Prod.mk.injEq, string.injEq, array.injEq, true_and, and_true] at fields
  obtain ⟨rfl, baseItems, items⟩ := fields
  rw [List.map_injective_iff.mpr string_injective baseItems,
    List.map_injective_iff.mpr Argument.report_injective items]

theorem GlobalEntry.dropNulls_toJson (entry : GlobalEntry) :
    entry.toJson.dropNulls =
      record (("name", string entry.name) :: (optionalField "type_annotation" entry.hint ++
        [("value_expression", string entry.value)])) := by
  obtain ⟨name, hint, value⟩ := entry
  cases hint <;> simp [toJson, record, Json.optional, optionalField, dropNulls, dropNullsFields, isNull]

theorem GlobalEntry.report_injective :
    Function.Injective fun entry : GlobalEntry => entry.toJson.dropNulls := by
  rintro ⟨name, hint, value⟩ ⟨name', hint', value'⟩ same
  simp only [GlobalEntry.dropNulls_toJson] at same
  obtain ⟨names, others⟩ := List.cons.inj (record_injective same)
  obtain ⟨hints, values⟩ := List.append_inj' others rfl
  rw [string.inj (Prod.mk.inj names).2, optionalField_inj hints,
    string.inj (Prod.mk.inj (List.singleton_inj.mp values)).2]

namespace Command

/-- A field of the report determines its entries if it is included. -/
theorem included_inj {α : Type} {key : String} {toJson : α → Json} {included : Bool}
    {values others : List α} (injective : Function.Injective toJson)
    (same : (if included then [(key, Json.array (values.map toJson))] else []) =
      if included then [(key, Json.array (others.map toJson))] else []) (shown : included) :
    values = others := by
  rw [if_pos shown, if_pos shown] at same
  have items := array.inj (Prod.mk.inj (List.singleton_inj.mp same)).2
  exact List.map_injective_iff.mpr injective items

theorem scanReport_inj {settings : Settings} {left right : Summary}
    (same : scanReport settings left = scanReport settings right) :
    (settings.includeFunctions → left.functions = right.functions) ∧
      (settings.includeClasses → left.classes = right.classes) ∧
      (settings.includeGlobals → left.globals = right.globals) := by
  obtain ⟨front, globals⟩ := List.append_inj' (record_injective same) (by split <;> rfl)
  obtain ⟨functions, classes⟩ := List.append_inj' front (by split <;> rfl)
  exact ⟨included_inj FunctionEntry.report_injective functions,
    included_inj ClassEntry.report_injective classes,
    included_inj GlobalEntry.report_injective globals⟩

theorem scanOutput_stdout_inj {host : Host} (settings : Settings) {left right : Summary}
    (same : (scanOutput host true settings left).stdout = (scanOutput host true settings right).stdout) :
    scanReport settings (settings.apply left) = scanReport settings (settings.apply right) :=
  render_injective (List.append_cancel_right same)

/-- With everything included, the JSON text of a scan determines the entries. -/
theorem json_determines_entries (host : Host) (left right : Summary) :
    (scanOutput host true {} left).stdout = (scanOutput host true {} right).stdout ↔
      left.functions = right.functions ∧ left.classes = right.classes ∧
        left.globals = right.globals := by
  constructor
  · intro same
    obtain ⟨functions, classes, globals⟩ := scanReport_inj (scanOutput_stdout_inj {} same)
    exact ⟨functions rfl, classes rfl, globals rfl⟩
  · rintro ⟨functions, classes, globals⟩
    simp [scanOutput, scanReport, Settings.apply, functions, classes, globals]

end Command

end Outline
