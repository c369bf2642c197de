/-
This file states that a written JSON value determines the value: each form of value shows in its first
character, and a container ends where its lines end.
-/

import Outline.Proofs.Escape

namespace Outline

namespace Json

open Text

section

variable {ν : Type}

/-- A scalar is no container. -/
def isScalar : Json ν → Bool
  | array _ => false
  | object _ => false
  | _ => true

/-- What holds of the scalars, and of a container if it holds of all that the container holds, is true of
every value. -/
@[elab_as_elim] theorem containerInduction {motive : Json ν → Prop}
    (scalar : ∀ value : Json ν, value.isScalar → motive value)
    (array : ∀ items : List (Json ν), (∀ item ∈ items, motive item) → motive (array items))
    (object : ∀ fields : List (Text × Json ν), (∀ field ∈ fields, motive field.2) → motive (object fields))
    (value : Json ν) : motive value := by
  cases value with
  | null | bool _ | number _ | string _ => exact scalar _ rfl
  | array items => exact array items fun item member => containerInduction scalar array object item
  | object fields => exact object fields fun field member => containerInduction scalar array object field.2
termination_by sizeOf value
decreasing_by
  · have smaller := List.sizeOf_lt_of_mem member
    subst value
    simp only [Json.array.sizeOf_spec]
    omega
  · have smaller := List.sizeOf_lt_of_mem member
    have inner : sizeOf field.2 < sizeOf field := by
      cases field
      simp only [Prod.mk.sizeOf_spec]
      omega
    subst value
    simp only [Json.object.sizeOf_spec]
    omega

end

/-- A value is definite if no other one is written alike, whatever follows that is no digit. -/
def Definite {α : Type} (write : α → Text) (value : α) : Prop :=
  ∀ {other : α} {rest rest' : Text}, Stops Char.isDigit rest → Stops Char.isDigit rest' →
    write value ++ rest = write other ++ rest' → value = other ∧ rest = rest'

/-- The further values of a container, each on a line of its own behind a comma. -/
def furtherLines {α : Type} (level : Nat) (write : α → Text) (values : List α) : Text :=
  values.flatMap fun value => ',' :: (newLine level ++ write value)

/-- A container between its brackets. -/
def bracketed {α : Type} (level : Nat) (opening closing : Char) (write : α → Text) : List α → Text
  | [] => [opening, closing]
  | value :: rest =>
      opening :: (newLine (level + 1) ++ (write value ++ (furtherLines (level + 1) write rest
        ++ (newLine level ++ [closing]))))

def renderField (level : Nat) (field : Text × Json) : Text :=
  renderString field.1 ++ (':' :: ' ' :: renderAt level field.2)

theorem renderItems_eq_furtherLines (level : Nat) (items : List Json) :
    renderItems level items = furtherLines level (renderAt level) items := by
  induction items with
  | nil => simp [renderItems, furtherLines]
  | cons item items inductionHypothesis =>
      simp [renderItems, furtherLines, inductionHypothesis]

theorem renderFields_eq_furtherLines (level : Nat) (fields : List (Text × Json)) :
    renderFields level fields = furtherLines level (renderField level) fields := by
  induction fields with
  | nil => simp [renderFields, furtherLines]
  | cons field fields inductionHypothesis =>
      simp [renderFields, furtherLines, renderField, inductionHypothesis]

theorem renderAt_array (level : Nat) (items : List Json) :
    renderAt level (array items) = bracketed level '[' ']' (renderAt (level + 1)) items := by
  cases items with
  | nil => simp [renderAt, bracketed]
  | cons item items => simp [renderAt, bracketed, renderItems_eq_furtherLines]

theorem renderAt_object (level : Nat) (fields : List (Text × Json)) :
    renderAt level (object fields) = bracketed level '{' '}' (renderField (level + 1)) fields := by
  cases fields with
  | nil => simp [renderAt, bracketed]
  | cons field fields => simp [renderAt, bracketed, renderField, renderFields_eq_furtherLines]

section Container

variable {α : Type} {level outer : Nat} {write : α → Text}

theorem stops_furtherLines (values : List α) (rest : Text) :
    Stops Char.isDigit (furtherLines level write values ++ (newLine outer ++ rest)) := by
  cases values with
  | nil => exact (stops_cons ..).mpr (by decide)
  | cons value values => exact (stops_cons ..).mpr (by decide)

/-- The lines of a container end at the first line break that no comma introduces. -/
theorem furtherLines_inj {values others : List α} {rest rest' : Text}
    (definite : ∀ value ∈ values, Definite write value)
    (same : furtherLines level write values ++ (newLine outer ++ rest) =
      furtherLines level write others ++ (newLine outer ++ rest')) : values = others ∧ rest = rest' := by
  induction values generalizing others with
  | nil =>
      cases others with
      | nil => exact ⟨rfl, List.append_cancel_left same⟩
      -- One text goes on with a comma where the other has its line break.
      | cons other others => simp [furtherLines, newLine] at same
  | cons value values inductionHypothesis =>
      cases others with
      | nil => simp [furtherLines, newLine] at same
      | cons other others =>
          simp only [furtherLines, List.flatMap_cons, List.cons_append, List.append_assoc,
            List.cons.injEq, true_and, List.append_cancel_left_eq] at same
          obtain ⟨firsts, later⟩ := definite value List.mem_cons_self
            (stops_furtherLines values rest) (stops_furtherLines others rest') same
          obtain ⟨values_eq, rests⟩ := inductionHypothesis
            (fun value member => definite value (List.mem_cons_of_mem _ member)) later
          exact ⟨by rw [firsts, values_eq], rests⟩

theorem bracketed_inj {opening closing : Char} {values others : List α} {rest rest' : Text}
    (sameLine : closing ≠ '\n') (definite : ∀ value ∈ values, Definite write value)
    (same : bracketed level opening closing write values ++ rest =
      bracketed level opening closing write others ++ rest') : values = others ∧ rest = rest' := by
  cases values with
  | nil =>
      cases others with
      | nil => simpa [bracketed] using same
      | cons other others => simp [bracketed, newLine, sameLine] at same
  | cons value values =>
      cases others with
      | nil => simp [bracketed, newLine, sameLine.symm] at same
      | cons other others =>
          simp only [bracketed, List.cons_append, List.append_assoc, List.cons.injEq, true_and,
            List.append_cancel_left_eq] at same
          obtain ⟨firsts, later⟩ := definite value List.mem_cons_self
            (stops_furtherLines values _) (stops_furtherLines others _) same
          obtain ⟨values_eq, rests⟩ := furtherLines_inj
            (fun value member => definite value (List.mem_cons_of_mem _ member)) later
          exact ⟨by rw [firsts, values_eq], by simpa using rests⟩

end Container

theorem definite_renderField {level : Nat} {field : Text × Json}
    (definite : Definite (renderAt level) field.2) : Definite (renderField level) field := by
  intro other rest rest' stops stops' same
  simp only [renderField, List.append_assoc, List.cons_append] at same
  obtain ⟨keys, later⟩ := renderString_selfDelimiting same
  simp only [List.cons.injEq, true_and] at later
  obtain ⟨values, rests⟩ := definite stops stops' later
  exact ⟨Prod.ext keys values, rests⟩

/-- The forms of values. -/
inductive Form where
  | null
  | bool
  | number
  | string
  | array
  | object
  deriving DecidableEq

def form : Json → Form
  | null => .null
  | bool _ => .bool
  | number _ => .number
  | string _ => .string
  | array _ => .array
  | object _ => .object

/-- The first character of a written value shows its form. -/
def Form.ofFirst (first : Char) : Form :=
  if first = 'n' then .null
  else if first = 't' ∨ first = 'f' then .bool
  else if first = '\x22' then .string
  else if first = '[' then .array
  else if first = '{' then .object
  else .number

theorem ofFirst_of_isDigit {first : Char} (digit : first.isDigit) : Form.ofFirst first = .number := by
  have other : ∀ character : Char, character.isDigit = false → first ≠ character := by
    rintro character noDigit rfl
    rw [digit] at noDigit
    exact Bool.noConfusion noDigit
  simp [Form.ofFirst, other]

theorem exists_renderNumber (value : Int) :
    ∃ first more, renderNumber value = first :: more ∧ Form.ofFirst first = .number := by
  cases value with
  | ofNat magnitude =>
      obtain ⟨first, more, written, digit⟩ := decimal_eq_cons magnitude
      exact ⟨first, more, written, ofFirst_of_isDigit digit⟩
  | negSucc magnitude => exact ⟨'-', _, rfl, by decide⟩

theorem exists_renderAt (level : Nat) (value : Json) :
    ∃ first more, renderAt level value = first :: more ∧ Form.ofFirst first = value.form := by
  cases value with
  | null => exact ⟨'n', "ull".toList, by simp [renderAt], by decide⟩
  | bool value =>
      cases value with
      | true => exact ⟨'t', "rue".toList, by simp [renderAt], by decide⟩
      | false => exact ⟨'f', "alse".toList, by simp [renderAt], by decide⟩
  | number value =>
      rw [renderAt]
      exact exists_renderNumber value
  | string text =>
      rw [renderAt]
      exact ⟨'\x22', _, rfl, rfl⟩
  | array items =>
      rw [renderAt_array]
      cases items <;> exact ⟨'[', _, rfl, rfl⟩
  | object fields =>
      rw [renderAt_object]
      cases fields <;> exact ⟨'{', _, rfl, rfl⟩

theorem form_eq {level : Nat} {value other : Json} {rest rest' : Text}
    (same : renderAt level value ++ rest = renderAt level other ++ rest') : value.form = other.form := by
  obtain ⟨first, more, written, shown⟩ := exists_renderAt level value
  obtain ⟨first', more', written', shown'⟩ := exists_renderAt level other
  rw [written, written', List.cons_append, List.cons_append] at same
  rw [← shown, ← shown', (List.cons.inj same).1]

theorem definite_null (level : Nat) : Definite (renderAt level) null := by
  intro other rest rest' _ _ same
  have forms := form_eq same
  cases other <;> simp only [form, reduceCtorEq] at forms
  exact ⟨rfl, List.append_cancel_left same⟩

theorem definite_bool (level : Nat) (value : Bool) : Definite (renderAt level) (bool value) := by
  intro other rest rest' _ _ same
  have forms := form_eq same
  cases other <;> simp only [form, reduceCtorEq] at forms
  rename_i other
  cases value <;> cases other <;> simp_all [renderAt]

theorem definite_number (level : Nat) (value : Int) : Definite (renderAt level) (number value) := by
  intro other rest rest' stops stops' same
  have forms := form_eq same
  cases other <;> simp only [form, reduceCtorEq] at forms
  simp only [renderAt] at same
  obtain ⟨values, rests⟩ := renderNumber_append_inj stops stops' same
  exact ⟨by rw [values], rests⟩

theorem definite_string (level : Nat) (text : Text) : Definite (renderAt level) (string text) := by
  intro other rest rest' _ _ same
  have forms := form_eq same
  cases other <;> simp only [form, reduceCtorEq] at forms
  simp only [renderAt] at same
  obtain ⟨texts, rests⟩ := renderString_selfDelimiting same
  exact ⟨by rw [texts], rests⟩

theorem definite_array {level : Nat} {items : List Json}
    (definite : ∀ item ∈ items, Definite (renderAt (level + 1)) item) :
    Definite (renderAt level) (array items) := by
  intro other rest rest' _ _ same
  have forms := form_eq same
  cases other <;> simp only [form, reduceCtorEq] at forms
  simp only [renderAt_array] at same
  obtain ⟨items_eq, rests⟩ := bracketed_inj (by decide) definite same
  exact ⟨by rw [items_eq], rests⟩

theorem definite_object {level : Nat} {fields : List (Text × Json)}
    (definite : ∀ field ∈ fields, Definite (renderAt (level + 1)) field.2) :
    Definite (renderAt level) (object fields) := by
  intro other rest rest' _ _ same
  have forms := form_eq same
  cases other <;> simp only [form, reduceCtorEq] at forms
  simp only [renderAt_object] at same
  obtain ⟨fields_eq, rests⟩ := bracketed_inj (by decide)
    (fun field member => definite_renderField (definite field member)) same
  exact ⟨by rw [fields_eq], rests⟩

theorem definite_scalar (level : Nat) {value : Json} (scalar : value.isScalar) :
    Definite (renderAt level) value := by
  cases value with
  | null => exact definite_null level
  | bool value => exact definite_bool level value
  | number value => exact definite_number level value
  | string text => exact definite_string level text
  | array _ | object _ => contradiction

/-- Every value is definite, at every level. -/
theorem definite_renderAt (level : Nat) (value : Json) : Definite (renderAt level) value := by
  induction value using containerInduction generalizing level with
  | scalar value scalar => exact definite_scalar level scalar
  | array items inductionHypothesis =>
      exact definite_array fun item member => inductionHypothesis item member (level + 1)
  | object fields inductionHypothesis =>
      exact definite_object fun field member => inductionHypothesis field member (level + 1)

theorem render_injective : Function.Injective render := by
  intro value other same
  exact (definite_renderAt 0 value (stops_nil _) (stops_nil _) (congrArg (· ++ []) same)).1

end Json

end Outline
