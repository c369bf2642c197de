/-
This file states what is left of a JSON value when its null fields are dropped: the fields that are not null
at every depth, in their order, and every item of an array.
-/

import Outline.Proofs.Json
import Mathlib.Data.List.Forall2

namespace Outline

namespace Json

variable {ν : Type}

theorem dropNullsItems_eq_map (items : List (Json ν)) : dropNullsItems items = items.map dropNulls := by
  induction items with
  | nil => rw [dropNullsItems, List.map_nil]
  | cons item items inductionHypothesis =>
      rw [dropNullsItems, List.map_cons, inductionHypothesis]

/-- The fields of an object that are not null. -/
def present (fields : List (Text × Json ν)) : List (Text × Json ν) := fields.filter fun field => !field.2.isNull

theorem dropNullsFields_eq_map (fields : List (Text × Json ν)) :
    dropNullsFields fields = (present fields).map fun field => (field.1, field.2.dropNulls) := by
  induction fields with
  | nil => rw [dropNullsFields, present, List.filter_nil, List.map_nil]
  | cons field fields inductionHypothesis =>
      rw [present] at inductionHypothesis ⊢
      cases isNull : field.2.isNull <;> simp [dropNullsFields, isNull, inductionHypothesis]

theorem dropNulls_array (items : List (Json ν)) : dropNulls (array items) = array (items.map dropNulls) := by
  rw [dropNulls, dropNullsItems_eq_map]

theorem dropNulls_object (fields : List (Text × Json ν)) :
    dropNulls (object fields) =
      object ((present fields).map fun field => (field.1, field.2.dropNulls)) := by
  rw [dropNulls, dropNullsFields_eq_map]

theorem dropNulls_of_isScalar {value : Json ν} (scalar : value.isScalar) : value.dropNulls = value := by
  cases value with
  | null | bool _ | number _ | string _ => rw [dropNulls] <;> simp
  | array _ | object _ => contradiction

theorem isNull_eq_false_iff {value : Json ν} : value.isNull = false ↔ value ≠ null := by
  cases value <;> simp [isNull]

/-- Nothing becomes null, so a field that is kept stays present. -/
theorem dropNulls_eq_null_iff {value : Json ν} : value.dropNulls = null ↔ value = null := by
  cases value with
  | null | bool _ | number _ | string _ => rw [dropNulls_of_isScalar rfl]
  | array items => simp [dropNulls_array]
  | object fields => simp [dropNulls_object]

theorem mem_present_iff {fields : List (Text × Json ν)} {field : Text × Json ν} :
    field ∈ present fields ↔ field ∈ fields ∧ field.2 ≠ null := by
  rw [present, List.mem_filter, Bool.not_eq_true', isNull_eq_false_iff]

/-- A value is tidy if no object in it, at any depth, has a null field. -/
inductive Tidy : Json ν → Prop where
  | scalar {value : Json ν} (scalar : value.isScalar) : Tidy value
  | array {items : List (Json ν)} (inside : ∀ item ∈ items, Tidy item) : Tidy (array items)
  | object {fields : List (Text × Json ν)} (noNull : ∀ field ∈ fields, field.2 ≠ null)
      (inside : ∀ field ∈ fields, Tidy field.2) : Tidy (object fields)

theorem tidy_dropNulls (value : Json ν) : value.dropNulls.Tidy := by
  induction value using containerInduction with
  | scalar value scalar =>
      rw [dropNulls_of_isScalar scalar]
      exact .scalar scalar
  | array items inductionHypothesis =>
      rw [dropNulls_array]
      apply Tidy.array
      intro item member
      obtain ⟨origin, inside, rfl⟩ := List.mem_map.mp member
      exact inductionHypothesis origin inside
  | object fields inductionHypothesis =>
      rw [dropNulls_object]
      apply Tidy.object
      · intro field member
        obtain ⟨origin, inside, rfl⟩ := List.mem_map.mp member
        exact fun isNull => (mem_present_iff.mp inside).2 (dropNulls_eq_null_iff.mp isNull)
      · intro field member
        obtain ⟨origin, inside, rfl⟩ := List.mem_map.mp member
        exact inductionHypothesis origin (mem_present_iff.mp inside).1

/-- Nothing is dropped from a tidy value. -/
theorem dropNulls_of_tidy {value : Json ν} (tidy : value.Tidy) : value.dropNulls = value := by
  induction tidy with
  | scalar scalar => exact dropNulls_of_isScalar scalar
  | @array items _ inductionHypothesis =>
      rw [dropNulls_array, List.map_congr_left inductionHypothesis, List.map_id']
  | @object fields noNull _ inductionHypothesis =>
      have all : present fields = fields := by
        rw [present, List.filter_eq_self]
        intro field member
        rw [Bool.not_eq_true', isNull_eq_false_iff]
        exact noNull field member
      have same : ∀ field ∈ fields, (field.1, field.2.dropNulls) = field := by
        intro field member
        rw [inductionHypothesis field member]
      rw [dropNulls_object, all, List.map_congr_left same, List.map_id']

/-- A pruned value has the scalars of the other one, all items of its arrays, and those fields of its
objects that are not null there; what stands in them is pruned too. -/
inductive Pruned : Json ν → Json ν → Prop where
  | scalar {value : Json ν} (scalar : value.isScalar) : Pruned value value
  | array {items kept : List (Json ν)} (inside : List.Forall₂ Pruned items kept) :
      Pruned (array items) (array kept)
  | object {fields kept : List (Text × Json ν)}
      (keys : kept.map Prod.fst = (present fields).map Prod.fst)
      (inside : List.Forall₂ Pruned ((present fields).map Prod.snd) (kept.map Prod.snd)) :
      Pruned (object fields) (object kept)

/-- If each value is related to one result alone, a list is related to the list of these results alone. -/
theorem forall₂_iff_map {α β : Type} {relation : α → β → Prop} {make : α → β} {values : List α}
    (each : ∀ value ∈ values, ∀ result, relation value result ↔ make value = result) (results : List β) :
    List.Forall₂ relation values results ↔ values.map make = results := by
  induction values generalizing results with
  | nil => rw [List.forall₂_nil_left_iff, List.map_nil, eq_comm]
  | cons value values inductionHypothesis =>
      have later := inductionHypothesis fun value member => each value (List.mem_cons_of_mem _ member)
      cases results with
      | nil => simp
      | cons result results =>
          rw [List.forall₂_cons, each value List.mem_cons_self, later, List.map_cons, List.cons.injEq]

theorem pruned_scalar_iff {value pruned : Json ν} (scalar : value.isScalar) :
    Pruned value pruned ↔ value = pruned := by
  constructor
  · intro shape
    cases shape with
    | scalar _ => rfl
    | array _ | object _ _ => contradiction
  · intro same
    exact same ▸ .scalar scalar

theorem pruned_array_iff {items : List (Json ν)} {pruned : Json ν} :
    Pruned (array items) pruned ↔ ∃ kept, List.Forall₂ Pruned items kept ∧ array kept = pruned := by
  constructor
  · intro shape
    cases shape with
    | scalar scalar => contradiction
    | array inside => exact ⟨_, inside, rfl⟩
  · intro shape
    obtain ⟨kept, inside, same⟩ := shape
    exact same ▸ .array inside

theorem pruned_object_iff {fields : List (Text × Json ν)} {pruned : Json ν} :
    Pruned (object fields) pruned ↔ ∃ kept : List (Text × Json ν),
      (kept.map Prod.fst = (present fields).map Prod.fst ∧
        List.Forall₂ Pruned ((present fields).map Prod.snd) (kept.map Prod.snd)) ∧ object kept = pruned := by
  constructor
  · intro shape
    cases shape with
    | scalar scalar => contradiction
    | object keys inside => exact ⟨_, ⟨keys, inside⟩, rfl⟩
  · intro shape
    obtain ⟨kept, ⟨keys, inside⟩, same⟩ := shape
    exact same ▸ .object keys inside

/-- Fields are given by their keys and their values. -/
theorem map_value_iff {fields kept : List (Text × Json ν)} {make : Json ν → Json ν} :
    (kept.map Prod.fst = fields.map Prod.fst ∧ (fields.map Prod.snd).map make = kept.map Prod.snd) ↔
      (fields.map fun field => (field.1, make field.2)) = kept := by
  constructor
  · intro parts
    obtain ⟨keys, values⟩ := parts
    rw [List.map_map] at values
    rw [List.zip_of_prod keys values.symm, List.zip_map']
    rfl
  · intro same
    rw [← same]
    simp

/-- Dropping the null fields is the one way to prune a value. -/
theorem pruned_iff {value pruned : Json ν} : Pruned value pruned ↔ value.dropNulls = pruned := by
  induction value using containerInduction generalizing pruned with
  | scalar value scalar => rw [pruned_scalar_iff scalar, dropNulls_of_isScalar scalar]
  | array items inductionHypothesis =>
      have inside := forall₂_iff_map fun item member _ => inductionHypothesis item member
      simp only [pruned_array_iff, inside, dropNulls_array, exists_eq_left']
  | object fields inductionHypothesis =>
      have each : ∀ value ∈ (present fields).map Prod.snd, ∀ pruned,
          Pruned value pruned ↔ value.dropNulls = pruned := by
        intro value member pruned
        obtain ⟨field, inside, same⟩ := List.mem_map.mp member
        rw [← same]
        exact inductionHypothesis field (mem_present_iff.mp inside).1
      simp only [pruned_object_iff, forall₂_iff_map each, map_value_iff, dropNulls_object, exists_eq_left']

/-- A step goes into an array by a number or into an object by a key. -/
inductive Step where
  | item (index : Nat)
  | field (key : Text)
  deriving Repr, DecidableEq

/-- A path reaches a value through items and through fields that are not null. In an object whose keys are
distinct there is one field for a key. -/
inductive Reaches : Json ν → List Step → Json ν → Prop where
  | here (value : Json ν) : Reaches value [] value
  | item {items : List (Json ν)} {index : Nat} {item target : Json ν} {path : List Step}
      (found : items[index]? = some item) (later : Reaches item path target) :
      Reaches (array items) (.item index :: path) target
  | field {fields : List (Text × Json ν)} {key : Text} {value target : Json ν} {path : List Step}
      (found : (key, value) ∈ fields) (notNull : value ≠ null) (later : Reaches value path target) :
      Reaches (object fields) (.field key :: path) target

theorem dropNulls_eq_array_iff {value : Json ν} {kept : List (Json ν)} :
    value.dropNulls = array kept ↔ ∃ items, value = array items ∧ items.map dropNulls = kept := by
  cases value with
  | null | bool _ | number _ | string _ =>
      rw [dropNulls_of_isScalar rfl]
      simp
  | array items => simp [dropNulls_array]
  | object fields => simp [dropNulls_object]

theorem dropNulls_eq_object_iff {value : Json ν} {kept : List (Text × Json ν)} :
    value.dropNulls = object kept ↔ ∃ fields, value = object fields ∧
      (present fields).map (fun field => (field.1, field.2.dropNulls)) = kept := by
  cases value with
  | null | bool _ | number _ | string _ =>
      rw [dropNulls_of_isScalar rfl]
      simp
  | array items => simp [dropNulls_array]
  | object fields => simp [dropNulls_object]

/-- A path that passes no null field leads to the same place when the null fields are dropped. -/
theorem Reaches.dropNulls {value target : Json ν} {path : List Step} (reaches : value.Reaches path target) :
    value.dropNulls.Reaches path target.dropNulls := by
  induction reaches with
  | here value => exact .here _
  | item found _ inductionHypothesis =>
      rw [dropNulls_array]
      exact .item (by rw [List.getElem?_map, found, Option.map_some]) inductionHypothesis
  | @field fields key value target path found notNull _ inductionHypothesis =>
      rw [dropNulls_object]
      refine .field (List.mem_map.mpr ⟨(key, value), mem_present_iff.mpr ⟨found, notNull⟩, rfl⟩) ?_
        inductionHypothesis
      exact fun isNull => notNull (dropNulls_eq_null_iff.mp isNull)

/-- No path is new when the null fields are dropped. -/
theorem exists_reaches_of_dropNulls {value result : Json ν} {path : List Step}
    (reaches : value.dropNulls.Reaches path result) :
    ∃ target, value.Reaches path target ∧ target.dropNulls = result := by
  -- The induction follows the path through what is left, so this value has to be a variable.
  generalize whole : value.dropNulls = pruned at reaches
  induction reaches generalizing value with
  | here pruned => exact ⟨value, .here value, whole⟩
  | item found _ inductionHypothesis =>
      obtain ⟨items, rfl, rfl⟩ := dropNulls_eq_array_iff.mp whole
      rw [List.getElem?_map, Option.map_eq_some_iff] at found
      obtain ⟨item, found, same⟩ := found
      obtain ⟨target, later, result⟩ := inductionHypothesis same
      exact ⟨target, .item found later, result⟩
  | field found notNull _ inductionHypothesis =>
      obtain ⟨fields, rfl, rfl⟩ := dropNulls_eq_object_iff.mp whole
      obtain ⟨⟨key, value⟩, inside, pair⟩ := List.mem_map.mp found
      obtain ⟨rfl, same⟩ := Prod.mk.inj pair
      obtain ⟨member, present⟩ := mem_present_iff.mp inside
      obtain ⟨target, later, result⟩ := inductionHypothesis same
      exact ⟨target, .field member present later, result⟩

/-- Dropping the null fields takes away these fields and nothing else. No object in the result has a null
field; all items and all other fields stay in their order; a path that passes no null field leads to what is
left of its target, which is the target itself if that is a scalar, and no other path leads anywhere; only
null becomes null; and there is nothing left to drop. -/
theorem dropNulls_exact (value : Json ν) :
    value.dropNulls.Tidy ∧
      (∀ pruned, Pruned value pruned ↔ value.dropNulls = pruned) ∧
      (∀ path result, value.dropNulls.Reaches path result ↔
        ∃ target, value.Reaches path target ∧ target.dropNulls = result) ∧
      (∀ path target, value.Reaches path target → target.isScalar → value.dropNulls.Reaches path target) ∧
      (value.dropNulls = null ↔ value = null) ∧
      value.dropNulls.dropNulls = value.dropNulls := by
  refine ⟨tidy_dropNulls value, fun _ => pruned_iff, ?_, ?_, dropNulls_eq_null_iff,
    dropNulls_of_tidy (tidy_dropNulls value)⟩
  · intro path result
    constructor
    · exact exists_reaches_of_dropNulls
    · intro shape
      obtain ⟨target, reaches, same⟩ := shape
      exact same ▸ reaches.dropNulls
  · intro path target reaches scalar
    rw [← dropNulls_of_isScalar scalar]
    exact reaches.dropNulls

/-- A null item stays where it is, so the path to the item behind it is the same. -/
theorem dropNulls_exact_nested :
    let value : Json := object [(['a'], null), (['b'], array [null, object [(['c'], null), (['d'], number 1)]])]
    let path := [Step.field ['b'], .item 1, .field ['d']]
    (value.Reaches path (number 1) ∧ (number 1 : Json).isScalar) ∧ value.dropNulls.Reaches path (number 1) ∧
      value.dropNulls = object [(['b'], array [null, object [(['d'], number 1)]])] := by
  intro value path
  have reaches : value.Reaches path (number 1) :=
    .field (.tail _ (.head _)) nofun (.item rfl (.field (.tail _ (.head _)) nofun (.here _)))
  obtain ⟨_, _, _, scalars, _⟩ := dropNulls_exact value
  exact ⟨⟨reaches, rfl⟩, scalars path (number 1) reaches rfl, rfl⟩

end Json

end Outline
