/-
This file treats the blocks that a summary is written in. A block is one line, perhaps with indented
lines below it, so that a search finds at most one thing in it.
-/

import Outline.Summary
import Outline.Proofs.Written

namespace Outline

open Text

/-- A margin is what follows on a line, if none of the lines below starts with a name. -/
def Text.IsMargin (margin : Text) : Prop :=
  ∀ tail ∈ lineTails false margin, Stops isIdentifierStart tail

namespace Text

theorem stops_of_feeds {ending : Text} (feeds : ∀ c ∈ ending, c = '\n') {test : Char → Bool}
    (fails : test '\n' = false) : Stops test ending := by
  intro first isFirst
  rw [feeds first (List.mem_of_mem_head? isFirst), fails]

theorem stops_of_mem_lineTails {ending tail : Text} {lineStart : Bool}
    (feeds : ∀ c ∈ ending, c = '\n') (member : tail ∈ lineTails lineStart ending) :
    Stops isIdentifierStart tail := by
  obtain ⟨_, before, rfl, _⟩ := exists_flush_of_mem_lineTails member
  exact stops_of_feeds (fun c inside => feeds c (List.mem_append_right before inside)) (by decide)

/-- Line feeds are a margin. -/
theorem isMargin_feeds {ending : Text} (feeds : ∀ c ∈ ending, c = '\n') : IsMargin ending :=
  fun _ => stops_of_mem_lineTails feeds

/-- A line that starts without a name goes on with a margin. -/
theorem isMargin_line {line margin : Text} (single : '\n' ∉ line) (nonempty : line ≠ [])
    (stops : Stops isIdentifierStart line) (below : IsMargin margin) :
    IsMargin ('\n' :: (line ++ margin)) := by
  intro tail member
  have here : lineTails false ('\n' :: (line ++ margin)) = lineTails true (line ++ margin) := rfl
  rw [here, lineTails_line single nonempty, List.mem_cons] at member
  rcases member with rfl | later
  · exact (stops_append nonempty).mpr stops
  · exact below tail later

end Text

namespace Reader

variable {α : Type} {read : Reader α}

/-- Nothing is read at a text that starts without a name. -/
theorem answer_of_stops (lawful : read.Lawful)
    (barriers : ∀ {text : Text}, (read text).isSome → Barrier text) {text : Text}
    (stops : Stops isIdentifierStart text) : read.answer text = none := by
  by_contra succeeds
  obtain ⟨value, answers⟩ := Option.ne_none_iff_exists'.mp succeeds
  obtain ⟨⟨_, rest⟩, reads, _⟩ := Option.map_eq_some_iff.mp answers
  obtain ⟨matched, nonempty, rfl⟩ := lawful.progress reads
  cases matched with
  | nil => exact nonempty rfl
  | cons first matched =>
      have named := (barriers (Option.isSome_of_eq_some reads)).named first rfl
      rw [List.cons_append, stops_cons, named] at stops
      contradiction

theorem values_feeds (lawful : read.Lawful)
    (barriers : ∀ {text : Text}, (read text).isSome → Barrier text) {ending : Text}
    (feeds : ∀ c ∈ ending, c = '\n') : read.values ending = [] := by
  rw [values_eq lawful, List.filterMap_eq_nil_iff]
  exact fun tail member => answer_of_stops lawful barriers (stops_of_mem_lineTails feeds member)

/-- In a line with its margin, the search finds what is read at the start. -/
theorem values_line (lawful : read.Lawful)
    (barriers : ∀ {text : Text}, (read text).isSome → Barrier text) {line margin : Text}
    (single : '\n' ∉ line) (nonempty : line ≠ []) (isMargin : IsMargin margin) :
    read.values (line ++ margin) = (read.answer (line ++ margin)).toList := by
  have below : (lineTails false margin).filterMap read.answer = [] := by
    rw [List.filterMap_eq_nil_iff]
    exact fun tail member => answer_of_stops lawful barriers (isMargin tail member)
  rw [values_eq lawful, lineTails_line single nonempty]
  cases answers : read.answer (line ++ margin) with
  | none => rw [List.filterMap_cons_none answers, below, Option.toList_none]
  | some value => rw [List.filterMap_cons_some answers, below, Option.toList_some]

end Reader

/-- A written global variable is declared by its line. -/
theorem GlobalEntry.declaration?_render {entry : GlobalEntry} (wellFormed : entry.WellFormed)
    {ending : Text} (feeds : ∀ c ∈ ending, c = '\n') :
    declaration? (entry.render ++ ending) = some (entry, ending) :=
  Reader.ofLine_line (newline_not_mem_render wellFormed) (stops_of_feeds feeds (by decide))
    (declared?_render wellFormed)

/-- The lines below a written class header are indented. -/
theorem ClassEntry.isMargin_renderBody {entry : ClassEntry} (wellFormed : entry.WellFormed)
    {ending : Text} (feeds : ∀ c ∈ ending, c = '\n') : IsMargin (entry.renderBody ++ ending) := by
  unfold renderBody
  split
  · exact isMargin_feeds feeds
  · have below : IsMargin ('\n' :: (bodyLine ++ ending)) :=
      isMargin_line (by decide) (by decide) (by decide) (isMargin_feeds feeds)
    have constructor : IsMargin ('\n' :: (entry.constructorLine ++ '\n' :: (bodyLine ++ ending))) :=
      isMargin_line (newline_not_mem_constructorLine wellFormed) (by simp [constructorLine])
        ((stops_cons _ _ _).mpr (by decide)) below
    simpa using constructor

/-- A block is one entry of a summary. -/
inductive Block where
  | ofGlobal (entry : GlobalEntry)
  | ofFunction (function : FunctionEntry)
  | ofClass (entry : ClassEntry)

namespace Block

def render : Block → Text
  | ofGlobal entry => entry.render
  | ofFunction function => function.render
  | ofClass entry => entry.render

def WellFormed : Block → Prop
  | ofGlobal entry => entry.WellFormed
  | ofFunction function => function.WellFormed
  | ofClass entry => entry.WellFormed

def globals : Block → List GlobalEntry
  | ofGlobal entry => [entry]
  | _ => []

def functions : Block → List FunctionEntry
  | ofFunction function => [function]
  | _ => []

/-- A class is seen as its written form shows it, but for a bare one at the very end of a text. -/
def classes (atEnd : Bool) : Block → List ClassEntry
  | ofClass entry => if entry.isBare && atEnd then [] else [entry.shown]
  | _ => []

/-- A block is a line with a margin. -/
theorem exists_line {block : Block} (wellFormed : block.WellFormed) :
    ∃ line margin, block.render = line ++ margin ∧ '\n' ∉ line ∧ line ≠ [] ∧
      ∀ ending, (∀ c ∈ ending, c = '\n') → IsMargin (margin ++ ending) := by
  cases block with
  | ofGlobal entry =>
      refine ⟨entry.render, [], by simp [render], GlobalEntry.newline_not_mem_render wellFormed, ?_,
        fun ending feeds => isMargin_feeds feeds⟩
      simp [GlobalEntry.render]
  | ofFunction function =>
      refine ⟨function.render, [], by simp [render], FunctionEntry.newline_not_mem_render wellFormed, ?_,
        fun ending feeds => isMargin_feeds feeds⟩
      simp [FunctionEntry.render_eq]
  | ofClass entry =>
      refine ⟨entry.renderHeader, entry.renderBody, entry.render_eq,
        ClassEntry.newline_not_mem_renderHeader wellFormed, ?_, ?_⟩
      · simp [ClassEntry.renderHeader_eq]
      · exact fun ending => ClassEntry.isMargin_renderBody wellFormed

theorem barrier {block : Block} (wellFormed : block.WellFormed) (more : Text) :
    Barrier (block.render ++ more) := by
  cases block with
  | ofGlobal entry =>
      have declares := GlobalEntry.declared?_render wellFormed
      exact GlobalEntry.barrier_of_ofLine? (GlobalEntry.declared?_eq_some_iff.mp declares).2 more
  | ofFunction function =>
      exact Signature.barrier_of_read?
        (Option.isSome_of_eq_some (FunctionEntry.read?_render wellFormed more))
  | ofClass entry =>
      have heading := ClassEntry.heading?_renderHeader wellFormed (entry.renderBody ++ more)
      rw [render, ClassEntry.render_eq, List.append_assoc]
      exact barrier_of_heading? (by decide) (Option.isSome_of_eq_some heading)

section Ending

variable {block : Block} (wellFormed : block.WellFormed) {ending : Text}
  (feeds : ∀ c ∈ ending, c = '\n')

include wellFormed feeds

/-- In a block, the search finds what is read at the start. -/
theorem values_render {α : Type} {read : Reader α} (lawful : read.Lawful)
    (barriers : ∀ {text : Text}, (read text).isSome → Barrier text) :
    read.values (block.render ++ ending) = (read.answer (block.render ++ ending)).toList := by
  obtain ⟨line, margin, split, single, nonempty, isMargin⟩ := exists_line wellFormed
  rw [split, List.append_assoc]
  exact Reader.values_line lawful barriers single nonempty (isMargin ending feeds)

theorem listOf_functions : FunctionEntry.listOf (block.render ++ ending) = block.functions := by
  rw [FunctionEntry.listOf, values_render wellFormed feeds Signature.read?_lawful
    Signature.barrier_of_read?]
  cases block with
  | ofFunction function =>
      have reads := FunctionEntry.read?_render wellFormed ending
      simp [render, functions, Reader.answer, reads, FunctionEntry.toFunction_render wellFormed]
  | ofGlobal entry =>
      have declares := GlobalEntry.declaration?_render wellFormed feeds
      have fails : Signature.read? (entry.render ++ ending) = none := by
        rw [Signature.read?_eq, GlobalEntry.heading?_of_declaration? (Or.inl rfl)
          (Option.isSome_of_eq_some declares), Option.bind_none]
      simp [render, functions, Reader.answer, fails]
  | ofClass entry =>
      have fails : Signature.read? (entry.render ++ ending) = none := by
        by_contra succeeds
        have heading := ClassEntry.heading?_renderHeader wellFormed (entry.renderBody ++ ending)
        rw [← List.append_assoc, ← ClassEntry.render_eq] at heading
        exact heading?_exclusive (Signature.heading?_of_read? (Option.isSome_iff_ne_none.mpr succeeds))
          (Option.isSome_of_eq_some heading)
      simp [render, functions, Reader.answer, fails]

theorem listOf_classes : ClassEntry.listOf (block.render ++ ending) = block.classes ending.isEmpty := by
  rw [ClassEntry.listOf, values_render wellFormed feeds ClassText.read?_lawful
    ClassText.barrier_of_read?]
  cases block with
  | ofFunction function =>
      have fails := ClassText.read?_of_signature
        (Option.isSome_of_eq_some (FunctionEntry.read?_render wellFormed ending))
      simp [render, classes, Reader.answer, fails]
  | ofGlobal entry =>
      have declares := GlobalEntry.declaration?_render wellFormed feeds
      have fails : ClassText.read? (entry.render ++ ending) = none := by
        rw [ClassText.read?_eq, GlobalEntry.heading?_of_declaration? (Or.inr rfl)
          (Option.isSome_of_eq_some declares), Option.bind_none]
      simp [render, classes, Reader.answer, fails]
  | ofClass entry =>
      have answers := ClassEntry.answer_render wellFormed feeds
      rw [render, ← Option.toList_map, answers, classes]
      split <;> rfl

theorem listOf_globals : GlobalEntry.listOf (block.render ++ ending) = block.globals := by
  rw [GlobalEntry.listOf_eq, values_render wellFormed feeds GlobalEntry.declaration?_lawful
    GlobalEntry.barrier_of_declaration?]
  cases block with
  | ofFunction function =>
      have heading := Signature.heading?_of_read?
        (Option.isSome_of_eq_some (FunctionEntry.read?_render wellFormed ending))
      have fails := GlobalEntry.declaration?_of_heading? (Or.inl rfl) heading
      simp [render, globals, Reader.answer, fails]
  | ofGlobal entry =>
      have declares := GlobalEntry.declaration?_render wellFormed feeds
      simp [render, globals, Reader.answer, declares]
  | ofClass entry =>
      have heading := ClassEntry.heading?_renderHeader wellFormed (entry.renderBody ++ ending)
      rw [← List.append_assoc, ← ClassEntry.render_eq] at heading
      have fails := GlobalEntry.declaration?_of_heading? (Or.inr rfl) (Option.isSome_of_eq_some heading)
      simp [render, globals, Reader.answer, fails]

end Ending

end Block

end Outline
