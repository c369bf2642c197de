/-
This file states that a summary is found again in its written form, up to the constructors that are
not written and the last header if the end of its line is missing.
-/

import Outline.Proofs.Block

namespace Outline

open Text

namespace Block

/-- Blocks are written one below the other with an empty line between them. -/
def renderAll (blocks : List Block) : Text := ['\n', '\n'].intercalate (blocks.map render)

theorem renderAll_cons (first : Block) {blocks : List Block} (nonempty : blocks ≠ []) :
    renderAll (first :: blocks) = first.render ++ ['\n', '\n'] ++ renderAll blocks := by
  rw [renderAll, List.map_cons, List.intercalate_cons_of_ne_nil (by simpa using nonempty)]
  rfl

theorem barrier_renderAll {blocks : List Block} (nonempty : blocks ≠ [])
    (wellFormed : ∀ block ∈ blocks, block.WellFormed) (more : Text) :
    Barrier (renderAll blocks ++ more) := by
  cases blocks with
  | nil => exact absurd rfl nonempty
  | cons first blocks =>
      have firstWellFormed := wellFormed first List.mem_cons_self
      by_cases last : blocks = []
      · rw [last, renderAll, List.map_singleton, List.intercalate_singleton]
        exact barrier firstWellFormed more
      · rw [renderAll_cons first last, List.append_assoc, List.append_assoc]
        exact barrier firstWellFormed _

/-- A search that starts afresh at each barrier goes through the blocks one by one; only the last one
may stand at the very end. -/
theorem find_renderAll {α : Type} {find : Text → List α} (give : Bool → Block → List α)
    (additive : ∀ {before after : Text}, Flush before → Barrier after →
      find (before ++ after) = find before ++ find after)
    (each : ∀ {block : Block}, block.WellFormed → ∀ {ending : Text}, (∀ c ∈ ending, c = '\n') →
      find (block.render ++ ending) = give ending.isEmpty block)
    {ending : Text} (feeds : ∀ c ∈ ending, c = '\n') (nothing : find ending = [])
    {blocks : List Block} (wellFormed : ∀ block ∈ blocks, block.WellFormed) :
    find (renderAll blocks ++ ending) =
      blocks.dropLast.flatMap (give false) ++ blocks.getLast?.toList.flatMap (give ending.isEmpty) := by
  induction blocks with
  | nil => exact nothing
  | cons first blocks inductionHypothesis =>
      have firstWellFormed := wellFormed first List.mem_cons_self
      have others : ∀ block ∈ blocks, block.WellFormed := fun block member =>
        wellFormed block (List.mem_cons_of_mem _ member)
      by_cases last : blocks = []
      · simp only [last, renderAll, List.map_singleton, List.intercalate_singleton,
          each firstWellFormed feeds]
        simp
      · have flush : Flush (first.render ++ ['\n', '\n']) := flush_append _ (by decide) (by simp)
        have between : ∀ c ∈ ['\n', '\n'], c = '\n' := by simp
        obtain ⟨front, final, split⟩ := (List.eq_nil_or_concat blocks).resolve_left last
        rw [renderAll_cons first last, List.append_assoc,
          additive flush (barrier_renderAll last others ending), each firstWellFormed between,
          inductionHypothesis others, split, List.concat_eq_append, ← List.cons_append,
          List.dropLast_concat, List.dropLast_concat, List.getLast?_concat, List.getLast?_concat,
          List.flatMap_cons, List.append_assoc]
        rfl

end Block

namespace Summary

/-- The blocks of a summary in the order in which they are written. -/
def blocks (summary : Summary) : List Block :=
  summary.globals.map Block.ofGlobal ++ summary.functions.map Block.ofFunction ++
    summary.classes.map Block.ofClass

theorem render_eq (summary : Summary) : summary.render = Block.renderAll summary.blocks := by
  simp only [render, Block.renderAll, blocks, List.map_append, List.map_map]
  rfl

theorem wellFormed_blocks (source path : Text) : ∀ block ∈ (scan source path).blocks, block.WellFormed := by
  intro block member
  simp only [blocks, List.mem_append, List.mem_map] at member
  rcases member with (⟨entry, inside, rfl⟩ | ⟨function, inside, rfl⟩) | ⟨entry, inside, rfl⟩
  · exact GlobalEntry.wellFormed_of_mem_listOf inside
  · exact FunctionEntry.wellFormed_of_mem_listOf inside
  · exact ClassEntry.wellFormed_of_mem_listOf inside

/-- What all blocks give is what all but the last give, and the last. -/
theorem flatMap_dropLast {α : Type} (give : Block → List α) (blocks : List Block) :
    blocks.dropLast.flatMap give ++ blocks.getLast?.toList.flatMap give = blocks.flatMap give := by
  rcases List.eq_nil_or_concat blocks with rfl | ⟨front, last, rfl⟩
  · rfl
  · simp

theorem flatMap_blocks {α : Type} (give : Block → List α) (summary : Summary) :
    summary.blocks.flatMap give =
      summary.globals.flatMap (fun entry => give (.ofGlobal entry)) ++
        summary.functions.flatMap (fun function => give (.ofFunction function)) ++
        summary.classes.flatMap (fun entry => give (.ofClass entry)) := by
  simp only [blocks, List.flatMap_append, List.flatMap_map]

theorem flatMap_functions (summary : Summary) :
    summary.blocks.flatMap Block.functions = summary.functions := by
  have noGlobal : summary.globals.flatMap (fun entry => (Block.ofGlobal entry).functions) = [] :=
    List.flatMap_eq_nil_iff.mpr fun _ _ => rfl
  have noClass : summary.classes.flatMap (fun entry => (Block.ofClass entry).functions) = [] :=
    List.flatMap_eq_nil_iff.mpr fun _ _ => rfl
  rw [flatMap_blocks, noGlobal, noClass, List.nil_append, List.append_nil]
  exact List.flatMap_singleton' summary.functions

theorem flatMap_globals (summary : Summary) : summary.blocks.flatMap Block.globals = summary.globals := by
  have noFunction : summary.functions.flatMap (fun entry => (Block.ofFunction entry).globals) = [] :=
    List.flatMap_eq_nil_iff.mpr fun _ _ => rfl
  have noClass : summary.classes.flatMap (fun entry => (Block.ofClass entry).globals) = [] :=
    List.flatMap_eq_nil_iff.mpr fun _ _ => rfl
  rw [flatMap_blocks, noFunction, noClass, List.append_nil, List.append_nil]
  exact List.flatMap_singleton' summary.globals

theorem flatMap_classes (summary : Summary) :
    summary.blocks.flatMap (Block.classes false) = summary.classes.map ClassEntry.shown := by
  have noGlobal : summary.globals.flatMap (fun entry => (Block.ofGlobal entry).classes false) = [] :=
    List.flatMap_eq_nil_iff.mpr fun _ _ => rfl
  have noFunction :
      summary.functions.flatMap (fun function => (Block.ofFunction function).classes false) = [] :=
    List.flatMap_eq_nil_iff.mpr fun _ _ => rfl
  rw [flatMap_blocks, noGlobal, noFunction, List.map_eq_flatMap, List.nil_append, List.nil_append]
  simp [Block.classes]

end Summary

/-- The classes that are found when the last line has no end: the last class is missing if it is
bare. -/
def ClassEntry.ended (classes : List ClassEntry) : List ClassEntry :=
  if classes.getLast?.any ClassEntry.isBare then classes.dropLast else classes

namespace Summary

/-- At the very end of a text, the last block gives no bare class. -/
theorem flatMap_classes_ended (summary : Summary) :
    summary.blocks.dropLast.flatMap (Block.classes false) ++
        summary.blocks.getLast?.toList.flatMap (Block.classes true) =
      (ClassEntry.ended summary.classes).map ClassEntry.shown := by
  rcases List.eq_nil_or_concat summary.classes with none | ⟨front, last, split⟩
  · have nothing : ∀ atEnd, ∀ block ∈ summary.blocks, block.classes atEnd = [] := by
      intro atEnd block member
      simp only [blocks, none, List.map_nil, List.append_nil, List.mem_append, List.mem_map] at member
      rcases member with ⟨entry, _, rfl⟩ | ⟨function, _, rfl⟩ <;> rfl
    have front : summary.blocks.dropLast.flatMap (Block.classes false) = [] :=
      List.flatMap_eq_nil_iff.mpr fun block member =>
        nothing false block (List.dropLast_subset _ member)
    have last : summary.blocks.getLast?.toList.flatMap (Block.classes true) = [] :=
      List.flatMap_eq_nil_iff.mpr fun block member =>
        nothing true block (List.mem_of_getLast? (Option.mem_toList.mp member))
    rw [front, last, none]
    rfl
  · -- The blocks in front of the last class are those of the summary without that class.
    have whole : summary.blocks =
        ({ summary with classes := front } : Summary).blocks ++ [Block.ofClass last] := by
      simp [blocks, split]
    have earlier := flatMap_classes { summary with classes := front }
    rw [whole, List.dropLast_concat, List.getLast?_concat, earlier, split, ClassEntry.ended]
    cases bare : last.isBare <;> simp [Block.classes, bare]

section Scan

variable (source path : Text) {ending : Text} (feeds : ∀ c ∈ ending, c = '\n')

include feeds

theorem functions_render :
    FunctionEntry.listOf ((scan source path).render ++ ending) = (scan source path).functions := by
  have nothing : FunctionEntry.listOf ending = [] := by
    rw [FunctionEntry.listOf, Reader.values_feeds Signature.read?_lawful Signature.barrier_of_read? feeds,
      List.map_nil]
  rw [render_eq, Block.find_renderAll (fun _ => Block.functions) FunctionEntry.listOf_append
    Block.listOf_functions feeds nothing (wellFormed_blocks source path), flatMap_dropLast,
    flatMap_functions]

theorem globals_render :
    GlobalEntry.listOf ((scan source path).render ++ ending) = (scan source path).globals := by
  have nothing : GlobalEntry.listOf ending = [] := by
    rw [GlobalEntry.listOf_eq, Reader.values_feeds GlobalEntry.declaration?_lawful
      GlobalEntry.barrier_of_declaration? feeds]
  rw [render_eq, Block.find_renderAll (fun _ => Block.globals)
    (fun flush _ => GlobalEntry.listOf_append flush) Block.listOf_globals feeds nothing
    (wellFormed_blocks source path), flatMap_dropLast, flatMap_globals]

theorem classes_render :
    ClassEntry.listOf ((scan source path).render ++ ending) =
      (scan source path).blocks.dropLast.flatMap (Block.classes false) ++
        (scan source path).blocks.getLast?.toList.flatMap (Block.classes ending.isEmpty) := by
  have nothing : ClassEntry.listOf ending = [] := by
    rw [ClassEntry.listOf, Reader.values_feeds ClassText.read?_lawful ClassText.barrier_of_read? feeds,
      List.map_nil]
  rw [render_eq, Block.find_renderAll Block.classes ClassEntry.listOf_append Block.listOf_classes feeds
    nothing (wellFormed_blocks source path)]

end Scan

/-- The written form of what a scan finds, with the end of its last line, is scanned to the same
again, but for the constructors of classes without bases. Without the end of the last line, the same
holds but for a bare class at the end, which is not found. -/
theorem scan_render (source path : Text) :
    let summary := scan source path
    scan (summary.render ++ ['\n']) path =
        { summary with classes := summary.classes.map ClassEntry.shown } ∧
      scan summary.render path =
        { summary with classes := (ClassEntry.ended summary.classes).map ClassEntry.shown } ∧
      ∀ entry : ClassEntry, entry.isBare ↔ entry.render = entry.renderHeader := by
  intro summary
  refine ⟨?_, ?_, fun entry => entry.render_eq_renderHeader_iff.symm⟩
  · have feed : ∀ c ∈ ['\n'], c = '\n' := by simp
    have classes := classes_render source path feed
    rw [List.isEmpty_cons, flatMap_dropLast, flatMap_classes] at classes
    rw [scan, functions_render source path feed, globals_render source path feed, classes]
    rfl
  · have none : ∀ c ∈ ([] : Text), c = '\n' := by simp
    have functions := functions_render source path none
    have globals := globals_render source path none
    have classes := classes_render source path none
    rw [List.isEmpty_nil, flatMap_classes_ended] at classes
    rw [List.append_nil] at functions globals classes
    rw [scan, functions, globals, classes]
    rfl

example : ClassEntry.listOf "class A:\n".toList = [⟨['A'], [], []⟩] ∧
    ClassEntry.listOf "class A:".toList = [] := by decide

end Summary

end Outline
