/-
This file compares the scan of a text with the scan of the same text with carriage returns in front of
its line feeds. Functions, names and bases are the same. A body is cut at its first empty line, since a
carriage return does not start a body line; and a variable is found on a line that ends with its equals
sign, since the carriage return stands behind the sign.
-/

import Outline.Summary
import Outline.Proofs.Barrier
import Outline.Proofs.Return

namespace Outline

open Text

namespace Text

/-- The lines that are ended by a line feed. -/
def endedLines (text : Text) : List Text := (text.splitOn '\n').dropLast

/-- The line behind the last line feed. -/
def openLine (text : Text) : Text := (text.splitOn '\n').getLast?.getD []

theorem exists_splitOn_withReturns (text : Text) :
    ∃ ended last, text.splitOn '\n' = ended ++ [last] ∧
      (withReturns text).splitOn '\n' = ended.map (· ++ ['\r']) ++ [last] := by
  induction text with
  | nil => exact ⟨[], [], by simp, by simp⟩
  | cons first rest inductionHypothesis =>
      obtain ⟨ended, last, split, splitReturns⟩ := inductionHypothesis
      by_cases feed : first = '\n'
      · refine ⟨[] :: ended, last, ?_, ?_⟩ <;>
          simp [feed, List.splitOn_cons_eq_if_modifyHead, split, splitReturns]
      · cases ended with
        | nil =>
            refine ⟨[], first :: last, ?_, ?_⟩ <;>
              simp [feed, List.splitOn_cons_eq_if_modifyHead, split, splitReturns]
        | cons line ended =>
            refine ⟨(first :: line) :: ended, last, ?_, ?_⟩ <;>
              simp [feed, List.splitOn_cons_eq_if_modifyHead, split, splitReturns]

theorem splitOn_eq_endedLines (text : Text) : text.splitOn '\n' = endedLines text ++ [openLine text] := by
  obtain ⟨ended, last, split, _⟩ := exists_splitOn_withReturns text
  simp [endedLines, openLine, split]

/-- Each line that is ended gets a carriage return. -/
theorem splitOn_withReturns (text : Text) :
    (withReturns text).splitOn '\n' = (endedLines text).map (· ++ ['\r']) ++ [openLine text] := by
  obtain ⟨ended, last, split, splitReturns⟩ := exists_splitOn_withReturns text
  simp [endedLines, openLine, split, splitReturns]

/-- A run that stops at the last character does not reach it. -/
theorem takeWhile_concat {test : Char → Bool} {last : Char} (fails : test last = false) (text : Text) :
    (text ++ [last]).takeWhile test = text.takeWhile test := by
  induction text with
  | nil => simp [fails]
  | cons first rest inductionHypothesis =>
      cases passes : test first <;> simp [passes, inductionHypothesis]

theorem dropWhile_concat {test : Char → Bool} {last : Char} (fails : test last = false) (text : Text) :
    (text ++ [last]).dropWhile test = text.dropWhile test ++ [last] := by
  induction text with
  | nil => simp [fails]
  | cons first rest inductionHypothesis =>
      cases passes : test first <;> simp [passes, inductionHypothesis]

theorem identifier?_return (line : Text) :
    identifier? (line ++ ['\r']) = (identifier? line).map (Prod.map id (· ++ ['\r'])) := by
  have ends : isIdentifierPart '\r' = false := by decide
  cases line with
  | nil => rfl
  | cons first rest =>
      by_cases start : isIdentifierStart first
      · simp [identifier?, start, takeWhile_concat ends, dropWhile_concat ends]
      · simp [identifier?, start]

theorem trim_return (value : Text) : trim (value ++ ['\r']) = trim value := by
  have space : isSpace '\r' = true := by decide
  by_cases blank : trimLeft value = []
  · have rest : trimLeft ['\r'] = [] := by decide
    rw [trim, trim, trimLeft_append_of_eq_nil blank, rest, blank]
  · rw [trim, trim, trimLeft_append_of_ne_nil blank, trimRight, dropWhileRight, List.reverse_append,
      List.reverse_singleton, List.singleton_append, List.dropWhile_cons_of_pos space]
    rfl

theorem isPrefixOf_return {word : Text} (absent : '\r' ∉ word) (line : Text) :
    word.isPrefixOf (line ++ ['\r']) = word.isPrefixOf line := by
  rw [Bool.eq_iff_iff, List.isPrefixOf_iff_prefix, List.isPrefixOf_iff_prefix, List.prefix_concat_iff]
  constructor
  · intro shape
    rcases shape with rfl | shorter
    · simp at absent
    · exact shorter
  · exact Or.inr

end Text

namespace GlobalEntry

/-- The assignment on a top-level line, with all that stands behind the equals sign. -/
def assignment? (line : Text) : Option GlobalEntry :=
  if isTopLevel line then
    (identifier? line).bind fun named =>
      (assigned? (named.2.dropWhile isBlank)).map fun found => ⟨named.1, found.1, found.2⟩
  else none

theorem declared?_eq_assignment? (line : Text) :
    declared? line = (assignment? line).bind fun entry =>
      if entry.value.isEmpty then none else some { entry with value := trim entry.value } := by
  by_cases top : isTopLevel line
  · simp only [declared?, assignment?, top, if_true, ofLine?, Option.bind_eq_bind, Option.bind_assoc,
      Option.bind_map]
    rfl
  · simp [declared?, assignment?, top]

/-- A line is left open if nothing stands behind its equals sign. -/
def leftOpen? (line : Text) : Option GlobalEntry :=
  (assignment? line).filter fun entry => entry.value.isEmpty

theorem isTopLevel_return (line : Text) : isTopLevel (line ++ ['\r']) = isTopLevel line := by
  cases line with
  | nil => decide
  | cons first rest =>
      have signature := isPrefixOf_return (by decide : '\r' ∉ Signature.keyword) (first :: rest)
      have classText := isPrefixOf_return (by decide : '\r' ∉ ClassText.keyword) (first :: rest)
      have sign := isPrefixOf_return (by decide : '\r' ∉ decorator) (first :: rest)
      rw [List.cons_append] at signature classText sign
      simp only [List.cons_append, isTopLevel, signature, classText, sign]

/-- The carriage return stands behind what is assigned. -/
theorem assigned?_return (text : Text) :
    assigned? (text ++ ['\r']) = (assigned? text).map (Prod.map id (· ++ ['\r'])) := by
  cases text with
  | nil => rfl
  | cons first rest =>
      by_cases sign : first = '='
      · subst sign
        rfl
      · by_cases colon : first = ':'
        · subst colon
          by_cases inside : '=' ∈ rest
          · obtain ⟨spelled, value, rfl, absent⟩ := List.eq_append_cons_of_mem inside
            rw [List.cons_append, List.append_assoc, List.cons_append, assigned?_colon absent,
              assigned?_colon absent]
            split <;> rfl
          · rw [assigned?_unsigned inside, List.cons_append, assigned?_unsigned (by simp [inside])]
            rfl
        · simp [assigned?, sign, colon]

theorem assignment?_return (line : Text) :
    assignment? (line ++ ['\r']) =
      (assignment? line).map fun entry => { entry with value := entry.value ++ ['\r'] } := by
  have blank : isBlank '\r' = false := by decide
  by_cases top : isTopLevel line
  · simp only [assignment?, isTopLevel_return, top, if_true, identifier?_return]
    cases identifier? line with
    | none => rfl
    | some named =>
        simp only [Option.map_some, Option.bind_some, Prod.map, dropWhile_concat blank,
          assigned?_return, Option.map_map]
        rfl
  · simp [assignment?, isTopLevel_return, top]

/-- With a carriage return at its end, a line declares what it declares without; and if it is left
open, it declares its variable without a value. -/
theorem declared?_return (line : Text) :
    declared? (line ++ ['\r']) = (declared? line).or (leftOpen? line) := by
  rw [declared?_eq_assignment?, declared?_eq_assignment?, leftOpen?, assignment?_return]
  cases assignment? line with
  | none => rfl
  | some entry =>
      obtain ⟨name, hint, value⟩ := entry
      cases value with
      | nil => rfl
      | cons first value =>
          have trimmed : trim (first :: (value ++ ['\r'])) = trim (first :: value) :=
            trim_return (first :: value)
          simp [trimmed]

theorem declared?_of_leftOpen? {line : Text} (found : leftOpen? line ≠ none) : declared? line = none := by
  rw [declared?_eq_assignment?]
  rw [leftOpen?] at found
  cases assigned : assignment? line with
  | none => rfl
  | some entry =>
      obtain ⟨name, hint, value⟩ := entry
      cases value with
      | nil => rfl
      | cons first value => simp [assigned] at found

/-- The variables of the lines that are ended, and the variable of the line that is not. -/
theorem listOf_eq_lines (source : Text) :
    listOf source = (endedLines source).filterMap declared? ++ (declared? (openLine source)).toList := by
  rw [listOf_eq_filterMap, splitOn_eq_endedLines, List.filterMap_append]
  cases found : declared? (openLine source) <;> simp [found]

theorem listOf_withReturns (source : Text) :
    listOf (withReturns source) =
      (endedLines source).filterMap (fun line => (declared? line).or (leftOpen? line))
        ++ (declared? (openLine source)).toList := by
  rw [listOf_eq_filterMap, splitOn_withReturns, List.filterMap_append,
    List.filterMap_map]
  congr 1
  exact List.filterMap_congr fun line _ => declared?_return line

/-- Findings in addition to others make the list longer. -/
theorem length_filterMap_declared?_le (lines : List Text) :
    (lines.filterMap declared?).length ≤
      (lines.filterMap fun line => (declared? line).or (leftOpen? line)).length := by
  induction lines with
  | nil => exact Nat.le_refl 0
  | cons line lines inductionHypothesis =>
      cases found : declared? line with
      | some entry => simpa [found] using inductionHypothesis
      | none =>
          cases left : leftOpen? line with
          | none => simpa [found, left] using inductionHypothesis
          | some entry =>
              simp only [List.filterMap_cons, found, left, Option.none_or, List.length_cons]
              omega

theorem filterMap_leftOpen?_eq_iff (lines : List Text) :
    lines.filterMap (fun line => (declared? line).or (leftOpen? line)) = lines.filterMap declared? ↔
      ∀ line ∈ lines, leftOpen? line = none := by
  constructor
  · intro same
    induction lines with
    | nil => simp
    | cons line lines inductionHypothesis =>
        cases left : leftOpen? line with
        | none =>
            simp only [List.filterMap_cons, left, Option.or_none] at same
            have later : lines.filterMap (fun line => (declared? line).or (leftOpen? line)) =
                lines.filterMap declared? := by
              cases found : declared? line with
              | none => simpa [found] using same
              | some entry => simpa [found] using same
            exact List.forall_mem_cons.mpr ⟨left, inductionHypothesis later⟩
        | some entry =>
            have found := declared?_of_leftOpen? (by simp [left] : leftOpen? line ≠ none)
            have lengths := congrArg List.length same
            have longer := length_filterMap_declared?_le lines
            simp only [List.filterMap_cons, found, left, Option.none_or, List.length_cons] at lengths
            omega
  · intro none
    refine List.filterMap_congr fun line member => ?_
    rw [none line member, Option.or_none]

end GlobalEntry

namespace ClassText

theorem stops_withReturns {test : Char → Bool} (same : test '\r' = test '\n') {text : Text}
    (stops : Stops test text) : Stops test (withReturns text) := by
  cases text with
  | nil => exact stops_nil test
  | cons first rest =>
      by_cases feed : first = '\n'
      · subst feed
        rw [stops_cons] at stops
        exact (stops_cons _ _ _).mpr (same.trans stops)
      · rw [withReturns_cons feed]
        exact stops

theorem spaces_withReturns {gap : Text} (spaces : ∀ c ∈ gap, isSpace c) :
    ∀ c ∈ withReturns gap, isSpace c := by
  intro c member
  obtain ⟨character, inside, among⟩ := List.mem_flatMap.mp member
  split at among
  · simp only [List.mem_cons, List.not_mem_nil, or_false] at among
    rcases among with rfl | rfl <;> decide
  · rw [List.mem_singleton.mp among]
    exact spaces character inside

theorem afterGap?_withReturns (gap rest : Text) :
    afterGap? (withReturns gap) (withReturns rest) = (afterGap? gap rest).map withReturns := by
  by_cases feed : '\n' ∈ gap
  · obtain ⟨start, found⟩ : ∃ start, afterGap? gap rest = some start := by simp [afterGap?, feed]
    obtain ⟨lines, margin, rfl, single, rfl⟩ := afterGap?_eq_some_iff.mp found
    rw [found]
    apply afterGap?_eq_some_iff.mpr
    refine ⟨withReturns lines ++ ['\r'], margin, ?_, single, ?_⟩
    · simp [withReturns_append, withReturns_of_single single]
    · rw [withReturns_append, withReturns_of_single single]
  · rw [withReturns_of_single feed]
    simp [afterGap?, feed]

/-- The header ends at the same place. -/
theorem headerEnd?_withReturns (text : Text) :
    headerEnd? (withReturns text) = (headerEnd? text).map withReturns := by
  obtain ⟨gap, spaces, cases⟩ := exists_gap_cases text
  have spaces' := spaces_withReturns spaces
  have sign : '#' ≠ '\n' := by decide
  rcases cases with ⟨comment, rest, single, rfl⟩ | ⟨comment, single, rfl⟩ | ⟨rest, stops, noComment, rfl⟩
  · have whole : withReturns (gap ++ '#' :: (comment ++ '\n' :: rest)) =
        withReturns gap ++ '#' :: ((comment ++ ['\r']) ++ '\n' :: withReturns rest) := by
      simp [withReturns_append, withReturns_of_single single]
    rw [whole, headerEnd?_comment spaces' (by simp [single]), headerEnd?_comment spaces single]
    rfl
  · have whole : withReturns (gap ++ '#' :: comment) = withReturns gap ++ '#' :: comment := by
      simp [withReturns_append, withReturns_of_single single]
    have kept : withReturns ('#' :: comment) = '#' :: comment :=
      withReturns_of_single (by simp [single])
    rw [whole, headerEnd?_unfinished spaces' single, headerEnd?_unfinished spaces single,
      ← afterGap?_withReturns, kept]
  · rw [withReturns_append, headerEnd?_gap spaces' (stops_withReturns (by decide) stops)
      (stops_withReturns (by decide) noComment), headerEnd?_gap spaces stops noComment,
      afterGap?_withReturns]

/-- The part of a body in front of its first empty line. -/
def beforeGap (lineStart : Bool) : Text → Text
  | [] => []
  | character :: rest =>
      if lineStart && character == '\n' then [] else character :: beforeGap (character == '\n') rest

/-- With carriage returns, the body ends in front of its first empty line. -/
theorem splitBody_withReturns (lineStart : Bool) (text : Text) :
    (splitBody lineStart (withReturns text)).1 =
      withReturns (beforeGap lineStart (splitBody lineStart text).1) := by
  induction text generalizing lineStart with
  | nil => rfl
  | cons first rest inductionHypothesis =>
      by_cases feed : first = '\n'
      · subst feed
        have outside : startsBodyLine '\r' = false := by decide
        have inside : startsBodyLine '\n' = true := by decide
        cases lineStart <;> simp [splitBody_cons, outside, inside, beforeGap, inductionHypothesis]
      · have other : (first == '\n') = false := by simpa using feed
        rw [withReturns_cons feed, splitBody_cons, splitBody_cons]
        split
        · rfl
        · simp [beforeGap, other, feed, inductionHypothesis]

/-- A class text whose body is cut at its first empty line. -/
def cut (text : ClassText) : ClassText := { text with body := beforeGap true text.body }

theorem answer_withReturns (text : Text) :
    read?.answer (withReturns text) =
      (read?.answer text).map fun found => { found.cut with body := withReturns found.cut.body } := by
  simp only [Reader.answer, read?_eq, heading?_blind (by decide : '\r' ∉ keyword ∧ '\n' ∉ keyword) text]
  cases heading? keyword text with
  | none => rfl
  | some named =>
      simp only [Option.map_some, Option.bind_some, Prod.map, remainder?, opening?_blind named.2]
      cases opening? named.2 with
      | none => rfl
      | some opened =>
          simp only [Option.map_some, Option.bind_some, Prod.map, body?, headerEnd?_withReturns]
          cases headerEnd? opened.2 with
          | none => rfl
          | some start =>
              simp only [Option.map_some, Prod.map, splitBody_withReturns]
              rfl

theorem toClass_withReturns (text : ClassText) :
    ({ text with body := withReturns text.body } : ClassText).toClass = text.toClass := by
  simp only [toClass, constructorParameters, first?_constructor?_withReturns]

end ClassText

theorem ClassEntry.listOf_withReturns (source : Text) :
    ClassEntry.listOf (withReturns source) =
      (ClassText.read?.values source).map fun text => text.cut.toClass := by
  rw [ClassEntry.listOf, Reader.values_withReturns ClassText.read?_lawful _ ClassText.answer_withReturns,
    List.map_map]
  exact List.map_congr_left fun text _ => ClassText.toClass_withReturns text.cut

theorem FunctionEntry.listOf_withReturns (source : Text) :
    FunctionEntry.listOf (withReturns source) = FunctionEntry.listOf source := by
  rw [FunctionEntry.listOf, Signature.read?_blind.values_eq Signature.read?_lawful]
  rfl

namespace Summary

/-- With carriage returns, a scan finds the same functions; the same classes, but with the constructor
that their body has in front of its first empty line; and the same global variables, together with
those on lines that are left open. So the scans are the same exactly if no class loses a constructor
and no line that is ended is left open. -/
theorem scan_withReturns (source path : Text) :
    (scan (withReturns source) path).functions = (scan source path).functions ∧
      (scan (withReturns source) path).classes =
        (ClassText.read?.values source).map (fun text => text.cut.toClass) ∧
      (scan (withReturns source) path).globals =
        (endedLines source).filterMap
            (fun line => (GlobalEntry.declared? line).or (GlobalEntry.leftOpen? line))
          ++ (GlobalEntry.declared? (openLine source)).toList ∧
      (scan (withReturns source) path = scan source path ↔
        (∀ text ∈ ClassText.read?.values source, text.cut.toClass = text.toClass) ∧
          ∀ line ∈ endedLines source, GlobalEntry.leftOpen? line = none) := by
  have functions := FunctionEntry.listOf_withReturns source
  have classes := ClassEntry.listOf_withReturns source
  have globals := GlobalEntry.listOf_withReturns source
  refine ⟨functions, classes, globals, ?_⟩
  rw [← GlobalEntry.filterMap_leftOpen?_eq_iff]
  rw [scan, scan, Summary.mk.injEq, functions, classes, globals, GlobalEntry.listOf_eq_lines source,
    List.append_left_inj, ClassEntry.listOf, List.map_inj_left]
  tauto

/-- A constructor behind an empty line is lost, and a line without a value declares a variable. -/
theorem scan_withReturns_differs :
    let gap := "class A:\n    x\n\n    def __init__(self):\n".toList
    let unfinished := "x =\ny = 2\n".toList
    scan (withReturns gap) [] ≠ scan gap [] ∧ scan (withReturns unfinished) [] ≠ scan unfinished [] := by
  decide

end Summary

end Outline
