/-
This file states that an entry depends on its own span alone: the search in the excerpt that the span cuts
out of a source finds the same entry and nothing else.
-/

import Outline.Proofs.ClassGrammar
import Mathlib.Data.List.Forall2

namespace Outline

open Text

/-- The excerpt of a hit is the text that its span cuts out. -/
def Hit.excerpt {α : Type} (hit : Hit α) (source : Text) : Text := source.extract hit.start hit.stop

namespace Reader

variable {α β : Type} {read : Reader α}

/-- A reader is self-contained if it reads the text that it consumes alike when nothing follows. -/
def SelfContained (read : Reader α) : Prop :=
  ∀ {text rest : Text} {value : α}, read text = some (value, rest) →
    ∃ matched, text = matched ++ rest ∧ read matched = some (value, [])

theorem hitsFrom_of_covered (read : Reader α) {position covered : Nat} {lineStart : Bool} {text : Text}
    (all : text.length ≤ covered) : read.hitsFrom position covered lineStart text = [] := by
  induction text generalizing position covered lineStart with
  | nil => rw [hitsFrom]
  | cons character rest inductionHypothesis =>
      cases covered with
      | zero => simp at all
      | succ covered =>
          rw [hitsFrom]
          exact inductionHypothesis (Nat.le_of_succ_le_succ all)

/-- A text that is read to its end is one hit. -/
theorem hits_of_read {text : Text} {value : α} (nonempty : text ≠ []) (found : read text = some (value, [])) :
    read.hits text = [⟨0, text.length, value⟩] := by
  cases text with
  | nil => exact absurd rfl nonempty
  | cons character rest =>
      simp only [hits, hitsFrom, found, List.length_nil, Nat.sub_zero, Nat.zero_add, List.cons.injEq, true_and]
      exact hitsFrom_of_covered read (by simp)

/-- The excerpt of a hit is what the reader consumes, and it is read to its end. -/
theorem read_excerpt (lawful : read.Lawful) (selfContained : read.SelfContained) {source : Text}
    {hit : Hit α} (member : hit ∈ read.hits source) :
    hit.excerpt source ≠ [] ∧ (hit.excerpt source).length = hit.stop - hit.start ∧
      read (hit.excerpt source) = some (hit.value, []) := by
  obtain ⟨tail, rest, inside, reads, starts, stops⟩ := exists_tail_of_mem_hits lawful member
  obtain ⟨_, before, split, _⟩ := exists_flush_of_mem_lineTails inside
  obtain ⟨matched, whole, alone⟩ := selfContained reads
  obtain ⟨matched', nonempty, whole'⟩ := lawful.progress reads
  rw [← List.append_cancel_right (whole.symm.trans whole')] at nonempty
  have start : hit.start = before.length := by
    rw [starts, split, List.length_append]
    omega
  have stop : hit.stop = before.length + matched.length := by
    rw [stops, split, whole, List.length_append, List.length_append]
    omega
  have cut : hit.excerpt source = matched := by
    simp [Hit.excerpt, start, stop, split, whole]
  rw [cut]
  exact ⟨nonempty, by omega, alone⟩

/-- The search in an excerpt finds the hit again, moved to the front, and nothing else. -/
theorem hits_excerpt (lawful : read.Lawful) (selfContained : read.SelfContained) {source : Text}
    {hit : Hit α} (member : hit ∈ read.hits source) :
    read.hits (hit.excerpt source) = [⟨0, hit.stop - hit.start, hit.value⟩] := by
  obtain ⟨nonempty, length, found⟩ := read_excerpt lawful selfContained member
  rw [hits_of_read nonempty found, length]

theorem map_values_excerpt (lawful : read.Lawful) (selfContained : read.SelfContained) (make : α → β)
    {source : Text} {hit : Hit α} (member : hit ∈ read.hits source) :
    (read.values (hit.excerpt source)).map make = [make hit.value] := by
  rw [values, hits_excerpt lawful selfContained member]
  rfl

/-- What is made from the values of a search goes with the hits one by one. -/
theorem forall₂_hits {source : Text} {make : α → β} {holds : Hit α → β → Prop}
    (each : ∀ hit ∈ read.hits source, holds hit (make hit.value)) :
    List.Forall₂ holds (read.hits source) ((read.values source).map make) := by
  rw [values, List.map_map, List.forall₂_map_right_iff, List.forall₂_same]
  exact each

/-- A reader truncates if the end of what it leaves unread can be taken away from its text. -/
def Truncates (read : Reader α) : Prop :=
  ∀ {text front rest : Text} {value : α}, read text = some (value, front ++ rest) →
    ∃ matched, text = matched ++ rest ∧ read matched = some (value, front)

end Reader

/-- A heading whose name has ended stays the same when the end of the text behind it is taken away. -/
theorem Text.heading?_truncate {keyword text name front rest : Text}
    (found : heading? keyword text = some (name, front ++ rest)) (ended : front ≠ []) :
    ∃ matched, text = matched ++ rest ∧ heading? keyword matched = some (name, front) := by
  obtain ⟨⟨gap, nonempty, spaces, rfl⟩, identifier, stops⟩ := heading?_eq_some_iff.mp found
  refine ⟨keyword ++ (gap ++ (name ++ front)), by simp, heading?_eq_some_iff.mpr ?_⟩
  exact ⟨⟨gap, nonempty, spaces, rfl⟩, identifier, (stops_append ended).mp stops⟩

namespace Signature

theorem parameters?_truncates : Reader.Truncates parameters? := by
  intro text front rest parameters found
  obtain ⟨inside, gap, closing, spaces, closingSpaces, rfl⟩ := parameters?_eq_some_iff.mp found
  refine ⟨gap ++ '(' :: (parameters ++ ')' :: (closing ++ ':' :: front)), by simp, ?_⟩
  exact parameters?_eq_some_iff.mpr ⟨inside, gap, closing, spaces, closingSpaces, rfl⟩

/-- A signature ends with its colon, so nothing behind the colon matters. -/
theorem read?_selfContained : read?.SelfContained := by
  intro text rest signature found
  obtain ⟨unread, named, parameters⟩ := read?_eq_some_iff.mp found
  have ended : parameters? unread = some (signature.parameters, [] ++ rest) := parameters
  obtain ⟨front, rfl, alone⟩ := parameters?_truncates ended
  obtain ⟨opened, nonempty, split⟩ := parameters?_suffix alone
  obtain ⟨matched, whole, headed⟩ := heading?_truncate named (by simp [split, nonempty])
  exact ⟨matched, whole, read?_eq_some_iff.mpr ⟨front, headed, alone⟩⟩

end Signature

namespace ClassText

theorem opening?_truncates : Reader.Truncates opening? := by
  intro text front rest bases found
  obtain ⟨gap, spelled, spaces, listed, rfl⟩ := opening?_iff_spelled.mp found
  refine ⟨gap ++ (spelled ++ ':' :: front), by simp, ?_⟩
  exact opening?_iff_spelled.mpr ⟨gap, spelled, spaces, listed, rfl⟩

/-- A body is its own body. -/
theorem splitBody_body (lineStart : Bool) (text : Text) :
    splitBody lineStart (splitBody lineStart text).1 = ((splitBody lineStart text).1, []) := by
  induction text generalizing lineStart with
  | nil => rfl
  | cons character rest inductionHypothesis =>
      rw [splitBody_cons]
      split
      · rfl
      · rename_i inside
        rw [splitBody_cons, if_neg inside, inductionHypothesis]

/-- The body takes the margin of its first line whole, or it is empty. -/
theorem splitBody_margin {margin : Text} (single : '\n' ∉ margin) (rest : Text) :
    (splitBody true (margin ++ rest)).1 = [] ∨ margin <+: (splitBody true (margin ++ rest)).1 := by
  by_cases inside : ∀ first ∈ margin.head?, startsBodyLine first
  · right
    have longer := splitBody_isPrefix true margin rest
    rwa [splitBody_of_single single inside] at longer
  · left
    cases margin with
    | nil => simp at inside
    | cons first margin =>
        have outside : startsBodyLine first = false := by simpa using inside
        rw [List.cons_append, splitBody_cons, outside]
        rfl

/-- The end of a header stays in its place when the text behind the body is taken away. -/
theorem HeaderEnds.truncate {text start body rest : Text} (ends : HeaderEnds text start)
    (split : splitBody true start = (body, rest)) :
    ∃ matched, text = matched ++ rest ∧ HeaderEnds matched body := by
  have whole := splitBody_append_eq true start
  rw [split] at whole
  cases ends with
  | @comment gap comment _ spaces single =>
      exact ⟨gap ++ '#' :: (comment ++ '\n' :: body), by simp [← whole], .comment spaces single⟩
  | @gap before margin behind spaces last longest uncommented =>
      have taken := splitBody_margin last behind
      rw [split] at taken
      rcases taken with rfl | ⟨front, rfl⟩
      · -- White space behind the last line feed belongs to no body here and is taken away too.
        have shorter : before ++ ['\n'] <+: before ++ '\n' :: margin := ⟨margin, by simp⟩
        have bare : ∀ c ∈ before ++ '\n' :: [], isSpace c := fun c member =>
          spaces c (shorter.subset member)
        refine ⟨before ++ ['\n'], by simp [← whole], ?_⟩
        simpa using HeaderEnds.gap bare List.not_mem_nil (stops_nil isSpace) (by simp)
      · have behind_eq : front ++ rest = behind := by simpa using whole
        have isPrefix : front <+: behind := ⟨rest, behind_eq⟩
        refine ⟨(before ++ '\n' :: margin) ++ front, by simp [← behind_eq], ?_⟩
        refine .gap spaces last (stops_of_isPrefix isPrefix longest) fun sign member => ?_
        have sign' : behind.head? = some '#' := by rw [← behind_eq, List.head?_append, sign]; rfl
        exact uncommented sign' (isPrefix.subset member)

theorem body?_selfContained : body?.SelfContained := by
  intro text rest body found
  obtain ⟨start, ends, split⟩ := Option.map_eq_some_iff.mp found
  obtain ⟨matched, whole, alone⟩ := (headerEnd?_eq_some_iff.mp ends).truncate split
  have isBody := splitBody_body true start
  rw [split] at isBody
  refine ⟨matched, whole, ?_⟩
  rw [body?, headerEnd?_eq_some_iff.mpr alone, Option.map_some, isBody]

/-- Behind its body nothing matters for a class: the header ends where it did, and the body is the same. -/
theorem read?_selfContained : read?.SelfContained := by
  intro text rest classText found
  obtain ⟨named, unread, heading, opened, body⟩ := read?_eq_some_iff.mp found
  obtain ⟨front, rfl, bodyAlone⟩ := body?_selfContained body
  obtain ⟨front', rfl, openedAlone⟩ := opening?_truncates opened
  obtain ⟨opening, nonempty, split⟩ := opening?_suffix openedAlone
  obtain ⟨matched, whole, headed⟩ := heading?_truncate heading (by simp [split, nonempty])
  exact ⟨matched, whole, read?_eq_some_iff.mpr ⟨front', front, headed, openedAlone, bodyAlone⟩⟩

/-- The body ends the text that a class is read from. -/
theorem body_isSuffix {text : Text} {classText : ClassText} (found : read? text = some (classText, [])) :
    classText.body <:+ text := by
  obtain ⟨named, unread, heading, opened, body⟩ := read?_eq_some_iff.mp found
  obtain ⟨⟨gap, _, _, rfl⟩, _⟩ := heading?_eq_some_iff.mp heading
  obtain ⟨front, _, rfl⟩ := opening?_suffix opened
  obtain ⟨header, _, _, rfl⟩ := body?_suffix body
  exact ⟨keyword ++ (gap ++ (classText.name ++ (front ++ header))), by simp⟩

end ClassText

/-- Each class and each function that is found in a source is all that is found in the excerpt of its hit.
The hit there has the same text, moved to the front, so the header of a class ends at the same place, and
its body, which the constructor is taken from, is the end of the excerpt. -/
theorem entries_of_excerpts (source : Text) :
    List.Forall₂ (fun hit entry =>
        ClassEntry.listOf (hit.excerpt source) = [entry] ∧
          ClassText.read?.hits (hit.excerpt source) = [⟨0, hit.stop - hit.start, hit.value⟩] ∧
          hit.value.body <:+ hit.excerpt source)
        (ClassText.read?.hits source) (ClassEntry.listOf source) ∧
      List.Forall₂ (fun hit function =>
        FunctionEntry.listOf (hit.excerpt source) = [function] ∧
          Signature.read?.hits (hit.excerpt source) = [⟨0, hit.stop - hit.start, hit.value⟩])
        (Signature.read?.hits source) (FunctionEntry.listOf source) := by
  constructor
  · apply Reader.forall₂_hits
    intro hit member
    have alone := Reader.read_excerpt ClassText.read?_lawful ClassText.read?_selfContained member
    refine ⟨?_, ?_, ClassText.body_isSuffix alone.2.2⟩
    · exact Reader.map_values_excerpt ClassText.read?_lawful ClassText.read?_selfContained _ member
    · exact Reader.hits_excerpt ClassText.read?_lawful ClassText.read?_selfContained member
  · apply Reader.forall₂_hits
    intro hit member
    refine ⟨?_, ?_⟩
    · exact Reader.map_values_excerpt Signature.read?_lawful Signature.read?_selfContained _ member
    · exact Reader.hits_excerpt Signature.read?_lawful Signature.read?_selfContained member

/-- The excerpt of a class runs to the end of its body. -/
example :
    let source := "x = 1\nclass A:\n\n  # a\n def f(): 0\n\ny = 2".toList
    (ClassText.read?.hits source).map (·.excerpt source) = ["class A:\n\n  # a\n def f(): 0\n\n".toList] := by
  decide

end Outline
