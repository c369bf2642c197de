/-
This file states that the summary of a source file does not depend on how the lines of the file end.
-/

import Outline.Proofs.SourceFile

namespace Outline

namespace Text

/-- A line ends with a line feed, with a carriage return and a line feed, or with a carriage return. -/
inductive LineEnding where
  | feed
  | returnFeed
  | carriageReturn
  deriving DecidableEq

namespace LineEnding

def mark : LineEnding → Text
  | feed => ['\n']
  | returnFeed => ['\r', '\n']
  | carriageReturn => ['\r']

/-- Every line feed of a text is replaced by the mark of the line ending. -/
def write (ending : LineEnding) (text : Text) : Text :=
  text.flatMap fun character => if character = '\n' then ending.mark else [character]

@[simp] theorem write_feed (ending : LineEnding) (rest : Text) :
    ending.write ('\n' :: rest) = ending.mark ++ ending.write rest := rfl

@[simp] theorem write_cons (ending : LineEnding) {first : Char} (other : first ≠ '\n') (rest : Text) :
    ending.write (first :: rest) = first :: ending.write rest := by
  simp [write, other]

/-- A text that is written with carriage returns alone has no line feed left. -/
theorem newline_not_mem_write (text : Text) : '\n' ∉ carriageReturn.write text := by
  intro member
  obtain ⟨character, _, among⟩ := List.mem_flatMap.mp member
  by_cases feed : character = '\n'
  · simp [feed, mark] at among
  · simp [feed, Ne.symm feed] at among

end LineEnding

theorem unifyNewlines_cons {first : Char} (other : first ≠ '\r') (rest : Text) :
    unifyNewlines (first :: rest) = first :: unifyNewlines rest := by
  rw [unifyNewlines.eq_def]
  simp [other]

/-- A carriage return without a line feed behind it becomes a line feed. -/
theorem unifyNewlines_return {rest : Text} (alone : Stops (· == '\n') rest) :
    unifyNewlines ('\r' :: rest) = '\n' :: unifyNewlines rest := by
  cases rest with
  | nil => rfl
  | cons next rest =>
      have different : next ≠ '\n' := by simpa using alone
      rw [unifyNewlines.eq_def]
      simp [different]

/-- One mark in front becomes one line feed, whichever mark it is. -/
theorem unifyNewlines_mark (ending : LineEnding) (text : Text) :
    unifyNewlines (ending.mark ++ ending.write text) = '\n' :: unifyNewlines (ending.write text) := by
  cases ending with
  | feed => exact unifyNewlines_cons (by decide) _
  | returnFeed => rfl
  | carriageReturn =>
      -- Only here a line feed behind the mark would be lost, and none is written.
      apply unifyNewlines_return
      intro first isFirst
      have inside := List.mem_of_mem_head? isFirst
      have different : first ≠ '\n' := fun feed => LineEnding.newline_not_mem_write text (feed ▸ inside)
      simpa using different

/-- Unifying the line endings of a written text gives the text back. -/
theorem unifyNewlines_write (ending : LineEnding) {text : Text} (noReturn : '\r' ∉ text) :
    unifyNewlines (ending.write text) = text := by
  induction text with
  | nil => rfl
  | cons first rest inductionHypothesis =>
      obtain ⟨different, later⟩ := List.ne_and_not_mem_of_not_mem_cons noReturn
      by_cases feed : first = '\n'
      · rw [feed, LineEnding.write_feed, unifyNewlines_mark, inductionHypothesis later]
      · rw [LineEnding.write_cons _ feed, unifyNewlines_cons (Ne.symm different),
          inductionHypothesis later]

end Text

namespace SourceFile

open Text

/-- A source file that holds the octets of a text is read as that text. -/
theorem read_encode {host : Host} {directory : Path} {path text : Text}
    (found : host.find (target directory path) = .ok (some (.file (Utf8.encode text))))
    (source : Path.NamesSource (target directory path).name) :
    read host directory path = .ok (unifyNewlines text) := by
  have decoded : Utf8.decode (Utf8.encode text) = .ok text := Utf8.decode_eq_ok_iff.mpr rfl
  rw [read_of_contents found rfl, if_pos ((Path.isSource_iff _).mpr source)]
  change (Utf8.decode (Utf8.encode text)).mapError Fault.undecodable >>= _ = _
  rw [decoded]
  rfl

/-- The summary of a source file is the scan of its text, however the lines of the file end. -/
theorem summary_write {host : Host} {directory : Path} {path text : Text} (ending : LineEnding)
    (noReturn : '\r' ∉ text)
    (found : host.find (target directory path) = .ok (some (.file (Utf8.encode (ending.write text)))))
    (source : Path.NamesSource (target directory path).name) :
    summary host directory path = .ok (Summary.scan text path) := by
  rw [summary, read_encode found source, unifyNewlines_write ending noReturn]
  rfl

/-- A host whose only file holds a text with the given line ending. -/
def hostOf (ending : LineEnding) (text : Text) : Host :=
  let disk : Disk :=
    { current := ⟨['/'], ["work".toList]⟩
      items := [(["work".toList, "a.PYI".toList], .file (Utf8.encode (ending.write text)))] }
  disk.hostWith fun _ => .malformed

/-- An empty line inside a class and a letter of two octets are read alike with each ending. -/
theorem summary_write_emptyLine :
    let text := "class A:\n\n    def __init__(self, é):\n\ny = 1".toList
    let path := "./a.PYI".toList
    let host := hostOf .carriageReturn text
    ('\r' ∉ text ∧ Path.NamesSource (target host.current path).name ∧
        host.find (target host.current path) =
          .ok (some (.file (Utf8.encode (LineEnding.carriageReturn.write text))))) ∧
      summary host host.current path = .ok (Summary.scan text path) ∧
      summary (hostOf .returnFeed text) host.current path = .ok (Summary.scan text path) ∧
      summary (hostOf .feed text) host.current path = .ok (Summary.scan text path) := by
  intro text path host
  have noReturn : '\r' ∉ text := by decide
  have source : Path.NamesSource (target host.current path).name := (Path.isSource_iff _).mp (by decide)
  have found : ∀ ending, (hostOf ending text).find (target host.current path) =
      .ok (some (.file (Utf8.encode (ending.write text)))) := by
    intro ending
    cases ending <;> decide
  exact ⟨⟨noReturn, source, found .carriageReturn⟩,
    summary_write .carriageReturn noReturn (found _) source,
    summary_write .returnFeed noReturn (found _) source,
    summary_write .feed noReturn (found _) source⟩

end SourceFile

end Outline
