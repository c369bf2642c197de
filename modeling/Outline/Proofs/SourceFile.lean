/-
This file states how the reading of a source file ends, for every item that its path can lead to.
-/

import Outline.SourceFile
import Outline.Proofs.Text
import Outline.Proofs.Utf8

namespace Outline

namespace Path

theorem suffixOf_of_not_mem {name : Text} (absent : '.' ∉ name) : suffixOf name = none := by
  have taken : name.reverse.takeWhile (· != '.') = name.reverse :=
    List.takeWhile_eq_self_iff.mpr (Text.run_of_not_mem (by simpa using absent))
  rw [suffixOf, taken, List.reverse_reverse, if_pos]
  simp

theorem suffixOf_append {stem ending : Text} (absent : '.' ∉ ending) :
    suffixOf (stem ++ '.' :: ending) = if ending = [] ∨ stem = [] then none else some ('.' :: ending) := by
  have reversed : (stem ++ '.' :: ending).reverse = ending.reverse ++ '.' :: stem.reverse := by simp
  have taken : (stem ++ '.' :: ending).reverse.takeWhile (· != '.') = ending.reverse := by
    rw [reversed]
    exact Text.takeWhile_ne (by simpa using absent) _
  have lengths : (stem ++ '.' :: ending).length < ending.length + 2 ↔ stem = [] := by
    rw [List.length_append, List.length_cons, ← List.length_eq_zero_iff]
    omega
  simp only [suffixOf, taken, List.reverse_reverse, Bool.or_eq_true, List.isEmpty_iff,
    decide_eq_true_eq, lengths]

theorem suffixOf_eq_some_iff {name suffix : Text} :
    suffixOf name = some suffix ↔
      ∃ stem ending, stem ≠ [] ∧ ending ≠ [] ∧ '.' ∉ ending ∧ name = stem ++ '.' :: ending ∧
        suffix = '.' :: ending := by
  constructor
  · intro found
    by_cases dotted : '.' ∈ name.reverse
    · obtain ⟨ending, stem, split, absent⟩ := List.eq_append_cons_of_mem dotted
      have whole : name = stem.reverse ++ '.' :: ending.reverse := by
        rw [← List.reverse_reverse name, split]
        simp
      rw [whole, suffixOf_append (by simpa using absent)] at found
      split_ifs at found with short
      rw [not_or] at short
      exact ⟨stem.reverse, ending.reverse, short.2, short.1, by simpa using absent, whole,
        (Option.some.inj found).symm⟩
    · rw [suffixOf_of_not_mem (by simpa using dotted)] at found
      exact absurd found (by simp)
  · rintro ⟨stem, ending, nonempty, nonempty', absent, rfl, rfl⟩
    rw [suffixOf_append absent, if_neg (by simp [nonempty, nonempty'])]

def sourceEndings : List Text := ["py", "pyi", "pyw"].map String.toList

/-- A name of a source has something in front of the dot and, in any case, one of three endings behind it. -/
def NamesSource (name : Text) : Prop :=
  ∃ stem ending, stem ≠ [] ∧ name = stem ++ '.' :: ending ∧ ending.map Char.toLower ∈ sourceEndings

theorem mem_sourceSuffixes_iff {ending : Text} :
    '.' :: ending ∈ sourceSuffixes ↔ ending ∈ sourceEndings := by
  simp [sourceSuffixes, sourceEndings]

theorem isSource_iff (path : Path) : path.isSource ↔ NamesSource path.name := by
  have lower : Char.toLower '.' = '.' := by decide
  rw [isSource, suffix?, Option.any_eq_true]
  constructor
  · rintro ⟨suffix, found, known⟩
    obtain ⟨stem, ending, nonempty, _, _, whole, rfl⟩ := suffixOf_eq_some_iff.mp found
    rw [List.contains_iff_mem, List.map_cons, lower, mem_sourceSuffixes_iff] at known
    exact ⟨stem, ending, nonempty, whole, known⟩
  · rintro ⟨stem, ending, nonempty, whole, known⟩
    have plain : ∀ ending ∈ sourceEndings, ending ≠ [] ∧ '.' ∉ ending := by decide
    obtain ⟨nonempty', absent⟩ := plain _ known
    have undotted : '.' ∉ ending := fun dotted => absent (lower ▸ List.mem_map_of_mem dotted)
    refine ⟨'.' :: ending, suffixOf_eq_some_iff.mpr ⟨stem, ending, nonempty, ?_, undotted, whole, rfl⟩, ?_⟩
    · exact fun empty => nonempty' (by rw [empty, List.map_nil])
    · rw [List.contains_iff_mem, List.map_cons, lower, mem_sourceSuffixes_iff]
      exact known

end Path

namespace SourceFile

/-- The path of a file as seen from a directory. -/
def target (directory : Path) (path : Text) : Path := (Path.ofText path).inside directory

/-- The ways in which reading a file ends. The name is looked at before the file is opened. -/
inductive Reads (host : Host) (directory : Path) (path : Text) : Except Fault Text → Prop where
  | refused {cause : Disk.Refusal} (found : host.find (target directory path) = .error cause) :
      Reads host directory path (.error (.refused cause))
  | missing {item : Option Disk.Item} (found : host.find (target directory path) = .ok item)
      (noFile : item = none ∨ item = some .directory) : Reads host directory path (.error (.missing path))
  | unsupported {item : Disk.Item} (found : host.find (target directory path) = .ok (some item))
      (isFile : item ≠ .directory) (other : ¬Path.NamesSource (target directory path).name) :
      Reads host directory path (.error (.unsupported path))
  | locked {cause : Disk.Refusal} (found : host.find (target directory path) = .ok (some (.locked cause)))
      (source : Path.NamesSource (target directory path).name) :
      Reads host directory path (.error (.refused cause))
  | undecodable {octets : List UInt8} {fault : Utf8.Fault}
      (found : host.find (target directory path) = .ok (some (.file octets)))
      (source : Path.NamesSource (target directory path).name)
      (faulty : Utf8.decode octets = .error fault) :
      Reads host directory path (.error (.undecodable fault))
  | read {text : Text}
      (found : host.find (target directory path) = .ok (some (.file (Utf8.encode text))))
      (source : Path.NamesSource (target directory path).name) :
      Reads host directory path (.ok (Text.unifyNewlines text))

theorem read_of_contents {host : Host} {directory : Path} {path : Text} {item : Disk.Item}
    {contents : Except Disk.Refusal (List UInt8)}
    (found : host.find (target directory path) = .ok (some item)) (opened : item.contents? = some contents) :
    read host directory path = if (target directory path).isSource then do
      let octets ← contents.mapError .refused
      return Text.unifyNewlines (← (Utf8.decode octets).mapError .undecodable)
      else throw (.unsupported path) := by
  have bound : (some item).bind Disk.Item.contents? = some contents := opened
  rw [read, ← target, found]
  simp only [Except.mapError, bind, Except.bind, bound]

theorem reads (host : Host) (directory : Path) (path : Text) :
    Reads host directory path (read host directory path) := by
  cases found : host.find (target directory path) with
  | error cause =>
      rw [read, ← target, found]
      exact .refused found
  | ok item =>
      match item with
      | none | some .directory =>
          rw [read, ← target, found]
          exact .missing found (by simp)
      | some (.locked cause) =>
          rw [read_of_contents found rfl]
          split
          · rename_i source
            exact .locked found ((Path.isSource_iff _).mp source)
          · rename_i other
            exact .unsupported found (by simp) (mt (Path.isSource_iff _).mpr other)
      | some (.file octets) =>
          rw [read_of_contents found rfl]
          split
          · rename_i source
            have named := (Path.isSource_iff _).mp source
            change Reads host directory path ((Utf8.decode octets).mapError .undecodable >>= _)
            cases decoded : Utf8.decode octets with
            | error fault => exact .undecodable found named decoded
            | ok text =>
                obtain rfl := Utf8.decode_eq_ok_iff.mp decoded
                exact .read found named
          · rename_i other
            exact .unsupported found (by simp) (mt (Path.isSource_iff _).mpr other)

end SourceFile

end Outline
