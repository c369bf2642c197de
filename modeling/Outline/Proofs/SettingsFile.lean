/-
This file states when the loading of the settings fails, and what each setting is when it does not.
-/

import Outline.Proofs.Utf8
import Outline.Settings.File

namespace Outline

/-- What a document says at a path of keys. Of the entries with one key, the first counts. -/
inductive Content.Says : Content → List Text → Bool → Prop where
  | here (on : Bool) : Says (.switch on) [] on
  | under {before after : List (Text × Content)} {key : Text} {value : Content} {path : List Text} {on : Bool}
      (first : ∀ entry ∈ before, entry.1 ≠ key) (said : Says value path on) :
      Says (.mapping (before ++ (key, value) :: after)) (key :: path) on

theorem Content.switch?_eq_some_iff {content : Content} {path : List Text} {on : Bool} :
    content.switch? path = some on ↔ content.Says path on := by
  induction path generalizing content with
  | nil =>
      constructor
      · intro found
        cases content with
        | switch value =>
            obtain rfl : value = on := Option.some.inj found
            exact .here value
        | mapping entries | other => contradiction
      · intro said
        cases said
        rfl
  | cons key path inductionHypothesis =>
      constructor
      · intro found
        obtain ⟨value, known, said⟩ := Option.bind_eq_some_iff.mp found
        cases content with
        | switch value | other => contradiction
        | mapping entries =>
            obtain ⟨before, after, rfl, first⟩ := List.lookup_eq_some_iff.mp known
            exact .under (fun entry member same => by simpa [same] using first entry member)
              (inductionHypothesis.mp said)
      · intro said
        cases said with
        | @under before after key value path on first said =>
            have known : (before ++ (key, value) :: after).lookup key = some value :=
              List.lookup_eq_some_iff.mpr ⟨before, after, rfl, fun entry member => by
                simpa using (first entry member).symm⟩
            exact Option.bind_eq_some_iff.mpr ⟨value, known, inductionHypothesis.mpr said⟩

namespace Settings

/-- A reader fails in a way that says nothing of the document. -/
def Raises (fault : Fault) : Reading → Prop
  | .undecodable cause => fault = .undecodable cause
  | .failed message => fault = .failed message
  | .value _ | .malformed => False

/-- The settings with their keys and their values in default of a document. -/
def switches : List (String × Bool × (Settings → Bool)) :=
  [("hide_self", false, hideSelf), ("include_functions", true, includeFunctions),
    ("include_classes", true, includeClasses), ("include_globals", true, includeGlobals)]

section

variable (host : Host) (directory : Path)

/-- What stands in the place of the settings file. -/
def item : Except Disk.Refusal (Option Disk.Item) := host.find ((Path.ofText fileName).inside directory)

/-- The settings file holds octets that are read as a document. -/
def Documented (content : Content) : Prop :=
  ∃ octets, item host directory = .ok (some (.file octets)) ∧ host.reading octets = .value content

/-- The ways in which the loading ends. -/
inductive Loads : Except Fault Loaded → Prop where
  | refused {cause : Disk.Refusal} (found : item host directory = .error cause) : Loads (.error (.refused cause))
  | absent (found : item host directory = .ok none) : Loads (.ok {})
  | unopened {place : Disk.Item} (found : item host directory = .ok (some place))
      (closed : ∀ octets, place ≠ .file octets) : Loads (.ok { ignored := true })
  | malformed {octets : List UInt8} (found : item host directory = .ok (some (.file octets)))
      (read : host.reading octets = .malformed) : Loads (.ok { ignored := true })
  | failed {octets : List UInt8} {fault : Fault} (found : item host directory = .ok (some (.file octets)))
      (raises : Raises fault (host.reading octets)) : Loads (.error fault)
  | documented {content : Content} (documented : Documented host directory content) :
      Loads (.ok { settings := ofContent content })

theorem loads : Loads host directory (load host directory) := by
  rw [load, ← item]
  cases found : item host directory with
  | error cause => exact .refused found
  | ok place =>
      match place with
      | none => exact .absent found
      | some .directory | some (.locked _) => exact .unopened found (by simp)
      | some (.file octets) =>
          change Loads host directory (ofReading (host.reading octets))
          cases read : host.reading octets with
          | value content => exact .documented ⟨octets, found, read⟩
          | malformed => exact .malformed found read
          | undecodable cause | failed message => exact .failed found (by rw [read]; rfl)

/-- What the settings file says at a path of keys. -/
def SaysAt (path : List Text) (on : Bool) : Prop :=
  ∃ content, Documented host directory content ∧ content.Says path on

/-- What the loading of the settings of a directory promises, whatever the host. -/
structure LoadContract : Prop where
  -- It fails only if the look-up is refused, or if the reader fails in a way of its own.
  fails : ∀ fault, load host directory = .error fault ↔
    (∃ cause, item host directory = .error cause ∧ fault = .refused cause) ∨
      ∃ octets, item host directory = .ok (some (.file octets)) ∧ Raises fault (host.reading octets)
  -- Each setting is what the document says under its key, and else its default.
  switched : ∀ loaded, load host directory = .ok loaded →
    ∀ key default value, (key, default, value) ∈ switches → ∀ on, value loaded.settings = on ↔
      SaysAt host directory ["scan".toList, key.toList] on ∨
        (∀ other, ¬SaysAt host directory ["scan".toList, key.toList] other) ∧ on = default
  -- What is there and is no document is ignored, so that the defaults are left.
  ignored : ∀ loaded, load host directory = .ok loaded → (loaded.ignored ↔
    (∃ place, item host directory = .ok (some place)) ∧ ∀ content, ¬Documented host directory content)
  defaults : ∀ loaded, load host directory = .ok loaded → (∀ content, ¬Documented host directory content) →
    loaded.settings = {}
  -- If the octets are decoded before all else, it always fails for those that encode no text.
  undecodable : ∀ parse octets, host.reading = Reading.ofOctets parse →
    item host directory = .ok (some (.file octets)) → (∀ text, Utf8.encode text ≠ octets) →
    ∃ cause, load host directory = .error (.undecodable cause)

end

section

variable {host : Host} {directory : Path}

theorem Documented.unique {content content' : Content} (documented : Documented host directory content)
    (documented' : Documented host directory content') : content = content' := by
  obtain ⟨octets, found, read⟩ := documented
  obtain ⟨octets', found', read'⟩ := documented'
  rw [found] at found'
  obtain rfl : octets = octets' := by simpa using found'
  simpa [read] using read'

theorem saysAt_iff {content : Content} (documented : Documented host directory content) {path : List Text}
    {on : Bool} : SaysAt host directory path on ↔ content.switch? path = some on := by
  rw [Content.switch?_eq_some_iff]
  constructor
  · intro said
    obtain ⟨_, documented', said⟩ := said
    rwa [documented.unique documented']
  · intro said
    exact ⟨content, documented, said⟩

/-- Every setting is read from a document in one way. -/
theorem ofContent_switch (content : Content) {key : String} {default : Bool} {value : Settings → Bool}
    (known : (key, default, value) ∈ switches) :
    value (ofContent content) = (content.switch? ["scan".toList, key.toList]).getD default := by
  simp only [switches, List.mem_cons, Prod.mk.injEq, List.not_mem_nil, or_false] at known
  rcases known with ⟨rfl, rfl, rfl⟩ | ⟨rfl, rfl, rfl⟩ | ⟨rfl, rfl, rfl⟩ | ⟨rfl, rfl, rfl⟩ <;> rfl

theorem default_switch {key : String} {default : Bool} {value : Settings → Bool}
    (known : (key, default, value) ∈ switches) : value {} = default := by
  simp only [switches, List.mem_cons, Prod.mk.injEq, List.not_mem_nil, or_false] at known
  rcases known with ⟨rfl, rfl, rfl⟩ | ⟨rfl, rfl, rfl⟩ | ⟨rfl, rfl, rfl⟩ | ⟨rfl, rfl, rfl⟩ <;> rfl

theorem load_eq_error_iff {fault : Fault} : load host directory = .error fault ↔
    (∃ cause, item host directory = .error cause ∧ fault = .refused cause) ∨
      ∃ octets, item host directory = .ok (some (.file octets)) ∧ Raises fault (host.reading octets) := by
  have ends := loads host directory
  generalize load host directory = result at ends ⊢
  cases ends with
  | refused found => simp [found, eq_comm]
  | absent found => simp [found]
  | unopened found closed => simp [found, closed]
  | malformed found read => simp [found, read, Raises]
  | @failed octets raised found raises =>
      cases read : host.reading octets with
      | value content | malformed => exact absurd raises (by simp [read, Raises])
      | undecodable cause | failed message =>
          simp only [read, Raises] at raises
          simp [found, read, raises, Raises, eq_comm]
  | documented documented =>
      obtain ⟨octets, found, read⟩ := documented
      simp [found, read, Raises]

/-- Settings come from the document, or else are the defaults. -/
theorem load_eq_ok {loaded : Loaded} (loaded_ok : load host directory = .ok loaded) :
    (∃ content, Documented host directory content ∧ loaded = { settings := ofContent content }) ∨
      (∀ content, ¬Documented host directory content) ∧ loaded.settings = {} ∧
        (loaded.ignored ↔ ∃ place, item host directory = .ok (some place)) := by
  have ends := loads host directory
  rw [loaded_ok] at ends
  cases ends with
  | absent found => exact Or.inr ⟨by simp [Documented, found], rfl, by simp [found]⟩
  | unopened found closed => exact Or.inr ⟨by simp [Documented, found, closed], rfl, by simp [found]⟩
  | malformed found read => exact Or.inr ⟨by simp [Documented, found, read], rfl, by simp [found]⟩
  | @documented content documented => exact Or.inl ⟨content, documented, rfl⟩

/-- Settings are loaded whatever stands in the place of the file, unless the look-up is refused or the
reader fails otherwise than by finding the document malformed. -/
theorem load_contract (host : Host) (directory : Path) : LoadContract host directory where
  fails := fun _ => load_eq_error_iff
  switched := by
    intro loaded loaded_ok key default value known on
    rcases load_eq_ok loaded_ok with ⟨content, documented, rfl⟩ | ⟨undocumented, plain, _⟩
    · simp only [ofContent_switch content known, saysAt_iff documented]
      cases content.switch? ["scan".toList, key.toList] <;> simp [eq_comm]
    · have silent : ∀ path on, ¬SaysAt host directory path on :=
        fun _ _ ⟨content, documented, _⟩ => undocumented content documented
      rw [plain, default_switch known]
      simp [silent, eq_comm]
  ignored := by
    intro loaded loaded_ok
    rcases load_eq_ok loaded_ok with ⟨content, documented, rfl⟩ | ⟨undocumented, _, ignored⟩
    · simp only [Bool.false_eq_true, false_iff, not_and, not_forall, not_not]
      exact fun _ => ⟨content, documented⟩
    · rw [ignored, and_iff_left undocumented]
  defaults := by
    intro loaded loaded_ok undocumented
    rcases load_eq_ok loaded_ok with ⟨content, documented, _⟩ | ⟨_, plain, _⟩
    · exact absurd documented (undocumented content)
    · exact plain
  undecodable := by
    intro parse octets decodes found noText
    obtain ⟨cause, decoded⟩ := Utf8.exists_decodePieces_eq_error_iff.mpr noText
    refine ⟨cause, load_eq_error_iff.mpr (Or.inr ⟨octets, found, ?_⟩)⟩
    rw [decodes, Reading.ofOctets, decoded]
    rfl

end

/-- A disk with nothing but a settings file. -/
def diskWith (octets : List UInt8) : Disk where
  current := ⟨['/'], ["work".toList]⟩
  items := [(["work".toList, fileName], .file octets)]

/-- An octet that encodes nothing makes the loading fail, whatever is done with a text. -/
theorem load_fails_for_octet :
    (fun parse => load ((diskWith [0xFF]).hostWith (Reading.ofOctets parse)) ⟨['/'], ["work".toList]⟩) =
      fun _ => .error (.undecodable ⟨0, [0xFF], .invalidStart⟩) := by
  funext parse
  have found : item ((diskWith [0xFF]).hostWith (Reading.ofOctets parse)) ⟨['/'], ["work".toList]⟩ =
      .ok (some (.file [0xFF])) := by
    show (diskWith [0xFF]).find ((Path.ofText fileName).inside ⟨['/'], ["work".toList]⟩) = _
    decide
  have decoded : Utf8.decodePieces [0xFF] = .error ⟨0, [0xFF], .invalidStart⟩ := by decide
  refine load_eq_error_iff.mpr (Or.inr ⟨[0xFF], found, ?_⟩)
  show Raises _ (Reading.ofOctets parse [0xFF])
  rw [Reading.ofOctets, decoded]
  rfl

end Settings

end Outline
