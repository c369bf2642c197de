/-
This file states which texts a pattern matches, without the search, and that the search finds a match exactly
if there is one.
-/

import Outline.Pattern
import Outline.Proofs.Text

namespace Outline.Pattern

/-- The texts that a pattern matches between what is passed and what is left, with what its groups capture. -/
abbrev Language := Text → Text → Text → List (Nat × Text) → Prop

/-- Each repetition reads something. -/
inductive Repeats (body : Language) : Language where
  | stop {passed rest : Text} : Repeats body passed [] rest []
  | again {passed read later rest : Text} {groups laterGroups : List (Nat × Text)} (nonempty : read ≠ [])
      (here : body passed read (later ++ rest) groups)
      (there : Repeats body (passed ++ read) later rest laterGroups) :
      Repeats body passed (read ++ later) rest (laterGroups ++ groups)

def Matches : Pattern → Language
  | empty, _, read, _, groups => read = [] ∧ groups = []
  | one test, _, read, _, groups => (∃ character, test character ∧ read = [character]) ∧ groups = []
  | seq first second, passed, read, rest, groups =>
      ∃ front back frontGroups backGroups, read = front ++ back ∧ groups = backGroups ++ frontGroups ∧
        first.Matches passed front (back ++ rest) frontGroups ∧
        second.Matches (passed ++ front) back rest backGroups
  | alt first second, passed, read, rest, groups =>
      first.Matches passed read rest groups ∨ second.Matches passed read rest groups
  | many body, passed, read, rest, groups => Repeats body.Matches passed read rest groups
  | group index body, passed, read, rest, groups =>
      ∃ inner, body.Matches passed read rest inner ∧ groups = (index, read) :: inner
  | textStart, passed, read, _, groups => passed = [] ∧ read = [] ∧ groups = []
  | lineStart, passed, read, _, groups => startsLine passed ∧ read = [] ∧ groups = []
  | lineEnd, _, read, rest, groups => endsLine rest ∧ read = [] ∧ groups = []
  | textEnd, _, read, rest, groups => rest = [] ∧ read = [] ∧ groups = []
  | finalLineEnd, _, read, rest, groups => endsLastLine rest ∧ read = [] ∧ groups = []

section

variable {β : Type}

/-- The search succeeds only through a match. -/
def Sound (language : Language) (search : (State → Option β) → State → Option β) : Prop :=
  ∀ {next : State → Option β} {state : State} {result : β}, search next state = some result →
    ∃ read rest groups, state.rest = read ++ rest ∧ language state.passed read rest groups ∧
      next ⟨state.passed ++ read, rest, groups ++ state.groups⟩ = some result

/-- The search succeeds if it can go on behind some match. -/
def Complete (language : Language) (search : (State → Option β) → State → Option β) : Prop :=
  ∀ {next : State → Option β} {passed read rest : Text} {groups before : List (Nat × Text)},
    language passed read rest groups → (next ⟨passed ++ read, rest, groups ++ before⟩).isSome →
    (search next ⟨passed, read ++ rest, before⟩).isSome

theorem iterate_sound {language : Language} {body : (State → Option β) → State → Option β}
    (sound : Sound language body) (fuel : Nat) :
    Sound (Repeats language) fun next => iterate body next fuel := by
  intro next state result found
  induction fuel generalizing state with
  | zero => exact ⟨[], state.rest, [], rfl, .stop, by simpa [iterate] using found⟩
  | succ fuel inductionHypothesis =>
      rcases Option.or_eq_some_iff.mp found with again | ⟨_, stopped⟩
      · obtain ⟨read, rest, groups, split, here, later⟩ := sound again
        split at later
        · rename_i shorter
          obtain ⟨more, rest', groups', split', there, found⟩ := inductionHypothesis later
          have nonempty : read ≠ [] := by
            rintro rfl
            rw [split] at shorter
            exact Nat.lt_irrefl _ shorter
          simp only at split' there found
          refine ⟨read ++ more, rest', groups' ++ groups, ?_, ?_, ?_⟩
          · rw [split, split', List.append_assoc]
          · exact .again nonempty (split' ▸ here) there
          · simpa only [List.append_assoc] using found
        · contradiction
      · exact ⟨[], state.rest, [], rfl, .stop, by simpa using stopped⟩

theorem iterate_complete {language : Language} {body : (State → Option β) → State → Option β}
    (complete : Complete language body) {next : State → Option β} {passed read rest : Text}
    {groups before : List (Nat × Text)} (repeats : Repeats language passed read rest groups)
    (succeeds : (next ⟨passed ++ read, rest, groups ++ before⟩).isSome) (fuel : Nat)
    (enough : (read ++ rest).length ≤ fuel) :
    (iterate body next fuel ⟨passed, read ++ rest, before⟩).isSome := by
  induction repeats generalizing before fuel with
  | stop =>
      cases fuel with
      | zero => simpa [iterate] using succeeds
      | succ fuel =>
          rw [List.append_nil, List.nil_append] at succeeds
          rw [iterate, List.nil_append, Option.isSome_or, succeeds, Bool.or_true]
  | @again passed read later rest groups laterGroups nonempty here there inductionHypothesis =>
      have positive := List.length_pos_of_ne_nil nonempty
      simp only [List.length_append] at enough
      cases fuel with
      | zero => omega
      | succ fuel =>
          rw [iterate, Option.isSome_or, Bool.or_eq_true]
          left
          rw [List.append_assoc]
          apply complete here
          have shorter : (later ++ rest).length < (read ++ (later ++ rest)).length := by
            simp only [List.length_append]
            omega
          rw [if_pos shorter]
          apply inductionHypothesis
          · simpa only [List.append_assoc] using succeeds
          · simp only [List.length_append]
            omega

theorem run_sound (pattern : Pattern) : Sound pattern.Matches (@run β pattern) := by
  induction pattern with
  | empty =>
      intro next state result found
      exact ⟨[], state.rest, [], rfl, ⟨rfl, rfl⟩, by simpa [run] using found⟩
  | one test =>
      intro next state result found
      simp only [run] at found
      split at found
      · contradiction
      · rename_i character rest split
        split_ifs at found with passes
        exact ⟨[character], rest, [], split, ⟨⟨character, passes, rfl⟩, rfl⟩, found⟩
  | seq first second firstSound secondSound =>
      intro next state result found
      obtain ⟨front, rest, frontGroups, split, here, later⟩ := firstSound found
      obtain ⟨back, rest', backGroups, split', there, found⟩ := secondSound later
      simp only at split' there found
      refine ⟨front ++ back, rest', backGroups ++ frontGroups, ?_, ?_, ?_⟩
      · rw [split, split', List.append_assoc]
      · exact ⟨front, back, frontGroups, backGroups, rfl, rfl, split' ▸ here, there⟩
      · simpa only [List.append_assoc] using found
  | alt first second firstSound secondSound =>
      intro next state result found
      rcases Option.or_eq_some_iff.mp found with found | ⟨_, found⟩
      · obtain ⟨read, rest, groups, split, here, later⟩ := firstSound found
        exact ⟨read, rest, groups, split, Or.inl here, later⟩
      · obtain ⟨read, rest, groups, split, here, later⟩ := secondSound found
        exact ⟨read, rest, groups, split, Or.inr here, later⟩
  | many body bodySound =>
      intro next state result found
      exact iterate_sound bodySound state.rest.length found
  | group index body bodySound =>
      intro next state result found
      obtain ⟨read, rest, groups, split, here, later⟩ := bodySound found
      refine ⟨read, rest, (index, read) :: groups, split, ⟨groups, here, rfl⟩, ?_⟩
      simpa using later
  | textStart | lineStart | lineEnd | textEnd | finalLineEnd =>
      intro next state result found
      simp only [run] at found
      split_ifs at found with here
      exact ⟨[], state.rest, [], rfl, by simpa [Matches] using here, by simpa using found⟩

theorem run_complete (pattern : Pattern) : Complete pattern.Matches (@run β pattern) := by
  induction pattern with
  | empty =>
      rintro next passed read rest groups before ⟨rfl, rfl⟩ succeeds
      simpa [run] using succeeds
  | one test =>
      rintro next passed read rest groups before ⟨⟨character, passes, rfl⟩, rfl⟩ succeeds
      simpa [run, passes] using succeeds
  | seq first second firstComplete secondComplete =>
      rintro next passed read rest groups before ⟨front, back, frontGroups, backGroups, rfl, rfl, here, there⟩
        succeeds
      rw [List.append_assoc]
      apply firstComplete here
      apply secondComplete there
      simpa only [List.append_assoc] using succeeds
  | alt first second firstComplete secondComplete =>
      rintro next passed read rest groups before (here | here) succeeds
      · simp [run, Option.isSome_or, firstComplete here succeeds]
      · simp [run, Option.isSome_or, secondComplete here succeeds]
  | many body bodyComplete =>
      intro next passed read rest groups before repeats succeeds
      exact iterate_complete bodyComplete repeats succeeds _ (Nat.le_refl _)
  | group index body bodyComplete =>
      rintro next passed read rest groups before ⟨inner, here, rfl⟩ succeeds
      apply bodyComplete here
      simpa using succeeds
  | textStart | lineStart | lineEnd | textEnd | finalLineEnd =>
      rintro next passed read rest groups before ⟨here, rfl, rfl⟩ succeeds
      simpa [run, here] using succeeds

end

/-- The result of a search is known if the search goes on alike behind every match. -/
theorem map_run_eq {α γ : Type} {pattern : Pattern} {next : State → Option γ} {value : γ → α}
    {answer : Option α} {passed text : Text} {before : List (Nat × Text)}
    (each : ∀ read rest groups, text = read ++ rest → pattern.Matches passed read rest groups →
      (next ⟨passed ++ read, rest, groups ++ before⟩).map value = answer)
    (some_match : answer.isSome → ∃ read rest groups, text = read ++ rest ∧
      pattern.Matches passed read rest groups) :
    (pattern.run next ⟨passed, text, before⟩).map value = answer := by
  cases found : pattern.run next ⟨passed, text, before⟩ with
  | some result =>
      obtain ⟨read, rest, groups, split, here, later⟩ := run_sound pattern found
      have same := each read rest groups split here
      simp only at later
      rwa [later] at same
  | none =>
      by_contra other
      obtain ⟨read, rest, groups, rfl, here⟩ := some_match (Option.isSome_iff_ne_none.mpr (Ne.symm other))
      have same := each read rest groups rfl here
      have goesOn : (next ⟨passed ++ read, rest, groups ++ before⟩).isSome := by
        rw [Option.isSome_iff_ne_none]
        intro stops
        rw [stops] at same
        exact other same
      have succeeds := run_complete pattern here goesOn
      simp [found] at succeeds

/-- What the rest of a sequence matches is searched for behind its front. -/
theorem run_append {β : Type} (front back : List Pattern) (next : State → Option β) :
    (sequence (front ++ back)).run next = (sequence front).run ((sequence back).run next) := by
  induction front with
  | nil => rfl
  | cons first front inductionHypothesis =>
      funext state
      show first.run ((sequence (front ++ back)).run next) state = _
      rw [inductionHypothesis]
      rfl

section

variable {β : Type} {test : Char → Bool} {next : State → Option β} {passed rest : Text}
  {groups : List (Nat × Text)}

/-- A run of characters is tried from its longest extent down. -/
theorem run_many_cons {first : Char} (passes : test first) :
    (many (one test)).run next ⟨passed, first :: rest, groups⟩ =
      ((many (one test)).run next ⟨passed ++ [first], rest, groups⟩).or
        (next ⟨passed, first :: rest, groups⟩) := by
  simp [run, iterate, passes]

theorem run_many_of_stops (stops : Text.Stops test rest) :
    (many (one test)).run next ⟨passed, rest, groups⟩ = next ⟨passed, rest, groups⟩ := by
  cases rest with
  | nil => rfl
  | cons first rest =>
      have fails := (Text.stops_cons _ _ _).mp stops
      simp [run, iterate, fails]

/-- If the search cannot go on inside a run, only its longest extent counts. -/
theorem run_many_of_fails
    (fails : ∀ passed first rest, test first → next ⟨passed, first :: rest, groups⟩ = none) :
    (many (one test)).run next ⟨passed, rest, groups⟩ =
      next ⟨passed ++ rest.takeWhile test, rest.dropWhile test, groups⟩ := by
  induction rest generalizing passed with
  | nil => rw [run_many_of_stops (Text.stops_nil _)]; simp
  | cons first rest inductionHypothesis =>
      by_cases passes : test first
      · rw [run_many_cons passes, fails _ _ _ passes, Option.or_none, inductionHypothesis]
        simp [passes]
      · rw [run_many_of_stops ((Text.stops_cons _ _ _).mpr (by simpa using passes))]
        simp [passes]

end

section

variable {pattern : Pattern} {patterns : List Pattern} {kind : Text → Prop} {passed read rest : Text}
  {groups : List (Nat × Text)}

/-- A pattern without groups and anchors matches texts of one kind, wherever they stand. -/
def Spells (pattern : Pattern) (kind : Text → Prop) : Prop :=
  ∀ (passed read rest : Text) (groups : List (Nat × Text)),
    pattern.Matches passed read rest groups ↔ kind read ∧ groups = []

theorem spells_one (test : Char → Bool) : (one test).Spells fun read => ∃ c, test c ∧ read = [c] :=
  fun _ _ _ _ => Iff.rfl

theorem spells_sign (character : Char) : (sign character).Spells (· = [character]) := by
  intro passed read rest groups
  simp [sign, Matches]

theorem Spells.seq {first second : Pattern} {kind' : Text → Prop} (spells : first.Spells kind)
    (spells' : second.Spells kind') :
    (first.seq second).Spells fun read => ∃ front back, read = front ++ back ∧ kind front ∧ kind' back := by
  intro passed read rest groups
  constructor
  · intro shape
    obtain ⟨front, back, frontGroups, backGroups, rfl, rfl, here, there⟩ := shape
    obtain ⟨spelled, rfl⟩ := (spells _ _ _ _).mp here
    obtain ⟨spelled', rfl⟩ := (spells' _ _ _ _).mp there
    exact ⟨⟨front, back, rfl, spelled, spelled'⟩, rfl⟩
  · intro shape
    obtain ⟨⟨front, back, rfl, here, there⟩, rfl⟩ := shape
    exact ⟨front, back, [], [], rfl, rfl, (spells _ _ _ _).mpr ⟨here, rfl⟩, (spells' _ _ _ _).mpr ⟨there, rfl⟩⟩

theorem Spells.optional (spells : pattern.Spells kind) :
    (optional pattern).Spells fun read => kind read ∨ read = [] := by
  intro passed read rest groups
  show pattern.Matches passed read rest groups ∨ read = [] ∧ groups = [] ↔ _
  rw [spells, or_and_right]

theorem spells_many (test : Char → Bool) : (many (one test)).Spells fun read => ∀ c ∈ read, test c := by
  intro passed read rest groups
  constructor
  · intro repeats
    induction repeats with
    | stop => simp
    | again nonempty here there inductionHypothesis =>
        obtain ⟨⟨c, passes, rfl⟩, rfl⟩ := here
        obtain ⟨later, rfl⟩ := inductionHypothesis
        exact ⟨List.forall_mem_cons.mpr ⟨passes, later⟩, rfl⟩
  · intro shape
    obtain ⟨passes, rfl⟩ := shape
    induction read generalizing passed with
    | nil => exact .stop
    | cons c read inductionHypothesis =>
        obtain ⟨here, later⟩ := List.forall_mem_cons.mp passes
        exact .again (List.cons_ne_nil c []) ⟨⟨c, here, rfl⟩, rfl⟩ (inductionHypothesis _ later)

theorem spells_repeated (test : Char → Bool) :
    (repeated (one test)).Spells fun read => read ≠ [] ∧ ∀ c ∈ read, test c := by
  intro passed read rest groups
  rw [repeated, (spells_one test).seq (spells_many test)]
  apply and_congr_left'
  constructor
  · intro shape
    obtain ⟨_, back, rfl, ⟨c, passes, rfl⟩, later⟩ := shape
    exact ⟨by simp, List.forall_mem_cons.mpr ⟨passes, later⟩⟩
  · intro shape
    obtain ⟨nonempty, passes⟩ := shape
    obtain ⟨c, back, rfl⟩ := List.exists_cons_of_ne_nil nonempty
    obtain ⟨here, later⟩ := List.forall_mem_cons.mp passes
    exact ⟨[c], back, rfl, ⟨c, here, rfl⟩, later⟩

theorem matches_nil : (sequence []).Matches passed read rest groups ↔ read = [] ∧ groups = [] := Iff.rfl

/-- An anchor matches no text, but asks about its place. -/
def Anchors (pattern : Pattern) (holds : Text → Text → Prop) : Prop :=
  ∀ (passed read rest : Text) (groups : List (Nat × Text)),
    pattern.Matches passed read rest groups ↔ holds passed rest ∧ read = [] ∧ groups = []

theorem anchors_textStart : textStart.Anchors fun passed _ => passed = [] := fun _ _ _ _ => Iff.rfl

theorem anchors_lineStart : lineStart.Anchors fun passed _ => startsLine passed := fun _ _ _ _ => Iff.rfl

theorem anchors_lineEnd : lineEnd.Anchors fun _ rest => endsLine rest := fun _ _ _ _ => Iff.rfl

theorem anchors_finalLineEnd : finalLineEnd.Anchors fun _ rest => endsLastLine rest := fun _ _ _ _ => Iff.rfl

theorem Anchors.matches_cons {holds : Text → Text → Prop} (anchors : pattern.Anchors holds) :
    (sequence (pattern :: patterns)).Matches passed read rest groups ↔
      holds passed (read ++ rest) ∧ (sequence patterns).Matches passed read rest groups := by
  constructor
  · intro shape
    obtain ⟨front, back, frontGroups, backGroups, rfl, rfl, here, there⟩ := shape
    obtain ⟨holds, rfl, rfl⟩ := (anchors _ _ _ _).mp here
    exact ⟨holds, by simpa using there⟩
  · intro shape
    obtain ⟨holds, there⟩ := shape
    exact ⟨[], read, [], groups, rfl, by simp, (anchors _ _ _ _).mpr ⟨holds, rfl, rfl⟩, by simpa using there⟩

theorem Spells.matches_cons (spells : pattern.Spells kind) :
    (sequence (pattern :: patterns)).Matches passed read rest groups ↔
      ∃ front back, read = front ++ back ∧ kind front ∧
        (sequence patterns).Matches (passed ++ front) back rest groups := by
  constructor
  · intro shape
    obtain ⟨front, back, _, backGroups, rfl, rfl, here, there⟩ := shape
    obtain ⟨spelled, rfl⟩ := (spells _ _ _ _).mp here
    exact ⟨front, back, rfl, spelled, by simpa using there⟩
  · intro shape
    obtain ⟨front, back, rfl, here, there⟩ := shape
    exact ⟨front, back, [], groups, rfl, by simp, (spells _ _ _ _).mpr ⟨here, rfl⟩, there⟩

/-- What spells one text only reads that text. -/
theorem Spells.matches_exactly {text : Text} (spells : pattern.Spells (· = text)) :
    (sequence (pattern :: patterns)).Matches passed read rest groups ↔
      ∃ back, read = text ++ back ∧ (sequence patterns).Matches (passed ++ text) back rest groups := by
  rw [spells.matches_cons]
  constructor
  · intro shape
    obtain ⟨_, back, rfl, rfl, there⟩ := shape
    exact ⟨back, rfl, there⟩
  · intro shape
    obtain ⟨back, rfl, there⟩ := shape
    exact ⟨text, back, rfl, rfl, there⟩

theorem matches_sign (character : Char) :
    (sequence (sign character :: patterns)).Matches passed read rest groups ↔
      ∃ back, read = character :: back ∧
        (sequence patterns).Matches (passed ++ [character]) back rest groups :=
  (spells_sign character).matches_exactly

theorem Spells.matches_group (spells : pattern.Spells kind) (index : Nat) :
    (sequence (group index pattern :: patterns)).Matches passed read rest groups ↔
      ∃ front back later, read = front ++ back ∧ groups = later ++ [(index, front)] ∧ kind front ∧
        (sequence patterns).Matches (passed ++ front) back rest later := by
  constructor
  · intro shape
    obtain ⟨front, back, _, backGroups, rfl, rfl, ⟨inner, here, rfl⟩, there⟩ := shape
    obtain ⟨spelled, rfl⟩ := (spells _ _ _ _).mp here
    exact ⟨front, back, backGroups, rfl, rfl, spelled, there⟩
  · intro shape
    obtain ⟨front, back, later, rfl, rfl, here, there⟩ := shape
    exact ⟨front, back, [(index, front)], later, rfl, rfl, ⟨[], (spells _ _ _ _).mpr ⟨here, rfl⟩, rfl⟩, there⟩

theorem matches_append {front back : List Pattern} :
    (sequence (front ++ back)).Matches passed read rest groups ↔
      (seq (sequence front) (sequence back)).Matches passed read rest groups := by
  induction front generalizing passed read groups with
  | nil =>
      constructor
      · intro there
        exact ⟨[], read, [], groups, rfl, by simp, ⟨rfl, rfl⟩, by simpa using there⟩
      · intro shape
        obtain ⟨_, later, _, laterGroups, rfl, rfl, ⟨rfl, rfl⟩, there⟩ := shape
        simpa using there
  | cons first front inductionHypothesis =>
      constructor
      · intro shape
        obtain ⟨one, _, oneGroups, _, rfl, rfl, here, there⟩ := shape
        obtain ⟨two, later, twoGroups, laterGroups, rfl, rfl, next, there⟩ := inductionHypothesis.mp there
        refine ⟨one ++ two, later, twoGroups ++ oneGroups, laterGroups, by simp, by simp,
          ⟨one, two, oneGroups, twoGroups, rfl, rfl, by simpa using here, next⟩, by simpa using there⟩
      · intro shape
        obtain ⟨_, later, _, laterGroups, rfl, rfl, ⟨one, two, oneGroups, twoGroups, rfl, rfl, here, next⟩, there⟩ := shape
        refine ⟨one, two ++ later, oneGroups, laterGroups ++ twoGroups, by simp, by simp, by simpa using here, ?_⟩
        exact inductionHypothesis.mpr ⟨two, later, twoGroups, laterGroups, rfl, rfl, next, by simpa using there⟩

theorem matches_optional {front back : List Pattern} :
    (sequence (optional (sequence front) :: back)).Matches passed read rest groups ↔
      (sequence (front ++ back)).Matches passed read rest groups ∨
        (sequence back).Matches passed read rest groups := by
  rw [matches_append]
  constructor
  · intro shape
    obtain ⟨here, later, hereGroups, laterGroups, rfl, rfl, taken | ⟨rfl, rfl⟩, there⟩ := shape
    · exact Or.inl ⟨here, later, hereGroups, laterGroups, rfl, rfl, taken, there⟩
    · exact Or.inr (by simpa using there)
  · intro shape
    rcases shape with ⟨here, later, hereGroups, laterGroups, rfl, rfl, taken, there⟩ | there
    · exact ⟨here, later, hereGroups, laterGroups, rfl, rfl, Or.inl taken, there⟩
    · exact ⟨[], read, [], groups, rfl, by simp, Or.inr ⟨rfl, rfl⟩, by simpa using there⟩

theorem spells_word (text : Text) : (word text).Spells (· = text) := by
  intro passed read rest groups
  induction text generalizing passed read with
  | nil => exact matches_nil
  | cons c text inductionHypothesis =>
      rw [word, List.map_cons, matches_sign]
      constructor
      · intro shape
        obtain ⟨back, rfl, there⟩ := shape
        obtain ⟨rfl, rfl⟩ := (inductionHypothesis _ _).mp there
        exact ⟨rfl, rfl⟩
      · intro shape
        obtain ⟨rfl, rfl⟩ := shape
        exact ⟨text, rfl, (inductionHypothesis _ _).mpr ⟨rfl, rfl⟩⟩

theorem matches_word (text : Text) :
    (sequence (word text :: patterns)).Matches passed read rest groups ↔
      ∃ back, read = text ++ back ∧ (sequence patterns).Matches (passed ++ text) back rest groups :=
  (spells_word text).matches_exactly

theorem spells_identifier : identifier.Spells (Text.isIdentifier ·) := by
  intro passed read rest groups
  rw [identifier, (spells_one _).seq (spells_many _)]
  apply and_congr_left'
  constructor
  · intro shape
    obtain ⟨_, back, rfl, ⟨c, start, rfl⟩, parts⟩ := shape
    simpa [Text.isIdentifier, start] using parts
  · intro isIdentifier
    cases read with
    | nil => simp [Text.isIdentifier] at isIdentifier
    | cons c read =>
        simp only [Text.isIdentifier, Bool.and_eq_true, List.all_eq_true] at isIdentifier
        exact ⟨[c], read, rfl, ⟨c, isIdentifier.1, rfl⟩, isIdentifier.2⟩

end

end Outline.Pattern
