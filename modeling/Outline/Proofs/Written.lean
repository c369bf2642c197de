/-
This file states that the functions and classes of a source text can be written again, and that
their written forms are read as what they were written from.
-/

import Outline.Proofs.Append
import Outline.Proofs.Argument

namespace Outline

open Text

theorem Reader.exists_read_of_mem_values {α : Type} {read : Reader α} (lawful : read.Lawful) {text : Text}
    {value : α} (member : value ∈ read.values text) : ∃ tail rest, read tail = some (value, rest) := by
  obtain ⟨hit, found, rfl⟩ := List.mem_map.mp member
  obtain ⟨tail, rest, _, reads, _⟩ := exists_tail_of_mem_hits lawful found
  exact ⟨tail, rest, reads⟩

namespace FunctionEntry

/-- A function is well-formed if a header can spell it. -/
structure WellFormed (function : FunctionEntry) : Prop where
  identifier : isIdentifier function.name
  enclosed : ∀ argument ∈ function.arguments, argument.Enclosed

theorem wellFormed_of_mem_listOf {source : Text} {function : FunctionEntry}
    (member : function ∈ listOf source) : function.WellFormed := by
  obtain ⟨signature, found, rfl⟩ := List.mem_map.mp member
  obtain ⟨tail, rest, reads⟩ := Reader.exists_read_of_mem_values Signature.read?_lawful found
  obtain ⟨unread, named, parameters⟩ := Signature.read?_eq_some_iff.mp reads
  have inside := (Signature.parameters?_eq_some_iff.mp parameters).1
  exact ⟨(heading?_eq_some_iff.mp named).2.1, fun _ => Argument.enclosed_of_mem_listOf inside⟩

theorem render_eq (function : FunctionEntry) :
    function.render = Signature.keyword ++ ([' '] ++ (function.name ++
      '(' :: (Argument.renderList function.arguments ++ [')', ':']))) := by
  have word : "def ".toList = Signature.keyword ++ [' '] := by decide
  unfold render
  rewrite [word]
  simp only [List.append_assoc, List.cons_append, List.nil_append]

/-- The written form of a function is read as a signature of its name and its arguments. -/
theorem read?_render {function : FunctionEntry} (wellFormed : function.WellFormed) (more : Text) :
    Signature.read? (function.render ++ more) =
      some (⟨function.name, Argument.renderList function.arguments⟩, more) := by
  have space : ∀ c ∈ [' '], isSpace c := List.all_eq_true.mp (by decide)
  have stops : Stops isIdentifierPart ('(' :: (Argument.renderList function.arguments ++ ')' :: ':' :: more)) :=
    (stops_cons _ _ _).mpr (by decide)
  apply Signature.read?_eq_some_iff.mpr
  refine ⟨'(' :: (Argument.renderList function.arguments ++ ')' :: ':' :: more), ?_, ?_⟩
  · exact heading?_eq_some_iff.mpr ⟨⟨[' '], by simp, space, by simp [render_eq]⟩,
      wellFormed.identifier, stops⟩
  · exact Signature.parameters?_eq_some_iff.mpr ⟨Argument.inside_renderList wellFormed.enclosed, [], [],
      by simp, by simp, by simp⟩

theorem toFunction_render {function : FunctionEntry} (wellFormed : function.WellFormed) :
    Signature.toFunction ⟨function.name, Argument.renderList function.arguments⟩ = function := by
  have found := Argument.listOf_renderList fun argument member =>
    (wellFormed.enclosed argument member).toWellFormed
  simp [Signature.toFunction, found]

theorem newline_not_mem_render {function : FunctionEntry} (wellFormed : function.WellFormed) :
    '\n' ∉ function.render := by
  have noName := not_mem_identifier wellFormed.identifier (by decide : isIdentifierPart '\n' = false)
  have noArgument : '\n' ∉ Argument.renderList function.arguments := fun member =>
    absurd (Argument.inside_renderList wellFormed.enclosed _ member) (by decide)
  have noKeyword : '\n' ∉ Signature.keyword := by decide
  simp [render_eq, noKeyword, noName, noArgument]

end FunctionEntry

namespace ClassEntry

/-- A class is well-formed if a header and a constructor can spell it. -/
structure WellFormed (entry : ClassEntry) : Prop where
  identifier : isIdentifier entry.name
  bases : ∀ base ∈ entry.bases, IsPiece base ∧ ∀ c ∈ base, isInside c
  enclosed : ∀ argument ∈ entry.constructorArguments, argument.Enclosed

theorem inside_constructorParameters (text : ClassText) : ∀ c ∈ text.constructorParameters, isInside c := by
  rw [ClassText.constructorParameters]
  cases first : ClassText.constructor?.first? text.body with
  | none => simp
  | some parameters =>
      obtain ⟨tail, rest, reads⟩ := Reader.exists_read_of_mem_values ClassText.constructor?_lawful
        (List.mem_of_mem_head? first)
      obtain ⟨_, _, unread, _, _, _, found⟩ := ClassText.constructor?_eq_some_iff.mp reads
      exact (Signature.parameters?_eq_some_iff.mp found).1

theorem wellFormed_of_mem_listOf {source : Text} {entry : ClassEntry} (member : entry ∈ listOf source) :
    entry.WellFormed := by
  obtain ⟨text, found, rfl⟩ := List.mem_map.mp member
  obtain ⟨tail, rest, reads⟩ := Reader.exists_read_of_mem_values ClassText.read?_lawful found
  obtain ⟨named, unread, heading, opened, _⟩ := ClassText.read?_eq_some_iff.mp reads
  have basesInside : ∀ c ∈ text.bases.getD [], isInside c := by
    rcases ClassText.opening?_eq_some_iff.mp opened with ⟨inside, some, parameters⟩ | ⟨none, _⟩
    · rw [some]
      exact (Signature.parameters?_eq_some_iff.mp parameters).1
    · simp [none]
  refine ⟨(heading?_eq_some_iff.mp heading).2.1, ?_, ?_⟩
  · intro base isBase
    obtain ⟨piece, within⟩ := isPiece_of_mem_commaPieces isBase
    exact ⟨piece, fun c inside => basesInside c (within inside)⟩
  · intro argument isArgument
    exact Argument.enclosed_of_mem_listOf (inside_constructorParameters text) isArgument

/-- The bases of a written header, which stand in parentheses if there are any. -/
def renderBases (entry : ClassEntry) : Text :=
  if entry.bases.isEmpty then [] else '(' :: ([',', ' '].intercalate entry.bases ++ [')'])

theorem renderHeader_eq (entry : ClassEntry) :
    entry.renderHeader =
      ClassText.keyword ++ ([' '] ++ (entry.name ++ (entry.renderBases ++ [':']))) := by
  have word : "class ".toList = ClassText.keyword ++ [' '] := by decide
  unfold renderHeader renderBases
  rewrite [word]
  simp only [List.append_assoc, List.cons_append, List.nil_append]

theorem inside_bases {entry : ClassEntry} (wellFormed : entry.WellFormed) :
    ∀ c ∈ [',', ' '].intercalate entry.bases, isInside c :=
  run_intercalate (List.all_eq_true.mp (by decide)) fun base member => (wellFormed.bases base member).2

/-- The bases of a written header are the bases that it was written from. -/
theorem exists_opening_renderBases {entry : ClassEntry} (wellFormed : entry.WellFormed) (margin : Text) :
    ∃ bases, ClassText.opening? (entry.renderBases ++ ':' :: margin) = some (bases, margin) ∧
      commaPieces (bases.getD []) = entry.bases := by
  have inside := inside_bases wellFormed
  have pieces := commaPieces_intercalate fun base member => (wellFormed.bases base member).1
  by_cases empty : entry.bases = []
  · refine ⟨none, ?_, by rw [empty]; decide⟩
    rw [renderBases, if_pos (List.isEmpty_iff.mpr empty)]
    exact ClassText.opening?_eq_some_iff.mpr (Or.inr ⟨rfl, trimLeft_cons (by decide)⟩)
  · refine ⟨some ([',', ' '].intercalate entry.bases), ?_, pieces⟩
    rw [renderBases, if_neg (by simpa using empty)]
    generalize [',', ' '].intercalate entry.bases = joined at inside
    exact ClassText.opening?_eq_some_iff.mpr (Or.inl ⟨_, rfl,
      Signature.parameters?_eq_some_iff.mpr ⟨inside, [], [], by simp, by simp, by simp⟩⟩)

theorem heading?_renderHeader {entry : ClassEntry} (wellFormed : entry.WellFormed) (margin : Text) :
    heading? ClassText.keyword (entry.renderHeader ++ margin) =
      some (entry.name, entry.renderBases ++ ':' :: margin) := by
  have space : ∀ c ∈ [' '], isSpace c := List.all_eq_true.mp (by decide)
  have stops : Stops isIdentifierPart (entry.renderBases ++ ':' :: margin) := by
    unfold renderBases
    split <;> exact (stops_cons _ _ _).mpr (by decide)
  apply heading?_eq_some_iff.mpr
  refine ⟨⟨[' '], by simp, space, ?_⟩, wellFormed.identifier, stops⟩
  rw [renderHeader_eq]
  simp

/-- The class that is read at a written header has the name and the bases of the header; its
constructor is up to what follows. -/
theorem answer_renderHeader {entry : ClassEntry} (wellFormed : entry.WellFormed) (margin : Text) :
    (ClassText.read?.answer (entry.renderHeader ++ margin)).map ClassText.toClass =
      (ClassText.body? margin).map fun found => ⟨entry.name, entry.bases,
        Argument.listOf ((ClassText.constructor?.first? found.1).getD [])⟩ := by
  obtain ⟨bases, opened, pieces⟩ := exists_opening_renderBases wellFormed margin
  rw [Reader.answer, ClassText.read?_eq, heading?_renderHeader wellFormed, Option.bind_some,
    ClassText.remainder?, opened, Option.bind_some, Option.map_map, Option.map_map, ← pieces]
  rfl

theorem newline_not_mem_renderHeader {entry : ClassEntry} (wellFormed : entry.WellFormed) :
    '\n' ∉ entry.renderHeader := by
  have noName := not_mem_identifier wellFormed.identifier (by decide : isIdentifierPart '\n' = false)
  have noBase : '\n' ∉ [',', ' '].intercalate entry.bases := fun member =>
    absurd (inside_bases wellFormed _ member) (by decide)
  have noBases : '\n' ∉ entry.renderBases := by
    unfold renderBases
    generalize [',', ' '].intercalate entry.bases = joined at noBase
    split <;> simp [noBase]
  rw [renderHeader_eq]
  simp [ClassText.keyword, noName, noBases]

/-- A bare class is written as its header alone. -/
def isBare (entry : ClassEntry) : Bool := entry.bases.isEmpty || entry.constructorArguments.isEmpty

/-- The written form of a class without bases leaves its constructor out. -/
def shown (entry : ClassEntry) : ClassEntry :=
  if entry.bases.isEmpty then { entry with constructorArguments := [] } else entry

theorem shown_of_isBare {entry : ClassEntry} (bare : entry.isBare) :
    entry.shown = ⟨entry.name, entry.bases, []⟩ := by
  unfold shown
  split
  · rfl
  · rename_i hasBases
    rw [isBare, Bool.or_eq_true, List.isEmpty_iff, List.isEmpty_iff] at bare
    rw [List.isEmpty_iff] at hasBases
    rw [← bare.resolve_left hasBases]

theorem shown_of_not_isBare {entry : ClassEntry} (notBare : ¬entry.isBare) : entry.shown = entry := by
  rw [isBare, Bool.or_eq_true, not_or] at notBare
  rw [shown, if_neg notBare.1]

/-- The line of a written constructor. -/
def constructorLine (entry : ClassEntry) : Text :=
  [' ', ' ', ' ', ' '] ++ (Signature.keyword ++ ([' '] ++ (ClassText.constructorName ++
    '(' :: (Argument.renderList entry.constructorArguments ++ [')', ':']))))

/-- The line below a written constructor. -/
def bodyLine : Text := [' ', ' ', ' ', ' ', ' ', ' ', ' ', ' ', 'p', 'a', 's', 's']

/-- What is written behind the header of a class. -/
def renderBody (entry : ClassEntry) : Text :=
  if entry.isBare then [] else '\n' :: (entry.constructorLine ++ '\n' :: bodyLine)

theorem render_eq (entry : ClassEntry) : entry.render = entry.renderHeader ++ entry.renderBody := by
  have opening : "\n    def __init__(".toList = '\n' :: ([' ', ' ', ' ', ' '] ++ (Signature.keyword ++
      ([' '] ++ (ClassText.constructorName ++ ['('])))) := by decide
  have closing : "):\n        pass".toList = [')', ':'] ++ '\n' :: bodyLine := by decide
  unfold render renderBody isBare
  split
  · rw [List.append_nil]
  · rewrite [opening, closing, constructorLine]
    simp only [List.append_assoc, List.cons_append, List.nil_append]

theorem render_eq_renderHeader_iff (entry : ClassEntry) :
    entry.render = entry.renderHeader ↔ entry.isBare := by
  rw [render_eq, List.append_right_eq_self, renderBody]
  cases entry.isBare <;> simp

/-- The line of a written constructor is read as a constructor with its arguments. -/
theorem constructor?_constructorLine {entry : ClassEntry} (wellFormed : entry.WellFormed) :
    ClassText.constructor? entry.constructorLine =
      some (Argument.renderList entry.constructorArguments, []) := by
  have blanks : ∀ c ∈ [' ', ' ', ' ', ' '], isBlank c := List.all_eq_true.mp (by decide)
  have space : ∀ c ∈ [' '], isSpace c := List.all_eq_true.mp (by decide)
  apply ClassText.constructor?_eq_some_iff.mpr
  refine ⟨_, _, _, ⟨by simp, blanks⟩, ⟨by simp, space⟩, rfl, ?_⟩
  exact Signature.parameters?_eq_some_iff.mpr ⟨Argument.inside_renderList wellFormed.enclosed, [], [],
    by simp, by simp, by simp⟩

theorem newline_not_mem_constructorLine {entry : ClassEntry} (wellFormed : entry.WellFormed) :
    '\n' ∉ entry.constructorLine := by
  have noArgument : '\n' ∉ Argument.renderList entry.constructorArguments := fun member =>
    absurd (Argument.inside_renderList wellFormed.enclosed _ member) (by decide)
  simp [constructorLine, Signature.keyword, ClassText.constructorName, noArgument]

theorem first?_constructorLine {entry : ClassEntry} (wellFormed : entry.WellFormed) :
    ClassText.constructor?.first? entry.constructorLine =
      some (Argument.renderList entry.constructorArguments) := by
  have tails := lineTails_of_single (newline_not_mem_constructorLine wellFormed)
    (by simp [constructorLine])
  rw [Reader.first?, Reader.values_eq ClassText.constructor?_lawful, tails]
  simp [Reader.answer, constructor?_constructorLine wellFormed]

/-- The body behind a header starts with the constructor that is written there. -/
theorem exists_body_constructorLine {entry : ClassEntry} (wellFormed : entry.WellFormed) (more : Text) :
    ∃ body rest, ClassText.body? ('\n' :: (entry.constructorLine ++ more)) = some (body, rest) ∧
      ClassText.constructor?.first? body = some (Argument.renderList entry.constructorArguments) := by
  have spaces : ∀ c ∈ ['\n', ' ', ' ', ' ', ' '], isSpace c := List.all_eq_true.mp (by decide)
  have ends : ClassText.headerEnd? ('\n' :: (entry.constructorLine ++ more)) =
      some (entry.constructorLine ++ more) := by
    have word : ∀ rest, Stops isSpace (Signature.keyword ++ rest) ∧
        Stops ClassText.isComment (Signature.keyword ++ rest) := by
      intro rest
      constructor <;> exact (stops_append (by decide)).mpr (by decide)
    rw [constructorLine, List.append_assoc, List.append_assoc]
    refine (ClassText.headerEnd?_gap spaces (word _).1 (word _).2).trans ?_
    exact ClassText.afterGap?_eq_some_iff.mpr ⟨[], [' ', ' ', ' ', ' '], rfl, by decide, rfl⟩
  refine ⟨_, _, by rw [ClassText.body?, ends, Option.map_some], ?_⟩
  have line := ClassText.splitBody_of_single (newline_not_mem_constructorLine wellFormed)
    (by simp [constructorLine]; decide)
  have longer := ClassText.splitBody_isPrefix true entry.constructorLine more
  rw [line] at longer
  exact ClassText.first?_constructor?_of_isPrefix longer (first?_constructorLine wellFormed)

/-- A class is read from its written form, as far as that shows it. At the very end of a text, a bare
header is not read, since the end of its line is missing. -/
theorem answer_render {entry : ClassEntry} (wellFormed : entry.WellFormed) {ending : Text}
    (feeds : ∀ c ∈ ending, c = '\n') :
    (ClassText.read?.answer (entry.render ++ ending)).map ClassText.toClass =
      if entry.isBare && ending.isEmpty then none else some entry.shown := by
  rw [render_eq, List.append_assoc, answer_renderHeader wellFormed]
  by_cases bare : entry.isBare
  · have noBody : entry.renderBody = [] := by rw [renderBody, if_pos bare]
    rw [noBody, List.nil_append, bare, Bool.true_and]
    cases ending with
    | nil => rfl
    | cons feed ending =>
        have noConstructor : Argument.listOf ((ClassText.constructor?.first? []).getD []) = [] := by decide
        rw [ClassText.body?_feeds feeds (by simp), Option.map_some, noConstructor]
        rw [List.isEmpty_cons, if_neg (by simp), shown_of_isBare bare]
  · have body : entry.renderBody = '\n' :: (entry.constructorLine ++ '\n' :: bodyLine) := by
      rw [renderBody, if_neg bare]
    obtain ⟨read, rest, found, first⟩ :=
      exists_body_constructorLine wellFormed ('\n' :: bodyLine ++ ending)
    have arguments := Argument.listOf_renderList fun argument member =>
      (wellFormed.enclosed argument member).toWellFormed
    have whole : entry.renderBody ++ ending =
        '\n' :: (entry.constructorLine ++ ('\n' :: bodyLine ++ ending)) := by simp [body]
    rw [whole, found, Option.map_some, first, Option.getD_some, arguments, shown_of_not_isBare bare,
      if_neg (by simp [bare])]

end ClassEntry

end Outline
