/-
This file treats trimmed texts and the pieces of a text between its commas.
-/

import Outline.Proofs.Text

namespace Outline.Text

/-- The text in front of a run at the end, which starts behind a character that fails the test. -/
theorem dropWhileRight_run {test : Char → Bool} {text ending : Text} (run : ∀ c ∈ ending, test c)
    (stops : Stops test text.reverse) : dropWhileRight test (text ++ ending) = text := by
  have reversed : ∀ c ∈ ending.reverse, test c := by simpa using run
  rw [dropWhileRight, List.reverse_append, dropWhile_run reversed stops, List.reverse_reverse]

theorem stops_reverse_dropWhileRight (test : Char → Bool) (text : Text) :
    Stops test (dropWhileRight test text).reverse := by
  rw [dropWhileRight, List.reverse_reverse]
  exact stops_dropWhile test text.reverse

theorem dropWhileRight_isPrefix (test : Char → Bool) (text : Text) : dropWhileRight test text <+: text :=
  List.rdropWhile_prefix test text

/-- What is dropped at the end of a text is a run. -/
theorem exists_run_right (test : Char → Bool) (text : Text) :
    ∃ ending, (∀ c ∈ ending, test c) ∧ text = dropWhileRight test text ++ ending := by
  refine ⟨(text.reverse.takeWhile test).reverse, ?_, ?_⟩
  · intro c member
    exact List.mem_takeWhile_imp (List.mem_reverse.mp member)
  · rw [dropWhileRight, ← List.reverse_append, List.takeWhile_append_dropWhile, List.reverse_reverse]

/-- The text between two runs, which starts and ends with a character that fails the test. -/
theorem dropBoth_run {test : Char → Bool} {left text right : Text} (leftRun : ∀ c ∈ left, test c)
    (rightRun : ∀ c ∈ right, test c) (nonempty : text ≠ []) (stops : Stops test text)
    (stopsReverse : Stops test text.reverse) :
    dropWhileRight test ((left ++ (text ++ right)).dropWhile test) = text := by
  rw [dropWhile_run leftRun ((stops_append nonempty).mpr stops), dropWhileRight_run rightRun stopsReverse]

/-- What is dropped on the two sides of a text are runs. -/
theorem exists_dropBoth (test : Char → Bool) (text : Text) :
    ∃ left right, (∀ c ∈ left, test c) ∧ (∀ c ∈ right, test c) ∧
      text = left ++ (dropWhileRight test (text.dropWhile test) ++ right) := by
  obtain ⟨right, rightRun, split⟩ := exists_run_right test (text.dropWhile test)
  refine ⟨text.takeWhile test, right, fun _ => List.mem_takeWhile_imp, rightRun, ?_⟩
  rw [← split, List.takeWhile_append_dropWhile]

theorem stops_of_isPrefix {test : Char → Bool} {front text : Text} (isPrefix : front <+: text)
    (stops : Stops test text) : Stops test front := by
  obtain ⟨rest, rfl⟩ := isPrefix
  cases front with
  | nil => exact stops_nil test
  | cons first front => exact stops

/-- A text is trimmed if white space stands neither in front nor at the end. -/
def Trimmed (text : Text) : Prop := Stops isSpace text ∧ Stops isSpace text.reverse

instance (text : Text) : Decidable (Trimmed text) := inferInstanceAs (Decidable (_ ∧ _))

theorem trimmed_trim (text : Text) : Trimmed (trim text) :=
  ⟨stops_of_isPrefix (dropWhileRight_isPrefix isSpace _) (stops_dropWhile isSpace text),
    stops_reverse_dropWhileRight isSpace _⟩

/-- Trimming leaves a trimmed text as it is. -/
theorem trim_of_trimmed {text : Text} (trimmed : Trimmed text) : trim text = text := by
  have right : dropWhileRight isSpace (text ++ []) = text := dropWhileRight_run (by simp) trimmed.2
  rw [trim, trimLeft_of_stops trimmed.1]
  rwa [List.append_nil] at right

theorem trim_cons_of_isSpace {first : Char} (space : isSpace first) (rest : Text) :
    trim (first :: rest) = trim rest := by
  rw [trim, trimLeft, List.dropWhile_cons_of_pos space]
  rfl

/-- Nothing is left of a text that is white space. -/
theorem trim_eq_nil_iff {text : Text} : trim text = [] ↔ ∀ c ∈ text, isSpace c := by
  rw [trim, trimRight, dropWhileRight, List.reverse_eq_nil_iff, List.dropWhile_eq_nil_iff]
  constructor
  · intro spaces
    cases rest : trimLeft text with
    | nil => exact List.dropWhile_eq_nil_iff.mp rest
    | cons first later =>
        have stops := stops_dropWhile isSpace text
        rw [← trimLeft, rest, stops_cons] at stops
        have space := spaces first (by simp [rest])
        rw [stops] at space
        contradiction
  · intro spaces
    rw [trimLeft, List.dropWhile_eq_nil_iff.mpr spaces]
    simp

/-- White space on both sides of a text is trimmed. -/
theorem trim_run {left text right : Text} (leftSpaces : ∀ c ∈ left, isSpace c)
    (rightSpaces : ∀ c ∈ right, isSpace c) (nonempty : text ≠ []) (stops : Stops isSpace text)
    (stopsReverse : Stops isSpace text.reverse) : trim (left ++ (text ++ right)) = text :=
  dropBoth_run leftSpaces rightSpaces nonempty stops stopsReverse

theorem exists_trim (text : Text) :
    ∃ left right, (∀ c ∈ left, isSpace c) ∧ (∀ c ∈ right, isSpace c) ∧
      text = left ++ (trim text ++ right) :=
  exists_dropBoth isSpace text

theorem mem_of_mem_trim {text : Text} {character : Char} (member : character ∈ trim text) :
    character ∈ text :=
  (List.dropWhile_suffix isSpace).subset ((dropWhileRight_isPrefix isSpace _).subset member)

/-- The trimmed pieces between commas, without those that are blank. -/
def pieces (text : Text) : List Text :=
  ((text.splitOn ',').filter fun piece => piece.any fun c => !isSpace c).map trim

theorem commaPieces_eq (text : Text) : commaPieces text = pieces text := by
  rw [commaPieces, List.filter_map, pieces]
  congr 2
  funext piece
  show (!(trim piece).isEmpty) = piece.any fun c => !isSpace c
  rw [Bool.eq_iff_iff, Bool.not_eq_true', List.isEmpty_eq_false_iff, ne_eq, trim_eq_nil_iff, List.any_eq_true]
  simp

/-- A comma separates the pieces on its sides. -/
theorem commaPieces_append (first rest : Text) :
    commaPieces (first ++ ',' :: rest) = commaPieces first ++ commaPieces rest := by
  simp only [commaPieces, List.splitOn_append_cons_self, List.map_append, List.filter_append]

theorem commaPieces_cons_of_isSpace {first : Char} (space : isSpace first) (rest : Text) :
    commaPieces (first :: rest) = commaPieces rest := by
  have different : first ≠ ',' := by
    intro equal
    rw [equal] at space
    exact absurd space (by decide)
  obtain ⟨pieces, split⟩ := exists_splitOn ',' rest
  simp [commaPieces, List.splitOn_cons_eq_if_modifyHead, different, split, trim_cons_of_isSpace space]

/-- A piece is a text that stands alone between commas. -/
structure IsPiece (text : Text) : Prop where
  nonempty : text ≠ []
  trimmed : Trimmed text
  noComma : ',' ∉ text

theorem commaPieces_of_isPiece {text : Text} (piece : IsPiece text) : commaPieces text = [text] := by
  have trimmed : trim text = text := trim_of_trimmed piece.trimmed
  simp [commaPieces, List.splitOn_eq_singleton piece.noComma, trimmed, piece.nonempty]

theorem isPiece_of_mem_commaPieces {text piece : Text} (member : piece ∈ commaPieces text) :
    IsPiece piece ∧ piece ⊆ text := by
  simp only [commaPieces, List.mem_filter, List.mem_map, Bool.not_eq_true',
    List.isEmpty_eq_false_iff] at member
  obtain ⟨⟨untrimmed, inside, rfl⟩, nonempty⟩ := member
  obtain ⟨lacks, taken⟩ := splitOn_piece inside
  have fewer : trim untrimmed ⊆ untrimmed := fun _ => mem_of_mem_trim
  exact ⟨⟨nonempty, trimmed_trim untrimmed, fun comma => lacks (fewer comma)⟩,
    List.Subset.trans fewer taken⟩

/-- Pieces that are put together with commas and spaces are found again. -/
theorem commaPieces_intercalate {pieces : List Text} (all : ∀ piece ∈ pieces, IsPiece piece) :
    commaPieces ([',', ' '].intercalate pieces) = pieces := by
  induction pieces with
  | nil => rfl
  | cons first pieces inductionHypothesis =>
      have firstPiece := all first List.mem_cons_self
      have later := inductionHypothesis fun piece member => all piece (List.mem_cons_of_mem _ member)
      by_cases last : pieces = []
      · rw [last, List.intercalate_singleton]
        exact commaPieces_of_isPiece firstPiece
      · have space : isSpace ' ' := by decide
        rw [List.intercalate_cons_of_ne_nil last, List.append_assoc]
        change commaPieces (first ++ ',' :: (' ' :: [',', ' '].intercalate pieces)) = _
        rw [commaPieces_append, commaPieces_cons_of_isSpace space, later,
          commaPieces_of_isPiece firstPiece, List.singleton_append]

/-- A test that is passed by the separator and by all texts is passed by the text that they make. -/
theorem run_intercalate {test : Char → Bool} {separator : Text} {texts : List Text}
    (separates : ∀ c ∈ separator, test c) (all : ∀ text ∈ texts, ∀ c ∈ text, test c) :
    ∀ c ∈ separator.intercalate texts, test c := by
  induction texts with
  | nil => simp
  | cons first texts inductionHypothesis =>
      have later := inductionHypothesis fun text member => all text (List.mem_cons_of_mem _ member)
      have here := all first List.mem_cons_self
      by_cases last : texts = []
      · rw [last, List.intercalate_singleton]
        exact here
      · intro c member
        rw [List.intercalate_cons_of_ne_nil last, List.mem_append, List.mem_append] at member
        rcases member with (inside | between) | behind
        · exact here c inside
        · exact separates c between
        · exact later c behind

end Outline.Text
