/-
This file states what a session keeps over any number of requests. A request changes one slot at most, a request
that fails changes none, and a stream hands out each of its entries once, in order, whatever is asked in between.
-/

import Outline.Session

namespace Outline

namespace Stream

/-- The front of a stream is used up, some of its entries are handed out, and the notes that are written down are
the closing notes, or none while they stay with the stream. -/
structure Uses (stream : Stream) (given : List Entry) (left : Stream) (notes : List Note) : Prop where
  front : ∃ used, stream.remaining = used ++ left.remaining ∧ given.Sublist used
  noted : notes ++ left.closing = stream.closing

theorem Uses.refl (stream : Stream) : stream.Uses [] stream [] := ⟨⟨[], rfl, .slnil⟩, rfl⟩

theorem Uses.trans {stream middle left : Stream} {given later : List Entry} {notes laterNotes : List Note}
    (first : stream.Uses given middle notes) (second : middle.Uses later left laterNotes) :
    stream.Uses (given ++ later) left (notes ++ laterNotes) := by
  obtain ⟨used, split, sublist⟩ := first.front
  obtain ⟨more, split', sublist'⟩ := second.front
  refine ⟨⟨used ++ more, ?_, sublist.append sublist'⟩, ?_⟩
  · rw [split, split', List.append_assoc]
  · rw [List.append_assoc, second.noted, first.noted]

theorem find?_uses (test : Entry → Bool) (stream : Stream) :
    stream.Uses (stream.find? test).answer.toList (stream.find? test).stream (stream.find? test).notes := by
  have split : stream.remaining.takeWhile (fun entry => !test entry) ++
      stream.remaining.dropWhile (fun entry => !test entry) = stream.remaining := List.takeWhile_append_dropWhile
  rw [find?]
  cases found : stream.remaining.dropWhile fun entry => !test entry with
  | nil => exact ⟨⟨stream.remaining, by simp [ended], List.nil_sublist _⟩, by simp [ended]⟩
  | cons entry rest =>
      rw [found] at split
      refine ⟨⟨stream.remaining.takeWhile (fun entry => !test entry) ++ [entry], ?_, ?_⟩, rfl⟩
      · rw [List.append_assoc, List.singleton_append, split]
      · exact List.sublist_append_right _ _

/-- All that is left is used up, and a choice of it is handed out. -/
theorem uses_up {stream : Stream} {given : List Entry} (sublist : given.Sublist stream.remaining) :
    stream.Uses given ended stream.closing :=
  ⟨⟨stream.remaining, by simp [ended], sublist⟩, by simp [ended]⟩

end Stream

namespace Session

/-- The slot that a request may change. -/
def Request.target? : Request → Option Text
  | .scan slot _ _ | .openSource slot _ | .openField slot _ _ | .next slot | .drain slot | .find slot _
  | .findBase slot _ | .apply slot _ _ | .rescan slot _ => some slot
  | .render _ | .record _ | .equal _ _ => none

/-- Whether a request takes from the stream of its slot. -/
def Request.takes : Request → Bool
  | .next _ | .drain _ | .find _ _ | .findBase _ _ => true
  | _ => false

/-- The entries that an answer hands out. -/
def Answer.given : Answer → List Entry
  | .entry value => [value]
  | .entries values => values
  | _ => []

/-- A summary that scans and settings make. -/
inductive Made : Summary → Prop where
  | scanned (text path : Text) : Made (Summary.scan text path)
  | applied {summary : Summary} (settings : Settings) (made : Made summary) : Made (settings.apply summary)

/-- What a request does that succeeds. -/
inductive Effect (session : Session) (request : Request) : Outcome → Prop where
  | looked {answer : Answer} (untargeted : request.target? = none) (nothing : answer.given = []) :
      Effect session request ⟨session, answer, []⟩
  | scanned {slot text path : Text} (notes : List Note) (target : request.target? = some slot)
      (opens : request.takes = false) :
      Effect session request (session.store slot (Summary.scan text path) notes)
  | applied {slot origin : Text} {summary : Summary} (settings : Settings) (target : request.target? = some slot)
      (opens : request.takes = false) (held : session.slot? origin = some (.summary summary)) :
      Effect session request (session.store slot (settings.apply summary) [])
  | openedSource {slot text : Text} (target : request.target? = some slot) (opens : request.takes = false) :
      Effect session request ⟨session.set slot (.stream (Stream.ofSource text)), .opened, []⟩
  | openedField {slot origin : Text} {summary : Summary} (field : Field) (target : request.target? = some slot)
      (opens : request.takes = false) (held : session.slot? origin = some (.summary summary)) :
      Effect session request ⟨session.set slot (.stream (field.stream summary)), .opened, []⟩
  | took {slot : Text} {stream left : Stream} {answer : Answer} {notes : List Note}
      (target : request.target? = some slot) (takes : request.takes)
      (held : session.slot? slot = some (.stream stream)) (uses : stream.Uses answer.given left notes) :
      Effect session request ⟨session.set slot (.stream left), answer, notes⟩

section

variable {session : Session} {request : Request} {outcome : Outcome} {slot : Text}

@[simp] theorem slot?_set (session : Session) (slot : Text) (value : Slot) :
    (session.set slot value).slot? slot = some value := by
  simp [set, slot?]

theorem slot?_set_of_ne {name : Text} (other : name ≠ slot) (session : Session) (value : Slot) :
    (session.set slot value).slot? name = session.slot? name := by
  have different : (name == slot) = false := by simpa using other
  simp [set, slot?, List.lookup_cons, different]

theorem summary_eq_ok_iff {summary : Summary} :
    session.summary slot = .ok summary ↔ session.slot? slot = some (.summary summary) := by
  rw [Session.summary]
  cases session.slot? slot with
  | none => simp
  | some value => cases value <;> simp

theorem stream_eq_ok_iff {stream : Stream} :
    session.stream slot = .ok stream ↔ session.slot? slot = some (.stream stream) := by
  rw [Session.stream]
  cases session.slot? slot with
  | none => simp
  | some value => cases value <;> simp

theorem ok_of_bind {α : Type} {part : Except Fault α} {rest : α → Except Fault Outcome}
    (found : part >>= rest = .ok outcome) : ∃ value, part = .ok value ∧ rest value = .ok outcome := by
  cases part with
  | ok value => exact ⟨value, rfl, found⟩
  | error fault => exact nomatch found

theorem run_effect (found : session.run request = .ok outcome) : Effect session request outcome := by
  cases request with
  | scan slot input path =>
      obtain ⟨text, _, done⟩ := ok_of_bind found
      obtain rfl := Except.ok.inj done
      exact .scanned _ rfl rfl
  | openSource slot input =>
      obtain ⟨text, _, done⟩ := ok_of_bind found
      obtain rfl := Except.ok.inj done
      exact .openedSource rfl rfl
  | openField slot origin field =>
      obtain ⟨summary, held, done⟩ := ok_of_bind found
      obtain rfl := Except.ok.inj done
      exact .openedField field rfl rfl (summary_eq_ok_iff.mp held)
  | next slot =>
      obtain ⟨stream, held, done⟩ := ok_of_bind found
      obtain rfl := Except.ok.inj done
      refine .took rfl rfl (stream_eq_ok_iff.mp held) ?_
      have uses := stream.find?_uses fun _ => true
      rw [← Stream.next?] at uses
      cases answer : stream.next?.answer <;> simpa [Answer.given, answer] using uses
  | drain slot =>
      obtain ⟨stream, held, done⟩ := ok_of_bind found
      obtain rfl := Except.ok.inj done
      exact .took rfl rfl (stream_eq_ok_iff.mp held) (Stream.uses_up (List.Sublist.refl _))
  | find slot name =>
      obtain ⟨stream, held, done⟩ := ok_of_bind found
      obtain rfl := Except.ok.inj done
      refine .took rfl rfl (stream_eq_ok_iff.mp held) ?_
      have uses := stream.find?_uses fun entry => some entry.name == name
      rw [← Stream.named?] at uses
      cases answer : (stream.named? name).answer <;> simpa [Answer.given, answer] using uses
  | findBase slot name =>
      obtain ⟨stream, held, done⟩ := ok_of_bind found
      obtain rfl := Except.ok.inj done
      exact .took rfl rfl (stream_eq_ok_iff.mp held) (Stream.uses_up List.filter_sublist)
  | apply slot origin settings =>
      obtain ⟨summary, held, done⟩ := ok_of_bind found
      obtain rfl := Except.ok.inj done
      exact .applied settings rfl rfl (summary_eq_ok_iff.mp held)
  | rescan slot origin =>
      obtain ⟨summary, _, done⟩ := ok_of_bind found
      obtain rfl := Except.ok.inj done
      exact .scanned _ rfl rfl
  | render slot | record slot =>
      obtain ⟨summary, _, done⟩ := ok_of_bind found
      obtain rfl := Except.ok.inj done
      exact .looked rfl rfl
  | equal left right =>
      obtain ⟨first, _, more⟩ := ok_of_bind found
      obtain ⟨second, _, done⟩ := ok_of_bind more
      obtain rfl := Except.ok.inj done
      exact .looked rfl rfl

/-- A request that fails leaves everything as it was. -/
theorem step_cases (session : Session) (request : Request) :
    (∃ fault, session.step request = (session, .error fault, [])) ∨
      ∃ outcome, Effect session request outcome ∧
        session.step request = (outcome.session, .ok outcome.answer, outcome.notes) := by
  rw [step]
  cases found : session.run request with
  | error fault => exact Or.inl ⟨fault, rfl⟩
  | ok outcome => exact Or.inr ⟨outcome, run_effect found, rfl⟩

/-- A request changes no slot but its target. -/
theorem step_frame {name : Text} (other : request.target? ≠ some name) :
    (session.step request).1.slot? name = session.slot? name := by
  rcases step_cases session request with ⟨fault, stepped⟩ | ⟨outcome, effect, stepped⟩ <;> rw [stepped]
  cases effect with
  | looked => rfl
  | @scanned slot _ _ _ target | @applied slot _ _ _ target | @openedSource slot _ target
  | @openedField slot _ _ _ target | @took slot _ _ _ _ target =>
      have different : name ≠ slot := by
        rintro rfl
        exact other target
      exact slot?_set_of_ne different session _

/-- What the stream of a slot brings forth in a request. -/
def handed (session : Session) (slot : Text) (request : Request) : List Entry × List Note :=
  if request.target? = some slot then
    match session.step request with
    | (_, .ok answer, notes) => (answer.given, notes)
    | (_, .error _, notes) => ([], notes)
  else ([], [])

theorem step_uses {stream : Stream} (held : session.slot? slot = some (.stream stream))
    (taken : request.target? = some slot → request.takes) :
    ∃ left, (session.step request).1.slot? slot = some (.stream left) ∧
      stream.Uses (session.handed slot request).1 left (session.handed slot request).2 := by
  by_cases target : request.target? = some slot
  · rw [handed, if_pos target]
    rcases step_cases session request with ⟨fault, stepped⟩ | ⟨outcome, effect, stepped⟩ <;> rw [stepped]
    · exact ⟨stream, held, .refl stream⟩
    · have takes := taken target
      cases effect with
      | looked untargeted => rw [untargeted] at target; contradiction
      | scanned _ _ opens | applied _ _ opens | openedSource _ opens | openedField _ _ opens =>
          rw [opens] at takes
          contradiction
      | @took name other left answer notes here _ held' uses =>
          obtain rfl : name = slot := Option.some.inj (here.symm.trans target)
          obtain rfl : stream = other := Slot.stream.inj (Option.some.inj (held.symm.trans held'))
          exact ⟨left, slot?_set _ _ _, uses⟩
  · rw [handed, if_neg target, step_frame target]
    exact ⟨stream, held, .refl stream⟩

end

/-- The session that the requests leave. -/
def after (session : Session) (requests : List Request) : Session :=
  requests.foldl (fun session request => (session.step request).1) session

/-- What the stream of a slot brings forth in a run. -/
def handedOver (session : Session) (slot : Text) : List Request → List Entry × List Note
  | [] => ([], [])
  | request :: rest =>
      let now := session.handed slot request
      let later := (session.step request).1.handedOver slot rest
      (now.1 ++ later.1, now.2 ++ later.2)

section

variable {session : Session} {requests : List Request} {slot : Text}

theorem answers_cons (request : Request) (rest : List Request) :
    session.answers (request :: rest) =
      ((session.step request).2.1 :: ((session.step request).1.answers rest).1,
        (session.step request).2.2 ++ ((session.step request).1.answers rest).2) := rfl

theorem answers_append (front back : List Request) :
    session.answers (front ++ back) =
      ((session.answers front).1 ++ ((session.after front).answers back).1,
        (session.answers front).2 ++ ((session.after front).answers back).2) := by
  induction front generalizing session with
  | nil => rfl
  | cons request front inductionHypothesis =>
      rw [List.cons_append, answers_cons, answers_cons, inductionHypothesis, List.append_assoc]
      rfl

/-- Slots that no request of a run targets are the same after it. -/
theorem after_frame {name : Text} (others : ∀ request ∈ requests, request.target? ≠ some name) :
    (session.after requests).slot? name = session.slot? name := by
  induction requests generalizing session with
  | nil => rfl
  | cons request requests inductionHypothesis =>
      obtain ⟨other, later⟩ := List.forall_mem_cons.mp others
      exact (inductionHypothesis later).trans (step_frame other)

/-- A stream hands out each of its entries once at most, in order, and writes its closing notes once, as long as
nothing else is put into its slot. -/
theorem after_uses {stream : Stream} (held : session.slot? slot = some (.stream stream))
    (taken : ∀ request ∈ requests, request.target? = some slot → request.takes) :
    ∃ left, (session.after requests).slot? slot = some (.stream left) ∧
      stream.Uses (session.handedOver slot requests).1 left (session.handedOver slot requests).2 := by
  induction requests generalizing session stream with
  | nil => exact ⟨stream, held, .refl stream⟩
  | cons request requests inductionHypothesis =>
      obtain ⟨here, later⟩ := List.forall_mem_cons.mp taken
      obtain ⟨middle, heldNext, uses⟩ := step_uses held here
      obtain ⟨left, heldLast, usesLater⟩ := inductionHypothesis heldNext later
      exact ⟨left, heldLast, uses.trans usesLater⟩

theorem step_next {stream : Stream} (held : session.slot? slot = some (.stream stream)) :
    session.step (.next slot) = (session.set slot (.stream stream.next?.stream),
      .ok (stream.next?.answer.elim .finished .entry), stream.next?.notes) := by
  rw [step, run, stream_eq_ok_iff.mpr held]
  rfl

/-- Asked for one entry after the other, a stream hands out all its entries from the first on, writes its closing
notes when it is asked for one more, and is finished from then on. -/
theorem answers_next {stream : Stream} (held : session.slot? slot = some (.stream stream)) (count : Nat) :
    session.answers (List.replicate count (.next slot)) =
      ((stream.remaining.take count).map (fun entry => .ok (.entry entry)) ++
          List.replicate (count - stream.remaining.length) (.ok .finished),
        if stream.remaining.length < count then stream.closing else []) := by
  induction count generalizing session stream with
  | zero => simp [answers]
  | succ count inductionHypothesis =>
      have kept := slot?_set session slot (.stream stream.next?.stream)
      rw [List.replicate_succ, answers_cons, step_next held, inductionHypothesis kept]
      obtain ⟨remaining, closing⟩ := stream
      cases remaining with
      | nil => simp [Stream.next?, Stream.find?, Stream.ended, List.replicate_succ]
      | cons entry rest => simp [Stream.next?, Stream.find?]

end

/-- An entry of a summary that scans and settings make. -/
def Listed (entry : Entry) : Prop :=
  ∃ summary, ∃ field : Field, Made summary ∧ entry ∈ (field.stream summary).remaining

def Slot.Made : Slot → Prop
  | .summary value => Session.Made value
  | .stream value => ∀ entry ∈ value.remaining, Listed entry

/-- The slots hold what scans and settings make, and streams over it. -/
def Holds (session : Session) : Prop := ∀ name slot, session.slot? name = some slot → slot.Made

section

variable {session : Session} {request : Request} {outcome : Outcome}

theorem Holds.set (holds : session.Holds) {value : Slot} (made : value.Made) (name : Text) :
    (session.set name value).Holds := by
  intro other slot held
  by_cases same : other = name
  · subst same
    obtain rfl := Option.some.inj ((slot?_set session other value).symm.trans held)
    exact made
  · exact holds other slot ((slot?_set_of_ne same session value).symm.trans held)

theorem Effect.holds (effect : Effect session request outcome) (holds : session.Holds) :
    outcome.session.Holds ∧ ∀ entry ∈ outcome.answer.given, Listed entry := by
  cases effect with
  | looked untargeted nothing => exact ⟨holds, by simp [nothing]⟩
  | @scanned slot text path =>
      have made : Slot.Made (.summary (Summary.scan text path)) := .scanned text path
      exact ⟨holds.set made slot, List.forall_mem_nil _⟩
  | @applied slot origin summary settings target opens held =>
      have made : Slot.Made (.summary (settings.apply summary)) := .applied settings (holds origin _ held)
      exact ⟨holds.set made slot, List.forall_mem_nil _⟩
  | @openedSource slot text =>
      have made : Slot.Made (.stream (Stream.ofSource text)) :=
        fun entry member => ⟨Summary.scan text [], .globals, .scanned text [], member⟩
      exact ⟨holds.set made slot, List.forall_mem_nil _⟩
  | @openedField slot origin summary field target opens held =>
      have made : Slot.Made (.stream (field.stream summary)) :=
        fun entry member => ⟨summary, field, holds origin _ held, member⟩
      exact ⟨holds.set made slot, List.forall_mem_nil _⟩
  | @took slot stream left answer notes target takes held uses =>
      obtain ⟨used, split, sublist⟩ := uses.front
      have listed : ∀ entry ∈ used ++ left.remaining, Listed entry := split ▸ holds slot _ held
      have made : Slot.Made (.stream left) := fun entry member => listed entry (List.mem_append_right _ member)
      refine ⟨holds.set made slot, ?_⟩
      intro entry member
      exact listed entry (List.mem_append_left _ (sublist.subset member))

theorem step_holds (holds : session.Holds) (request : Request) :
    (session.step request).1.Holds ∧
      ∀ answer, (session.step request).2.1 = .ok answer → ∀ entry ∈ answer.given, Listed entry := by
  rcases step_cases session request with ⟨fault, stepped⟩ | ⟨outcome, effect, stepped⟩ <;> rw [stepped]
  · exact ⟨holds, nofun⟩
  · obtain ⟨holdsNext, listed⟩ := effect.holds holds
    exact ⟨holdsNext, fun answer same => Except.ok.inj same ▸ listed⟩

/-- Over a whole run, the slots hold what scans and settings make, and no other entry is ever handed out. -/
theorem after_holds (holds : session.Holds) (requests : List Request) :
    (session.after requests).Holds ∧
      ∀ answer, .ok answer ∈ (session.answers requests).1 → ∀ entry ∈ answer.given, Listed entry := by
  induction requests generalizing session with
  | nil => exact ⟨holds, by simp [answers]⟩
  | cons request requests inductionHypothesis =>
      obtain ⟨holdsNext, listed⟩ := step_holds holds request
      obtain ⟨holdsLast, listedLater⟩ := inductionHypothesis holdsNext
      refine ⟨holdsLast, ?_⟩
      intro answer member
      rw [answers_cons, List.mem_cons] at member
      rcases member with here | later
      · exact listed answer here.symm
      · exact listedLater answer later

/-- From a new session on, every entry that is handed out stands in a summary that scans and settings make. -/
theorem listed_of_new (requests : List Request) {answer : Answer}
    (member : .ok answer ∈ (answers {} requests).1) : ∀ entry ∈ answer.given, Listed entry := by
  have holds : Session.Holds {} := nofun
  exact (after_holds holds requests).2 answer member

end

end Session

end Outline
