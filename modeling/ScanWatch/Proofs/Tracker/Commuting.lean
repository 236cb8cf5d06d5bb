import ScanWatch.Proofs.Tracker.Run

namespace ScanWatch

namespace Message

/-- What a message is about, as far as its place in a run may matter. -/
inductive Topic where
  | datasets
  | backend
  | other
deriving DecidableEq

def topic : Message → Topic
  | .datasetsLoaded _ => .datasets
  | .backendStatusLoaded _ | .backendStatusFailed _ => .backend
  | _ => .other

def isMounted : Message → Bool
  | .mounted _ => true
  | _ => false

/-- Two runs tell the same of each topic in the same order, and only mix the topics differently. -/
def Remixed (first second : List Message) : Prop :=
  ∀ topic, (first.filter fun message => message.topic = topic) =
    second.filter fun message => message.topic = topic

/-- Neighbours of different topics change places, any number of times. -/
inductive Swaps : List Message → List Message → Prop where
  | refl (messages : List Message) : Swaps messages messages
  | trans {first second third : List Message} (front : Swaps first second)
      (back : Swaps second third) : Swaps first third
  | cons (message : Message) {first second : List Message} (rest : Swaps first second) :
      Swaps (message :: first) (message :: second)
  | swap {one other : Message} (apart : one.topic ≠ other.topic) (rest : List Message) :
      Swaps (one :: other :: rest) (other :: one :: rest)

variable {message : Message} {first second before later rest : List Message}

private theorem swaps_back (apart : ∀ other ∈ before, message.topic ≠ other.topic)
    (later : List Message) :
    Swaps (message :: (before ++ later)) (before ++ message :: later) := by
  induction before with
  | nil => exact .refl _
  | cons first rest ih =>
    obtain ⟨apart, others⟩ := List.forall_mem_cons.mp apart
    exact .trans (.swap apart _) (.cons first (ih others))

private theorem Remixed.mem (remixed : Remixed first second) (member : message ∈ second) :
    message ∈ first := by
  have own : message ∈ second.filter fun other => other.topic = message.topic := by
    simpa using member
  rw [← remixed message.topic] at own
  exact (List.mem_filter.mp own).1

private theorem Remixed.head (remixed : Remixed (message :: rest) second) :
    ∃ before later, second = before ++ message :: later ∧
      ∀ other ∈ before, message.topic ≠ other.topic := by
  have own := remixed message.topic
  rw [List.filter_cons_of_pos (by simp)] at own
  obtain ⟨before, later, rfl, others, _⟩ := List.filter_eq_cons_iff.mp own.symm
  exact ⟨before, later, rfl, fun other member same => others other member (by simp [same])⟩

private theorem Remixed.tail (remixed : Remixed (message :: rest) (before ++ message :: later))
    (apart : ∀ other ∈ before, message.topic ≠ other.topic) : Remixed rest (before ++ later) := by
  intro topic
  have same := remixed topic
  rw [List.filter_append] at same ⊢
  by_cases own : message.topic = topic
  · have none : (before.filter fun message => message.topic = topic) = [] := by
      rw [List.filter_eq_nil_iff]
      intro other member
      simpa [← own] using (apart other member).symm
    rw [none] at same ⊢
    simpa [List.filter_cons, own] using same
  · simpa [List.filter_cons, own] using same

private theorem Swaps.mem_iff (swaps : Swaps first second) :
    message ∈ first ↔ message ∈ second := by
  induction swaps with
  | refl messages => rfl
  | trans front back intoFront intoBack => exact intoFront.trans intoBack
  | cons head rest ih => rw [List.mem_cons, List.mem_cons, ih]
  | swap apart rest => simp only [List.mem_cons, or_left_comm]

/-- Mixing the topics differently is a matter of swapping neighbours. -/
theorem Remixed.swaps (remixed : Remixed first second) : Swaps first second := by
  induction first generalizing second with
  | nil =>
    cases second with
    | nil => exact .refl []
    | cons message rest => exact absurd (remixed.mem (List.mem_cons_self ..)) List.not_mem_nil
  | cons message rest ih =>
    obtain ⟨before, later, rfl, apart⟩ := remixed.head
    -- The first message is led to its place in the other run, past messages of other topics only.
    exact .trans (.cons message (ih (remixed.tail apart))) (swaps_back apart later)

end Message

/-- What the answers that stand apart write, and no other message reads. -/
structure Notes where
  datasets : DatasetMap
  datasetsLoaded : Bool
  backend : Option BackendStatus
  backendError : Option String

def Message.note (message : Message) (notes : Notes) : Notes :=
  match message with
  | .datasetsLoaded datasets => { notes with datasets, datasetsLoaded := true }
  | .backendStatusLoaded status => { notes with backend := some status, backendError := none }
  | .backendStatusFailed reason => { notes with backendError := some reason }
  | _ => notes

private theorem Message.note_comm {one other : Message} (apart : one.topic ≠ other.topic)
    (notes : Notes) : one.note (other.note notes) = other.note (one.note notes) := by
  cases one <;> first | rfl | (cases other <;> first | rfl | exact absurd rfl apart)

namespace Tracker

def notes (tracker : Tracker) : Notes :=
  ⟨tracker.datasets, tracker.datasetsLoaded, tracker.backend, tracker.backendError⟩

/-- Writes the notes anew, and asks for a look. -/
def withNotes (tracker : Tracker) (notes : Notes) : Tracker :=
  { tracker with
    datasets := notes.datasets
    datasetsLoaded := notes.datasetsLoaded
    backend := notes.backend
    backendError := notes.backendError
    dirty := true }

@[simp] theorem notes_withNotes (tracker : Tracker) (notes : Notes) :
    (tracker.withNotes notes).notes = notes := rfl

@[simp] theorem withNotes_withNotes (tracker : Tracker) (notes newer : Notes) :
    (tracker.withNotes notes).withNotes newer = tracker.withNotes newer := rfl

/-- A response that neither reads nor writes the notes: whether they are written before or after
it makes no difference. -/
structure Aside (respond : Tracker → Tracker × List Effect) : Prop where
  commutes : ∀ tracker notes, respond (tracker.withNotes notes) =
    ((respond tracker).1.withNotes notes, (respond tracker).2)
  keeps : ∀ tracker, (respond tracker).1.notes = tracker.notes

namespace Aside

private theorem nothing (effects : List Effect) : Aside fun tracker => (tracker, effects) :=
  ⟨fun _ _ => rfl, fun _ => rfl⟩

private theorem ite {test : Tracker → Prop} [DecidablePred test]
    {respond otherwise : Tracker → Tracker × List Effect}
    (unread : ∀ tracker notes, test (tracker.withNotes notes) ↔ test tracker)
    (accepted : Aside respond) (refused : Aside otherwise) :
    Aside fun tracker => if test tracker then respond tracker else otherwise tracker := by
  constructor
  · intro tracker notes
    simp only [unread]
    split
    · exact accepted.commutes tracker notes
    · exact refused.commutes tracker notes
  · intro tracker
    split
    · exact accepted.keeps tracker
    · exact refused.keeps tracker

private theorem chooseJob (hash : Option JobHash) (rawQuery : Option String) :
    Aside fun tracker => tracker.chooseJob hash rawQuery := by
  cases hash <;> cases rawQuery <;> exact ⟨fun _ _ => rfl, fun _ => rfl⟩

private theorem onMatchesLoaded (ticket : PollTicket) (page : MatchPage) :
    Aside fun tracker => tracker.onMatchesLoaded ticket page := by
  refine ite (fun _ _ => Iff.rfl) ⟨fun tracker notes => ?_, fun tracker => ?_⟩ (nothing [])
  · have settings : (tracker.withNotes notes).settings = tracker.settings := rfl
    rw [settings]
    cases tracker.settings.nextStep page.job.status page.items.length <;> rfl
  · split <;> rfl

/-- All messages but the answers that stand apart leave the notes aside. -/
theorem update {message : Message} (other : message.topic = .other)
    (stays : message.isMounted = false) : Aside fun tracker => tracker.update message := by
  cases message with
  | mounted | datasetsLoaded | backendStatusLoaded | backendStatusFailed => contradiction
  | unmounted | collapseToggled => exact ⟨fun _ _ => rfl, fun _ => rfl⟩
  | backendStatusRequested | tick => exact nothing _
  | querySubmitted hash rawQuery => exact chooseJob (some hash) (some rawQuery)
  | jobChosen hash rawQuery => exact chooseJob hash rawQuery
  | jobQueryLoaded | jobQueryFailed =>
    exact ite (fun _ _ => Iff.rfl) (chooseJob _ _) (nothing [])
  | compileRequested | submitRequested | queryCompiled | queryFailed =>
    exact ite (fun _ _ => Iff.rfl) (nothing []) ⟨fun _ _ => rfl, fun _ => rfl⟩
  | pollDue => exact ite (fun _ _ => Iff.rfl) ⟨fun _ _ => rfl, fun _ => rfl⟩ (nothing [])
  | matchesLoaded ticket page => exact onMatchesLoaded ticket page
  | matchesFailed =>
    exact ite (fun _ _ => Iff.rfl) ⟨fun _ _ => rfl, fun _ => rfl⟩ (nothing [])

end Aside

/-- An answer that stands apart is written down, and nothing else comes of it. -/
theorem update_note {message : Message} (apart : message.topic ≠ .other) (tracker : Tracker) :
    tracker.update message = (tracker.withNotes (message.note tracker.notes), []) := by
  cases message <;> first | rfl | exact absurd rfl apart

/-- The tracker after some messages, and all effects on the way. -/
def told (tracker : Tracker) (messages : List Message) : Tracker × List Effect :=
  (tracker.after (messages.map .tell), tracker.effects (messages.map .tell))

private theorem told_cons (tracker : Tracker) (message : Message) (rest : List Message) :
    tracker.told (message :: rest) =
      (((tracker.update message).1.told rest).1,
        (tracker.update message).2 ++ ((tracker.update message).1.told rest).2) := rfl

variable {one other : Message}

private theorem told_swap_aside (apart : one.topic ≠ .other) (aside : other.topic = .other)
    (stays : other.isMounted = false) (tracker : Tracker) (rest : List Message) :
    tracker.told (one :: other :: rest) = tracker.told (other :: one :: rest) := by
  obtain ⟨commutes, keeps⟩ := Aside.update aside stays
  simp only [told_cons, update_note apart, commutes, keeps, List.nil_append]

/-- Neighbours of different topics change places. -/
theorem told_swap (apart : one.topic ≠ other.topic) (stays : one.isMounted = false)
    (remains : other.isMounted = false) (tracker : Tracker) (rest : List Message) :
    tracker.told (one :: other :: rest) = tracker.told (other :: one :: rest) := by
  by_cases first : one.topic = .other
  · exact (told_swap_aside (first ▸ apart.symm) first stays tracker rest).symm
  by_cases second : other.topic = .other
  · exact told_swap_aside first second remains tracker rest
  · simp only [told_cons, update_note first, update_note second, notes_withNotes,
      withNotes_withNotes, Message.note_comm apart]

private theorem told_swaps {first second : List Message} (swaps : Message.Swaps first second)
    (stay : ∀ message ∈ first, message.isMounted = false) (tracker : Tracker) :
    tracker.told first = tracker.told second := by
  induction swaps generalizing tracker with
  | refl messages => rfl
  | trans front back intoFront intoBack =>
    rw [intoFront stay tracker]
    exact intoBack (fun message member => stay message (front.mem_iff.mpr member)) tracker
  | cons message rest ih =>
    rw [told_cons, told_cons, ih fun other member => stay other (List.mem_cons_of_mem _ member)]
  | swap apart rest =>
    obtain ⟨stays, others⟩ := List.forall_mem_cons.mp stay
    exact told_swap apart stays (others _ (List.mem_cons_self ..)) tracker rest

/-- While the page is not opened anew, it makes no difference to a tracker, whatever it was, at
which points of a run the datasets and the news of the backend come: neither to any of its fields
nor to the sequence of effects, whatever the other messages are. -/
theorem independent_answers_commute (tracker : Tracker) {first second : List Message}
    (stay : ∀ message ∈ first, message.isMounted = false)
    (remixed : Message.Remixed first second) :
    tracker.after (first.map .tell) = tracker.after (second.map .tell) ∧
      tracker.effects (first.map .tell) = tracker.effects (second.map .tell) :=
  Prod.mk.inj (told_swaps remixed.swaps stay tracker)

/-- A job is opened, and its first page comes, with the answers that stand apart in between. -/
def promptAnswers : List Message :=
  [.datasetsLoaded .empty, .querySubmitted ⟨"a"⟩ "rule", .backendStatusFailed "timeout",
    .queryFailed "late" "rule", .backendStatusLoaded ⟨true, []⟩,
    .matchesLoaded ⟨⟨"a"⟩, 1⟩ ⟨[.null], .ofStatus .processing⟩]

def lateAnswers : List Message :=
  [.querySubmitted ⟨"a"⟩ "rule", .queryFailed "late" "rule",
    .matchesLoaded ⟨⟨"a"⟩, 1⟩ ⟨[.null], .ofStatus .processing⟩,
    .backendStatusFailed "timeout", .backendStatusLoaded ⟨true, []⟩, .datasetsLoaded .empty]

theorem independent_answers_commute_late :
    (∀ message ∈ promptAnswers, message.isMounted = false) ∧
      Message.Remixed promptAnswers lateAnswers ∧
      fresh.effects (promptAnswers.map .tell) =
        [.navigate (.job ⟨"a"⟩), .ask (.page ⟨⟨"a"⟩, 1⟩ 0 50),
          .schedulePoll ⟨⟨"a"⟩, 1⟩ 1000] ∧
      fresh.after (promptAnswers.map .tell) = fresh.after (lateAnswers.map .tell) ∧
      fresh.effects (promptAnswers.map .tell) = fresh.effects (lateAnswers.map .tell) := by
  have stay : ∀ message ∈ promptAnswers, message.isMounted = false := by
    simp [promptAnswers, Message.isMounted]
  have remixed : Message.Remixed promptAnswers lateAnswers := by
    intro topic
    cases topic <;> rfl
  exact ⟨stay, remixed, rfl, independent_answers_commute fresh stay remixed⟩

end Tracker

end ScanWatch
