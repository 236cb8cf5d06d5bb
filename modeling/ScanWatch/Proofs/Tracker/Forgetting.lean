import ScanWatch.Proofs.Tracker.Step
import ScanWatch.Tracker.View

/-! What a tracker forgets. Two trackers with different pasts are the same once a job is opened with
its query, or the page; all that still tells them apart is who had a timer to cancel. -/

namespace ScanWatch

/-- The messages that open a job together with its query. -/
inductive Message.Opens (hash : JobHash) (rawQuery : String) : Message → Prop where
  | chosen : Opens hash rawQuery (.jobChosen (some hash) (some rawQuery))
  | submitted : Opens hash rawQuery (.querySubmitted hash rawQuery)

namespace Tracker

/-- All that opening a job leaves as it is agrees. -/
structure AgreesAround (one other : Tracker) : Prop where
  datasets : one.datasets = other.datasets
  datasetsLoaded : one.datasetsLoaded = other.datasetsLoaded
  backend : one.backend = other.backend
  backendError : one.backendError = other.backendError
  settings : one.settings = other.settings
  lastEpoch : one.lastEpoch = other.lastEpoch

/-- A message makes one tracker into another, for all that may follow. Its effects are the given
ones, with a cancellation between the first and the last of them exactly if a loop was given up. -/
structure LeadsTo (tracker : Tracker) (message : Message) (next : Tracker)
    (first last : List Effect) : Prop where
  states : ∀ continuation,
    tracker.after (.tell message :: continuation) = next.after continuation
  views : ∀ continuation,
    (tracker.after (.tell message :: continuation)).view = (next.after continuation).view
  effects : ∀ continuation, tracker.effects (.tell message :: continuation) =
    first ++ (if tracker.ticket.isSome then [.cancelPoll] else []) ++ last ++
      next.effects continuation

variable {one other tracker next : Tracker} {message : Message}

private theorem leadsTo_of_update {first last : List Effect}
    (updated : tracker.update message = (next, first ++ tracker.cancellation ++ last)) :
    tracker.LeadsTo message next first last := by
  have same : tracker.act (.tell message) = next := congrArg Prod.fst updated
  have effects : tracker.effectsOf (.tell message) = first ++ tracker.cancellation ++ last :=
    congrArg Prod.snd updated
  have states : ∀ continuation,
      tracker.after (.tell message :: continuation) = next.after continuation := fun continuation =>
    congrArg (fun tracker : Tracker => tracker.after continuation) same
  refine ⟨states, fun continuation => congrArg view (states continuation), fun continuation => ?_⟩
  rw [Tracker.effects, effects, same]
  rfl

private theorem leadsTo_of_opens {hash : JobHash} {rawQuery : String}
    (opens : message.Opens hash rawQuery) (tracker : Tracker) :
    tracker.LeadsTo message (tracker.chooseJob (some hash) (some rawQuery)).1
      [.navigate (.job hash)] [tracker.firstPage hash] := by
  cases opens <;> exact leadsTo_of_update rfl

private theorem AgreesAround.chooseJob (agree : one.AgreesAround other) (hash : JobHash)
    (rawQuery : String) :
    (one.chooseJob (some hash) (some rawQuery)).1 =
      (other.chooseJob (some hash) (some rawQuery)).1 := by
  cases one
  cases other
  obtain ⟨rfl, rfl, rfl, rfl, rfl, rfl⟩ := agree
  rfl

private theorem AgreesAround.firstPage (agree : one.AgreesAround other) (hash : JobHash) :
    one.firstPage hash = other.firstPage hash := by
  simp only [Tracker.firstPage, nextTicket, agree.settings, agree.lastEpoch]

private theorem mount_eq (settings : one.settings = other.settings)
    (lastEpoch : one.lastEpoch = other.lastEpoch) (jobHash : Option JobHash) :
    one.mount jobHash = other.mount jobHash := by
  simp only [mount, settings, lastEpoch]

/-- Whatever job, query, plan, error, matches or loop two trackers had: once either message opens a
job with its query, they are the same tracker, and stay it, with the same effects but for the
cancellation of a loop that was given up. The same holds of opening the page, where the datasets
and the backend need not agree either. -/
theorem opening_forgets :
    (∀ one other : Tracker, one.AgreesAround other → ∀ hash rawQuery,
      ∃ next ticket, next.ticket = some ticket ∧ ∀ message : Message, message.Opens hash rawQuery →
        one.LeadsTo message next [.navigate (.job hash)]
            [.ask (.page ticket 0 next.settings.pageSize.toNat)] ∧
          other.LeadsTo message next [.navigate (.job hash)]
            [.ask (.page ticket 0 next.settings.pageSize.toNat)]) ∧
      ∀ one other : Tracker, one.settings = other.settings → one.lastEpoch = other.lastEpoch →
        ∀ route, ∃ next asked, one.LeadsTo (.mounted route) next [] asked ∧
          other.LeadsTo (.mounted route) next [] asked := by
  constructor
  · intro one other agree hash rawQuery
    refine ⟨(one.chooseJob (some hash) (some rawQuery)).1, one.nextTicket hash, rfl,
      fun message opens => ⟨leadsTo_of_opens opens one, ?_⟩⟩
    have opened := leadsTo_of_opens opens other
    rw [← agree.chooseJob hash rawQuery, ← agree.firstPage hash] at opened
    exact opened
  · intro one other settings lastEpoch route
    have mounted (tracker : Tracker) :
        tracker.LeadsTo (.mounted route) (tracker.mount route.hash?) []
          (.ask .datasets :: route.hash?.toList.map fun hash => .ask (.jobQuery hash)) :=
      leadsTo_of_update rfl
    refine ⟨_, _, mounted one, ?_⟩
    rw [mount_eq settings lastEpoch]
    exact mounted other

def busyTracker : Tracker :=
  fresh.after [.tell (.querySubmitted ⟨"a"⟩ "rule"),
    .tell (.matchesLoaded ⟨⟨"a"⟩, 1⟩ ⟨[.null], .ofStatus .processing⟩)]

def refusedTracker : Tracker :=
  fresh.after [.tell (.querySubmitted ⟨"b"⟩ "other"), .tell .unmounted,
    .tell (.queryFailed "syntax error" "draft"), .look]

theorem opening_forgets_refusal :
    busyTracker.AgreesAround refusedTracker ∧
      (busyTracker.ticket = some ⟨⟨"a"⟩, 1⟩ ∧ busyTracker.found = [.null]) ∧
      (refusedTracker.ticket = none ∧ refusedTracker.queryError = some "syntax error") ∧
      (∃ next ticket, next.ticket = some ticket ∧
        ∀ message : Message, message.Opens ⟨"c"⟩ "new" →
          busyTracker.LeadsTo message next [.navigate (.job ⟨"c"⟩)]
              [.ask (.page ticket 0 next.settings.pageSize.toNat)] ∧
            refusedTracker.LeadsTo message next [.navigate (.job ⟨"c"⟩)]
              [.ask (.page ticket 0 next.settings.pageSize.toNat)]) ∧
      busyTracker.settings = refusedTracker.settings ∧
      busyTracker.lastEpoch = refusedTracker.lastEpoch ∧
      ∃ next asked, busyTracker.LeadsTo (.mounted .compose) next [] asked ∧
        refusedTracker.LeadsTo (.mounted .compose) next [] asked := by
  have agree : busyTracker.AgreesAround refusedTracker := ⟨rfl, rfl, rfl, rfl, rfl, rfl⟩
  obtain ⟨opening, mounting⟩ := opening_forgets
  exact ⟨agree, ⟨rfl, rfl⟩, ⟨rfl, rfl⟩, opening busyTracker refusedTracker agree ⟨"c"⟩ "new",
    rfl, rfl, mounting busyTracker refusedTracker rfl rfl .compose⟩

end Tracker

end ScanWatch
