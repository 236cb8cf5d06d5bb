import ScanWatch.Proofs.Session.Turn
import ScanWatch.Proofs.Tracker.Receipts

namespace ScanWatch

private theorem PollSettings.raised_eq {settings : PollSettings} (paged : 1 ≤ settings.pageSize) :
    settings.raised = settings := by
  have same : max settings.pageSize 1 = settings.pageSize := by
    change ite (settings.pageSize ≤ 1) 1 settings.pageSize = settings.pageSize
    grind
  rw [raised, same]

/-- A command that a message leads to uses the settings: pages are asked for in their size, never
empty ones, and after a page the next one is waited for as long as they say. -/
structure Command.Heeds (settings : PollSettings) (message : Message) (command : Command) : Prop where
  limit : ∀ ticket offset limit, command = .ask (.page ticket offset limit) →
    limit = settings.pageSize.toNat ∧ 1 ≤ limit
  delay : ∀ ticket delay, command = .schedulePoll ticket delay →
    ∃ page, message = .matchesLoaded ticket page ∧ delay = settings.delayAfter page.items.length

namespace Tracker

variable {tracker next : Tracker} {message : Message} {effects : List Effect}

private theorem LoopStep.delay (step : tracker.LoopStep message next effects) {ticket : PollTicket}
    {delay : UInt64} (scheduled : .schedulePoll ticket delay ∈ effects) :
    ∃ page, message = .matchesLoaded ticket page ∧
      delay = tracker.settings.delayAfter page.items.length := by
  cases step with
  | kept stale unopened same quiet => cases (quiet _ scheduled).1
  | closed free unopened ticket lastEpoch settings ended quiet => cases quiet _ scheduled
  | opened =>
    simp [mem_cancellation, firstPage] at scheduled
  | asked => cases List.mem_singleton.mp scheduled
  | @continued ticket page delay current again =>
    cases List.mem_singleton.mp scheduled
    refine ⟨page, rfl, ?_⟩
    have pending : ¬(page.job.status.isTerminal = true ∧ page.items.length = 0) := fun drained => by
      rw [(PollSettings.nextStep_eq_stop ..).mpr drained] at again
      cases again
    rw [PollSettings.nextStep_of_pending pending] at again
    exact (PollStep.again.inj again).symm
  | finished | stalled => cases scheduled

end Tracker

private theorem Effect.command?_eq_some {effect : Effect} {command : Command}
    (issued : effect.command? = some command) :
    (∀ request, command = .ask request → effect = .ask request) ∧
      ∀ ticket delay, command = .schedulePoll ticket delay → effect = .schedulePoll ticket delay := by
  cases effect <;> cases issued <;> simp

namespace Session

variable {session : Session} {settings : PollSettings} {message : Message} {command : Command}

private theorem dispatch_heeds (paged : 1 ≤ session.tracker.settings.pageSize)
    (issued : command ∈ (session.dispatch message).reaction.commands) :
    command.Heeds session.tracker.settings message := by
  obtain ⟨effect, caused, made⟩ := List.mem_filterMap.mp issued
  obtain ⟨asked, scheduled⟩ := Effect.command?_eq_some made
  have step := session.tracker.update_step message
  constructor
  · intro ticket offset limit page
    rw [asked _ page] at caused
    obtain ⟨_, rfl, _⟩ := step.request caused
    exact ⟨rfl, UInt64.le_iff_toNat_le.mp paged⟩
  · intro ticket delay wait
    rw [scheduled _ _ wait] at caused
    exact step.delay caused

theorem settings_after (paged : 1 ≤ settings.pageSize) (messages : List Message) :
    ((new settings).after messages).tracker.settings = settings := by
  rw [tracker_after, Tracker.settings_after]
  exact settings.raised_eq paged

/-- All that a session has done uses the settings that it began with. -/
theorem heeds_after (paged : 1 ≤ settings.pageSize) (messages : List Message)
    (issued : command ∈ (((new settings).after messages).dispatch message).reaction.commands) :
    command.Heeds settings message := by
  have kept := settings_after paged messages
  have heeds := dispatch_heeds (by rwa [kept]) issued
  rwa [kept] at heeds

end Session

end ScanWatch
