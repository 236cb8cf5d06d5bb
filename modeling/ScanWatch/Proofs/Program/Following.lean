import Mathlib.Logic.Relation
import ScanWatch.Program
import ScanWatch.Proofs.Errand.Ending
import ScanWatch.Pursuit

namespace ScanWatch

/-- Whether something can happen to an engine. -/
def Occurrence.CanBe (engine : Engine) : Occurrence → Prop
  | .answered request _ => request ∈ engine.running
  | .expired index => ∃ timer, engine.timers.started[index]? = some timer ∧ timer.phase = .live
  | .quiet => True

variable {Outside : Type} {host : Host (StateM Outside)}

/-- A host that only tells what can happen. -/
def Host.Honest (host : Host (StateM Outside)) : Prop :=
  ∀ client engine outside occurrence,
    ((host.await client engine).run outside).1 = some occurrence → occurrence.CanBe engine

namespace Pursuit

private theorem serve_steps (errand : Errand) (engine : Engine) :
    Relation.ReflTransGen Step ⟨errand, engine⟩ ⟨errand, engine.serve⟩ := by
  cases queued : engine.commands with
  | nil =>
    have idle : engine.serve = engine := by simp [Engine.serve, queued]
    rw [idle]
  | cons first rest => exact .single (.work (.serve (queued ▸ List.cons_ne_nil first rest)))

private theorem serveAll_steps (errand : Errand) (engine : Engine) :
    Relation.ReflTransGen Step ⟨errand, engine⟩ ⟨errand, engine.serveAll⟩ := by
  refine Engine.serveAll_keeps
    (fun other => Relation.ReflTransGen Step ⟨errand, engine⟩ ⟨errand, other⟩)
    (fun other steps => ?_) .refl
  exact steps.trans (serve_steps errand other)

private theorem undergo_steps (errand : Errand) {engine : Engine} {occurrence : Occurrence}
    (possible : occurrence.CanBe engine) (client : Client) :
    Relation.ReflTransGen Step ⟨errand, engine⟩ ⟨errand, engine.undergo client occurrence⟩ := by
  cases occurrence with
  | answered request outcome => exact .single (.work (.complete possible _))
  | expired index =>
    obtain ⟨timer, found, live⟩ := possible
    exact .single (.work (.expire found live))
  | quiet => exact .refl

end Pursuit

namespace Program

/-- The loop turn by turn: with an errand, an engine and what is outside it comes to an errand and
what is outside then. -/
inductive Follows (host : Host (StateM Outside)) (client : Client) :
    Errand → Engine → Outside → Errand → Outside → Prop
  | stop {errand : Errand} {engine : Engine} {outside : Outside} :
      Follows host client errand engine outside errand outside
  | gone {errand : Errand} {engine : Engine} {outside later : Outside}
      (awaited : (host.await client engine).run outside = (none, later)) :
      Follows host client errand engine outside errand later
  | receive {errand last : Errand} {engine rest : Engine} {event : Event} {outside after : Outside}
      (pending : errand.isDone = false) (delivered : engine.deliver? = some (event, rest))
      (further : Follows host client (errand.tell event.message).1
        (rest.issue (errand.tell event.message).2.commands).serveAll
        ((perform host rest (errand.tell event.message).2).run outside).2 last after) :
      Follows host client errand engine outside last after
  | wait {errand last : Errand} {engine : Engine} {outside later after : Outside}
      (pending : errand.isDone = false)
      (awaited : (host.await client engine).run outside = (some .quiet, later))
      (further : Follows host client (errand.tell .tick).1
        (engine.issue (errand.tell .tick).2.commands).serveAll
        ((perform host engine (errand.tell .tick).2).run later).2 last after) :
      Follows host client errand engine outside last after
  | undergo {errand last : Errand} {engine : Engine} {occurrence : Occurrence}
      {outside later after : Outside}
      (awaited : (host.await client engine).run outside = (some occurrence, later))
      (further : Follows host client errand (engine.undergo client occurrence) later last after) :
      Follows host client errand engine outside last after

theorem follow_follows (host : Host (StateM Outside)) (client : Client) (patience : Nat)
    (errand : Errand) (engine : Engine) (outside : Outside) :
    Follows host client errand engine outside
      ((follow host client patience errand engine).run outside).1
      ((follow host client patience errand engine).run outside).2 := by
  induction patience generalizing errand engine outside with
  | zero => exact .stop
  | succ patience ih =>
    rw [follow]
    split
    · exact .stop
    · next pending =>
      rw [Bool.not_eq_true] at pending
      split
      · next event rest delivered => exact .receive pending delivered (ih ..)
      · next idle =>
        rw [StateT.run_bind]
        rcases awaited : (host.await client engine).run outside with ⟨_ | occurrence, later⟩
        · exact .gone awaited
        · cases occurrence with
          | quiet => exact .wait pending awaited (ih ..)
          | answered | expired => exact .undergo awaited (ih ..)

private theorem Follows.pursues (honest : host.Honest) {client : Client} {errand last : Errand}
    {engine : Engine} {outside after : Outside}
    (follows : Follows host client errand engine outside last after) :
    ∃ messages final, Relation.ReflTransGen Pursuit.Step ⟨errand, engine⟩ ⟨last, final⟩ ∧
      last = (errand.follow messages).1 := by
  induction follows with
  | @stop errand engine outside => exact ⟨[], engine, .refl, rfl⟩
  | @gone errand engine outside later awaited => exact ⟨[], engine, .refl, rfl⟩
  | @receive errand last engine rest event outside after pending delivered further ih =>
    obtain ⟨messages, final, steps, told⟩ := ih
    refine ⟨event.message :: messages, final,
      .head (.receive pending delivered) ((Pursuit.serveAll_steps _ _).trans steps), ?_⟩
    rw [Errand.follow_cons pending]
    exact told
  | wait pending awaited further ih =>
    obtain ⟨messages, final, steps, told⟩ := ih
    refine ⟨.tick :: messages, final,
      .head (.wait pending) ((Pursuit.serveAll_steps _ _).trans steps), ?_⟩
    rw [Errand.follow_cons pending]
    exact told
  | @undergo errand last engine occurrence outside later after awaited further ih =>
    obtain ⟨messages, final, steps, told⟩ := ih
    have possible := honest client engine outside occurrence (congrArg Prod.fst awaited)
    exact ⟨messages, final, (Pursuit.undergo_steps errand possible client).trans steps, told⟩

/-- The program carries out the errand with some messages, by steps of the pursuit; the view that it
reports is the one seen last on the way. -/
theorem carryOut_pursues (honest : host.Honest) (client : Client) (settings : PollSettings)
    (route : Route) (goal : Goal) (outside : Outside) :
    ∃ messages pursuit,
      Relation.ReflTransGen Pursuit.Step (.start settings route goal) pursuit ∧
      ((carryOut host client settings route goal).run outside).1 = pursuit.errand.view ∧
      ((carryOut host client settings route goal).run outside).1 =
        (Errand.run settings route goal messages).1.view := by
  obtain ⟨messages, last, steps, told⟩ := (follow_follows host client host.patience
    (Errand.start settings route goal).1
    (Engine.idle.issue (Errand.start settings route goal).2.commands).serveAll
    ((perform host .idle (Errand.start settings route goal).2).run outside).2).pursues honest
  refine ⟨messages, _, (Pursuit.serveAll_steps _ _).trans steps, rfl, ?_⟩
  rw [Errand.view_run, ← told]
  rfl

end Program

end ScanWatch
