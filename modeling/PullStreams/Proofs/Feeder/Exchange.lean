/-
What a task and the feeder come to, each at its own pace.

The task has one request out at a time, and the chunk that comes back is the answer to
that request: at every moment the request is posted, or in the feeder's hand, or
answered by the one chunk that waits (`Exchange.Stage`).  So nothing hangs on who moves
when: every row of moves either is not at its end or has come to what `Feeder.serve`
comes to, and every row of moves can be gone on with to the end.

* `stage_run` — the invariant of a row of moves;
* `Stage.toEnd` — an exchange is never stuck;
* `result_run` — whatever an exchange comes to, is what the feeder serves.
-/
import Mathlib.Tactic.Common
import PullStreams.Feeder.Exchange

namespace PullStreams

namespace Pull

variable {φ α γ : Type}

/-- A computation that goes on with another is run by running the two in turn. -/
theorem run_andThen (answer : φ → ReadRequest → φ × Option Chunk) (p : Pull α) (f : α → Pull γ)
    (feed : φ) :
    (p.andThen f).run answer feed = (f (p.run answer feed).2).run answer (p.run answer feed).1 := by
  induction p generalizing feed with
  | done a => rfl
  | ask request resume ih => exact ih (answer feed request).2 (answer feed request).1

end Pull

namespace Feeder

variable {σ α γ : Type} [ByteSource σ]

theorem serve_ask (f : Feeder σ) (request : ReadRequest) (resume : Option Chunk → Pull α) :
    f.serve (.ask request resume) = (f.answer request).1.serve (resume (f.answer request).2) := rfl

theorem serve_andThen (f : Feeder σ) (p : Pull α) (k : α → Pull γ) :
    f.serve (p.andThen k) = (f.serve p).1.serve (k (f.serve p).2) :=
  Pull.run_andThen _ p k f

end Feeder

namespace Exchange

variable {σ α : Type} [ByteSource σ]

/-- An exchange that comes to `last`, the feeder and the task's result, stands in one of these
stages. -/
inductive Stage (last : Feeder σ × α) : Exchange σ α → Prop
  /-- Nothing is under way. -/
  | idle {task : Pull α} {feeder : Feeder σ} (h : feeder.serve task = last) :
      Stage last ⟨task, false, [], none, [], feeder⟩
  | posted {request : ReadRequest} {resume : Option Chunk → Pull α} {feeder : Feeder σ}
      (h : feeder.serve (.ask request resume) = last) :
      Stage last ⟨.ask request resume, true, [request], none, [], feeder⟩
  | taken {request : ReadRequest} {resume : Option Chunk → Pull α} {feeder : Feeder σ}
      (h : feeder.serve (.ask request resume) = last) :
      Stage last ⟨.ask request resume, true, [], some request, [], feeder⟩
  /-- The one chunk is the answer to the one request. -/
  | answered {request : ReadRequest} {resume : Option Chunk → Pull α} {feeder : Feeder σ}
      {chunk : Chunk} (h : feeder.serve (resume (some chunk)) = last) :
      Stage last ⟨.ask request resume, true, [], none, [chunk], feeder⟩

variable {last : Feeder σ × α} {x : Exchange σ α}

/-- A move leads from stage to stage, whoever makes it. -/
theorem stage_move (hx : Stage last x) (move : ExchangeMove) : Stage last (x.move move) := by
  cases move with
  | task =>
    cases hx with
    | @idle task feeder h =>
      cases task with
      | done a => exact .idle h
      | ask request resume => exact .posted h
    | posted h => exact .posted h
    | taken h => exact .taken h
    | answered h => exact .idle h
  | feeder =>
    cases hx with
    | idle h => exact .idle h
    | posted h => exact .taken h
    | taken h => exact .answered h
    | answered h => exact .answered h

theorem stage_run (hx : Stage last x) (moves : List ExchangeMove) : Stage last (x.run moves) := by
  induction moves generalizing x with
  | nil => exact hx
  | cons move moves ih => exact ih (stage_move hx move)

theorem stage_start (task : Pull α) (feeder : Feeder σ) :
    Stage (feeder.serve task) (start task feeder) :=
  .idle rfl

/-- An exchange at its end has come to what it was to come to. -/
theorem Stage.result {a : α} (hx : Stage last x) (ha : x.result? = some a) : a = last.2 := by
  cases hx with
  | @idle task feeder h =>
    cases task with
    | done b =>
      obtain rfl := Option.some.inj ha
      exact congrArg Prod.snd h
    | ask => cases ha
  | posted | taken | answered => cases ha

theorem run_append (x : Exchange σ α) (first second : List ExchangeMove) :
    x.run (first ++ second) = (x.run first).run second :=
  List.foldl_append

/-- An exchange with nothing under way can be gone on with to the end. -/
theorem idle_toEnd (task : Pull α) (feeder : Feeder σ) :
    ∃ moves, (Exchange.run ⟨task, false, [], none, [], feeder⟩ moves).result? =
      some (feeder.serve task).2 := by
  induction task generalizing feeder with
  | done a => exact ⟨[], rfl⟩
  | ask request resume ih =>
    -- Four moves see the request through, and what is left then is a smaller task.
    let round : List ExchangeMove := [.task, .feeder, .feeder, .task]
    have hround : Exchange.run ⟨.ask request resume, false, [], none, [], feeder⟩ round =
        ⟨resume (some (feeder.answer request).2), false, [], none, [],
          (feeder.answer request).1⟩ := rfl
    obtain ⟨moves, hmoves⟩ := ih (some (feeder.answer request).2) (feeder.answer request).1
    refine ⟨round ++ moves, ?_⟩
    rw [run_append, hround, hmoves, Feeder.serve_ask]

/-- From every stage there are moves that lead to the end. -/
theorem Stage.toEnd (hx : Stage last x) : ∃ moves, (x.run moves).result? = some last.2 := by
  -- A few moves lead to a stage with nothing under way.
  have hrest : ∀ (first : List ExchangeMove) {task : Pull α} {feeder : Feeder σ},
      x.run first = ⟨task, false, [], none, [], feeder⟩ → feeder.serve task = last →
      ∃ moves, (x.run moves).result? = some last.2 := by
    intro first task feeder hfirst hserve
    obtain ⟨moves, hmoves⟩ := idle_toEnd task feeder
    refine ⟨first ++ moves, ?_⟩
    rw [run_append, hfirst, hmoves, hserve]
  cases hx with
  | idle h => exact hrest [] rfl h
  | posted h => exact hrest [.feeder, .feeder, .task] rfl h
  | taken h => exact hrest [.feeder, .task] rfl h
  | answered h => exact hrest [.task] rfl h

/-- However the two take turns, an exchange that is at its end has come to what the feeder serves,
and one that is not can still come to it. -/
theorem result_run (task : Pull α) (feeder : Feeder σ) (moves : List ExchangeMove) :
    (∀ a, ((start task feeder).run moves).result? = some a → a = (feeder.serve task).2) ∧
      ∃ more, ((start task feeder).run (moves ++ more)).result? = some (feeder.serve task).2 := by
  have hstage := stage_run (stage_start task feeder) moves
  refine ⟨fun a ha => hstage.result ha, ?_⟩
  obtain ⟨more, hmore⟩ := hstage.toEnd
  exact ⟨more, by rw [run_append, hmore]⟩

end Exchange
end PullStreams
