import LoopPlayer.Proofs.Booking
import LoopPlayer.Proofs.Generations

/-! Superseded ticks. A tick is booked for the generation of its time. So one that was booked before
playback stopped is stale from then on, also when playback goes on again. -/
namespace LoopPlayer

variable {σ : Type} [Scheduler σ]

theorem Rig.Worked.pastKept {before after : Rig (Watched σ)} (worked : Worked before after)
    (old : Past before) : Past after := by
  induction worked with
  | still still => rwa [Past, still.scheduler, still.generation]
  | book rig =>
    by_cases taken : Bookable rig
    · obtain ⟨handle, booked, -⟩ := bookTaken taken
      intro one member
      rw [booked, List.mem_append, List.mem_singleton] at member
      rcases member with earlier | rfl
      · exact old one earlier
      · exact Nat.le_refl _
    · rw [Past, (bookRefused taken).1]
      exact old
  | unbook rig => exact (unbookUnbooked old).past
  | finish rig => exact (finishUnbooked old).past
  | trans _ _ first second => exact second (first old)

namespace Stage

/- An event while the scheduler is watched. It may change as it likes, but not what was seen. -/
def watch (stage : Stage (Watched σ)) : Event σ → Stage (Watched σ)
  | .move move => stage.step move
  | .drift inner =>
    { stage with rig := { stage.rig with scheduler := { stage.rig.scheduler with inner } } }

def watchAll (stage : Stage (Watched σ)) (events : List (Event σ)) : Stage (Watched σ) :=
  events.foldl watch stage

theorem watchUnwatched (stage : Stage (Watched σ)) (event : Event σ) :
    (stage.watch event).unwatched = stage.unwatched.after event := by
  cases event with
  | move move => exact stepUnwatched stage move
  | drift inner => rfl

theorem watchAllUnwatched (stage : Stage (Watched σ)) (events : List (Event σ)) :
    (stage.watchAll events).unwatched = stage.unwatched.through events := by
  induction events generalizing stage with
  | nil => rfl
  | cons event rest ih =>
    calc ((stage.watch event).watchAll rest).unwatched
        = (stage.watch event).unwatched.through rest := ih (stage.watch event)
      _ = (stage.unwatched.after event).through rest := by rw [watchUnwatched]

theorem watchAllPast {stage : Stage (Watched σ)} (past : stage.rig.Past)
    (events : List (Event σ)) : (stage.watchAll events).rig.Past := by
  induction events generalizing stage with
  | nil => exact past
  | cons event rest ih =>
    have kept : (stage.watch event).rig.Past := by
      cases event with
      | move move => exact (stage.stepWorked move).pastKept past
      | drift inner => exact past
    exact ih kept

def ticks (steps : List Step) (settings : Settings) (scheduler : σ) (events : List (Event σ)) :
    List Booked :=
  ((start steps settings ({ inner := scheduler } : Watched σ)).watchAll events).rig.scheduler.booked

theorem ticksPast {steps : List Step} {settings : Settings} {scheduler : σ}
    {events : List (Event σ)} {tick : Booked} (booked : tick ∈ ticks steps settings scheduler events) :
    tick.generation ≤
      ((start steps settings scheduler).through events).rig.player.generation := by
  let watched := start steps settings ({ inner := scheduler } : Watched σ)
  have past : (watched.watchAll events).rig.Past :=
    watchAllPast (fun _ member => by cases member) events
  have seen : (watched.watchAll events).unwatched = (start steps settings scheduler).through events :=
    watchAllUnwatched watched events
  rw [← seen]
  exact past tick booked

theorem staleTimes (stage : Stage σ) {generation : Nat}
    (stale : generation < stage.rig.player.generation) (times : Nat) :
    stage.run (List.replicate times (.call (.tick generation))) =
      { stage with rig := { stage.rig with
        notices := stage.rig.notices ++ List.replicate times (.staleTick generation) } } := by
  induction times generalizing stage with
  | zero =>
    rw [List.replicate_zero, List.replicate_zero, List.append_nil]
    rfl
  | succ times ih =>
    have other : ¬ (generation = stage.rig.player.generation ∧
        stage.rig.player.transport = .playing) := fun live => Nat.ne_of_lt stale live.1
    have once : stage.step (.call (.tick generation)) =
        { stage with rig := stage.rig.note (.staleTick generation) } := by
      simp only [step, Rig.beginStale other]
    rw [List.replicate_succ, run, List.foldl_cons, once]
    refine (ih { stage with rig := stage.rig.note (.staleTick generation) } stale).trans ?_
    simp only [Rig.note, List.append_assoc, List.singleton_append, List.replicate_succ]

/-- Along every run, on every scheduler and with listeners that do what they like, a tick that was
booked before playback was stopped, rewound or finished does nothing at any later moment, however
often it runs: it books nothing, tells nobody and leaves the player as it is. -/
theorem supersededTicksDead (steps : List Step) (settings : Settings) (scheduler : σ)
    (before : List (Event σ)) (event : Event σ) (after : List (Event σ)) (tick : Booked)
    (booked : tick ∈ ticks steps settings scheduler before)
    (supersedes : Supersedes ((start steps settings scheduler).through before) event)
    (times : Nat) :
    let stage := (start steps settings scheduler).through (before ++ event :: after)
    stage.run (List.replicate times (.call (.tick tick.generation))) =
      { stage with rig := { stage.rig with
        notices := stage.rig.notices ++ List.replicate times (.staleTick tick.generation) } } := by
  intro stage
  let earlier := (start steps settings scheduler).through before
  have whole : (earlier.after event).through after = stage := by
    simp only [earlier, stage, through, List.foldl_append, List.foldl_cons]
  refine staleTimes stage ?_ times
  calc tick.generation
      ≤ earlier.rig.player.generation := ticksPast booked
    _ < (earlier.after event).rig.player.generation := supersedesGeneration supersedes
    _ ≤ ((earlier.after event).through after).rig.player.generation := throughGeneration _ after
    _ = stage.rig.player.generation := by rw [whole]

theorem pausedTickDead :
    let steps := [1, 2, 3].map fun n => ⟨n, n, "code", "a", "note", .callStack, 1, .execute, none⟩
    let play : Event Ledger := .move (.call (.control .play))
    let stage := (start steps {} ({} : Ledger)).through
      ([play] ++ .move (.call (.control .pause)) :: [play])
    stage.rig.player.transport = .playing ∧ ⟨0, 0, false⟩ ∈ ticks steps {} ({} : Ledger) [play] ∧
      stage.run [.call (.tick 0), .call (.tick 0)] =
        { stage with rig := { stage.rig with
          notices := stage.rig.notices ++ [.staleTick 0, .staleTick 0] } } := by
  intro steps play stage
  have booked : ⟨0, 0, false⟩ ∈ ticks steps {} ({} : Ledger) [play] := by decide
  have supersedes : Supersedes ((start steps {} ({} : Ledger)).through [play])
      (.move (.call (.control .pause))) := .pause (by decide)
  exact ⟨by decide, booked,
    supersededTicksDead steps {} ({} : Ledger) [play] _ [play] _ booked supersedes 2⟩

end Stage
end LoopPlayer
