import LoopPlayer.Proofs.Booking
import LoopPlayer.Proofs.Position
import LoopPlayer.Player.Outcome

/-! Failing listeners. An operation whose listener fails keeps what its first half did and never
pays what it owes. Nothing is owed after a rewind or with the last step of a trace, and then the
failure leaves no mark. A step by hand from the idle state stays idle on its new board, though, and
a tick with a step to come goes on playing with no tick to follow. -/
namespace LoopPlayer

variable {σ : Type}

namespace Rig

/- What a failure should leave: one tick and its handle while playback goes on, an empty board when
it is idle, and nothing that tells it from the operation that was not disturbed. -/
structure Unharmed (failed completed : Rig (Watched σ)) : Prop where
  playing : failed.player.transport = .playing →
    ∃ booked, failed.scheduler.waiting failed.player.generation = [booked] ∧
      failed.player.pending = some booked.handle
  idle : failed.player.transport = .idle → failed.player.board = {}
  transport : failed.player.transport = completed.player.transport
  board : failed.player.board = completed.player.board
  pending : failed.player.pending = completed.player.pending
  waiting : failed.scheduler.waiting failed.player.generation =
    completed.scheduler.waiting completed.player.generation

/- The operations that owe nothing of weight: all but a step from the idle state and a live tick,
each with at least one more step after the one it applies. -/
def Harmless (rig : Rig σ) : Operation → Prop
  | .control .step =>
    ¬ (rig.player.transport = .idle ∧ rig.player.board.index + 2 < rig.player.steps.length)
  | .tick generation =>
    ¬ (rig.player.transport = .playing ∧ generation = rig.player.generation ∧
      rig.player.board.index + 2 < rig.player.steps.length)
  | _ => True

instance (rig : Rig σ) : (operation : Operation) → Decidable (Harmless rig operation)
  | .control .step | .tick _ => instDecidableNot
  | .control .play | .control .pause | .control .reset | .load _ | .setSpeed _ => instDecidableTrue

theorem unharmedSame {rig : Rig (Watched σ)} (stopped : rig.player.transport ≠ .playing)
    (idle : rig.player.transport = .idle → rig.player.board = {}) : Unharmed rig rig :=
  ⟨fun playing => absurd playing stopped, idle, rfl, rfl, rfl, rfl⟩

variable [Scheduler σ] {settings : Settings}

theorem beginListeners (rig : Rig σ) (operation : Operation) :
    (rig.begin operation).1.player.listeners = rig.player.listeners := by
  obtain ⟨_, _, _, _, _, frame⟩ := beginFrame rig operation
  rw [frame]

theorem finishUnharmed (rig : Rig (Watched σ)) (owed : Owed) :
    Unharmed rig.finish (rig.finish.settle owed) := by
  have finished : rig.finish.player.transport = .finished := by rw [finishPlayer]
  have settled : rig.finish.settle owed = rig.finish := by
    cases owed <;> simp [settle]
  rw [settled]
  exact unharmedSame (by rw [finished]; exact Transport.noConfusion)
    (by rw [finished]; exact Transport.noConfusion)

theorem pauseStopped (rig : Rig σ) : rig.pause.player.transport ≠ .playing ∧
    (rig.pause.player.transport = .idle ↔ rig.player.transport = .idle) := by
  by_cases playing : rig.player.transport = .playing
  · simp [pausePlaying playing, playing]
  · rw [pauseElse playing]
    exact ⟨playing, Iff.rfl⟩

theorem stepUnharmed {rig : Rig (Watched σ)} (placed : Placed settings rig.player)
    {owed : Owed} (told : (rig.begin (.control .step)).2 = some owed) :
    Unharmed (rig.begin (.control .step)).1 ((rig.begin (.control .step)).1.settle owed) ↔
    Harmless rig (.control .step) := by
  by_cases unfinished : rig.player.transport ≠ .finished
  · rw [beginStep unfinished] at told ⊢
    obtain ⟨stopped, idle⟩ := pauseStopped rig
    obtain ⟨_, _, _, frame⟩ := pauseFrame rig
    have board : rig.pause.player.board = rig.player.board := by rw [frame]
    have steps : rig.pause.player.steps = rig.player.steps := by rw [frame]
    have advanced := rig.pause.advanceOutcome
    generalize rig.pause.advance = result at advanced told ⊢
    rw [Harmless, ← idle, ← board, ← steps]
    cases advanced with
    | exhausted none => cases told
    | last next last =>
      exact ⟨fun _ early => Int.ne_of_lt early.2 last, fun _ => finishUnharmed _ _⟩
    | @more step next early =>
      have owes : Owed.settle = owed := Option.some.inj told
      subst owes
      have bounds := (pausePlaced placed).indexBounds
      have more := (pausePlaced placed).nextSomeBound next
      refine ⟨fun unharmed stays => ?_, fun harmless => ?_⟩
      · have emptied := congrArg Board.index (unharmed.idle stays.1)
        have counted : rig.pause.player.board.index + 1 = -1 := emptied
        omega
      · have left : rig.pause.player.transport ≠ .idle :=
          fun idle => harmless ⟨idle, by omega⟩
        have settled : (rig.pause.applied step).settle .settle = rig.pause.applied step := by
          simp [settle, left]
        rw [settled]
        exact unharmedSame stopped fun idle => absurd idle left
  · simp only [begin, if_pos (Decidable.not_not.mp unfinished)] at told
    cases told

theorem tickUnharmed {rig : Rig (Watched σ)} (placed : Placed settings rig.player)
    {generation : Nat} {owed : Owed} (told : (rig.begin (.tick generation)).2 = some owed) :
    Unharmed (rig.begin (.tick generation)).1 ((rig.begin (.tick generation)).1.settle owed) ↔
    Harmless rig (.tick generation) := by
  by_cases live : generation = rig.player.generation ∧ rig.player.transport = .playing
  · obtain ⟨rfl, playing⟩ := live
    rw [beginLive playing] at told ⊢
    have advanced := rig.taken.advanceOutcome
    generalize rig.taken.advance = result at advanced told ⊢
    rw [Harmless]
    cases advanced with
    | exhausted none => cases told
    | last next last =>
      exact ⟨fun _ early => Int.ne_of_lt early.2.2 last, fun _ => finishUnharmed _ _⟩
    | more next early =>
      have more := placed.nextSomeBound next
      have different : rig.player.board.index + 2 ≠ rig.player.steps.length := early
      refine ⟨fun unharmed => ?_, fun harmless => ?_⟩
      · obtain ⟨booked, _, pending⟩ := unharmed.playing playing
        cases pending
      · exact absurd ⟨playing, rfl, by omega⟩ harmless
  · rw [beginStale live] at told
    cases told

theorem rewindUnharmed (rig : Rig (Watched σ)) : Unharmed rig.rewind rig.rewind :=
  unharmedSame (by rw [rewindPlayer]; exact Transport.noConfusion) fun _ => by rw [rewindPlayer]

theorem beginUnharmed {rig : Rig (Watched σ)} (placed : Placed settings rig.player)
    {operation : Operation} {owed : Owed} (told : (rig.begin operation).2 = some owed) :
    Unharmed (rig.begin operation).1 ((rig.begin operation).1.settle owed) ↔
    Harmless rig operation := by
  cases operation with
  | control control =>
    cases control with
    | play => cases told
    | pause => cases told
    | step => exact stepUnharmed placed told
    | reset =>
      cases told
      exact iff_of_true (rewindUnharmed rig) trivial
  | load source =>
    cases told
    exact iff_of_true (rewindUnharmed (rig.loaded source)) trivial
  | setSpeed speed => cases told
  | tick generation => exact tickUnharmed placed told

end Rig

namespace Stage

variable [Scheduler σ] {settings : Settings}

def telling (stage : Stage σ) (operation : Operation) (returning : Nat) : Stage σ :=
  (stage.step (.call operation)).run (List.replicate returning .returned)

def failing (stage : Stage σ) (operation : Operation) (returning : Nat) : Stage σ :=
  (stage.telling operation returning).step .failed

def completing (stage : Stage σ) (operation : Operation) : Stage σ :=
  stage.telling operation stage.rig.player.listeners.length

theorem tellFailed (stage : Stage σ) (picture : Board) (owed : Owed) {listeners : List String}
    {returning : Nat} (fails : returning < listeners.length) :
    ((stage.tell picture owed listeners).run (List.replicate returning .returned)).step .failed =
      stage := by
  induction listeners generalizing returning with
  | nil => cases fails
  | cons listener waiting ih =>
    cases returning with
    | zero => rfl
    | succ returning => exact ih (Nat.lt_of_succ_lt_succ fails)

theorem tellReturned (stage : Stage σ) (picture : Board) (owed : Owed) (listeners : List String) :
    (stage.tell picture owed listeners).run (List.replicate listeners.length .returned) =
      { stage with rig := stage.rig.settle owed } := by
  induction listeners with
  | nil => rfl
  | cons listener waiting ih => exact ih

theorem callTold {stage : Stage σ} {operation : Operation} {owed : Owed}
    (told : (stage.rig.begin operation).2 = some owed) :
    let begun := { stage with rig := (stage.rig.begin operation).1 }
    stage.step (.call operation) =
      begun.tell begun.rig.player.board owed stage.rig.player.listeners := by
  have listeners := Rig.beginListeners stage.rig operation
  simp only [step]
  split
  · rename_i rig quiet
    rw [quiet] at told
    cases told
  · rename_i rig owes same
    rw [same] at told listeners ⊢
    cases told
    exact congrArg (tell { stage with rig } rig.player.board owed) listeners

theorem failingStage {stage : Stage σ} {operation : Operation} {owed : Owed}
    (told : (stage.rig.begin operation).2 = some owed) {returning : Nat}
    (fails : returning < stage.rig.player.listeners.length) :
    stage.failing operation returning = { stage with rig := (stage.rig.begin operation).1 } := by
  rw [failing, telling, callTold told]
  exact tellFailed _ _ owed fails

theorem completingStage {stage : Stage σ} {operation : Operation} {owed : Owed}
    (told : (stage.rig.begin operation).2 = some owed) :
    stage.completing operation =
      { stage with rig := (stage.rig.begin operation).1.settle owed } := by
  rw [completing, telling, callTold told]
  exact tellReturned _ _ owed _

theorem onlookersReturnTold (stage : Stage σ) (idle : stage.stack = []) (picture : Board)
    (owed : Owed) (listeners : List String) :
    (stage.tell picture owed listeners).onlookersReturn =
      { stage with rig := stage.rig.settle owed } := by
  have count : toReturn (stage.tell picture owed listeners).stack = listeners.length := by
    cases listeners with
    | nil => simp [tell, idle, toReturn]
    | cons listener waiting => simp [tell, idle, toReturn]
  rw [onlookersReturn, count]
  exact tellReturned stage picture owed listeners

theorem carryOnlookers (rig : Rig σ) {operation : Operation}
    (booked : rig.isRefused operation = false) :
    rig.carry operation [] = ((rig.perform operation).1, true) := by
  simp only [Rig.carry, booked, Rig.perform, step, attend, Bool.false_eq_true, if_false]
  generalize rig.begin operation = begun
  obtain ⟨after, told⟩ := begun
  cases told with
  | none => rfl
  | some owed => simp only [onlookersReturnTold ⟨after, []⟩ rfl]

theorem attendFailed (rig : Rig σ) (picture : Board) (owed : Owed) {listeners : List String}
    {returning : Nat} (fails : returning < listeners.length) :
    (tell ⟨rig, []⟩ picture owed listeners).attend
      (List.replicate returning .returned ++ [.failed]) = (⟨rig, []⟩, false) := by
  induction listeners generalizing returning with
  | nil => cases fails
  | cons listener waiting ih =>
    cases returning with
    | zero => rfl
    | succ returning =>
      have more : returning < waiting.length := Nat.lt_of_succ_lt_succ fails
      -- the next listener keeps the operation open
      obtain ⟨next, later, rfl⟩ := List.exists_cons_of_length_pos (Nat.zero_lt_of_lt more)
      exact ih more

theorem carryFailed {rig : Rig σ} {operation : Operation} {owed : Owed}
    (told : (rig.begin operation).2 = some owed) (booked : rig.isRefused operation = false)
    {returning : Nat} (fails : returning < rig.player.listeners.length) :
    rig.carry operation (List.replicate returning .returned ++ [.failed]) =
      ((rig.begin operation).1, false) := by
  have called : step ⟨rig, []⟩ (.call operation) = _ := callTold told
  simp only [Rig.carry, booked, Bool.false_eq_true, if_false, called]
  rw [attendFailed _ _ _ fails]

/-- In every state of every run, when one of the listeners that an operation tells fails, the player
is as it should be exactly when the operation owed nothing of weight. -/
theorem failureUnharmed (steps : List Step) (settings : Settings) (scheduler : Watched σ)
    (events : List (Event (Watched σ))) (operation : Operation) (returning : Nat)
    (told : ((((start steps settings scheduler).through events).rig.begin operation).2).isSome)
    (fails : returning <
      ((start steps settings scheduler).through events).rig.player.listeners.length) :
    let stage := (start steps settings scheduler).through events
    Rig.Unharmed (stage.failing operation returning).rig (stage.completing operation).rig ↔
      stage.rig.Harmless operation := by
  intro stage
  obtain ⟨owed, owes⟩ := Option.isSome_iff_exists.mp told
  rw [failingStage owes fails, completingStage owes]
  exact Rig.beginUnharmed (runPlaced steps settings scheduler events) owes

theorem failureStopsTicks :
    let steps := [1, 2, 3].map fun n => ⟨n, n, "code", "a", "note", .callStack, 1, .execute, none⟩
    let playing := (start steps {} ({ inner := {} } : Watched Ledger)).through
      [.move (.subscribe "a"), .move (.call (.control .play))]
    let stage := playing.after (.drift (playing.rig.scheduler.release 0))
    ¬ Rig.Unharmed (stage.failing (.tick 0) 0).rig (stage.completing (.tick 0)).rig := by
  intro steps playing stage unharmed
  obtain ⟨booked, waiting, _⟩ := unharmed.playing (by decide)
  have nothing : (stage.failing (.tick 0) 0).rig.scheduler.waiting
      (stage.failing (.tick 0) 0).rig.player.generation = [] := by decide
  rw [nothing] at waiting
  cases waiting

theorem failureAtLastStep :
    let steps := [1].map fun n => ⟨n, n, "code", "a", "note", .callStack, 1, .execute, none⟩
    let scheduler : Watched Ledger := { inner := {} }
    let events : List (Event (Watched Ledger)) := [.move (.subscribe "a")]
    let stage := (start steps {} scheduler).through events
    Rig.Unharmed (stage.failing (.control .step) 0).rig
      (stage.completing (.control .step)).rig := by
  intro steps scheduler events stage
  have told : (stage.rig.begin (.control .step)).2.isSome := by decide
  have fails : 0 < stage.rig.player.listeners.length := by decide
  have harmless : stage.rig.Harmless (.control .step) := by decide
  exact (failureUnharmed steps {} scheduler events (.control .step) 0 told fails).mpr harmless

end Stage
end LoopPlayer
