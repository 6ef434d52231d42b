import LoopPlayer.Player.Playback
import LoopPlayer.Proofs.Onlookers
import LoopPlayer.Proofs.Waiting

/-! Running what is due comes to its end: a tick takes a timer out of the queue, and puts one back
only when it has applied a step. What is left afterwards is not due. -/
namespace LoopPlayer.Rig

/- The timers in the queue and the steps to come, an upper bound of the ticks that can still run. -/
def remaining (rig : Rig (Timers Nat)) : Nat :=
  rig.scheduler.queue.length + (rig.player.steps.length - (rig.player.board.index + 1)).toNat

variable {rig : Rig (Timers Nat)}

theorem setTransportRemaining (rig : Rig (Timers Nat)) (transport : Transport) :
    (rig.setTransport transport).remaining = rig.remaining := by
  rw [remaining, remaining, setTransportScheduler, setTransportPlayer]

theorem finishRemaining (rig : Rig (Timers Nat)) : rig.finish.remaining = rig.remaining := by
  rw [finish, setTransportRemaining, remaining, remaining, unbook]
  cases rig.player.pending with
  | none => rfl
  | some serial =>
    exact congrArg (· + _) (List.length_map _)

theorem bookRemaining (rig : Rig (Timers Nat)) : rig.book.remaining = rig.remaining + 1 := by
  have queue : rig.book.scheduler.queue.length = rig.scheduler.queue.length + 1 :=
    Timers.insertLength _ _
  rw [remaining, remaining, queue, bookPlayer, Nat.add_right_comm]

theorem appliedRemaining {settings : Settings} (placed : Placed settings rig.player) {step : Step}
    (next : rig.player.next? = some step) : (rig.applied step).remaining + 1 = rig.remaining := by
  have bounds := placed.indexBounds
  have more := placed.nextSomeBound next
  have moved : (rig.applied step).player.board.index = rig.player.board.index + 1 := rfl
  have same : (rig.applied step).scheduler = rig.scheduler ∧
      (rig.applied step).player.steps = rig.player.steps := ⟨rfl, rfl⟩
  rw [remaining, remaining, moved, same.1, same.2]
  omega

theorem tickRemaining {settings : Settings} (placed : Placed settings rig.player)
    (generation : Nat) : (rig.perform (.tick generation)).1.remaining ≤ rig.remaining := by
  by_cases live : generation = rig.player.generation ∧ rig.player.transport = .playing
  · obtain ⟨rfl, playing⟩ := live
    have more : rig.player.next? ≠ none := by
      rw [ne_eq, placed.nextNoneIff]
      exact Int.ne_of_lt (placed.playing playing)
    obtain ⟨step, next⟩ := Option.ne_none_iff_exists'.mp more
    have taken : Placed settings rig.taken.player :=
      ⟨placed.settings, placed.replayed, placed.finished, placed.playing⟩
    have applied : (rig.taken.applied step).remaining + 1 = rig.remaining :=
      appliedRemaining taken next
    rw [performTick playing next, ← applied]
    split
    · rw [finishRemaining]
      exact Nat.le_succ _
    · exact Nat.le_of_eq (bookRemaining _)
  · have begun := beginStale live
    rw [performQuiet (congrArg Prod.snd begun), begun]
    exact Nat.le_refl _

theorem runDueFromSettles {settings : Settings} {progress : Progress}
    (placed : Placed settings progress.rig.player) {fuel : Nat}
    (enough : progress.rig.remaining < fuel) :
    (runDueFrom fuel progress).rig.scheduler.takeDue.1 = none := by
  induction fuel generalizing progress with
  | zero => exact absurd enough (Nat.not_lt_zero _)
  | succ fuel ih =>
    have taken := progress.rig.scheduler.takeDueTaken
    rw [runDueFrom]
    generalize progress.rig.scheduler.takeDue = result at taken ⊢
    cases taken with
    | settled waiting none => exact none
    | @found timer queue due waiting shorter =>
      let rig := { progress.rig with scheduler := { progress.rig.scheduler with queue } }
      -- the tick may book another timer, but only for a step that it takes from those to come
      have fewer : rig.remaining < progress.rig.remaining := Nat.add_lt_add_right shorter _
      have same : Placed settings rig.player := placed
      have ran := tickRemaining same timer.action
      refine ih ((performLeads rig _).placedKept placed) ?_
      exact Nat.lt_of_le_of_lt ran (Nat.lt_of_lt_of_le fewer (Nat.le_of_lt_succ enough))

theorem runDueSettles {settings : Settings} (placed : Placed settings rig.player) :
    rig.runDue.rig.scheduler.takeDue.1 = none := by
  have least := placed.indexBounds.1
  have enough : rig.remaining < rig.scheduler.queue.length + rig.player.steps.length + 1 := by
    rw [remaining]
    omega
  let progress : Progress := { rig }
  have same : Placed settings progress.rig.player := placed
  exact runDueFromSettles same enough

theorem runNextSettles {settings : Settings} (placed : Placed settings rig.player) :
    rig.runNext.rig.scheduler.takeDue.1 = none := by
  rw [runNext]
  cases jump : rig.scheduler.jump? with
  | none => exact Timers.dropCancelledTaken jump
  | some scheduler => exact runDueSettles placed

end LoopPlayer.Rig
