import LoopPlayer.Proofs.Failure

/-! A listener that rewinds under a step. The step by hand still settles when the listeners have been
told, and takes a player that was made idle meanwhile for one that was idle before: it pauses it.
Rewinding right after the step leaves the same player idle. -/
namespace LoopPlayer

variable {σ : Type}

inductive Rewinding where
  | reset
  | load (source : String)
  deriving DecidableEq, Repr

def Rewinding.operation : Rewinding → Operation
  | reset => .control .reset
  | load source => .load source

namespace Rig

variable [Scheduler σ] {settings : Settings} {rig : Rig σ}

theorem rewindingOwes (rig : Rig σ) (rewinding : Rewinding) :
    (rig.begin rewinding.operation).2 = some .nothing := by
  cases rewinding <;> rfl

theorem rewindingIdle (rig : Rig σ) (rewinding : Rewinding) :
    (rig.begin rewinding.operation).1.player.transport = .idle ∧
      (rig.begin rewinding.operation).1.player.board = {} := by
  cases rewinding with
  | reset => simp only [Rewinding.operation, begin, rewindPlayer, and_self]
  | load source => simp only [Rewinding.operation, beginLoad, rewindPlayer, and_self]

theorem unbookScheduler {a b : Rig σ} (scheduler : a.scheduler = b.scheduler)
    (pending : a.player.pending = b.player.pending) : a.unbook.scheduler = b.unbook.scheduler := by
  simp only [unbook, scheduler, pending]

theorem rewindingForgets (rig : Rig σ) (transport : Transport) (rewinding : Rewinding) :
    ((rig.setTransport transport).begin rewinding.operation).1.player =
        (rig.begin rewinding.operation).1.player ∧
      ((rig.setTransport transport).begin rewinding.operation).1.scheduler =
        (rig.begin rewinding.operation).1.scheduler := by
  have unbooked : (rig.setTransport transport).unbook.scheduler = rig.unbook.scheduler :=
    unbookScheduler (setTransportScheduler rig transport) (by rw [setTransportPlayer])
  cases rewinding with
  | reset =>
    refine ⟨by simp only [Rewinding.operation, begin, rewindPlayer, setTransportPlayer], ?_⟩
    simp only [Rewinding.operation, begin, rewind, setTransportScheduler, unbooked]
  | load source =>
    refine ⟨by simp only [Rewinding.operation, beginLoad, rewindPlayer, loadedPlayer,
      setTransportPlayer], ?_⟩
    have loaded : ((rig.setTransport transport).loaded source).unbook.scheduler =
        (rig.loaded source).unbook.scheduler := by
      refine unbookScheduler unbooked ?_
      rw [loadedPlayer, loadedPlayer]
    simp only [Rewinding.operation, beginLoad, rewind, setTransportScheduler, loaded]

theorem stepTold (placed : Placed settings rig.player)
    (unfinished : rig.player.transport ≠ .finished) (nonempty : rig.player.steps ≠ []) :
    (rig.begin (.control .step)).2 = some .settle := by
  have more : rig.player.next? ≠ none := fun none =>
    unfinished ((placed.finished nonempty).mpr (placed.nextNoneIff.mp none))
  obtain ⟨_, _, _, frame⟩ := pauseFrame rig
  have same : rig.pause.player.next? = rig.player.next? := by
    rw [frame]
    rfl
  have advanced := rig.pause.advanceOutcome
  rw [beginStep unfinished]
  generalize rig.pause.advance = result at advanced ⊢
  cases advanced with
  | exhausted none => exact absurd (same ▸ none) more
  | last next last => rfl
  | more next more => rfl

end Rig

namespace Stage

variable [Scheduler σ]

theorem tellWaiting (stage : Stage σ) (picture : Board) (owed : Owed) {listeners : List String}
    {returning : Nat} (waits : returning < listeners.length) :
    (stage.tell picture owed listeners).run (List.replicate returning .returned) =
      { stage with
        stack := ⟨listeners[returning], listeners.drop (returning + 1), picture, owed⟩ ::
          stage.stack } := by
  induction listeners generalizing returning with
  | nil => cases waits
  | cons listener waiting ih =>
    cases returning with
    | zero => rfl
    | succ returning => exact ih (Nat.lt_of_succ_lt_succ waits)

/- A step by hand, one of whose listeners, after the first `returning` ones, rewinds the player. All
listeners are told of that and look on, and then the listeners of the step return. -/
def rewoundUnder (stage : Stage σ) (rewinding : Rewinding) (returning : Nat) : Stage σ :=
  ((stage.telling (.control .step) returning).completing rewinding.operation).run
    (List.replicate (stage.rig.player.listeners.length - returning) .returned)

def rewoundAfter (stage : Stage σ) (rewinding : Rewinding) : Stage σ :=
  (stage.completing (.control .step)).completing rewinding.operation

theorem rewoundUnderRig {stage : Stage σ}
    (told : (stage.rig.begin (.control .step)).2 = some .settle) (rewinding : Rewinding)
    {returning : Nat} (reacts : returning < stage.rig.player.listeners.length) :
    stage.rewoundUnder rewinding returning =
      { stage with
        rig := (((stage.rig.begin (.control .step)).1.begin rewinding.operation).1.settle
          .nothing).settle .settle } := by
  rw [rewoundUnder, telling, callTold told, tellWaiting _ _ _ reacts,
    completingStage (Rig.rewindingOwes _ rewinding)]
  have left : stage.rig.player.listeners.length - returning =
      (stage.rig.player.listeners.drop (returning + 1)).length + 1 := by
    rw [List.length_drop]
    omega
  rw [left]
  exact tellReturned _ _ _ _

theorem rewoundAfterRig {stage : Stage σ}
    (told : (stage.rig.begin (.control .step)).2 = some .settle) (rewinding : Rewinding) :
    stage.rewoundAfter rewinding =
      { stage with
        rig := (((stage.rig.begin (.control .step)).1.settle .settle).begin
          rewinding.operation).1.settle .nothing } := by
  rw [rewoundAfter, completingStage told, completingStage (Rig.rewindingOwes _ rewinding)]

/-- Whatever the state of a player that has a step to come: when a listener of a step by hand rewinds
the player, the step leaves it paused before the first step, in all else the player that the same
rewinding right after the step leaves idle. -/
theorem rewoundStepPauses (steps : List Step) (settings : Settings) (scheduler : σ)
    (events : List (Event σ)) (rewinding : Rewinding) (returning : Nat)
    (unfinished : ((start steps settings scheduler).through events).rig.player.transport ≠ .finished)
    (nonempty : ((start steps settings scheduler).through events).rig.player.steps ≠ [])
    (reacts : returning <
      ((start steps settings scheduler).through events).rig.player.listeners.length) :
    let stage := (start steps settings scheduler).through events
    let under := stage.rewoundUnder rewinding returning
    let afterwards := stage.rewoundAfter rewinding
    (under.stack = stage.stack ∧ afterwards.stack = stage.stack) ∧
    (afterwards.rig.player.transport = .idle ∧ afterwards.rig.player.board = {}) ∧
    under.rig.player = (afterwards.rig.setTransport .paused).player ∧
    under.rig.scheduler = afterwards.rig.scheduler := by
  intro stage under afterwards
  have told : (stage.rig.begin (.control .step)).2 = some .settle :=
    Rig.stepTold (runPlaced steps settings scheduler events) unfinished nonempty
  let stepped := (stage.rig.begin (.control .step)).1
  have nested : under = _ := rewoundUnderRig told rewinding reacts
  have sequential : afterwards = _ := rewoundAfterRig told rewinding
  have rewound := Rig.rewindingIdle stepped rewinding
  have settled : ((stepped.begin rewinding.operation).1.settle .settle) =
      (stepped.begin rewinding.operation).1.setTransport .paused := if_pos rewound.1
  have same : ((stepped.settle .settle).begin rewinding.operation).1.player =
        (stepped.begin rewinding.operation).1.player ∧
      ((stepped.settle .settle).begin rewinding.operation).1.scheduler =
        (stepped.begin rewinding.operation).1.scheduler := by
    by_cases idle : stepped.player.transport = .idle
    · have paused : stepped.settle .settle = stepped.setTransport .paused := if_pos idle
      rw [paused]
      exact Rig.rewindingForgets stepped .paused rewinding
    · have still : stepped.settle .settle = stepped := if_neg idle
      rw [still]
      exact ⟨rfl, rfl⟩
  rw [nested, sequential]
  refine ⟨⟨rfl, rfl⟩, ?_, ?_, ?_⟩
  · show ((stepped.settle .settle).begin rewinding.operation).1.player.transport = .idle ∧
      ((stepped.settle .settle).begin rewinding.operation).1.player.board = {}
    rw [same.1]
    exact rewound
  · show ((stepped.begin rewinding.operation).1.settle .settle).player =
      (((stepped.settle .settle).begin rewinding.operation).1.setTransport .paused).player
    rw [settled, Rig.setTransportPlayer, Rig.setTransportPlayer, same.1]
  · show ((stepped.begin rewinding.operation).1.settle .settle).scheduler =
      ((stepped.settle .settle).begin rewinding.operation).1.scheduler
    rw [settled, Rig.setTransportScheduler, same.2]

theorem loadUnderStepPauses :
    let steps := [1, 2, 3].map fun n => ⟨n, n, "code", "a", "note", .callStack, 1, .execute, none⟩
    let events : List (Event Ledger) :=
      [.move (.subscribe "a"), .move (.subscribe "b"), .move (.call (.control .play))]
    let rewinding : Rewinding := .load "console.log(1)"
    let stage := (start steps {} ({} : Ledger)).through events
    let under := stage.rewoundUnder rewinding 1
    let afterwards := stage.rewoundAfter rewinding
    stage.rig.player.transport = .playing ∧
    under.rig.player = (afterwards.rig.setTransport .paused).player ∧
    under.rig.scheduler = afterwards.rig.scheduler := by
  intro steps events rewinding
  refine ⟨by decide, ?_⟩
  have rewound := rewoundStepPauses steps {} ({} : Ledger) events rewinding 1
    (by decide) (by decide) (by decide)
  exact rewound.2.2

theorem resetUnderStepUndone :
    let steps := [1, 2, 3].map fun n => ⟨n, n, "code", "a", "note", .callStack, 1, .execute, none⟩
    let stage := (start steps {} ({} : Ledger)).through [.move (.subscribe "a")]
    stage.rig.player.transport = .idle ∧ stage.rig.player.steps ≠ [] ∧
      (stage.rewoundUnder .reset 0).stack = [] ∧
      (stage.rewoundUnder .reset 0).rig.player.transport ≠ .idle ∧
      (stage.rewoundAfter .reset).rig.player.transport = .idle := by decide

end Stage
end LoopPlayer
