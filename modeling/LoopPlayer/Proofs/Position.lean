import LoopPlayer.Proofs.Replay
import LoopPlayer.Proofs.Run

/-! Where a player stands. Whatever listeners, ticks and controls did in whatever order, the board
is the replay of the steps up to its index, so the index alone tells what it shows. Playback is
finished at the last step and nowhere else, and only a rewind leaves that state. -/
namespace LoopPlayer

/- The board is the replay of the steps up to its index, and the transport fits the index. -/
structure Placed (settings : Settings) (player : Player) : Prop where
  settings : player.settings = settings
  replayed : player.board =
    Board.replay player.matching (player.steps.take (player.board.index + 1).toNat)
  finished : player.steps ≠ [] →
    (player.transport = .finished ↔ player.board.index + 1 = player.steps.length)
  playing : player.transport = .playing → player.board.index + 1 < player.steps.length

namespace Placed

variable {settings : Settings} {player : Player}

theorem indexBounds (placed : Placed settings player) :
    -1 ≤ player.board.index ∧ player.board.index + 1 ≤ player.steps.length := by
  have count := congrArg Board.index placed.replayed
  rw [Board.replayIndex] at count
  have short := List.length_take_le' (player.board.index + 1).toNat player.steps
  omega

theorem haltKeeps (placed : Placed settings player) {transport : Transport}
    (more : player.steps ≠ [] → player.board.index + 1 ≠ player.steps.length)
    (halted : transport = .idle ∨ transport = .paused) :
    Placed settings { player with transport } := by
  refine ⟨placed.settings, placed.replayed, fun nonempty => ⟨fun finished => ?_, fun last => ?_⟩,
    fun playing => ?_⟩
  · rcases halted with rfl | rfl <;> cases finished
  · exact absurd last (more nonempty)
  · rcases halted with rfl | rfl <;> cases playing

theorem nextNoneIff (placed : Placed settings player) :
    player.next? = none ↔ player.board.index + 1 = player.steps.length := by
  have bounds := placed.indexBounds
  rw [Player.next?, List.getElem?_eq_none_iff]
  omega

theorem nextSomeBound (placed : Placed settings player) {step : Step}
    (next : player.next? = some step) :
    player.board.index + 1 < player.steps.length := by
  have bounds := placed.indexBounds
  have different : player.board.index + 1 ≠ player.steps.length := by
    rw [ne_eq, ← placed.nextNoneIff, next]
    exact Option.some_ne_none step
  omega

theorem unfinishedBefore (placed : Placed settings player)
    (more : player.board.index + 1 < player.steps.length) : player.transport ≠ .finished := by
  intro finished
  have bounds := placed.indexBounds
  have nonempty : player.steps ≠ [] := List.length_pos_iff.mp (by omega)
  have last := (placed.finished nonempty).mp finished
  omega

theorem appliedBoard (placed : Placed settings player) {step : Step}
    (next : player.next? = some step) :
    player.board.apply player.matching step =
      Board.replay player.matching (player.steps.take (player.board.index + 1 + 1).toNat) := by
  have bounds := placed.indexBounds
  have count : (player.board.index + 1 + 1).toNat = (player.board.index + 1).toNat + 1 := by omega
  rw [count, Board.replayNext next, ← placed.replayed]

theorem startPlaced (steps : List Step) (settings : Settings) :
    Placed settings (Player.start steps settings) where
  settings := rfl
  replayed := rfl
  finished nonempty := by
    have length := List.length_pos_iff.mpr nonempty
    simp only [Player.start, reduceCtorEq, false_iff] at length ⊢
    omega
  playing idle := by cases idle

end Placed

namespace Rig

variable {σ : Type} [Scheduler σ] {settings : Settings} {rig : Rig σ}

theorem finishPlaced (placed : Placed settings rig.player)
    (last : rig.player.board.index + 1 = rig.player.steps.length) :
    Placed settings rig.finish.player := by
  rw [finishPlayer]
  exact ⟨placed.settings, placed.replayed, fun _ => ⟨fun _ => last, fun _ => rfl⟩,
    fun playing => by cases playing⟩

theorem playPlaced (placed : Placed settings rig.player) : Placed settings rig.play.player := by
  unfold play
  split
  · exact placed
  · have bounds := placed.indexBounds
    split
    · exact finishPlaced placed (by omega)
    · have more : rig.player.board.index + 1 < rig.player.steps.length := by omega
      rw [bookPlayer, setTransportPlayer]
      refine ⟨placed.settings, placed.replayed, fun _ => ⟨fun finished => ?_, fun last => ?_⟩,
        fun _ => more⟩
      · cases finished
      · exact absurd last (Int.ne_of_lt more)

theorem pausePlaced (placed : Placed settings rig.player) : Placed settings rig.pause.player := by
  by_cases playing : rig.player.transport = .playing
  · rw [pausePlaying playing, setTransportPlayer, unbookPlayer]
    have unbooked : Placed settings rig.unbook.player :=
      ⟨placed.settings, placed.replayed, placed.finished, placed.playing⟩
    exact unbooked.haltKeeps (fun _ => Int.ne_of_lt (placed.playing playing)) (Or.inr rfl)
  · rw [pauseElse playing]
    exact placed

theorem advancePlaced (placed : Placed settings rig.player) :
    Placed settings rig.advance.1.player := by
  have advanced := rig.advanceOutcome
  generalize rig.advance = result at advanced ⊢
  have counted : rig.player.board.index + 1 + 1 = rig.player.board.index + 2 := by omega
  cases advanced with
  | exhausted none => exact finishPlaced placed (placed.nextNoneIff.mp none)
  | last next last =>
    rw [finishPlayer]
    refine ⟨placed.settings, placed.appliedBoard next, fun _ => ⟨fun _ => ?_, fun _ => rfl⟩,
      fun playing => by cases playing⟩
    exact counted.trans last
  | @more step next early =>
    have more := placed.nextSomeBound next
    refine ⟨placed.settings, placed.appliedBoard next,
      fun _ => ⟨fun finished => ?_, fun last => ?_⟩, fun _ => ?_⟩
    · exact absurd finished (placed.unfinishedBefore more)
    · exact absurd (counted.symm.trans last) early
    · show rig.player.board.index + 1 + 1 < rig.player.steps.length
      omega

theorem rewindPlaced (same : rig.player.settings = settings) :
    Placed settings rig.rewind.player := by
  rw [rewindPlayer]
  refine ⟨same, rfl, fun nonempty => ⟨fun finished => ?_, fun last => ?_⟩, fun idle => ?_⟩
  · cases finished
  · have length := List.length_pos_iff.mpr nonempty
    have start : (-1 : Int) + 1 = rig.player.steps.length := last
    simp only at length
    omega
  · cases idle

theorem beginPlaced (placed : Placed settings rig.player) (operation : Operation) :
    Placed settings (rig.begin operation).1.player := by
  cases operation with
  | control control =>
    cases control with
    | play => exact playPlaced placed
    | pause => exact pausePlaced placed
    | step =>
      simp only [begin]
      split
      · exact placed
      · exact advancePlaced (pausePlaced placed)
    | reset => exact rewindPlaced placed.settings
  | load source =>
    rw [beginLoad]
    exact rewindPlaced (by rw [loadedPlayer]; exact placed.settings)
  | setSpeed speed => exact ⟨placed.settings, placed.replayed, placed.finished, placed.playing⟩
  | tick generation =>
    simp only [begin]
    split
    · exact placed
    · exact advancePlaced ⟨placed.settings, placed.replayed, placed.finished, placed.playing⟩

theorem settlePlaced (placed : Placed settings rig.player) (owed : Owed) :
    Placed settings (rig.settle owed).player := by
  cases owed with
  | nothing => exact placed
  | settle =>
    simp only [settle]
    split
    · rename_i idle
      rw [setTransportPlayer]
      refine placed.haltKeeps (fun nonempty last => ?_) (Or.inr rfl)
      have finished := (placed.finished nonempty).mpr last
      rw [idle] at finished
      cases finished
    · exact placed
  | rebook =>
    simp only [settle]
    split
    · exact ⟨placed.settings, placed.replayed, placed.finished, placed.playing⟩
    · exact placed

theorem pauseBoard : rig.pause.player.board = rig.player.board := by
  obtain ⟨_, _, _, frame⟩ := pauseFrame rig
  rw [frame]

theorem advanceIndex (rig : Rig σ) :
    rig.advance.1.player.board.index = rig.player.board.index ∨
    rig.advance.1.player.board.index = rig.player.board.index + 1 := by
  have advanced := rig.advanceOutcome
  generalize rig.advance = result at advanced ⊢
  cases advanced with
  | exhausted none => rw [finishPlayer]; exact Or.inl rfl
  | last next last => rw [finishPlayer]; exact Or.inr rfl
  | more next more => exact Or.inr rfl

theorem beginIndex (operation : Operation) :
    (rig.begin operation).1.player.board.index = rig.player.board.index ∨
    (rig.begin operation).1.player.board.index = rig.player.board.index + 1 ∨
    (rig.begin operation).1.player.board.index = -1 := by
  cases operation with
  | control control =>
    cases control with
    | play =>
      refine Or.inl ?_
      simp only [begin, play]
      split
      · rfl
      · split
        · rw [finishPlayer]
        · rw [bookPlayer, setTransportPlayer]
    | pause => exact Or.inl (congrArg Board.index pauseBoard)
    | step =>
      simp only [begin]
      split
      · exact Or.inl rfl
      · have moved := advanceIndex rig.pause
        rw [pauseBoard] at moved
        exact moved.imp_right Or.inl
    | reset => exact Or.inr (Or.inr (by simp only [begin, rewindPlayer]))
  | load source => exact Or.inr (Or.inr (by rw [beginLoad, rewindPlayer]))
  | setSpeed speed => exact Or.inl rfl
  | tick generation =>
    simp only [begin]
    split
    · exact Or.inl rfl
    · exact (advanceIndex { rig with player := { rig.player with pending := none } }).imp_right
        Or.inl

theorem settleBoard (owed : Owed) : (rig.settle owed).player.board = rig.player.board := by
  obtain ⟨_, _, frame⟩ := settleFrame rig owed
  rw [frame]

theorem beginFinished (finished : rig.player.transport = .finished) (operation : Operation) :
    (rig.begin operation).1.player.transport = .finished ∨
    operation = .control .reset ∨ ∃ source, operation = .load source := by
  cases operation with
  | control control =>
    cases control with
    | reset => exact Or.inr (Or.inl rfl)
    | play => exact Or.inl (by simp [begin, play, finished])
    | pause => exact Or.inl (by simp [begin, pause, finished])
    | step => exact Or.inl (by simp [begin, finished])
  | load source => exact Or.inr (Or.inr ⟨source, rfl⟩)
  | setSpeed speed => exact Or.inl finished
  | tick generation => exact Or.inl (by simp [begin, finished])

theorem settleFinished (finished : rig.player.transport = .finished) (owed : Owed) :
    (rig.settle owed).player.transport = .finished := by
  cases owed <;> simp [settle, finished]

end Rig

namespace Stage

variable {σ : Type} [Scheduler σ] {settings : Settings}

theorem afterPlaced {stage : Stage σ} (placed : Placed settings stage.rig.player)
    (event : Event σ) : Placed settings (stage.after event).rig.player := by
  have turn := stage.afterTurn event
  generalize (stage.after event).rig = next at turn ⊢
  cases turn with
  | begun operation => exact Rig.beginPlaced placed operation
  | paid => exact Rig.settlePlaced (Rig.beginPlaced placed _) _
  | settled owed => exact Rig.settlePlaced placed owed
  | listening => exact ⟨placed.settings, placed.replayed, placed.finished, placed.playing⟩
  | drifted => exact placed

theorem throughPlaced {stage : Stage σ} (placed : Placed settings stage.rig.player)
    (events : List (Event σ)) : Placed settings (stage.through events).rig.player := by
  induction events generalizing stage with
  | nil => exact placed
  | cons event rest ih => exact ih (afterPlaced placed event)

theorem runPlaced (steps : List Step) (settings : Settings) (scheduler : σ)
    (events : List (Event σ)) :
    Placed settings ((start steps settings scheduler).through events).rig.player :=
  throughPlaced (Placed.startPlaced steps settings) events

theorem afterIndex (stage : Stage σ) (event : Event σ) :
    (stage.after event).rig.player.board.index = stage.rig.player.board.index ∨
    (stage.after event).rig.player.board.index = stage.rig.player.board.index + 1 ∨
    (stage.after event).rig.player.board.index = -1 := by
  have turn := stage.afterTurn event
  generalize (stage.after event).rig = next at turn ⊢
  cases turn with
  | begun operation => exact Rig.beginIndex operation
  | paid => rw [Rig.settleBoard]; exact Rig.beginIndex _
  | settled owed => rw [Rig.settleBoard]; exact Or.inl rfl
  | listening => exact Or.inl rfl
  | drifted => exact Or.inl rfl

theorem afterFinished {stage : Stage σ} (finished : stage.rig.player.transport = .finished)
    (event : Event σ) :
    (stage.after event).rig.player.transport = .finished ∨
    event = .move (.call (.control .reset)) ∨ ∃ source, event = .move (.call (.load source)) := by
  have turn := stage.afterTurn event
  generalize (stage.after event).rig = next at turn ⊢
  have called {operation : Operation}
      (left : operation = .control .reset ∨ ∃ source, operation = .load source) :
      (Event.move (.call operation) : Event σ) = .move (.call (.control .reset)) ∨
      ∃ source, (Event.move (.call operation) : Event σ) = .move (.call (.load source)) := by
    rcases left with rfl | ⟨source, rfl⟩
    · exact Or.inl rfl
    · exact Or.inr ⟨source, rfl⟩
  cases turn with
  | begun operation => exact (Rig.beginFinished finished operation).imp_right called
  | paid =>
    rcases Rig.beginFinished finished _ with still | left
    · exact Or.inl (Rig.settleFinished still _)
    · exact Or.inr (called left)
  | settled owed => exact Or.inl (Rig.settleFinished finished owed)
  | listening => exact Or.inl finished
  | drifted => exact Or.inl finished

/-- At every moment of every run the board is the replay of the steps up to its index, the index
moves by one or back before the first step, and two runs on one trace that match entries in the same
way and stand at one index show the same board. -/
theorem boardReplaysSteps (steps : List Step) (settings : Settings) (scheduler : σ)
    (events : List (Event σ)) :
    let stage := (start steps settings scheduler).through events
    let player := stage.rig.player
    (-1 ≤ player.board.index ∧ player.board.index < player.steps.length) ∧
    player.board =
      Board.replay player.matching (player.steps.take (player.board.index + 1).toNat) ∧
    (∀ event : Event σ,
      (stage.after event).rig.player.board.index = player.board.index ∨
      (stage.after event).rig.player.board.index = player.board.index + 1 ∨
      (stage.after event).rig.player.board.index = -1) ∧
    ∀ (τ : Type) [Scheduler τ] (steps' : List Step) (settings' : Settings) (scheduler' : τ)
      (events' : List (Event τ)),
      let other := ((start steps' settings' scheduler').through events').rig.player
      settings'.matchByLabel = settings.matchByLabel → other.steps = player.steps →
      other.board.index = player.board.index → other.board = player.board := by
  intro stage player
  have placed : Placed settings player := runPlaced steps settings scheduler events
  have bounds := placed.indexBounds
  refine ⟨⟨bounds.1, by omega⟩, placed.replayed, stage.afterIndex, ?_⟩
  intro τ _ steps' settings' scheduler' events' other matched sameSteps sameIndex
  have otherPlaced : Placed settings' other := runPlaced steps' settings' scheduler' events'
  have matching : other.matching = player.matching := by
    simp only [Player.matching, otherPlaced.settings, placed.settings, matched]
  calc other.board
      = Board.replay other.matching (other.steps.take (other.board.index + 1).toNat) :=
        otherPlaced.replayed
    _ = Board.replay player.matching (player.steps.take (player.board.index + 1).toNat) := by
        rw [matching, sameSteps, sameIndex]
    _ = player.board := placed.replayed.symm

/-- At every moment of every run the index stays within the trace, playback is finished exactly at
the last step, it goes on only before that, and only a rewind leaves the finished state. So playing
ends at once, and a step is missing, only in an empty trace. -/
theorem transportFitsIndex (steps : List Step) (settings : Settings) (scheduler : σ)
    (events : List (Event σ)) :
    let stage := (start steps settings scheduler).through events
    let player := stage.rig.player
    (-1 ≤ player.board.index ∧ player.board.index ≤ player.steps.length - 1) ∧
    (player.steps ≠ [] →
      (player.transport = .finished ↔ player.board.index = player.steps.length - 1)) ∧
    (player.transport = .playing → player.board.index + 1 < player.steps.length) ∧
    (∀ event : Event σ, player.transport = .finished →
      (stage.after event).rig.player.transport ≠ .finished →
      event = .move (.call (.control .reset)) ∨ ∃ source, event = .move (.call (.load source))) ∧
    (player.transport ≠ .playing → player.transport ≠ .finished →
      player.steps.length - 1 ≤ player.board.index → player.steps = []) ∧
    (player.transport ≠ .finished → player.next? = none → player.steps = []) := by
  intro stage player
  have placed : Placed settings player := runPlaced steps settings scheduler events
  have bounds := placed.indexBounds
  have finished (nonempty : player.steps ≠ []) :
      player.transport = .finished ↔ player.board.index = player.steps.length - 1 := by
    rw [placed.finished nonempty]
    omega
  have emptied (unfinished : player.transport ≠ .finished)
      (last : player.steps.length - 1 ≤ player.board.index) : player.steps = [] := by
    by_cases empty : player.steps = []
    · exact empty
    · exact absurd ((finished empty).mpr (by omega)) unfinished
  refine ⟨⟨bounds.1, by omega⟩, finished, placed.playing, fun event done left => ?_,
    fun _ => emptied, fun unfinished none => emptied unfinished ?_⟩
  · exact (afterFinished done event).resolve_left left
  · have last := placed.nextNoneIff.mp none
    omega

end Stage

end LoopPlayer
