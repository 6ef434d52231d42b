import LoopPlayer.Proofs.Run

/-! Generations. All that operations do to a player and its scheduler is put together from a few
things: to book a tick, to take one back, to finish, and what concerns the player alone. So generations
only grow, and they do grow whenever playback is stopped, rewound or comes to its end. -/
namespace LoopPlayer

variable {σ : Type}

namespace Rig

def Geared (before after : Player) : Prop :=
  after.settings = before.settings ∧
    (after.speed = before.speed ∨ ∃ speed, after.speed = before.settings.clampSpeed speed)

structure Still (before after : Rig σ) : Prop where
  scheduler : after.scheduler = before.scheduler
  generation : after.player.generation = before.player.generation
  finished : after.player.transport = .finished → before.player.transport = .finished
  geared : Geared before.player after.player

namespace Still

variable {rig after : Rig σ}

theorem setTransportStill (rig : Rig σ) {transport : Transport} (other : transport ≠ .finished) :
    Still rig (rig.setTransport transport) where
  scheduler := setTransportScheduler rig transport
  generation := by rw [setTransportPlayer]
  finished same := by
    rw [setTransportPlayer] at same
    exact absurd same other
  geared := by
    rw [setTransportPlayer]
    exact ⟨rfl, Or.inl rfl⟩

theorem unmovedStill (scheduler : after.scheduler = rig.scheduler)
    (player : after.player = { rig.player with
      steps := after.player.steps, board := after.player.board, pending := after.player.pending }) :
    Still rig after := by
  refine ⟨scheduler, ?_, ?_, ?_, ?_⟩
  all_goals rw [player]
  · exact id
  · exact Or.inl rfl

end Still

variable [Scheduler σ]

/-- What operations are put together from. -/
inductive Worked : Rig σ → Rig σ → Prop where
  | still {before after : Rig σ} (still : Still before after) : Worked before after
  | book (rig : Rig σ) : Worked rig rig.book
  | unbook (rig : Rig σ) : Worked rig rig.unbook
  | finish (rig : Rig σ) : Worked rig rig.finish
  | trans {before between after : Rig σ} (first : Worked before between)
      (second : Worked between after) : Worked before after

namespace Worked

variable {rig before after : Rig σ}

theorem refl (rig : Rig σ) : Worked rig rig := .still (.unmovedStill rfl rfl)

theorem advanceWorked (rig : Rig σ) : Worked rig rig.advance.1 := by
  have advanced := rig.advanceOutcome
  generalize rig.advance = result at advanced ⊢
  cases advanced with
  | exhausted none => exact .finish rig
  | @last step next last =>
    have applied : Worked rig (rig.applied step) := .still (.unmovedStill rfl rfl)
    exact .trans applied (.finish _)
  | more next more => exact .still (.unmovedStill rfl rfl)

theorem pauseWorked (rig : Rig σ) : Worked rig rig.pause := by
  by_cases playing : rig.player.transport = .playing
  · rw [pausePlaying playing]
    exact .trans (.unbook rig) (.still (Still.setTransportStill _ Transport.noConfusion))
  · rw [pauseElse playing]
    exact refl rig

theorem playWorked (rig : Rig σ) : Worked rig rig.play := by
  unfold play
  split
  · exact refl rig
  · split
    · exact .finish rig
    · exact .trans (.still (Still.setTransportStill rig Transport.noConfusion)) (.book _)

theorem rewindWorked (rig : Rig σ) : Worked rig rig.rewind := by
  have cleared : Still rig.unbook
      { rig.unbook with player := { rig.unbook.player with board := {} } } := .unmovedStill rfl rfl
  exact .trans (.unbook rig)
    (.trans (.still cleared) (.still (Still.setTransportStill _ Transport.noConfusion)))

theorem loadedWorked (rig : Rig σ) (source : String) : Worked rig (rig.loaded source) := by
  unfold Rig.loaded
  generalize compile source = compiled
  exact .trans (.unbook rig) (.still (.unmovedStill rfl rfl))

theorem beginWorked (rig : Rig σ) (operation : Operation) : Worked rig (rig.begin operation).1 := by
  cases operation with
  | control control =>
    cases control with
    | play => exact playWorked rig
    | pause => exact pauseWorked rig
    | step =>
      simp only [begin]
      split
      · exact refl rig
      · exact .trans (pauseWorked rig) (advanceWorked _)
    | reset => exact rewindWorked rig
  | load source =>
    rw [beginLoad]
    exact .trans (loadedWorked rig source) (rewindWorked _)
  | setSpeed speed => exact .still ⟨rfl, rfl, id, rfl, Or.inr ⟨speed, rfl⟩⟩
  | tick generation =>
    simp only [begin]
    split
    · exact .still (.unmovedStill rfl rfl)
    · have took : Worked rig rig.taken := .still (.unmovedStill rfl rfl)
      exact .trans took (advanceWorked rig.taken)

theorem settleWorked (rig : Rig σ) (owed : Owed) : Worked rig (rig.settle owed) := by
  cases owed with
  | nothing => exact refl rig
  | settle =>
    simp only [settle]
    split
    · exact .still (Still.setTransportStill rig Transport.noConfusion)
    · exact refl rig
  | rebook =>
    simp only [settle]
    split
    · exact .book rig
    · exact refl rig

theorem workedGeared (worked : Worked before after) : Geared before.player after.player := by
  induction worked with
  | still still => exact still.geared
  | book rig => exact ⟨rfl, Or.inl rfl⟩
  | unbook rig => exact ⟨rfl, Or.inl rfl⟩
  | finish rig => rw [finishPlayer]; exact ⟨rfl, Or.inl rfl⟩
  | trans _ _ first second =>
    refine ⟨second.1.trans first.1, ?_⟩
    rcases second.2 with same | bounded
    · rw [same]
      exact first.2
    · rw [← first.1]
      exact Or.inr bounded

theorem generationGrows (worked : Worked before after) :
    before.player.generation ≤ after.player.generation := by
  induction worked with
  | still still => exact Nat.le_of_eq still.generation.symm
  | book rig => exact Nat.le_refl _
  | unbook rig => exact Nat.le_succ _
  | finish rig => rw [finishPlayer]; exact Nat.le_succ _
  | trans _ _ first second => exact Nat.le_trans first second

theorem finishedSince (worked : Worked before after) (ended : after.player.transport = .finished) :
    before.player.transport = .finished ∨ before.player.generation < after.player.generation := by
  induction worked with
  | still still => exact Or.inl (still.finished ended)
  | book rig => exact Or.inl ended
  | unbook rig => exact Or.inl ended
  | finish rig => rw [finishPlayer]; exact Or.inr (Nat.lt_succ_self _)
  | trans early late first second =>
    rcases second ended with already | newer
    · exact (first already).imp_right (Nat.lt_of_lt_of_le · late.generationGrows)
    · exact Or.inr (Nat.lt_of_le_of_lt early.generationGrows newer)

end Worked
end Rig

namespace Stage

variable [Scheduler σ]

theorem stepWorked (stage : Stage σ) (move : Move) : Rig.Worked stage.rig (stage.step move).rig := by
  have turn := stage.afterTurn (.move move)
  change Rig.Worked stage.rig (stage.after (.move move)).rig
  generalize (stage.after (.move move)).rig = next at turn ⊢
  cases turn with
  | begun operation => exact .beginWorked stage.rig operation
  | paid => exact .trans (.beginWorked stage.rig _) (.settleWorked _ _)
  | settled owed => exact .settleWorked stage.rig owed
  | listening => exact .still ⟨rfl, rfl, id, rfl, Or.inl rfl⟩

theorem afterGeneration (stage : Stage σ) (event : Event σ) :
    stage.rig.player.generation ≤ (stage.after event).rig.player.generation := by
  cases event with
  | move move => exact (stage.stepWorked move).generationGrows
  | drift scheduler => exact Nat.le_refl _

theorem throughGeneration (stage : Stage σ) (events : List (Event σ)) :
    stage.rig.player.generation ≤ (stage.through events).rig.player.generation := by
  induction events generalizing stage with
  | nil => exact Nat.le_refl _
  | cons event rest ih => exact Nat.le_trans (stage.afterGeneration event) (ih (stage.after event))

inductive Supersedes (stage : Stage σ) : Event σ → Prop where
  | pause (playing : stage.rig.player.transport = .playing) :
      Supersedes stage (.move (.call (.control .pause)))
  | step (playing : stage.rig.player.transport = .playing) :
      Supersedes stage (.move (.call (.control .step)))
  | reset : Supersedes stage (.move (.call (.control .reset)))
  | load (source : String) : Supersedes stage (.move (.call (.load source)))
  | finish {event : Event σ} (unfinished : stage.rig.player.transport ≠ .finished)
      (finished : (stage.after event).rig.player.transport = .finished) : Supersedes stage event

theorem callWorked (stage : Stage σ) (operation : Operation) :
    Rig.Worked (stage.rig.begin operation).1 (stage.step (.call operation)).rig := by
  simp only [step]
  split
  · rename_i rig quiet
    rw [quiet]
    exact .refl rig
  · rename_i rig owed told
    rw [told]
    rcases tellRig { stage with rig } rig.player.board owed rig.player.listeners with same | paid
    · rw [same]
      exact .refl rig
    · rw [paid]
      exact .settleWorked rig owed

theorem supersedesGeneration {stage : Stage σ} {event : Event σ}
    (supersedes : Supersedes stage event) :
    stage.rig.player.generation < (stage.after event).rig.player.generation := by
  have newer {operation : Operation}
      (begun : stage.rig.player.generation < (stage.rig.begin operation).1.player.generation) :
      stage.rig.player.generation < (stage.step (.call operation)).rig.player.generation :=
    Nat.lt_of_lt_of_le begun (stage.callWorked operation).generationGrows
  have paused (playing : stage.rig.player.transport = .playing) :
      stage.rig.player.generation < stage.rig.pause.player.generation := by
    rw [Rig.pausePlaying playing, Rig.setTransportPlayer, Rig.unbookPlayer]
    exact Nat.lt_succ_self _
  have rewound (rig : Rig σ) : rig.player.generation < rig.rewind.player.generation := by
    rw [Rig.rewindPlayer]
    exact Nat.lt_succ_self _
  cases supersedes with
  | pause playing => exact newer (paused playing)
  | step playing =>
    have unfinished : stage.rig.player.transport ≠ .finished := by
      rw [playing]
      exact Transport.noConfusion
    refine newer ?_
    rw [Rig.beginStep unfinished]
    exact Nat.lt_of_lt_of_le (paused playing) (Rig.Worked.advanceWorked _).generationGrows
  | reset => exact newer (rewound stage.rig)
  | load source =>
    refine newer ?_
    rw [Rig.beginLoad]
    exact Nat.lt_of_le_of_lt (Rig.Worked.loadedWorked _ source).generationGrows (rewound _)
  | finish unfinished finished =>
    cases event with
    | move move => exact ((stage.stepWorked move).finishedSince finished).resolve_left unfinished
    | drift scheduler => exact absurd finished unfinished

end Stage
end LoopPlayer
