import LoopPlayer.Player.Machine

/-! Runs of a player in use, and what each operation does to the player. A run is a list of events
in any order: listeners may use the player, return or fail whenever they run, a tick of any
generation may come at any time and any number of times, and the scheduler may change between two
moves as it likes. What is said of a run's end is said of each of its moments, since what leads up
to a moment is a run too. -/
namespace LoopPlayer

variable {σ : Type}

inductive Event (σ : Type) where
  | move (move : Move)
  | drift (scheduler : σ)
  deriving DecidableEq, Repr

def Operation.trace (held : List Step) : Operation → List Step
  | .load source => traceOf source
  | _ => held

namespace Rig

@[simp] theorem notePlayer (rig : Rig σ) (notice : Notice) : (rig.note notice).player = rig.player :=
  rfl

@[simp] theorem setTransportPlayer (rig : Rig σ) (transport : Transport) :
    (rig.setTransport transport).player = { rig.player with transport } := by
  unfold setTransport
  split
  · rename_i same
    rw [← same]
  · rfl

theorem setTransportScheduler (rig : Rig σ) (transport : Transport) :
    (rig.setTransport transport).scheduler = rig.scheduler := by
  unfold setTransport
  split <;> rfl

theorem ofSourcePlayer (source : String) (settings : Settings) (scheduler : σ) :
    (ofSource source settings scheduler).player = Player.start (traceOf source) settings := by
  simp only [ofSource, compile, traceOf, notePlayer, start]

def applied (rig : Rig σ) (step : Step) : Rig σ :=
  let board := rig.player.board.apply rig.player.matching step
  { rig with player := { rig.player with board } }.note (.applied board.index step)

@[simp] theorem appliedPlayer (rig : Rig σ) (step : Step) :
    (rig.applied step).player =
      { rig.player with board := rig.player.board.apply rig.player.matching step } := rfl

variable [Scheduler σ]

@[simp] theorem bookPlayer (rig : Rig σ) :
    rig.book.player =
      { rig.player with
        pending := (Scheduler.later rig.scheduler (rig.player.settings.interval rig.player.speed)
          rig.player.generation).2.or rig.player.pending } := rfl

@[simp] theorem unbookPlayer (rig : Rig σ) :
    rig.unbook.player =
      { rig.player with generation := rig.player.generation + 1, pending := none } := rfl

@[simp] theorem finishPlayer (rig : Rig σ) :
    rig.finish.player =
      { rig.player with
        generation := rig.player.generation + 1, pending := none, transport := .finished } := by
  simp [finish]

@[simp] theorem rewindPlayer (rig : Rig σ) :
    rig.rewind.player =
      { rig.player with
        generation := rig.player.generation + 1, pending := none
        board := {}, transport := .idle } := by
  simp [rewind]

def loaded (rig : Rig σ) (source : String) : Rig σ :=
  let (steps, notice) := compile source
  let rig := rig.unbook.note notice
  { rig with player := { rig.player with steps } }.note (.loaded steps.length)

@[simp] theorem loadedPlayer (rig : Rig σ) (source : String) :
    (rig.loaded source).player =
      { rig.player with
        generation := rig.player.generation + 1, pending := none, steps := (compile source).1 } := by
  simp only [loaded, notePlayer, unbookPlayer]

theorem compileTrace (source : String) : (compile source).1 = traceOf source := by
  simp only [compile, traceOf]

theorem beginLoad (rig : Rig σ) (source : String) :
    rig.begin (.load source) = ((rig.loaded source).rewind, some .nothing) := rfl

theorem pausePlaying {rig : Rig σ} (playing : rig.player.transport = .playing) :
    rig.pause = rig.unbook.setTransport .paused := by
  simp [pause, playing]

theorem pauseElse {rig : Rig σ} (other : rig.player.transport ≠ .playing) : rig.pause = rig := by
  simp [pause, other]

theorem pauseFrame (rig : Rig σ) : ∃ transport pending generation,
    rig.pause.player = { rig.player with transport, pending, generation } := by
  by_cases playing : rig.player.transport = .playing
  · rw [pausePlaying playing, setTransportPlayer, unbookPlayer]
    exact ⟨_, _, _, rfl⟩
  · rw [pauseElse playing]
    exact ⟨_, _, _, rfl⟩

inductive Advanced (rig : Rig σ) : Rig σ × Bool → Prop where
  | exhausted (none : rig.player.next? = none) : Advanced rig (rig.finish, false)
  | last {step : Step} (next : rig.player.next? = some step)
      (last : rig.player.board.index + 2 = rig.player.steps.length) :
      Advanced rig ((rig.applied step).finish, true)
  | more {step : Step} (next : rig.player.next? = some step)
      (more : rig.player.board.index + 2 ≠ rig.player.steps.length) :
      Advanced rig (rig.applied step, true)

theorem advanceOutcome (rig : Rig σ) : Advanced rig rig.advance := by
  have counted : rig.player.board.index + 1 + 1 = rig.player.board.index + 2 := by omega
  cases next : rig.player.next? with
  | none =>
    have ended : rig.advance = (rig.finish, false) := by simp [advance, next]
    rw [ended]
    exact .exhausted next
  | some step =>
    by_cases last : rig.player.board.index + 2 = rig.player.steps.length
    · have ended : rig.advance = ((rig.applied step).finish, true) := by
        simp [advance, next, applied, Board.apply, counted, last]
      rw [ended]
      exact .last next last
    · have moved : rig.advance = (rig.applied step, true) := by
        simp [advance, next, applied, Board.apply, counted, last]
      rw [moved]
      exact .more next last

theorem beginStep {rig : Rig σ} (unfinished : rig.player.transport ≠ .finished) :
    rig.begin (.control .step) =
      (rig.pause.advance.1, if rig.pause.advance.2 then some .settle else none) :=
  if_neg unfinished

def taken (rig : Rig σ) : Rig σ := { rig with player := { rig.player with pending := none } }

theorem beginLive {rig : Rig σ} (playing : rig.player.transport = .playing) :
    rig.begin (.tick rig.player.generation) =
      (rig.taken.advance.1, if rig.taken.advance.2 then some .rebook else none) := by
  have live : ¬ (rig.player.generation ≠ rig.player.generation ∨
      rig.player.transport ≠ .playing) := by simp [playing]
  exact if_neg live

theorem beginStale {rig : Rig σ} {generation : Nat}
    (stale : ¬ (generation = rig.player.generation ∧ rig.player.transport = .playing)) :
    rig.begin (.tick generation) = (rig.note (.staleTick generation), none) := by
  rw [Decidable.not_and_iff_not_or_not] at stale
  exact if_pos stale

theorem advanceFrame (rig : Rig σ) : ∃ transport board pending generation,
    rig.advance.1.player = { rig.player with transport, board, pending, generation } := by
  have advanced := rig.advanceOutcome
  generalize rig.advance = result at advanced ⊢
  cases advanced with
  | exhausted none =>
    rw [finishPlayer]
    exact ⟨_, _, _, _, rfl⟩
  | last next last =>
    rw [finishPlayer, appliedPlayer]
    exact ⟨_, _, _, _, rfl⟩
  | more next more =>
    rw [appliedPlayer]
    exact ⟨_, _, _, _, rfl⟩

theorem beginFrame (rig : Rig σ) (operation : Operation) :
    ∃ transport speed board pending generation, (rig.begin operation).1.player =
      { rig.player with
        steps := operation.trace rig.player.steps
        transport, speed, board, pending, generation } := by
  cases operation with
  | control control =>
    cases control with
    | play =>
      simp only [begin, play]
      split
      · exact ⟨_, _, _, _, _, rfl⟩
      · split
        · rw [finishPlayer]
          exact ⟨_, _, _, _, _, rfl⟩
        · rw [bookPlayer, setTransportPlayer]
          exact ⟨_, _, _, _, _, rfl⟩
    | pause =>
      obtain ⟨_, _, _, paused⟩ := pauseFrame rig
      rw [begin, paused]
      exact ⟨_, _, _, _, _, rfl⟩
    | step =>
      simp only [begin]
      split
      · exact ⟨_, _, _, _, _, rfl⟩
      · obtain ⟨_, _, _, paused⟩ := pauseFrame rig
        obtain ⟨_, _, _, _, advanced⟩ := advanceFrame rig.pause
        rw [advanced, paused]
        exact ⟨_, _, _, _, _, rfl⟩
    | reset =>
      rw [begin, rewindPlayer]
      exact ⟨_, _, _, _, _, rfl⟩
  | load source =>
    simp only [beginLoad, rewindPlayer, loadedPlayer, compileTrace, Operation.trace]
    exact ⟨_, _, _, _, _, rfl⟩
  | setSpeed speed => exact ⟨_, _, _, _, _, rfl⟩
  | tick generation =>
    simp only [begin]
    split
    · exact ⟨_, _, _, _, _, rfl⟩
    · obtain ⟨_, _, _, _, advanced⟩ := advanceFrame rig.taken
      exact ⟨_, _, _, _, _, advanced⟩

theorem settleFrame (rig : Rig σ) (owed : Owed) : ∃ transport pending,
    (rig.settle owed).player = { rig.player with transport, pending } := by
  cases owed with
  | nothing => exact ⟨_, _, rfl⟩
  | settle =>
    simp only [settle]
    split
    · rw [setTransportPlayer]
      exact ⟨_, _, rfl⟩
    · exact ⟨_, _, rfl⟩
  | rebook =>
    simp only [settle]
    split
    · rw [bookPlayer]
      exact ⟨_, _, rfl⟩
    · exact ⟨_, _, rfl⟩

end Rig

namespace Stage

def start (steps : List Step) (settings : Settings) (scheduler : σ) : Stage σ :=
  { rig := Rig.start steps settings scheduler }

variable [Scheduler σ]

def after (stage : Stage σ) : Event σ → Stage σ
  | .move move => stage.step move
  | .drift scheduler => { stage with rig := { stage.rig with scheduler } }

def through (stage : Stage σ) (events : List (Event σ)) : Stage σ := events.foldl after stage

/- All that one event can do to the rig. An operation may find no listener to tell, and then pays at
once what it owes. -/
inductive Turn (rig : Rig σ) : Event σ → Rig σ → Prop where
  | begun (operation : Operation) : Turn rig (.move (.call operation)) (rig.begin operation).1
  | paid {operation : Operation} {owed : Owed} (told : (rig.begin operation).2 = some owed) :
      Turn rig (.move (.call operation)) ((rig.begin operation).1.settle owed)
  | settled (owed : Owed) : Turn rig (.move .returned) (rig.settle owed)
  | listening (event : Event σ) (listeners : List String) :
      Turn rig event { rig with player := { rig.player with listeners } }
  | drifted (scheduler : σ) : Turn rig (.drift scheduler) { rig with scheduler }

theorem tellRig (stage : Stage σ) (picture : Board) (owed : Owed) (listeners : List String) :
    (stage.tell picture owed listeners).rig = stage.rig ∨
    (stage.tell picture owed listeners).rig = stage.rig.settle owed := by
  cases listeners with
  | nil => exact Or.inr rfl
  | cons listener waiting => exact Or.inl rfl

theorem afterTurn (stage : Stage σ) (event : Event σ) :
    Turn stage.rig event (stage.after event).rig := by
  have still (event : Event σ) : Turn stage.rig event stage.rig :=
    .listening event stage.rig.player.listeners
  cases event with
  | drift scheduler => exact .drifted scheduler
  | move move =>
    cases move with
    | subscribe listener => exact .listening _ _
    | unsubscribe listener => exact .listening _ _
    | failed => exact still _
    | returned =>
      simp only [after, step]
      split
      · exact still _
      · rename_i activation stack _
        rcases tellRig { stage with stack } activation.picture activation.owed activation.waiting
          with same | paid
        · rw [same]; exact still _
        · rw [paid]; exact .settled _
    | call operation =>
      have begun : Turn stage.rig (.move (.call operation)) (stage.rig.begin operation).1 :=
        .begun operation
      have paid (owed : Owed) (told : (stage.rig.begin operation).2 = some owed) :
          Turn stage.rig (.move (.call operation)) ((stage.rig.begin operation).1.settle owed) :=
        .paid told
      simp only [after, step]
      split
      · rename_i rig quiet
        rw [quiet] at begun
        exact begun
      · rename_i rig owed told
        rw [told] at begun paid
        rcases tellRig { stage with rig } rig.player.board owed rig.player.listeners
          with same | settled
        · rw [same]; exact begun
        · rw [settled]; exact paid owed rfl

end Stage
end LoopPlayer
