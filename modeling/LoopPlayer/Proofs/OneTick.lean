import LoopPlayer.Proofs.Booking

/-! How many ticks wait. A scheduler that runs each tick at most once, and none while an operation is
under way, has at most one tick of the present generation to run whenever no operation is under way,
and the player holds its handle. This fails exactly when a listener stops playback under a tick and
starts it again, for the tick then books one more without a look at what is pending. -/
namespace LoopPlayer

variable {σ : Type}

inductive Usage (σ : Type) where
  | control (control : Control)
  | load (source : String)
  | setSpeed (speed : Int)
  | subscribe (listener : String)
  | unsubscribe (listener : String)
  | returned
  | fire (index : Nat)
  | drift (inner : σ)
  deriving DecidableEq, Repr

namespace Stage

def OneTick (stage : Stage (Watched σ)) : Prop :=
  let waiting := stage.rig.scheduler.waiting stage.rig.player.generation
  waiting.length ≤ 1 ∧ ∀ booked ∈ waiting, stage.rig.player.pending = some booked.handle

variable [Scheduler σ]

def fire (stage : Stage (Watched σ)) (index : Nat) : Stage (Watched σ) :=
  match stage.rig.scheduler.booked[index]? with
  | some booked =>
    if booked.ran then stage
    else { stage with rig := stage.rig.released index }.step (.call (.tick booked.generation))
  | none => stage

def use (stage : Stage (Watched σ)) : Usage σ → Stage (Watched σ)
  | .control control => stage.step (.call (.control control))
  | .load source => stage.step (.call (.load source))
  | .setSpeed speed => stage.step (.call (.setSpeed speed))
  | .subscribe listener => stage.step (.subscribe listener)
  | .unsubscribe listener => stage.step (.unsubscribe listener)
  | .returned => stage.step .returned
  | .fire index => if stage.stack = [] then stage.fire index else stage
  | .drift inner =>
    { stage with rig := { stage.rig with scheduler := { stage.rig.scheduler with inner } } }

def uses (stage : Stage (Watched σ)) (usages : List (Usage σ)) : Stage (Watched σ) :=
  usages.foldl use stage

theorem useUnwatched (stage : Stage (Watched σ)) (usage : Usage σ) :
    ∃ events : List (Event σ), (stage.use usage).unwatched = stage.unwatched.through events := by
  have moved (stage : Stage (Watched σ)) (move : Move) :
      ∃ events : List (Event σ), (stage.step move).unwatched = stage.unwatched.through events :=
    ⟨[.move move], stepUnwatched stage move⟩
  cases usage with
  | control control => exact moved stage _
  | load source => exact moved stage _
  | setSpeed speed => exact moved stage _
  | subscribe listener => exact moved stage _
  | unsubscribe listener => exact moved stage _
  | returned => exact moved stage _
  | fire index =>
    simp only [use, fire]
    split
    · split
      · split
        · exact ⟨[], rfl⟩
        · exact moved { stage with rig := stage.rig.released index } _
      · exact ⟨[], rfl⟩
    · exact ⟨[], rfl⟩
  | drift inner => exact ⟨[.drift inner], rfl⟩

theorem usesUnwatched (stage : Stage (Watched σ)) (usages : List (Usage σ)) :
    ∃ events : List (Event σ), (stage.uses usages).unwatched = stage.unwatched.through events := by
  induction usages generalizing stage with
  | nil => exact ⟨[], rfl⟩
  | cons usage rest ih =>
    obtain ⟨first, used⟩ := useUnwatched stage usage
    obtain ⟨later, ended⟩ := ih (stage.use usage)
    refine ⟨first ++ later, ?_⟩
    calc ((stage.use usage).uses rest).unwatched
        = (stage.unwatched.through first).through later := by rw [ended, used]
      _ = stage.unwatched.through (first ++ later) := List.foldl_append.symm

/- The last listener of a tick returns to a player that plays and has a tick pending, one that a
listener got by stopping and starting playback, and the scheduler takes a second one on. -/
def Restarted (stage : Stage (Watched σ)) (usage : Usage σ) : Prop :=
  usage = .returned ∧
  (∃ activation, stage.stack = [activation] ∧ activation.waiting = [] ∧
    activation.owed = .rebook) ∧
  stage.rig.player.transport = .playing ∧ stage.rig.player.pending.isSome ∧ stage.rig.Bookable

structure Calm (stage : Stage (Watched σ)) : Prop where
  rig : stage.rig.Calm
  outer : ∀ activation ∈ stage.stack.dropLast, activation.owed ≠ .rebook

omit [Scheduler σ] in
theorem Calm.oneTick {stage : Stage (Watched σ)} (calm : Calm stage) : OneTick stage := by
  have held := calm.rig.held
  have count := congrArg List.length held
  have few := Option.length_toList_le (o := stage.rig.player.pending)
  rw [List.length_map] at count
  refine ⟨by omega, fun booked member => ?_⟩
  have mapped := List.mem_map_of_mem (f := Booked.handle) member
  rw [held, Option.mem_toList] at mapped
  exact mapped

theorem tellCalm {stage : Stage (Watched σ)} (calm : Calm stage) (picture : Board) {owed : Owed}
    (other : owed ≠ .rebook) (listeners : List String) :
    Calm (stage.tell picture owed listeners) := by
  cases listeners with
  | nil => exact ⟨Rig.settleCalm calm.rig other, calm.outer⟩
  | cons listener waiting =>
    refine ⟨calm.rig, ?_⟩
    cases stack : stage.stack with
    | nil => simp [tell, stack]
    | cons below rest =>
      have outer := calm.outer
      simp only [tell, stack, List.dropLast_cons_cons, List.mem_cons] at outer ⊢
      rintro activation (rfl | member)
      · exact other
      · exact outer activation member

theorem callCalm {stage : Stage (Watched σ)} (calm : Calm stage) {operation : Operation}
    (asked : ∀ generation, operation ≠ .tick generation) :
    Calm (stage.step (.call operation)) := by
  have begun := Rig.beginCalm calm.rig asked
  have owes := Rig.beginOwed stage.rig asked
  simp only [step]
  split
  · rename_i rig quiet
    rw [quiet] at begun
    exact ⟨begun, calm.outer⟩
  · rename_i rig owed told
    rw [told] at begun owes
    have calmRig : Calm { stage with rig } := ⟨begun, calm.outer⟩
    exact tellCalm calmRig _ (fun same => owes (congrArg some same)) _

theorem returnedCalm {stage : Stage (Watched σ)} (calm : Calm stage)
    (fair : ¬ Restarted stage .returned) : Calm (stage.step .returned) := by
  simp only [step]
  split
  · exact calm
  · rename_i activation below stack
    have outer := calm.outer
    rw [stack] at outer
    by_cases owed : activation.owed = .rebook
    -- A tick stands at the bottom of the stack, or another operation would have to be outside it.
    · have bottom : below = [] := by
        cases below with
        | nil => rfl
        | cons next rest => exact absurd owed (outer activation (by simp))
      subst bottom
      cases waiting : activation.waiting with
      | cons listener rest => exact ⟨calm.rig, by simp [tell]⟩
      | nil =>
        refine ⟨?_, by simp [tell]⟩
        simp only [tell, owed]
        exact Rig.rebookCalm calm.rig fun playing pending bookable =>
          fair ⟨rfl, ⟨activation, stack, waiting, owed⟩, playing, pending, bookable⟩
    · have calmBelow : Calm { stage with stack := below } := by
        refine ⟨calm.rig, fun other member => ?_⟩
        cases below with
        | nil => simp at member
        | cons next rest => exact outer other (List.mem_cons_of_mem _ member)
      exact tellCalm calmBelow _ owed _

theorem fireCalm {stage : Stage (Watched σ)} (calm : Calm stage) (quiet : stage.stack = [])
    (index : Nat) : Calm (stage.fire index) := by
  unfold fire
  split
  · rename_i booked found
    split
    · exact calm
    · rename_i waits
      have ticked := Rig.tickCalm calm.rig found (Bool.eq_false_iff.mpr waits)
      simp only [step]
      split
      · rename_i rig untold
        rw [untold] at ticked
        exact ⟨ticked.1, by simp [quiet]⟩
      · rename_i rig owed told
        rw [told] at ticked
        obtain ⟨rfl, unbooked⟩ := ticked.2 owed rfl
        cases listeners : rig.player.listeners with
        | nil =>
          refine ⟨Rig.rebookCalm unbooked.unbookedCalm fun _ pending => ?_, by simp [tell, quiet]⟩
          rw [unbooked.pending] at pending
          cases pending
        | cons listener waiting => exact ⟨unbooked.unbookedCalm, by simp [tell, quiet]⟩
  · exact calm

theorem useCalm {stage : Stage (Watched σ)} (calm : Calm stage) {usage : Usage σ}
    (fair : ¬ Restarted stage usage) : Calm (stage.use usage) := by
  have same (listeners : List String) : Calm (stage.setListeners listeners) :=
    ⟨⟨calm.rig.held, calm.rig.playing, calm.rig.past⟩, calm.outer⟩
  have asked (operation : Operation) (other : ∀ generation, operation ≠ .tick generation) :
      Calm (stage.step (.call operation)) := callCalm calm other
  cases usage with
  | control control => exact asked (.control control) fun _ same => by cases same
  | load source => exact asked (.load source) fun _ same => by cases same
  | setSpeed speed => exact asked (.setSpeed speed) fun _ same => by cases same
  | subscribe listener => exact same _
  | unsubscribe listener => exact same _
  | returned => exact returnedCalm calm fair
  | fire index =>
    simp only [use]
    split
    · rename_i quiet
      exact fireCalm calm quiet index
    · exact calm
  | drift inner => exact ⟨⟨calm.rig.held, calm.rig.playing, calm.rig.past⟩, calm.outer⟩

theorem restartedTwo {stage : Stage (Watched σ)} (calm : Calm stage) {usage : Usage σ}
    (restarted : Restarted stage usage) :
    (stage.use usage).stack = [] ∧ ¬ OneTick (stage.use usage) := by
  obtain ⟨rfl, ⟨activation, stack, waiting, owed⟩, playing, pending, bookable⟩ := restarted
  have used : stage.use .returned = { stage with rig := stage.rig.book, stack := [] } := by
    simp [use, step, stack, tell, waiting, owed, Rig.settle, playing]
  obtain ⟨handle, booked, _⟩ := Rig.bookTaken bookable
  obtain ⟨old, held⟩ := Option.isSome_iff_exists.mp pending
  have count := congrArg List.length calm.rig.held
  rw [List.length_map, held, Option.length_toList] at count
  rw [used]
  refine ⟨rfl, fun one => ?_⟩
  have few : (stage.rig.book.scheduler.waiting stage.rig.player.generation).length ≤ 1 := one.1
  rw [Watched.waiting, booked, List.filter_append, List.length_append] at few
  have added : (List.filter (Booked.waits stage.rig.player.generation)
      [⟨stage.rig.player.generation, handle, false⟩]).length = 1 := by simp [Booked.waits]
  have before : (List.filter (Booked.waits stage.rig.player.generation)
      stage.rig.scheduler.booked).length = 1 := count
  omega

theorem usesOneTick {stage : Stage (Watched σ)} (calm : Calm stage) (usages : List (Usage σ)) :
    (∀ before, before <+: usages → (stage.uses before).stack = [] →
      OneTick (stage.uses before)) ↔
    ∀ before usage, before ++ [usage] <+: usages → ¬ Restarted (stage.uses before) usage := by
  -- either the first use keeps one tick and leaves the rest to the induction, or it is a restart
  -- and shows at once
  induction usages generalizing stage with
  | nil =>
    constructor
    · intro _ before usage inside
      simp at inside
    · intro _ before inside _
      rw [List.prefix_nil.mp inside]
      exact calm.oneTick
  | cons usage rest ih =>
    constructor
    · intro one
      have first : ¬ Restarted stage usage := fun restarted =>
        (restartedTwo calm restarted).2 (one [usage] (by simp) (restartedTwo calm restarted).1)
      have later := (ih (useCalm calm first)).mp fun before inside =>
        one (usage :: before) (List.cons_prefix_cons.mpr ⟨rfl, inside⟩)
      intro before next inside
      cases before with
      | nil =>
        obtain ⟨rfl, _⟩ := List.cons_prefix_cons.mp inside
        exact first
      | cons head before =>
        obtain ⟨rfl, below⟩ := List.cons_prefix_cons.mp inside
        exact later before next below
    · intro fair
      have first : ¬ Restarted stage usage := fair [] usage (by simp)
      have later := (ih (useCalm calm first)).mpr fun before next inside =>
        fair (usage :: before) next (List.cons_prefix_cons.mpr ⟨rfl, inside⟩)
      intro before inside quiet
      cases before with
      | nil => exact calm.oneTick
      | cons head before =>
        obtain ⟨rfl, below⟩ := List.cons_prefix_cons.mp inside
        exact later before below quiet

omit [Scheduler σ] in
theorem startCalm (steps : List Step) (settings : Settings) (inner : σ) :
    Calm (start steps settings ({ inner } : Watched σ)) :=
  ⟨⟨rfl, fun _ => rfl, fun _ member => by cases member⟩, fun _ member => by cases member⟩

/-- Along a run whose listeners never fail, on any scheduler that runs each tick at most once, at most
one tick of the present generation waits whenever no operation is under way, and the player holds its
handle, exactly when the last listener of a tick never returns to playback that was stopped and
started again. The list of ticks only watches: without it the run is one of the scheduler's own. -/
theorem oneTickUnlessRestarted (steps : List Step) (settings : Settings) (inner : σ)
    (usages : List (Usage σ)) :
    let first : Stage (Watched σ) := start steps settings { inner }
    ((∀ before, before <+: usages → (first.uses before).stack = [] →
      OneTick (first.uses before)) ↔
    ∀ before usage, before ++ [usage] <+: usages → ¬ Restarted (first.uses before) usage) ∧
    ∃ events : List (Event σ),
      (first.uses usages).unwatched = (start steps settings inner).through events :=
  ⟨usesOneTick (startCalm steps settings inner) usages, usesUnwatched _ usages⟩

theorem restartBooksTwo :
    let steps := [1, 2, 3].map fun n => ⟨n, n, "code", "a", "note", .callStack, 1, .execute, none⟩
    let stage := (start steps {} ({ inner := {} } : Watched Ledger)).uses
      [.subscribe "a", .control .play, .fire 0, .control .pause, .control .play, .returned]
    stage.stack = [] ∧ ¬ OneTick stage := by
  intro steps stage
  have two : (stage.rig.scheduler.waiting stage.rig.player.generation).length = 2 := by decide
  refine ⟨by decide, fun one => ?_⟩
  have few := one.1
  omega

end Stage
end LoopPlayer
