import LoopPlayer.Proofs.Draining

/-! Timing. While a player plays, one timer waits, and none waits otherwise. When it is due was
settled when it was made, by the clock and the speed of that moment; what is done to the speed later
concerns later timers. -/
namespace LoopPlayer

inductive Use where
  | order (order : Order)
  | advance (ms : Int)
  | runDue
  | runNext
  deriving DecidableEq, Repr

structure Moment where
  rig : Rig (Timers Nat)
  operation : Operation

def Order.operation? : Order → Option Operation
  | .control asked => some (.control asked)
  | .load source => some (.load source)
  | .setSpeed speed => some (.setSpeed speed)
  | .subscribe _ => none
  | .unsubscribe _ => none

namespace Moment

def after (moment : Moment) : Rig (Timers Nat) := (moment.rig.perform moment.operation).1

def makesTimer (moment : Moment) : Bool :=
  moment.rig.scheduler.made < moment.after.scheduler.made

def latest (moments : List Moment) : Option Moment := (moments.filter makesTimer).getLast?

structure Makes (settings : Settings) (moment : Moment) (timer : Timer Nat) : Prop where
  serial : moment.after.scheduler.made = timer.serial
  operation : moment.operation = .control .play ∨ ∃ generation, moment.operation = .tick generation
  due : timer.due = moment.rig.scheduler.now + settings.interval moment.rig.player.speed

theorem latestMade {moments : List Moment} {moment : Moment} (makes : moment.makesTimer = true) :
    latest (moments ++ [moment]) = some moment := by
  rw [latest, List.filter_append, List.filter_cons_of_pos makes]
  exact List.getLast?_concat

theorem latestElse {moments : List Moment} {moment : Moment}
    (same : moment.after.scheduler.made = moment.rig.scheduler.made) :
    latest (moments ++ [moment]) = latest moments := by
  have none : ¬ moment.makesTimer = true := by simp [makesTimer, same]
  rw [latest, List.filter_append, List.filter_cons_of_neg none, List.filter_nil, List.append_nil]
  rfl

end Moment

namespace Rig

def dueMoments : Nat → Rig (Timers Nat) → List Moment
  | 0, _ => []
  | fuel + 1, rig =>
    match rig.scheduler.takeDue with
    | (none, _) => []
    | (some timer, scheduler) =>
      let moment : Moment := ⟨{ rig with scheduler }, .tick timer.action⟩
      moment :: dueMoments fuel moment.after

def runDueMoments (rig : Rig (Timers Nat)) : List Moment :=
  dueMoments (rig.scheduler.queue.length + rig.player.steps.length + 1) rig

def use (rig : Rig (Timers Nat)) : Use → Rig (Timers Nat)
  | .order order => rig.heed order
  | .advance ms =>
    match rig.scheduler.advance ms with
    | .ok scheduler => { rig with scheduler }
    | .error _ => rig
  | .runDue => rig.runDue.rig
  | .runNext => rig.runNext.rig

def useMoments (rig : Rig (Timers Nat)) : Use → List Moment
  | .order order => order.operation?.toList.map (⟨rig, ·⟩)
  | .advance _ => []
  | .runDue => rig.runDueMoments
  | .runNext =>
    match rig.scheduler.jump? with
    | some scheduler => runDueMoments { rig with scheduler }
    | none => []

def usedBy (rig : Rig (Timers Nat)) (uses : List Use) : Rig (Timers Nat) := uses.foldl use rig

def moments (rig : Rig (Timers Nat)) : List Use → List Moment
  | [] => []
  | use :: rest => rig.useMoments use ++ (rig.use use).moments rest

def Held (rig : Rig (Timers Nat)) : Prop :=
  ∀ timer ∈ rig.scheduler.waiting, rig.player.pending = some timer.serial

structure Quiet (rig : Rig (Timers Nat)) : Prop where
  pending : rig.player.pending = none
  waiting : rig.scheduler.waiting = []

structure Paced (before after : Rig (Timers Nat)) : Prop where
  now : after.scheduler.now = before.scheduler.now
  made : after.scheduler.made = before.scheduler.made
  settings : after.player.settings = before.player.settings
  speed : after.player.speed = before.player.speed

variable {rig after : Rig (Timers Nat)}

namespace Paced

theorem trans {first next last : Rig (Timers Nat)} (early : Paced first next)
    (late : Paced next last) : Paced first last where
  now := late.now.trans early.now
  made := late.made.trans early.made
  settings := late.settings.trans early.settings
  speed := late.speed.trans early.speed

theorem setTransportPaced (rig : Rig (Timers Nat)) (transport : Transport) :
    Paced rig (rig.setTransport transport) := by
  refine ⟨?_, ?_, ?_, ?_⟩
  · rw [setTransportScheduler]
  · rw [setTransportScheduler]
  · rw [setTransportPlayer]
  · rw [setTransportPlayer]

theorem unbookPaced (rig : Rig (Timers Nat)) : Paced rig rig.unbook := by
  have clock : rig.unbook.scheduler.now = rig.scheduler.now ∧
      rig.unbook.scheduler.made = rig.scheduler.made := by
    unfold Rig.unbook
    cases rig.player.pending with
    | none => exact ⟨rfl, rfl⟩
    | some serial => exact ⟨rfl, rfl⟩
  exact ⟨clock.1, clock.2, rfl, rfl⟩

theorem finishPaced (rig : Rig (Timers Nat)) : Paced rig rig.finish :=
  (unbookPaced rig).trans (setTransportPaced _ .finished)

end Paced

theorem setTransportHalts (rig : Rig (Timers Nat)) {transport : Transport}
    (other : transport ≠ .playing) : (rig.setTransport transport).player.transport ≠ .playing := by
  rw [setTransportPlayer]
  exact other

namespace Held

theorem unbookQuiet (held : Held rig) : Quiet rig.unbook where
  pending := rfl
  waiting := by
    unfold Rig.unbook
    cases pending : rig.player.pending with
    | none =>
      refine List.eq_nil_iff_forall_not_mem.mpr fun timer waits => ?_
      exact absurd ((held timer waits).symm.trans pending) (Option.some_ne_none _)
    | some serial =>
      refine (Timers.cancelWaiting _ serial).trans (List.filter_eq_nil_iff.mpr fun timer waits => ?_)
      have same : serial = timer.serial :=
        Option.some.inj (pending.symm.trans (held timer waits))
      simp [same]

end Held

namespace Quiet

theorem quietHeld (quiet : Quiet rig) : Held rig := fun timer waits => by
  rw [quiet.waiting] at waits
  cases waits

theorem setTransportQuiet (quiet : Quiet rig) (transport : Transport) :
    Quiet (rig.setTransport transport) := by
  refine ⟨?_, ?_⟩
  · rw [setTransportPlayer]
    exact quiet.pending
  · rw [setTransportScheduler]
    exact quiet.waiting

end Quiet

inductive Left (rig : Rig (Timers Nat)) (operation : Operation) : Rig (Timers Nat) → Prop where
  | rests {after : Rig (Timers Nat)} (paced : Paced rig after) (quiet : Quiet after)
      (halted : after.player.transport ≠ .playing) : Left rig operation after
  | books {ready : Rig (Timers Nat)} (paced : Paced rig ready) (quiet : Quiet ready)
      (playing : ready.player.transport = .playing)
      (asked : operation = .control .play ∨ ∃ generation, operation = .tick generation) :
      Left rig operation ready.book

namespace Held

variable {operation : Operation}

theorem finishLeft (held : Held rig) : Left rig operation rig.finish :=
  .rests (.finishPaced rig) (held.unbookQuiet.setTransportQuiet .finished)
    (setTransportHalts _ Transport.noConfusion)

theorem rewindLeft (held : Held rig) : Left rig operation rig.rewind := by
  refine .rests ?_ ?_ (setTransportHalts _ Transport.noConfusion)
  · have cleared : Paced rig { rig.unbook with player := { rig.unbook.player with board := {} } } :=
      .trans (.unbookPaced rig) ⟨rfl, rfl, rfl, rfl⟩
    exact cleared.trans (.setTransportPaced _ .idle)
  · have cleared : Quiet { rig.unbook with player := { rig.unbook.player with board := {} } } :=
      ⟨rfl, held.unbookQuiet.waiting⟩
    exact cleared.setTransportQuiet .idle

end Held

theorem Quiet.advanceQuiet (quiet : Quiet rig) :
    Paced rig rig.advance.1 ∧ Quiet rig.advance.1 ∧
      (rig.advance.2 = true ∧ rig.advance.1.player.transport = rig.player.transport ∨
        rig.advance.1.player.transport = .finished) := by
  have ended {other : Rig (Timers Nat)} (quiet : Quiet other) :
      Quiet other.finish ∧ other.finish.player.transport = .finished :=
    ⟨quiet.quietHeld.unbookQuiet.setTransportQuiet .finished, by rw [finishPlayer]⟩
  have applied (step : Step) : Paced rig (rig.applied step) ∧ Quiet (rig.applied step) :=
    ⟨⟨rfl, rfl, rfl, rfl⟩, quiet.pending, quiet.waiting⟩
  have advanced := rig.advanceOutcome
  generalize rig.advance = result at advanced ⊢
  cases advanced with
  | exhausted none => exact ⟨.finishPaced rig, (ended quiet).1, Or.inr (ended quiet).2⟩
  | @last step next last =>
    obtain ⟨paced, still⟩ := applied step
    exact ⟨paced.trans (.finishPaced _), (ended still).1, Or.inr (ended still).2⟩
  | @more step next more =>
    obtain ⟨paced, still⟩ := applied step
    exact ⟨paced, still, Or.inl ⟨rfl, rfl⟩⟩

theorem tickLeft (waiting : rig.scheduler.waiting = []) (playing : rig.player.transport = .playing) :
    Left rig (.tick rig.player.generation) (rig.perform (.tick rig.player.generation)).1 := by
  have taken : Quiet rig.taken := ⟨rfl, waiting⟩
  have begun := beginLive playing
  obtain ⟨paced, quiet, goes⟩ := taken.advanceQuiet
  generalize rig.taken.advance = result at begun paced quiet goes
  obtain ⟨after, told⟩ := result
  have kept : Paced rig after := ⟨paced.now, paced.made, paced.settings, paced.speed⟩
  have rests (halted : after.player.transport ≠ .playing) :
      Left rig (.tick rig.player.generation) after := .rests kept quiet halted
  cases told with
  | false =>
    rw [performQuiet (congrArg Prod.snd begun), begun]
    obtain ⟨absurd, _⟩ | finished := goes
    · cases absurd
    · exact rests (by rw [finished]; exact Transport.noConfusion)
  | true =>
    rw [performTold (congrArg Prod.snd begun), begun, settle]
    by_cases goesOn : after.player.transport = .playing
    · rw [if_pos goesOn]
      exact .books kept quiet goesOn (Or.inr ⟨_, rfl⟩)
    · rw [if_neg goesOn]
      exact rests goesOn

theorem Left.pacedOnward {operation : Operation} {next : Rig (Timers Nat)} (paced : Paced rig next)
    (left : Left next operation after) : Left rig operation after := by
  cases left with
  | rests late quiet halted => exact .rests (paced.trans late) quiet halted
  | books late quiet playing asked => exact .books (paced.trans late) quiet playing asked

theorem stepLeft (unfinished : rig.player.transport ≠ .finished) (paced : Paced rig rig.pause)
    (quiet : Quiet rig.pause) (halted : rig.pause.player.transport ≠ .playing) :
    Left rig (.control .step) (rig.perform (.control .step)).1 := by
  have begun := beginStep unfinished
  obtain ⟨late, still, goes⟩ := quiet.advanceQuiet
  generalize rig.pause.advance = result at begun late still goes
  obtain ⟨after, told⟩ := result
  have kept : Paced rig after := paced.trans ⟨late.now, late.made, late.settings, late.speed⟩
  have rests : after.player.transport ≠ .playing := by
    obtain ⟨_, same⟩ | finished := goes
    · exact fun playing => halted (same.symm.trans playing)
    · rw [finished]
      exact Transport.noConfusion
  cases told with
  | false =>
    rw [performQuiet (congrArg Prod.snd begun), begun]
    exact .rests kept still rests
  | true =>
    rw [performTold (congrArg Prod.snd begun), begun, settle]
    by_cases idle : after.player.transport = .idle
    · rw [if_pos idle]
      exact .rests (kept.trans (.setTransportPaced after .paused)) (still.setTransportQuiet .paused)
        (setTransportHalts after Transport.noConfusion)
    · rw [if_neg idle]
      exact .rests kept still rests

theorem Held.loadLeft (held : Held rig) (source : String) :
    Left rig (.load source) (rig.loaded source).rewind := by
  have loaded : Paced rig (rig.loaded source) ∧ Quiet (rig.loaded source) := by
    have paced := Paced.unbookPaced rig
    have quiet := held.unbookQuiet
    unfold Rig.loaded
    generalize compile source = compiled
    exact ⟨⟨paced.now, paced.made, paced.settings, paced.speed⟩, quiet.pending, quiet.waiting⟩
  exact loaded.2.quietHeld.rewindLeft.pacedOnward loaded.1

/-- What is so of a player after any moments: it rests, or the last timer made is the one that waits,
for a tick of the present generation. -/
structure Timed (settings : Settings) (moments : List Moment) (rig : Rig (Timers Nat)) : Prop where
  placed : Placed settings rig.player
  rests : rig.player.transport ≠ .playing → Quiet rig
  plays : rig.player.transport = .playing → ∃ moment timer,
    Moment.latest moments = some moment ∧ moment.Makes settings timer ∧
      rig.scheduler.waiting = [timer] ∧ rig.player.pending = some timer.serial ∧
      timer.action = rig.player.generation

namespace Timed

variable {settings : Settings} {moments : List Moment}

theorem timedHeld (timed : Timed settings moments rig) : Held rig := by
  by_cases playing : rig.player.transport = .playing
  · obtain ⟨_, timer, _, _, waiting, pending, _⟩ := timed.plays playing
    intro other waits
    rw [waiting, List.mem_singleton] at waits
    rw [waits, pending]
  · exact (timed.rests playing).quietHeld

theorem unchangedKeeps (timed : Timed settings moments rig) (placed : Placed settings after.player)
    (waiting : after.scheduler.waiting = rig.scheduler.waiting)
    (transport : after.player.transport = rig.player.transport)
    (pending : after.player.pending = rig.player.pending)
    (generation : after.player.generation = rig.player.generation) :
    Timed settings moments after where
  placed := placed
  rests halted := by
    rw [transport] at halted
    obtain ⟨none, empty⟩ := timed.rests halted
    exact ⟨pending.trans none, waiting.trans empty⟩
  plays playing := by
    rw [transport] at playing
    rw [waiting, pending, generation]
    exact timed.plays playing

theorem leftTimed {operation : Operation} (placed : Placed settings rig.player)
    (left : Left rig operation (rig.perform operation).1) :
    Timed settings (moments ++ [⟨rig, operation⟩]) (rig.perform operation).1 := by
  have same := (performLeads rig operation).placedKept placed
  have after : (⟨rig, operation⟩ : Moment).after = (rig.perform operation).1 := rfl
  generalize (rig.perform operation).1 = result at left same after ⊢
  cases left with
  | rests paced quiet halted =>
    exact ⟨same, fun _ => quiet, fun playing => absurd playing halted⟩
  | @books ready paced quiet playing asked =>
    have made : ready.book.scheduler.made = rig.scheduler.made + 1 :=
      congrArg (· + 1) paced.made
    refine ⟨same, fun halted => absurd playing halted, fun _ => ?_⟩
    refine ⟨_, _, Moment.latestMade ?_, ?_, Timers.laterWaiting quiet.waiting _ _, rfl, rfl⟩
    · rw [Moment.makesTimer, after, made]
      exact decide_eq_true (Nat.lt_succ_self _)
    · refine ⟨?_, asked, ?_⟩
      · rw [after]
        rfl
      · show ready.scheduler.now + ready.player.settings.interval ready.player.speed = _
        rw [paced.now, paced.settings, paced.speed, placed.settings]

theorem momentAdded (timed : Timed settings moments rig) {moment : Moment}
    (same : moment.after.scheduler.made = moment.rig.scheduler.made) :
    Timed settings (moments ++ [moment]) rig :=
  ⟨timed.placed, timed.rests, by rw [Moment.latestElse same]; exact timed.plays⟩

theorem idleKeeps (timed : Timed settings moments rig) {operation : Operation}
    (idle : (rig.perform operation).1 = rig) :
    Timed settings (moments ++ [⟨rig, operation⟩]) (rig.perform operation).1 := by
  have same : (⟨rig, operation⟩ : Moment).after.scheduler.made = rig.scheduler.made := by
    rw [Moment.after, idle]
  rw [idle]
  exact timed.momentAdded same

theorem playKeeps (timed : Timed settings moments rig) :
    Timed settings (moments ++ [⟨rig, .control .play⟩]) (rig.perform (.control .play)).1 := by
  have plays : (rig.perform (.control .play)).1 = rig.play := rfl
  by_cases already : rig.player.transport = .playing ∨ rig.player.transport = .finished
  · exact timed.idleKeeps (plays.trans (if_pos already))
  · have halted : rig.player.transport ≠ .playing := fun playing => already (Or.inl playing)
    refine leftTimed timed.placed ?_
    rw [plays, play, if_neg already]
    split
    · exact timed.timedHeld.finishLeft
    · refine .books (.setTransportPaced rig .playing)
        ((timed.rests halted).setTransportQuiet .playing) ?_ (Or.inl rfl)
      rw [setTransportPlayer]

theorem pauseKeeps (timed : Timed settings moments rig) :
    Timed settings (moments ++ [⟨rig, .control .pause⟩]) (rig.perform (.control .pause)).1 := by
  have pauses : (rig.perform (.control .pause)).1 = rig.pause := rfl
  by_cases playing : rig.player.transport = .playing
  · refine leftTimed timed.placed ?_
    rw [pauses, pausePlaying playing]
    exact .rests ((Paced.unbookPaced rig).trans (.setTransportPaced _ .paused))
      (timed.timedHeld.unbookQuiet.setTransportQuiet .paused)
      (setTransportHalts _ Transport.noConfusion)
  · exact timed.idleKeeps (pauses.trans (pauseElse playing))

theorem stepKeeps (timed : Timed settings moments rig) :
    Timed settings (moments ++ [⟨rig, .control .step⟩]) (rig.perform (.control .step)).1 := by
  by_cases finished : rig.player.transport = .finished
  · have begun : rig.begin (.control .step) = (rig, none) := if_pos finished
    exact timed.idleKeeps (by rw [performQuiet (congrArg Prod.snd begun), begun])
  · refine leftTimed timed.placed ?_
    by_cases playing : rig.player.transport = .playing
    · refine stepLeft finished ?_ ?_ ?_
      all_goals rw [pausePlaying playing]
      · exact (Paced.unbookPaced rig).trans (.setTransportPaced _ .paused)
      · exact timed.timedHeld.unbookQuiet.setTransportQuiet .paused
      · exact setTransportHalts _ Transport.noConfusion
    · refine stepLeft finished ?_ ?_ ?_
      all_goals rw [pauseElse playing]
      · exact ⟨rfl, rfl, rfl, rfl⟩
      · exact timed.rests playing
      · exact playing

theorem orderKeeps (timed : Timed settings moments rig) (order : Order) :
    Timed settings (moments ++ rig.useMoments (.order order)) (rig.use (.order order)) := by
  have placed := (rig.heedLeads order).placedKept timed.placed
  cases order with
  | control control =>
    cases control with
    | play => exact timed.playKeeps
    | pause => exact timed.pauseKeeps
    | step => exact timed.stepKeeps
    | reset => exact leftTimed timed.placed timed.timedHeld.rewindLeft
  | load source => exact leftTimed timed.placed (timed.timedHeld.loadLeft source)
  | setSpeed speed =>
    have set : Timed settings moments (rig.perform (.setSpeed speed)).1 :=
      timed.unchangedKeeps placed rfl rfl rfl rfl
    exact set.momentAdded rfl
  | subscribe listener =>
    rw [useMoments, Order.operation?, Option.toList_none, List.map_nil, List.append_nil]
    exact timed.unchangedKeeps placed rfl rfl rfl rfl
  | unsubscribe listener =>
    rw [useMoments, Order.operation?, Option.toList_none, List.map_nil, List.append_nil]
    exact timed.unchangedKeeps placed rfl rfl rfl rfl

theorem clockKeeps (timed : Timed settings moments rig) {scheduler : Timers Nat}
    (waiting : scheduler.waiting = rig.scheduler.waiting) :
    Timed settings moments { rig with scheduler } :=
  timed.unchangedKeeps timed.placed waiting rfl rfl rfl

theorem tickKeeps (timed : Timed settings moments rig) {timer : Timer Nat} {scheduler : Timers Nat}
    (taken : rig.scheduler.waiting = timer :: scheduler.waiting) :
    Timed settings (moments ++ [⟨{ rig with scheduler }, .tick timer.action⟩])
      (({ rig with scheduler } : Rig (Timers Nat)).perform (.tick timer.action)).1 := by
  -- the timer that is due is the one that waits, and its tick finds what it was made for
  have playing : rig.player.transport = .playing := by
    refine Decidable.byContradiction fun halted => ?_
    rw [(timed.rests halted).waiting] at taken
    cases taken
  obtain ⟨_, only, _, _, waiting, _, generation⟩ := timed.plays playing
  rw [waiting, List.cons.injEq] at taken
  obtain ⟨rfl, empty⟩ := taken
  rw [generation]
  exact leftTimed timed.placed (tickLeft empty.symm playing)

theorem ranDue {progress : Progress} (timed : Timed settings moments progress.rig) (fuel : Nat) :
    Timed settings (moments ++ dueMoments fuel progress.rig) (runDueFrom fuel progress).rig := by
  induction fuel generalizing moments progress with
  | zero =>
    rw [dueMoments, List.append_nil]
    exact timed
  | succ fuel ih =>
    have taken := progress.rig.scheduler.takeDueTaken
    rw [dueMoments, runDueFrom]
    generalize progress.rig.scheduler.takeDue = result at taken ⊢
    cases taken with
    | settled waiting none =>
      rw [List.append_nil]
      exact timed.clockKeeps waiting
    | @found timer queue due waiting shorter =>
      let rig := { progress.rig with scheduler := { progress.rig.scheduler with queue } }
      let next := ({ progress with rig } : Progress).tick timer.action
      have ticked : Timed settings (moments ++ [⟨rig, .tick timer.action⟩]) next.rig :=
        timed.tickKeeps waiting
      have ran := ih ticked
      rw [List.append_assoc] at ran
      exact ran

theorem ranAllDue (timed : Timed settings moments rig) :
    Timed settings (moments ++ rig.runDueMoments) rig.runDue.rig := by
  let progress : Progress := { rig }
  have kept : Timed settings moments progress.rig := timed
  exact kept.ranDue _

theorem useKeeps (timed : Timed settings moments rig) (use : Use) :
    Timed settings (moments ++ rig.useMoments use) (rig.use use) := by
  cases use with
  | order order => exact timed.orderKeeps order
  | advance ms =>
    rw [useMoments, List.append_nil, Rig.use]
    unfold Timers.advance
    by_cases backwards : ms < 0
    · rw [if_pos backwards]
      exact timed
    · rw [if_neg backwards]
      exact timed.clockKeeps rfl
  | runDue => exact timed.ranAllDue
  | runNext =>
    rw [useMoments, Rig.use, Rig.runNext]
    cases jump : rig.scheduler.jump? with
    | none =>
      rw [List.append_nil]
      exact timed.clockKeeps (Timers.dropWaiting _)
    | some scheduler => exact (timed.clockKeeps (Timers.jumpWaiting jump)).ranAllDue

theorem usedBy (timed : Timed settings moments rig) (uses : List Use) :
    Timed settings (moments ++ rig.moments uses) (rig.usedBy uses) := by
  induction uses generalizing rig moments with
  | nil =>
    rw [Rig.moments, List.append_nil]
    exact timed
  | cons use rest ih =>
    rw [Rig.moments, ← List.append_assoc]
    exact ih (timed.useKeeps use)

theorem startTimed (steps : List Step) (settings : Settings) (now : Int) (made : Nat) :
    Timed settings [] (Rig.start steps settings ({ now, made } : Timers Nat)) where
  placed := .startPlaced steps settings
  rests _ := ⟨rfl, rfl⟩
  plays playing := nomatch playing

end Timed

/-- Whatever is asked of a player on timers and however its clock is moved, with listeners that only
look on, one timer waits afterwards if it plays and none otherwise. The last play or tick that made a
timer made this one, and it is due as long after the clock of that moment as the speed of that moment
said. A change of speed moves nothing, and what is run is run until nothing is due. -/
theorem tickTiming (steps : List Step) (settings : Settings) (now : Int) (made : Nat)
    (uses : List Use) :
    let first := Rig.start steps settings ({ now, made } : Timers Nat)
    let rig := first.usedBy uses
    rig.scheduler.pending = (if rig.player.transport = .playing then 1 else 0) ∧
    (∀ timer ∈ rig.scheduler.queue, timer.live = true →
      ∃ moment, Moment.latest (first.moments uses) = some moment ∧ moment.Makes settings timer) ∧
    (∀ speed, (rig.use (.order (.setSpeed speed))).scheduler = rig.scheduler) ∧
    (rig.use .runDue).scheduler.takeDue.1 = none ∧ (rig.use .runNext).scheduler.takeDue.1 = none := by
  intro first rig
  have timed : Timed settings (first.moments uses) rig :=
    (Timed.startTimed steps settings now made).usedBy uses
  refine ⟨?_, ?_, fun _ => rfl, runDueSettles timed.placed, runNextSettles timed.placed⟩
  · rw [Timers.pendingWaiting]
    split
    · rename_i playing
      obtain ⟨_, _, _, _, waiting, _⟩ := timed.plays playing
      rw [waiting, List.length_singleton]
    · rename_i halted
      rw [(timed.rests halted).waiting, List.length_nil]
  · intro timer member live
    have waits : timer ∈ rig.scheduler.waiting := List.mem_filter.mpr ⟨member, live⟩
    have playing : rig.player.transport = .playing := by
      refine Decidable.byContradiction fun halted => ?_
      rw [(timed.rests halted).waiting] at waits
      cases waits
    obtain ⟨moment, only, latest, makes, waiting, _⟩ := timed.plays playing
    rw [waiting, List.mem_singleton] at waits
    exact ⟨moment, latest, waits ▸ makes⟩

example :
    let steps := [1, 2, 3].map fun n => ⟨n, n, "code", "a", "note", .callStack, 1, .execute, none⟩
    let faster := (Rig.start steps {} ({} : Timers Nat)).usedBy
      [.order (.control .play), .order (.setSpeed 5)]
    faster.scheduler.waiting = [⟨1000, 1, 0, true⟩] ∧
      (faster.usedBy [.advance 1500, .runDue]).scheduler.waiting = [⟨1700, 2, 0, true⟩] := by decide

end Rig
end LoopPlayer
