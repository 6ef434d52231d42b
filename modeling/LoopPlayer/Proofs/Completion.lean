import LoopPlayer.Replay
import LoopPlayer.Proofs.Loops
import LoopPlayer.Proofs.Replay
import LoopPlayer.Proofs.Waiting

/-! Playback from the beginning to the end, on a clock that jumps from tick to tick. With a positive
interval every jump runs one tick. Otherwise each tick that is booked is due at once, so the first
jump runs them all, and the clock stays where it was. -/
namespace LoopPlayer

namespace Player

def pace (player : Player) : Int := player.settings.interval player.speed

def frames (player : Player) : List Board :=
  (List.range player.steps.length).map fun i =>
    Board.replay player.matching (player.steps.take (i + 1))

theorem framesNext {player : Player} {shown : Nat} (more : shown < player.steps.length) :
    player.frames.take shown ++ [Board.replay player.matching (player.steps.take (shown + 1))] =
      player.frames.take (shown + 1) := by
  have next : player.frames[shown]? =
      some (Board.replay player.matching (player.steps.take (shown + 1))) := by
    rw [frames, List.getElem?_map, List.getElem?_range more, Option.map_some]
  rw [List.take_add_one (l := player.frames), next, Option.toList_some]

theorem framesIndex (player : Player) :
    player.frames.map Board.index = (List.range player.steps.length).map Int.ofNat := by
  rw [frames, List.map_map]
  refine List.map_congr_left fun i member => ?_
  have inside := List.mem_range.mp member
  rw [Function.comp_apply, Board.replayIndex, List.length_take, Nat.min_eq_left inside]
  simp

def midway (player : Player) (shown : Nat) (pending : Option Nat) : Player :=
  { player with
    transport := .playing
    board := Board.replay player.matching (player.steps.take shown)
    pending }

theorem midwayNext {player : Player} {shown : Nat} (more : shown < player.steps.length)
    (pending : Option Nat) :
    (player.midway shown pending).board.index + 1 = shown ∧
      (player.midway shown pending).next? = some player.steps[shown] := by
  have index : (player.midway shown pending).board.index + 1 = shown := by
    rw [midway, Board.replayIndex, List.length_take, Nat.min_eq_left (Nat.le_of_lt more)]
    omega
  refine ⟨index, ?_⟩
  rw [next?, index]
  exact List.getElem?_eq_getElem more

end Player

namespace Rig

/- Playback of `first` with so many steps shown, and the timer of the next one. Nothing stops it on
the way, so the generation is still that of the beginning. -/
structure Underway (first : Player) (shown : Nat) (rig : Rig (Timers Nat)) : Prop where
  player : rig.player = first.midway shown (some (shown + 1))
  made : rig.scheduler.made = shown + 1
  queue : rig.scheduler.queue =
    [⟨shown * max 0 first.pace + first.pace, shown + 1, first.generation, true⟩]

structure Over (first : Player) (rig : Rig (Timers Nat)) : Prop where
  finished : rig.player.transport = .finished
  queue : rig.scheduler.queue = []
  clock : rig.scheduler.now = first.steps.length * max 0 first.pace

variable {first : Player} {shown : Nat} {rig : Rig (Timers Nat)}

theorem Underway.bookUnderway {pending : Option Nat}
    (player : rig.player = first.midway shown pending)
    (made : rig.scheduler.made = shown) (queue : rig.scheduler.queue = [])
    (clock : rig.scheduler.now = shown * max 0 first.pace) : Underway first shown rig.book where
  player := by
    rw [bookPlayer, player, ← made]
    rfl
  made := congrArg (· + 1) made
  queue := by
    simp only [Rig.book, Scheduler.later, Timers.later, queue, clock, made, player]
    rfl

theorem Over.finishOver (unbooked : rig.player.pending = none) (queue : rig.scheduler.queue = [])
    (clock : rig.scheduler.now = first.steps.length * max 0 first.pace) :
    Over first rig.finish := by
  have scheduler : rig.finish.scheduler = rig.scheduler := by
    rw [Rig.finish, setTransportScheduler, unbook, unbooked]
  refine ⟨?_, ?_, ?_⟩
  · rw [finishPlayer]
  · rw [scheduler, queue]
  · rw [scheduler, clock]

theorem Underway.tickAdvances {pending : Option Nat} (more : shown < first.steps.length)
    (player : rig.player = first.midway shown pending)
    (made : rig.scheduler.made = shown + 1) (queue : rig.scheduler.queue = [])
    (clock : rig.scheduler.now = (shown + 1 : Nat) * max 0 first.pace) :
    let after := rig.perform (.tick first.generation)
    after.2 = some (Board.replay first.matching (first.steps.take (shown + 1))) ∧
      (shown + 1 < first.steps.length ∧ Underway first (shown + 1) after.1 ∧
          after.1.scheduler.now = rig.scheduler.now ∨
        shown + 1 = first.steps.length ∧ Over first after.1) := by
  intro after
  obtain ⟨index, next⟩ := Player.midwayNext more pending
  rw [← player] at index next
  have playing : rig.player.transport = .playing := by rw [player]; rfl
  have generation : rig.player.generation = first.generation := by rw [player]; rfl
  have length : rig.player.steps.length = first.steps.length := by rw [player]; rfl
  have ticked := performTick playing next
  rw [generation] at ticked
  have shows : (rig.taken.applied first.steps[shown]).player = first.midway (shown + 1) none := by
    have replayed : Board.replay first.matching (first.steps.take (shown + 1)) =
        (Board.replay first.matching (first.steps.take shown)).apply first.matching
          first.steps[shown] :=
      Board.replayNext (List.getElem?_eq_getElem more)
    rw [appliedPlayer, taken, player, Player.midway, Player.midway, replayed]
    rfl
  have picture : after.2 = some (Board.replay first.matching (first.steps.take (shown + 1))) := by
    simp only [after, ticked, shows]
    rfl
  refine ⟨picture, ?_⟩
  by_cases last : shown + 1 = first.steps.length
  · have ended : after.1 = (rig.taken.applied first.steps[shown]).finish := by
      simp only [after, ticked]
      exact if_pos (by omega)
    rw [last] at clock
    refine Or.inr ⟨last, ?_⟩
    rw [ended]
    exact .finishOver (by rw [shows]; rfl) queue clock
  · have onward : after.1 = (rig.taken.applied first.steps[shown]).book := by
      simp only [after, ticked]
      exact if_neg (by omega)
    refine Or.inl ⟨by omega, ?_⟩
    rw [onward]
    exact ⟨.bookUnderway shows made queue clock, rfl⟩

/- Where a loop may stop: at the end, or with `least` steps shown and the clock at the last of their
ticks. The pictures of earlier jumps are those `before`. -/
inductive Reached (first : Player) (before : List Board) (least : Nat) (progress : Progress) :
    Prop where
  | underway {shown : Nat} (far : least ≤ shown) (more : shown < first.steps.length)
      (underway : Underway first shown progress.rig)
      (clock : progress.rig.scheduler.now = shown * max 0 first.pace)
      (pictures : before ++ progress.pictures = first.frames.take shown)
  | ended (ended : Over first progress.rig) (pictures : before ++ progress.pictures = first.frames)

theorem runDueSettled {progress : Progress}
    (later : ∀ timer ∈ progress.rig.scheduler.queue, progress.rig.scheduler.now < timer.due)
    (fuel : Nat) : runDueFrom (fuel + 1) progress = progress ∧ RunsDue progress progress := by
  have none := Timers.takeDueNone later
  refine ⟨?_, .settled none⟩
  rw [runDueFrom, none]

theorem Reached.reachedFewer {before : List Board} {least more : Nat} {progress : Progress}
    (reached : Reached first before more progress) (fewer : least ≤ more) :
    Reached first before least progress := by
  cases reached with
  | underway far more underway clock pictures =>
    exact .underway (Nat.le_trans fewer far) more underway clock pictures
  | ended ended pictures => exact .ended ended pictures

structure Ticked (first : Player) (shown : Nat) (progress next : Progress) : Prop where
  ran : ∀ fuel, runDueFrom (fuel + 1) progress = runDueFrom fuel next
  heard : ∀ listener last, first.listeners = [listener] → RunsDue next last → RunsDue progress last
  pictures : next.pictures =
    progress.pictures ++ [Board.replay first.matching (first.steps.take (shown + 1))]
  turn : shown + 1 < first.steps.length ∧ Underway first (shown + 1) next.rig ∧
      next.rig.scheduler.now = progress.rig.scheduler.now ∨
    shown + 1 = first.steps.length ∧ Over first next.rig

theorem Underway.tickTicked {progress : Progress} (underway : Underway first shown progress.rig)
    (more : shown < first.steps.length)
    (clock : progress.rig.scheduler.now = (shown + 1 : Nat) * max 0 first.pace) :
    ∃ next, Ticked first shown progress next := by
  have due : shown * max 0 first.pace + first.pace ≤ progress.rig.scheduler.now := by
    rw [clock, Int.natCast_add, Int.add_mul]
    omega
  have found := Timers.takeDueAlone underway.queue rfl due
  let rig : Rig (Timers Nat) :=
    { progress.rig with scheduler := { progress.rig.scheduler with queue := [] } }
  have player : rig.player = first.midway shown (some (shown + 1)) := underway.player
  obtain ⟨picture, turn⟩ := Underway.tickAdvances more player underway.made rfl clock
  let taken : Progress := { progress with rig }
  refine ⟨taken.tick first.generation, fun fuel => ?_, fun listener last only rest => ?_, ?_, turn⟩
  · rw [runDueFrom, found]
  · have listeners : rig.player.listeners = [listener] := by
      rw [player, ← only]
      rfl
    let counted : Progress := { taken with ran := progress.ran + 1 }
    have heard : counted.heard (.tick first.generation) = taken.tick first.generation :=
      heardPerforms counted listeners _
    refine .ran found ?_
    rw [← heard] at rest
    exact rest
  · have appended : (taken.tick first.generation).pictures =
        progress.pictures ++ (rig.perform (.tick first.generation)).2.toList := rfl
    rw [appended, picture, Option.toList_some]

theorem Underway.runDueReaches {fuel : Nat} {before : List Board} {progress : Progress}
    (underway : Underway first shown progress.rig) (more : shown < first.steps.length)
    (clock : progress.rig.scheduler.now = (shown + 1 : Nat) * max 0 first.pace)
    (pictures : before ++ progress.pictures = first.frames.take shown)
    (enough : first.steps.length < shown + fuel) :
    (∀ listener, first.listeners = [listener] → RunsDue progress (runDueFrom (fuel + 1) progress)) ∧
      Reached first before (shown + 1) (runDueFrom (fuel + 1) progress) := by
  induction fuel generalizing shown progress with
  | zero => omega
  | succ fuel ih =>
    obtain ⟨next, ticked⟩ := underway.tickTicked more clock
    have shows : before ++ next.pictures = first.frames.take (shown + 1) := by
      rw [ticked.pictures, ← List.append_assoc, pictures]
      exact Player.framesNext more
    suffices rest : (∀ listener, first.listeners = [listener] →
        RunsDue next (runDueFrom (fuel + 1) next)) ∧
          Reached first before (shown + 1) (runDueFrom (fuel + 1) next) by
      rw [ticked.ran]
      exact ⟨fun listener only => ticked.heard listener _ only (rest.1 listener only), rest.2⟩
    rcases ticked.turn with ⟨further, underway, same⟩ | ⟨all, ended⟩
    -- The tick has booked the next one: with a positive pace it is not due yet, otherwise it is.
    · rw [clock] at same
      by_cases positive : 0 < first.pace
      · have later : ∀ timer ∈ next.rig.scheduler.queue, next.rig.scheduler.now < timer.due := by
          intro timer member
          rw [underway.queue] at member
          cases List.mem_singleton.mp member
          rw [same]
          exact Int.lt_add_of_pos_right _ positive
        obtain ⟨stays, settled⟩ := runDueSettled later fuel
        rw [stays]
        exact ⟨fun _ _ => settled, .underway (Nat.le_refl _) further underway same shows⟩
      · have still : max 0 first.pace = 0 := by omega
        have clock : next.rig.scheduler.now = (shown + 1 + 1 : Nat) * max 0 first.pace := by
          rw [same, still, Int.mul_zero, Int.mul_zero]
        obtain ⟨runs, reached⟩ := ih underway further clock shows (by omega)
        exact ⟨runs, reached.reachedFewer (Nat.le_succ _)⟩
    · have none : ∀ timer ∈ next.rig.scheduler.queue, next.rig.scheduler.now < timer.due := by
        intro timer member
        rw [ended.queue] at member
        cases member
      obtain ⟨stays, settled⟩ := runDueSettled none fuel
      have everything : first.frames.take (shown + 1) = first.frames := by
        rw [all]
        exact List.take_of_length_le (by simp [Player.frames])
      rw [stays]
      exact ⟨fun _ _ => settled, .ended ended (shows.trans everything)⟩

theorem Underway.runsNext {before : List Board} (underway : Underway first shown rig)
    (more : shown < first.steps.length) (clock : rig.scheduler.now = shown * max 0 first.pace)
    (pictures : before = first.frames.take shown) :
    (∀ listener, first.listeners = [listener] → RunsNext rig rig.runNext) ∧
      Reached first before (shown + 1) rig.runNext := by
  have jump := Timers.jumpAlone underway.queue rfl
  let moved : Rig (Timers Nat) :=
    { rig with
      scheduler := { rig.scheduler with
        now := max rig.scheduler.now (shown * max 0 first.pace + first.pace) } }
  have waits : Underway first shown moved := ⟨underway.player, underway.made, underway.queue⟩
  have arrived : moved.scheduler.now = (shown + 1 : Nat) * max 0 first.pace := by
    have late : moved.scheduler.now =
        max rig.scheduler.now (shown * max 0 first.pace + first.pace) := rfl
    rw [late, clock, Int.natCast_add, Int.add_mul]
    omega
  have length : moved.scheduler.queue.length = 1 := congrArg List.length underway.queue
  have steps : moved.player.steps.length = first.steps.length :=
    congrArg (·.steps.length) underway.player
  have ran : rig.runNext = runDueFrom (first.steps.length + 1 + 1) { rig := moved } := by
    rw [runNext, jump]
    show moved.runDue = _
    rw [runDue, length, steps, Nat.add_comm 1]
  let fresh : Progress := { rig := moved }
  have none : before ++ fresh.pictures = first.frames.take shown := by
    rw [← pictures]
    exact List.append_nil before
  have fresh : Underway first shown fresh.rig := waits
  have enough : first.steps.length < shown + (first.steps.length + 1) := by omega
  obtain ⟨runs, reached⟩ := fresh.runDueReaches more arrived none enough
  rw [ran]
  exact ⟨fun listener only => .jumped jump (runs listener only), reached⟩

theorem playOutHalted {progress : Progress}
    (halted : progress.rig.player.transport ≠ .playing) (fuel : Nat) :
    playOutFrom fuel progress = progress := by
  cases fuel with
  | zero => rfl
  | succ fuel => exact if_neg fun both => halted both.1

structure PlayedOut (first : Player) (progress last : Progress) : Prop where
  heard : ∀ listener, first.listeners = [listener] → PlaysOn progress last
  ended : Over first last.rig
  pictures : last.pictures = first.frames

theorem Over.playedOut {progress : Progress} (ended : Over first progress.rig)
    (pictures : progress.pictures = first.frames) (fuel : Nat) :
    PlayedOut first progress (playOutFrom fuel progress) := by
  have halted : progress.rig.player.transport ≠ .playing := by
    rw [ended.finished]
    exact Transport.noConfusion
  rw [playOutHalted halted]
  exact ⟨fun _ _ => .stopped halted, ended, pictures⟩

theorem Underway.playedOut {fuel : Nat} {progress : Progress}
    (underway : Underway first shown progress.rig) (more : shown < first.steps.length)
    (clock : progress.rig.scheduler.now = shown * max 0 first.pace)
    (pictures : progress.pictures = first.frames.take shown)
    (enough : first.steps.length < shown + fuel) :
    PlayedOut first progress (playOutFrom fuel progress) := by
  -- Every jump shows a step at least, so there are no more jumps than steps.
  induction fuel generalizing shown progress with
  | zero => omega
  | succ fuel ih =>
    have playing : progress.rig.player.transport = .playing := by
      rw [underway.player]
      rfl
    have waits : 0 < progress.rig.scheduler.pending := by
      rw [Timers.pending, underway.queue]
      exact Nat.one_pos
    obtain ⟨runs, reached⟩ := underway.runsNext more clock pictures
    rw [playOutFrom, if_pos ⟨playing, waits⟩]
    have onward (last : Progress)
        (rest : PlayedOut first ⟨progress.rig.runNext.rig, progress.ran + progress.rig.runNext.ran,
          progress.pictures ++ progress.rig.runNext.pictures⟩ last) :
        PlayedOut first progress last :=
      ⟨fun listener only => .onward playing (runs listener only) (rest.heard listener only),
        rest.ended, rest.pictures⟩
    refine onward _ ?_
    cases reached with
    | underway far more underway clock pictures =>
      exact ih underway more clock pictures (by omega)
    | ended ended pictures =>
      let next : Progress := ⟨progress.rig.runNext.rig, progress.ran + progress.rig.runNext.ran,
        progress.pictures ++ progress.rig.runNext.pictures⟩
      have ended : Over first next.rig := ended
      exact ended.playedOut pictures fuel

structure Fresh (rig : Rig (Timers Nat)) : Prop where
  idle : rig.player.transport = .idle
  blank : rig.player.board = {}
  unbooked : rig.player.pending = none
  timers : rig.scheduler = {}

theorem Fresh.playedOut (fresh : Fresh rig) :
    PlayedOut rig.player { rig := rig.play } rig.playOut := by
  have played : rig.playOut = playOutFrom (rig.play.player.steps.length + 1) { rig := rig.play } :=
    rfl
  have still : ¬ (rig.player.transport = .playing ∨ rig.player.transport = .finished) := by
    simp [fresh.idle]
  have first : rig.player.board.index = -1 := by rw [fresh.blank]
  rw [played, play, if_neg still]
  by_cases empty : rig.player.steps.length = 0
  · rw [if_pos (by omega)]
    have ended : Over rig.player rig.finish := .finishOver fresh.unbooked (by rw [fresh.timers]) (by
      rw [fresh.timers, empty]
      simp)
    exact ended.playedOut (by simp [Player.frames, empty]) _
  · rw [if_neg (by omega)]
    have player : (rig.setTransport .playing).player =
        rig.player.midway 0 rig.player.pending := by
      have blank : Board.replay rig.player.matching (rig.player.steps.take 0) = {} := by
        rw [List.take_zero]
        rfl
      rw [setTransportPlayer, Player.midway, blank, ← fresh.blank]
    have underway : Underway rig.player 0 (rig.setTransport .playing).book := by
      refine .bookUnderway player ?_ ?_ ?_ <;> rw [setTransportScheduler, fresh.timers]
      simp
    have length : (rig.setTransport .playing).book.player.steps.length = rig.player.steps.length :=
      congrArg (·.steps.length) underway.player
    refine underway.playedOut (by omega) ?_ ?_ (by omega)
    · have same : (rig.setTransport .playing).book.scheduler.now =
          (rig.setTransport .playing).scheduler.now := rfl
      simp [same, setTransportScheduler, fresh.timers]
    · rfl

/-- The end of playback: every step was shown once and in order, nothing is pending, and the clock
has counted the intervals. -/
structure Completed (count : Nat) (interval : Int) (pictures : List Board)
    (rig : Rig (Timers Nat)) : Prop where
  finished : rig.player.transport = .finished
  shown : pictures.map Board.index = (List.range count).map Int.ofNat
  waiting : rig.scheduler.pending = 0
  clock : rig.scheduler.now = count * max 0 interval

theorem PlayedOut.playedOutCompletes {progress last : Progress}
    (played : PlayedOut first progress last) :
    Completed first.steps.length first.pace last.pictures last.rig where
  finished := played.ended.finished
  shown := by rw [played.pictures, Player.framesIndex]
  waiting := by rw [Timers.pending, played.ended.queue, List.countP_nil]
  clock := played.ended.clock

theorem Completed.noteKeeps {count : Nat} {interval : Int} {pictures : List Board}
    (completed : Completed count interval pictures rig) (notice : Notice) :
    Completed count interval pictures (rig.note notice) :=
  ⟨completed.finished, completed.shown, completed.waiting, completed.clock⟩

theorem startPlays {opened : Rig (Timers Nat)} {steps : List Step} {settings : Settings}
    {speed : Int} {notices : List Notice}
    (start : opened = ⟨{ Player.start steps settings with speed }, {}, notices⟩)
    (listener : String) :
    let rig := opened.heed (.subscribe listener)
    (∀ last, PlaysOn (Progress.heard { rig } (.control .play)) last ↔ last = rig.playOut) ∧
      rig.playOut.pictures = opened.playOut.pictures ∧
      Completed steps.length (settings.interval speed) rig.playOut.pictures rig.playOut.rig ∧
      Completed steps.length (settings.interval speed) opened.playOut.pictures
        opened.playOut.rig := by
  subst start
  let opened : Rig (Timers Nat) := ⟨{ Player.start steps settings with speed }, {}, notices⟩
  have alone : Fresh opened := ⟨rfl, rfl, rfl, rfl⟩
  have fresh : Fresh (opened.heed (.subscribe listener)) := ⟨rfl, rfl, rfl, rfl⟩
  have played := fresh.playedOut
  have unheard := alone.playedOut
  have plays := played.heard listener rfl
  exact ⟨fun last => ⟨fun other => other.playsOnUnique plays, fun same => same ▸ plays⟩,
    played.pictures.trans unheard.pictures.symm, played.playedOutCompletes,
    unheard.playedOutCompletes⟩

theorem replayOpened (source : String) (settings : Settings) (speed : Int) : ∃ notices,
    (((ofSource source settings {} : Rig (Timers Nat)).perform (.setSpeed speed)).1) =
      ⟨{ Player.start (traceOf source) settings with speed := settings.clampSpeed speed }, {},
        notices⟩ := by
  simp only [ofSource, compile, traceOf, perform, begin, note, start, Player.start]
  exact ⟨_, rfl⟩

theorem recordPlays (source : String) (speed : Int) :
    let opened : Rig (Timers Nat) := ((ofSource source {} {}).perform (.setSpeed speed)).1
    (Replay.record source speed).frames = opened.playOut.pictures ∧
      ∃ notice, (Replay.record source speed).rig = opened.playOut.rig.note notice := by
  simp only [Replay.record]
  exact ⟨trivial, _, rfl⟩

/-- Playback by jumps of the clock comes to its end, be the interval positive or not. A listener
gets one picture for every step, in their order; then nothing is pending, and the clock has counted
the intervals. So it is with every replay, at every speed. -/
theorem playsToCompletion (listener : String) :
    (∀ (steps : List Step) (settings : Settings),
      let rig := (start steps settings {}).heed (.subscribe listener)
      (∀ last, PlaysOn (Progress.heard { rig } (.control .play)) last ↔ last = rig.playOut) ∧
        Completed steps.length (settings.interval (settings.clampSpeed settings.speed))
          rig.playOut.pictures rig.playOut.rig) ∧
    ∀ (source : String) (speed : Int),
      let settings : Settings := {}
      let opened : Rig (Timers Nat) := ((ofSource source settings {}).perform (.setSpeed speed)).1
      let rig := opened.heed (.subscribe listener)
      let recording := Replay.record source speed
      (∀ last, PlaysOn (Progress.heard { rig } (.control .play)) last ↔ last = rig.playOut) ∧
        rig.playOut.pictures = recording.frames ∧
        Completed (traceOf source).length (settings.interval (settings.clampSpeed speed))
          recording.frames recording.rig := by
  refine ⟨fun steps settings => ?_, fun source speed => ?_⟩
  · have opened : (start steps settings {} : Rig (Timers Nat)) =
      ⟨{ Player.start steps settings with speed := settings.clampSpeed settings.speed }, {}, []⟩ :=
      rfl
    obtain ⟨plays, _, completed, _⟩ := startPlays opened listener
    exact ⟨plays, completed⟩
  · intro settings opened rig recording
    obtain ⟨notices, same⟩ := replayOpened source settings speed
    obtain ⟨frames, notice, ended⟩ := recordPlays source speed
    obtain ⟨plays, pictures, _, completed⟩ := startPlays same listener
    refine ⟨plays, pictures.trans frames.symm, ?_⟩
    have shown : recording.frames = opened.playOut.pictures := frames
    have noted : recording.rig = opened.playOut.rig.note notice := ended
    rw [shown, noted]
    exact completed.noteKeeps notice

end Rig
end LoopPlayer
