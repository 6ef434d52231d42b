import LoopPlayer.Proofs.Conservation

/-! The jump of the clock to the next timer. It leads to the first timer that waits, whatever was
cancelled before it, and that one starts at once. So while nothing else moves the clock, no timer
that waits is ever overdue, and every callback runs at the time at which it is due. -/
namespace LoopPlayer.Timers

variable {α : Type}

theorem waitingFirst {timers : Timers α} (ordered : timers.queue.Pairwise fun a b => a.precedes b)
    {first : Timer α} {others : List (Timer α)} (waiting : timers.waiting = first :: others) :
    ∀ other ∈ others, first.precedes other := by
  have inOrder : timers.waiting.Pairwise fun a b => a.precedes b :=
    ordered.sublist List.filter_sublist
  rw [waiting] at inOrder
  exact fun other member => List.rel_of_pairwise_cons inOrder member

namespace Machine

theorem runNextStarts {machine : Machine α} {first : Timer α} {others : List (Timer α)}
    (waiting : machine.timers.waiting = first :: others) :
    ∃ rest, rest.filter Timer.live = others ∧ machine.step .runNext =
      { machine with
        timers := { machine.timers with now := max machine.timers.now first.due, queue := rest }
        loops := ⟨0, first⟩ :: machine.loops
        started := machine.started ++ [(first, max machine.timers.now first.due)] } := by
  obtain ⟨dead, rest, queue, allDead, live, behind⟩ := List.filter_eq_cons_iff.mp waiting
  have front : machine.timers.queue.dropWhile (!·.live) = first :: rest := by
    rw [queue, List.dropWhile_append_of_pos (fun timer member => by simpa using allDead timer member),
      List.dropWhile_cons_of_neg (by simp [live])]
  have due : first.due ≤ max machine.timers.now first.due := Int.le_max_right _ _
  refine ⟨rest, behind, ?_⟩
  simp only [step, jump?, front, resume, takeDue, splitDue, if_pos due, if_pos live]

theorem runNextIdle {machine : Machine α} (none : machine.timers.waiting = []) :
    machine.step .runNext =
      { machine with timers := { machine.timers with queue := [] }, ended := 0 } := by
  have front : machine.timers.queue.dropWhile (!·.live) = [] := by
    refine List.dropWhile_eq_nil_iff.mpr fun timer member => ?_
    simpa using List.filter_eq_nil_iff.mp none timer member
  simp only [step, jump?, front, dropCancelled]

/-- The moves of a call from where its loop was given control to where it has ended. Whatever its
callbacks do, they return; what fails under them does not reach this loop. -/
inductive Served (depth : Nat) : Machine α → List (Move α) → Prop where
  | settled {machine : Machine α} (ended : machine.loops.length = depth) : Served depth machine []
  | goesOn {machine : Machine α} {move : Move α} {moves : List (Move α)}
      (inside : depth < machine.loops.length)
      (caught : move = .failed → depth + 1 < machine.loops.length)
      (tail : Served depth (machine.step move) moves) : Served depth machine (move :: moves)

theorem resumeLoops (machine : Machine α) (returned : Nat) :
    (∃ timer, (machine.resume returned).loops = ⟨returned, timer⟩ :: machine.loops) ∨
      (machine.resume returned).loops = machine.loops ∧
        (machine.resume returned).ended = returned := by
  rw [resume]
  split
  · next timer timers _ => exact .inl ⟨timer, rfl⟩
  · exact .inr ⟨rfl, rfl⟩

theorem loopsKept {machine : Machine α} {move : Move α} (returned : move ≠ .returned)
    (failed : move ≠ .failed) : machine.loops.length ≤ (machine.step move).loops.length := by
  have moved := machine.stepMoved move
  generalize machine.step move = after at moved ⊢
  cases moved with
  | made | cancelled | clocked => exact Nat.le_refl _
  | idle => exact absurd rfl returned
  | failed => exact absurd rfl failed
  | started runs =>
    cases runs with
    | runDue | runNext => exact Nat.le_succ _
    | returned => exact absurd rfl returned
  | ended runs =>
    cases runs with
    | runDue | runNext => exact Nat.le_refl _
    | returned => exact absurd rfl returned

theorem stepEnds {machine : Machine α} {move : Move α} {depth : Nat}
    (inside : depth < machine.loops.length)
    (caught : move = .failed → depth + 1 < machine.loops.length)
    (ended : (machine.step move).loops.length = depth) : 0 < (machine.step move).ended := by
  by_cases failed : move = .failed
  · subst failed
    have deeper := caught rfl
    rw [step, List.length_tail] at ended
    omega
  by_cases returned : move = .returned
  · subst returned
    cases loops : machine.loops with
    | nil => simp [loops] at inside
    | cons loop below =>
      have resumed : machine.step .returned =
          resume { machine with loops := below } (loop.returned + 1) := by simp only [step, loops]
      rw [loops, List.length_cons] at inside
      rw [resumed] at ended ⊢
      rcases resumeLoops { machine with loops := below } (loop.returned + 1) with
        ⟨timer, goes⟩ | ⟨-, counted⟩
      · rw [goes] at ended
        exact absurd ended (Nat.ne_of_gt inside)
      · rw [counted]
        exact Nat.succ_pos _
  · have kept : machine.loops.length ≤ (machine.step move).loops.length :=
      loopsKept returned failed
    omega

theorem Served.endedPositive {depth : Nat} {machine : Machine α} {moves : List (Move α)}
    (served : Served depth machine moves) (inside : depth < machine.loops.length) :
    0 < (machine.run moves).ended := by
  induction served with
  | settled ended => exact absurd ended (Nat.ne_of_gt inside)
  | @goesOn machine move moves inside caught tail ih =>
    by_cases more : depth < (machine.step move).loops.length
    · exact ih more
    · cases tail with
      | settled ended => exact stepEnds inside caught ended
      | goesOn deeper => exact absurd deeper more

theorem servedReturning {machine : Machine α} {loop : Loop α} {below : List (Loop α)}
    (loops : machine.loops = loop :: below) :
    ∃ returns, Served below.length machine (List.replicate returns .returned) := by
  induction size : machine.timers.queue.length using Nat.strong_induction_on
    generalizing machine loop with
  | _ size ih =>
    have inside : below.length < machine.loops.length := by simp [loops]
    suffices after : ∃ returns,
        Served below.length (machine.step .returned) (List.replicate returns .returned) by
      obtain ⟨returns, served⟩ := after
      exact ⟨returns + 1, .goesOn inside nofun served⟩
    have moved := machine.stepMoved .returned
    generalize machine.step .returned = after at moved ⊢
    cases moved with
    | idle none => cases none.symm.trans loops
    | started runs passed returned queue =>
      cases runs with
      | returned own =>
        obtain ⟨-, rfl⟩ := List.cons.inj (own.symm.trans loops)
        refine ih _ ?_ rfl rfl
        simp only [← size, queue, List.length_append, List.length_cons]
        omega
    | ended runs =>
      cases runs with
      | returned own =>
        obtain ⟨-, rfl⟩ := List.cons.inj (own.symm.trans loops)
        exact ⟨0, .settled rfl⟩

structure JumpsNext (machine : Machine α) : Prop where
  idle : machine.timers.pending = 0 →
    (machine.step .runNext).timers.now = machine.timers.now ∧
    (machine.step .runNext).started = machine.started ∧
    (machine.step .runNext).loops = machine.loops ∧ (machine.step .runNext).ended = 0
  starts : machine.timers.pending ≠ 0 → ∃ first ∈ machine.timers.waiting,
    (∀ other ∈ machine.timers.waiting, other = first ∨ first.due < other.due ∨
      first.due = other.due ∧ first.serial < other.serial) ∧
    (machine.step .runNext).timers.now = max machine.timers.now first.due ∧
    (machine.step .runNext).started =
      machine.started ++ [(first, max machine.timers.now first.due)] ∧
    (machine.step .runNext).loops = ⟨0, first⟩ :: machine.loops
  result : ∀ moves, Served machine.loops.length (machine.step .runNext) moves →
    (((machine.step .runNext).run moves).ended = 0 ↔ machine.timers.pending = 0)
  ends : ∃ returns,
    Served machine.loops.length (machine.step .runNext) (List.replicate returns .returned)

theorem jumpsNext {machine : Machine α}
    (ordered : machine.timers.queue.Pairwise fun a b => a.precedes b) : JumpsNext machine := by
  have counted := pendingWaiting machine.timers
  cases waiting : machine.timers.waiting with
  | nil =>
    rw [waiting, List.length_nil] at counted
    have idle := runNextIdle waiting
    refine ⟨fun _ => by simp [idle], fun some => absurd counted some, fun moves served => ?_,
      0, .settled (by rw [idle])⟩
    rw [idle] at served ⊢
    cases served with
    | settled => exact iff_of_true rfl counted
    | goesOn inside => exact absurd inside (Nat.lt_irrefl _)
  | cons first others =>
    rw [waiting, List.length_cons] at counted
    have some : machine.timers.pending ≠ 0 := by omega
    obtain ⟨rest, -, starts⟩ := runNextStarts waiting
    have inside : machine.loops.length < (machine.step .runNext).loops.length := by simp [starts]
    refine ⟨fun none => absurd none some, fun _ => ⟨first, ?_, ?_, ?_, ?_, ?_⟩, fun moves served => ?_,
      servedReturning (by rw [starts])⟩
    · exact waiting ▸ List.mem_cons_self
    · intro other member
      rw [waiting] at member
      rcases List.mem_cons.mp member with rfl | later
      · exact .inl rfl
      · exact .inr (Timer.precedesIff.mp (waitingFirst ordered waiting other later))
    · rw [starts]
    · rw [starts]
    · rw [starts]
    · exact iff_of_false (Nat.ne_of_gt (served.endedPositive inside)) some

def Driven : Machine α → List (Move α) → Prop
  | _, [] => True
  | machine, move :: rest =>
    move.Forward ∧
      ((machine.step move).timers.now = machine.timers.now ∨
        move = .runNext ∧ machine.loops = []) ∧
      Driven (machine.step move) rest

instance [DecidableEq α] : (machine : Machine α) → (moves : List (Move α)) →
    Decidable (Driven machine moves)
  | _, [] => instDecidableTrue
  | machine, move :: rest =>
    have : Decidable (Driven (machine.step move) rest) :=
      instDecidableDrivenOfDecidableEq (machine.step move) rest
    inferInstanceAs (Decidable (_ ∧ _ ∧ _))

/-- No timer that waits is overdue, and callbacks start, and run, when they are due. -/
structure Punctual (machine : Machine α) : Prop where
  ahead : ∀ timer ∈ machine.timers.waiting, machine.timers.now ≤ timer.due
  started : ∀ start ∈ machine.started, start.2 = start.1.due
  running : ∀ loop ∈ machine.loops, machine.timers.now = loop.current.due

namespace Punctual

variable {machine : Machine α}

theorem runNextKeeps (punctual : Punctual machine) (ordered : Ordered machine)
    (outside : machine.loops = []) : Punctual (machine.step .runNext) := by
  -- no timer is overdue, so the clock moves right to the first that waits
  cases waiting : machine.timers.waiting with
  | nil =>
    rw [runNextIdle waiting]
    exact ⟨nofun, punctual.started, punctual.running⟩
  | cons first others =>
    obtain ⟨rest, behind, starts⟩ := runNextStarts waiting
    have ahead := punctual.ahead first (waiting ▸ List.mem_cons_self)
    have queue := (List.pairwise_append.mp ordered.inOrder).2.1
    rw [starts, Int.max_eq_right ahead, outside]
    refine ⟨fun timer member => ?_, fun start member => ?_, fun loop member => ?_⟩
    · have later : timer ∈ others := behind ▸ member
      have order := Timer.precedesIff.mp (waitingFirst queue waiting timer later)
      show first.due ≤ timer.due
      omega
    · rcases List.mem_append.mp member with earlier | now
      · exact punctual.started start earlier
      · rw [List.mem_singleton.mp now]
    · rw [List.mem_singleton.mp member]

theorem stepKeeps (punctual : Punctual machine) {move : Move α} (forward : move.Forward)
    (still : (machine.step move).timers.now = machine.timers.now) :
    Punctual (machine.step move) := by
  have moved := machine.stepMoved move
  generalize machine.step move = after at moved still ⊢
  cases moved with
  | made ms action =>
    refine ⟨fun timer member => ?_, punctual.started, punctual.running⟩
    obtain ⟨queued, live⟩ := List.mem_filter.mp member
    rcases insertMember.mp queued with rfl | waits
    · have forward : 0 ≤ ms := forward
      show machine.timers.now ≤ machine.timers.now + ms
      omega
    · exact punctual.ahead timer (List.mem_filter.mpr ⟨waits, live⟩)
  | cancelled serial =>
    refine ⟨fun timer member => ?_, punctual.started, punctual.running⟩
    rw [cancelWaiting] at member
    exact punctual.ahead timer (List.mem_filter.mp member).1
  | clocked passed =>
    cases still
    exact ⟨punctual.ahead, punctual.started, punctual.running⟩
  | idle => exact punctual
  | failed =>
    exact ⟨punctual.ahead, punctual.started,
      fun loop member => punctual.running loop (List.mem_of_mem_tail member)⟩
  | @started _ below dead rest timer runs now passed returned queue allDead live due =>
    cases still
    have waits := frontWaiting queue allDead
    rw [List.filter_cons_of_pos live] at waits
    have ahead := punctual.ahead timer (waits ▸ List.mem_cons_self)
    have prompt : machine.timers.now = timer.due := Int.le_antisymm ahead due
    refine ⟨fun other member => ?_, fun start member => ?_, fun loop member => ?_⟩
    · exact punctual.ahead other (waits ▸ List.mem_cons_of_mem _ member)
    · rcases List.mem_append.mp member with earlier | here
      · exact punctual.started start earlier
      · rw [List.mem_singleton.mp here]
        exact prompt
    · rcases List.mem_cons.mp member with rfl | outer
      · exact prompt
      · exact punctual.running loop (runs.belowSuffix.subset outer)
  | @ended _ below dead rest runs now passed returned queue allDead later =>
    cases still
    refine ⟨fun other member => ?_, punctual.started, fun loop member => ?_⟩
    · exact punctual.ahead other (frontWaiting queue allDead ▸ member)
    · exact punctual.running loop (runs.belowSuffix.subset member)

theorem runKeeps (punctual : Punctual machine) (ordered : Ordered machine) {moves : List (Move α)}
    (driven : Driven machine moves) : Punctual (machine.run moves) := by
  induction moves generalizing machine with
  | nil => exact punctual
  | cons move rest ih =>
    obtain ⟨forward, clock, later⟩ := driven
    refine ih ?_ (ordered.stepKeeps forward) later
    rcases clock with still | ⟨rfl, outside⟩
    · exact punctual.stepKeeps forward still
    · exact punctual.runNextKeeps ordered outside

end Punctual

/-- Whatever has been done to timers, with delays of either sign: a call for the next one does nothing
when none waits, and otherwise moves the clock to the first that waits, unless that is overdue, starts
it first, and ends with at least one callback run, as it does when these just return. In a run that is
driven by such calls alone, callbacks find the clock at the time at which they are due. -/
theorem jumpsToNext (now : Int) (moves : List (Move α)) :
    let first : Machine α := { timers := { now } }
    let machine := first.run moves
    JumpsNext machine ∧ (Driven first moves → Punctual machine) := by
  intro first machine
  have accounted : Record.Accounted (({ machine := first } : Record α).run moves) :=
    (Record.Accounted.startAccounted now).runKeeps moves
  have ordered := accounted.ordered
  rw [Record.runMachine] at ordered
  have punctual : Punctual first := ⟨nofun, nofun, nofun⟩
  have start : Ordered first := ⟨.nil, nofun, nofun⟩
  exact ⟨jumpsNext ordered, fun driven => punctual.runKeeps start driven⟩

theorem cancelledPassed :
    let moves : List (Move Nat) :=
      [.later 5 0, .later 30 1, .later 10 2, .cancel 1, .runNext, .later 0 3, .runDue, .returned,
        .returned, .runNext]
    let first : Machine Nat := { timers := { now := 0 } }
    Driven first moves ∧
    ((first.run moves).started.map fun start => (start.1.serial, start.2)) =
      [(3, 10), (4, 10), (2, 30)] ∧
    JumpsNext (first.run moves) ∧ Punctual (first.run moves) := by
  intro moves first
  have driven : Driven first moves := by decide
  have both := jumpsToNext 0 moves
  exact ⟨driven, by decide, both.1, both.2 driven⟩

end Machine
end LoopPlayer.Timers
