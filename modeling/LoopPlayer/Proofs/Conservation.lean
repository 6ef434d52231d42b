import LoopPlayer.Proofs.TimerMoves
import LoopPlayer.Proofs.Waiting

/-! No callback is lost, repeated or brought back. Every timer that was made is in one of three
places: it was started, it was cancelled before that, or it waits in the queue as it was made. What
callbacks do takes timers from the queue to the other two places and never back, and a callback that
fails moves none but its own. -/
namespace LoopPlayer.Timers
open scoped List

variable {α : Type}

theorem insertPerm (timer : Timer α) (queue : List (Timer α)) :
    insert timer queue ~ timer :: queue := by
  induction queue with
  | nil => exact .refl _
  | cons head rest ih =>
    rw [insert]
    split
    · exact .refl _
    · exact (ih.cons head).trans (.swap timer head rest)

def revived (timer : Timer α) : Timer α := { timer with live := true }

theorem revivedLive {timer : Timer α} (live : timer.live = true) : revived timer = timer := by
  rw [revived, ← live]

theorem frontWaiting {timers : Timers α} {dead rest : List (Timer α)}
    (queue : timers.queue = dead ++ rest) (allDead : ∀ timer ∈ dead, timer.live = false) :
    timers.waiting = rest.filter Timer.live := by
  have none : dead.filter Timer.live = [] :=
    List.filter_eq_nil_iff.mpr fun timer member => by simp [allDead timer member]
  rw [waiting, queue, List.filter_append, none, List.nil_append]

theorem cancelInOrder {timers : Timers α} (ordered : timers.queue.Pairwise fun a b => a.precedes b)
    (serial : Nat) : (timers.cancel serial).queue.Pairwise fun a b => a.precedes b := by
  refine ordered.map _ fun a b precedes => ?_
  rw [Timer.precedesIff] at precedes ⊢
  split <;> split <;> exact precedes

namespace Machine

def startedTimers (machine : Machine α) : List (Timer α) := machine.started.map Prod.fst

def popped (machine after : Machine α) : List (Timer α) :=
  machine.timers.queue.take (machine.timers.queue.length - after.timers.queue.length)

def startsIn (machine after : Machine α) : Bool := machine.started.length < after.started.length

def Ends (machine : Machine α) (move : Move α) : Prop :=
  (∃ below, Runs machine move below) ∧ machine.startsIn (machine.step move) = false

theorem dueTimerStarts {machine : Machine α} {move : Move α} {below : List (Loop α)}
    (runs : Runs machine move below)
    (ordered : machine.timers.queue.Pairwise fun a b => a.precedes b) {timer : Timer α}
    (waits : timer ∈ machine.timers.waiting) (due : timer.due ≤ machine.timers.now) :
    ∃ returns, timer ∈
      ((machine.step move).run (List.replicate returns .returned)).startedTimers := by
  -- every callback that returns leaves a shorter queue to the loop
  obtain ⟨length, bound⟩ : ∃ length, machine.timers.queue.length ≤ length := ⟨_, Nat.le_refl _⟩
  induction length generalizing machine move below with
  | zero =>
    rw [waiting, List.length_eq_zero_iff.mp (Nat.le_zero.mp bound)] at waits
    cases waits
  | succ length ih =>
    have moved := machine.stepMoved move
    generalize machine.step move = after at moved ⊢
    cases moved with
    | made | cancelled | clocked | failed => cases runs
    | idle none =>
      cases runs with
      | returned loops => cases none.symm.trans loops
    | @started _ outer dead rest first inControl now passed returned queue allDead live firstDue =>
      rw [frontWaiting queue allDead, List.filter_cons_of_pos live] at waits
      rcases List.mem_cons.mp waits with rfl | later
      · exact ⟨0, List.mem_map.mpr ⟨(timer, now), List.mem_append_right _ (by simp), rfl⟩⟩
      · rw [queue] at ordered bound
        simp only [List.length_append, List.length_cons] at bound
        let next : Machine α :=
          { machine with
            timers := { machine.timers with now, queue := rest }
            loops := ⟨returned, first⟩ :: outer
            started := machine.started ++ [(first, now)] }
        have goes : Runs next .returned outer := .returned rfl
        have inOrder := (List.pairwise_append.mp ordered).2.1.of_cons
        obtain ⟨returns, started⟩ := ih goes inOrder later (Int.le_trans due passed) (by
          show rest.length ≤ length
          omega)
        exact ⟨returns + 1, started⟩
    | @ended _ outer dead rest inControl now passed returned queue allDead later =>
      rw [frontWaiting queue allDead] at waits
      have early := later ordered timer (List.mem_filter.mp waits).1
      omega

end Machine

/-- A machine with an account of its run: every timer as it was made, those that were cancelled
before they were started, and for each open loop, the innermost first, what it has taken off the
queue. -/
structure Record (α : Type) where
  machine : Machine α := {}
  made : List (Timer α) := []
  withdrawn : List (Timer α) := []
  taken : List (List (Timer α)) := []

namespace Record

def makes (record : Record α) : Move α → List (Timer α)
  | .later ms action =>
    [⟨record.machine.timers.now + ms, record.machine.timers.made + 1, action, true⟩]
  | _ => []

def withdraws (record : Record α) : Move α → List (Timer α)
  | .cancel serial =>
    record.made.filter fun timer => timer.serial == serial &&
      !((record.machine.startedTimers ++ record.withdrawn).map Timer.serial).contains serial
  | _ => []

def takes (record : Record α) (move : Move α) (after : Machine α) : List (List (Timer α)) :=
  let going (before : List (Timer α)) (outer : List (List (Timer α))) :=
    if record.machine.startsIn after then (before ++ record.machine.popped after) :: outer else outer
  match move with
  | .runDue => going [] record.taken
  | .runNext => going [] record.taken
  | .returned => going (record.taken.headD []) record.taken.tail
  | .failed => record.taken.tail
  | _ => record.taken

def entered (record : Record α) (move : Move α) (after : Machine α) : Record α where
  machine := after
  made := record.made ++ record.makes move
  withdrawn := record.withdrawn ++ record.withdraws move
  taken := record.takes move after

def step (record : Record α) (move : Move α) : Record α :=
  record.entered move (record.machine.step move)

def run (record : Record α) (moves : List (Move α)) : Record α := moves.foldl step record

structure Accounted (record : Record α) : Prop where
  ordered : record.machine.timers.queue.Pairwise fun a b => a.precedes b
  numbered : record.made.map Timer.serial = List.range' 1 record.machine.timers.made
  shared : record.machine.startedTimers ++ record.withdrawn ++ record.machine.timers.waiting ~
    record.made
  dead : ∀ timer ∈ record.machine.timers.queue, timer.live = false →
    revived timer ∈ record.withdrawn
  taken : record.taken.map List.getLast? = record.machine.loops.map fun loop => some loop.current
  running : ∀ loop ∈ record.machine.loops, loop.current ∈ record.machine.startedTimers

namespace Accounted

variable {record : Record α}

theorem serialsDistinct (accounted : Accounted record) :
    ((record.machine.startedTimers ++ record.withdrawn ++ record.machine.timers.waiting).map
      Timer.serial).Nodup := by
  rw [(accounted.shared.map Timer.serial).nodup_iff, accounted.numbered]
  exact List.nodup_range'

theorem queuedMade (accounted : Accounted record) {timer : Timer α}
    (member : timer ∈ record.machine.timers.queue) : revived timer ∈ record.made := by
  refine accounted.shared.subset ?_
  cases live : timer.live with
  | false =>
    exact List.mem_append_left _ (List.mem_append_right _ (accounted.dead timer member live))
  | true =>
    rw [revivedLive live]
    exact List.mem_append_right _ (List.mem_filter.mpr ⟨member, live⟩)

theorem queuedBound (accounted : Accounted record) {timer : Timer α}
    (member : timer ∈ record.machine.timers.queue) :
    timer.serial ≤ record.machine.timers.made := by
  have listed : timer.serial ∈ record.made.map Timer.serial :=
    List.mem_map.mpr ⟨revived timer, accounted.queuedMade member, rfl⟩
  rw [accounted.numbered, List.mem_range'_1] at listed
  omega

theorem withdrawsWaiting (accounted : Accounted record) (serial : Nat) :
    record.withdraws (.cancel serial) ~
      record.machine.timers.waiting.filter (·.serial == serial) := by
  let gone := (record.machine.startedTimers ++ record.withdrawn).map Timer.serial
  let fresh (timer : Timer α) : Bool := timer.serial == serial && !gone.contains serial
  have apart := accounted.serialsDistinct
  rw [List.map_append, List.nodup_append] at apart
  have settled : (record.machine.startedTimers ++ record.withdrawn).filter fresh = [] := by
    refine List.filter_eq_nil_iff.mpr fun timer member same => ?_
    simp only [fresh, Bool.and_eq_true, beq_iff_eq, Bool.not_eq_true', ← Bool.not_eq_true,
      List.contains_iff_mem] at same
    exact same.2 (same.1 ▸ List.mem_map_of_mem member)
  have waits : record.machine.timers.waiting.filter fresh =
      record.machine.timers.waiting.filter (·.serial == serial) := by
    refine List.filter_congr fun timer member => ?_
    by_cases same : timer.serial = serial
    · have absent : serial ∉ gone := fun listed =>
        apart.2.2 _ listed _ (List.mem_map_of_mem member) same.symm
      simp [fresh, same, absent]
    · simp [fresh, same]
  calc record.withdraws (.cancel serial)
      ~ (record.machine.startedTimers ++ record.withdrawn ++ record.machine.timers.waiting).filter
          fresh := (accounted.shared.filter fresh).symm
    _ = record.machine.timers.waiting.filter (·.serial == serial) := by
        rw [List.filter_append, settled, List.nil_append, waits]

theorem laterKeeps (accounted : Accounted record) (ms : Int) (action : α) :
    Accounted (record.entered (.later ms action)
      { record.machine with timers := record.machine.timers.later ms action }) := by
  let timer : Timer α :=
    ⟨record.machine.timers.now + ms, record.machine.timers.made + 1, action, true⟩
  have waiting : (record.machine.timers.later ms action).waiting ~
      timer :: record.machine.timers.waiting :=
    (insertPerm timer record.machine.timers.queue).filter Timer.live
  refine ⟨?_, ?_, ?_, fun other member dead => ?_, accounted.taken, accounted.running⟩
  · exact insertInOrder accounted.ordered fun other member =>
      Nat.lt_succ_of_le (accounted.queuedBound member)
  · show (record.made ++ [timer]).map Timer.serial = List.range' 1 (record.machine.timers.made + 1)
    rw [List.map_append, accounted.numbered, List.range'_1_concat, Nat.add_comm 1]
    rfl
  · calc record.machine.startedTimers ++ (record.withdrawn ++ []) ++
          (record.machine.timers.later ms action).waiting
        ~ record.machine.startedTimers ++ record.withdrawn ++
            timer :: record.machine.timers.waiting := by
          rw [List.append_nil]
          exact waiting.append_left _
      _ ~ timer :: record.made := List.perm_middle.trans (accounted.shared.cons timer)
      _ ~ record.made ++ [timer] := (List.perm_append_singleton timer record.made).symm
  · rcases insertMember.mp member with rfl | waits
    · cases dead
    · exact List.mem_append_left _ (accounted.dead other waits dead)

theorem cancelKeeps (accounted : Accounted record) (serial : Nat) :
    Accounted (record.entered (.cancel serial)
      { record.machine with timers := record.machine.timers.cancel serial }) := by
  have withdraws := accounted.withdrawsWaiting serial
  refine ⟨cancelInOrder accounted.ordered serial, ?_, ?_, fun other member dead => ?_,
    accounted.taken, accounted.running⟩
  · show (record.made ++ []).map Timer.serial = _
    rw [List.append_nil]
    exact accounted.numbered
  · show record.machine.startedTimers ++ (record.withdrawn ++ record.withdraws (.cancel serial)) ++
      (record.machine.timers.cancel serial).waiting ~ record.made ++ []
    rw [List.append_nil, cancelWaiting, ← List.append_assoc, List.append_assoc _ _ (List.filter _ _)]
    refine .trans (.append_left _ ?_) accounted.shared
    exact (withdraws.append_right _).trans (List.filter_append_perm _ _)
  · obtain ⟨timer, queued, rfl⟩ := List.mem_map.mp member
    by_cases live : timer.live = true
    · by_cases same : timer.serial = serial
      · have waits : timer ∈ record.machine.timers.waiting.filter (·.serial == serial) :=
          List.mem_filter.mpr ⟨List.mem_filter.mpr ⟨queued, live⟩, beq_iff_eq.mpr same⟩
        rw [if_pos (beq_iff_eq.mpr same)]
        show revived timer ∈ _
        rw [revivedLive live]
        exact List.mem_append_right _ (withdraws.symm.subset waits)
      · rw [if_neg (fun equal => same (beq_iff_eq.mp equal)), live] at dead
        cases dead
    · have before := accounted.dead timer queued (Bool.eq_false_iff.mpr live)
      refine List.mem_append_left _ ?_
      split <;> exact before

theorem shiftKeeps (accounted : Accounted record) {move : Move α} {after : Machine α}
    (made : record.makes move = []) (withdrawn : record.withdraws move = [])
    (same : after.timers.made = record.machine.timers.made)
    (queue : after.timers.queue <:+ record.machine.timers.queue)
    (shared : after.startedTimers ++ record.withdrawn ++ after.timers.waiting ~
      record.machine.startedTimers ++ record.withdrawn ++ record.machine.timers.waiting)
    (taken : (record.takes move after).map List.getLast? =
      after.loops.map fun loop => some loop.current)
    (running : ∀ loop ∈ after.loops, loop.current ∈ after.startedTimers) :
    Accounted (record.entered move after) := by
  refine ⟨accounted.ordered.sublist queue.sublist, ?_, ?_, fun timer member dead => ?_, taken,
    running⟩
  · show (record.made ++ record.makes move).map Timer.serial = List.range' 1 after.timers.made
    rw [made, List.append_nil, same]
    exact accounted.numbered
  · show after.startedTimers ++ (record.withdrawn ++ record.withdraws move) ++ after.timers.waiting ~
      record.made ++ record.makes move
    rw [made, withdrawn, List.append_nil, List.append_nil]
    exact shared.trans accounted.shared
  · exact List.mem_append_left _ (accounted.dead timer (queue.subset member) dead)

theorem takesRunning (accounted : Accounted record) {move : Move α} {below : List (Loop α)}
    (runs : Machine.Runs record.machine move below) :
    record.makes move = [] ∧ record.withdraws move = [] ∧ ∃ before outer,
      outer.map List.getLast? = below.map (fun loop => some loop.current) ∧
      ∀ after, record.takes move after =
        if record.machine.startsIn after then (before ++ record.machine.popped after) :: outer
        else outer := by
  cases runs with
  | runDue => exact ⟨rfl, rfl, [], record.taken, accounted.taken, fun _ => rfl⟩
  | runNext => exact ⟨rfl, rfl, [], record.taken, accounted.taken, fun _ => rfl⟩
  | returned loops =>
    refine ⟨rfl, rfl, record.taken.headD [], record.taken.tail, ?_, fun _ => rfl⟩
    rw [List.map_tail, accounted.taken, loops]
    rfl

theorem stepKeeps (accounted : Accounted record) {move : Move α} {after : Machine α}
    (moved : Machine.Moved record.machine move after) : Accounted (record.entered move after) := by
  cases moved with
  | made ms action => exact accounted.laterKeeps ms action
  | cancelled serial => exact accounted.cancelKeeps serial
  | clocked passed =>
    exact accounted.shiftKeeps rfl rfl rfl (List.suffix_refl _) (.refl _) accounted.taken
      accounted.running
  | idle none =>
    have taken : record.taken = [] := by
      rw [← List.map_eq_nil_iff, accounted.taken, none, List.map_nil]
    have still : record.machine.startsIn record.machine = false := by simp [Machine.startsIn]
    refine accounted.shiftKeeps rfl rfl rfl (List.suffix_refl _) (.refl _) ?_ accounted.running
    simp [takes, still, taken, none]
  | failed =>
    refine accounted.shiftKeeps rfl rfl rfl (List.suffix_refl _) (.refl _) ?_ fun loop member =>
      accounted.running loop (List.mem_of_mem_tail member)
    show record.taken.tail.map List.getLast? = record.machine.loops.tail.map _
    rw [List.map_tail, accounted.taken, List.map_tail]
  | @started _ below dead rest timer runs now passed returned queue allDead live due =>
    obtain ⟨made, withdrawn, before, outer, others, takes⟩ := accounted.takesRunning runs
    have waiting : record.machine.timers.waiting = timer :: rest.filter Timer.live := by
      rw [frontWaiting queue allDead, List.filter_cons_of_pos live]
    have front : record.machine.timers.queue = dead ++ [timer] ++ rest := by
      rw [queue, List.append_assoc, List.singleton_append]
    refine accounted.shiftKeeps made withdrawn rfl ⟨dead ++ [timer], front.symm⟩ ?_ ?_ ?_
    · have swapped : timer :: (record.withdrawn ++ rest.filter Timer.live) ~
          record.withdrawn ++ timer :: rest.filter Timer.live := List.perm_middle.symm
      show (record.machine.started ++ [(timer, now)]).map Prod.fst ++ record.withdrawn ++
        rest.filter Timer.live ~ _
      rw [waiting, List.map_append, List.append_assoc, List.append_assoc, List.append_assoc]
      exact swapped.append_left _
    · have starts : record.machine.started.length <
          (record.machine.started ++ [(timer, now)]).length := by simp
      rw [takes, Machine.startsIn, if_pos (decide_eq_true starts), Machine.popped, front,
        List.length_append, Nat.add_sub_cancel, List.take_left, ← List.append_assoc,
        List.map_cons, List.getLast?_concat, others]
      rfl
    · intro loop member
      show loop.current ∈ (record.machine.started ++ [(timer, now)]).map Prod.fst
      rw [List.map_append]
      rcases List.mem_cons.mp member with rfl | outside
      · exact List.mem_append_right _ (List.mem_singleton.mpr rfl)
      · exact List.mem_append_left _ (accounted.running loop (runs.belowSuffix.subset outside))
  | @ended _ below dead rest runs now passed returned queue allDead later =>
    obtain ⟨made, withdrawn, before, outer, others, takes⟩ := accounted.takesRunning runs
    refine accounted.shiftKeeps made withdrawn rfl ⟨dead, queue.symm⟩ ?_ ?_ fun loop member =>
      accounted.running loop (runs.belowSuffix.subset member)
    · rw [frontWaiting queue allDead]
      exact .refl _
    · rw [takes, Machine.startsIn, if_neg (by simp)]
      exact others

theorem runKeeps (accounted : Accounted record) (moves : List (Move α)) :
    Accounted (record.run moves) := by
  induction moves generalizing record with
  | nil => exact accounted
  | cons move rest ih => exact ih (accounted.stepKeeps (record.machine.stepMoved move))

theorem startAccounted (now : Int) : Accounted ({ machine := { timers := { now } } } : Record α) :=
  ⟨.nil, rfl, .nil, nofun, rfl, nofun⟩

end Accounted

theorem runMachine (record : Record α) (moves : List (Move α)) :
    (record.run moves).machine = record.machine.run moves := by
  induction moves generalizing record with
  | nil => rfl
  | cons move rest ih => exact ih (record.step move)

theorem withdrawnKept (record : Record α) (moves : List (Move α)) :
    record.withdrawn ⊆ (record.run moves).withdrawn := by
  induction moves generalizing record with
  | nil => exact List.Subset.refl _
  | cons move rest ih =>
    exact List.Subset.trans (List.subset_append_left _ _) (ih (record.step move))

/-- What a failing callback leaves behind. Its timer is spent, and the last that its own loop took
off the queue; loops that the callback itself started may have taken others since. The queue is as it
was, and a loop that runs later can start whatever waits in it. -/
structure FailsAlone (record : Record α) (loop : Loop α) : Prop where
  last : ∃ earlier outer, record.taken = (earlier ++ [loop.current]) :: outer
  spent : loop.current ∈ record.machine.startedTimers ∧
    ∀ timer ∈ record.machine.timers.queue, timer.serial ≠ loop.current.serial
  kept : (record.machine.step .failed).timers = record.machine.timers
  startable : ∀ timer ∈ record.machine.timers.waiting, ∃ ms returns, timer ∈
    ((record.machine.step .failed).run
      (.advance ms :: .runDue :: List.replicate returns .returned)).startedTimers

structure Conserved (record : Record α) : Prop where
  once : (record.machine.startedTimers.map Timer.serial).Nodup
  whole : record.machine.startedTimers ++ record.withdrawn ++ record.machine.timers.waiting ~
    record.made
  pending : (record.machine.timers.pending : Int) =
    record.made.length - record.machine.started.length - record.withdrawn.length
  queued : ∀ timer ∈ record.machine.timers.queue,
    revived timer ∈ record.made ∧ (timer.live = true ↔ revived timer ∉ record.withdrawn)
  ends : ∀ move, record.machine.Ends move →
    ∀ timer ∈ (record.machine.step move).timers.queue,
      (record.machine.step move).timers.now < timer.due
  fails : ∀ loop below, record.machine.loops = loop :: below → FailsAlone record loop

namespace Accounted

variable {record : Record α}

theorem startedApart (accounted : Accounted record) {timer other : Timer α}
    (started : timer ∈ record.machine.startedTimers)
    (elsewhere : other ∈ record.withdrawn ∨ other ∈ record.machine.timers.queue) :
    other.serial ≠ timer.serial := by
  have apart := accounted.serialsDistinct
  rw [List.append_assoc, List.map_append, List.nodup_append] at apart
  have listed : other.serial ∈
      (record.withdrawn ++ record.machine.timers.waiting).map Timer.serial := by
    refine List.mem_map.mpr ?_
    rcases elsewhere with withdrawn | queued
    · exact ⟨other, List.mem_append_left _ withdrawn, rfl⟩
    · cases live : other.live with
      | false => exact ⟨revived other, List.mem_append_left _ (accounted.dead other queued live), rfl⟩
      | true => exact ⟨other, List.mem_append_right _ (List.mem_filter.mpr ⟨queued, live⟩), rfl⟩
  exact (apart.2.2 _ (List.mem_map_of_mem started) _ listed).symm

theorem waitingApart (accounted : Accounted record) {timer : Timer α}
    (waits : timer ∈ record.machine.timers.waiting) : timer ∉ record.withdrawn := by
  intro withdrawn
  have apart := accounted.serialsDistinct
  rw [List.map_append, List.nodup_append] at apart
  have listed : timer.serial ∈
      (record.machine.startedTimers ++ record.withdrawn).map Timer.serial :=
    List.mem_map_of_mem (List.mem_append_right _ withdrawn)
  exact apart.2.2 _ listed _ (List.mem_map_of_mem waits) rfl

theorem failsAlone (accounted : Accounted record) {loop : Loop α} {below : List (Loop α)}
    (loops : record.machine.loops = loop :: below) : FailsAlone record loop := by
  have running := accounted.running loop (loops ▸ List.mem_cons_self)
  refine ⟨?_, ⟨running, fun timer queued => accounted.startedApart running (.inr queued)⟩, rfl,
    fun timer waits => ?_⟩
  · have taken := accounted.taken
    rw [loops, List.map_cons, List.map_eq_cons_iff] at taken
    obtain ⟨own, outer, taken, last, -⟩ := taken
    obtain ⟨earlier, rfl⟩ := List.getLast?_eq_some_iff.mp last
    exact ⟨earlier, outer, taken⟩
  · let ms := max 0 (timer.due - record.machine.timers.now)
    have forward : ¬ ms < 0 := by omega
    let failed := record.machine.step .failed
    have advanced : failed.step (.advance ms) =
        { failed with timers := { failed.timers with now := failed.timers.now + ms } } := by
      rw [Machine.step, Timers.advance, if_neg forward]
    have due : timer.due ≤ (failed.step (.advance ms)).timers.now := by
      rw [advanced]
      show timer.due ≤ record.machine.timers.now + ms
      omega
    have same : (failed.step (.advance ms)).timers.queue = record.machine.timers.queue := by
      rw [advanced]
      rfl
    have runs : Machine.Runs (failed.step (.advance ms)) .runDue _ := .runDue
    have still : timer ∈ (failed.step (.advance ms)).timers.waiting := by
      rw [waiting, same]
      exact waits
    obtain ⟨returns, started⟩ := Machine.dueTimerStarts runs (same ▸ accounted.ordered) still due
    exact ⟨ms, returns, started⟩

theorem accountedConserved (accounted : Accounted record) : Conserved record where
  once := by
    have distinct := accounted.serialsDistinct
    rw [List.append_assoc, List.map_append, List.nodup_append] at distinct
    exact distinct.1
  whole := accounted.shared
  pending := by
    have count := accounted.shared.length_eq
    rw [List.length_append, List.length_append, ← pendingWaiting, Machine.startedTimers,
      List.length_map] at count
    omega
  queued := by
    refine fun timer member => ⟨accounted.queuedMade member, fun live => ?_, fun here => ?_⟩
    · rw [revivedLive live]
      exact accounted.waitingApart (List.mem_filter.mpr ⟨member, live⟩)
    · by_contra dead
      exact here (accounted.dead timer member (Bool.eq_false_iff.mpr dead))
  ends := by
    rintro move ⟨⟨below, runs⟩, none⟩
    have moved := record.machine.stepMoved move
    generalize record.machine.step move = after at moved none ⊢
    cases moved with
    | made | cancelled | clocked | failed => cases runs
    | idle empty =>
      cases runs with
      | returned loops => cases empty.symm.trans loops
    | started => simp [Machine.startsIn] at none
    | ended inControl passed returned queue allDead later => exact later accounted.ordered
  fails _ _ loops := accounted.failsAlone loops

end Accounted

/-- Whatever is done to timers, by callbacks or from outside, with delays of either sign: no timer is
started twice, none that was cancelled while it stood in the queue is started at all, and every
other one is still in the queue as it was made, however callbacks fail. -/
theorem callbacksConserved (now : Int) (moves : List (Move α)) :
    let first : Record α := { machine := { timers := { now } } }
    let record := first.run moves
    record.machine = ({ timers := { now } } : Machine α).run moves ∧
    Conserved record ∧
    ∀ before serial after, moves = before ++ .cancel serial :: after →
      (∃ timer ∈ (first.run before).machine.timers.queue, timer.serial = serial) →
      ∀ timer ∈ record.machine.startedTimers, timer.serial ≠ serial := by
  intro first record
  have accounted : Accounted record := (Accounted.startAccounted now).runKeeps moves
  refine ⟨runMachine first moves, accounted.accountedConserved, ?_⟩
  rintro before serial after split ⟨timer, queued, rfl⟩ other started
  let earlier := first.run before
  have placed : Accounted earlier := (Accounted.startAccounted now).runKeeps before
  have parts : record = (earlier.step (.cancel timer.serial)).run after := by
    show first.run moves = _
    rw [split, run, List.foldl_append]
    rfl
  have withdrawn : revived timer ∈ (earlier.step (.cancel timer.serial)).withdrawn := by
    cases live : timer.live with
    | false => exact List.mem_append_left _ (placed.dead timer queued live)
    | true =>
      rw [revivedLive live]
      refine List.mem_append_right _ ((placed.withdrawsWaiting timer.serial).symm.subset ?_)
      exact List.mem_filter.mpr ⟨List.mem_filter.mpr ⟨queued, live⟩, beq_iff_eq.mpr rfl⟩
  have kept : revived timer ∈ record.withdrawn := parts ▸ withdrawnKept _ after withdrawn
  exact (accounted.startedApart started (.inl kept)).symm

/- Of two timers that are due, the first runs what is due and fails after that: the last one off the
queue is the second. -/
theorem nestedLoopPopsLast :
    let record : Record Nat :=
      ({} : Record Nat).run [.later 0 0, .later 0 1, .runDue, .runDue, .returned]
    record.machine.loops.map (·.current.serial) = [1] ∧
    record.machine.startedTimers.map Timer.serial = [1, 2] := by
  decide

end Record
end LoopPlayer.Timers
