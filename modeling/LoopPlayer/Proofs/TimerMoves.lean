import Mathlib.Data.List.TakeWhile
import LoopPlayer.Proofs.DueOrder

/-! What a move does to timers in use. Whichever move gives a loop control, the loop takes timers off
the front of the queue, and starts the one that it took last or ends. -/
namespace LoopPlayer.Timers

variable {α : Type}

theorem splitDueParts (now : Int) (queue : List (Timer α)) :
    ∃ dead, (∀ timer ∈ dead, timer.live = false) ∧
      queue = dead ++ (splitDue now queue).1.toList ++ (splitDue now queue).2 ∧
      (∀ timer ∈ (splitDue now queue).1, timer.live = true ∧ timer.due ≤ now) ∧
      ((splitDue now queue).1 = none → queue.Pairwise (fun a b => a.precedes b) →
        ∀ timer ∈ (splitDue now queue).2, now < timer.due) := by
  induction queue with
  | nil =>
    exact ⟨[], List.forall_mem_nil _, rfl, fun _ taken => absurd taken (Option.not_mem_none _),
      fun _ _ => List.forall_mem_nil _⟩
  | cons head rest ih =>
    rw [splitDue]
    split
    · rename_i due
      split
      · rename_i live
        refine ⟨[], List.forall_mem_nil _, rfl, fun timer taken => ?_, fun absent => ?_⟩
        · cases taken
          exact ⟨live, due⟩
        · cases absent
      · rename_i cancelled
        obtain ⟨dead, allDead, parts, found, settled⟩ := ih
        refine ⟨head :: dead, ?_, congrArg (head :: ·) parts, found, fun none ordered => ?_⟩
        · exact List.forall_mem_cons.mpr ⟨Bool.eq_false_iff.mpr cancelled, allDead⟩
        · exact settled none ordered.of_cons
    · rename_i early
      refine ⟨[], List.forall_mem_nil _, rfl, fun _ taken => absurd taken (Option.not_mem_none _),
        fun _ ordered timer member => ?_⟩
      rcases List.mem_cons.mp member with rfl | later
      · exact Int.not_le.mp early
      · have behind := Timer.precedesIff.mp (List.rel_of_pairwise_cons ordered later)
        omega

namespace Machine

inductive Runs (machine : Machine α) : Move α → List (Loop α) → Prop where
  | runDue : Runs machine .runDue machine.loops
  | runNext : Runs machine .runNext machine.loops
  | returned {loop : Loop α} {below : List (Loop α)} (loops : machine.loops = loop :: below) :
      Runs machine .returned below

theorem Runs.belowSuffix {machine : Machine α} {move : Move α} {below : List (Loop α)}
    (runs : Runs machine move below) : below <:+ machine.loops := by
  cases runs with
  | runDue => exact List.suffix_refl _
  | runNext => exact List.suffix_refl _
  | returned loops => exact loops ▸ List.suffix_cons _ _

/-- All that a move can do. The clock goes on at most. A loop that is in control takes timers off the
queue, dead ones up to a live one that is due, which it starts, or dead ones until none is due, and
then it ends. -/
inductive Moved (machine : Machine α) : Move α → Machine α → Prop where
  | made (ms : Int) (action : α) :
      Moved machine (.later ms action) { machine with timers := machine.timers.later ms action }
  | cancelled (serial : Nat) :
      Moved machine (.cancel serial) { machine with timers := machine.timers.cancel serial }
  | clocked {ms : Int} {now : Int} (passed : machine.timers.now ≤ now) :
      Moved machine (.advance ms) { machine with timers := { machine.timers with now } }
  | idle (none : machine.loops = []) : Moved machine .returned machine
  | failed : Moved machine .failed { machine with loops := machine.loops.tail }
  | started {move : Move α} {below : List (Loop α)} {dead rest : List (Timer α)} {timer : Timer α}
      (runs : Runs machine move below) {now : Int} (passed : machine.timers.now ≤ now)
      (returned : Nat)
      (queue : machine.timers.queue = dead ++ timer :: rest)
      (allDead : ∀ other ∈ dead, other.live = false) (live : timer.live = true)
      (due : timer.due ≤ now) :
      Moved machine move
        { machine with
          timers := { machine.timers with now, queue := rest }
          loops := ⟨returned, timer⟩ :: below
          started := machine.started ++ [(timer, now)] }
  | ended {move : Move α} {below : List (Loop α)} {dead rest : List (Timer α)}
      (runs : Runs machine move below) {now : Int} (passed : machine.timers.now ≤ now)
      (returned : Nat)
      (queue : machine.timers.queue = dead ++ rest)
      (allDead : ∀ other ∈ dead, other.live = false)
      (later : machine.timers.queue.Pairwise (fun a b => a.precedes b) →
        ∀ timer ∈ rest, now < timer.due) :
      Moved machine move
        { machine with
          timers := { machine.timers with now, queue := rest }, loops := below, ended := returned }

theorem resumedMoved {machine : Machine α} {move : Move α} {below : List (Loop α)}
    (runs : Runs machine move below) {now : Int} (passed : machine.timers.now ≤ now)
    {front rest : List (Timer α)} (queue : machine.timers.queue = front ++ rest)
    (allDead : ∀ timer ∈ front, timer.live = false) (returned : Nat) :
    Moved machine move
      (resume { machine with timers := { machine.timers with now, queue := rest }, loops := below }
        returned) := by
  obtain ⟨dead, dropped, parts, found, settled⟩ := splitDueParts now rest
  have allDropped : ∀ timer ∈ front ++ dead, timer.live = false := fun timer member =>
    (List.mem_append.mp member).elim (allDead timer) (dropped timer)
  rw [resume, takeDue]
  generalize splitDue now rest = split at parts found settled ⊢
  obtain ⟨taken, left⟩ := split
  cases taken with
  | none =>
    rw [Option.toList_none, List.append_nil] at parts
    refine .ended runs passed returned ?_ allDropped fun ordered => settled rfl ?_
    · rw [queue, parts, List.append_assoc]
    · rw [queue] at ordered
      exact (List.pairwise_append.mp ordered).2.1
  | some timer =>
    obtain ⟨live, due⟩ := found timer rfl
    refine .started runs passed returned ?_ allDropped live due
    rw [queue, parts, Option.toList_some, List.append_assoc, List.append_assoc]
    rfl

theorem stepMoved (machine : Machine α) (move : Move α) :
    Moved machine move (machine.step move) := by
  cases move with
  | later ms action => exact .made ms action
  | cancel serial => exact .cancelled serial
  | advance ms =>
    rw [step, Timers.advance]
    split
    · rename_i timers moved
      split at moved <;> cases moved
      refine .clocked ?_
      show machine.timers.now ≤ machine.timers.now + ms
      omega
    · exact .clocked (Int.le_refl machine.timers.now)
  | runDue =>
    exact resumedMoved .runDue (Int.le_refl _) (List.nil_append _).symm (List.forall_mem_nil _) 0
  | runNext =>
    have parts : machine.timers.queue.takeWhile (!·.live) ++
        machine.timers.queue.dropWhile (!·.live) = machine.timers.queue :=
      List.takeWhile_append_dropWhile
    have allDead : ∀ timer ∈ machine.timers.queue.takeWhile (!·.live), timer.live = false :=
      fun timer member => by simpa using List.mem_takeWhile_imp member
    rw [step]
    split
    · rename_i timers jump
      rw [jump?] at jump
      split at jump
      · cases jump
      · rename_i timer rest found
        cases jump
        rw [found] at parts
        exact resumedMoved .runNext (Int.le_max_left _ _) parts.symm allDead 0
    · rename_i none
      have empty : machine.timers.dropCancelled.queue = [] := by
        rw [jump?] at none
        split at none
        · assumption
        · cases none
      refine .ended .runNext (Int.le_refl machine.timers.now) 0 parts.symm allDead ?_
      intro _ timer member
      have waits : timer ∈ machine.timers.dropCancelled.queue := member
      rw [empty] at waits
      cases waits
  | returned =>
    rw [step]
    split
    · rename_i none
      exact .idle none
    · rename_i loop below loops
      exact resumedMoved (.returned loops) (Int.le_refl _) (List.nil_append _).symm
        (List.forall_mem_nil _) _
  | failed => exact .failed

end Machine
end LoopPlayer.Timers
