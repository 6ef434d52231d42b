import LoopPlayer.Timers.Machine

/-! The order in which callbacks start. What was started and what still waits make up one list, in
the order of due times and among equal ones in that of registration. Timers leave it or change
sides, and a new one, whose delay is not negative, has its place behind all that were started. -/
namespace LoopPlayer
open scoped List

variable {α : Type}

namespace Timer

theorem precedesIff {a b : Timer α} :
    a.precedes b ↔ a.due < b.due ∨ a.due = b.due ∧ a.serial < b.serial := by
  simp [precedes]

theorem precedesTrans {a b c : Timer α} (first : a.precedes b) (second : b.precedes c) :
    a.precedes c := by
  rw [precedesIff] at first second ⊢
  omega

theorem precedesNewer {a b : Timer α} (newer : a.serial < b.serial) (behind : ¬ b.precedes a) :
    a.precedes b := by
  rw [precedesIff] at behind ⊢
  omega

end Timer

namespace Timers

theorem insertMember {timer other : Timer α} {queue : List (Timer α)} :
    other ∈ insert timer queue ↔ other = timer ∨ other ∈ queue := by
  induction queue with
  | nil => exact List.mem_cons
  | cons head rest ih =>
    rw [insert]
    split
    · exact List.mem_cons
    · rw [List.mem_cons, ih, List.mem_cons]
      exact or_left_comm

theorem insertInOrder {timer : Timer α} {queue : List (Timer α)}
    (ordered : queue.Pairwise fun a b => a.precedes b)
    (newest : ∀ other ∈ queue, other.serial < timer.serial) :
    (insert timer queue).Pairwise fun a b => a.precedes b := by
  induction ordered with
  | nil => exact List.pairwise_singleton _ _
  | @cons head rest first ordered ih =>
    rw [insert]
    split
    · rename_i before
      refine .cons (fun other member => ?_) (.cons first ordered)
      rcases List.mem_cons.mp member with rfl | later
      · exact before
      · exact Timer.precedesTrans before (first other later)
    · rename_i behind
      obtain ⟨newer, newest⟩ := List.forall_mem_cons.mp newest
      refine .cons (fun other member => ?_) (ih newest)
      rcases insertMember.mp member with rfl | later
      · exact Timer.precedesNewer newer behind
      · exact first other later

theorem splitDueKeeps (now : Int) (queue : List (Timer α)) :
    (splitDue now queue).1.toList ++ (splitDue now queue).2 <+ queue ∧
      ∀ timer ∈ (splitDue now queue).1, timer.due ≤ now := by
  induction queue with
  | nil => exact ⟨List.Sublist.refl _, nofun⟩
  | cons head rest ih =>
    rw [splitDue]
    split
    · rename_i due
      split
      · refine ⟨List.Sublist.refl _, fun timer taken => ?_⟩
        cases taken
        exact due
      · exact ⟨ih.1.cons head, ih.2⟩
    · exact ⟨List.Sublist.refl _, nofun⟩

def Move.Forward : Move α → Prop
  | .later ms _ => 0 ≤ ms
  | _ => True

instance : (move : Move α) → Decidable move.Forward
  | .later ms _ => inferInstanceAs (Decidable (0 ≤ ms))
  | .cancel _ | .advance _ | .runDue | .runNext | .returned | .failed => instDecidableTrue

namespace Machine

def timeline (machine : Machine α) : List (Timer α) :=
  machine.started.map Prod.fst ++ machine.timers.queue

structure Ordered (machine : Machine α) : Prop where
  inOrder : machine.timeline.Pairwise fun a b => a.precedes b
  numbered : ∀ timer ∈ machine.timeline, timer.serial ≤ machine.timers.made
  punctual : ∀ start ∈ machine.started, start.1.due ≤ start.2 ∧ start.2 ≤ machine.timers.now

namespace Ordered

variable {machine after : Machine α}

theorem sublistKeeps (ordered : Ordered machine) (timeline : after.timeline <+ machine.timeline)
    (made : after.timers.made = machine.timers.made)
    (punctual : ∀ start ∈ after.started, start.1.due ≤ start.2 ∧ start.2 ≤ after.timers.now) :
    Ordered after where
  inOrder := ordered.inOrder.sublist timeline
  numbered timer member := made ▸ ordered.numbered timer (timeline.subset member)
  punctual := punctual

theorem shrinkKeeps (ordered : Ordered machine) (started : after.started = machine.started)
    (queue : after.timers.queue <+ machine.timers.queue)
    (made : after.timers.made = machine.timers.made)
    (now : machine.timers.now ≤ after.timers.now) : Ordered after := by
  refine ordered.sublistKeeps ?_ made fun start member => ?_
  · rw [timeline, timeline, started]
    exact queue.append_left _
  · obtain ⟨due, passed⟩ := ordered.punctual start (started ▸ member)
    exact ⟨due, Int.le_trans passed now⟩

theorem resumeKeeps (ordered : Ordered machine) (returned : Nat) :
    Ordered (machine.resume returned) := by
  obtain ⟨queue, due⟩ := splitDueKeeps machine.timers.now machine.timers.queue
  simp only [resume, takeDue]
  generalize splitDue machine.timers.now machine.timers.queue = split at queue due ⊢
  obtain ⟨taken, left⟩ := split
  cases taken with
  | none => exact ordered.shrinkKeeps rfl queue rfl (Int.le_refl _)
  | some timer =>
    refine ordered.sublistKeeps ?_ rfl fun start member => ?_
    · rw [timeline, List.map_append, List.append_assoc]
      exact queue.append_left _
    · rcases List.mem_append.mp member with earlier | now
      · exact ordered.punctual start earlier
      · obtain rfl := List.mem_singleton.mp now
        exact ⟨due timer rfl, Int.le_refl _⟩

theorem laterKeeps (ordered : Ordered machine) {ms : Int} (forward : 0 ≤ ms) (action : α) :
    Ordered (machine.step (.later ms action)) := by
  -- what was started was due by now, so the new timer is due no sooner, and it is the newest
  obtain ⟨started, queue, before⟩ := List.pairwise_append.mp ordered.inOrder
  have newest : ∀ other ∈ machine.timeline, other.serial < machine.timers.made + 1 :=
    fun other member => Nat.lt_succ_of_le (ordered.numbered other member)
  refine ⟨List.pairwise_append.mpr ⟨started, ?_, fun early ran late waits => ?_⟩, ?_,
    ordered.punctual⟩
  · exact insertInOrder queue fun other member => newest other (List.mem_append_right _ member)
  · rcases insertMember.mp waits with rfl | waits
    · obtain ⟨start, member, rfl⟩ := List.mem_map.mp ran
      have passed := ordered.punctual start member
      have newer := newest start.1 (List.mem_append_left _ ran)
      rw [Timer.precedesIff]
      simp only
      omega
    · exact before early ran late waits
  · intro timer member
    show timer.serial ≤ machine.timers.made + 1
    rcases List.mem_append.mp member with ran | waits
    · exact Nat.le_of_lt (newest timer (List.mem_append_left _ ran))
    · rcases insertMember.mp waits with rfl | waits
      · exact Nat.le_refl _
      · exact Nat.le_of_lt (newest timer (List.mem_append_right _ waits))

theorem cancelKeeps (ordered : Ordered machine) (serial : Nat) :
    Ordered (machine.step (.cancel serial)) := by
  let mark (timer : Timer α) : Timer α :=
    if timer.serial == serial then { timer with live := false } else timer
  have same (timer : Timer α) :
      (mark timer).due = timer.due ∧ (mark timer).serial = timer.serial := by
    simp only [mark]
    split <;> exact ⟨rfl, rfl⟩
  have place (a b : Timer α) : a.precedes (mark b) = a.precedes b ∧
      (mark a).precedes (mark b) = a.precedes b := by
    simp only [Timer.precedes, same, and_self]
  obtain ⟨started, queue, before⟩ := List.pairwise_append.mp ordered.inOrder
  refine ⟨List.pairwise_append.mpr ⟨started, ?_, fun early ran late waits => ?_⟩, ?_,
    ordered.punctual⟩
  · exact queue.map mark fun a b precedes => (place a b).2 ▸ precedes
  · obtain ⟨timer, uncancelled, rfl⟩ := List.mem_map.mp waits
    rw [(place early timer).1]
    exact before early ran timer uncancelled
  · intro timer member
    rcases List.mem_append.mp member with ran | waits
    · exact ordered.numbered timer (List.mem_append_left _ ran)
    · obtain ⟨timer, uncancelled, rfl⟩ := List.mem_map.mp waits
      rw [(same timer).2]
      exact ordered.numbered timer (List.mem_append_right _ uncancelled)

theorem stepKeeps (ordered : Ordered machine) {move : Move α} (forward : move.Forward) :
    Ordered (machine.step move) := by
  cases move with
  | later ms action => exact ordered.laterKeeps forward action
  | cancel serial => exact ordered.cancelKeeps serial
  | advance ms =>
    rw [step, Timers.advance]
    split
    · rename_i timers moved
      split at moved <;> cases moved
      refine ordered.shrinkKeeps rfl (List.Sublist.refl _) rfl ?_
      show machine.timers.now ≤ machine.timers.now + ms
      omega
    · exact ordered
  | runDue => exact ordered.resumeKeeps 0
  | runNext =>
    have front : machine.timers.queue.dropWhile (!·.live) <+ machine.timers.queue :=
      List.dropWhile_sublist _
    rw [step]
    split
    · rename_i timers jump
      rw [jump?] at jump
      split at jump
      · cases jump
      · rename_i timer rest found
        cases jump
        rw [found] at front
        have jumped : Ordered { machine with timers := { machine.timers with
            now := max machine.timers.now timer.due, queue := timer :: rest } } :=
          ordered.shrinkKeeps rfl front rfl (Int.le_max_left _ _)
        exact jumped.resumeKeeps 0
    · exact ordered.shrinkKeeps rfl front rfl (Int.le_refl _)
  | returned =>
    rw [step]
    split
    · exact ordered
    · rename_i loop loops _
      have popped : Ordered { machine with loops } :=
        ordered.shrinkKeeps rfl (List.Sublist.refl _) rfl (Int.le_refl _)
      exact popped.resumeKeeps _
  | failed => exact ordered.shrinkKeeps rfl (List.Sublist.refl _) rfl (Int.le_refl _)

theorem runKeeps (ordered : Ordered machine) {moves : List (Move α)}
    (forward : ∀ move ∈ moves, move.Forward) : Ordered (machine.run moves) := by
  induction moves generalizing machine with
  | nil => exact ordered
  | cons move rest ih =>
    obtain ⟨first, later⟩ := List.forall_mem_cons.mp forward
    exact ih (ordered.stepKeeps first) later

end Ordered

/-- Whatever is done to timers, by callbacks or from outside, callbacks start in the order in which
they are due, and among equal ones in that of registration, each no sooner than it is due. -/
theorem startsInOrder (now : Int) (moves : List (Move α)) (forward : ∀ move ∈ moves, move.Forward) :
    let machine := ({ timers := { now } } : Machine α).run moves
    (machine.started.map Prod.fst).Pairwise (fun a b =>
      a.due < b.due ∨ a.due = b.due ∧ a.serial < b.serial) ∧
    ∀ start ∈ machine.started, start.1.due ≤ start.2 := by
  intro machine
  have first : Ordered ({ timers := { now } } : Machine α) := ⟨.nil, nofun, nofun⟩
  have ordered : Ordered machine := first.runKeeps forward
  refine ⟨?_, fun start member => (ordered.punctual start member).1⟩
  exact (List.pairwise_append.mp ordered.inOrder).1.imp Timer.precedesIff.mp

theorem nestedStartsInOrder :
    let moves : List (Move Nat) :=
      [.later 20 0, .later 10 1, .later 10 2, .later 40 3, .cancel 3, .advance 25, .runDue,
        .later 0 4, .advance 15, .runDue, .failed, .returned, .returned, .returned]
    let machine := ({ timers := { now := 0 } } : Machine Nat).run moves
    (∀ move ∈ moves, move.Forward) ∧
    (machine.started.map fun start => (start.1.due, start.1.serial, start.2)) =
      [(10, 2, 25), (20, 1, 40), (25, 5, 40), (40, 4, 40)] ∧
    (machine.started.map Prod.fst).Pairwise (fun a b =>
      a.due < b.due ∨ a.due = b.due ∧ a.serial < b.serial) ∧
    ∀ start ∈ machine.started, start.1.due ≤ start.2 := by
  intro moves machine
  have forward : ∀ move ∈ moves, move.Forward := by decide
  exact ⟨forward, by decide, startsInOrder 0 moves forward⟩

end Machine
end Timers
end LoopPlayer
