import LoopPlayer.Source.Jobs

/-! What is nested in what. Only timers have nested work, one level deep, and all of it is microtasks:
a task found in a body has the lane of its registration, and the blocks whose tasks are nested are
those of microtasks in a timer's body. -/
namespace LoopPlayer

structure Job.WellNested (job : Job) : Prop where
  timer : job.nested ≠ [] → job.lane = .macrotask
  microtasks : ∀ task ∈ job.nested, task.lane = .microtask

namespace Source
open Text (Line)

variable {lines : List Line} {start stop : Nat}

theorem tasksLane {registration : Registration} {task : Task}
    (member : task ∈ tasks lines start stop registration) : task.lane = registration.lane := by
  cases registration with
  | promise =>
    obtain ⟨continuation, -, rfl⟩ := List.mem_map.mp member
    rfl
  | _ =>
    rw [tasks, List.mem_singleton] at member
    · rw [member]
      rfl
    all_goals simp

theorem memNestedBlocks {registration inner : Registration} {first next : Nat} :
    (inner, first, next) ∈ nestedBlocks lines start stop registration ↔
      .inner inner first next ∈ Block.parts lines (start + 1) stop ∧ inner.nestsIn registration := by
  constructor
  · intro member
    obtain ⟨part, body, found⟩ := List.mem_filterMap.mp member
    cases part with
    | line index => cases found
    | inner found' first' next' =>
      simp only [Option.ite_none_right_eq_some, Option.some.injEq, Prod.mk.injEq] at found
      obtain ⟨nests, rfl, rfl, rfl⟩ := found
      exact ⟨body, nests⟩
  · exact fun ⟨body, nests⟩ => List.mem_filterMap.mpr ⟨_, body, if_pos nests⟩

theorem jobsWellNested {registration : Registration} {job : Job}
    (member : job ∈ jobs lines start stop registration) : job.WellNested := by
  obtain ⟨task, own, rfl⟩ := List.mem_map.mp member
  have nests {nested : Task} (inside : nested ∈ (nestedBlocks lines start stop registration).flatMap
      fun block => tasks lines block.2.1 block.2.2 block.1) :
      registration.lane = .macrotask ∧ nested.lane = .microtask := by
    obtain ⟨⟨inner, first, next⟩, block, found⟩ := List.mem_flatMap.mp inside
    have nests := (memNestedBlocks.mp block).2
    rw [Registration.nestsIn, Bool.and_eq_true, beq_iff_eq, beq_iff_eq] at nests
    exact ⟨nests.1, (tasksLane found).trans nests.2⟩
  refine ⟨fun nonempty => ?_, fun nested inside => (nests inside).2⟩
  obtain ⟨nested, inside⟩ := List.exists_mem_of_ne_nil _ nonempty
  exact (tasksLane own).trans (nests inside).1

theorem jobsFromWellNested (claimed : List (Nat × Nat)) (numbered : List (Line × Nat)) :
    ∀ job ∈ jobsFrom lines claimed numbered, job.WellNested := by
  induction numbered generalizing claimed with
  | nil => simp [jobsFrom]
  | cons entry rest ih =>
    obtain ⟨line, index⟩ := entry
    intro job member
    simp only [jobsFrom] at member
    split at member
    · exact ih claimed job member
    · split at member
      · rcases List.mem_cons.mp member with rfl | later
        · exact ⟨fun nonempty => absurd rfl nonempty, fun task inside => nomatch inside⟩
        · exact ih claimed job later
      · split at member
        · exact ih claimed job member
        · rcases List.mem_append.mp member with here | later
          · exact jobsWellNested here
          · exact ih _ job later

end Source

theorem jobsOfWellNested (source : String) : ∀ job ∈ jobsOf source, job.WellNested :=
  Source.jobsFromWellNested [] _

end LoopPlayer
