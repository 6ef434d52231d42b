import LoopPlayer.Proofs.ClaimedBlocks

/-! Which registrations are reported, and how often. A registration in no claimed block is a job of
its own, one that opens a claimed block is nested in the timer that claims it, and one further down
in a claimed block is not reported at all. -/
namespace LoopPlayer
open Text (Line strip)

namespace Registration

theorem openingStarts {text : List Char} {registration : Registration}
    (opens : registration.opening.toList <+: text) : start? text = some registration := by
  obtain ⟨found, search⟩ : ∃ found, start? text = some found := by
    refine Option.isSome_iff_exists.mp (List.find?_isSome.mpr ⟨registration, ?_, ?_⟩)
    · cases registration <;> decide
    · exact List.isPrefixOf_iff_prefix.mpr opens
  rw [search, Option.some_inj]
  rcases List.prefix_or_prefix_of_prefix (startsOpening search) opens with shorter | shorter <;>
    revert shorter <;> cases registration <;> cases found <;> decide

theorem codeInjective {a b : Registration} (same : a.code = b.code) : a = b := by
  revert same
  cases a <;> cases b <;> decide

end Registration

theorem countFlatMap {α β : Type} {all : List α} {f : α → List β} {p : β → Bool} {q : α → Bool}
    (one : ∀ a ∈ all, (f a).countP p = if q a then 1 else 0) :
    (all.flatMap f).countP p = all.countP q := by
  induction all with
  | nil => rfl
  | cons a all ih =>
    have here := one a (by simp)
    have later := ih fun b member => one b (by simp [member])
    rw [List.flatMap_cons, List.countP_append, here, later, List.countP_cons, Nat.add_comm]

theorem countOnce {α : Type} {all : List α} {p : α → Bool}
    (apart : all.Pairwise fun a b => p a → ¬ p b) : all.countP p = if all.any p then 1 else 0 := by
  induction apart with
  | nil => rfl
  | @cons a all apart _ ih =>
    rw [List.countP_cons, ih, List.any_cons]
    by_cases here : p a
    · have none : all.any p = false := List.any_eq_false.mpr fun b member => apart b member here
      simp [here, none]
    · simp [here]

def Task.reports (index : Nat) (registration : Registration) (task : Task) : Bool :=
  task.line == index + 1 && task.code == registration.code && task.lane == registration.lane

namespace Source
open Block (registered? registrationStop)

variable {lines : List Line} {index : Nat} {registration : Registration}

def heads (index : Nat) (block : Registration × Nat × Nat) : Bool := block.2.1 == index

def buries (index : Nat) (block : Registration × Nat × Nat) : Bool :=
  block.2.1 < index && index < block.2.2

theorem reportsDeferred {start : Nat} {inner : Registration} {printed : List Printed} :
    (deferred inner start printed).reports index registration ↔
      start = index ∧ inner = registration := by
  simp only [Task.reports, deferred, Bool.and_eq_true, beq_iff_eq]
  constructor
  · rintro ⟨⟨line, code⟩, -⟩
    exact ⟨by omega, Registration.codeInjective code⟩
  · rintro ⟨rfl, rfl⟩
    exact ⟨⟨rfl, rfl⟩, rfl⟩

theorem tasksReport (callback : registration ≠ .promise) (start stop : Nat) (inner : Registration) :
    (tasks lines start stop inner).countP (Task.reports index registration) =
      if start = index ∧ inner = registration then 1 else 0 := by
  by_cases chain : inner = .promise
  · subst chain
    rw [if_neg fun both => callback both.2.symm, List.countP_eq_zero]
    intro task member reports
    obtain ⟨continuation, -, rfl⟩ := List.mem_map.mp member
    exact callback (reportsDeferred.mp reports).2.symm
  · have single : tasks lines start stop inner =
        [deferred inner start (callbackPrinted lines start stop inner)] := by
      cases inner <;> first | rfl | exact absurd rfl chain
    rw [single, List.countP_singleton]
    exact if_congr reportsDeferred rfl rfl

theorem jobsAtReport (callback : registration ≠ .promise)
    (found : registered? lines index = some registration) (line : Nat) :
    (jobsAt lines line).countP (fun job => job.toTask.reports index registration) =
      if line = index then 1 else 0 := by
  cases opened : registered? lines line with
  | none =>
    have other : line ≠ index := by
      rintro rfl
      rw [found] at opened
      cases opened
    have lane : Lane.callStack ≠ registration.lane := by cases registration <;> decide
    rw [if_neg other]
    unfold jobsAt
    split <;> simp [opened, immediate, Task.reports, lane]
  | some inner =>
    rw [jobsAtFound opened, jobs, List.countP_map]
    refine (tasksReport callback line _ inner).trans (if_congr ?_ rfl rfl)
    constructor
    · exact And.left
    · rintro rfl
      exact ⟨rfl, Option.some.inj (opened.symm.trans found)⟩

theorem reportedReport (callback : registration ≠ .promise)
    (found : registered? lines index = some registration) (line : Nat) :
    (reported lines line).countP (fun job => job.toTask.reports index registration) =
      if index < line ∧ ¬ (claimed lines index).any (covers index) then 1 else 0 := by
  induction line with
  | zero => simp [reported]
  | succ line ih =>
    have here := jobsAtReport callback found line
    rw [reportedNext]
    by_cases same : line = index
    · subst same
      split
      · next covered => rw [ih, if_neg (by omega), if_neg (fun both => both.2 covered)]
      · next heard =>
        rw [List.countP_append, ih, here, if_neg (by omega), if_pos rfl,
          if_pos ⟨Nat.lt_succ_self line, heard⟩]
    · have unchanged : index < line ↔ index < line + 1 := by omega
      refine Eq.trans ?_ (ih.trans (if_congr (and_congr_left' unchanged) rfl rfl))
      split
      · rfl
      · rw [List.countP_append, here, if_neg same, Nat.add_zero]

def blockTasks (lines : List Line) (block : Registration × Nat × Nat) : List Task :=
  tasks lines block.2.1 block.2.2 block.1

theorem jobsTasks (lines : List Line) (block : Registration × Nat × Nat) :
    (jobs lines block.2.1 block.2.2 block.1).map Job.toTask = blockTasks lines block := by
  rw [jobs, List.map_map]
  exact List.map_id _

theorem nestedClaimed (line : Nat) :
    (reported lines line).flatMap Job.nested = (claimed lines line).flatMap (blockTasks lines) := by
  rw [claimed, List.flatMap_assoc]
  refine List.flatMap_congr fun job member => ?_
  induction line with
  | zero => cases member
  | succ line ih =>
    rw [reportedNext] at member
    split at member
    · exact ih member
    · rcases List.mem_append.mp member with above | here
      · exact ih above
      · unfold jobsAt at here
        split at here
        · obtain rfl := List.mem_singleton.mp here
          rfl
        · split at here
          · cases here
          · rw [jobClaims here]
            obtain ⟨task, -, rfl⟩ := List.mem_map.mp here
            rfl

theorem apartCovers {a b : Registration × Nat × Nat} (apart : Apart a b) (around : covers index a) :
    ¬ covers index b := by
  intro also
  have left := coversIff.mp around
  have right := coversIff.mp also
  unfold Apart at apart
  omega

theorem coversSplit {line : Nat} {block : Registration × Nat × Nat}
    (member : block ∈ claimed lines line) :
    covers index block ↔ heads index block ∨ buries index block := by
  have bounds := (claimedBounds member).2
  rw [coversIff, heads, buries, Bool.and_eq_true, beq_iff_eq, decide_eq_true_eq, decide_eq_true_eq]
  omega

theorem nestedReport (callback : registration ≠ .promise)
    (found : registered? lines index = some registration) (line : Nat) :
    ((reported lines line).flatMap Job.nested).countP (Task.reports index registration) =
      if (claimed lines line).any (heads index) then 1 else 0 := by
  have one : ∀ block ∈ claimed lines line,
      (blockTasks lines block).countP (Task.reports index registration) =
        if heads index block then 1 else 0 := by
    intro block member
    refine (tasksReport callback _ _ _).trans (if_congr ?_ rfl rfl)
    rw [heads, beq_iff_eq]
    refine ⟨And.left, fun head => ⟨head, ?_⟩⟩
    have opened := (claimedBounds member).1
    rw [head, found] at opened
    exact (Option.some.inj opened).symm
  rw [nestedClaimed, countFlatMap one]
  refine countOnce ((claimedApart lines line).imp_of_mem fun first second apart headA headB => ?_)
  have around := (coversSplit first).mpr (.inl headA)
  exact apartCovers apart around ((coversSplit second).mpr (.inl headB))

theorem claimedAt (lines : List Line) (line index : Nat) :
    (claimed lines line).any (covers index) =
        ((claimed lines line).any (heads index) || (claimed lines line).any (buries index)) ∧
      ¬ ((claimed lines line).any (heads index) ∧ (claimed lines line).any (buries index)) := by
  -- no other claimed block has the line, so it cannot both open one and be buried in one
  constructor
  · rw [Bool.eq_iff_iff, Bool.or_eq_true]
    simp only [List.any_eq_true]
    constructor
    · rintro ⟨block, member, around⟩
      exact ((coversSplit member).mp around).imp (⟨block, member, ·⟩) (⟨block, member, ·⟩)
    · rintro (⟨block, member, head⟩ | ⟨block, member, buried⟩)
      · exact ⟨block, member, (coversSplit member).mpr (.inl head)⟩
      · exact ⟨block, member, (coversSplit member).mpr (.inr buried)⟩
  · simp only [List.any_eq_true]
    rintro ⟨⟨opened, first, head⟩, buriedIn, second, buried⟩
    have same : opened = buriedIn := by
      by_contra different
      have : Std.Symm Apart := ⟨fun _ _ => Or.symm⟩
      have apart : Apart opened buriedIn := (claimedApart lines line).forall first second different
      have around := (coversSplit first).mpr (.inl head)
      exact apartCovers apart around ((coversSplit second).mpr (.inr buried))
    subst same
    rw [heads, beq_iff_eq] at head
    rw [buries, Bool.and_eq_true, decide_eq_true_eq] at buried
    omega

theorem countTasks (jobs : List Job) (p : Task → Bool) :
    (jobs.flatMap Job.tasks).countP p =
      jobs.countP (fun job => p job.toTask) + (jobs.flatMap Job.nested).countP p := by
  induction jobs with
  | nil => rfl
  | cons job jobs ih =>
    simp only [List.flatMap_cons, List.countP_append, ih, Job.tasks, List.countP_cons]
    omega

end Source

def claimedBlocks (source : String) : List (Registration × Nat × Nat) :=
  (jobsOf source).flatMap (Source.claimedBy (Text.lines source.toList))

theorem registrationReports (source : String) (index : Nat) (line : Line)
    (registration : Registration) (found : (Text.lines source.toList)[index]? = some line)
    (opens : registration.opening.toList <+: strip line) (callback : registration ≠ .promise) :
    (jobsOf source).countP (fun job => job.toTask.reports index registration) =
        (if (claimedBlocks source).any (Source.covers index) then 0 else 1) ∧
      ((jobsOf source).flatMap Job.nested).countP (Task.reports index registration) =
        (if (claimedBlocks source).any (Source.heads index) then 1 else 0) ∧
      ((jobsOf source).flatMap Job.tasks).countP (Task.reports index registration) =
        (if (claimedBlocks source).any (Source.buries index) then 0 else 1) := by
  have registered : Block.registered? (Text.lines source.toList) index = some registration := by
    rw [Block.registered?, found, Option.getD_some, Registration.openingStarts opens]
  have inside := Block.registeredInside registered
  have all := Source.reportedAll (Text.lines source.toList)
  have claimed : Source.claimed (Text.lines source.toList) (Text.lines source.toList).length =
      claimedBlocks source := by
    rw [Source.claimed, all]
    rfl
  have jobs : (jobsOf source).countP (fun job => job.toTask.reports index registration) =
      if (claimedBlocks source).any (Source.covers index) then 0 else 1 := by
    have count := Source.reportedReport callback registered (Text.lines source.toList).length
    rw [all, ← Source.coveredAbove (Nat.le_of_lt inside), claimed] at count
    refine count.trans ?_
    by_cases covered : (claimedBlocks source).any (Source.covers index) <;> simp [covered, inside]
  have nested : ((jobsOf source).flatMap Job.nested).countP (Task.reports index registration) =
      if (claimedBlocks source).any (Source.heads index) then 1 else 0 := by
    have count := Source.nestedReport callback registered (Text.lines source.toList).length
    rwa [all, claimed] at count
  refine ⟨jobs, nested, ?_⟩
  obtain ⟨split, apart⟩ :=
    Source.claimedAt (Text.lines source.toList) (Text.lines source.toList).length index
  rw [claimed] at split apart
  rw [Source.countTasks, jobs, nested, split]
  cases opened : (claimedBlocks source).any (Source.heads index) <;>
    cases buried : (claimedBlocks source).any (Source.buries index) <;> simp_all

def buriedTimer : String :=
  "setTimeout(() => \x7b\n  queueMicrotask(() => \x7b\n    setTimeout(() => \x7b\n" ++
    "    \x7d, 0);\n  \x7d);\n\x7d, 0);"

theorem nestedMicrotaskReported :
    (jobsOf buriedTimer).countP (fun job => job.toTask.reports 1 .microtask) = 0 ∧
      ((jobsOf buriedTimer).flatMap Job.nested).countP (Task.reports 1 .microtask) = 1 ∧
      ((jobsOf buriedTimer).flatMap Job.tasks).countP (Task.reports 1 .microtask) = 1 := by
  have reports := registrationReports buriedTimer 1 "  queueMicrotask(() => \x7b".toList .microtask
    (by decide +kernel) (by decide +kernel) (by decide)
  have blocks : claimedBlocks buriedTimer = [(.microtask, 1, 5)] := by decide +kernel
  rwa [blocks] at reports

/- The microtask's whole block is claimed, and the timer in it is looked for nowhere. -/
theorem buriedTimerLost :
    (Text.lines buriedTimer.toList)[2]? = some "    setTimeout(() => \x7b".toList ∧
      Registration.timeout.opening.toList <+: strip "    setTimeout(() => \x7b".toList ∧
      ((jobsOf buriedTimer).flatMap Job.tasks).countP (Task.reports 2 .timeout) = 0 := by
  decide +kernel

end LoopPlayer
