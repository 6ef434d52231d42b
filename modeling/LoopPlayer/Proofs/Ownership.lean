import LoopPlayer.Proofs.SourceOrder

/-! Whose a line is. Where nothing is attached, every block ends where its delimiters do, and a
block that starts in another one ends in it. So the lines that a body reads are those in no block
that starts below its own first line, and the work nested in a timer is that of the outermost blocks
of microtasks in its body. -/
namespace LoopPlayer
open Text (Line)

namespace Block

variable {lines : List Line} {first upTo index : Nat}

def Unattached (lines : List Line) : Prop := ∀ line ∈ lines, ¬ attaches line

instance (lines : List Line) : Decidable (Unattached lines) :=
  inferInstanceAs (Decidable (∀ line ∈ lines, ¬ attaches line))

theorem Unattached.registrationStops (unattached : Unattached lines) (start : Nat)
    (registration : Registration) :
    registrationStop lines start registration = stop lines start := by
  have chain (fuel reached : Nat) : chainStop lines fuel reached = reached := by
    cases fuel with
    | zero => rfl
    | succ fuel =>
      rw [chainStop]
      split
      · next line found => exact if_neg (unattached line (List.mem_of_getElem? found))
      · rfl
  cases registration with
  | promise => exact chain _ _
  | _ => rfl

def enclosed (lines : List Line) (first upTo index : Nat) : Bool :=
  (List.range' first (upTo - first)).any fun inner =>
    (registered? lines inner).isSome && index < stop lines inner

theorem enclosedIff : enclosed lines first upTo index ↔
    ∃ inner, (first ≤ inner ∧ inner < upTo) ∧
      (registered? lines inner).isSome ∧ index < stop lines inner := by
  simp only [enclosed, List.any_eq_true, List.mem_range'_1, Bool.and_eq_true, decide_eq_true_iff]
  refine exists_congr fun inner => and_congr_left' ?_
  omega

theorem enclosedNext (after : first ≤ index) :
    enclosed lines first (index + 1) index =
      (enclosed lines first index index || (registered? lines index).isSome) := by
  have opens : (registered? lines index).isSome → index < stop lines index := by
    intro some
    obtain ⟨registration, found⟩ := Option.isSome_iff_exists.mp some
    exact startBeforeStop (registeredInside found)
  rw [Bool.eq_iff_iff, Bool.or_eq_true, enclosedIff, enclosedIff]
  constructor
  · rintro ⟨inner, bounds, some, around⟩
    rcases Nat.lt_succ_iff_lt_or_eq.mp bounds.2 with above | rfl
    · exact .inl ⟨inner, ⟨bounds.1, above⟩, some, around⟩
    · exact .inr some
  · rintro (⟨inner, bounds, some, around⟩ | some)
    · exact ⟨inner, ⟨bounds.1, by omega⟩, some, around⟩
    · exact ⟨index, ⟨after, Nat.lt_succ_self index⟩, some, opens some⟩

theorem enclosedPast {next : Nat} (later : first ≤ next)
    (ended : ∀ inner, first ≤ inner → inner < next → (registered? lines inner).isSome →
      stop lines inner ≤ index) :
    enclosed lines first index index = enclosed lines next index index := by
  rw [Bool.eq_iff_iff, enclosedIff, enclosedIff]
  constructor
  · rintro ⟨inner, bounds, some, around⟩
    have beyond : ¬ inner < next := fun before =>
      Nat.not_le.mpr around (ended inner bounds.1 before some)
    exact ⟨inner, ⟨Nat.le_of_not_lt beyond, bounds.2⟩, some, around⟩
  · rintro ⟨inner, bounds, some, around⟩
    exact ⟨inner, ⟨Nat.le_trans later bounds.1, bounds.2⟩, some, around⟩

/- The lines from `first` to before `upTo` that no block starting on the ones before them has. -/
def outermost (lines : List Line) (first upTo : Nat) : List Nat :=
  (List.range' first (upTo - first)).filter fun index => !enclosed lines first index index

theorem outermostMember : index ∈ outermost lines first upTo ↔
    (first ≤ index ∧ index < upTo) ∧ enclosed lines first index index = false := by
  rw [outermost, List.mem_filter, List.mem_range'_1, Bool.not_eq_true']
  refine and_congr_left' ?_
  omega

theorem outermostNext {next : Nat} (before : first < next) (inside : next ≤ upTo)
    (covered : ∀ line, first < line → line < next → enclosed lines first line line)
    (past : ∀ line, next ≤ line → line < upTo →
      enclosed lines first line line = enclosed lines next line line) :
    outermost lines first upTo = first :: outermost lines next upTo := by
  have split : List.range' first (upTo - first) =
      first :: (List.range' (first + 1) (next - (first + 1)) ++
        List.range' next (upTo - next)) := by
    have counted : upTo - first = next - (first + 1) + (upTo - next) + 1 := by omega
    have joined : next = first + 1 + (next - (first + 1)) := by omega
    rw [counted, List.range'_succ, ← List.range'_append_1, ← joined]
  have own : enclosed lines first first first = false := by
    rw [enclosed, Nat.sub_self]
    rfl
  have skipped : (List.range' (first + 1) (next - (first + 1))).filter
      (fun line => !enclosed lines first line line) = [] := by
    refine List.filter_eq_nil_iff.mpr fun line member => ?_
    rw [List.mem_range'_1] at member
    rw [covered line (by omega) (by omega)]
    exact Bool.false_ne_true
  rw [outermost, split, List.filter_cons, own, List.filter_append, skipped]
  refine congrArg (first :: ·) (List.filter_congr fun line member => ?_)
  rw [List.mem_range'_1] at member
  rw [past line member.1 (by omega)]

def partAt (lines : List Line) (upTo index : Nat) : Part :=
  match registered? lines index with
  | none => .line index
  | some registration => .inner registration index (min (stop lines index) upTo)

theorem tilesOutermost (unattached : Unattached lines) {all : List Part}
    (tiles : Tiles lines upTo index all) :
    all = (outermost lines index upTo).map (partAt lines upTo) := by
  induction tiles with
  | @done index reached =>
    rw [outermost, Nat.sub_eq_zero_of_le reached]
    rfl
  | @line index rest before found tail ih =>
    have onward : outermost lines index upTo = index :: outermost lines (index + 1) upTo := by
      refine outermostNext (Nat.lt_succ_self index) before (by omega) fun line _ _ => ?_
      refine enclosedPast (Nat.le_succ index) fun inner above below some => ?_
      obtain rfl : inner = index := by omega
      rw [found] at some
      cases some
    rw [onward, List.map_cons, ← ih, partAt, found]
  | @inner index rest registration before found tail ih =>
    have some : (registered? lines index).isSome := by rw [found]; rfl
    have inside := registeredInside found
    rw [unattached.registrationStops] at ih ⊢
    have onward : outermost lines index upTo =
        index :: outermost lines (min (stop lines index) upTo) upTo := by
      refine outermostNext (Nat.lt_min.mpr ⟨startBeforeStop inside, before⟩) (Nat.min_le_right _ _)
        (fun line after within => ?_) fun line after within => ?_
      · exact enclosedIff.mpr
          ⟨index, ⟨Nat.le_refl _, after⟩, some, (Nat.lt_min.mp within).1⟩
      · -- What starts in the block ends with it at the latest.
        refine enclosedPast (Nat.le_of_lt (Nat.lt_min.mpr ⟨startBeforeStop inside, before⟩))
          fun inner above below opens => ?_
        obtain ⟨other, opened⟩ := Option.isSome_iff_exists.mp opens
        have ended : stop lines inner ≤ stop lines index := by
          rcases Nat.eq_or_lt_of_le above with rfl | later
          · exact Nat.le_refl _
          · exact stopNested found opened later (Nat.lt_min.mp below).1
        omega
    rw [onward, List.map_cons, ← ih, partAt, found]

end Block

structure Task.Prints (task : Task) (printed : List Source.Printed) : Prop where
  output : task.output = printed.head?.map fun first => String.ofList first.2
  extra : task.extra = printed.tail.map fun (index, text) => ((index : Int) + 1, String.ofList text)

namespace Source
open Block (Part enclosed enclosedNext outermost outermostMember partAt parts partsTile registered?
  registeredInside registrationStop stop stopNested tilesOutermost)

variable {lines : List Line} {start upTo : Nat} {registration : Registration}

def ownLines (lines : List Line) (start upTo : Nat) : List Nat :=
  (List.range' (start + 1) (upTo - (start + 1))).filter fun index =>
    !enclosed lines (start + 1) (index + 1) index

def ownPrinted (lines : List Line) (start upTo : Nat) (registration : Registration) :
    List Printed :=
  printedBy start (head lines start registration) ++
    (ownLines lines start upTo).flatMap fun index => printedBy index (stripped lines index)

def microtaskBlocks (lines : List Line) (start upTo : Nat) : List (Registration × Nat × Nat) :=
  (outermost lines (start + 1) upTo).filterMap fun index =>
    match registered? lines index with
    | none => none
    | some inner => if inner.lane = .microtask then some (inner, index, stop lines index) else none

theorem microtaskBlockFound {block : Registration × Nat × Nat}
    (member : block ∈ microtaskBlocks lines start upTo) :
    registered? lines block.2.1 = some block.1 ∧ block.2.2 = stop lines block.2.1 ∧
      start < block.2.1 ∧ block.2.1 < upTo := by
  obtain ⟨index, inside, found⟩ := List.mem_filterMap.mp member
  have bounds := (outermostMember.mp inside).1
  split at found
  · cases found
  · next inner opened =>
    rw [Option.ite_none_right_eq_some, Option.some_inj] at found
    obtain ⟨-, rfl⟩ := found
    exact ⟨opened, rfl, bounds⟩

theorem bodyLinesOwn (unattached : Block.Unattached lines) (start upTo : Nat) :
    bodyLines lines start upTo = ownLines lines start upTo := by
  have tiles := tilesOutermost unattached (partsTile lines (start + 1) upTo)
  rw [bodyLines, tiles, ownLines, List.filterMap_map, outermost, List.filterMap_filter,
    ← List.filterMap_eq_filter]
  refine List.filterMap_congr fun index member => ?_
  rw [List.mem_range'_1] at member
  rw [Option.guard, enclosedNext member.1, Function.comp_apply, partAt]
  cases registered? lines index <;> cases enclosed lines (start + 1) index index <;> rfl

theorem callbackPrintedOwn (unattached : Block.Unattached lines) (start upTo : Nat)
    (registration : Registration) :
    callbackPrinted lines start upTo registration = ownPrinted lines start upTo registration := by
  rw [callbackPrintedRead, texts, List.flatMap_cons, List.flatMap_map, bodyLinesOwn unattached]
  rfl

theorem nestedBlocksOutermost (unattached : Block.Unattached lines)
    (found : registered? lines start = some .timeout) :
    nestedBlocks lines start (stop lines start) .timeout =
      microtaskBlocks lines start (stop lines start) := by
  have tiles := tilesOutermost unattached (partsTile lines (start + 1) (stop lines start))
  rw [nestedBlocks, tiles, microtaskBlocks, List.filterMap_map]
  refine List.filterMap_congr fun index member => ?_
  have bounds := (outermostMember.mp member).1
  rw [Function.comp_apply, partAt]
  cases opened : registered? lines index with
  | none => rfl
  | some inner =>
    have whole : min (stop lines index) (stop lines start) = stop lines index :=
      Nat.min_eq_left (stopNested found opened bounds.1 bounds.2)
    simp only [whole, Registration.nestsIn]
    cases inner <;> rfl

theorem tasksPrint (unattached : Block.Unattached lines) {task : Task}
    {inner : Registration} (callback : registration ≠ .promise)
    (member : task ∈ tasks lines start upTo inner) {index : Nat}
    (reports : task.reports index registration) :
    (start = index ∧ inner = registration) ∧
      task.Prints (ownPrinted lines index upTo registration) := by
  cases inner with
  | promise =>
    obtain ⟨continuation, -, rfl⟩ := List.mem_map.mp member
    exact absurd (reportsDeferred.mp reports).2.symm callback
  | _ =>
    obtain rfl := List.mem_singleton.mp member
    obtain ⟨rfl, rfl⟩ := reportsDeferred.mp reports
    rw [callbackPrintedOwn unattached]
    exact ⟨⟨rfl, rfl⟩, rfl, rfl⟩

theorem jobsNested (unattached : Block.Unattached lines)
    (found : registered? lines start = some registration) {job : Job}
    (member : job ∈ jobs lines start (registrationStop lines start registration) registration) :
    job.nested = if registration = .timeout then
      (microtaskBlocks lines start (stop lines start)).flatMap (blockTasks lines) else [] := by
  obtain ⟨task, -, rfl⟩ := List.mem_map.mp member
  split
  · next timer =>
    subst timer
    rw [← nestedBlocksOutermost unattached found, unattached.registrationStops]
    rfl
  · next other =>
    simp only [nestedNone other, List.flatMap_nil]

theorem jobSource {job : Job} (member : job ∈ jobsOfLines lines) :
    (∃ line index, job = immediate line index) ∨ ∃ start registration,
      registered? lines start = some registration ∧
        job ∈ jobs lines start (registrationStop lines start registration) registration := by
  rw [← reportedAll, reportedHeard (Nat.le_refl _)] at member
  obtain ⟨index, -, reported⟩ := List.mem_flatMap.mp member
  unfold jobsAt at reported
  split at reported
  · exact .inl ⟨_, index, List.mem_singleton.mp reported⟩
  · split at reported
    · cases reported
    · next registration found => exact .inr ⟨index, registration, found, reported⟩

end Source

/-- In a program without attachments every callback prints what stands behind its opening and then
what the lines of its block print that are in no block starting below, line by line; so does a
callback that is nested, whose block is cut at the end of its timer's. Nested in a timer are the
tasks of the outermost blocks of microtasks in its body, and nothing is nested in another job. -/
theorem outputsInnermost (source : String)
    (unattached : Block.Unattached (Text.lines source.toList)) :
    let lines := Text.lines source.toList
    ∀ job ∈ jobsOf source,
      (∀ start registration, registration ≠ .promise → job.toTask.reports start registration →
        job.toTask.Prints
          (Source.ownPrinted lines start (Block.stop lines start) registration)) ∧
      (∀ timer, job.toTask.reports timer .timeout →
        job.nested = (Source.microtaskBlocks lines timer (Block.stop lines timer)).flatMap
          (Source.blockTasks lines) ∧
        ∀ task ∈ job.nested, ∀ start registration, registration ≠ .promise →
          task.reports start registration →
          task.Prints (Source.ownPrinted lines start
            (min (Block.stop lines start) (Block.stop lines timer)) registration)) ∧
      ((∀ timer, ¬ job.toTask.reports timer .timeout) → job.nested = []) := by
  intro lines job member
  rcases Source.jobSource member with ⟨line, index, rfl⟩ | ⟨opened, around, found, reported⟩
  · have other {start : Nat} {registration : Registration} :
        ¬ (Source.immediate line index).toTask.reports start registration := by
      cases registration <;> simp [Task.reports, Source.immediate, Registration.lane]
    exact ⟨fun _ _ _ reports => absurd reports other, fun _ reports => absurd reports other,
      fun _ => rfl⟩
  · have nested := Source.jobsNested unattached found reported
    obtain ⟨task, own, rfl⟩ := List.mem_map.mp reported
    have opens := unattached.registrationStops opened around
    refine ⟨fun start registration callback reports => ?_, fun timer reports => ?_, fun other => ?_⟩
    · obtain ⟨⟨rfl, rfl⟩, prints⟩ := Source.tasksPrint unattached callback own reports
      rwa [opens] at prints
    · obtain ⟨⟨rfl, rfl⟩, -⟩ :=
        Source.tasksPrint unattached (by exact Registration.noConfusion) own reports
      rw [if_pos rfl] at nested
      refine ⟨nested, fun inner inside start registration callback reports => ?_⟩
      rw [nested] at inside
      obtain ⟨⟨kind, first, next⟩, block, listed⟩ := List.mem_flatMap.mp inside
      obtain ⟨inner, ends, after, before⟩ := Source.microtaskBlockFound block
      obtain ⟨⟨rfl, rfl⟩, prints⟩ := Source.tasksPrint unattached callback listed reports
      have whole := Block.stopNested found inner after before
      rw [Nat.min_eq_left whole, ← ends]
      exact prints
    · rw [nested]
      refine if_neg ?_
      rintro rfl
      obtain rfl := List.mem_singleton.mp own
      exact other opened (Source.reportsDeferred.mpr ⟨rfl, rfl⟩)

def timerWithMicrotask : String :=
  "setTimeout(() => \x7b\n queueMicrotask(() => \x7b\n  console.log('a') \x7d)\n console.log('b')\n\x7d)"

theorem timerOwnsLastLine :
    let lines := Text.lines timerWithMicrotask.toList
    Block.Unattached lines ∧
      Source.ownPrinted lines 0 (Block.stop lines 0) .timeout = [(3, ['b'])] ∧
      Source.microtaskBlocks lines 0 (Block.stop lines 0) = [(.microtask, 1, 3)] ∧
      ∃ job ∈ jobsOf timerWithMicrotask,
        job.toTask.Prints (Source.ownPrinted lines 0 (Block.stop lines 0) .timeout) ∧
          job.nested = Source.blockTasks lines (.microtask, 1, 3) := by
  intro lines
  obtain ⟨unattached, own, blocks⟩ : Block.Unattached lines ∧
      Source.ownPrinted lines 0 (Block.stop lines 0) .timeout = [(3, ['b'])] ∧
      Source.microtaskBlocks lines 0 (Block.stop lines 0) = [(.microtask, 1, 3)] := by
    decide +kernel
  obtain ⟨job, member, reports⟩ :
      ∃ job ∈ jobsOf timerWithMicrotask, job.toTask.reports 0 .timeout := by decide +kernel
  obtain ⟨prints, nested, -⟩ := outputsInnermost timerWithMicrotask unattached job member
  refine ⟨unattached, own, blocks, job, member, ?_, ?_⟩
  · exact prints 0 .timeout Registration.noConfusion reports
  · rw [(nested 0 reports).1]
    refine (congrArg (List.flatMap (Source.blockTasks lines)) blocks).trans ?_
    exact List.flatMap_singleton _ _

end LoopPlayer
