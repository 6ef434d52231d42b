import LoopPlayer.Proofs.Printing
import LoopPlayer.Proofs.Readings

/-! How often the logging calls of a program are read. The blocks of reported tasks read their lines,
and a line with a call in the first column reads itself, be it in a body or not. -/
namespace LoopPlayer

namespace Source
open Text (Line occurrences)
open Block (partsTile registered? registeredInside registrationStop stop)

variable {lines : List Line}

def heard (lines : List Line) (index : Nat) : Bool :=
  !(claimed lines lines.length).any (covers index)

theorem heardAbove {index : Nat} (inside : index ≤ lines.length) :
    heard lines index = !(claimed lines index).any (covers index) := by
  rw [heard, coveredAbove inside]

def runsAtOnce (lines : List Line) (index : Nat) : Bool :=
  heard lines index && Logging.opening.isPrefixOf (lines[index]?.getD [])

def jobBlock? (lines : List Line) (index : Nat) : Option (Registration × Nat × Nat) :=
  if heard lines index then
    (registered? lines index).map fun registration =>
      (registration, index, registrationStop lines index registration)
  else none

def jobBlocks (lines : List Line) (count : Nat) : List (Registration × Nat × Nat) :=
  (List.range count).filterMap (jobBlock? lines)

/-- The blocks whose tasks are reported, those of jobs and those nested in jobs. -/
def readBlocks (lines : List Line) : List (Registration × Nat × Nat) :=
  jobBlocks lines lines.length ++ claimed lines lines.length

def readers (lines : List Line) (index : Nat) : Nat :=
  (readBlocks lines).countP fun block => (owned lines block).contains index

/-- A line that runs at once although a block reads it as well. -/
def exposed (lines : List Line) (index : Nat) : Bool :=
  runsAtOnce lines index && 0 < readers lines index

def total (tasks : List Task) : Nat := (tasks.map fun task => task.outputs.length).sum

theorem jobsAtTotal {index : Nat} (free : heard lines index = true) :
    total ((jobsAt lines index).map Job.toTask) ≤
      (if runsAtOnce lines index then 1 else 0) +
        ((jobBlock? lines index).toList.map (blockCalls lines)).sum := by
  rw [jobBlock?, if_pos free, runsAtOnce, free, Bool.true_and, jobsAt]
  split
  · rename_i column
    exact Nat.le_add_right 1 _
  · cases registered? lines index with
    | none => exact Nat.zero_le _
    | some registration =>
      let block := (registration, index, registrationStop lines index registration)
      have calls := tasksOutputs lines block
      rw [← jobsTasks] at calls
      exact Nat.le_trans calls (Nat.le_of_eq (by simp [block]))

theorem reportedTotal {count : Nat} (inside : count ≤ lines.length) :
    total ((reported lines count).map Job.toTask) ≤
      (List.range count).countP (runsAtOnce lines) +
        ((jobBlocks lines count).map (blockCalls lines)).sum := by
  induction count with
  | zero => exact Nat.le_refl _
  | succ index ih =>
    have above := ih (Nat.le_of_succ_le inside)
    have covered := heardAbove (Nat.le_of_succ_le inside)
    have blocks : jobBlocks lines (index + 1) =
        jobBlocks lines index ++ (jobBlock? lines index).toList := by
      rw [jobBlocks, List.range_succ, List.filterMap_append]
      cases found : jobBlock? lines index <;> simp [jobBlocks, found]
    rw [reportedNext, List.range_succ, List.countP_append, List.countP_singleton, blocks,
      List.map_append, List.sum_append]
    split
    · omega
    · rename_i free
      have here := @jobsAtTotal lines index (by simp [covered, free])
      have both : total ((reported lines index ++ jobsAt lines index).map Job.toTask) =
          total ((reported lines index).map Job.toTask) +
            total ((jobsAt lines index).map Job.toTask) := by
        simp only [total, List.map_append, List.sum_append]
      omega

theorem nestedTotal (lines : List Line) (count : Nat) :
    total ((reported lines count).flatMap Job.nested) ≤
      ((claimed lines count).map (blockCalls lines)).sum := by
  rw [nestedClaimed, total, sumFlatMap]
  exact List.sum_le_sum fun block _ => tasksOutputs lines block

theorem outputsTotal (jobs : List Job) :
    (jobs.flatMap Job.outputs).length =
      total (jobs.map Job.toTask) + total (jobs.flatMap Job.nested) := by
  induction jobs with
  | nil => rfl
  | cons job jobs ih =>
    have nested : (job.nested.flatMap Task.outputs).length = total job.nested := List.length_flatMap
    rw [List.flatMap_cons, List.length_append, ih, Job.outputs, List.length_append, nested]
    simp only [total, List.map_cons, List.sum_cons, List.flatMap_cons, List.map_append,
      List.sum_append]
    omega

theorem jobBlockFound {index : Nat} {block : Registration × Nat × Nat}
    (found : jobBlock? lines index = some block) :
    heard lines index = true ∧ block.2.1 = index ∧ Opened lines block := by
  rw [jobBlock?] at found
  split at found
  · rename_i free
    obtain ⟨registration, opens, rfl⟩ := Option.map_eq_some_iff.mp found
    exact ⟨free, rfl, opens, Nat.le_refl _⟩
  · cases found

theorem claimedOpened {count : Nat} {block : Registration × Nat × Nat}
    (member : block ∈ claimed lines count) : Opened lines block := by
  obtain ⟨timer, -, -, inside, -⟩ := claimedSource member
  obtain ⟨found, cut⟩ := (partsTile lines _ _).partsFound _ (memNestedBlocks.mp inside).1
  exact ⟨found, cut ▸ Nat.min_le_left _ _⟩

theorem readOpened {block : Registration × Nat × Nat} (member : block ∈ readBlocks lines) :
    Opened lines block := by
  rcases List.mem_append.mp member with job | nested
  · obtain ⟨index, -, found⟩ := List.mem_filterMap.mp job
    exact (jobBlockFound found).2.2
  · exact claimedOpened nested

theorem readStarts (lines : List Line) :
    (readBlocks lines).Pairwise fun a b => a.2.1 ≠ b.2.1 := by
  refine List.pairwise_append.mpr ⟨?_, ?_, fun a job b nested same => ?_⟩
  · refine List.pairwise_filterMap.mpr (List.pairwise_lt_range.imp ?_)
    intro i j before a fromA b fromB
    rw [(jobBlockFound fromA).2.1, (jobBlockFound fromB).2.1]
    exact Nat.ne_of_lt before
  · refine (claimedApart lines _).imp_of_mem fun {a b} first second apart same => ?_
    have boundA := (claimedBounds first).2
    have boundB := (claimedBounds second).2
    unfold Apart at apart
    omega
  · obtain ⟨index, -, found⟩ := List.mem_filterMap.mp job
    obtain ⟨free, start, -⟩ := jobBlockFound found
    have around : covers index b = true := by
      have bounds := (claimedBounds nested).2
      exact coversIff.mpr (by omega)
    rw [heard, List.any_eq_true.mpr ⟨b, nested, around⟩] at free
    cases free

theorem readOnce (chains : ChainsContained lines) (index : Nat) :
    (readBlocks lines).Pairwise fun a b =>
      (owned lines a).contains index → ¬ (owned lines b).contains index := by
  refine (readStarts lines).imp_of_mem fun first second different ofFirst ofSecond => ?_
  rw [List.contains_iff_mem] at ofFirst ofSecond
  rcases Nat.lt_or_gt_of_ne different with above | below
  · exact ownedApart chains (readOpened second) above ofFirst ofSecond
  · exact ownedApart chains (readOpened first) below ofSecond ofFirst

theorem stopWithin (lines : List Line) {start : Nat} (inside : start ≤ lines.length)
    (registration : Registration) : registrationStop lines start registration ≤ lines.length := by
  have block {start : Nat} (inside : start ≤ lines.length) : stop lines start ≤ lines.length := by
    have bound := Block.stopInside lines start
    omega
  have chain (fuel reached : Nat) (inside : reached ≤ lines.length) :
      Block.chainStop lines fuel reached ≤ lines.length := by
    induction fuel generalizing reached with
    | zero => exact inside
    | succ fuel ih =>
      rw [Block.chainStop]
      split
      · split
        · exact ih _ (block inside)
        · exact inside
      · exact inside
  cases registration with
  | promise => exact chain _ _ (block inside)
  | _ => exact block inside

theorem readWithin {block : Registration × Nat × Nat} (member : block ∈ readBlocks lines) :
    ∀ index ∈ owned lines block, index < lines.length := by
  obtain ⟨found, ends⟩ := readOpened member
  have start := registeredInside found
  have bound := stopWithin lines (Nat.le_of_lt start) block.1
  intro index own
  rcases List.mem_cons.mp own with rfl | body
  · exact start
  · have bounds := bodyLineBounds body
    omega

theorem runsAtOnceCalls {index : Nat} (runs : runsAtOnce lines index = true) :
    1 ≤ callsAt lines index := by
  have column := (Bool.and_eq_true_iff.mp runs).2
  rw [callsAt]
  cases line : lines[index]?.getD [] with
  | nil =>
    rw [line] at column
    exact absurd column (by decide)
  | cons c rest =>
    rw [line] at column
    rw [occurrences, if_pos column]
    exact Nat.le_add_right 1 _

theorem sumFilter {α : Type} (all : List α) (p : α → Bool) (count : α → Nat) :
    ((all.filter p).map count).sum = (all.map fun a => if p a then count a else 0).sum := by
  induction all with
  | nil => rfl
  | cons a all ih => cases kept : p a <;> simp [kept, ih]

theorem blockCallsByLine {block : Registration × Nat × Nat} (member : block ∈ readBlocks lines) :
    blockCalls lines block = ((List.range lines.length).map fun index =>
      if (owned lines block).contains index then callsAt lines index else 0).sum := by
  have same : (owned lines block).Perm
      ((List.range lines.length).filter fun index => (owned lines block).contains index) := by
    refine (List.perm_ext_iff_of_nodup (ownedDistinct lines block) (List.nodup_range.filter _)).mpr ?_
    intro index
    rw [List.mem_filter, List.mem_range, List.contains_iff_mem]
    exact ⟨fun own => ⟨readWithin member index own, own⟩, And.right⟩
  rw [blockCalls, (same.map (callsAt lines)).sum_eq, sumFilter]

theorem blocksCallsByLine {blocks : List (Registration × Nat × Nat)} (read : blocks ⊆ readBlocks lines) :
    (blocks.map (blockCalls lines)).sum = ((List.range lines.length).map fun index =>
      blocks.countP (fun block => (owned lines block).contains index) * callsAt lines index).sum := by
  induction blocks with
  | nil => simp
  | cons block rest ih =>
    obtain ⟨first, others⟩ := List.cons_subset.mp read
    rw [List.map_cons, List.sum_cons, blockCallsByLine first, ih others, ← List.sum_map_add]
    refine congrArg List.sum (List.map_congr_left fun index _ => ?_)
    rw [List.countP_cons]
    split <;> simp [Nat.add_mul, Nat.add_comm]

theorem readersCalls (lines : List Line) (all : List Nat) :
    all.countP (runsAtOnce lines) +
        (all.map fun index => readers lines index * callsAt lines index).sum ≤
      (all.map (callsAt lines)).sum + all.countP (exposed lines) +
        (all.map fun index => (readers lines index - 1) * callsAt lines index).sum := by
  induction all with
  | nil => exact Nat.le_refl _
  | cons index rest ih =>
    simp only [List.countP_cons, List.map_cons, List.sum_cons, exposed, Bool.and_eq_true,
      decide_eq_true_eq]
    cases count : readers lines index with
    | zero =>
      by_cases runs : runsAtOnce lines index = true
      · have loud := runsAtOnceCalls runs
        simp only [runs, if_true]
        omega
      · simp only [Bool.not_eq_true] at runs
        simp only [runs, Bool.false_eq_true, false_and, if_false]
        omega
    | succ others =>
      have again : (others + 1) * callsAt lines index =
          others * callsAt lines index + callsAt lines index := Nat.succ_mul _ _
      simp only [Nat.zero_lt_succ, and_true, Nat.add_sub_cancel, again]
      omega

def exposures (lines : List Line) : Nat := (List.range lines.length).countP (exposed lines)

def overlaps (lines : List Line) : Nat :=
  ((List.range lines.length).map fun index =>
    (readers lines index - 1) * callsAt lines index).sum

theorem callsByLine (lines : List Line) :
    (List.range lines.length).map (callsAt lines) = lines.map (occurrences Logging.opening) := by
  refine List.ext_getElem (by simp) fun index inside _ => ?_
  have bound : index < lines.length := by simpa using inside
  rw [List.getElem_map, List.getElem_range, List.getElem_map, callsAt,
    List.getElem?_eq_getElem bound, Option.getD_some]

theorem outputsCalls (lines : List Line) :
    ((jobsOfLines lines).flatMap Job.outputs).length ≤
      (lines.map (occurrences Logging.opening)).sum + exposures lines + overlaps lines := by
  have jobs := reportedTotal (Nat.le_refl lines.length)
  have nested := nestedTotal lines lines.length
  have split : ((readBlocks lines).map (blockCalls lines)).sum =
      ((jobBlocks lines lines.length).map (blockCalls lines)).sum +
        ((claimed lines lines.length).map (blockCalls lines)).sum := by
    rw [readBlocks, List.map_append, List.sum_append]
  have blocks : ((readBlocks lines).map (blockCalls lines)).sum =
      ((List.range lines.length).map fun index => readers lines index * callsAt lines index).sum :=
    blocksCallsByLine (List.Subset.refl _)
  have read := readersCalls lines (List.range lines.length)
  rw [callsByLine] at read
  rw [← reportedAll, outputsTotal, exposures, overlaps]
  omega

theorem overlapsNone (chains : ChainsContained lines) : overlaps lines = 0 := by
  refine List.sum_eq_zero fun again member => ?_
  obtain ⟨index, -, rfl⟩ := List.mem_map.mp member
  have once : readers lines index ≤ 1 := by
    rw [readers, countOnce (readOnce chains index)]
    split <;> omega
  rw [Nat.sub_eq_zero_of_le once, Nat.zero_mul]

end Source

theorem stepsPrinted (source : String) :
    (traceOf source).countP (fun step => step.output.isSome) =
      ((jobsOf source).flatMap Job.outputs).length := by
  rw [← (Trace.outputsPerm (jobsOfWellNested source)).length_eq, ← List.countP_true,
    List.countP_filterMap]
  refine List.countP_congr fun step _ => ?_
  cases step.output <;> simp

/-- A program prints once for each of its logging calls at most, and beyond that once for each line
that runs at once although a block reads it, and for each call that a second block reads. There is
nothing of the latter as long as chains keep to the blocks that they start in. -/
theorem callsPrintedOnce (source : String) :
    let lines := Text.lines source.toList
    (traceOf source).countP (fun step => step.output.isSome) ≤
        Text.occurrences Logging.opening source.toList + Source.exposures lines +
          Source.overlaps lines ∧
      (Source.ChainsContained lines → Source.overlaps lines = 0) := by
  intro lines
  refine ⟨?_, Source.overlapsNone⟩
  have calls : (lines.map (Text.occurrences Logging.opening)).sum ≤ _ :=
    Text.occurrencesLines Logging.opening source.toList
  have printed : ((jobsOf source).flatMap Job.outputs).length ≤ _ := Source.outputsCalls lines
  rw [stepsPrinted]
  omega

theorem columnCallPrintedTwice :
    let source := "setTimeout(() => \x7b\nconsole.log(\"a\");\n\x7d, 0);"
    Text.occurrences Logging.opening source.toList = 1 ∧
      (traceOf source).countP (fun step => step.output.isSome) = 2 := by decide +kernel

/- A chain that runs past the end of the block it starts in: the timer reads its last lines too. -/
example :
    let source := "setTimeout(() => \x7b\n requestIdleCallback(() => \x7b\n  Promise.resolve() \x7d)\n" ++
      " .then(() => \x7b\n  console.log(1) \x7d)\n\x7d)"
    let lines := Text.lines source.toList
    ¬ Source.ChainsContained lines ∧ Source.exposures lines = 0 ∧ Source.overlaps lines = 1 ∧
      Text.occurrences Logging.opening source.toList = 1 ∧
      (traceOf source).countP (fun step => step.output.isSome) = 2 := by decide +kernel

end LoopPlayer
