import LoopPlayer.Proofs.Effort
import LoopPlayer.Proofs.Insertion
import LoopPlayer.Proofs.Seam

/-! Blank lines and comments between the lines of a program. All that is read is read line by line,
comments with the rest, so a line that says nothing is seen when a call or an attachment is found on
it. Seen or not, it claims nothing, and of the blocks that are read each is read as before, or else it
has more to do. -/
namespace LoopPlayer
open Text (Line occurs)

namespace Source
open Block (Part Parted Severed Uncut parts registered? registeredInside registrationStop sunk sunkApart
  sunkAt sunkBefore sunkElse sunkMost sunkNext sunkRange)

def sunkLine (gap : Nat) (line : Int) : Int := if line ≤ gap then line else line + 1

theorem sunkLineNext (gap index : Nat) : sunkLine gap (index + 1) = sunk gap index + 1 := by
  unfold sunkLine sunk
  split <;> split <;> omega

def blockSunk (gap : Nat) (block : Registration × Nat × Nat) : Registration × Nat × Nat :=
  (block.1, sunk gap block.2.1, sunk (gap + 1) block.2.2)

theorem coversSunk (gap index : Nat) (block : Registration × Nat × Nat) :
    covers (sunk gap index) (blockSunk gap block) = covers index block := by
  rw [Bool.eq_iff_iff, coversIff, coversIff]
  exact and_congr sunkMost sunkBefore

/-- A block reads the line and finds something on it: a call, and for a chain an attachment or a call
that comes after one. -/
def disturbs (lines : List Line) (index : Nat) (block : Registration × Nat × Nat) : Bool :=
  (owned lines block).contains index &&
    match block.1 with
    | .promise =>
      occurs attachment (stripped lines index) ||
        occurs Logging.opening (stripped lines index) && (texts lines block).any fun read =>
          read.1 < index && occurs attachment read.2
    | _ => occurs Logging.opening (stripped lines index)

theorem heardRead {lines : List Line} {index : Nat} {registration : Registration}
    (found : registered? lines index = some registration) (free : heard lines index = true) :
    (registration, index, registrationStop lines index registration) ∈ readBlocks lines ∧
      ∀ block ∈ nestedBlocks lines index (registrationStop lines index registration) registration,
        block ∈ readBlocks lines := by
  have inside := List.mem_range.mpr (registeredInside found)
  refine ⟨List.mem_append_left _ (List.mem_filterMap.mpr ⟨index, inside, ?_⟩), fun block member =>
    List.mem_append_right _ ?_⟩
  · rw [jobBlock?, if_pos free, found]
    rfl
  · rw [← jobsClaimed, ← jobsAtFound found] at member
    obtain ⟨job, reports, claims⟩ := List.mem_flatMap.mp member
    refine List.mem_flatMap.mpr ⟨job, ?_, claims⟩
    rw [reportedHeard (Nat.le_refl _)]
    exact List.mem_flatMap.mpr ⟨index, List.mem_filter.mpr ⟨inside, free⟩, reports⟩

section Disturbance

variable {lines : List Line} {gap : Nat} {block : Registration × Nat × Nat}
  (reads : (owned lines block).contains gap = true)
include reads

theorem disturbsCallback (callback : block.1 ≠ .promise) :
    disturbs lines gap block = occurs Logging.opening (stripped lines gap) := by
  obtain ⟨registration, start, upTo⟩ := block
  rw [disturbs, reads, Bool.true_and]
  cases registration <;> first | rfl | exact absurd rfl callback

theorem disturbsChain (chain : block.1 = .promise) {above below : List Printed}
    (split : texts lines block = above ++ (gap, stripped lines gap) :: below)
    (before : ∀ read ∈ above, read.1 < gap) (later : ∀ read ∈ below, gap < read.1) :
    disturbs lines gap block = true ↔
      0 < gathered ((above.flatMap links).any Link.attached) (links (gap, stripped lines gap)) := by
  have live : ((texts lines block).any fun read => read.1 < gap && occurs attachment read.2) =
      (above.flatMap links).any Link.attached := by
    have behind : (((gap, stripped lines gap) :: below).any fun read =>
        read.1 < gap && occurs attachment read.2) = false := by
      refine List.any_eq_false.mpr fun read member found => ?_
      have above := (Bool.and_eq_true_iff.mp found).1
      rw [decide_eq_true_iff] at above
      rcases List.mem_cons.mp member with rfl | member
      · exact Nat.lt_irrefl gap above
      · exact Nat.lt_asymm above (later read member)
    rw [split, List.any_append, behind, Bool.or_false, List.any_flatMap]
    rw [Bool.eq_iff_iff, List.any_eq_true, List.any_eq_true]
    refine exists_congr fun read => and_congr_right fun member => ?_
    rw [linksAttached, decide_eq_true (before read member), Bool.true_and]
  obtain ⟨registration, start, upTo⟩ := block
  cases chain
  rw [disturbs, reads, Bool.true_and, live, linksGathered]
  simp [and_comm]

end Disturbance

section Parted

variable {lines whole : List Line} {gap : Nat} (parted : Parted lines whole gap)
include parted

theorem strippedParted (index : Nat) : stripped whole (sunk gap index) = stripped lines index := by
  rw [stripped, parted.sameLines, stripped]

theorem rangeParted : (List.range whole.length).filter (· != gap) =
    (List.range lines.length).map (sunk gap) := by
  obtain ⟨size, inside⟩ := parted.oneLonger
  rw [size, sunkRange (Nat.le_of_lt inside)]

variable (uncut : Uncut lines gap)
include uncut

theorem partsTold {α : Type} (told : Part → Option α) (nothing : told (.line gap) = none)
    (start upTo : Nat) :
    (parts whole (sunk gap start + 1) (sunk (gap + 1) upTo)).filterMap told =
      (parts lines (start + 1) upTo).filterMap (told ∘ Part.sunk gap) := by
  rw [← List.filterMap_map, ← parted.partsSunk uncut, sunkNext, List.filterMap_filter]
  refine List.filterMap_congr fun part _ => ?_
  by_cases same : part = .line gap <;> simp [same, nothing]

theorem bodyLinesParted (start upTo : Nat) :
    (bodyLines whole (sunk gap start) (sunk (gap + 1) upTo)).filter (· != gap) =
      (bodyLines lines start upTo).map (sunk gap) := by
  rw [bodyLines, List.filter_filterMap, partsTold parted uncut _ (by simp), bodyLines,
    List.map_filterMap]
  refine List.filterMap_congr fun part _ => ?_
  cases part with
  | line index => simp [Part.sunk, sunkApart]
  | inner registration first next => rfl

theorem textsParted (block : Registration × Nat × Nat) :
    (texts whole (blockSunk gap block)).filter (·.1 != gap) =
      (texts lines block).map (Printed.moved (sunk gap)) := by
  have opens : (sunk gap block.2.1 != gap) = true := bne_iff_ne.mpr sunkApart
  have first : head whole (sunk gap block.2.1) block.1 = head lines block.2.1 block.1 := by
    rw [head, strippedParted parted, head]
  have body := bodyLinesParted parted uncut block.2.1 block.2.2
  rw [texts, List.filter_cons_of_pos (by exact opens), List.filter_map]
  simp only [blockSunk, Function.comp_def, first, body]
  rw [texts, List.map_cons, List.map_map, List.map_map]
  refine congrArg _ (List.map_congr_left fun index _ => ?_)
  simp only [Function.comp_apply, strippedParted parted, Printed.moved]

theorem nestedParted (start upTo : Nat) (registration : Registration) :
    nestedBlocks whole (sunk gap start) (sunk (gap + 1) upTo) registration =
      (nestedBlocks lines start upTo registration).map (blockSunk gap) := by
  rw [nestedBlocks, partsTold parted uncut _ rfl, nestedBlocks, List.map_filterMap]
  refine List.filterMap_congr fun part _ => ?_
  cases part with
  | line index => rfl
  | inner inner first next =>
    cases nests : inner.nestsIn registration <;> simp [Part.sunk, nests, blockSunk]

theorem textsSplit (block : Registration × Nat × Nat) :
    (owned whole (blockSunk gap block)).contains gap = false ∧
        texts whole (blockSunk gap block) = (texts lines block).map (Printed.moved (sunk gap)) ∨
      (owned whole (blockSunk gap block)).contains gap = true ∧ ∃ above below,
        texts whole (blockSunk gap block) = above ++ (gap, stripped whole gap) :: below ∧
          (texts lines block).map (Printed.moved (sunk gap)) = above ++ below ∧
          (∀ read ∈ above, read.1 < gap) ∧ ∀ read ∈ below, gap < read.1 := by
  have kept := textsParted parted uncut block
  have numbered := textsOwned whole (blockSunk gap block)
  cases reads : (owned whole (blockSunk gap block)).contains gap with
  | false =>
    refine .inl ⟨rfl, ?_⟩
    rw [← kept, List.filter_eq_self.mpr fun read member => bne_iff_ne.mpr ?_]
    rintro rfl
    rw [← numbered] at reads
    simp [List.mem_map_of_mem member] at reads
  | true =>
    have ascending : (texts whole (blockSunk gap block)).Pairwise fun a b => a.1 < b.1 := by
      refine List.pairwise_map.mp ?_
      rw [numbered]
      exact ownedOrder whole _
    have member : (gap, stripped whole gap) ∈ texts whole (blockSunk gap block) := by
      rcases List.mem_cons.mp (List.contains_iff_mem.mp reads) with same | body
      · exact absurd same.symm sunkApart
      · exact List.mem_cons_of_mem _ (List.mem_map_of_mem body)
    obtain ⟨above, below, split⟩ := List.append_of_mem member
    rw [split] at ascending kept
    obtain ⟨-, later, before⟩ := List.pairwise_append.mp ascending
    have before : ∀ read ∈ above, read.1 < gap := fun read member =>
      before read member _ List.mem_cons_self
    have later : ∀ read ∈ below, gap < read.1 := (List.pairwise_cons.mp later).1
    have keptAbove : above.filter (·.1 != gap) = above :=
      List.filter_eq_self.mpr fun read member => bne_iff_ne.mpr (Nat.ne_of_lt (before read member))
    have keptBelow : below.filter (·.1 != gap) = below :=
      List.filter_eq_self.mpr fun read member => bne_iff_ne.mpr (Nat.ne_of_gt (later read member))
    refine .inr ⟨rfl, above, below, split, ?_, before, later⟩
    rw [← kept, List.filter_append, List.filter_cons_of_neg (by simp), keptAbove, keptBelow]

theorem tasksUndisturbed {block : Registration × Nat × Nat}
    (calm : ¬ disturbs whole gap (blockSunk gap block)) :
    blockTasks whole (blockSunk gap block) =
      (blockTasks lines block).map (Task.moved (sunkLine gap)) := by
  have moved := deferredMoved (sunk gap) (sunkLineNext gap)
  have split := textsSplit parted uncut block
  by_cases chain : block.1 = .promise
  · have sunkChain : (blockSunk gap block).1 = .promise := chain
    have same : (continuations ((texts whole (blockSunk gap block)).flatMap links)).2 =
        (continuations (((texts lines block).map (Printed.moved (sunk gap))).flatMap links)).2 := by
      rcases split with ⟨-, same⟩ | ⟨reads, above, below, now, old, before, later⟩
      · rw [same]
      · rw [disturbsChain reads sunkChain now before later] at calm
        rw [now, old, continuationsCalm calm]
    rw [chainTasksRead sunkChain, chainTasksRead chain, same, linksAllMoved, continuationsMoved,
      List.map_map, List.map_map]
    exact List.map_congr_left fun task _ => moved .promise task.1 task.2
  · have sunkCallback : (blockSunk gap block).1 ≠ .promise := chain
    have same : (texts whole (blockSunk gap block)).flatMap (fun read => printedBy read.1 read.2) =
        ((texts lines block).flatMap fun read => printedBy read.1 read.2).map
          (Printed.moved (sunk gap)) := by
      rw [← printedAllMoved]
      rcases split with ⟨-, same⟩ | ⟨reads, above, below, now, old, -, -⟩
      · rw [same]
      · rw [disturbsCallback reads sunkCallback, Bool.not_eq_true, ← Logging.outputsIff] at calm
        rw [now, old, List.flatMap_append, List.flatMap_cons, List.flatMap_append, printedBy, calm]
        rfl
    rw [callbackTasksRead sunkCallback, callbackTasksRead chain, same]
    exact congrArg ([·]) (moved block.1 block.2.1 _)

theorem effortDisturbed {block : Registration × Nat × Nat}
    (disturbed : disturbs whole gap (blockSunk gap block)) :
    effort (blockTasks lines block) < effort (blockTasks whole (blockSunk gap block)) := by
  have reads : (owned whole (blockSunk gap block)).contains gap = true :=
    (Bool.and_eq_true_iff.mp disturbed).1
  rcases textsSplit parted uncut block with ⟨unread, -⟩ | ⟨-, above, below, now, old, before, later⟩
  · rw [reads] at unread
    cases unread
  by_cases chain : block.1 = .promise
  · have sunkChain : (blockSunk gap block).1 = .promise := chain
    rw [disturbsChain reads sunkChain now before later] at disturbed
    have linked : gathered false ((texts lines block).flatMap links) =
        gathered false ((above ++ below).flatMap links) := by
      rw [← old, linksAllMoved, gatheredMoved]
    rw [chainEffort chain, chainEffort sunkChain, linked, now]
    exact gatheredMore disturbed
  · have sunkCallback : (blockSunk gap block).1 ≠ .promise := chain
    rw [disturbsCallback reads sunkCallback] at disturbed
    have printed : 0 < (Logging.outputs (stripped whole gap)).length := by
      rw [List.length_pos_iff, Ne, Logging.outputsIff, disturbed]
      exact Bool.noConfusion
    have counted : ((texts lines block).map fun read => (Logging.outputs read.2).length).sum =
        ((above ++ below).map fun read => (Logging.outputs read.2).length).sum := by
      rw [← old, List.map_map]
      rfl
    rw [callbackEffort chain, callbackEffort sunkCallback, counted, now, List.map_append,
      List.map_append, List.map_cons, List.sum_append, List.sum_append, List.sum_cons]
    exact Nat.add_lt_add_left (Nat.add_lt_add_left (Nat.lt_add_of_pos_left printed) _) _

theorem claimedParted (count : Nat) :
    claimed whole (sunk (gap + 1) count) = (claimed lines count).map (blockSunk gap) := by
  induction count with
  | zero => rfl
  | succ index ih =>
    have above : claimed whole (sunk gap index) = (claimed lines index).map (blockSunk gap) := by
      by_cases here : index = gap
      · subst here
        have next : sunk index index = index + 1 := if_neg (Nat.lt_irrefl index)
        rw [sunkAt] at ih
        rw [next, claimedStep, parted.gapUnregistered]
        simp [ih]
      · rw [← sunkElse here, ih]
    have timers : (if registered? lines index = some .timeout then timerBlocks whole (sunk gap index)
        else []) = (if registered? lines index = some .timeout then timerBlocks lines index
          else []).map (blockSunk gap) := by
      split
      · rw [timerBlocks, parted.stopSunk, nestedParted parted uncut]
        rfl
      · rfl
    have covered : ((claimed lines index).map (blockSunk gap)).any (covers (sunk gap index)) =
        (claimed lines index).any (covers index) := by
      rw [List.any_map]
      exact congrArg _ (funext (coversSunk gap index))
    rw [sunkNext, claimedStep, above, covered, parted.sameRegistration, timers, claimedStep]
    split
    · rfl
    · exact List.map_append.symm

theorem claimedWhole :
    claimed whole whole.length = (claimed lines lines.length).map (blockSunk gap) := by
  obtain ⟨size, inside⟩ := parted.oneLonger
  have ends : whole.length = sunk (gap + 1) lines.length := by
    rw [size, sunk, if_neg (by omega)]
  rw [ends, claimedParted parted uncut]

theorem heardParted (index : Nat) : heard whole (sunk gap index) = heard lines index := by
  rw [heard, claimedWhole parted uncut, List.any_map, heard]
  exact congrArg (!(claimed lines lines.length).any ·) (funext (coversSunk gap index))

theorem jobBlockParted (index : Nat) :
    jobBlock? whole (sunk gap index) = (jobBlock? lines index).map (blockSunk gap) := by
  rw [jobBlock?, heardParted parted uncut, parted.sameRegistration, jobBlock?]
  split
  · cases found : registered? lines index with
    | none => rfl
    | some registration =>
      have stops := parted.registrationStops found
      rw [if_neg (uncut index (registeredInside found))] at stops
      simp only [Option.map_some, stops]
      rfl
  · rfl

theorem readBlocksParted : readBlocks whole = (readBlocks lines).map (blockSunk gap) := by
  have nothing : jobBlock? whole gap = none := by
    rw [jobBlock?, parted.gapUnregistered]
    split <;> rfl
  have kept : (List.range whole.length).filterMap (jobBlock? whole) =
      ((List.range whole.length).filter (· != gap)).filterMap (jobBlock? whole) := by
    rw [List.filterMap_filter]
    refine List.filterMap_congr fun index _ => ?_
    by_cases same : index = gap <;> simp [same, nothing]
  have jobs : jobBlocks whole whole.length = (jobBlocks lines lines.length).map (blockSunk gap) := by
    rw [jobBlocks, kept, rangeParted parted, List.filterMap_map, jobBlocks, List.map_filterMap]
    exact List.filterMap_congr fun index _ => jobBlockParted parted uncut index
  rw [readBlocks, jobs, claimedWhole parted uncut, readBlocks, List.map_append]

theorem jobsAtParted (calm : ∀ block ∈ readBlocks whole, ¬ disturbs whole gap block) {index : Nat}
    (free : heard lines index = true) :
    jobsAt whole (sunk gap index) = (jobsAt lines index).map (Job.moved (sunkLine gap)) := by
  have undisturbed {block : Registration × Nat × Nat} (member : block ∈ readBlocks lines) :
      blockTasks whole (blockSunk gap block) =
        (blockTasks lines block).map (Task.moved (sunkLine gap)) := by
    refine tasksUndisturbed parted uncut (calm _ ?_)
    rw [readBlocksParted parted uncut]
    exact List.mem_map_of_mem member
  cases found : registered? lines index with
  | none =>
    rw [jobsAt, jobsAt, parted.sameLines, parted.sameRegistration, found]
    split
    · simp only [immediate, Job.moved, Task.moved, sunkLineNext, List.map_cons, List.map_nil]
    · rfl
  | some registration =>
    have opened := parted.sameRegistration index
    rw [found] at opened
    have stops := parted.registrationStops found
    rw [if_neg (uncut index (registeredInside found))] at stops
    obtain ⟨own, inner⟩ := heardRead found free
    have tasks : tasks whole (sunk gap index) (sunk (gap + 1)
        (registrationStop lines index registration)) registration =
        (tasks lines index (registrationStop lines index registration) registration).map
          (Task.moved (sunkLine gap)) := undisturbed own
    have nested : (nestedBlocks whole (sunk gap index) (sunk (gap + 1)
          (registrationStop lines index registration)) registration).flatMap (blockTasks whole) =
        ((nestedBlocks lines index (registrationStop lines index registration)
          registration).flatMap (blockTasks lines)).map (Task.moved (sunkLine gap)) := by
      rw [nestedParted parted uncut, List.flatMap_map, List.map_flatMap]
      exact List.flatMap_congr fun block member => undisturbed (inner block member)
    rw [jobsAtFound opened, jobsAtFound found, stops, jobs, jobs, tasks, List.map_map, List.map_map]
    refine List.map_congr_left fun task _ => ?_
    exact congrArg (Job.mk (task.moved (sunkLine gap))) nested

theorem jobsParted (calm : ∀ block ∈ readBlocks whole, ¬ disturbs whole gap block) :
    jobsOfLines whole = (jobsOfLines lines).map (Job.moved (sunkLine gap)) := by
  have nothing : jobsAt whole gap = [] := by
    obtain ⟨line, found, inert⟩ := parted.gapInert
    rw [jobsAt, parted.gapUnregistered, found, Option.getD_some, inert.notAtOnce]
    rfl
  have kept (all : List Nat) : (all.filter (· != gap)).flatMap (jobsAt whole) =
      all.flatMap (jobsAt whole) := by
    induction all with
    | nil => rfl
    | cons index rest ih =>
      by_cases same : index = gap <;> simp [same, nothing, ih]
  have alike : heard whole ∘ sunk gap = heard lines := funext (heardParted parted uncut)
  rw [← reportedAll, reportedHeard (Nat.le_refl _), ← kept, List.filter_comm, rangeParted parted,
    List.filter_map, alike, List.flatMap_map, ← reportedAll, reportedHeard (Nat.le_refl _),
    List.map_flatMap]
  exact List.flatMap_congr fun index member =>
    jobsAtParted parted uncut calm (List.mem_filter.mp member).2

theorem atOnceParted : (List.range whole.length).countP (runsAtOnce whole) =
    (List.range lines.length).countP (runsAtOnce lines) := by
  have nothing : runsAtOnce whole gap = false := by
    obtain ⟨line, found, inert⟩ := parted.gapInert
    rw [runsAtOnce, found, Option.getD_some, inert.notAtOnce, Bool.and_false]
  have alike (index : Nat) : runsAtOnce whole (sunk gap index) = runsAtOnce lines index := by
    rw [runsAtOnce, heardParted parted uncut, parted.sameLines, runsAtOnce]
  have kept : (List.range whole.length).countP (runsAtOnce whole) =
      ((List.range whole.length).filter (· != gap)).countP (runsAtOnce whole) := by
    rw [List.countP_filter]
    refine List.countP_congr fun index _ => ?_
    by_cases same : index = gap <;> simp [same, nothing]
  rw [kept, rangeParted parted, List.countP_map]
  exact List.countP_congr fun index _ => by rw [Function.comp_apply, alike]

theorem effortParted (disturbed : ∃ block ∈ readBlocks whole, disturbs whole gap block) :
    effort ((jobsOfLines lines).flatMap Job.tasks) <
      effort ((jobsOfLines whole).flatMap Job.tasks) := by
  have still (tasks : List Task) : effort (tasks.map (Task.moved (sunkLine gap))) = effort tasks := by
    have outputs (task : Task) : (task.moved (sunkLine gap)).outputs = task.outputs := by
      simp [Task.outputs, Task.moved]
    rw [effort, List.map_map, effort]
    exact congrArg List.sum (List.map_congr_left fun task _ => by rw [Function.comp_apply, outputs])
  have either (block : Registration × Nat × Nat) : effort (blockTasks lines block) ≤
      effort (blockTasks whole (blockSunk gap block)) := by
    by_cases calm : disturbs whole gap (blockSunk gap block)
    · exact Nat.le_of_lt (effortDisturbed parted uncut calm)
    · rw [tasksUndisturbed parted uncut calm, still]
  obtain ⟨block, member, disturbed⟩ := disturbed
  rw [readBlocksParted parted uncut] at member
  obtain ⟨block, inside, rfl⟩ := List.mem_map.mp member
  rw [programEffort, programEffort, atOnceParted parted uncut, readBlocksParted parted uncut,
    List.map_map]
  refine Nat.add_lt_add_left (List.sum_lt_sum _ _ (fun block _ => either block) ?_) _
  exact ⟨block, inside, effortDisturbed parted uncut disturbed⟩

omit uncut in
theorem jobsAtSevered {start : Nat} (severed : Severed lines gap start) :
    jobsAt whole start = jobs lines start gap .promise := by
  obtain ⟨chain, seam⟩ := severed
  have place (index : Nat) (above : index < gap) : sunk gap index = index := if_pos above
  have starts : start < gap := Nat.lt_of_lt_of_le (Block.startBeforeStop (registeredInside chain))
    (Block.seamsBefore seam).1
  have opened := parted.sameRegistration start
  have stops := parted.registrationStops chain
  rw [place start starts, chain] at opened
  rw [place start starts, if_pos ⟨chain, seam⟩] at stops
  have same (index : Nat) (above : index < gap) : stripped whole index = stripped lines index := by
    rw [← strippedParted parted, place index above]
  have parts := parted.bodyAbove (Nat.le_refl gap) (start + 1)
  have texts : chainTexts whole start gap = chainTexts lines start gap := by
    rw [chainTexts, chainTexts, head, head, same start starts, parts]
    refine congrArg _ (List.filterMap_congr fun part member => ?_)
    have bounds := (Block.partsTile lines (start + 1) gap).partsWithin part member
    cases part with
    | line index => exact congrArg (fun text => some (index, text)) (same index bounds.2.2)
    | inner registration first next => rfl
  rw [jobsAtFound opened, stops, jobs, jobs, nestedNone Registration.noConfusion,
    nestedNone Registration.noConfusion, tasks, tasks, chainTasks, chainTasks, texts]
  rfl

end Parted
end Source

/-- A line that says nothing between the lines of a program. Where no chain goes on directly below it,
it leaves the trace as it was, with all lines below it further down by one, exactly if no block that
reads it finds a call or an attachment on it. A chain that goes on directly below it is cut there. -/
theorem inertUnlessRead (upper line lower : String) (inert : Inert line.toList) :
    let source := upper ++ "\n" ++ lower
    let longer := upper ++ "\n" ++ line ++ "\n" ++ lower
    let lines := Text.lines source.toList
    let whole := Text.lines longer.toList
    let gap := (Text.lines upper.toList).length
    (Block.Uncut lines gap →
      (traceOf longer = (traceOf source).map (Step.moved (Source.sunkLine gap)) ↔
        ∀ block ∈ Source.readBlocks whole, ¬ Source.disturbs whole gap block)) ∧
    ∀ start, Block.Severed lines gap start →
      Source.jobsAt whole start = Source.jobs lines start gap .promise := by
  intro source longer lines whole gap
  have above : lines = Text.lines upper.toList ++ Text.lines lower.toList := by
    rw [← Text.linesAppend, ← List.singleton_append]
    simp only [lines, source, String.toList_append, List.append_assoc]
    rfl
  have longerLines : whole = Text.lines upper.toList ++
      Text.dropReturn line.toList :: Text.lines lower.toList := by
    rw [← List.singleton_append, ← Text.linesReturned inert.oneLine, ← Text.linesAppend,
      ← Text.linesAppend]
    simp only [whole, longer, String.toList_append, List.append_assoc]
    rfl
  have below : Text.lines lower.toList ≠ [] := by
    rw [Text.lines, Ne, List.map_eq_nil_iff]
    exact Text.piecesNonempty _ _ _
  have parted : Block.Parted lines whole gap := by
    rw [above, longerLines]
    exact .mk inert.dropReturn below
  refine ⟨fun uncut => ⟨fun same => ?_, fun calm => ?_⟩, fun start => Source.jobsAtSevered parted⟩
  · have effort : Source.effort ((jobsOf longer).flatMap Job.tasks) =
        Source.effort ((jobsOf source).flatMap Job.tasks) := by
      rw [← traceEffort, ← traceEffort, same, List.countP_map, List.countP_map]
      rfl
    intro block member disturbed
    have more := Source.effortParted parted uncut ⟨block, member, disturbed⟩
    exact absurd effort (Nat.ne_of_gt more)
  · rw [traceOf, traceOf, jobsOf, jobsOf, Source.jobsParted parted uncut calm, Trace.ofJobsMoved]

theorem bracesCommented :
    let timer := "setTimeout(() => \x7b\n queueMicrotask(() => \x7b"
    let rest := "  console.log('a');\n \x7d);\n\x7d, 0);"
    let chain := "Promise.resolve()"
    let further := " .then(() => \x7b\n \x7d);"
    Block.Uncut (Text.lines (timer ++ "\n" ++ rest).toList) 2 ∧
      traceOf (timer ++ "\n" ++ "  // \x7d) .then(" ++ "\n" ++ rest) =
        (traceOf (timer ++ "\n" ++ rest)).map (Step.moved (Source.sunkLine 2)) ∧
      Block.Severed (Text.lines (chain ++ "\n" ++ further).toList) 1 0 ∧
      Source.jobsAt (Text.lines (chain ++ "\n" ++ " " ++ "\n" ++ further).toList) 0 = [] := by
  intro timer rest chain further
  have two : (Text.lines timer.toList).length = 2 := by decide +kernel
  have one : (Text.lines chain.toList).length = 1 := by decide +kernel
  have uncut : Block.Uncut (Text.lines (timer ++ "\n" ++ rest).toList) 2 := by decide +kernel
  have severed : Block.Severed (Text.lines (chain ++ "\n" ++ further).toList) 1 0 := by decide +kernel
  have commented := (inertUnlessRead timer "  // \x7d) .then(" rest (by decide +kernel)).1
  have parted := (inertUnlessRead chain " " further (by decide +kernel)).2 0
  rw [two] at commented
  rw [one] at parted
  refine ⟨uncut, (commented uncut).mpr (by decide +kernel), severed, (parted severed).trans ?_⟩
  decide +kernel

theorem inertLinesRead :
    let told (upper line lower : String) := upper ++ "\n" ++ line ++ "\n" ++ lower
    let untold (upper lower : String) := upper ++ "\n" ++ lower
    (Inert " // console.log('a')".toList ∧ traceOf
        (told "setTimeout(() => \x7b" " // console.log('a')" "\x7d, 0);") ≠
      (traceOf (untold "setTimeout(() => \x7b" "\x7d, 0);")).map (Step.moved (Source.sunkLine 1))) ∧
    (Inert " // .then(".toList ∧ traceOf
        (told "Promise.resolve()\n .then(() => \x7b" " // .then(" " \x7d);") ≠
      (traceOf (untold "Promise.resolve()\n .then(() => \x7b" " \x7d);")).map
        (Step.moved (Source.sunkLine 2))) ∧
    Inert "".toList ∧ traceOf (told "Promise.resolve()" "" " .then(() => \x7b\n \x7d);") ≠
      (traceOf (untold "Promise.resolve()" " .then(() => \x7b\n \x7d);")).map
        (Step.moved (Source.sunkLine 1)) := by
  decide +kernel

end LoopPlayer
