import LoopPlayer.Proofs.Accounts
import LoopPlayer.Proofs.Moved

/-! Programs one below the other. Scanning looks ahead for the end of a block, and a timer above
claims lines below, but where every block of the upper program closes in it and the lower one
attaches nothing, neither reaches over the seam: the jobs are those of the upper program and, with
their lines moved down, those of the lower. -/
namespace LoopPlayer
open Text (Line strip)

def Task.lowered (above : Nat) (task : Task) : Task :=
  { task with
    line := task.line + above
    extra := task.extra.map fun (line, text) => (line + above, text) }

def Job.lowered (above : Nat) (job : Job) : Job :=
  { job with
    toTask := job.toTask.lowered above
    nested := job.nested.map (Task.lowered above) }

namespace Block

def Part.lowered (above : Nat) : Part → Part
  | line index => line (above + index)
  | inner registration start stop => inner registration (above + start) (above + stop)

def Leads (line : Line) : Prop := Registration.start? (strip line) ≠ none ∨ attaches line

instance (line : Line) : Decidable (Leads line) := inferInstanceAs (Decidable (_ ∨ _))

/-- Lines that stand among others, below the first `above` of them, with no block that reaches out
of them. -/
structure Embedded (lines whole : List Line) (above : Nat) : Prop where
  room : above + lines.length ≤ whole.length
  same : ∀ index < lines.length, whole[above + index]? = lines[index]?
  stops : ∀ index (inside : index < lines.length), Leads lines[index] →
    stop whole (above + index) = above + stop lines index
  ends : ∀ line ∈ whole[above + lines.length]?, ¬ attaches line

namespace Embedded

variable {lines whole : List Line} {above : Nat}

theorem sameRegistration (embedded : Embedded lines whole above) {index : Nat}
    (inside : index < lines.length) : registered? whole (above + index) = registered? lines index := by
  rw [registered?, embedded.same index inside, registered?]

theorem stopRegistered (embedded : Embedded lines whole above) {index : Nat}
    {registration : Registration} (found : registered? lines index = some registration) :
    stop whole (above + index) = above + stop lines index := by
  have inside := registeredInside found
  rw [registered?, List.getElem?_eq_getElem inside, Option.getD_some] at found
  exact embedded.stops index inside (.inl (by simp [found]))

theorem chainEnds (embedded : Embedded lines whole above) (fuel : Nat) :
    chainStop whole fuel (above + lines.length) = above + lines.length := by
  cases fuel with
  | zero => rfl
  | succ fuel =>
    rw [chainStop]
    split
    · next line found => rw [if_neg (embedded.ends line found)]
    · rfl

theorem chainStopEmbedded (embedded : Embedded lines whole above) {fuel more reached : Nat}
    (inside : reached ≤ lines.length) (enough : lines.length ≤ reached + fuel)
    (larger : fuel ≤ more) :
    chainStop whole more (above + reached) = above + chainStop lines fuel reached := by
  -- the fuel of either chain is more than the blocks that can be attached
  induction fuel generalizing more reached with
  | zero =>
    obtain rfl : reached = lines.length := by omega
    exact embedded.chainEnds more
  | succ fuel ih =>
    obtain ⟨more, rfl⟩ := Nat.exists_eq_succ_of_ne_zero (Nat.ne_of_gt (Nat.lt_of_lt_of_le
      (Nat.succ_pos fuel) larger))
    rcases Nat.eq_or_lt_of_le inside with rfl | before
    · rw [embedded.chainEnds, chainStop, List.getElem?_eq_none (Nat.le_refl _)]
    · rw [chainStop, chainStop, embedded.same reached before, List.getElem?_eq_getElem before]
      by_cases attached : attaches lines[reached]
      · have later := startBeforeStop before
        have bound := stopInside lines reached
        simp only [attached, if_true]
        rw [embedded.stops reached before (.inr attached)]
        exact ih (by omega) (by omega) (by omega)
      · simp only [attached, Bool.false_eq_true, if_false]

theorem registrationStops (embedded : Embedded lines whole above) {index : Nat}
    {registration : Registration} (found : registered? lines index = some registration) :
    registrationStop whole (above + index) registration =
      above + registrationStop lines index registration := by
  have block := embedded.stopRegistered found
  cases registration with
  | promise =>
    have inside := registeredInside found
    have bound := stopInside lines index
    have room := embedded.room
    rw [registrationStop, block]
    exact embedded.chainStopEmbedded (by omega) (by omega) (by omega)
  | _ => exact block

theorem bodyFrom (embedded : Embedded lines whole above) {upTo : Nat}
    (inside : upTo ≤ lines.length) (fuel index : Nat) :
    partsFrom whole (above + upTo) fuel (above + index) =
      (partsFrom lines upTo fuel index).map (Part.lowered above) := by
  induction fuel generalizing index with
  | zero => rfl
  | succ fuel ih =>
    rw [partsFrom, partsFrom]
    by_cases before : index < upTo
    · have same := embedded.sameRegistration (Nat.lt_of_lt_of_le before inside)
      simp only [registered?] at same
      rw [if_pos (Nat.add_lt_add_left before above), if_pos before, same]
      cases found : Registration.start? (strip (lines[index]?.getD [])) with
      | none => exact congrArg (Part.line (above + index) :: ·) (ih (index + 1))
      | some registration =>
        have opened : registered? lines index = some registration := found
        have stops := embedded.registrationStops opened
        simp only [stops, Nat.add_min_add_left, List.map_cons, ih]
        rfl
    · rw [if_neg (fun later => before (Nat.lt_of_add_lt_add_left later)), if_neg before]
      rfl

theorem partsEmbedded (embedded : Embedded lines whole above) {upTo : Nat}
    (inside : upTo ≤ lines.length) (start : Nat) :
    parts whole (above + start) (above + upTo) =
      (parts lines start upTo).map (Part.lowered above) := by
  rw [parts, Nat.add_sub_add_left]
  exact embedded.bodyFrom inside _ start

end Embedded
end Block

namespace Source
open Block (Embedded Part parts partsTile registered? registeredInside registrationStop stop)

def Printed.lowered (above : Nat) (printed : Printed) : Printed := (above + printed.1, printed.2)

def Link.lowered (above : Nat) (link : Link) : Link := { link with line := above + link.line }

def blockLowered (above : Nat) (block : Registration × Nat × Nat) : Registration × Nat × Nat :=
  (block.1, above + block.2.1, above + block.2.2)

theorem printedLowered (above index : Nat) (text : List Char) :
    printedBy (above + index) text = (printedBy index text).map (Printed.lowered above) :=
  printedMoved (above + ·) index text

theorem linksLowered (above : Nat) (reads : List Printed) :
    (reads.map (Printed.lowered above)).flatMap links = (reads.flatMap links).map (Link.lowered above) :=
  linksAllMoved (above + ·) reads

theorem continuationsLowered (above : Nat) (all : List Link) :
    continuations (all.map (Link.lowered above)) =
      ((continuations all).1.map (Printed.lowered above),
        (continuations all).2.map fun (index, printed) =>
          (above + index, printed.map (Printed.lowered above))) :=
  continuationsMoved (above + ·) all

theorem deferredLowered (registration : Registration) (above start : Nat) (printed : List Printed) :
    deferred registration (above + start) (printed.map (Printed.lowered above)) =
      (deferred registration start printed).lowered above := by
  let move : Int → Int := (· + above)
  have line (index : Nat) : move (index + 1) = ((above + index : Nat) : Int) + 1 := by
    simp only [move]
    omega
  exact deferredMoved (above + ·) line registration start printed

section

variable {lines whole : List Line} {above start stop : Nat}

theorem strippedSame (embedded : Embedded lines whole above) {index : Nat}
    (inside : index < lines.length) : stripped whole (above + index) = stripped lines index := by
  rw [stripped, embedded.same index inside, stripped]

theorem bodyInside (inside : stop ≤ lines.length) {part : Part}
    (member : part ∈ parts lines (start + 1) stop) : part.first < lines.length := by
  have bounds := (partsTile lines (start + 1) stop).partsWithin part member
  omega

theorem callbackLowered (embedded : Embedded lines whole above) (opens : start < lines.length)
    (inside : stop ≤ lines.length) (registration : Registration) :
    callbackPrinted whole (above + start) (above + stop) registration =
      (callbackPrinted lines start stop registration).map (Printed.lowered above) := by
  rw [callbackPrinted, callbackPrinted, head, head, strippedSame embedded opens, printedLowered,
    Nat.add_assoc, embedded.partsEmbedded inside, List.map_append, List.flatMap_map,
    List.map_flatMap]
  refine congrArg _ (List.flatMap_congr fun part member => ?_)
  cases part with
  | line index =>
    have line : index < lines.length := bodyInside inside member
    simp only [Part.lowered, strippedSame embedded line, printedLowered]
  | inner registration first next => rfl

theorem chainTextsLowered (embedded : Embedded lines whole above) (opens : start < lines.length)
    (inside : stop ≤ lines.length) :
    chainTexts whole (above + start) (above + stop) =
      (chainTexts lines start stop).map (Printed.lowered above) := by
  rw [chainTexts, chainTexts, head, head, strippedSame embedded opens, Nat.add_assoc,
    embedded.partsEmbedded inside, List.map_cons, List.filterMap_map, List.map_filterMap]
  refine congrArg _ (List.filterMap_congr fun part member => ?_)
  cases part with
  | line index =>
    have line : index < lines.length := bodyInside inside member
    simp only [Function.comp_apply, Part.lowered, strippedSame embedded line]
    rfl
  | inner registration first next => rfl

theorem tasksLowered (embedded : Embedded lines whole above) (opens : start < lines.length)
    (inside : stop ≤ lines.length) (registration : Registration) :
    tasks whole (above + start) (above + stop) registration =
      (tasks lines start stop registration).map (Task.lowered above) := by
  cases registration with
  | promise =>
    simp only [tasks, chainTasks, chainTextsLowered embedded opens inside, linksLowered,
      continuationsLowered, List.map_map]
    exact List.map_congr_left fun task _ => deferredLowered .promise above task.1 task.2
  | _ =>
    simp only [tasks, callbackLowered embedded opens inside, deferredLowered, List.map_cons,
      List.map_nil]

theorem nestedLowered (embedded : Embedded lines whole above) (inside : stop ≤ lines.length)
    (start : Nat) (registration : Registration) :
    nestedBlocks whole (above + start) (above + stop) registration =
      (nestedBlocks lines start stop registration).map (blockLowered above) := by
  rw [nestedBlocks, nestedBlocks, Nat.add_assoc, embedded.partsEmbedded inside, List.filterMap_map,
    List.map_filterMap]
  refine List.filterMap_congr fun part _ => ?_
  cases part with
  | line index => rfl
  | inner inner first next =>
    simp only [Function.comp_apply, Part.lowered]
    by_cases nests : inner.nestsIn registration
    · simp only [nests, if_true]
      rfl
    · simp only [nests, Bool.false_eq_true, if_false]
      rfl

theorem jobsLowered (embedded : Embedded lines whole above) (opens : start < lines.length)
    (inside : stop ≤ lines.length) (registration : Registration) :
    jobs whole (above + start) (above + stop) registration =
      (jobs lines start stop registration).map (Job.lowered above) := by
  have nested : (nestedBlocks whole (above + start) (above + stop) registration).flatMap
        (fun block => tasks whole block.2.1 block.2.2 block.1) =
      ((nestedBlocks lines start stop registration).flatMap
        fun block => tasks lines block.2.1 block.2.2 block.1).map (Task.lowered above) := by
    rw [nestedLowered embedded inside, List.flatMap_map, List.map_flatMap]
    refine List.flatMap_congr fun (inner, first, next) member => ?_
    have bounds := (partsTile lines _ _).partsWithin _ (memNestedBlocks.mp member).1
    simp only [Part.first, Part.next] at bounds
    have opened : first < lines.length := by omega
    have closed : next ≤ lines.length := by omega
    exact tasksLowered embedded opened closed inner
  simp only [jobs, tasksLowered embedded opens inside, List.map_map]
  refine List.map_congr_left fun task _ => ?_
  simp only [Function.comp_apply, Job.lowered]
  exact congrArg (Job.mk (task.lowered above)) nested

theorem jobsAtLowered (embedded : Embedded lines whole above) {index : Nat}
    (inside : index < lines.length) :
    jobsAt whole (above + index) = (jobsAt lines index).map (Job.lowered above) := by
  rw [jobsAt, jobsAt, embedded.same index inside, embedded.sameRegistration inside]
  split
  · have line : ((above + index : Nat) : Int) + 1 = (index : Int) + 1 + above := by omega
    simp only [immediate, line, List.map_cons, List.map_nil, Job.lowered, Task.lowered]
  · cases found : registered? lines index with
    | none => rfl
    | some registration =>
      have stops := stopWithin lines (Nat.le_of_lt inside) registration
      simp only [embedded.registrationStops found]
      exact jobsLowered embedded inside stops registration

theorem timerBlocksLowered (embedded : Embedded lines whole above) {index : Nat}
    (found : registered? lines index = some .timeout) :
    timerBlocks whole (above + index) = (timerBlocks lines index).map (blockLowered above) := by
  have stops := stopWithin lines (Nat.le_of_lt (registeredInside found)) .timeout
  rw [timerBlocks, embedded.stopRegistered found]
  exact nestedLowered embedded stops index .timeout

theorem coversLowered (above index : Nat) (block : Registration × Nat × Nat) :
    covers (above + index) (blockLowered above block) = covers index block := by
  simp only [covers, blockLowered, Nat.add_le_add_iff_left, Nat.add_lt_add_iff_left]

theorem claimedStep (lines : List Line) (index : Nat) :
    claimed lines (index + 1) =
      if (claimed lines index).any (covers index) then claimed lines index
      else claimed lines index ++
        if registered? lines index = some .timeout then timerBlocks lines index else [] := by
  rw [claimed, reportedNext]
  split
  · rfl
  · rw [List.flatMap_append, jobsAtClaimed, claimed]

theorem reportedLowered (embedded : Embedded lines whole above)
    (clear : ∀ block ∈ claimed whole above, block.2.2 ≤ above) {index : Nat}
    (inside : index ≤ lines.length) :
    reported whole (above + index) =
        reported whole above ++ (reported lines index).map (Job.lowered above) ∧
      claimed whole (above + index) =
        claimed whole above ++ (claimed lines index).map (blockLowered above) := by
  -- no claimed block reaches from above into the lines
  induction index with
  | zero => exact ⟨(List.append_nil _).symm, (List.append_nil _).symm⟩
  | succ index ih =>
    obtain ⟨jobs, blocks⟩ := ih (Nat.le_of_succ_le inside)
    have beyond : (claimed whole above).any (covers (above + index)) = false := by
      refine List.any_eq_false.mpr fun block member around => ?_
      have bounds := coversIff.mp around
      have short := clear block member
      omega
    have covered : (claimed whole (above + index)).any (covers (above + index)) =
        (claimed lines index).any (covers index) := by
      rw [blocks, List.any_append, beyond, Bool.false_or, List.any_map]
      exact congrArg _ (funext (coversLowered above index))
    rw [← Nat.add_assoc, reportedNext, claimedStep, covered, reportedNext, claimedStep]
    by_cases hidden : (claimed lines index).any (covers index)
    · rw [if_pos hidden, if_pos hidden, if_pos hidden, if_pos hidden]
      exact ⟨jobs, blocks⟩
    · rw [if_neg hidden, if_neg hidden, if_neg hidden, if_neg hidden, jobs, blocks,
        embedded.sameRegistration inside, jobsAtLowered embedded inside, List.map_append,
        List.map_append, List.append_assoc, List.append_assoc]
      refine ⟨rfl, ?_⟩
      by_cases timer : registered? lines index = some .timeout
      · rw [if_pos timer, if_pos timer, timerBlocksLowered embedded timer]
      · rw [if_neg timer, if_neg timer, List.map_nil]

theorem claimedWithin {index : Nat} {block : Registration × Nat × Nat}
    (member : block ∈ claimed lines index) : block.2.2 ≤ lines.length := by
  obtain ⟨timer, -, found, inside, -⟩ := claimedSource member
  have bounds := timerBlockBounds inside
  have opened := registeredInside found
  have closed := Block.stopInside lines timer
  omega

end

end Source

namespace Block

theorem closingAppend {depth : Int} {started : Bool} {lines : List Line} {length : Nat}
    (closes : closing? depth started lines = some length) (more : List Line) :
    closing? depth started (lines ++ more) = some length := by
  induction lines generalizing depth started length with
  | nil => cases closes
  | cons line rest ih =>
    rw [closing?] at closes
    rw [List.cons_append, closing?]
    split
    · next ended => rwa [if_pos ended] at closes
    · next unended =>
      rw [if_neg unended] at closes
      obtain ⟨shorter, later, rfl⟩ := Option.map_eq_some_iff.mp closes
      rw [ih later, Option.map_some]

def Closes (lines : List Line) : Prop :=
  ∀ index (inside : index < lines.length), Leads lines[index] →
    (closing? 0 false (lines.drop index)).isSome

instance (lines : List Line) : Decidable (Closes lines) :=
  inferInstanceAs (Decidable (∀ index (_ : index < lines.length), _ → _))

variable {upper lower : List Line}

theorem embeddedUpper (closes : Closes upper)
    (unattached : ∀ line ∈ lower.head?, ¬ attaches line) :
    Embedded upper (upper ++ lower) 0 where
  room := by simp
  same index inside := by rw [Nat.zero_add, List.getElem?_append_left inside]
  stops index inside leads := by
    obtain ⟨length, closing⟩ := Option.isSome_iff_exists.mp (closes index inside leads)
    rw [Nat.zero_add, Nat.zero_add, stop, List.drop_append_of_le_length (Nat.le_of_lt inside),
      closingAppend closing, stop, closing]
  ends line found := by
    rw [Nat.zero_add, List.getElem?_append_right (Nat.le_refl _), Nat.sub_self,
      ← List.head?_eq_getElem?] at found
    exact unattached line found

theorem embeddedLower (upper lower : List Line) : Embedded lower (upper ++ lower) upper.length where
  room := by simp
  same index inside := by
    rw [List.getElem?_append_right (Nat.le_add_right _ _), Nat.add_sub_cancel_left]
  stops index inside leads := by
    rw [stop, List.drop_length_add_append, stop]
    split
    · exact Nat.add_assoc _ _ _
    · exact List.length_append
  ends line found := by
    rw [← List.length_append, List.getElem?_eq_none (Nat.le_refl _)] at found
    cases found

end Block

theorem Task.loweredNone (task : Task) : task.lowered 0 = task := by
  simp [Task.lowered]

theorem Job.loweredNone (job : Job) : job.lowered 0 = job := by
  have nested : job.nested.map (Task.lowered 0) = job.nested :=
    List.map_id'' Task.loweredNone job.nested
  rw [Job.lowered, Task.loweredNone, nested]

theorem Source.jobsOfLinesAppend {upper lower : List Line} (closes : Block.Closes upper)
    (unattached : ∀ line ∈ lower.head?, ¬ Block.attaches line) :
    jobsOfLines (upper ++ lower) =
      jobsOfLines upper ++ (jobsOfLines lower).map (Job.lowered upper.length) := by
  have first := reportedLowered (Block.embeddedUpper closes unattached) (fun _ member => nomatch member)
    (Nat.le_refl upper.length)
  rw [Nat.zero_add] at first
  have above : reported (upper ++ lower) upper.length = jobsOfLines upper := by
    rw [first.1, reportedAll, List.map_id'' Job.loweredNone]
    rfl
  have clear : ∀ block ∈ claimed (upper ++ lower) upper.length, block.2.2 ≤ upper.length := by
    intro block member
    rw [first.2] at member
    obtain ⟨own, claims, rfl⟩ := List.mem_map.mp member
    have within := claimedWithin claims
    simpa [blockLowered] using within
  have second := reportedLowered (Block.embeddedLower upper lower) clear (Nat.le_refl lower.length)
  rw [← reportedAll (upper ++ lower), List.length_append, second.1, above, reportedAll]

namespace Text

theorem consFirstAppend (c : Char) {before : List (List Char)} (nonempty : before ≠ [])
    (after : List (List Char)) : consFirst c (before ++ after) = consFirst c before ++ after := by
  cases before with
  | nil => exact absurd rfl nonempty
  | cons first rest => rfl

theorem linesAppend (upper lower : List Char) :
    lines (upper ++ '\n' :: lower) = lines upper ++ lines lower := by
  have pieces : pieces ['\n'] (upper ++ '\n' :: lower) =
      pieces ['\n'] upper ++ pieces ['\n'] lower := by
    unfold pieces
    induction upper with
    | nil => rfl
    | cons c upper ih =>
      rw [List.cons_append, piecesFrom, piecesFrom]
      by_cases newline : c = '\n'
      · subst newline
        simpa [List.isPrefixOf] using ih
      · have other : ('\n' == c) = false := by simpa using Ne.symm newline
        simp only [List.isPrefixOf, other, Bool.false_and, Bool.false_eq_true, if_false]
        rw [ih, consFirstAppend c (piecesNonempty _ _ _)]
  rw [lines, pieces, List.map_append, lines, lines]

end Text

/-- Two programs, one below the other. When in the upper one every block that is looked for, at a
registration or an attachment, closes in it, and the lower one does not begin with an attachment,
the jobs are those of the upper program and, with all their lines moved down by as many as the
upper one has, those of the lower. -/
theorem jobsOfAppend (upper lower : String) (closes : Block.Closes (Text.lines upper.toList))
    (unattached : ∀ line ∈ (Text.lines lower.toList).head?, ¬ Block.attaches line) :
    jobsOf (upper ++ "\n" ++ lower) =
      jobsOf upper ++ (jobsOf lower).map (Job.lowered (Text.lines upper.toList).length) := by
  have seam : Text.lines (upper ++ "\n" ++ lower).toList =
      Text.lines upper.toList ++ Text.lines lower.toList := by
    rw [String.toList_append, String.toList_append, List.append_assoc]
    exact Text.linesAppend upper.toList lower.toList
  rw [jobsOf, seam]
  exact Source.jobsOfLinesAppend closes unattached

def chainInTimer : String :=
  "setTimeout(() => \x7b\n  Promise.resolve()\n    .then(() => \x7b\n    \x7d);\n\x7d, 0);"

def timerAfterCall : String :=
  "console.log('now');\nsetTimeout(() => \x7b\n  queueMicrotask(() => \x7b\n  \x7d);\n\x7d, 0);"

theorem timerBelowChain :
    jobsOf (chainInTimer ++ "\n" ++ timerAfterCall) =
        jobsOf chainInTimer ++ (jobsOf timerAfterCall).map (Job.lowered 5) ∧
      (jobsOf timerAfterCall).map (fun job => job.line) = [1, 2] := by
  have five : (Text.lines chainInTimer.toList).length = 5 := by decide +kernel
  have closes : Block.Closes (Text.lines chainInTimer.toList) := by decide +kernel
  have unattached : ∀ line ∈ (Text.lines timerAfterCall.toList).head?, ¬ Block.attaches line := by
    decide +kernel
  have both := jobsOfAppend chainInTimer timerAfterCall closes unattached
  rw [five] at both
  exact ⟨both, by decide +kernel⟩

end LoopPlayer
