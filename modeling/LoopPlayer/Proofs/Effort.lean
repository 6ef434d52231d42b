import LoopPlayer.Proofs.Echoes
import LoopPlayer.Proofs.Moved
import LoopPlayer.Proofs.SourceOrder

/-! How much a program does: its tasks, and what they print. A chain is followed link by link, and one
line more in it adds what its own links add, or more. The steps of the trace tell how much it is. -/
namespace LoopPlayer
open Text (Line occurs)

namespace Logging

theorem printedSilent {text : List Char} (silent : occurs opening text = false) :
    printed text = [] := by
  induction text with
  | nil => rfl
  | cons c rest ih =>
    rw [occurs, Bool.or_eq_false_iff] at silent
    rw [printedElse fun said after call => absurd (callStarts call) (by simp [silent.1]), ih silent.2]

theorem outputsIff (text : List Char) : outputs text = [] ↔ occurs opening text = false := by
  rw [outputs]
  cases calls : occurs opening text with
  | false => simp [printedSilent calls]
  | true => cases printed text <;> simp

end Logging

namespace Source
open Block (registered? registrationStop)

/- What the links of a chain add to it, its continuations and what these print. What is printed before
the first continuation counts only when the chain is live already. -/
def gathered (live : Bool) : List Link → Nat
  | [] => 0
  | link :: rest =>
    (if link.attached then 1 else 0) +
      (if live || link.attached then (Logging.outputs link.text).length else 0) +
        gathered (live || link.attached) rest

theorem gatheredAppend (live : Bool) (above below : List Link) :
    gathered live (above ++ below) =
      gathered live above + gathered (live || above.any Link.attached) below := by
  induction above generalizing live with
  | nil => simp [gathered]
  | cons link above ih =>
    rw [List.cons_append, gathered, ih, gathered, List.any_cons, Bool.or_assoc]
    omega

theorem gatheredMoved (onto : Nat → Nat) (live : Bool) (all : List Link) :
    gathered live (all.map (Link.moved onto)) = gathered live all := by
  induction all generalizing live with
  | nil => rfl
  | cons link rest ih =>
    rw [List.map_cons, gathered, gathered, ih]
    rfl

theorem continuationsGathered (all : List Link) :
    ((continuations all).2.map fun task => 1 + task.2.length).sum = gathered false all ∧
      (continuations all).1.length + ((continuations all).2.map fun task => 1 + task.2.length).sum =
        gathered true all := by
  induction all with
  | nil => exact ⟨rfl, rfl⟩
  | cons link rest ih =>
    have printed : (printedBy link.line link.text).length = (Logging.outputs link.text).length :=
      List.length_map _
    cases attached : link.attached <;>
      simp only [continuations, gathered, attached, Bool.false_eq_true, if_true, if_false,
        Bool.or_true, Bool.or_false, List.map_cons, List.sum_cons, List.length_append,
        List.length_nil, printed] <;>
      omega

theorem gatheredLive (all : List Link) : gathered false all ≤ gathered true all := by
  have both := continuationsGathered all
  omega

theorem linksUncut {index : Nat} {text : List Char} (whole : occurs attachment text = false) :
    links (index, text) = [⟨index, false, text⟩] := by
  rw [links, Text.piecesUncut whole]
  rfl

theorem linksAttached (read : Printed) :
    (links read).any Link.attached = occurs attachment read.2 := by
  obtain ⟨index, text⟩ := read
  cases attached : occurs attachment text with
  | false =>
    rw [linksUncut attached]
    rfl
  | true =>
    have cut := Text.piecesCut (by decide) attached
    rw [links]
    generalize Text.pieces attachment text = pieces at cut ⊢
    obtain _ | ⟨first, _ | ⟨second, rest⟩⟩ := pieces
    · simp at cut
    · simp at cut
    · rfl

theorem linksGathered (live : Bool) (index : Nat) (text : List Char) :
    0 < gathered live (links (index, text)) ↔
      occurs attachment text = true ∨ live = true ∧ occurs Logging.opening text = true := by
  cases attached : occurs attachment text with
  | false =>
    have printed := Logging.outputsIff text
    rw [linksUncut attached]
    cases live <;> cases calls : occurs Logging.opening text <;>
      simp [gathered, calls, List.length_pos_iff] at printed ⊢ <;> exact printed
  | true =>
    have cut := linksAttached (index, text)
    rw [attached] at cut
    obtain ⟨link, member, linked⟩ := List.any_eq_true.mp cut
    obtain ⟨before, after, split⟩ := List.append_of_mem member
    rw [split, gatheredAppend, gathered, linked]
    simp

theorem continuationsSilent {link : Link} (unattached : link.attached = false)
    (silent : Logging.outputs link.text = []) (above below : List Link) :
    continuations (above ++ link :: below) = continuations (above ++ below) := by
  induction above with
  | nil => simp [continuations, unattached, printedBy, silent]
  | cons first above ih => rw [List.cons_append, List.cons_append, continuations, continuations, ih]

theorem continuationsDead {above : List Link} (dead : above.any Link.attached = false)
    (below : List Link) : (continuations (above ++ below)).2 = (continuations below).2 := by
  induction above with
  | nil => rfl
  | cons link above ih =>
    rw [List.any_cons, Bool.or_eq_false_iff] at dead
    rw [List.cons_append, continuations, dead.1]
    exact ih dead.2
theorem continuationsCalm {above below : List Printed} {index : Nat} {text : List Char}
    (calm : ¬ 0 < gathered ((above.flatMap links).any Link.attached) (links (index, text))) :
    (continuations ((above ++ (index, text) :: below).flatMap links)).2 =
      (continuations ((above ++ below).flatMap links)).2 := by
  rw [linksGathered, not_or, Bool.not_eq_true] at calm
  rw [List.flatMap_append, List.flatMap_cons, List.flatMap_append, linksUncut calm.1,
    List.singleton_append]
  by_cases live : (above.flatMap links).any Link.attached
  · have silent : occurs Logging.opening text = false :=
      Bool.eq_false_iff.mpr fun calls => calm.2 ⟨live, calls⟩
    rw [continuationsSilent rfl ((Logging.outputsIff _).mpr silent)]
  · rw [Bool.not_eq_true] at live
    rw [continuationsDead live, continuationsDead live]
    rfl

theorem gatheredMore {above below : List Printed} {read : Printed}
    (more : 0 < gathered ((above.flatMap links).any Link.attached) (links read)) :
    gathered false ((above ++ below).flatMap links) <
      gathered false ((above ++ read :: below).flatMap links) := by
  have onward (live more : Bool) :
      gathered live (below.flatMap links) ≤ gathered (live || more) (below.flatMap links) := by
    have bound := gatheredLive (below.flatMap links)
    cases live <;> cases more <;> first | exact Nat.le_refl _ | exact bound
  have further := onward ((above.flatMap links).any Link.attached) ((links read).any Link.attached)
  rw [List.flatMap_append, List.flatMap_append, List.flatMap_cons, gatheredAppend, gatheredAppend,
    gatheredAppend, Bool.false_or]
  omega

def effort (tasks : List Task) : Nat := (tasks.map fun task => 1 + task.outputs.length).sum

theorem effortFlatMap {α : Type} (all : List α) (f : α → List Task) :
    effort (all.flatMap f) = (all.map fun a => effort (f a)).sum := sumFlatMap all f _

theorem effortDeferred (registration : Registration) (all : List (Nat × List Printed)) :
    effort (all.map fun (index, printed) => deferred registration index printed) =
      (all.map fun task => 1 + task.2.length).sum := by
  rw [effort, List.map_map]
  refine congrArg List.sum (List.map_congr_left fun task _ => ?_)
  exact congrArg (1 + ·) (deferredOutputs registration task.1 task.2)

theorem chainTasksRead {block : Registration × Nat × Nat} (chain : block.1 = .promise)
    (lines : List Line) :
    blockTasks lines block = (continuations ((texts lines block).flatMap links)).2.map
      fun (index, printed) => deferred .promise index printed := by
  obtain ⟨registration, start, upTo⟩ := block
  cases chain
  rw [← chainTextsRead]
  rfl

theorem callbackTasksRead {block : Registration × Nat × Nat} (callback : block.1 ≠ .promise)
    (lines : List Line) :
    blockTasks lines block = [deferred block.1 block.2.1
      ((texts lines block).flatMap fun read => printedBy read.1 read.2)] := by
  obtain ⟨registration, start, upTo⟩ := block
  rw [← callbackPrintedRead]
  cases registration <;> first | rfl | exact absurd rfl callback

theorem chainEffort {block : Registration × Nat × Nat} (chain : block.1 = .promise)
    (lines : List Line) :
    effort (blockTasks lines block) = gathered false ((texts lines block).flatMap links) := by
  rw [chainTasksRead chain, effortDeferred, (continuationsGathered _).1]

theorem callbackEffort {block : Registration × Nat × Nat} (callback : block.1 ≠ .promise)
    (lines : List Line) :
    effort (blockTasks lines block) =
      1 + ((texts lines block).map fun read => (Logging.outputs read.2).length).sum := by
  have lengths (read : Printed) : (printedBy read.1 read.2).length = (Logging.outputs read.2).length :=
    List.length_map _
  rw [callbackTasksRead callback, effort, List.map_singleton, List.sum_singleton, deferredOutputs,
    List.length_flatMap, List.map_congr_left fun read _ => lengths read]
theorem programEffort (lines : List Line) :
    effort ((jobsOfLines lines).flatMap Job.tasks) =
      (List.range lines.length).countP (runsAtOnce lines) * 2 +
        ((readBlocks lines).map fun block => effort (blockTasks lines block)).sum := by
  have apart (jobs : List Job) : effort (jobs.flatMap Job.tasks) =
      effort (jobs.map Job.toTask) + effort (jobs.flatMap Job.nested) := by
    have same := (List.map_append_flatMap_perm jobs Job.toTask Job.nested).map
      fun task => 1 + task.outputs.length
    rw [effort, effort, effort, ← List.sum_append, ← List.map_append]
    exact same.sum_eq.symm
  have nested : effort ((jobsOfLines lines).flatMap Job.nested) =
      ((claimed lines lines.length).map fun block => effort (blockTasks lines block)).sum := by
    rw [← reportedAll, nestedClaimed, effortFlatMap]
  have line (index : Nat) :
      (if heard lines index then effort ((jobsAt lines index).map Job.toTask) else 0) =
        (if runsAtOnce lines index then 2 else 0) +
          ((jobBlock? lines index).toList.map fun block => effort (blockTasks lines block)).sum := by
    rw [runsAtOnce, jobBlock?]
    cases heard lines index with
    | false => rfl
    | true =>
      cases found : registered? lines index with
      | none =>
        rw [jobsAt, found]
        cases Logging.opening.isPrefixOf (lines[index]?.getD []) <;> rfl
      | some registration =>
        have own := jobsTasks lines
          (registration, index, registrationStop lines index registration)
        rw [jobsAtFound found, registeredSilent found, own]
        simp
  have own : effort ((jobsOfLines lines).map Job.toTask) =
      (List.range lines.length).countP (runsAtOnce lines) * 2 +
        ((jobBlocks lines lines.length).map fun block => effort (blockTasks lines block)).sum := by
    have twice : ((List.range lines.length).map fun index =>
        if runsAtOnce lines index then 2 else 0).sum =
        (List.range lines.length).countP (runsAtOnce lines) * 2 := by
      rw [← sumFilter, List.map_const', List.sum_replicate_nat, List.countP_eq_length_filter]
    rw [← reportedAll, reportedHeard (Nat.le_refl _), List.map_flatMap, effortFlatMap, sumFilter,
      List.map_congr_left fun index _ => line index, List.sum_map_add, twice, jobBlocks,
      List.filterMap_eq_flatMap_toList, sumFlatMap]
  rw [apart, own, nested, readBlocks, List.map_append, List.sum_append, Nat.add_assoc]
end Source

theorem traceEffort (source : String) :
    (traceOf source).countP (fun step => step.phase == .execute) +
        (traceOf source).countP (fun step => step.output.isSome) =
      Source.effort ((jobsOf source).flatMap Job.tasks) := by
  have printed : (jobsOf source).flatMap Job.outputs =
      ((jobsOf source).flatMap Job.tasks).flatMap Task.outputs := by
    rw [List.flatMap_assoc]
    rfl
  have executed : (traceOf source).countP (fun step => step.phase == .execute) =
      ((jobsOf source).flatMap Job.tasks).length :=
    Trace.executionsCounted (jobsOfWellNested source)
  have lengths (tasks : List Task) : (tasks.flatMap Task.outputs).length =
      (tasks.map fun task => task.outputs.length).sum := List.length_flatMap
  rw [executed, stepsPrinted, printed, lengths, Source.effort, List.sum_map_add, List.map_const',
    List.sum_replicate_nat, Nat.mul_one]

end LoopPlayer
