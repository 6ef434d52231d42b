import LoopPlayer.Proofs.Accounts
import LoopPlayer.Proofs.Discipline

/-! The order of jobs by their lines. Lines are looked at from the top, and what a line reports
stands on that line, with one exception: the first line of a promise reports the whole chain, whose
continuations may stand on any line of its block. What else is reported inside that block comes
after the chain. -/
namespace LoopPlayer

theorem pairwiseAscending {R : Nat → Nat → Prop} {all : List Nat}
    (ascending : all.Pairwise (· < ·)) :
    all.Pairwise R ↔ ∀ a ∈ all, ∀ b ∈ all, a < b → R a b := by
  refine ⟨fun pairwise a first b second before => ?_, fun related => ?_⟩
  · have : Std.Symm fun a b => (a < b → R a b) ∧ (b < a → R b a) := ⟨fun _ _ => And.symm⟩
    have both : all.Pairwise fun a b => (a < b → R a b) ∧ (b < a → R b a) :=
      (pairwise.and ascending).imp fun ⟨related, order⟩ =>
        ⟨fun _ => related, fun back => absurd back (Nat.lt_asymm order)⟩
    exact (both.forall first second (Nat.ne_of_lt before)).1 before
  · exact ascending.imp_of_mem fun first second => related _ first _ second

namespace Source
open Text (Line)
open Block (registered? registeredInside registrationStop)

variable {lines : List Line}

theorem reportedHeard {count : Nat} (inside : count ≤ lines.length) :
    reported lines count = ((List.range count).filter (heard lines)).flatMap (jobsAt lines) := by
  induction count with
  | zero => rfl
  | succ index ih =>
    have above := ih (Nat.le_of_succ_le inside)
    have covered := heardAbove (Nat.le_of_succ_le inside)
    rw [List.range_succ, List.filter_append, List.flatMap_append, ← above, reportedNext]
    cases free : (claimed lines index).any (covers index) <;> simp [covered, free]

theorem continuationsLines (all : List Link) :
    (continuations all).2.map Prod.fst = (all.filter Link.attached).map Link.line := by
  induction all with
  | nil => rfl
  | cons link rest ih =>
    rw [continuations]
    cases attached : link.attached <;> simp [attached, ih]

theorem linksLine {read : Printed} {link : Link} (member : link ∈ links read) :
    link.line = read.1 := by
  obtain ⟨index, text⟩ := read
  rw [links] at member
  split at member
  · cases member
  · rcases List.mem_cons.mp member with rfl | attached
    · rfl
    · obtain ⟨piece, -, rfl⟩ := List.mem_map.mp attached
      rfl

def attachments (lines : List Line) (start stop : Nat) : List Nat :=
  (((chainTexts lines start stop).flatMap links).filter Link.attached).map Link.line

theorem chainTasksLines (lines : List Line) (start stop : Nat) :
    (chainTasks lines start stop).map Task.line =
      (attachments lines start stop).map fun index : Nat => (index : Int) + 1 := by
  rw [chainTasks, attachments, ← continuationsLines, List.map_map, List.map_map]
  rfl

theorem attachmentOwned {start stop index : Nat} (member : index ∈ attachments lines start stop) :
    index ∈ owned lines (.promise, start, stop) := by
  obtain ⟨link, attached, rfl⟩ := List.mem_map.mp member
  obtain ⟨read, text, link⟩ := List.mem_flatMap.mp (List.mem_filter.mp attached).1
  rw [linksLine link, ← textsOwned, ← chainTextsRead]
  exact List.mem_map_of_mem text

theorem attachmentsOrder (lines : List Line) (start stop : Nat) :
    (attachments lines start stop).Pairwise (· ≤ ·) := by
  refine List.pairwise_map.mpr (List.Pairwise.filter _ (List.pairwise_flatMap.mpr ⟨?_, ?_⟩))
  · intro read _
    refine List.pairwise_of_forall_mem_list fun a first b second => ?_
    rw [linksLine first, linksLine second]
  · have apart : (chainTexts lines start stop).Pairwise fun a b => a.1 < b.1 := by
      rw [chainTextsRead]
      refine List.pairwise_map.mp ?_
      rw [textsOwned]
      exact ownedOrder lines _
    refine apart.imp fun before a first b second => ?_
    rw [linksLine first, linksLine second]
    exact Nat.le_of_lt before

theorem jobsAtChain {index : Nat} (chain : registered? lines index = some .promise) :
    (jobsAt lines index).map (fun job => job.line) =
      (attachments lines index (registrationStop lines index .promise)).map
        fun index : Nat => (index : Int) + 1 := by
  rw [← chainTasksLines, jobsAtFound chain, jobs, List.map_map]
  rfl

theorem jobsAtOwn {index : Nat} (other : registered? lines index ≠ some .promise) {job : Job}
    (member : job ∈ jobsAt lines index) : job.line = index + 1 := by
  unfold jobsAt at member
  split at member
  · rw [List.mem_singleton.mp member]
    rfl
  · split at member
    · cases member
    · next registration found =>
      obtain ⟨task, own, rfl⟩ := List.mem_map.mp member
      cases registration with
      | promise => exact absurd found other
      | _ =>
        rw [List.mem_singleton.mp own]
        rfl

theorem jobsAtPlace {index : Nat} {job : Job} (member : job ∈ jobsAt lines index) :
    index + 1 ≤ job.line ∧ (job.line = index + 1 ∨
      registered? lines index = some .promise ∧
        job.line ≤ registrationStop lines index .promise) := by
  by_cases chain : registered? lines index = some .promise
  · have listed : job.line ∈ (jobsAt lines index).map fun job => job.line :=
      List.mem_map_of_mem member
    rw [jobsAtChain chain] at listed
    obtain ⟨attached, found, line⟩ := List.mem_map.mp listed
    have inside := Block.startBeforeRegistrationStop .promise (registeredInside chain)
    rcases List.mem_cons.mp (attachmentOwned found) with rfl | body
    · omega
    · obtain ⟨after, before, -⟩ := bodyLineBounds body
      have before : attached < registrationStop lines index .promise := before
      have after : index < attached := after
      exact ⟨by omega, Or.inr ⟨chain, by omega⟩⟩
  · have line := jobsAtOwn chain member
    exact ⟨Int.le_of_eq line.symm, Or.inl line⟩

theorem jobsAtOrder (lines : List Line) (index : Nat) :
    (jobsAt lines index).Pairwise fun a b => a.line ≤ b.line := by
  by_cases chain : registered? lines index = some .promise
  · have order := attachmentsOrder lines index (registrationStop lines index .promise)
    have shifted : ((jobsAt lines index).map fun job => job.line).Pairwise (· ≤ ·) := by
      rw [jobsAtChain chain]
      exact List.pairwise_map.mpr (order.imp fun before => by omega)
    exact List.pairwise_map.mp shifted
  · refine List.pairwise_of_forall_mem_list fun a first b second => ?_
    rw [jobsAtOwn chain first, jobsAtOwn chain second]

/-- Inside the block of a chain something is reported that stands above one of its continuations. -/
structure Interleaved (lines : List Line) (chain inside : Nat) : Prop where
  opens : registered? lines chain = some .promise
  heard : Source.heard lines chain
  within : chain < inside ∧ inside < registrationStop lines chain .promise
  reported : Source.heard lines inside
  above : ∃ a ∈ jobsAt lines chain, ∃ b ∈ jobsAt lines inside, b.line < a.line

theorem backwardsInterleaved {early late : Nat} (order : early < late)
    (heardEarly : heard lines early) (heardLate : heard lines late) {a b : Job}
    (first : a ∈ jobsAt lines early) (second : b ∈ jobsAt lines late) (above : b.line < a.line) :
    Interleaved lines early late := by
  -- the first job cannot stand on the line that reports it, so it belongs to a chain
  have placeA := jobsAtPlace first
  have placeB := jobsAtPlace second
  rcases placeA.2 with own | ⟨chain, inside⟩
  · omega
  · exact ⟨chain, heardEarly, ⟨order, by omega⟩, heardLate, a, first, b, second, above⟩

theorem linesInOrder (lines : List Line) :
    (jobsOfLines lines).Pairwise (fun a b => a.line ≤ b.line) ↔
      ∀ chain inside, ¬ Interleaved lines chain inside := by
  have ascending : ((List.range lines.length).filter (heard lines)).Pairwise (· < ·) :=
    List.Pairwise.filter _ List.pairwise_lt_range
  have member {index : Nat} : index ∈ (List.range lines.length).filter (heard lines) ↔
      index < lines.length ∧ heard lines index := by
    rw [List.mem_filter, List.mem_range]
  rw [← reportedAll, reportedHeard (Nat.le_refl _), List.pairwise_flatMap,
    pairwiseAscending ascending]
  refine ⟨fun ⟨_, across⟩ chain inside woven => ?_, fun straight => ⟨fun index _ => ?_, ?_⟩⟩
  · obtain ⟨a, first, b, second, above⟩ := woven.above
    have opened := registeredInside woven.opens
    have stops := stopWithin lines (Nat.le_of_lt opened) .promise
    have below := Nat.lt_of_lt_of_le woven.within.2 stops
    exact absurd (across chain (member.mpr ⟨opened, woven.heard⟩) inside
      (member.mpr ⟨below, woven.reported⟩) woven.within.1 a first b second) (Int.not_le.mpr above)
  · exact jobsAtOrder lines index
  · intro early first late second before a reportsA b reportsB
    by_contra above
    exact straight early late (backwardsInterleaved before (member.mp first).2 (member.mp second).2
      reportsA reportsB (Int.not_le.mp above))

end Source

namespace Trace

variable {jobs : List Job}

def jobStep (jobs : List Job) (phase : Phase) (mark : Mark) : Bool :=
  mark.phase == phase && decide (mark.number ≤ jobs.length)

theorem ownNumber {slot : Slot} (member : slot ∈ roster jobs) : slot.number ≤ jobs.length := by
  have listed : slot.number ∈ (roster jobs).map Slot.number := List.mem_map_of_mem member
  rw [rosterNumbers, List.mem_range'_1] at listed
  omega

theorem innerNumber {slot : Slot} (member : slot ∈ roster jobs) {self : Numbered}
    (inside : self ∈ slot.inner) : jobs.length < self.number := by
  have listed : self.number ∈ ((roster jobs).flatMap Slot.inner).map Numbered.number :=
    List.mem_map_of_mem (List.mem_flatMap.mpr ⟨slot, member, inside⟩)
  rw [roster, allotInner, List.mem_range'_1] at listed
  omega

theorem runningSteps (self : Numbered) {phase : Phase}
    (moves : phase = .enqueue ∨ phase = .dequeue) :
    self.running.filter (jobStep jobs phase) = [] := by
  refine List.filter_eq_nil_iff.mpr fun mark member step => ?_
  obtain ⟨-, -, executes | prints⟩ := Numbered.runningMark member <;>
    rcases moves with rfl | rfl <;> simp_all [jobStep]

theorem turnSteps {slot : Slot} (member : slot ∈ roster jobs) {phase : Phase}
    (moves : phase = .enqueue ∨ phase = .dequeue) :
    slot.turn.filter (jobStep jobs phase) =
      if phase = .dequeue then [slot.own.dequeued] else [] := by
  have inner : (slot.inner.flatMap Numbered.life).filter (jobStep jobs phase) = [] := by
    refine List.filter_eq_nil_iff.mpr fun mark living step => ?_
    obtain ⟨self, inside, life⟩ := List.mem_flatMap.mp living
    have beyond := innerNumber member inside
    have number := (Numbered.lifeMark life).1
    rw [jobStep, Bool.and_eq_true, decide_eq_true_iff, number] at step
    omega
  have own : jobStep jobs phase slot.own.dequeued = (phase == .dequeue) := by
    have number : slot.own.dequeued.number ≤ jobs.length := Int.ofNat_le.mpr (ownNumber member)
    rw [jobStep, decide_eq_true number, Bool.and_true]
    exact Bool.beq_comm
  rw [Slot.turn, List.cons_append, List.filter_cons, own, List.filter_append,
    runningSteps slot.own moves, inner]
  simp

theorem enqueueSteps (jobs : List Job) :
    (marks (roster jobs)).filter (jobStep jobs .enqueue) =
      (deferredSlots (roster jobs)).map fun slot => slot.own.enqueued := by
  have atOnce : ((immediateSlots (roster jobs)).flatMap fun slot => slot.own.running).filter
      (jobStep jobs .enqueue) = [] := by
    rw [List.filter_flatMap, List.flatMap_eq_nil_iff]
    exact fun slot _ => runningSteps slot.own (Or.inl rfl)
  have turns : ((drainedSlots (roster jobs)).flatMap Slot.turn).filter
      (jobStep jobs .enqueue) = [] := by
    rw [List.filter_flatMap, List.flatMap_eq_nil_iff]
    exact fun slot member => turnSteps (drainedMember.mp member).1 (Or.inl rfl)
  rw [marks, List.filter_append, List.filter_append, atOnce, turns, List.nil_append,
    List.append_nil, List.filter_eq_self]
  intro mark member
  obtain ⟨slot, deferred, rfl⟩ := List.mem_map.mp member
  have number : slot.own.enqueued.number ≤ jobs.length :=
    Int.ofNat_le.mpr (ownNumber (List.mem_filter.mp deferred).1)
  rw [jobStep, decide_eq_true number]
  rfl

theorem dequeueSteps (jobs : List Job) :
    (marks (roster jobs)).filter (jobStep jobs .dequeue) =
      (drainedSlots (roster jobs)).map fun slot => slot.own.dequeued := by
  have atOnce : ((immediateSlots (roster jobs)).flatMap fun slot => slot.own.running).filter
      (jobStep jobs .dequeue) = [] := by
    rw [List.filter_flatMap, List.flatMap_eq_nil_iff]
    exact fun slot _ => runningSteps slot.own (Or.inr rfl)
  have enqueues : ((deferredSlots (roster jobs)).map fun slot => slot.own.enqueued).filter
      (jobStep jobs .dequeue) = [] := by
    refine List.filter_eq_nil_iff.mpr fun mark member step => ?_
    obtain ⟨slot, -, rfl⟩ := List.mem_map.mp member
    cases (Bool.and_eq_true_iff.mp step).1
  rw [marks, List.filter_append, List.filter_append, atOnce, enqueues, List.nil_append,
    List.nil_append, List.filter_flatMap]
  rw [List.flatMap_congr fun slot member => turnSteps (drainedMember.mp member).1 (Or.inr rfl)]
  exact List.map_eq_flatMap.symm

theorem pickedLines (jobs : List Job) (picked : Job → Bool) :
    ((roster jobs).filter fun slot => picked slot.job).map (fun slot => slot.job.line) =
      (jobs.filter picked).map fun job => job.line := by
  conv_rhs => rw [← rosterJobs jobs, List.filter_map, List.map_map]
  rfl

end Trace

def jobSteps (source : String) (phase : Phase) : List Step :=
  (traceOf source).filter fun step => Trace.jobStep (jobsOf source) phase step.mark

theorem jobStepsMarks (source : String) (phase : Phase) :
    (jobSteps source phase).map Step.mark =
      (Trace.marks (Trace.roster (jobsOf source))).filter
        (Trace.jobStep (jobsOf source) phase) := by
  rw [← Trace.traceMarks (jobsOfWellNested source), List.filter_map]
  rfl

theorem enqueueLines (source : String) :
    (jobSteps source .enqueue).map Step.line =
      ((jobsOf source).filter fun job => job.lane != .callStack).map fun job => job.line := by
  calc (jobSteps source .enqueue).map Step.line
      = ((jobSteps source .enqueue).map Step.mark).map Mark.line := by
        rw [List.map_map]
        rfl
    _ = (Trace.deferredSlots (Trace.roster (jobsOf source))).map fun slot => slot.job.line := by
        rw [jobStepsMarks, Trace.enqueueSteps, List.map_map]
        rfl
    _ = _ := Trace.pickedLines _ fun job => job.lane != .callStack

theorem dequeueLines (source : String) {lane : Lane} (deferred : lane ≠ .callStack) :
    ((jobSteps source .dequeue).filter fun step => step.lane == lane).map Step.line =
      ((jobsOf source).filter fun job => job.lane == lane).map fun job => job.line := by
  let roster := Trace.roster (jobsOf source)
  calc ((jobSteps source .dequeue).filter fun step => step.lane == lane).map Step.line
      = (((jobSteps source .dequeue).map Step.mark).filter
          fun mark => mark.lane == lane).map Mark.line := by
        rw [List.filter_map, List.map_map]
        rfl
    _ = ((Trace.drainedSlots roster).filter fun slot => slot.lane == lane).map
          fun slot => slot.job.line := by
        rw [jobStepsMarks, Trace.dequeueSteps, List.filter_map, List.map_map]
        rfl
    _ = _ := by
        rw [Trace.drainedLane roster deferred, Trace.deferredLane roster deferred]
        exact Trace.pickedLines _ fun job => job.lane == lane

/-- Jobs are in the order of their lines unless something is reported inside the block of a chain,
above a continuation of it. They are enqueued in the order that they have, and those of one lane are
dequeued in it. -/
theorem jobsInSourceOrder (source : String) :
    ((jobsOf source).Pairwise (fun a b => a.line ≤ b.line) ↔
        ∀ chain inside, ¬ Source.Interleaved (Text.lines source.toList) chain inside) ∧
      (jobSteps source .enqueue).map Step.line =
        ((jobsOf source).filter fun job => job.lane != .callStack).map (fun job => job.line) ∧
      ∀ lane ≠ .callStack,
        ((jobSteps source .dequeue).filter fun step => step.lane == lane).map Step.line =
          ((jobsOf source).filter fun job => job.lane == lane).map fun job => job.line :=
  ⟨Source.linesInOrder _, enqueueLines source, fun _ deferred => dequeueLines source deferred⟩

theorem chainOvertakes :
    let source := "Promise.resolve()\n.then(() => \x7b\n  queueMicrotask(() => \x7b\n  \x7d);\n" ++
      "\x7d)\n.then(() => \x7b\n\x7d);"
    ¬ (jobsOf source).Pairwise (fun a b => a.line ≤ b.line) ∧
      (jobSteps source .enqueue).map Step.line = [2, 6, 3] ∧
      (jobSteps source .dequeue).map Step.line = [2, 6, 3] := by
  decide +kernel

end LoopPlayer
