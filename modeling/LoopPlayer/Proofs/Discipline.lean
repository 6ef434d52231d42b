import Mathlib.Data.List.Flatten
import LoopPlayer.Proofs.Lifecycle
import LoopPlayer.Proofs.Orderly
import LoopPlayer.Proofs.Position

/-! The queue discipline of the trace of a program. The sections of the trace, the lines that run at
once, the enqueuings and the turns, are orderly one after the other: each leaves the lanes as the next
one needs them. -/
namespace LoopPlayer

namespace Trace

theorem markFellow {self : Numbered} {entry step : Step} {phase phase' : Phase} {line line' : Int}
    {output output' : Option String} (first : entry.mark = self.mark phase line output)
    (second : step.mark = self.mark phase' line' output') : entry.Fellow step where
  task := (congrArg Mark.number first).trans (congrArg Mark.number second).symm
  label := (congrArg Mark.label first).trans (congrArg Mark.label second).symm
  lane := (congrArg Mark.lane first).trans (congrArg Mark.lane second).symm

/- The slots wait in their lanes, in their order, and the call stack holds its bottom only. -/
structure Waiting (bottom : Option Step) (slots : List Slot) (lanes : Lanes) : Prop where
  clear : lanes.callStack = bottom.toList
  lined : ∀ lane, lane ≠ .callStack →
    (lanes.get lane).map Step.mark =
      (slots.filter fun slot => slot.lane == lane).map fun slot => slot.own.enqueued

def Clears (bottom : Option Step) (selves : List Numbered) : Prop :=
  ∀ low ∈ bottom, low.lane = .callStack ∧ ∀ self ∈ selves, low.task ≠ self.number

theorem waitingEntry {bottom : Option Step} {slots : List Slot} {lanes : Lanes}
    (waiting : Waiting bottom slots lanes) {entry : Step} (member : entry ∈ lanes.entries) :
    entry ∈ bottom ∨ ∃ slot ∈ slots, entry.task = slot.number := by
  obtain ⟨lane, -, inside⟩ := List.mem_flatMap.mp member
  by_cases stack : lane = .callStack
  · rw [stack] at inside
    have low : entry ∈ bottom.toList := waiting.clear ▸ inside
    exact Or.inl (Option.mem_toList.mp low)
  · have marked : entry.mark ∈ (lanes.get lane).map Step.mark := List.mem_map_of_mem inside
    rw [waiting.lined lane stack] at marked
    obtain ⟨slot, picked, same⟩ := List.mem_map.mp marked
    exact Or.inr ⟨slot, (List.mem_filter.mp picked).1, congrArg Mark.number same.symm⟩

theorem outputsOrderly {bottom : Option Step} {lanes : Lanes} {rest steps : List Step}
    {self : Numbered} {extra : List (Int × String)}
    (marks : steps.map Step.mark = extra.map fun (line, text) => self.mark .output line (some text))
    (next : Orderly bottom lanes rest) : Orderly bottom lanes (steps ++ rest) := by
  induction extra generalizing steps with
  | nil =>
    rw [List.map_eq_nil_iff.mp marks]
    exact next
  | cons first further ih =>
    obtain ⟨step, later, rfl, mark, marks⟩ := List.map_eq_cons_iff.mp marks
    have phase : step.phase = .output := congrArg Mark.phase mark
    exact .step (.printed phase) (ih marks)

section Sections

variable {bottom : Option Step} {lanes : Lanes} {steps rest : List Step}

theorem servedOrderly {self : Numbered} {entry : Step} {waiting : List Step}
    (marks : steps.map Step.mark = self.dequeued :: self.running)
    (deferred : self.task.lane ≠ .callStack) (clear : lanes.callStack = bottom.toList)
    (under : ∀ low ∈ bottom, low.lane = .callStack ∧ low.task ≠ self.number)
    (front : lanes.get self.task.lane = entry :: waiting) (enqueued : entry.mark = self.enqueued)
    (first : self.task.lane ≠ .microtask → lanes.microtask = [])
    (next : Orderly bottom (lanes.set self.task.lane waiting) rest) :
    Orderly bottom lanes (steps ++ rest) := by
  obtain ⟨dequeue, running, rfl, mark, marks⟩ := List.map_eq_cons_iff.mp marks
  obtain ⟨execute, outputs, rfl, executing, marks⟩ := List.map_eq_cons_iff.mp marks
  have lane : dequeue.lane = self.task.lane := congrArg Mark.lane mark
  have stack : (lanes.set self.task.lane waiting).callStack = bottom.toList :=
    (lanes.callStackSet waiting deferred).trans clear
  have taken : Shift bottom lanes dequeue bottom
      ((lanes.set self.task.lane waiting).push .callStack dequeue) := by
    have shift : Shift bottom lanes dequeue bottom
        ((lanes.set dequeue.lane waiting).push .callStack dequeue) :=
      .dequeued (congrArg Mark.phase mark) (lane ▸ deferred) clear (lane ▸ front)
        (congrArg Mark.phase enqueued) (markFellow enqueued mark) (lane ▸ first)
    rw [lane] at shift
    exact shift
  have ran : Shift bottom ((lanes.set self.task.lane waiting).push .callStack dequeue) execute bottom
      (lanes.set self.task.lane waiting) := by
    have back : ((lanes.set self.task.lane waiting).push .callStack dequeue).set .callStack
        bottom.toList = lanes.set self.task.lane waiting := by
      rw [Lanes.push, Lanes.setSet, ← stack]
      exact Lanes.setGet _ .callStack
    have top : ((lanes.set self.task.lane waiting).push .callStack dequeue).callStack =
        bottom.toList ++ [dequeue] := congrArg (· ++ [dequeue]) stack
    have ownLane : execute.lane = self.task.lane := congrArg Mark.lane executing
    have number : execute.task = self.number := congrArg Mark.number executing
    have shift := Shift.executed (congrArg Mark.phase executing) (ownLane ▸ deferred) top
      (congrArg Mark.phase mark) (markFellow mark executing) fun low member =>
        ⟨number ▸ (under low member).2, (under low member).1⟩
    rw [back] at shift
    exact shift
  exact .step taken (.step ran (outputsOrderly marks next))

theorem nestedOrderly {selves : List Numbered}
    (marks : steps.map Step.mark = selves.flatMap Numbered.life)
    (microtasks : ∀ self ∈ selves, self.task.lane = .microtask)
    (clear : lanes.callStack = bottom.toList)
    (under : ∀ low ∈ bottom, low.lane = .callStack)
    (fresh : ∀ entry ∈ lanes.entries, ∀ self ∈ selves, entry.task ≠ self.number)
    (empty : selves ≠ [] → lanes.microtask = []) (next : Orderly bottom lanes rest) :
    Orderly bottom lanes (steps ++ rest) := by
  induction selves generalizing steps with
  | nil =>
    rw [List.map_eq_nil_iff.mp marks]
    exact next
  | cons self selves ih =>
    have lane := microtasks self List.mem_cons_self
    have empty := empty (List.cons_ne_nil _ _)
    have life : self.life = self.enqueued :: self.dequeued :: self.running := by
      rw [Numbered.life, lane]
      rfl
    rw [List.flatMap_cons, life] at marks
    obtain ⟨enqueue, steps, rfl, mark, marks⟩ := List.map_eq_cons_iff.mp marks
    obtain ⟨served, later, rfl, serving, marks⟩ := List.map_eq_append_iff.mp marks
    have enqueueLane : enqueue.lane = .microtask := (congrArg Mark.lane mark).trans lane
    have number : enqueue.task = self.number := congrArg Mark.number mark
    have back : (lanes.push .microtask enqueue).set .microtask [] = lanes := by
      rw [Lanes.push, Lanes.setSet, ← empty]
      exact Lanes.setGet lanes .microtask
    have line : (lanes.push .microtask enqueue).get .microtask = [enqueue] := by
      rw [Lanes.push, Lanes.getSet]
      exact congrArg (· ++ [enqueue]) empty
    have shift : Shift bottom lanes enqueue bottom (lanes.push .microtask enqueue) := by
      have shift : Shift bottom lanes enqueue bottom (lanes.push enqueue.lane enqueue) :=
        .enqueued (congrArg Mark.phase mark) (by rw [enqueueLane]; decide) clear
          fun entry member => number ▸ fresh entry member self List.mem_cons_self
      rw [enqueueLane] at shift
      exact shift
    have others : Orderly bottom lanes (later ++ rest) :=
      ih marks (fun self member => microtasks self (List.mem_cons_of_mem _ member))
        (fun entry member self inside => fresh entry member self (List.mem_cons_of_mem _ inside))
        (fun _ => empty)
    rw [List.cons_append, List.append_assoc]
    refine .step shift (servedOrderly serving (by rw [lane]; decide) clear (fun low member => ?_)
      (by rw [lane]; exact line) mark (fun other => absurd lane other) ?_)
    · have present : low ∈ lanes.entries := by
        refine (lanes.entriesSplit .callStack).mem_iff.mpr (List.mem_append_left _ ?_)
        show low ∈ lanes.callStack
        rw [clear]
        exact Option.mem_toList.mpr member
      exact ⟨under low member, fresh low present self List.mem_cons_self⟩
    · rw [lane, back]
      exact others

theorem waitingNext {slot : Slot} {slots : List Slot} (waiting : Waiting bottom (slot :: slots) lanes)
    (deferred : slot.lane ≠ .callStack) : ∃ entry behind,
      lanes.get slot.lane = entry :: behind ∧ entry.mark = slot.own.enqueued ∧
      Waiting bottom slots (lanes.set slot.lane behind) := by
  have lined := waiting.lined slot.lane deferred
  rw [List.filter_cons, if_pos (beq_self_eq_true _), List.map_cons] at lined
  obtain ⟨entry, behind, front, mark, marks⟩ := List.map_eq_cons_iff.mp lined
  refine ⟨entry, behind, front, mark, ?_, fun lane other => ?_⟩
  · exact (lanes.callStackSet behind deferred).trans waiting.clear
  · by_cases same : lane = slot.lane
    · rw [same, Lanes.getSet]
      exact marks
    · have lined := waiting.lined lane other
      rw [List.filter_cons, if_neg (by simpa using fun equal => same equal.symm)] at lined
      rw [Lanes.getSetElse _ _ same]
      exact lined

theorem waitingDone (waiting : Waiting bottom [] lanes) :
    lanes = { callStack := bottom.toList } := by
  refine Lanes.ext fun lane => ?_
  by_cases stack : lane = .callStack
  · rw [stack]
    exact waiting.clear
  · have empty : lanes.get lane = [] := List.map_eq_nil_iff.mp (waiting.lined lane stack)
    rw [empty]
    cases lane <;> first | rfl | exact absurd rfl stack

theorem turnsOrderly {slots : List Slot} (waiting : Waiting bottom slots lanes)
    (marks : steps.map Step.mark = slots.flatMap Slot.turn)
    (deferred : ∀ slot ∈ slots, slot.lane ≠ .callStack)
    (nested : ∀ slot ∈ slots, slot.job.WellNested)
    (distinct : ((slots.flatMap Slot.members).map Numbered.number).Nodup)
    (clears : Clears bottom (slots.flatMap Slot.members))
    (microtasksFirst : slots.Pairwise fun slot later => later.lane = .microtask →
      slot.lane = .microtask) :
    Orderly bottom lanes steps := by
  induction slots generalizing lanes steps with
  | nil =>
    rw [List.map_eq_nil_iff.mp marks, waitingDone waiting]
    exact .done bottom
  | cons slot slots ih =>
    obtain ⟨turn, later, rfl, turning, laterMarks⟩ := List.map_eq_append_iff.mp marks
    obtain ⟨served, inner, rfl, serving, innerMarks⟩ := List.map_eq_append_iff.mp turning
    have deferredOwn := deferred slot List.mem_cons_self
    have nestedOwn := nested slot List.mem_cons_self
    obtain ⟨entry, behind, front, mark, waiting'⟩ := waitingNext waiting deferredOwn
    obtain ⟨first, microtasksFirst⟩ := List.pairwise_cons.mp microtasksFirst
    have quiet (other : slot.lane ≠ .microtask) : lanes.microtask = [] := by
      have none : (slot :: slots).filter (fun waits => waits.lane == .microtask) = [] := by
        rw [List.filter_eq_nil_iff]
        intro waits member same
        rcases List.mem_cons.mp member with rfl | later
        · exact other (beq_iff_eq.mp same)
        · exact other (first waits later (beq_iff_eq.mp same))
      have lined := waiting.lined .microtask (by decide)
      rw [none] at lined
      exact List.map_eq_nil_iff.mp lined
    -- backwards: the turns behind this one, then the tasks nested in it, then its own
    have others : Orderly bottom (lanes.set slot.lane behind) later := by
      have apart : (slots.flatMap Slot.members).Sublist ((slot :: slots).flatMap Slot.members) :=
        List.sublist_append_right _ _
      refine ih waiting' laterMarks (fun slot member => deferred slot (List.mem_cons_of_mem _ member))
        (fun slot member => nested slot (List.mem_cons_of_mem _ member))
        (distinct.sublist (apart.map _)) (fun low member => ?_) microtasksFirst
      exact ⟨(clears low member).1, fun self inside => (clears low member).2 self (apart.mem inside)⟩
    have inners : Orderly bottom (lanes.set slot.lane behind) (inner ++ later) := by
      refine nestedOrderly innerMarks (fun self => innerLane nestedOwn) waiting'.clear
        (fun low member => (clears low member).1) (fun entry present self inside => ?_)
        (fun nonempty => ?_) others
      · rcases waitingEntry waiting' present with low | ⟨other, waits, same⟩
        · exact (clears entry low).2 self
            (List.mem_append_left _ (List.mem_cons_of_mem _ inside))
        · have unlike := innerUnlisted distinct List.mem_cons_self (List.mem_cons_of_mem _ waits) inside
          exact fun equal => unlike (Int.ofNat_inj.mp (equal.symm.trans same))
      · have timer : slot.lane = .macrotask := nestedOwn.timer fun bare => nonempty (by
          rw [Slot.inner, bare]
          rfl)
        have other : Lane.microtask ≠ slot.lane := by rw [timer]; decide
        have kept := lanes.getSetElse behind other
        exact kept.trans (quiet (by rw [timer]; decide))
    rw [List.append_assoc]
    refine servedOrderly serving deferredOwn waiting.clear (fun low member => ?_) front mark quiet
      inners
    exact ⟨(clears low member).1, (clears low member).2 slot.own
      (List.mem_append_left _ List.mem_cons_self)⟩

theorem waitingPush {slot : Slot} {slots : List Slot} {entry : Step}
    (waiting : Waiting bottom slots lanes) (deferred : slot.lane ≠ .callStack)
    (mark : entry.mark = slot.own.enqueued) :
    Waiting bottom (slots ++ [slot]) (lanes.push slot.lane entry) := by
  refine ⟨(lanes.callStackSet _ deferred).trans waiting.clear,
    fun lane other => ?_⟩
  rw [List.filter_append, List.map_append, ← waiting.lined lane other]
  by_cases same : lane = slot.lane
  · rw [same, Lanes.push, Lanes.getSet, List.map_append, List.filter_cons,
      if_pos (beq_self_eq_true _), List.map_singleton, mark]
    rfl
  · rw [Lanes.push, Lanes.getSetElse _ _ same, List.filter_cons,
      if_neg (by simpa using fun equal => same equal.symm)]
    exact (List.append_nil _).symm

theorem enqueuesOrderly {before slots : List Slot} (waiting : Waiting bottom before lanes)
    (marks : steps.map Step.mark = slots.map fun slot => slot.own.enqueued)
    (deferred : ∀ slot ∈ slots, slot.lane ≠ .callStack)
    (distinct : ((before ++ slots).map Slot.number).Nodup)
    (clears : Clears bottom (slots.map Slot.own))
    (next : ∀ lanes, Waiting bottom (before ++ slots) lanes → Orderly bottom lanes rest) :
    Orderly bottom lanes (steps ++ rest) := by
  induction slots generalizing before lanes steps with
  | nil =>
    rw [List.map_eq_nil_iff.mp marks]
    rw [List.append_nil] at next
    exact next lanes waiting
  | cons slot slots ih =>
    obtain ⟨step, later, rfl, mark, marks⟩ := List.map_eq_cons_iff.mp marks
    have deferredOwn := deferred slot List.mem_cons_self
    have lane : step.lane = slot.lane := congrArg Mark.lane mark
    have number : step.task = slot.number := congrArg Mark.number mark
    have fresh : ∀ entry ∈ lanes.entries, entry.task ≠ step.task := by
      intro entry present
      rw [number]
      rcases waitingEntry waiting present with low | ⟨other, waits, same⟩
      · exact (clears entry low).2 slot.own List.mem_cons_self
      · intro equal
        rw [List.map_append, List.map_cons, List.nodup_middle, List.nodup_cons] at distinct
        refine distinct.1 (List.mem_append_left _ (List.mem_map.mpr ⟨other, waits, ?_⟩))
        exact Int.ofNat_inj.mp (same.symm.trans equal)
    have shift : Shift bottom lanes step bottom (lanes.push slot.lane step) := by
      rw [← lane]
      exact .enqueued (congrArg Mark.phase mark) (lane ▸ deferredOwn) waiting.clear fresh
    have regroup : before ++ slot :: slots = before ++ [slot] ++ slots := by simp
    rw [regroup] at distinct next
    refine .step shift (ih (waitingPush waiting deferredOwn mark) marks
      (fun slot member => deferred slot (List.mem_cons_of_mem _ member)) distinct
      (fun low member => ?_) next)
    exact ⟨(clears low member).1, fun self inside =>
      (clears low member).2 self (List.mem_cons_of_mem _ inside)⟩

theorem atOnceOrderly {slots : List Slot}
    (marks : steps.map Step.mark = slots.flatMap fun slot => slot.own.running)
    (atOnce : ∀ slot ∈ slots, slot.lane = .callStack)
    (next : ∀ bottom', (bottom' = bottom ∨ ∃ step ∈ bottom', step.lane = .callStack ∧
        ∃ slot ∈ slots, step.task = slot.number) →
      Orderly bottom' { callStack := bottom'.toList } rest) :
    Orderly bottom { callStack := bottom.toList } (steps ++ rest) := by
  induction slots generalizing bottom steps with
  | nil =>
    rw [List.map_eq_nil_iff.mp marks]
    exact next bottom (Or.inl rfl)
  | cons slot slots ih =>
    obtain ⟨running, later, rfl, runningMarks, laterMarks⟩ := List.map_eq_append_iff.mp marks
    obtain ⟨execute, outputs, rfl, mark, outputMarks⟩ := List.map_eq_cons_iff.mp runningMarks
    have lane : execute.lane = .callStack :=
      (congrArg Mark.lane mark).trans (atOnce slot List.mem_cons_self)
    have others : Orderly (some execute) { callStack := [execute] } (later ++ rest) := by
      refine ih laterMarks (fun slot member => atOnce slot (List.mem_cons_of_mem _ member))
        fun bottom' origin => next bottom' (Or.inr ?_)
      rcases origin with rfl | ⟨step, top, lane, slot, member, number⟩
      · exact ⟨execute, rfl, lane, slot, List.mem_cons_self, congrArg Mark.number mark⟩
      · exact ⟨step, top, lane, slot, List.mem_cons_of_mem _ member, number⟩
    rw [List.append_assoc]
    exact .step (.ranAtOnce (congrArg Mark.phase mark) lane) (outputsOrderly outputMarks others)

end Sections

theorem deferredLane (slots : List Slot) {lane : Lane} (deferred : lane ≠ .callStack) :
    (deferredSlots slots).filter (fun slot => slot.lane == lane) =
      slots.filter fun slot => slot.lane == lane := by
  rw [deferredSlots, List.filter_filter]
  refine List.filter_congr fun slot _ => ?_
  by_cases same : slot.lane = lane <;> simp [same, deferred]

theorem drainedLane (slots : List Slot) {lane : Lane} (deferred : lane ≠ .callStack) :
    (drainedSlots slots).filter (fun slot => slot.lane == lane) =
      (deferredSlots slots).filter fun slot => slot.lane == lane := by
  have picked (other : Lane) : (slots.filter fun slot => slot.lane == other).filter
      (fun slot => slot.lane == lane) =
      if other = lane then slots.filter fun slot => slot.lane == lane else [] := by
    rw [List.filter_filter]
    split
    · rename_i same
      rw [same]
      exact List.filter_congr fun slot _ => Bool.and_self _
    · rename_i different
      refine List.filter_eq_nil_iff.mpr fun slot _ both => different ?_
      rw [Bool.and_eq_true, beq_iff_eq, beq_iff_eq] at both
      exact both.2.symm.trans both.1
  rw [deferredLane slots deferred, drainedSlots, List.filter_flatMap]
  simp only [picked]
  cases lane <;> simp [drainOrder] at deferred ⊢

theorem drainedMicrotasksFirst (slots : List Slot) :
    (drainedSlots slots).Pairwise fun slot later => later.lane = .microtask →
      slot.lane = .microtask := by
  have split : drainedSlots slots = (slots.filter fun slot => slot.lane == .microtask) ++
      [.macrotask, .animation, .idle].flatMap fun lane => slots.filter fun slot =>
        slot.lane == lane := rfl
  rw [split, List.pairwise_append]
  refine ⟨?_, ?_, ?_⟩
  · refine List.pairwise_of_forall_mem_list fun slot member later _ _ => ?_
    exact beq_iff_eq.mp (List.mem_filter.mp member).2
  · refine List.pairwise_of_forall_mem_list fun slot _ later member microtask => ?_
    have lane := (pickedMember member).2
    rw [microtask] at lane
    exact absurd lane (by decide)
  · intro slot member later _ _
    exact beq_iff_eq.mp (List.mem_filter.mp member).2

theorem jobsOrderly {jobs : List Job} (wellNested : ∀ job ∈ jobs, job.WellNested) :
    Orderly none {} (ofJobs jobs) := by
  have marked := traceMarks wellNested
  have distinct := membersDistinct jobs
  have nested := rosterWellNested wellNested
  have numbers : ((roster jobs).map Slot.number).Nodup := by
    rw [rosterNumbers]
    exact List.nodup_range' 1
  generalize roster jobs = slots at *
  rw [marks, List.append_assoc] at marked
  obtain ⟨atOnce, deferred, split, atOnceMarks, deferredMarks⟩ := List.map_eq_append_iff.mp marked
  obtain ⟨enqueues, turns, rfl, enqueueMarks, turnMarks⟩ := List.map_eq_append_iff.mp deferredMarks
  rw [split]
  refine atOnceOrderly atOnceMarks (fun slot member => beq_iff_eq.mp (List.mem_filter.mp member).2)
    fun bottom origin => ?_
  have clears : Clears bottom ((drainedSlots slots).flatMap Slot.members) := by
    intro low member
    rcases origin with rfl | ⟨step, top, lane, slot, present, number⟩
    · cases member
    · obtain rfl : low = step := Option.mem_unique member top
      refine ⟨lane, fun self inside same => ?_⟩
      obtain ⟨other, drained, ofOther⟩ := List.mem_flatMap.mp inside
      obtain ⟨present', deferred⟩ := drainedMember.mp drained
      obtain ⟨present, atOnce⟩ := List.mem_filter.mp present
      have owner := ownerUnique distinct present present' List.mem_cons_self ofOther
        (Int.ofNat_inj.mp (number.symm.trans same))
      exact deferred (owner.1 ▸ beq_iff_eq.mp atOnce)
  have start : Waiting bottom [] { callStack := bottom.toList } :=
    ⟨rfl, fun lane other => by cases lane <;> first | rfl | exact absurd rfl other⟩
  refine enqueuesOrderly start enqueueMarks
    (fun slot member => bne_iff_ne.mp (List.mem_filter.mp member).2)
    (numbers.sublist (List.filter_sublist.map _)) (fun low member => ?_) fun lanes waiting => ?_
  · refine ⟨(clears low member).1, fun self inside => (clears low member).2 self ?_⟩
    obtain ⟨slot, deferred, rfl⟩ := List.mem_map.mp inside
    exact List.mem_flatMap.mpr
      ⟨slot, (drainedPerm slots).mem_iff.mpr deferred, List.mem_cons_self⟩
  · have waiting : Waiting bottom (drainedSlots slots) lanes :=
      ⟨waiting.clear, fun lane other => by
        rw [drainedLane slots other]
        exact waiting.lined lane other⟩
    have distinct : (((drainedSlots slots).flatMap Slot.members).map Numbered.number).Nodup := by
      have perm := ((drainedPerm slots).flatMap_right Slot.members).map Numbered.number
      rw [perm.nodup_iff]
      exact distinct.sublist ((List.filter_sublist.flatMap Slot.members).map _)
    exact turnsOrderly waiting turnMarks (fun slot member => (drainedMember.mp member).2)
      (fun slot member => nested slot (drainedMember.mp member).1) distinct clears
      (drainedMicrotasksFirst slots)

end Trace

/-- How a replay keeps the queues: no task stands in two places, the call stack is never deeper than
two, each dequeuing takes the front entry of its lane and each execution of a deferred task the top
of the call stack, both an entry of the task itself, other lanes wait for the microtasks, and in the
end only the last line that ran at once is left. -/
structure Disciplined (matching : Matching) (steps : List Step) : Prop where
  once : ∀ n, ((lanesAt matching steps n).entries.map Step.task).Nodup
  shallow : ∀ n, (lanesAt matching steps n).callStack.length ≤ 2
  dequeues : ∀ n step, steps[n]? = some step → step.phase = .dequeue →
    step.lane ≠ .callStack ∧ ∃ entry ∈ steps.take n, entry.phase = .enqueue ∧
      entry.task = step.task ∧ ∃ waiting,
        (lanesAt matching steps n).get step.lane = entry :: waiting ∧
        (lanesAt matching steps (n + 1)).get step.lane = waiting
  executes : ∀ n step, steps[n]? = some step → step.phase = .execute → step.lane ≠ .callStack →
    ∃ entry ∈ steps.take n, entry.phase = .dequeue ∧ entry.task = step.task ∧ ∃ below,
      (lanesAt matching steps n).callStack = below ++ [entry] ∧
      (lanesAt matching steps (n + 1)).callStack = below
  microtasksFirst : ∀ n step, steps[n]? = some step → step.phase = .dequeue →
    step.lane ≠ .microtask → (lanesAt matching steps n).microtask = []
  cleared : (Board.replay matching steps).lanes = { callStack := (lastAtOnce steps).toList }

namespace Orderly

variable {steps : List Step}

theorem orderlyDisciplined (orderly : Orderly none {} steps) (matching : Matching) :
    Disciplined matching steps := by
  have present {n : Nat} {lane : Lane} {entry : Step}
      (member : entry ∈ (lanesAt matching steps n).get lane) : entry ∈ steps.take n :=
    orderly.entriesTaken matching n entry
      ((Lanes.entriesSplit _ lane).mem_iff.mpr (List.mem_append_left _ member))
  refine ⟨orderly.shiftInvariant matching List.nodup_nil Shift.tasksDistinct,
    orderly.shiftInvariant matching (Nat.zero_le 2) Shift.stackShallow, fun n step found phase => ?_,
    fun n step found phase deferred => ?_, fun n step found phase other => ?_, ?_⟩
  · obtain ⟨deferred, -, entry, waiting, front, after, enqueued, task⟩ :=
      (orderly.shiftAt matching found).dequeueTakesFront phase
    exact ⟨deferred, entry, present (front ▸ List.mem_cons_self), enqueued, task, waiting, front,
      after⟩
  · obtain ⟨entry, below, top, after, dequeued, task⟩ :=
      (orderly.shiftAt matching found).executeTakesTop phase deferred
    have stands : entry ∈ (lanesAt matching steps n).get .callStack := by
      show entry ∈ (lanesAt matching steps n).callStack
      rw [top]
      exact List.mem_append_right _ (List.mem_singleton_self entry)
    exact ⟨entry, present stands, dequeued, task, below, top, after⟩
  · exact ((orderly.shiftAt matching found).dequeueTakesFront phase).2.1 other
  · have last := orderly.orderlyAfter matching steps.length
    rw [List.drop_length, lanesAt, List.take_length] at last
    exact last.lanesDone

end Orderly

theorem placedAgree {settings other : Settings} {player second : Player} {steps : List Step}
    (orderly : Orderly none {} steps) (placed : Placed settings player)
    (alike : Placed other second) (first : player.steps = steps) (last : second.steps = steps)
    (index : player.board.index = second.board.index) : player.board = second.board := by
  rw [placed.replayed, alike.replayed, first, last, index]
  exact orderly.matchingAgrees player.matching second.matching _

namespace Trace

theorem traceDisciplined (source : String) (matching : Matching) :
    Disciplined matching (traceOf source) :=
  (jobsOrderly (jobsOfWellNested source)).orderlyDisciplined matching

/-- On a program's trace it does not matter whether entries are found by their label or by their
task: after any number of steps the boards are the same, and so are those of players with any
settings, whatever was done to them, whenever they stand at the same step of the trace. -/
theorem labelsAgree (source : String) :
    (∀ n, Board.replay .byLabel ((traceOf source).take n) =
      Board.replay .byTask ((traceOf source).take n)) ∧
    ∀ (σ τ : Type) [Scheduler σ] [Scheduler τ] (settings other : Settings) (scheduler : σ)
      (elsewhere : τ) (events : List (Event σ)) (happenings : List (Event τ)),
      let player := ((Stage.start (traceOf source) settings scheduler).through events).rig.player
      let second := ((Stage.start (traceOf source) other elsewhere).through happenings).rig.player
      player.steps = traceOf source → second.steps = traceOf source →
      player.board.index = second.board.index → player.board = second.board := by
  have orderly : Orderly none {} (traceOf source) := jobsOrderly (jobsOfWellNested source)
  refine ⟨orderly.matchingAgrees .byLabel .byTask, ?_⟩
  intro σ τ _ _ settings other scheduler elsewhere events happenings player second first last index
  exact placedAgree orderly (Stage.runPlaced _ settings scheduler events)
    (Stage.runPlaced _ other elsewhere happenings) first last index

end Trace
end LoopPlayer
