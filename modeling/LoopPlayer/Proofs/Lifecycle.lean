import Mathlib.Data.List.Nodup
import Mathlib.Data.List.Pairwise
import LoopPlayer.Proofs.Roster

/-! The life of every task in the trace of a program. A line run at once is executed; any other task
is enqueued, dequeued and executed; what a task prints besides its first text follows at once. Nested
tasks live between their timer and whatever is dequeued next. -/
namespace LoopPlayer

structure Mark where
  number : Int
  code : String
  label : String
  lane : Lane
  phase : Phase
  line : Int
  output : Option String
  deriving DecidableEq, Repr

def Step.mark (step : Step) : Mark :=
  ⟨step.task, step.code, step.label, step.lane, step.phase, step.line, step.output⟩

def Precede {α : Type} (items : List α) (early late : α → Prop) : Prop :=
  ∀ (i j : Nat) (a b : α), items[i]? = some a → items[j]? = some b → early a → late b → i < j

theorem precedeAppend {α : Type} {before after : List α} {early late : α → Prop}
    (notLate : ∀ item ∈ before, ¬ late item) (notEarly : ∀ item ∈ after, ¬ early item) :
    Precede (before ++ after) early late := by
  intro i j a b atI atJ first second
  by_contra backwards
  by_cases inside : i < before.length
  · rw [List.getElem?_append_left (by omega)] at atJ
    exact notLate b (List.mem_of_getElem? atJ) second
  · rw [List.getElem?_append_right (by omega)] at atI
    exact notEarly a (List.mem_of_getElem? atI) first

namespace Trace
namespace Numbered

def mark (self : Numbered) (phase : Phase) (line : Int) (output : Option String) : Mark :=
  ⟨self.number, self.task.code, self.task.label, self.task.lane, phase, line, output⟩

def enqueued (self : Numbered) : Mark := self.mark .enqueue self.task.line none

def dequeued (self : Numbered) : Mark := self.mark .dequeue self.task.line none

def running (self : Numbered) : List Mark :=
  self.mark .execute self.task.line self.task.output ::
    self.task.extra.map fun (line, text) => self.mark .output line (some text)

def life (self : Numbered) : List Mark :=
  if self.task.lane = .callStack then self.running
  else self.enqueued :: self.dequeued :: self.running

end Numbered

def Slot.turn (slot : Slot) : List Mark :=
  slot.own.dequeued :: slot.own.running ++ slot.inner.flatMap Numbered.life

def Listed (roster : List Slot) (mark : Mark) : Prop := ∃ slot ∈ roster, mark.number = slot.number

/-- How the steps of a trace follow the life of the tasks in a roster: a task's own steps are those of
its life and no others; a job that runs at once, and a deferred one with its nested tasks, run in one
piece; the lanes take turns. -/
structure Lifecycle (roster : List Slot) (steps : List Step) : Prop where
  ids : steps.map Step.id = (List.range' 1 steps.length).map Int.ofNat
  distinct : ((roster.flatMap Slot.members).map Numbered.number).Nodup
  owned : ∀ step ∈ steps, ∃ self ∈ roster.flatMap Slot.members, step.task = self.number
  nested : ∀ slot ∈ roster, slot.job.WellNested
  lives : ∀ self ∈ roster.flatMap Slot.members,
    (steps.filter fun step => step.task = (self.number : Int)).map Step.mark = self.life
  immediate : ∀ slot ∈ roster, slot.lane = .callStack → slot.own.running <:+: steps.map Step.mark
  deferred : ∀ slot ∈ roster, slot.lane ≠ .callStack → ∃ before after,
    steps.map Step.mark = before ++ slot.turn ++ after ∧
    ∀ next ∈ after.head?, next.phase = .dequeue ∧ Listed roster next
  executesFirst : Precede (steps.map Step.mark)
    (fun mark => mark.phase = .execute ∧ mark.lane = .callStack)
    (fun mark => mark.phase = .enqueue ∧ Listed roster mark)
  enqueuesNext : Precede (steps.map Step.mark)
    (fun mark => mark.phase = .enqueue ∧ Listed roster mark) (fun mark => mark.phase = .dequeue)
  laneByLane : [.microtask, .macrotask, .animation, .idle].Pairwise fun early late =>
    Precede (steps.map Step.mark)
      (fun mark => mark.phase = .dequeue ∧ mark.lane = early ∧
        (early = .microtask → Listed roster mark))
      (fun mark => mark.phase = .dequeue ∧ mark.lane = late)

namespace Numbered

theorem runningMark {self : Numbered} {mark : Mark} (member : mark ∈ self.running) :
    mark.number = self.number ∧ mark.lane = self.task.lane ∧
      (mark.phase = .execute ∨ mark.phase = .output) := by
  rcases List.mem_cons.mp member with rfl | further
  · exact ⟨rfl, rfl, Or.inl rfl⟩
  · obtain ⟨extra, -, rfl⟩ := List.mem_map.mp further
    exact ⟨rfl, rfl, Or.inr rfl⟩

theorem lifeCases {self : Numbered} {mark : Mark} (member : mark ∈ self.life) :
    mark = self.enqueued ∨ mark = self.dequeued ∨ mark ∈ self.running := by
  unfold life at member
  split at member
  · exact Or.inr (Or.inr member)
  · exact (List.mem_cons.mp member).imp_right List.mem_cons.mp

theorem lifeMark {self : Numbered} {mark : Mark} (member : mark ∈ self.life) :
    mark.number = self.number ∧ mark.lane = self.task.lane := by
  rcases lifeCases member with rfl | rfl | running
  · exact ⟨rfl, rfl⟩
  · exact ⟨rfl, rfl⟩
  · exact ⟨(runningMark running).1, (runningMark running).2.1⟩

end Numbered

def Move.mark (move : Move) : Mark := (move.step 0).mark

theorem ofListedMarks (listed : List (Nat × Job)) :
    (ofListed listed).map Step.mark = (moves listed).map Move.mark := by
  calc (ofListed listed).map Step.mark
      = ((moves listed).zipIdx 1).map (Move.mark ∘ Prod.fst) := List.map_map
    _ = (moves listed).map Move.mark := by rw [← List.map_map, List.zipIdx_map_fst]

theorem ofListedIds (listed : List (Nat × Job)) :
    (ofListed listed).map Step.id =
      (List.range' 1 (ofListed listed).length).map Int.ofNat := by
  calc (ofListed listed).map Step.id
      = ((moves listed).zipIdx 1).map (Int.ofNat ∘ Prod.snd) := List.map_map
    _ = (List.range' 1 (ofListed listed).length).map Int.ofNat := by
      rw [← List.map_map, List.zipIdx_map_snd, ofListed, List.length_map, List.length_zipIdx]

theorem executeMarks (self : Numbered) (note : String) :
    (self.execute note).map Move.mark = self.running := by
  rw [Numbered.execute, List.map_cons, List.map_map]
  rfl

theorem nestedMarks {self : Numbered} (microtask : self.task.lane = .microtask) :
    self.nested.map Move.mark = self.life := by
  rw [Numbered.nested, List.map_cons, List.map_cons, executeMarks, Numbered.life, microtask]
  rfl

theorem innerLane {slot : Slot} (nested : slot.job.WellNested) {self : Numbered}
    (member : self ∈ slot.inner) : self.task.lane = .microtask := by
  obtain ⟨⟨task, number⟩, inside, rfl⟩ := List.mem_map.mp member
  exact nested.microtasks task (List.fst_mem_of_mem_zipIdx inside)

theorem drainMarks {slot : Slot} (nested : slot.job.WellNested) :
    slot.drain.map Move.mark = slot.turn := by
  have inner : (slot.inner.flatMap Numbered.nested).map Move.mark =
      slot.inner.flatMap Numbered.life := by
    rw [List.map_flatMap]
    exact List.flatMap_congr fun self member => nestedMarks (innerLane nested member)
  rw [Slot.drain, List.map_append, List.map_cons, executeMarks, inner]
  rfl

def marks (roster : List Slot) : List Mark :=
  ((immediateSlots roster).flatMap fun slot => slot.own.running) ++
    ((deferredSlots roster).map fun slot => slot.own.enqueued) ++
    (drainedSlots roster).flatMap Slot.turn

theorem drainedPerm (slots : List Slot) : (drainedSlots slots).Perm (deferredSlots slots) := by
  have picked := pickedByLane drainOrder (by decide) Slot.lane slots
  refine picked.trans (List.Perm.of_eq (List.filter_congr fun slot _ => ?_))
  cases slot.lane <;> rfl

theorem drainedMember {slots : List Slot} {slot : Slot} :
    slot ∈ drainedSlots slots ↔ slot ∈ slots ∧ slot.lane ≠ .callStack := by
  rw [(drainedPerm slots).mem_iff, deferredSlots, List.mem_filter, bne_iff_ne]

theorem pickedMember {slots : List Slot} {lanes : List Lane} {slot : Slot}
    (member : slot ∈ lanes.flatMap fun lane => slots.filter fun slot => slot.lane == lane) :
    slot ∈ slots ∧ slot.lane ∈ lanes := by
  obtain ⟨lane, inside, filtered⟩ := List.mem_flatMap.mp member
  obtain ⟨present, same⟩ := List.mem_filter.mp filtered
  exact ⟨present, beq_iff_eq.mp same ▸ inside⟩

theorem rosterWellNested {jobs : List Job} (nested : ∀ job ∈ jobs, job.WellNested) :
    ∀ slot ∈ roster jobs, slot.job.WellNested := by
  intro slot present
  refine nested slot.job ?_
  rw [← rosterJobs jobs]
  exact List.mem_map_of_mem present

theorem traceMarks {jobs : List Job} (nested : ∀ job ∈ jobs, job.WellNested) :
    (ofJobs jobs).map Step.mark = marks (roster jobs) := by
  have turns : ((drainedSlots (roster jobs)).flatMap Slot.drain).map Move.mark =
      (drainedSlots (roster jobs)).flatMap Slot.turn := by
    rw [List.map_flatMap]
    exact List.flatMap_congr fun slot member =>
      drainMarks (rosterWellNested nested slot (drainedMember.mp member).1)
  rw [ofJobs, ofListedMarks, movesRoster nested, List.map_append, List.map_append, turns,
    List.map_flatMap, List.map_map]
  refine congrArg (· ++ _) (congrArg (· ++ _) (List.flatMap_congr fun slot _ => ?_))
  exact executeMarks slot.own immediateNote

section Roster

variable {roster : List Slot} (distinct : ((roster.flatMap Slot.members).map Numbered.number).Nodup)
include distinct

theorem ownerUnique {a b : Slot} (first : a ∈ roster) (second : b ∈ roster) {x y : Numbered}
    (ofFirst : x ∈ a.members) (ofSecond : y ∈ b.members) (same : x.number = y.number) :
    a = b ∧ x = y := by
  have equal : x = y := List.inj_on_of_nodup_map distinct
    (List.mem_flatMap.mpr ⟨a, first, ofFirst⟩) (List.mem_flatMap.mpr ⟨b, second, ofSecond⟩) same
  refine ⟨?_, equal⟩
  by_contra different
  have : Std.Symm (Function.onFun List.Disjoint Slot.members) :=
    ⟨fun _ _ apart _ second first => apart first second⟩
  have disjoint := (List.nodup_flatMap.mp distinct.of_map).2.forall first second different
  exact disjoint ofFirst (equal ▸ ofSecond)

theorem innerUnlisted {slot other : Slot} (member : slot ∈ roster) (listed : other ∈ roster)
    {self : Numbered} (inside : self ∈ slot.inner) : self.number ≠ other.number := by
  intro same
  obtain ⟨rfl, rfl⟩ := ownerUnique distinct member listed (List.mem_cons_of_mem _ inside)
    (show other.own ∈ other.members from List.mem_cons_self) same
  have apart := (List.nodup_flatMap.mp distinct.of_map).1 slot member
  exact (List.nodup_cons.mp apart).1 inside

theorem slotsDistinct : roster.Nodup := by
  have apart := (List.map_append_flatMap_perm roster Slot.own Slot.inner).nodup_iff.mpr
    distinct.of_map
  exact (List.nodup_append.mp apart).1.of_map

end Roster

namespace Slot

theorem turnCases {slot : Slot} {mark : Mark} (member : mark ∈ slot.turn) :
    mark = slot.own.dequeued ∨ mark ∈ slot.own.running ∨ ∃ self ∈ slot.inner, mark ∈ self.life := by
  rcases List.mem_append.mp member with own | inner
  · exact (List.mem_cons.mp own).imp_right Or.inl
  · exact Or.inr (Or.inr (List.mem_flatMap.mp inner))

def Foreign (slot : Slot) (mark : Mark) : Prop := ∀ self ∈ slot.members, mark.number ≠ self.number

theorem turnOwner {slot : Slot} {mark : Mark} (member : mark ∈ slot.turn) :
    ∃ self ∈ slot.members, mark.number = self.number := by
  rcases turnCases member with rfl | running | ⟨self, inside, living⟩
  · exact ⟨slot.own, List.mem_cons_self, rfl⟩
  · exact ⟨slot.own, List.mem_cons_self, (Numbered.runningMark running).1⟩
  · exact ⟨self, List.mem_cons_of_mem _ inside, (Numbered.lifeMark living).1⟩

end Slot

theorem othersSplit {α : Type} {items before after : List α} {item : α} (distinct : items.Nodup)
    (split : items = before ++ item :: after) :
    ∀ other ∈ before ++ after, other ∈ items ∧ other ≠ item := by
  intro other member
  rw [split, List.nodup_middle, List.nodup_cons] at distinct
  refine ⟨?_, fun same => distinct.1 (same ▸ member)⟩
  rw [split]
  rcases List.mem_append.mp member with first | last
  · exact List.mem_append_left _ first
  · exact List.mem_append_right _ (List.mem_cons_of_mem _ last)

section Roster

variable {roster : List Slot} (distinct : ((roster.flatMap Slot.members).map Numbered.number).Nodup)
include distinct

theorem foreignOther {slot other : Slot} (member : slot ∈ roster) (present : other ∈ roster)
    (different : other ≠ slot) {mark : Mark}
    (owner : ∃ self ∈ other.members, mark.number = self.number) : slot.Foreign mark := by
  obtain ⟨x, ofOther, marked⟩ := owner
  intro y ofSlot same
  have numbers : x.number = y.number := Int.ofNat_inj.mp (marked.symm.trans same)
  exact different (ownerUnique distinct present member ofOther ofSlot numbers).1

theorem marksDeferred {slot : Slot} (member : slot ∈ roster) (deferred : slot.lane ≠ .callStack) :
    ∃ before between after,
      marks roster = before ++ slot.own.enqueued :: between ++ slot.turn ++ after ∧
      (∀ mark ∈ before ++ between ++ after, slot.Foreign mark) ∧
      ∀ next ∈ after.head?, next.phase = .dequeue ∧ Listed roster next := by
  have drained := drainedMember.mpr ⟨member, deferred⟩
  have enqueued := (drainedPerm roster).mem_iff.mp drained
  have once : (deferredSlots roster).Nodup := (slotsDistinct distinct).filter _
  obtain ⟨enqueuedBefore, enqueuedAfter, enqueues⟩ := List.append_of_mem enqueued
  obtain ⟨drainedBefore, drainedAfter, drains⟩ := List.append_of_mem drained
  have otherEnqueued := othersSplit once enqueues
  have otherDrained := othersSplit ((drainedPerm roster).nodup_iff.mpr once) drains
  have foreignEnqueued {other : Slot} (inside : other ∈ enqueuedBefore ++ enqueuedAfter) :
      slot.Foreign other.own.enqueued := by
    obtain ⟨present, different⟩ := otherEnqueued other inside
    exact foreignOther distinct member (List.mem_filter.mp present).1 different
      ⟨other.own, List.mem_cons_self, rfl⟩
  have foreignDrained {other : Slot} (inside : other ∈ drainedBefore ++ drainedAfter) {mark : Mark}
      (turn : mark ∈ other.turn) : slot.Foreign mark := by
    obtain ⟨present, different⟩ := otherDrained other inside
    exact foreignOther distinct member (drainedMember.mp present).1 different (Slot.turnOwner turn)
  refine ⟨((immediateSlots roster).flatMap fun slot => slot.own.running) ++
      (enqueuedBefore.map fun slot => slot.own.enqueued),
    (enqueuedAfter.map fun slot => slot.own.enqueued) ++ drainedBefore.flatMap Slot.turn,
    drainedAfter.flatMap Slot.turn, ?_, ?_, ?_⟩
  · simp only [marks, enqueues, drains, List.map_append, List.map_cons, List.flatMap_append,
      List.flatMap_cons, List.append_assoc, List.cons_append]
  · intro mark inside
    simp only [List.mem_append, List.mem_flatMap, List.mem_map] at inside
    rcases inside with ((⟨other, atOnce, running⟩ | ⟨other, inside, rfl⟩) |
      ⟨other, inside, rfl⟩ | ⟨other, inside, turn⟩) | ⟨other, inside, turn⟩
    · obtain ⟨present, lane⟩ := List.mem_filter.mp atOnce
      have different : other ≠ slot := fun same => deferred (same ▸ beq_iff_eq.mp lane)
      exact foreignOther distinct member present different
        ⟨other.own, List.mem_cons_self, (Numbered.runningMark running).1⟩
    · exact foreignEnqueued (List.mem_append_left _ inside)
    · exact foreignEnqueued (List.mem_append_right _ inside)
    · exact foreignDrained (List.mem_append_left _ inside) turn
    · exact foreignDrained (List.mem_append_right _ inside) turn
  · cases drainedAfter with
    | nil => simp
    | cons other rest =>
      intro next first
      have first : other.own.dequeued = next := Option.some.inj first
      have present := (otherDrained other (List.mem_append_right _ List.mem_cons_self)).1
      rw [← first]
      exact ⟨rfl, other, (drainedMember.mp present).1, rfl⟩

theorem marksImmediate {slot : Slot} (member : slot ∈ roster) (immediate : slot.lane = .callStack) :
    ∃ before after, marks roster = before ++ slot.own.running ++ after ∧
      ∀ mark ∈ before ++ after, slot.Foreign mark := by
  have listed : slot ∈ immediateSlots roster := List.mem_filter.mpr ⟨member, beq_iff_eq.mpr immediate⟩
  obtain ⟨first, last, split⟩ := List.append_of_mem listed
  have others := othersSplit ((slotsDistinct distinct).filter _) split
  have foreignRunning {other : Slot} (inside : other ∈ first ++ last) {mark : Mark}
      (running : mark ∈ other.own.running) : slot.Foreign mark := by
    obtain ⟨present, different⟩ := others other inside
    exact foreignOther distinct member (List.mem_filter.mp present).1 different
      ⟨other.own, List.mem_cons_self, (Numbered.runningMark running).1⟩
  have foreignDeferred {other : Slot} (present : other ∈ roster) (deferred : other.lane ≠ .callStack)
      {mark : Mark} (owner : ∃ self ∈ other.members, mark.number = self.number) :
      slot.Foreign mark :=
    foreignOther distinct member present (fun same => deferred (same ▸ immediate)) owner
  refine ⟨first.flatMap fun slot => slot.own.running,
    (last.flatMap fun slot => slot.own.running) ++
      ((deferredSlots roster).map fun slot => slot.own.enqueued) ++
      (drainedSlots roster).flatMap Slot.turn, ?_, ?_⟩
  · simp only [marks, split, List.flatMap_append, List.flatMap_cons, List.append_assoc]
  · intro mark inside
    simp only [List.mem_append, List.mem_flatMap, List.mem_map] at inside
    rcases inside with ⟨other, inside, running⟩ |
      (⟨other, inside, running⟩ | ⟨other, inside, rfl⟩) | ⟨other, inside, turn⟩
    · exact foreignRunning (List.mem_append_left _ inside) running
    · exact foreignRunning (List.mem_append_right _ inside) running
    · obtain ⟨present, deferred⟩ := List.mem_filter.mp inside
      exact foreignDeferred present (bne_iff_ne.mp deferred) ⟨other.own, List.mem_cons_self, rfl⟩
    · obtain ⟨present, deferred⟩ := drainedMember.mp inside
      exact foreignDeferred present deferred (Slot.turnOwner turn)

end Roster

def marksOf (self : Numbered) (marks : List Mark) : List Mark :=
  marks.filter fun mark => mark.number = (self.number : Int)

theorem marksOfAppend (self : Numbered) (before after : List Mark) :
    marksOf self (before ++ after) = marksOf self before ++ marksOf self after :=
  List.filter_append ..

theorem marksOfAll {self : Numbered} {marks : List Mark}
    (all : ∀ mark ∈ marks, mark.number = self.number) : marksOf self marks = marks :=
  List.filter_eq_self.mpr fun mark member => decide_eq_true (all mark member)

theorem marksOfNone {self : Numbered} {marks : List Mark}
    (none : ∀ mark ∈ marks, mark.number ≠ self.number) : marksOf self marks = [] :=
  List.filter_eq_nil_iff.mpr fun mark member same => none mark member (of_decide_eq_true same)

theorem marksOfInner {selves : List Numbered} (distinct : (selves.map Numbered.number).Nodup)
    {self : Numbered} (member : self ∈ selves) :
    marksOf self (selves.flatMap Numbered.life) = self.life := by
  obtain ⟨before, after, rfl⟩ := List.append_of_mem member
  have others := othersSplit distinct.of_map rfl
  have foreign {other : Numbered} (inside : other ∈ before ++ after) :
      ∀ mark ∈ other.life, mark.number ≠ self.number := by
    intro mark living same
    obtain ⟨present, different⟩ := others other inside
    have numbers := Int.ofNat_inj.mp ((Numbered.lifeMark living).1.symm.trans same)
    exact different (List.inj_on_of_nodup_map distinct present member numbers)
  have first : marksOf self (before.flatMap Numbered.life) = [] := by
    refine marksOfNone fun mark inside => ?_
    obtain ⟨other, inside, living⟩ := List.mem_flatMap.mp inside
    exact foreign (List.mem_append_left _ inside) mark living
  have last : marksOf self (after.flatMap Numbered.life) = [] := by
    refine marksOfNone fun mark inside => ?_
    obtain ⟨other, inside, living⟩ := List.mem_flatMap.mp inside
    exact foreign (List.mem_append_right _ inside) mark living
  have own : marksOf self self.life = self.life := marksOfAll fun mark living => (Numbered.lifeMark living).1
  rw [List.flatMap_append, List.flatMap_cons, marksOfAppend, marksOfAppend, first, own, last,
    List.nil_append, List.append_nil]

theorem marksOfTurn {slot : Slot} (deferred : slot.lane ≠ .callStack)
    (distinct : (slot.members.map Numbered.number).Nodup) {self : Numbered}
    (member : self ∈ slot.members) :
    marksOf self (slot.own.enqueued :: slot.turn) = self.life := by
  obtain ⟨unlike, apart⟩ := List.nodup_cons.mp distinct
  have different {inner : Numbered} (inside : inner ∈ slot.inner) :
      (slot.own.number : Int) ≠ inner.number := fun same =>
    unlike (List.mem_map.mpr ⟨inner, inside, (Int.ofNat_inj.mp same).symm⟩)
  let opening := slot.own.enqueued :: slot.own.dequeued :: slot.own.running
  have openings : ∀ mark ∈ opening, mark.number = slot.own.number := by
    intro mark inside
    rcases List.mem_cons.mp inside with rfl | inside
    · rfl
    · rcases List.mem_cons.mp inside with rfl | running
      · rfl
      · exact (Numbered.runningMark running).1
  have whole : slot.own.enqueued :: slot.turn = opening ++ slot.inner.flatMap Numbered.life := rfl
  rw [whole, marksOfAppend]
  rcases List.mem_cons.mp member with rfl | inside
  · have life : slot.own.life = opening := if_neg deferred
    have inner : marksOf slot.own (slot.inner.flatMap Numbered.life) = [] := by
      refine marksOfNone fun mark living same => ?_
      obtain ⟨self, inside, living⟩ := List.mem_flatMap.mp living
      exact different inside (same.symm.trans (Numbered.lifeMark living).1)
    rw [marksOfAll openings, inner, life, List.append_nil]
  · have own : marksOf self opening = [] := marksOfNone fun mark living same =>
      different inside ((openings mark living).symm.trans same)
    rw [own, marksOfInner apart inside, List.nil_append]

section Roster

variable {roster : List Slot} (distinct : ((roster.flatMap Slot.members).map Numbered.number).Nodup)
  (nested : ∀ slot ∈ roster, slot.job.WellNested)
include distinct

theorem membersApart {slot : Slot} (member : slot ∈ roster) :
    (slot.members.map Numbered.number).Nodup := by
  rw [List.map_flatMap] at distinct
  exact (List.nodup_flatMap.mp distinct).1 slot member

include nested

theorem marksLife {self : Numbered} (member : self ∈ roster.flatMap Slot.members) :
    marksOf self (marks roster) = self.life := by
  obtain ⟨slot, present, inside⟩ := List.mem_flatMap.mp member
  have apart := membersApart distinct present
  have foreign {marks : List Mark} (others : ∀ mark ∈ marks, slot.Foreign mark) :
      marksOf self marks = [] := marksOfNone fun mark living => others mark living self inside
  by_cases immediate : slot.lane = .callStack
  · obtain ⟨before, after, split, others⟩ := marksImmediate distinct present immediate
    have bare : slot.job.nested = [] := by
      by_contra nonempty
      cases immediate.symm.trans ((nested slot present).timer nonempty)
    have only : self = slot.own := by
      rw [Slot.members, Slot.inner, bare] at inside
      exact List.mem_singleton.mp inside
    have life : self.life = slot.own.running := by rw [only]; exact if_pos immediate
    have own : marksOf self slot.own.running = slot.own.running :=
      only ▸ marksOfAll fun mark running => (Numbered.runningMark running).1
    rw [split, marksOfAppend, marksOfAppend, own, life,
      foreign fun mark member => others mark (List.mem_append_left _ member),
      foreign fun mark member => others mark (List.mem_append_right _ member),
      List.nil_append, List.append_nil]
  · obtain ⟨before, between, after, split, others, -⟩ := marksDeferred distinct present immediate
    have own := marksOfTurn immediate apart inside
    rw [← List.singleton_append, marksOfAppend] at own
    have regrouped : marks roster =
        before ++ ([slot.own.enqueued] ++ (between ++ (slot.turn ++ after))) := by
      rw [split]
      simp only [List.append_assoc, List.cons_append, List.nil_append]
    simp only [List.mem_append] at others
    simp only [regrouped, marksOfAppend]
    rw [foreign fun mark member => others mark (Or.inl (Or.inl member)),
      foreign fun mark member => others mark (Or.inl (Or.inr member)),
      foreign fun mark member => others mark (Or.inr member),
      List.nil_append, List.nil_append, List.append_nil, own]

end Roster

section Roster

variable {roster : List Slot}

theorem immediateCases {mark : Mark}
    (member : mark ∈ (immediateSlots roster).flatMap fun slot => slot.own.running) :
    (mark.phase = .execute ∨ mark.phase = .output) ∧ mark.lane = .callStack := by
  obtain ⟨slot, atOnce, running⟩ := List.mem_flatMap.mp member
  have lane := beq_iff_eq.mp (List.mem_filter.mp atOnce).2
  obtain ⟨-, own, phase⟩ := Numbered.runningMark running
  exact ⟨phase, own.trans lane⟩

theorem enqueuedCases {mark : Mark}
    (member : mark ∈ (deferredSlots roster).map fun slot => slot.own.enqueued) :
    mark.phase = .enqueue ∧ mark.lane ≠ .callStack := by
  obtain ⟨slot, deferred, rfl⟩ := List.mem_map.mp member
  exact ⟨rfl, bne_iff_ne.mp (List.mem_filter.mp deferred).2⟩

theorem marksOwner {mark : Mark} (member : mark ∈ marks roster) :
    ∃ self ∈ roster.flatMap Slot.members, mark.number = self.number := by
  have owned {slot : Slot} (present : slot ∈ roster)
      (owner : ∃ self ∈ slot.members, mark.number = self.number) :
      ∃ self ∈ roster.flatMap Slot.members, mark.number = self.number := by
    obtain ⟨self, inside, same⟩ := owner
    exact ⟨self, List.mem_flatMap.mpr ⟨slot, present, inside⟩, same⟩
  rcases List.mem_append.mp member with sections | drained
  · rcases List.mem_append.mp sections with immediate | enqueued
    · obtain ⟨slot, atOnce, running⟩ := List.mem_flatMap.mp immediate
      exact owned (List.mem_filter.mp atOnce).1
        ⟨slot.own, List.mem_cons_self, (Numbered.runningMark running).1⟩
    · obtain ⟨slot, deferred, rfl⟩ := List.mem_map.mp enqueued
      exact owned (List.mem_filter.mp deferred).1 ⟨slot.own, List.mem_cons_self, rfl⟩
  · obtain ⟨slot, drained, turn⟩ := List.mem_flatMap.mp drained
    exact owned (drainedMember.mp drained).1 (Slot.turnOwner turn)

variable (distinct : ((roster.flatMap Slot.members).map Numbered.number).Nodup)
  (nested : ∀ slot ∈ roster, slot.job.WellNested)

include distinct nested

theorem turnMark {slot : Slot} (present : slot ∈ roster) {mark : Mark} (member : mark ∈ slot.turn) :
    mark.lane = slot.lane ∧ (mark.phase = .dequeue ∨ mark.phase = .execute ∨ mark.phase = .output) ∨
    mark.lane = .microtask ∧ ¬ Listed roster mark := by
  rcases Slot.turnCases member with rfl | running | ⟨self, inside, living⟩
  · exact Or.inl ⟨rfl, Or.inl rfl⟩
  · exact Or.inl ((Numbered.runningMark running).2.imp_right Or.inr)
  · refine Or.inr ⟨?_, ?_⟩
    · exact (Numbered.lifeMark living).2.trans (innerLane (nested slot present) inside)
    · rintro ⟨other, listed, same⟩
      exact innerUnlisted distinct present listed inside
        (Int.ofNat_inj.mp ((Numbered.lifeMark living).1.symm.trans same))

theorem executesFirst : Precede (marks roster)
    (fun mark => mark.phase = .execute ∧ mark.lane = .callStack)
    (fun mark => mark.phase = .enqueue ∧ Listed roster mark) := by
  rw [marks, List.append_assoc]
  refine precedeAppend (fun mark member late => ?_) (fun mark member early => ?_)
  · rcases (immediateCases member).1 with phase | phase <;> cases phase.symm.trans late.1
  · rcases List.mem_append.mp member with enqueued | drained
    · exact (enqueuedCases enqueued).2 early.2
    · obtain ⟨slot, drained, turn⟩ := List.mem_flatMap.mp drained
      obtain ⟨present, deferred⟩ := drainedMember.mp drained
      rcases turnMark distinct nested present turn with ⟨lane, -⟩ | ⟨lane, -⟩
      · exact deferred (lane.symm.trans early.2)
      · cases lane.symm.trans early.2

theorem enqueuesNext : Precede (marks roster)
    (fun mark => mark.phase = .enqueue ∧ Listed roster mark) (fun mark => mark.phase = .dequeue) := by
  rw [marks]
  refine precedeAppend (fun mark member late => ?_) (fun mark member early => ?_)
  · rcases List.mem_append.mp member with immediate | enqueued
    · rcases (immediateCases immediate).1 with phase | phase <;> cases phase.symm.trans late
    · cases (enqueuedCases enqueued).1.symm.trans late
  · obtain ⟨slot, drained, turn⟩ := List.mem_flatMap.mp member
    rcases turnMark distinct nested (drainedMember.mp drained).1 turn with
      ⟨-, phase | phase | phase⟩ | ⟨-, unlisted⟩
    · cases phase.symm.trans early.1
    · cases phase.symm.trans early.1
    · cases phase.symm.trans early.1
    · exact unlisted early.2

theorem lanesPrecede {first last : List Lane} (cut : drainOrder = first ++ last) (early late : Lane)
    (notLast : early ∉ last) (notFirst : late ∉ first) (nestedElse : late ≠ .microtask) :
    Precede (marks roster)
      (fun mark => mark.phase = .dequeue ∧ mark.lane = early ∧
        (early = .microtask → Listed roster mark))
      (fun mark => mark.phase = .dequeue ∧ mark.lane = late) := by
  -- the drain order is cut in two; tasks nested in a turn are dequeued within it and do not count
  let picked := fun lane => roster.filter fun slot : Slot => slot.lane == lane
  have split : marks roster =
      (((immediateSlots roster).flatMap fun slot => slot.own.running) ++
        ((deferredSlots roster).map fun slot => slot.own.enqueued) ++
        (first.flatMap picked).flatMap Slot.turn) ++ (last.flatMap picked).flatMap Slot.turn := by
    rw [marks, drainedSlots, cut, List.flatMap_append, List.flatMap_append, ← List.append_assoc]
  rw [split]
  refine precedeAppend (fun mark member late => ?_) (fun mark member early => ?_)
  · rcases List.mem_append.mp member with sections | drained
    · rcases List.mem_append.mp sections with immediate | enqueued
      · rcases (immediateCases immediate).1 with phase | phase <;> cases phase.symm.trans late.1
      · cases (enqueuedCases enqueued).1.symm.trans late.1
    · obtain ⟨slot, drained, turn⟩ := List.mem_flatMap.mp drained
      obtain ⟨present, lane⟩ := pickedMember drained
      rcases turnMark distinct nested present turn with ⟨same, -⟩ | ⟨same, -⟩
      · exact notFirst (late.2 ▸ same ▸ lane)
      · exact nestedElse (late.2.symm.trans same)
  · obtain ⟨slot, drained, turn⟩ := List.mem_flatMap.mp member
    obtain ⟨present, lane⟩ := pickedMember drained
    rcases turnMark distinct nested present turn with ⟨same, -⟩ | ⟨same, unlisted⟩
    · exact notLast (early.2.1 ▸ same ▸ lane)
    · exact unlisted (early.2.2 (early.2.1.symm.trans same))

end Roster

theorem lanesInTurn {roster : List Slot}
    (distinct : ((roster.flatMap Slot.members).map Numbered.number).Nodup)
    (nested : ∀ slot ∈ roster, slot.job.WellNested) :
    [.microtask, .macrotask, .animation, .idle].Pairwise fun early late => Precede (marks roster)
      (fun mark => mark.phase = .dequeue ∧ mark.lane = early ∧
        (early = .microtask → Listed roster mark))
      (fun mark => mark.phase = .dequeue ∧ mark.lane = late) := by
  have cut (first last : List Lane) (split : drainOrder = first ++ last) {early late : Lane} :=
    lanesPrecede distinct nested split early late
  refine .cons ?_ (.cons ?_ (.cons ?_ (.cons (by simp) .nil))) <;> intro late member
  · have distinct : late ∉ [Lane.microtask] ∧ late ≠ .microtask := by
      cases late <;> simp at member ⊢
    exact cut [.microtask] [.macrotask, .animation, .idle] rfl (by decide) distinct.1 distinct.2
  · have distinct : late ∉ [Lane.microtask, .macrotask] ∧ late ≠ .microtask := by
      cases late <;> simp at member ⊢
    exact cut [.microtask, .macrotask] [.animation, .idle] rfl (by decide) distinct.1 distinct.2
  · have distinct : late ∉ [Lane.microtask, .macrotask, .animation] ∧ late ≠ .microtask := by
      cases late <;> simp at member ⊢
    exact cut [.microtask, .macrotask, .animation] [.idle] rfl (by decide) distinct.1 distinct.2

theorem jobsLifecycle {jobs : List Job} (wellNested : ∀ job ∈ jobs, job.WellNested) :
    Lifecycle (roster jobs) (ofJobs jobs) := by
  have distinct := membersDistinct jobs
  have nested := rosterWellNested wellNested
  have marked := traceMarks wellNested
  refine ⟨ofListedIds _, distinct, fun step member => ?_, nested, fun self member => ?_, ?_, ?_, ?_,
    ?_, ?_⟩
  · exact marksOwner (show step.mark ∈ marks (roster jobs) from marked ▸ List.mem_map_of_mem member)
  · have own := marksLife distinct nested member
    rw [← marked, marksOf, List.filter_map] at own
    exact own
  · intro slot present immediate
    obtain ⟨before, after, split, -⟩ := marksImmediate distinct present immediate
    exact ⟨before, after, (marked.trans split).symm⟩
  · intro slot present deferred
    obtain ⟨before, between, after, split, -, next⟩ := marksDeferred distinct present deferred
    exact ⟨_, after, marked.trans split, next⟩
  · rw [marked]
    exact executesFirst distinct nested
  · rw [marked]
    exact enqueuesNext distinct nested
  · rw [marked]
    exact lanesInTurn distinct nested

theorem tasksLiveInOrder (source : String) :
    (roster (jobsOf source)).map Slot.job = jobsOf source ∧
      Lifecycle (roster (jobsOf source)) (traceOf source) :=
  ⟨rosterJobs _, jobsLifecycle (jobsOfWellNested source)⟩

end Trace
end LoopPlayer
