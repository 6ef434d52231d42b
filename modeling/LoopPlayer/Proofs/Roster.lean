import Mathlib.Algebra.GroupWithZero.Nat
import Mathlib.Data.List.Perm.Basic
import LoopPlayer.Proofs.Nesting
import LoopPlayer.Trace

/-! The numbers of a program's tasks. Jobs have the numbers from one on in their order, and the tasks
nested in them those from there on, again in the order of the jobs. A trace, which gives out numbers
as it drains the lanes, comes to the same ones, since only the jobs of one lane have nested tasks. -/
namespace LoopPlayer.Trace
open List (range')
open scoped List

def Slot.lane (slot : Slot) : Lane := slot.job.lane

def Slot.members (slot : Slot) : List Numbered := slot.own :: slot.inner

def allot (next : Nat) : List (Nat × Job) → List Slot
  | [] => []
  | (number, job) :: rest => ⟨number, job, next⟩ :: allot (next + job.nested.length) rest

def roster (jobs : List Job) : List Slot := allot (jobs.length + 1) (number jobs)

def nestedCount (listed : List (Nat × Job)) : Nat := (listed.map fun entry => entry.2.nested.length).sum

theorem numberJobs (jobs : List Job) : (number jobs).map Prod.snd = jobs := by
  rw [number, List.map_map]
  exact List.zipIdx_map_fst 1 jobs

theorem numberNumbers (jobs : List Job) : (number jobs).map Prod.fst = range' 1 jobs.length := by
  rw [number, List.map_map]
  exact List.zipIdx_map_snd 1 jobs

theorem numbersDistinct (jobs : List Job) : ((number jobs).map Prod.fst).Nodup := by
  rw [numberNumbers]
  exact List.nodup_range' 1

theorem nextNumberJobs (jobs : List Job) : nextNumber (number jobs) = jobs.length + 1 := by
  have greatest (start count : Nat) : (range' (start + 1) count).foldl max start = start + count := by
    induction count generalizing start with
    | zero => rfl
    | succ count ih =>
      rw [List.range'_succ, List.foldl_cons, Nat.max_eq_right (Nat.le_succ start), ih]
      omega
  rw [nextNumber, numberNumbers, greatest, Nat.zero_add]

theorem slotsAllot {given : List (Nat × Nat)} {next : Nat} {listed : List (Nat × Job)}
    (distinct : (listed.map Prod.fst).Nodup)
    (fresh : ∀ entry ∈ listed, given.lookup entry.1 = none) :
    slots given next listed = allot next listed := by
  induction listed generalizing given next with
  | nil => rfl
  | cons entry rest ih =>
    obtain ⟨number, job⟩ := entry
    obtain ⟨unlike, distinct⟩ := List.nodup_cons.mp distinct
    have unseen : given.lookup number = none := fresh (number, job) List.mem_cons_self
    have later : ∀ entry ∈ rest, ((number, next) :: given).lookup entry.1 = none := by
      intro entry member
      have different : entry.1 ≠ number := fun same =>
        unlike (List.mem_map.mpr ⟨entry, member, same⟩)
      rw [List.lookup_cons, beq_false_of_ne different]
      exact fresh entry (List.mem_cons_of_mem _ member)
    simp only [slots, unseen, allot]
    rw [ih distinct later]

theorem allotListed (next : Nat) (listed : List (Nat × Job)) :
    (allot next listed).map (fun slot => (slot.number, slot.job)) = listed := by
  induction listed generalizing next with
  | nil => rfl
  | cons entry rest ih => rw [allot, List.map_cons, ih]

theorem allotAppend (next : Nat) (before after : List (Nat × Job)) :
    allot next (before ++ after) = allot next before ++ allot (next + nestedCount before) after := by
  induction before generalizing next with
  | nil => rfl
  | cons entry rest ih =>
    simp only [List.cons_append, allot, ih, nestedCount, List.map_cons, List.sum_cons]
    rw [Nat.add_assoc]

theorem allotInner (next : Nat) (listed : List (Nat × Job)) :
    ((allot next listed).flatMap Slot.inner).map Numbered.number =
      range' next (nestedCount listed) := by
  induction listed generalizing next with
  | nil => rfl
  | cons entry rest ih =>
    have here : (Slot.inner ⟨entry.1, entry.2, next⟩).map Numbered.number =
        range' next entry.2.nested.length := by
      rw [Slot.inner, List.map_map]
      exact List.zipIdx_map_snd next entry.2.nested
    rw [allot, List.flatMap_cons, List.map_append, here, ih, List.range'_append_1]
    rfl

theorem nestedCountBare {listed : List (Nat × Job)}
    (bare : ∀ entry ∈ listed, entry.2.nested = []) : nestedCount listed = 0 := by
  induction listed with
  | nil => rfl
  | cons entry rest ih =>
    have later := ih fun entry member => bare entry (List.mem_cons_of_mem _ member)
    rw [nestedCount] at later ⊢
    rw [List.map_cons, List.sum_cons, later, bare entry List.mem_cons_self]
    rfl

theorem allotFilter (picked : Job → Bool) (next : Nat) {listed : List (Nat × Job)}
    (bare : ∀ entry ∈ listed, picked entry.2 = false → entry.2.nested = []) :
    allot next (listed.filter fun entry => picked entry.2) =
      (allot next listed).filter fun slot => picked slot.job := by
  induction listed generalizing next with
  | nil => rfl
  | cons entry rest ih =>
    have later := fun next => ih next fun entry member => bare entry (List.mem_cons_of_mem _ member)
    cases decision : picked entry.2 with
    | true => simp only [List.filter_cons, decision, if_true, allot, later]
    | false =>
      have none := bare entry List.mem_cons_self decision
      simp only [List.filter_cons, decision, Bool.false_eq_true, if_false, allot, later, none,
        List.length_nil, Nat.add_zero]

theorem allotBare (picked : Job → Bool) (next other : Nat) {listed : List (Nat × Job)}
    (bare : ∀ entry ∈ listed, picked entry.2 = true → entry.2.nested = []) :
    (allot other (listed.filter fun entry => picked entry.2)).flatMap Slot.drain =
      ((allot next listed).filter fun slot => picked slot.job).flatMap Slot.drain := by
  induction listed generalizing next other with
  | nil => rfl
  | cons entry rest ih =>
    have later := fun next other =>
      ih next other fun entry member => bare entry (List.mem_cons_of_mem _ member)
    cases decision : picked entry.2 with
    | true =>
      have none := bare entry List.mem_cons_self decision
      have same : Slot.drain ⟨entry.1, entry.2, other⟩ = Slot.drain ⟨entry.1, entry.2, next⟩ := by
        simp only [Slot.drain, Slot.inner, none, List.zipIdx_nil]
        rfl
      simp only [List.filter_cons, decision, if_true, allot, List.flatMap_cons, same]
      rw [later]
    | false =>
      simp only [List.filter_cons, decision, Bool.false_eq_true, if_false, allot]
      exact later _ other

theorem rosterListed (jobs : List Job) :
    (roster jobs).map (fun slot => (slot.number, slot.job)) = number jobs := allotListed _ _

theorem rosterJobs (jobs : List Job) : (roster jobs).map Slot.job = jobs := by
  have listed := congrArg (List.map Prod.snd) (rosterListed jobs)
  rw [numberJobs, List.map_map] at listed
  exact listed

theorem rosterNumbers (jobs : List Job) :
    (roster jobs).map Slot.number = range' 1 jobs.length := by
  have listed := congrArg (List.map Prod.fst) (rosterListed jobs)
  rw [numberNumbers, List.map_map] at listed
  exact listed

theorem memberNumbers (jobs : List Job) :
    ((roster jobs).flatMap Slot.members).map Numbered.number ~
      range' 1 (jobs.length + nestedCount (number jobs)) := by
  have apart : (roster jobs).flatMap Slot.members ~
      (roster jobs).map Slot.own ++ (roster jobs).flatMap Slot.inner :=
    (List.map_append_flatMap_perm (roster jobs) Slot.own Slot.inner).symm
  have own : ((roster jobs).map Slot.own).map Numbered.number = range' 1 jobs.length := by
    rw [← rosterNumbers, List.map_map]
    rfl
  have inner : ((roster jobs).flatMap Slot.inner).map Numbered.number =
      range' (1 + jobs.length) (nestedCount (number jobs)) := by
    rw [roster, allotInner, Nat.add_comm]
  refine (apart.map Numbered.number).trans (List.Perm.of_eq ?_)
  rw [List.map_append, own, inner, List.range'_append_1]

theorem membersDistinct (jobs : List Job) :
    (((roster jobs).flatMap Slot.members).map Numbered.number).Nodup :=
  (memberNumbers jobs).nodup_iff.mpr (List.nodup_range' 1)

theorem pickedByLane {α : Type} (lanes : List Lane) (distinct : lanes.Nodup) (lane : α → Lane)
    (items : List α) :
    (lanes.flatMap fun picked => items.filter fun item => lane item == picked) ~
      items.filter fun item => lanes.contains (lane item) := by
  induction lanes with
  | nil => simp
  | cons first rest ih =>
    obtain ⟨unlike, distinct⟩ := List.nodup_cons.mp distinct
    let both := items.filter fun item => (first :: rest).contains (lane item)
    have firsts : both.filter (fun item => lane item == first) =
        items.filter fun item => lane item == first := by
      rw [List.filter_filter]
      refine List.filter_congr fun item _ => ?_
      by_cases same : lane item = first <;> simp [same]
    have others : both.filter (fun item => !(lane item == first)) =
        items.filter fun item => rest.contains (lane item) := by
      rw [List.filter_filter]
      refine List.filter_congr fun item _ => ?_
      by_cases same : lane item = first
      · simp [same, unlike]
      · simp [same]
    rw [List.flatMap_cons]
    refine (List.Perm.append_left _ (ih distinct)).trans ?_
    rw [← firsts, ← others]
    exact List.filter_append_perm _ both

theorem drainedDistinct (jobs : List Job) : ((drainedJobs (number jobs)).map Prod.fst).Nodup := by
  have byLane := (pickedByLane drainOrder (by decide) (fun entry => entry.2.lane)
    (number jobs)).map Prod.fst
  refine byLane.nodup_iff.mpr ((numbersDistinct jobs).sublist ?_)
  exact List.filter_sublist.map Prod.fst

def immediateSlots (slots : List Slot) : List Slot := slots.filter fun slot => slot.lane == .callStack

def deferredSlots (slots : List Slot) : List Slot := slots.filter fun slot => slot.lane != .callStack

def drainedSlots (slots : List Slot) : List Slot :=
  drainOrder.flatMap fun lane => slots.filter fun slot => slot.lane == lane

theorem drainRoster {jobs : List Job} (nested : ∀ job ∈ jobs, job.WellNested) :
    (slots [] (nextNumber (number jobs)) (drainedJobs (number jobs))).flatMap Slot.drain =
      (drainedSlots (roster jobs)).flatMap Slot.drain := by
  have nested : ∀ entry ∈ number jobs, entry.2.WellNested := by
    intro entry member
    refine nested entry.2 ?_
    rw [← numberJobs jobs]
    exact List.mem_map_of_mem member
  have bare {lane : Lane} (other : lane ≠ .macrotask) :
      ∀ entry ∈ number jobs, (entry.2.lane == lane) = true → entry.2.nested = [] := by
    intro entry member same
    by_contra nonempty
    exact other ((beq_iff_eq.mp same).symm.trans ((nested entry member).timer nonempty))
  have timers : ∀ entry ∈ number jobs, (entry.2.lane == .macrotask) = false →
      entry.2.nested = [] := by
    intro entry member different
    by_contra nonempty
    exact absurd ((nested entry member).timer nonempty) (beq_eq_false_iff_ne.mp different)
  have microtasks : nestedCount ((number jobs).filter fun entry => entry.2.lane == .microtask) = 0 :=
    nestedCountBare fun entry member =>
      bare (by decide) entry (List.mem_filter.mp member).1 (List.mem_filter.mp member).2
  rw [slotsAllot (drainedDistinct jobs) (by simp), nextNumberJobs, roster]
  simp only [drainedJobs, drainedSlots, drainOrder, List.flatMap_cons, List.flatMap_nil,
    List.append_nil, allotAppend, List.flatMap_append, microtasks, Nat.add_zero]
  rw [allotBare (fun job => job.lane == .microtask) (jobs.length + 1) _ (bare (by decide)),
    allotFilter (fun job => job.lane == .macrotask) _ timers,
    allotBare (fun job => job.lane == .animation) (jobs.length + 1) _ (bare (by decide)),
    allotBare (fun job => job.lane == .idle) (jobs.length + 1) _ (bare (by decide))]
  rfl

def Slot.runAtOnce (slot : Slot) : List Move := slot.own.execute immediateNote

def Slot.enqueued (slot : Slot) : Move := slot.own.enqueue (enqueueNote slot.lane)

theorem movesRoster {jobs : List Job} (nested : ∀ job ∈ jobs, job.WellNested) :
    moves (number jobs) =
      (immediateSlots (roster jobs)).flatMap Slot.runAtOnce ++
        (deferredSlots (roster jobs)).map Slot.enqueued ++
        (drainedSlots (roster jobs)).flatMap Slot.drain := by
  rw [moves]
  refine congrArg₂ (· ++ ·) (congrArg₂ (· ++ ·) ?immediate ?deferred) (drainRoster nested)
  case immediate =>
    rw [immediateJobs, ← rosterListed, List.filter_map, List.flatMap_map]
    rfl
  case deferred =>
    rw [deferredJobs, ← rosterListed, List.filter_map, List.map_map]
    rfl

end LoopPlayer.Trace
