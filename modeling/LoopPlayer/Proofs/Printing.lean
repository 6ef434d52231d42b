import LoopPlayer.Proofs.Lifecycle

/-! What a trace prints: what its jobs print, neither more nor less. -/
namespace LoopPlayer
open scoped List

theorem Job.WellNested.outputsOwn {job : Job} (nested : job.WellNested)
    (other : job.lane ≠ .macrotask) : job.outputs = job.toTask.outputs := by
  have bare : job.nested = [] := by
    by_contra nonempty
    exact other (nested.timer nonempty)
  rw [Job.outputs, bare, List.flatMap_nil, List.append_nil]

namespace Trace

theorem executeOutputs (self : Numbered) (note : String) :
    (self.execute note).filterMap Move.output = self.task.outputs := by
  rw [Numbered.execute, Task.outputs]
  have texts (entries : List (Int × String)) :
      (entries.map fun entry => (⟨self, .output, outputNote, some entry.2, entry.1⟩ : Move)).filterMap
        Move.output = entries.map Prod.snd := by
    rw [List.filterMap_map]
    exact congrFun List.filterMap_eq_map _
  cases self.task.output with
  | none => exact texts _
  | some text => exact congrArg (text :: ·) (texts _)

theorem nestedOutputs (self : Numbered) :
    self.nested.filterMap Move.output = self.task.outputs := executeOutputs self nestedExecuteNote

namespace Slot

theorem innerTasks (slot : Slot) : slot.inner.map Numbered.task = slot.job.nested := by
  rw [inner, List.map_map]
  exact List.zipIdx_map_fst slot.firstNested slot.job.nested

theorem drainOutputs (slot : Slot) : slot.drain.filterMap Move.output = slot.job.outputs := by
  have inner : (slot.inner.flatMap Numbered.nested).filterMap Move.output =
      slot.job.nested.flatMap Task.outputs := by
    rw [List.filterMap_flatMap, ← innerTasks, List.flatMap_map]
    exact List.flatMap_congr fun self _ => nestedOutputs self
  have own : (slot.own.dequeue (dequeueNote slot.job.lane) ::
      slot.own.execute (executeNote slot.job.lane)).filterMap Move.output =
      slot.job.toTask.outputs := executeOutputs slot.own _
  rw [drain, List.filterMap_append, inner, own, Job.outputs]

end Slot

theorem outputsMoves (jobs : List Job) :
    (ofJobs jobs).filterMap Step.output = (moves (number jobs)).filterMap Move.output := by
  rw [ofJobs, ofListed, List.filterMap_map]
  conv_rhs => rw [← List.zipIdx_map_fst 1 (moves (number jobs)), List.filterMap_map]
  rfl

theorem outputsSections {jobs : List Job} (nested : ∀ job ∈ jobs, job.WellNested) :
    (ofJobs jobs).filterMap Step.output =
      (immediateSlots (roster jobs)).flatMap (fun slot => slot.job.outputs) ++
        (drainedSlots (roster jobs)).flatMap fun slot => slot.job.outputs := by
  have atOnce : ((immediateSlots (roster jobs)).flatMap Slot.runAtOnce).filterMap Move.output =
      (immediateSlots (roster jobs)).flatMap fun slot => slot.job.outputs := by
    rw [List.filterMap_flatMap]
    refine List.flatMap_congr fun slot member => ?_
    obtain ⟨listed, lane⟩ := List.mem_filter.mp member
    have immediate : slot.job.lane = .callStack := beq_iff_eq.mp lane
    have own := (rosterWellNested nested slot listed).outputsOwn (by
      rw [immediate]
      exact Lane.noConfusion)
    rw [Slot.runAtOnce, executeOutputs, own]
    rfl
  have enqueued : ((deferredSlots (roster jobs)).map Slot.enqueued).filterMap Move.output = [] := by
    rw [List.filterMap_map, List.filterMap_eq_nil_iff]
    exact fun _ _ => rfl
  have drained : ((drainedSlots (roster jobs)).flatMap Slot.drain).filterMap Move.output =
      (drainedSlots (roster jobs)).flatMap fun slot => slot.job.outputs := by
    rw [List.filterMap_flatMap]
    exact List.flatMap_congr fun slot _ => slot.drainOutputs
  rw [outputsMoves, movesRoster nested, List.filterMap_append, List.filterMap_append, atOnce,
    enqueued, drained, List.append_nil]

theorem sectionsPerm {α : Type} (slots : List Slot) (f : Slot → List α) :
    (immediateSlots slots).flatMap f ++ (drainedSlots slots).flatMap f ~ slots.flatMap f := by
  calc (immediateSlots slots).flatMap f ++ (drainedSlots slots).flatMap f
      ~ (immediateSlots slots).flatMap f ++ (deferredSlots slots).flatMap f :=
        ((drainedPerm slots).flatMap_right f).append_left _
    _ = (immediateSlots slots ++ deferredSlots slots).flatMap f := List.flatMap_append.symm
    _ ~ slots.flatMap f := (List.filter_append_perm _ _).flatMap_right f

/-- Every text that a job prints is printed by one step, and no step prints anything else. -/
theorem outputsPerm {jobs : List Job} (nested : ∀ job ∈ jobs, job.WellNested) :
    (ofJobs jobs).filterMap Step.output ~ jobs.flatMap Job.outputs := by
  rw [outputsSections nested]
  calc (immediateSlots (roster jobs)).flatMap (fun slot => slot.job.outputs) ++
        (drainedSlots (roster jobs)).flatMap (fun slot => slot.job.outputs)
      ~ (roster jobs).flatMap (fun slot => slot.job.outputs) := sectionsPerm _ _
    _ = jobs.flatMap Job.outputs := by
        rw [← List.flatMap_map, rosterJobs]

theorem runningExecutes (self : Numbered) :
    self.running.countP (fun mark => mark.phase == .execute) = 1 := by
  rw [Numbered.running, List.countP_cons, List.countP_eq_zero.mpr]
  · rfl
  · intro mark member
    obtain ⟨extra, -, rfl⟩ := List.mem_map.mp member
    exact Bool.false_ne_true

theorem turnExecutes (slot : Slot) :
    slot.turn.countP (fun mark => mark.phase == .execute) = slot.job.tasks.length := by
  have life (self : Numbered) : self.life.countP (fun mark => mark.phase == .execute) = 1 := by
    rw [Numbered.life]
    split
    · exact runningExecutes self
    · exact runningExecutes self
  have inner : (slot.inner.flatMap Numbered.life).countP (fun mark => mark.phase == .execute) =
      slot.inner.length := by
    have ones : (List.countP fun mark : Mark => mark.phase == .execute) ∘ Numbered.life =
        fun _ => 1 := funext life
    rw [List.countP_flatMap, ones, List.map_const', List.sum_replicate_nat, Nat.mul_one]
  have own : (slot.own.dequeued :: slot.own.running).countP (fun mark => mark.phase == .execute) =
      1 := runningExecutes slot.own
  have counted : slot.inner.length = slot.job.nested.length := by
    rw [← Slot.innerTasks, List.length_map]
  rw [Slot.turn, List.countP_append, inner, own, counted, Job.tasks, List.length_cons, Nat.add_comm]

theorem executionsCounted {jobs : List Job} (nested : ∀ job ∈ jobs, job.WellNested) :
    (ofJobs jobs).countP (fun step => step.phase == .execute) =
      (jobs.flatMap Job.tasks).length := by
  have marked : (ofJobs jobs).countP (fun step => step.phase == .execute) =
      (marks (roster jobs)).countP fun mark => mark.phase == .execute := by
    rw [← traceMarks nested, List.countP_map]
    rfl
  have atOnce : ((immediateSlots (roster jobs)).flatMap fun slot => slot.own.running).countP
      (fun mark => mark.phase == .execute) =
      ((immediateSlots (roster jobs)).flatMap fun slot => slot.job.tasks).length := by
    rw [List.countP_flatMap, List.length_flatMap]
    refine congrArg List.sum (List.map_congr_left fun slot member => ?_)
    obtain ⟨listed, lane⟩ := List.mem_filter.mp member
    have immediate : slot.job.lane = .callStack := beq_iff_eq.mp lane
    have bare : slot.job.nested = [] := by
      by_contra nonempty
      have timer := (rosterWellNested nested slot listed).timer nonempty
      rw [immediate] at timer
      cases timer
    rw [Function.comp_apply, runningExecutes, Job.tasks, bare]
    rfl
  have enqueued : ((deferredSlots (roster jobs)).map fun slot => slot.own.enqueued).countP
      (fun mark => mark.phase == .execute) = 0 := by
    rw [List.countP_map]
    exact List.countP_eq_zero.mpr fun _ _ => Bool.false_ne_true
  have drained : ((drainedSlots (roster jobs)).flatMap Slot.turn).countP
      (fun mark => mark.phase == .execute) =
      ((drainedSlots (roster jobs)).flatMap fun slot => slot.job.tasks).length := by
    rw [List.countP_flatMap, List.length_flatMap]
    exact congrArg List.sum (List.map_congr_left fun slot _ => turnExecutes slot)
  have tasks : (roster jobs).flatMap (fun slot => slot.job.tasks) = jobs.flatMap Job.tasks := by
    rw [← List.flatMap_map, rosterJobs]
  have all := (sectionsPerm (roster jobs) fun slot => slot.job.tasks).length_eq
  rw [List.length_append, tasks] at all
  rw [marked, marks, List.countP_append, List.countP_append, atOnce, enqueued, drained, ← all,
    Nat.add_zero]

end Trace
end LoopPlayer
