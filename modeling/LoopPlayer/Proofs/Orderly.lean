import Mathlib.Data.List.Nodup
import Mathlib.Data.List.Perm.Basic
import LoopPlayer.Proofs.Replay

/-! Steps that move entries in order. In an orderly trace each dequeuing takes the entry at the front
of its lane and each execution the one at the top of the call stack, and both take the entry of
their own task; so it does not matter whether entries are found by their task or by their label. -/
namespace LoopPlayer
open scoped List

namespace Lanes

theorem getSet (lanes : Lanes) (lane : Lane) (steps : List Step) :
    (lanes.set lane steps).get lane = steps := by cases lane <;> rfl

theorem getSetElse (lanes : Lanes) {lane other : Lane} (steps : List Step) (different : other ≠ lane) :
    (lanes.set lane steps).get other = lanes.get other := by
  cases lane <;> cases other <;> first | rfl | exact absurd rfl different

theorem callStackSet (lanes : Lanes) {lane : Lane} (steps : List Step) (deferred : lane ≠ .callStack) :
    (lanes.set lane steps).callStack = lanes.callStack :=
  lanes.getSetElse steps deferred.symm

theorem setGet (lanes : Lanes) (lane : Lane) : lanes.set lane (lanes.get lane) = lanes := by
  cases lane <;> rfl

theorem setSet (lanes : Lanes) (lane : Lane) (first last : List Step) :
    (lanes.set lane first).set lane last = lanes.set lane last := by cases lane <;> rfl

theorem ext {a b : Lanes} (same : ∀ lane, a.get lane = b.get lane) : a = b := by
  cases a
  cases b
  congr
  · exact same .callStack
  · exact same .microtask
  · exact same .macrotask
  · exact same .animation
  · exact same .idle

def entries (lanes : Lanes) : List Step := Lane.all.flatMap lanes.get

def others (lanes : Lanes) (lane : Lane) : List Step := (Lane.all.erase lane).flatMap lanes.get

theorem entriesSplit (lanes : Lanes) (lane : Lane) :
    lanes.entries ~ lanes.get lane ++ lanes.others lane := by
  have listed : lane ∈ Lane.all := by cases lane <;> decide
  exact (List.perm_cons_erase listed).flatMap_right lanes.get

theorem othersSet (lanes : Lanes) (lane : Lane) (steps : List Step) :
    (lanes.set lane steps).others lane = lanes.others lane := by
  refine List.flatMap_congr fun other member => getSetElse lanes steps ?_
  rintro rfl
  exact absurd member (by cases other <;> decide)

theorem entriesSet (lanes : Lanes) (lane : Lane) (steps : List Step) :
    (lanes.set lane steps).entries ~ steps ++ lanes.others lane := by
  have split := entriesSplit (lanes.set lane steps) lane
  rw [getSet, othersSet] at split
  exact split

theorem entriesPush (lanes : Lanes) (lane : Lane) (step : Step) :
    (lanes.push lane step).entries ~ step :: lanes.entries := by
  refine (entriesSet lanes lane _).trans ?_
  rw [List.append_assoc, List.singleton_append]
  exact List.perm_middle.trans ((entriesSplit lanes lane).symm.cons step)

end Lanes

structure Step.Fellow (entry step : Step) : Prop where
  task : entry.task = step.task
  label : entry.label = step.label
  lane : entry.lane = step.lane

/-- One step of an orderly trace and what becomes of the lanes. At the bottom of the call stack lies
the line that ran at once most recently. -/
inductive Shift : Option Step → Lanes → Step → Option Step → Lanes → Prop where
  | ranAtOnce {bottom : Option Step} {step : Step} (phase : step.phase = .execute)
      (lane : step.lane = .callStack) :
      Shift bottom { callStack := bottom.toList } step (some step) { callStack := [step] }
  | printed {bottom : Option Step} {lanes : Lanes} {step : Step} (phase : step.phase = .output) :
      Shift bottom lanes step bottom lanes
  | enqueued {bottom : Option Step} {lanes : Lanes} {step : Step} (phase : step.phase = .enqueue)
      (lane : step.lane ≠ .callStack) (clear : lanes.callStack = bottom.toList)
      (fresh : ∀ entry ∈ lanes.entries, entry.task ≠ step.task) :
      Shift bottom lanes step bottom (lanes.push step.lane step)
  | dequeued {bottom : Option Step} {lanes : Lanes} {step entry : Step} {waiting : List Step}
      (phase : step.phase = .dequeue) (lane : step.lane ≠ .callStack)
      (clear : lanes.callStack = bottom.toList) (front : lanes.get step.lane = entry :: waiting)
      (enqueued : entry.phase = .enqueue) (own : entry.Fellow step)
      (first : step.lane ≠ .microtask → lanes.microtask = []) :
      Shift bottom lanes step bottom ((lanes.set step.lane waiting).push .callStack step)
  | executed {bottom : Option Step} {lanes : Lanes} {step entry : Step}
      (phase : step.phase = .execute) (lane : step.lane ≠ .callStack)
      (top : lanes.callStack = bottom.toList ++ [entry])
      (dequeued : entry.phase = .dequeue) (own : entry.Fellow step)
      (under : ∀ low ∈ bottom, low.task ≠ step.task ∧ low.lane = .callStack) :
      Shift bottom lanes step bottom (lanes.set .callStack bottom.toList)

/-- The steps that are left, each in order, until nothing waits. -/
inductive Orderly : Option Step → Lanes → List Step → Prop where
  | done (bottom : Option Step) : Orderly bottom { callStack := bottom.toList } []
  | step {bottom bottom' : Option Step} {lanes lanes' : Lanes} {step : Step} {rest : List Step}
      (shift : Shift bottom lanes step bottom' lanes') (next : Orderly bottom' lanes' rest) :
      Orderly bottom lanes (step :: rest)

namespace Matching

theorem pairsOwn (matching : Matching) {entry step : Step} (own : entry.Fellow step) :
    matching.pairs entry step = true := by
  cases matching <;> simp [pairs, own.task, own.label, own.lane]

theorem pairsOther (matching : Matching) {entry step : Step} (task : entry.task ≠ step.task)
    (lane : entry.lane ≠ step.lane) : matching.pairs entry step = false := by
  cases matching <;> simp [pairs, task, lane]

end Matching

namespace Shift

variable {bottom bottom' : Option Step} {lanes lanes' : Lanes} {step : Step}

theorem boardMoved (shift : Shift bottom lanes step bottom' lanes') (matching : Matching) :
    Board.moved matching lanes step = lanes' := by
  cases shift with
  | ranAtOnce phase lane => simp [Board.moved, phase, lane, Lanes.set]
  | printed phase => simp [Board.moved, phase]
  | enqueued phase => simp [Board.moved, phase]
  | dequeued phase lane clear front enqueued own first =>
    have taken := Matching.pairsOwn matching own
    simp [Board.moved, phase, Board.remove, front, taken]
  | executed phase lane top dequeued own under =>
    have taken := Matching.pairsOwn matching own
    have kept : ∀ low ∈ bottom.toList, ¬ matching.pairs low step = true := by
      intro low member
      obtain ⟨task, atBottom⟩ := under low (Option.mem_toList.mp member)
      have other : low.lane ≠ step.lane := fun equal => lane (equal.symm.trans atBottom)
      simp [Matching.pairsOther matching task other]
    have erased : (lanes.get .callStack).eraseP (fun low => matching.pairs low step) =
        bottom.toList := by
      show lanes.callStack.eraseP _ = _
      rw [top, List.eraseP_append_right _ kept, List.eraseP_cons, taken]
      simp
    simp [Board.moved, phase, lane, Board.remove, erased]

theorem tasksDistinct (shift : Shift bottom lanes step bottom' lanes')
    (apart : (lanes.entries.map Step.task).Nodup) : (lanes'.entries.map Step.task).Nodup := by
  cases shift with
  | ranAtOnce phase lane => exact List.nodup_singleton _
  | printed phase => exact apart
  | enqueued phase lane clear fresh =>
    have pushed := (lanes.entriesPush step.lane step).map Step.task
    rw [pushed.nodup_iff, List.map_cons, List.nodup_cons]
    refine ⟨fun member => ?_, apart⟩
    obtain ⟨entry, present, same⟩ := List.mem_map.mp member
    exact fresh entry present same
  | @dequeued _ _ entry waiting phase lane clear front enqueued own first =>
    have before := (lanes.entriesSplit step.lane).map Step.task
    have after := ((Lanes.entriesPush _ .callStack step).trans
      ((lanes.entriesSet step.lane waiting).cons step)).map Step.task
    rw [front, List.cons_append, List.map_cons, own.task] at before
    rw [List.map_cons] at after
    rw [(after.trans before.symm).nodup_iff]
    exact apart
  | executed phase lane top =>
    have before := (lanes.entriesSplit .callStack).map Step.task
    have after := (lanes.entriesSet .callStack bottom.toList).map Step.task
    have stack : lanes.get .callStack = bottom.toList ++ [_] := top
    rw [stack, List.append_assoc] at before
    rw [before.nodup_iff] at apart
    rw [after.nodup_iff]
    refine apart.sublist (List.Sublist.map _ (List.Sublist.append_left ?_ _))
    exact List.sublist_append_right _ _

theorem stackShallow (shift : Shift bottom lanes step bottom' lanes')
    (depth : lanes.callStack.length ≤ 2) : lanes'.callStack.length ≤ 2 := by
  have under (option : Option Step) : option.toList.length ≤ 1 := by cases option <;> simp
  cases shift with
  | ranAtOnce phase lane => simp
  | printed phase => exact depth
  | enqueued phase lane clear fresh =>
    have same : (lanes.push step.lane step).callStack = lanes.callStack :=
      lanes.callStackSet _ lane
    rw [same]
    exact depth
  | @dequeued _ _ entry waiting phase lane clear =>
    have same : (lanes.set step.lane waiting).callStack = lanes.callStack :=
      lanes.callStackSet _ lane
    show ((lanes.set step.lane waiting).callStack ++ [step]).length ≤ 2
    rw [same, clear, List.length_append]
    exact Nat.add_le_add_right (under bottom) 1
  | executed phase lane top => exact Nat.le_succ_of_le (under bottom)

theorem entriesFrom (shift : Shift bottom lanes step bottom' lanes') {entry : Step}
    (member : entry ∈ lanes'.entries) : entry = step ∨ entry ∈ lanes.entries := by
  cases shift with
  | ranAtOnce phase lane => exact Or.inl (List.mem_singleton.mp member)
  | printed phase => exact Or.inr member
  | enqueued phase lane clear fresh =>
    exact List.mem_cons.mp ((lanes.entriesPush _ _).mem_iff.mp member)
  | dequeued phase lane clear front =>
    rcases List.mem_cons.mp ((Lanes.entriesPush _ _ _).mem_iff.mp member) with rfl | member
    · exact Or.inl rfl
    · refine Or.inr ((lanes.entriesSplit step.lane).mem_iff.mpr ?_)
      rw [front, List.cons_append]
      exact List.mem_cons_of_mem _ ((lanes.entriesSet _ _).mem_iff.mp member)
  | executed phase lane top =>
    have stack : lanes.get .callStack = bottom.toList ++ [_] := top
    refine Or.inr ((lanes.entriesSplit .callStack).mem_iff.mpr ?_)
    rw [stack, List.append_assoc]
    rcases List.mem_append.mp ((lanes.entriesSet _ _).mem_iff.mp member) with under | other
    · exact List.mem_append_left _ under
    · exact List.mem_append_right _ (List.mem_append_right _ other)

theorem dequeueTakesFront (shift : Shift bottom lanes step bottom' lanes')
    (phase : step.phase = .dequeue) :
    step.lane ≠ .callStack ∧ (step.lane ≠ .microtask → lanes.microtask = []) ∧
      ∃ entry waiting, lanes.get step.lane = entry :: waiting ∧
        lanes'.get step.lane = waiting ∧ entry.phase = .enqueue ∧ entry.task = step.task := by
  cases shift with
  | @dequeued _ _ entry waiting phase lane clear front enqueued own first =>
    refine ⟨lane, first, entry, waiting, front, ?_, enqueued, own.task⟩
    rw [Lanes.push, Lanes.getSetElse _ _ lane, Lanes.getSet]
  | ranAtOnce other => cases phase.symm.trans other
  | printed other => cases phase.symm.trans other
  | enqueued other => cases phase.symm.trans other
  | executed other => cases phase.symm.trans other

theorem executeTakesTop (shift : Shift bottom lanes step bottom' lanes')
    (phase : step.phase = .execute) (deferred : step.lane ≠ .callStack) :
    ∃ entry below, lanes.callStack = below ++ [entry] ∧ lanes'.callStack = below ∧
      entry.phase = .dequeue ∧ entry.task = step.task := by
  cases shift with
  | @executed _ _ entry phase lane top dequeued own under =>
    exact ⟨entry, bottom.toList, top, rfl, dequeued, own.task⟩
  | ranAtOnce other lane => exact absurd lane deferred
  | printed other => cases phase.symm.trans other
  | enqueued other => cases phase.symm.trans other
  | dequeued other => cases phase.symm.trans other

end Shift

def lastAtOnce (steps : List Step) : Option Step :=
  (steps.filter fun step => step.phase = .execute ∧ step.lane = .callStack).getLast?

theorem Shift.bottomLast {bottom' : Option Step} {lanes lanes' : Lanes} {step : Step}
    {before : List Step} (shift : Shift (lastAtOnce before) lanes step bottom' lanes') :
    bottom' = lastAtOnce (before ++ [step]) := by
  have kept (other : ¬ (step.phase = .execute ∧ step.lane = .callStack)) :
      lastAtOnce (before ++ [step]) = lastAtOnce before := by
    simp only [lastAtOnce, List.filter_append, List.filter_singleton, decide_eq_false other,
      cond_false, List.append_nil]
  cases shift with
  | ranAtOnce phase lane =>
    simp [lastAtOnce, List.filter_append, phase, lane]
  | printed phase => exact (kept fun both => by cases phase.symm.trans both.1).symm
  | enqueued phase => exact (kept fun both => by cases phase.symm.trans both.1).symm
  | dequeued phase => exact (kept fun both => by cases phase.symm.trans both.1).symm
  | executed phase lane => exact (kept fun both => lane both.2).symm

def lanesAt (matching : Matching) (steps : List Step) (n : Nat) : Lanes :=
  (Board.replay matching (steps.take n)).lanes

namespace Orderly

theorem headShifts {bottom : Option Step} {lanes : Lanes} {step : Step} {rest : List Step}
    (orderly : Orderly bottom lanes (step :: rest)) :
    ∃ bottom' lanes', Shift bottom lanes step bottom' lanes' ∧ Orderly bottom' lanes' rest := by
  cases orderly with
  | step shift next => exact ⟨_, _, shift, next⟩

theorem lanesDone {bottom : Option Step} {lanes : Lanes} (orderly : Orderly bottom lanes []) :
    lanes = { callStack := bottom.toList } := by
  cases orderly with
  | done => rfl

variable {steps : List Step}

theorem takeSucc {n : Nat} {step : Step} (found : steps[n]? = some step) :
    steps.take (n + 1) = steps.take n ++ [step] := by
  rw [List.take_add_one, found, Option.toList_some]

theorem takePastEnd {n : Nat} (found : steps[n]? = none) :
    steps.take (n + 1) = steps.take n ∧ steps.drop (n + 1) = steps.drop n := by
  have short := List.getElem?_eq_none_iff.mp found
  rw [List.take_add_one, found, List.drop_of_length_le short, List.drop_of_length_le (by omega)]
  exact ⟨List.append_nil _, rfl⟩

theorem lanesNext (matching : Matching) {n : Nat} {step : Step} (found : steps[n]? = some step) :
    lanesAt matching steps (n + 1) = Board.moved matching (lanesAt matching steps n) step := by
  rw [lanesAt, Board.replayNext found]
  rfl

theorem orderlyAfter (orderly : Orderly none {} steps) (matching : Matching) (n : Nat) :
    Orderly (lastAtOnce (steps.take n)) (lanesAt matching steps n) (steps.drop n) := by
  induction n with
  | zero => exact orderly
  | succ n ih =>
    cases found : steps[n]? with
    | none =>
      obtain ⟨take, drop⟩ := takePastEnd found
      rw [lanesAt, take, drop]
      exact ih
    | some step =>
      obtain ⟨inside, same⟩ := List.getElem?_eq_some_iff.mp found
      rw [List.drop_eq_getElem_cons inside, same] at ih
      obtain ⟨bottom, lanes, shift, next⟩ := ih.headShifts
      rw [lanesNext matching found, takeSucc found, shift.boardMoved matching, ← shift.bottomLast]
      exact next

theorem shiftAt (orderly : Orderly none {} steps) (matching : Matching) {n : Nat} {step : Step}
    (found : steps[n]? = some step) :
    Shift (lastAtOnce (steps.take n)) (lanesAt matching steps n) step
      (lastAtOnce (steps.take (n + 1))) (lanesAt matching steps (n + 1)) := by
  have here := orderly.orderlyAfter matching n
  obtain ⟨inside, same⟩ := List.getElem?_eq_some_iff.mp found
  rw [List.drop_eq_getElem_cons inside, same] at here
  obtain ⟨bottom, lanes, shift, -⟩ := here.headShifts
  rw [lanesNext matching found, takeSucc found, shift.boardMoved matching, ← shift.bottomLast]
  exact shift

theorem shiftInvariant (orderly : Orderly none {} steps) (matching : Matching) {holds : Lanes → Prop}
    (start : holds {}) (keep : ∀ {bottom bottom' lanes step lanes'},
      Shift bottom lanes step bottom' lanes' → holds lanes → holds lanes') (n : Nat) :
    holds (lanesAt matching steps n) := by
  induction n with
  | zero => exact start
  | succ n ih =>
    cases found : steps[n]? with
    | none => rw [lanesAt, (takePastEnd found).1]; exact ih
    | some step => exact keep (orderly.shiftAt matching found) ih

theorem entriesTaken (orderly : Orderly none {} steps) (matching : Matching) (n : Nat) :
    ∀ entry ∈ (lanesAt matching steps n).entries, entry ∈ steps.take n := by
  induction n with
  | zero => intro entry member; cases member
  | succ n ih =>
    intro entry member
    cases found : steps[n]? with
    | none =>
      rw [lanesAt, (takePastEnd found).1] at member
      rw [(takePastEnd found).1]
      exact ih entry member
    | some step =>
      rw [takeSucc found]
      rcases (orderly.shiftAt matching found).entriesFrom member with rfl | before
      · exact List.mem_append_right _ (List.mem_singleton_self _)
      · exact List.mem_append_left _ (ih entry before)

theorem matchingAgrees (orderly : Orderly none {} steps) (matching other : Matching) (n : Nat) :
    Board.replay matching (steps.take n) = Board.replay other (steps.take n) := by
  induction n with
  | zero => rfl
  | succ n ih =>
    cases found : steps[n]? with
    | none => rw [(takePastEnd found).1]; exact ih
    | some step =>
      have shift := orderly.shiftAt matching found
      have lanes : Board.moved matching (lanesAt matching steps n) step =
          Board.moved other (lanesAt matching steps n) step :=
        (shift.boardMoved matching).trans (shift.boardMoved other).symm
      rw [lanesAt] at lanes
      rw [Board.replayNext found, Board.replayNext found, ← ih, Board.apply, Board.apply, lanes]

end Orderly
end LoopPlayer
