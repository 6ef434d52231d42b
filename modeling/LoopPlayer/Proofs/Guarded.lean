import LoopPlayer.Proofs.Effort

/-! A scan that leaves nothing to defaults. It reads a line only where there is one, its loops have to
go on to a line further down, callbacks in callbacks are opened two deep at most, and the notes of a
lane are looked up. All else is a fault. No program leads to one, and the steps that come out are those
of its trace. -/
namespace LoopPlayer.Guarded
open Text (Line strip)
open Source (Printed blockTasks bodyLines jobsOfLines nestedBlocks texts)
open Block (Part Tiles parts partsTile registered? registeredInside)

/-- What could go wrong: a line is read that is not there, a loop would read a line once more, calls
are too deep, or a lane is drained that has no notes. -/
inductive Fault where
  | noLine (index : Nat)
  | stuck (index : Nat)
  | tooDeep
  | noNotes (lane : Lane)
  deriving DecidableEq, Repr

def lineAt (lines : List Line) (index : Nat) : Except Fault Line :=
  match lines[index]? with
  | some line => return line
  | none => throw (.noLine index)

def blockStop (lines : List Line) (depth : Int) (started : Bool) (index : Nat) :
    Except Fault Nat :=
  if index < lines.length then do
    let line ← lineAt lines index
    let depth := depth + Delimiter.opened line - Delimiter.closed line
    let started := started || 0 < Delimiter.opened line
    if started && depth ≤ 0 then return index + 1 else blockStop lines depth started (index + 1)
  else return lines.length
termination_by lines.length - index

def chainStop (lines : List Line) (reached : Nat) : Except Fault Nat :=
  if reached < lines.length then do
    let line ← lineAt lines reached
    if Block.attaches line then
      let next ← blockStop lines 0 false reached
      if reached < next then chainStop lines next else throw (.stuck reached)
    else return reached
  else return reached
termination_by lines.length - reached

def registrationStop (lines : List Line) (start : Nat) : Registration → Except Fault Nat
  | .promise => do
    let block ← blockStop lines 0 false start
    chainStop lines block
  | _ => blockStop lines 0 false start

def innerStop (lines : List Line) (index limit : Nat) : Except Fault Nat := do
  let line ← lineAt lines index
  match Registration.start? (strip line) with
  | none => return index + 1
  | some registration =>
    let stop ← registrationStop lines index registration
    return min stop limit

structure Reading where
  texts : List Printed
  blocks : List (Registration × Nat × Nat)
  deriving DecidableEq, Repr

def readBody (lines : List Line) (upTo index : Nat) : Except Fault Reading :=
  if index < upTo then do
    let line ← lineAt lines index
    match Registration.start? (strip line) with
    | none =>
      let rest ← readBody lines upTo (index + 1)
      return { rest with texts := (index, strip line) :: rest.texts }
    | some registration =>
      let next ← innerStop lines index upTo
      if index < next then
        let rest ← readBody lines upTo next
        return { rest with blocks := (registration, index, next) :: rest.blocks }
      else throw (.stuck index)
  else return ⟨[], []⟩
termination_by upTo - index

/- The jobs of a block with the blocks that they claim. A callback is opened in no more than `depth`
calls, its own and those of the callbacks around it. -/
def blockJobs (lines : List Line) :
    Nat → Registration × Nat × Nat → Except Fault (List Job × List (Nat × Nat))
  | 0, _ => throw .tooDeep
  | depth + 1, (registration, start, upTo) => do
    let line ← lineAt lines start
    let body ← readBody lines upTo (start + 1)
    let texts := (start, registration.afterOpening (strip line)) :: body.texts
    if registration = .promise then
      let chain := (Source.continuations (texts.flatMap Source.links)).2
      return (chain.map fun (index, printed) =>
        { Source.deferred .promise index printed with nested := [] }, [])
    else
      let blocks := body.blocks.filter fun block => block.1.nestsIn registration
      let nested ← blocks.mapM (blockJobs lines depth)
      let printed := texts.flatMap fun text => Source.printedBy text.1 text.2
      return ([{ Source.deferred registration start printed with
        nested := nested.flatMap fun (jobs, _) => jobs.map Job.toTask }],
        blocks.map Prod.snd ++ nested.flatMap Prod.snd)

def jobsFrom (lines : List Line) (claimed : List (Nat × Nat)) :
    List (Line × Nat) → Except Fault (List Job)
  | [] => return []
  | (line, index) :: rest =>
    if Source.within claimed index then jobsFrom lines claimed rest
    else if Logging.opening.isPrefixOf line then do
      let later ← jobsFrom lines claimed rest
      return Source.immediate line index :: later
    else
      match Registration.start? (strip line) with
      | none => jobsFrom lines claimed rest
      | some registration => do
        let stop ← registrationStop lines index registration
        let (jobs, blocks) ← blockJobs lines 2 (registration, index, stop)
        let later ← jobsFrom lines (claimed ++ blocks) rest
        return jobs ++ later

def jobs (lines : List Line) : Except Fault (List Job) := jobsFrom lines [] lines.zipIdx

def drainNotes (lane : Lane) : Except Fault (String × String) :=
  if lane ∈ Trace.drainOrder then return (Trace.dequeueNote lane, Trace.executeNote lane)
  else throw (.noNotes lane)

def drain (slot : Trace.Slot) : Except Fault (List Trace.Move) := do
  let (dequeue, execute) ← drainNotes slot.job.lane
  return slot.own.dequeue dequeue :: slot.own.execute execute ++
    slot.inner.flatMap Trace.Numbered.nested

def steps (jobs : List Job) : Except Fault (List Step) := do
  let listed := Trace.number jobs
  let drained ← (Trace.slots [] (Trace.nextNumber listed) (Trace.drainedJobs listed)).mapM drain
  let moves := ((Trace.immediateJobs listed).flatMap fun (number, job) =>
      Trace.Numbered.execute ⟨number, job.toTask⟩ Trace.immediateNote) ++
    ((Trace.deferredJobs listed).map fun (number, job) =>
      Trace.Numbered.enqueue ⟨number, job.toTask⟩ (Trace.enqueueNote job.lane)) ++
    drained.flatten
  return (moves.zipIdx 1).map fun (move, id) => move.step id

def traceOf (source : String) : Except Fault (List Step) := do
  let jobs ← jobs (Text.lines source.toList)
  steps jobs

variable {lines : List Line}

theorem lineFound {index : Nat} (inside : index < lines.length) :
    lineAt lines index = .ok lines[index] := by
  rw [lineAt, List.getElem?_eq_getElem inside]
  rfl

theorem strippedLine {index : Nat} (inside : index < lines.length) :
    Source.stripped lines index = strip lines[index] := by
  rw [Source.stripped, List.getElem?_eq_getElem inside, Option.getD_some]

theorem registeredLine {index : Nat} (inside : index < lines.length) :
    registered? lines index = Registration.start? (strip lines[index]) := by
  rw [← strippedLine inside]
  rfl

theorem blockStopRead {depth : Int} {started : Bool} {index : Nat} {rest : List Line}
    (left : lines.drop index = rest) :
    blockStop lines depth started index = .ok (match Block.closing? depth started rest with
      | some length => index + length
      | none => lines.length) := by
  induction rest generalizing depth started index with
  | nil =>
    have past := List.drop_eq_nil_iff.mp left
    rw [blockStop, if_neg (Nat.not_lt.mpr past)]
    rfl
  | cons line rest ih =>
    have inside : index < lines.length := by
      by_contra past
      rw [List.drop_eq_nil_of_le (Nat.le_of_not_lt past)] at left
      cases left
    rw [List.drop_eq_getElem_cons inside, List.cons.injEq] at left
    obtain ⟨rfl, below⟩ := left
    rw [blockStop, if_pos inside, lineFound inside]
    simp only [bind, Except.bind, Block.closing?, ih below]
    split
    · rfl
    · cases Block.closing? _ _ rest with
      | none => rfl
      | some length => simp only [Option.map_some, Nat.add_assoc, Nat.add_comm 1]

theorem blockStopFound (lines : List Line) (start : Nat) :
    blockStop lines 0 false start = .ok (Block.stop lines start) := blockStopRead rfl

theorem chainStopRead {fuel reached : Nat} (enough : lines.length ≤ reached + fuel) :
    chainStop lines reached = .ok (Block.chainStop lines fuel reached) := by
  induction fuel generalizing reached with
  | zero =>
    have past : lines.length ≤ reached := enough
    rw [chainStop, if_neg (Nat.not_lt.mpr past)]
    rfl
  | succ fuel ih =>
    by_cases inside : reached < lines.length
    · have later := Block.startBeforeStop inside
      have onward := ih (show lines.length ≤ Block.stop lines reached + fuel by omega)
      rw [chainStop, if_pos inside, lineFound inside, Block.chainStop,
        List.getElem?_eq_getElem inside]
      simp only [bind, Except.bind, blockStopFound, if_pos later, onward]
      split <;> rfl
    · rw [chainStop, if_neg inside, Block.chainStop,
        List.getElem?_eq_none (Nat.le_of_not_lt inside)]
      rfl

theorem registrationStopFound (lines : List Line) (start : Nat) (registration : Registration) :
    registrationStop lines start registration =
      .ok (Block.registrationStop lines start registration) := by
  cases registration with
  | promise =>
    rw [registrationStop, blockStopFound]
    exact chainStopRead (Nat.le_add_left _ _)
  | _ => exact blockStopFound lines start

theorem innerStopFound {index : Nat} {registration : Registration}
    (found : registered? lines index = some registration) (limit : Nat) :
    innerStop lines index limit =
      .ok (min (Block.registrationStop lines index registration) limit) := by
  have inside := registeredInside found
  rw [registeredLine inside] at found
  rw [innerStop, lineFound inside]
  simp only [bind, Except.bind, found, registrationStopFound]
  rfl

def ownLine? : Part → Option Nat
  | .line index => some index
  | .inner .. => none

def innerBlock? : Part → Option (Registration × Nat × Nat)
  | .line _ => none
  | .inner registration first next => some (registration, first, next)

theorem readBodyTiles {upTo index : Nat} {all : List Part} (tiles : Tiles lines upTo index all)
    (within : upTo ≤ lines.length) :
    readBody lines upTo index = .ok
      ⟨(all.filterMap ownLine?).map fun index => (index, Source.stripped lines index),
        all.filterMap innerBlock?⟩ := by
  induction tiles with
  | done reached =>
    rw [readBody, if_neg (Nat.not_lt.mpr reached)]
    rfl
  | @line index rest before found tail ih =>
    have inside := Nat.lt_of_lt_of_le before within
    rw [registeredLine inside] at found
    rw [readBody, if_pos before, lineFound inside]
    simp only [bind, Except.bind, found, ih]
    rw [← strippedLine inside]
    rfl
  | @inner index rest registration before found tail ih =>
    have inside := Nat.lt_of_lt_of_le before within
    have later := Block.startBeforeRegistrationStop registration inside
    have onward := Nat.lt_min.mpr ⟨later, before⟩
    have stop := innerStopFound found upTo
    rw [registeredLine inside] at found
    rw [readBody, if_pos before, lineFound inside]
    simp only [bind, Except.bind, found, stop, if_pos onward, ih]
    rfl

theorem bodyRead (start : Nat) {upTo : Nat} (within : upTo ≤ lines.length)
    (registration : Registration) :
    ∃ body, readBody lines upTo (start + 1) = .ok body ∧
      (start, Source.head lines start registration) :: body.texts =
        texts lines (registration, start, upTo) ∧
      body.blocks.filter (fun block => block.1.nestsIn registration) =
        nestedBlocks lines start upTo registration := by
  refine ⟨_, readBodyTiles (partsTile lines (start + 1) upTo) within, ?_, ?_⟩
  · rw [texts, bodyLines]
    refine congrArg (fun own => _ :: List.map _ own) (List.filterMap_congr fun part _ => ?_)
    cases part <;> rfl
  · rw [nestedBlocks, List.filter_filterMap]
    refine List.filterMap_congr fun part _ => ?_
    cases part with
    | line index => rfl
    | inner registration first next => exact Option.filter_some

theorem mapRead {α β : Type} {f : α → Except Fault β} {g : α → β} {all : List α}
    (read : ∀ a ∈ all, f a = .ok (g a)) : all.mapM f = .ok (all.map g) := by
  induction all with
  | nil => rfl
  | cons a all ih =>
    have later := ih fun b member => read b (List.mem_cons_of_mem _ member)
    rw [List.mapM_cons, read a List.mem_cons_self, later]
    rfl

theorem chainJobs (lines : List Line) (start upTo : Nat) :
    Source.jobs lines start upTo .promise =
      (Source.continuations ((texts lines (.promise, start, upTo)).flatMap Source.links)).2.map
        fun (index, printed) => { Source.deferred .promise index printed with nested := [] } := by
  have tasks : Source.tasks lines start upTo .promise = _ :=
    @Source.chainTasksRead (.promise, start, upTo) rfl lines
  rw [Source.jobs, Source.nestedNone Registration.noConfusion, tasks, List.map_map]
  rfl

theorem callbackJobs {registration : Registration} (callback : registration ≠ .promise)
    (lines : List Line) (start upTo : Nat) :
    Source.jobs lines start upTo registration =
      [{ Source.deferred registration start ((texts lines (registration, start, upTo)).flatMap
          fun text => Source.printedBy text.1 text.2) with
        nested := (nestedBlocks lines start upTo registration).flatMap fun block =>
          (Source.jobs lines block.2.1 block.2.2 block.1).map Job.toTask }] := by
  have nested : (nestedBlocks lines start upTo registration).flatMap
      (fun block => (Source.jobs lines block.2.1 block.2.2 block.1).map Job.toTask) =
      (nestedBlocks lines start upTo registration).flatMap (blockTasks lines) :=
    List.flatMap_congr fun block _ => Source.jobsTasks lines block
  have tasks : Source.tasks lines start upTo registration = _ :=
    @Source.callbackTasksRead (registration, start, upTo) callback lines
  rw [nested, Source.jobs, tasks]
  rfl

theorem blockJobsRead {depth start upTo : Nat} {registration : Registration}
    (inside : start < lines.length) (within : upTo ≤ lines.length)
    (inner : ∀ block ∈ nestedBlocks lines start upTo registration,
      blockJobs lines depth block = .ok (Source.jobs lines block.2.1 block.2.2 block.1, [])) :
    blockJobs lines (depth + 1) (registration, start, upTo) =
      .ok (Source.jobs lines start upTo registration,
        (nestedBlocks lines start upTo registration).map Prod.snd) := by
  obtain ⟨body, read, own, nested⟩ := bodyRead start within registration
  rw [Source.head, strippedLine inside] at own
  rw [blockJobs, lineFound inside]
  by_cases chain : registration = .promise
  · subst chain
    have none : nestedBlocks lines start upTo .promise = [] :=
      Source.nestedNone Registration.noConfusion lines start upTo
    simp only [bind, Except.bind, read, own, none, chainJobs, if_true]
    rfl
  · have unclaimed : (nestedBlocks lines start upTo registration).flatMap
        (fun _ => ([] : List (Nat × Nat))) = [] := List.flatMap_eq_nil_iff.mpr fun _ _ => rfl
    rw [callbackJobs chain]
    simp only [bind, Except.bind, read, own, nested, if_neg chain, mapRead inner, List.flatMap_map,
      unclaimed, List.append_nil]
    rfl

theorem blockJobsFound {start upTo : Nat} {registration : Registration}
    (inside : start < lines.length) (within : upTo ≤ lines.length) :
    blockJobs lines 2 (registration, start, upTo) =
      .ok (Source.jobs lines start upTo registration,
        (nestedBlocks lines start upTo registration).map Prod.snd) := by
  -- only timers have nested blocks, and those are of microtasks, so two calls are enough
  refine blockJobsRead inside within fun ⟨inner, first, next⟩ member => ?_
  obtain ⟨part, nests⟩ := Source.memNestedBlocks.mp member
  have bounds : first < next ∧ next ≤ upTo := ((partsTile lines _ _).partsWithin _ part).2
  have ends : next ≤ lines.length := Nat.le_trans bounds.2 within
  have bare : nestedBlocks lines first next inner = [] := by
    refine Source.nestedNone ?_ lines first next
    rintro rfl
    rw [Registration.nestsIn, Bool.and_eq_true] at nests
    cases nests.2
  have unnested : ∀ block ∈ nestedBlocks lines first next inner,
      blockJobs lines 0 block = .ok (Source.jobs lines block.2.1 block.2.2 block.1, []) := by
    rw [bare]
    exact fun _ member => absurd member List.not_mem_nil
  have jobs := blockJobsRead (Nat.lt_of_lt_of_le bounds.1 ends) ends unnested
  rwa [bare] at jobs

example : blockJobs (Text.lines "setTimeout(\n queueMicrotask()".toList) 1 (.timeout, 0, 2) =
    .error .tooDeep := by cbv

theorem jobsFromFound {numbered : List (Line × Nat)}
    (listed : ∀ entry ∈ numbered, lines[entry.2]? = some entry.1) (claimed : List (Nat × Nat)) :
    jobsFrom lines claimed numbered = .ok (Source.jobsFrom lines claimed numbered) := by
  induction numbered generalizing claimed with
  | nil => rfl
  | cons entry rest ih =>
    obtain ⟨line, index⟩ := entry
    have onward := ih fun entry member => listed entry (List.mem_cons_of_mem _ member)
    have here : lines[index]? = some line := listed (line, index) List.mem_cons_self
    have inside : index < lines.length := (List.getElem?_eq_some_iff.mp here).1
    rw [jobsFrom, Source.jobsFrom]
    split
    · exact onward claimed
    split
    · rw [onward]
      rfl
    cases Registration.start? (strip line) with
    | none => exact onward claimed
    | some registration =>
      have within := Source.stopWithin lines (Nat.le_of_lt inside) registration
      simp only [bind, Except.bind, registrationStopFound, blockJobsFound inside within, onward]
      rfl

theorem jobsFound (lines : List Line) : jobs lines = .ok (jobsOfLines lines) :=
  jobsFromFound (fun _ member => List.mem_zipIdx_iff_getElem?.mp member) []

theorem slotListed {given : List (Nat × Nat)} {next : Nat} {listed : List (Nat × Job)}
    {slot : Trace.Slot} (member : slot ∈ Trace.slots given next listed) :
    (slot.number, slot.job) ∈ listed := by
  induction listed generalizing given next with
  | nil => cases member
  | cons entry rest ih =>
    obtain ⟨number, job⟩ := entry
    rw [Trace.slots] at member
    split at member <;> rcases List.mem_cons.mp member with rfl | later
    all_goals first | exact List.mem_cons_self | exact List.mem_cons_of_mem _ (ih later)

theorem drainFound {listed : List (Nat × Job)} {slot : Trace.Slot}
    (member : slot ∈ Trace.slots [] (Trace.nextNumber listed) (Trace.drainedJobs listed)) :
    drain slot = .ok slot.drain := by
  obtain ⟨lane, drained, taken⟩ := List.mem_flatMap.mp (slotListed member)
  have own : slot.job.lane = lane := beq_iff_eq.mp (List.mem_filter.mp taken).2
  rw [drain, drainNotes, if_pos (own ▸ drained)]
  rfl

theorem stepsFound (jobs : List Job) : steps jobs = .ok (Trace.ofJobs jobs) := by
  rw [steps, mapRead fun slot member => drainFound member]
  simp only [bind, Except.bind, Trace.ofJobs, Trace.ofListed, Trace.moves, List.flatMap_def]
  rfl

/-- What holds of all lines, whatever they leave open or close too often. A block has its first line
at least and, with all that is attached to it, ends in the program; each part of a body starts further
down than the one before. A scan reads no line that is not there, goes on in every loop to a line
further down and opens callbacks two deep at most. -/
structure Faultless (lines : List Line) : Prop where
  bounds : ∀ start < lines.length, ∀ registration,
    start ≤ Block.last lines start ∧
      Block.last lines start ≤ Block.registrationLast lines start registration ∧
      Block.registrationLast lines start registration < lines.length
  attached : ∀ start registration, registrationStop lines start registration =
    .ok (Block.registrationStop lines start registration)
  body : ∀ start upTo, ((parts lines start upTo).map Part.first).Pairwise (· < ·) ∧
    ∀ part ∈ parts lines start upTo, start ≤ part.first ∧ part.next ≤ upTo
  block : ∀ start < lines.length, ∀ upTo ≤ lines.length, ∀ registration,
    blockJobs lines 2 (registration, start, upTo) =
      .ok (Source.jobs lines start upTo registration,
        (nestedBlocks lines start upTo registration).map Prod.snd)
  program : jobs lines = .ok (jobsOfLines lines)

theorem blockBounds {start : Nat} (inside : start < lines.length) (registration : Registration) :
    start ≤ Block.last lines start ∧
      Block.last lines start ≤ Block.registrationLast lines start registration ∧
      Block.registrationLast lines start registration < lines.length := by
  have block := Block.startBeforeStop inside
  have attached : Block.stop lines start ≤ Block.registrationStop lines start registration := by
    cases registration with
    | promise => exact Block.chainStopAfter lines _ _
    | _ => exact Nat.le_refl _
  have within := Source.stopWithin lines (Nat.le_of_lt inside) registration
  rw [Block.last, Block.registrationLast]
  omega

theorem partsAscend (lines : List Line) (start upTo : Nat) :
    ((parts lines start upTo).map Part.first).Pairwise (· < ·) := by
  have tiles := partsTile lines start upTo
  refine List.pairwise_map.mpr (tiles.inOrder.imp_of_mem fun above _ order => ?_)
  exact Nat.lt_of_lt_of_le (tiles.partsWithin _ above).2.1 order

theorem scansFaultless :
    (∀ lines, Faultless lines) ∧ ∀ source, traceOf source = .ok (LoopPlayer.traceOf source) := by
  refine ⟨fun lines => ?_, fun source => ?_⟩
  · exact
      { bounds := fun start inside => blockBounds inside
        attached := registrationStopFound lines
        body := fun start upTo => ⟨partsAscend lines start upTo, fun part member =>
          ((partsTile lines start upTo).partsWithin part member).imp_right And.right⟩
        block := fun start inside upTo within registration => blockJobsFound inside within
        program := jobsFound lines }
  · rw [traceOf, jobsFound]
    simp only [bind, Except.bind, stepsFound]
    rfl

def strayDelimiters : String :=
  "setTimeout(() => \x7b\n Promise.resolve()\n .then(f)))\n queueMicrotask(() => \x7b"

theorem strayDelimitersScanned :
    let lines := Text.lines strayDelimiters.toList
    (Block.last lines 1 = 1 ∧ Block.registrationLast lines 1 .promise = 2 ∧ lines.length = 4) ∧
      (1 ≤ Block.last lines 1 ∧ Block.last lines 1 ≤ Block.registrationLast lines 1 .promise ∧
        Block.registrationLast lines 1 .promise < lines.length) ∧
      (LoopPlayer.traceOf strayDelimiters).length = 9 ∧
      traceOf strayDelimiters = .ok (LoopPlayer.traceOf strayDelimiters) := by
  intro lines
  have ends : Block.last lines 1 = 1 ∧ Block.registrationLast lines 1 .promise = 2 ∧
      lines.length = 4 := by decide +kernel
  obtain ⟨scans, traces⟩ := scansFaultless
  have inside : 1 < lines.length := by
    rw [ends.2.2]
    decide
  exact ⟨ends, (scans lines).bounds 1 inside .promise, by decide +kernel, traces strayDelimiters⟩

end LoopPlayer.Guarded
