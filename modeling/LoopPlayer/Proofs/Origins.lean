import LoopPlayer.Proofs.Effort

/-! Where the steps of a trace come from. Every step stands on a line of the program, and what it says
is found there: a task on the line of its call, its registration or its attachment, and a text on the
line of the call that prints it. The label of a task is made from the first text that it prints. -/
namespace LoopPlayer
open Text (Line strip)

namespace Text

theorem stripInfix (line : Line) : strip line <:+: line := by
  obtain ⟨before, after, whole, -⟩ := stripWithin line
  exact ⟨before, after, whole.symm⟩

theorem occursInfix {part text : List Char} (found : occurs part text) : part <:+: text := by
  induction text with
  | nil => exact List.isEmpty_iff.mp found ▸ List.infix_refl _
  | cons c rest ih =>
    rw [occurs, Bool.or_eq_true] at found
    rcases found with here | later
    · exact (List.isPrefixOf_iff_prefix.mp here).isInfix
    · exact List.infix_cons (ih later)

theorem pieceInfix {separator text piece : List Char} {skip : Nat}
    (member : piece ∈ piecesFrom separator skip text) : piece <:+: text := by
  induction text generalizing skip piece with
  | nil =>
    have empty : piece = [] := by cases skip <;> exact List.mem_singleton.mp member
    exact empty ▸ List.infix_refl _
  | cons c rest ih =>
    cases skip with
    | succ skip => exact List.infix_cons (ih member)
    | zero =>
      rw [piecesFrom] at member
      split at member
      · rcases List.mem_cons.mp member with rfl | later
        · exact List.nil_infix
        · exact List.infix_cons (ih later)
      · cases cut : piecesFrom separator 0 rest with
        | nil => exact absurd cut (piecesNonempty separator 0 rest)
        | cons first others =>
          rw [cut, consFirst] at member
          rcases List.mem_cons.mp member with rfl | later
          · exact ((List.prefix_cons_inj c).mpr (firstPiece cut)).isInfix
          · exact List.infix_cons (ih (cut ▸ List.mem_cons_of_mem _ later))

end Text

namespace Logging

theorem callInfix {text said after : List Char} (call : Call text said after) :
    opening <:+: text ∧ said <:+: text := by
  obtain @⟨blanks, quote, said, after, -, -, -⟩ := call
  refine ⟨(List.prefix_append _ _).isInfix, opening ++ (blanks ++ [quote]), quote :: after, ?_⟩
  simp

theorem printedInfix {skip : Nat} {text said : List Char} (member : said ∈ printedFrom skip text) :
    opening <:+: text ∧ said <:+: text := by
  induction text generalizing skip with
  | nil => cases skip <;> cases member
  | cons c rest ih =>
    have later {skip : Nat} (inside : said ∈ printedFrom skip rest) :
        opening <:+: c :: rest ∧ said <:+: c :: rest :=
      (ih inside).imp List.infix_cons List.infix_cons
    cases skip with
    | succ skip => exact later member
    | zero =>
      rw [printedFrom] at member
      split at member
      · next first length called =>
        rcases List.mem_cons.mp member with rfl | inside
        · exact callInfix (callSound called).1
        · exact later inside
      · exact later member

theorem outputsInfix {text said : List Char} (member : said ∈ outputs text) :
    opening <:+: text ∧ (said = placeholder ∨ said <:+: text) := by
  rw [outputs] at member
  split at member
  · next silent =>
    exact ⟨Text.occursInfix (Bool.and_eq_true_iff.mp silent).2, .inl (List.mem_singleton.mp member)⟩
  · exact (printedInfix member).imp_right .inr

end Logging

/-- What makes a task: a call in the first column, the opening of a callback, or what is attached to a
promise. The task gets its lane and code from it, and the label that it has if it prints nothing. -/
inductive Origin (line : Line) : Lane → String → String → Prop where
  | call (opens : Logging.opening <+: line) :
      Origin line .callStack (String.ofList (strip line)) "output"
  | callback {registration : Registration} (callback : registration ≠ .promise)
      (opens : registration.opening.toList <+: strip line) :
      Origin line registration.lane registration.code registration.fallback
  | attached (found : ".then(".toList <:+: strip line) :
      Origin line .microtask Registration.promise.code Registration.promise.fallback

structure Said (line : Line) (text : List Char) : Prop where
  calls : "console.log(".toList <:+: line
  verbatim : text = "output".toList ∨ text <:+: line

def labelOf (output : Option String) (fallback : String) : String :=
  String.ofList (Logging.label (output.map String.toList) fallback.toList)

def Numbers (lines : List Line) (number : Int) (line : Line) : Prop :=
  ∃ index : Nat, number = index + 1 ∧ lines[index]? = some line

structure Task.Sourced (lines : List Line) (task : Task) : Prop where
  origin : ∃ line fallback, Numbers lines task.line line ∧
    Origin line task.lane task.code fallback ∧ task.label = labelOf task.output fallback
  further : ∀ entry ∈ task.extra, ∃ line, Numbers lines entry.1 line ∧ Said line entry.2.toList

namespace Source
open Block (partsTile registered?)

variable {lines : List Line}

theorem foundLine {part : List Char} (index : Nat) (nonempty : part ≠ [])
    (found : part <:+: stripped lines index) :
    ∃ line, lines[index]? = some line ∧ part <:+: strip line := by
  rw [stripped] at found
  cases inside : lines[index]? with
  | none =>
    rw [inside] at found
    exact absurd (List.infix_nil.mp found) nonempty
  | some line =>
    rw [inside] at found
    exact ⟨line, rfl, found⟩

def Uttered (lines : List Line) (entry : Printed) : Prop :=
  ∃ line, lines[entry.1]? = some line ∧ Said line entry.2

theorem printedByUttered {index : Nat} {text : List Char} (read : text <:+: stripped lines index) :
    ∀ entry ∈ printedBy index text, Uttered lines entry := by
  intro entry member
  obtain ⟨said, output, rfl⟩ := List.mem_map.mp member
  obtain ⟨calls, verbatim⟩ := Logging.outputsInfix output
  obtain ⟨line, found, within⟩ := foundLine index (by decide) (calls.trans read)
  have inLine : stripped lines index <:+: line := by
    rw [stripped, found]
    exact Text.stripInfix line
  exact ⟨line, found, within.trans (Text.stripInfix line),
    verbatim.imp_right fun inside => (inside.trans read).trans inLine⟩

theorem textsRead {block : Registration × Nat × Nat} {read : Printed}
    (member : read ∈ texts lines block) : read.2 <:+: stripped lines read.1 := by
  rcases List.mem_cons.mp member with rfl | body
  · exact (List.drop_suffix _ _).isInfix
  · obtain ⟨index, -, rfl⟩ := List.mem_map.mp body
    exact List.infix_refl _

theorem linkRead {read : Printed} {link : Link} (member : link ∈ links read) :
    link.text <:+: read.2 := by
  obtain ⟨index, text⟩ := read
  rw [links] at member
  split at member
  · cases member
  · next first rest cut =>
    suffices listed : link.text ∈ Text.pieces attachment text from Text.pieceInfix listed
    rw [cut]
    rcases List.mem_cons.mp member with rfl | attached
    · exact List.mem_cons_self
    · obtain ⟨piece, inside, rfl⟩ := List.mem_map.mp attached
      exact List.mem_cons_of_mem _ inside

theorem continuationsLinks (all : List Link) :
    (∀ entry ∈ (continuations all).1, ∃ link ∈ all, entry ∈ printedBy link.line link.text) ∧
      ∀ task ∈ (continuations all).2, (∃ link ∈ all, link.attached ∧ link.line = task.1) ∧
        ∀ entry ∈ task.2, ∃ link ∈ all, entry ∈ printedBy link.line link.text := by
  induction all with
  | nil => exact ⟨List.forall_mem_nil _, List.forall_mem_nil _⟩
  | cons link rest ih =>
    obtain ⟨leading, following⟩ := ih
    have later {entry : Printed} :
        (∃ other ∈ rest, entry ∈ printedBy other.line other.text) →
          ∃ other ∈ link :: rest, entry ∈ printedBy other.line other.text := by
      rintro ⟨other, inside, printed⟩
      exact ⟨other, List.mem_cons_of_mem _ inside, printed⟩
    have own : ∀ entry ∈ printedBy link.line link.text ++ (continuations rest).1,
        ∃ other ∈ link :: rest, entry ∈ printedBy other.line other.text := by
      intro entry member
      rcases List.mem_append.mp member with here | behind
      · exact ⟨link, List.mem_cons_self, here⟩
      · exact later (leading entry behind)
    have others : ∀ task ∈ (continuations rest).2,
        (∃ other ∈ link :: rest, other.attached ∧ other.line = task.1) ∧
          ∀ entry ∈ task.2, ∃ other ∈ link :: rest, entry ∈ printedBy other.line other.text := by
      intro task member
      obtain ⟨⟨other, inside, attached⟩, printed⟩ := following task member
      exact ⟨⟨other, List.mem_cons_of_mem _ inside, attached⟩,
        fun entry said => later (printed entry said)⟩
    rw [continuations]
    cases attached : link.attached with
    | false => exact ⟨own, others⟩
    | true =>
      have first : ∃ other ∈ link :: rest, other.attached ∧ other.line = link.line :=
        ⟨link, List.mem_cons_self, attached, rfl⟩
      exact ⟨List.forall_mem_nil _, List.forall_mem_cons.mpr ⟨⟨first, own⟩, others⟩⟩

theorem deferredSourced {registration : Registration} {start : Nat} {printed : List Printed}
    (opened : ∃ line, lines[start]? = some line ∧
      Origin line registration.lane registration.code registration.fallback)
    (uttered : ∀ entry ∈ printed, Uttered lines entry) :
    (deferred registration start printed).Sourced lines where
  origin := by
    obtain ⟨line, found, origin⟩ := opened
    refine ⟨line, registration.fallback, ⟨start, rfl, found⟩, origin, ?_⟩
    simp only [deferred, labelOf, Option.map_map]
    refine congrArg (fun text => String.ofList (Logging.label (printed.head?.map text) _)) ?_
    exact funext fun entry => String.toList_ofList.symm
  further := by
    intro entry member
    obtain ⟨read, inside, rfl⟩ := List.mem_map.mp member
    obtain ⟨line, found, said⟩ := uttered read (List.mem_of_mem_tail inside)
    exact ⟨line, ⟨read.1, rfl, found⟩, by rwa [String.toList_ofList]⟩

theorem chainTasksSourced (start stop : Nat) :
    ∀ task ∈ chainTasks lines start stop, task.Sourced lines := by
  intro task member
  rw [chainTasks, chainTextsRead] at member
  obtain ⟨⟨index, printed⟩, inside, rfl⟩ := List.mem_map.mp member
  obtain ⟨⟨link, listed, attached, rfl⟩, entries⟩ := (continuationsLinks _).2 _ inside
  refine deferredSourced ?_ fun entry said => ?_
  · obtain ⟨read, text, own⟩ := List.mem_flatMap.mp listed
    have cut : Text.occurs attachment read.2 := by
      rw [← linksAttached]
      exact List.any_eq_true.mpr ⟨link, own, attached⟩
    obtain ⟨line, placed, within⟩ :=
      foundLine read.1 (by decide) ((Text.occursInfix cut).trans (textsRead text))
    exact ⟨line, linksLine own ▸ placed, .attached within⟩
  · obtain ⟨link, listed, printed⟩ := entries entry said
    obtain ⟨read, text, own⟩ := List.mem_flatMap.mp listed
    rw [linksLine own] at printed
    exact printedByUttered ((linkRead own).trans (textsRead text)) entry printed

theorem callbackSourced {registration : Registration} (callback : registration ≠ .promise)
    {start : Nat} (found : registered? lines start = some registration) (stop : Nat) :
    (deferred registration start (callbackPrinted lines start stop registration)).Sourced lines := by
  refine deferredSourced ?_ fun entry said => ?_
  · have opens := Registration.startsOpening found
    obtain ⟨line, placed, -⟩ :=
      foundLine start (by cases registration <;> decide) opens.isInfix
    rw [placed] at opens
    exact ⟨line, placed, .callback callback opens⟩
  · rw [callbackPrintedRead] at said
    obtain ⟨read, text, printed⟩ := List.mem_flatMap.mp said
    exact printedByUttered (textsRead text) entry printed

theorem tasksSourced {registration : Registration} {start : Nat}
    (found : registered? lines start = some registration) (stop : Nat) :
    ∀ task ∈ tasks lines start stop registration, task.Sourced lines := by
  intro task member
  cases registration with
  | promise => exact chainTasksSourced start stop task member
  | _ =>
    obtain rfl := List.mem_singleton.mp member
    exact callbackSourced Registration.noConfusion found stop

theorem immediateSourced {index : Nat}
    (opens : Logging.opening.isPrefixOf (lines[index]?.getD [])) :
    (immediate (lines[index]?.getD []) index).toTask.Sourced lines := by
  cases placed : lines[index]? with
  | none =>
    rw [placed] at opens
    exact absurd opens (by decide)
  | some line =>
    rw [placed] at opens
    have origin : Origin line .callStack (String.ofList (strip line)) "output" :=
      .call (List.isPrefixOf_iff_prefix.mp opens)
    refine ⟨⟨line, "output", ⟨index, rfl, placed⟩, origin, ?_⟩, List.forall_mem_nil _⟩
    simp only [immediate, labelOf, Option.map_some, String.toList_ofList]
    rfl

theorem jobsAtSourced {index : Nat} {job : Job} (member : job ∈ jobsAt lines index) :
    ∀ task ∈ job.tasks, task.Sourced lines := by
  unfold jobsAt at member
  split at member
  · next opens =>
    rw [List.mem_singleton.mp member]
    exact List.forall_mem_singleton.mpr (immediateSourced opens)
  · split at member
    · cases member
    · next registration found =>
      obtain ⟨task, own, rfl⟩ := List.mem_map.mp member
      intro inner inside
      rcases List.mem_cons.mp inside with rfl | nested
      · exact tasksSourced found _ _ own
      · obtain ⟨⟨kind, first, next⟩, block, listed⟩ := List.mem_flatMap.mp nested
        have opened := (partsTile lines _ _).partsFound _ (memNestedBlocks.mp block).1
        exact tasksSourced opened.1 next _ listed

theorem jobsSourced {job : Job} (member : job ∈ jobsOfLines lines) :
    ∀ task ∈ job.tasks, task.Sourced lines := by
  rw [← reportedAll, reportedHeard (Nat.le_refl _)] at member
  obtain ⟨index, -, reported⟩ := List.mem_flatMap.mp member
  exact jobsAtSourced reported

end Source

namespace Trace

theorem lifeSays {self : Numbered} {mark : Mark} (member : mark ∈ self.life) :
    (mark.code = self.task.code ∧ mark.label = self.task.label ∧ mark.lane = self.task.lane) ∧
      (mark.phase ≠ .output ∧ mark.line = self.task.line ∨
        ∃ entry ∈ self.task.extra,
          mark.phase = .output ∧ mark.line = entry.1 ∧ mark.output = some entry.2) := by
  rcases Numbered.lifeCases member with rfl | rfl | running
  · exact ⟨⟨rfl, rfl, rfl⟩, .inl ⟨Phase.noConfusion, rfl⟩⟩
  · exact ⟨⟨rfl, rfl, rfl⟩, .inl ⟨Phase.noConfusion, rfl⟩⟩
  · rcases List.mem_cons.mp running with rfl | further
    · exact ⟨⟨rfl, rfl, rfl⟩, .inl ⟨Phase.noConfusion, rfl⟩⟩
    · obtain ⟨entry, inside, rfl⟩ := List.mem_map.mp further
      exact ⟨⟨rfl, rfl, rfl⟩, .inr ⟨entry, inside, rfl, rfl, rfl⟩⟩

theorem executedLives (self : Numbered) :
    self.mark .execute self.task.line self.task.output ∈ self.life := by
  rw [Numbered.life]
  split
  · exact List.mem_cons_self
  · exact List.mem_cons_of_mem _ (List.mem_cons_of_mem _ List.mem_cons_self)

variable {source : String}

theorem livesSteps {self : Numbered}
    (present : self ∈ (roster (jobsOf source)).flatMap Slot.members) {mark : Mark} :
    mark ∈ self.life ↔
      ∃ step ∈ traceOf source, step.task = (self.number : Int) ∧ step.mark = mark := by
  have lifecycle := jobsLifecycle (jobsOfWellNested source)
  rw [← lifecycle.lives self present, List.mem_map]
  simp only [List.mem_filter, decide_eq_true_eq, and_assoc]
  rfl

theorem memberSourced {self : Numbered}
    (present : self ∈ (roster (jobsOf source)).flatMap Slot.members) :
    self.task.Sourced (Text.lines source.toList) := by
  obtain ⟨slot, listed, inside⟩ := List.mem_flatMap.mp present
  have job : slot.job ∈ jobsOf source := by
    rw [← rosterJobs (jobsOf source)]
    exact List.mem_map_of_mem listed
  refine Source.jobsSourced job self.task ?_
  rcases List.mem_cons.mp inside with rfl | inner
  · exact List.mem_cons_self
  · refine List.mem_cons_of_mem _ ?_
    rw [← Slot.innerTasks]
    exact List.mem_map_of_mem inner

end Trace

structure Step.Sourced (lines : List Line) (step : Step) : Prop where
  inside : 1 ≤ step.line ∧ step.line ≤ lines.length
  moves : step.phase ≠ .output → ∃ line fallback,
    Numbers lines step.line line ∧ Origin line step.lane step.code fallback
  prints : step.phase = .output → ∃ line text,
    Numbers lines step.line line ∧ step.output = some text ∧ Said line text.toList

theorem numbersInside {lines : List Line} {number : Int} {line : Line}
    (numbers : Numbers lines number line) : 1 ≤ number ∧ number ≤ lines.length := by
  obtain ⟨index, rfl, placed⟩ := numbers
  have bound := (List.getElem?_eq_some_iff.mp placed).1
  omega

/-- Every step of a program stands on a line of it, and its code or its text is found on that line.
The steps of a task have one label, made from what the task prints when it is executed or from what it
originates in. -/
theorem stepsSourced (source : String) :
    let lines := Text.lines source.toList
    ∀ step ∈ traceOf source, step.Sourced lines ∧
      (∃ executed ∈ traceOf source, executed.task = step.task ∧ executed.phase = .execute ∧
        ∃ line fallback, Numbers lines executed.line line ∧
          Origin line executed.lane executed.code fallback ∧
          step.label = labelOf executed.output fallback) ∧
      ∀ other ∈ traceOf source, other.task = step.task → other.label = step.label := by
  intro lines step member
  have lifecycle := Trace.jobsLifecycle (jobsOfWellNested source)
  obtain ⟨self, present, owner⟩ := lifecycle.owned step member
  obtain ⟨⟨line, fallback, numbers, origin, label⟩, further⟩ := Trace.memberSourced present
  have told {other : Step} (inside : other ∈ traceOf source) (same : other.task = self.number) :=
    Trace.lifeSays ((Trace.livesSteps present).mpr ⟨other, inside, same, rfl⟩)
  obtain ⟨⟨code, labelled, lane⟩, place⟩ := told member owner
  refine ⟨?sourced, ?derived, ?shared⟩
  case sourced =>
    rcases place with ⟨moving, here⟩ | ⟨entry, inside, printing, here, text⟩
    · have placed : step.line = self.task.line := here
      have stands : Numbers lines step.line line := placed ▸ numbers
      have opened : Origin line step.lane step.code fallback := by
        rw [show step.lane = self.task.lane from lane, show step.code = self.task.code from code]
        exact origin
      exact ⟨numbersInside stands, fun _ => ⟨line, fallback, stands, opened⟩,
        fun printing => absurd printing moving⟩
    · obtain ⟨printed, place, said⟩ := further entry inside
      have placed : step.line = entry.1 := here
      have stands : Numbers lines step.line printed := placed ▸ place
      exact ⟨numbersInside stands, fun moving => absurd printing moving,
        fun _ => ⟨printed, entry.2, stands, text, said⟩⟩
  case derived =>
    obtain ⟨executed, listed, own, same⟩ :=
      (Trace.livesSteps present).mp (Trace.executedLives self)
    refine ⟨executed, listed, own.trans owner.symm, congrArg Mark.phase same, line, fallback, ?_⟩
    have placed : executed.line = self.task.line := congrArg Mark.line same
    have written : executed.code = self.task.code := congrArg Mark.code same
    have queued : executed.lane = self.task.lane := congrArg Mark.lane same
    have output : executed.output = self.task.output := congrArg Mark.output same
    rw [placed, written, queued, output]
    exact ⟨numbers, origin, labelled.trans label⟩
  case shared =>
    intro other listed own
    exact (told listed (own.trans owner)).1.2.1.trans labelled.symm

end LoopPlayer
