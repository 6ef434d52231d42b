import LoopPlayer.Proofs.Echoes
import LoopPlayer.Proofs.Layout
import LoopPlayer.Proofs.SourceOrder

/-! What the bodies of literals can change. Programs that differ only in them have the same jobs up
to what these print and how they are called, unless a body looks like a logging call or an
attachment. -/
namespace LoopPlayer
open Text (Line strip)

/- A task without its texts. What runs at once has its line for its code, which is a text too. -/
def Task.shape (task : Task) : Task :=
  { task with
    code := if task.lane = .callStack then "" else task.code
    label := ""
    output := task.output.map fun _ => ""
    extra := task.extra.map fun (line, _) => (line, "") }

def Job.shape (job : Job) : Job :=
  { job with toTask := job.toTask.shape, nested := job.nested.map Task.shape }

theorem mapAgree {α β γ : Type} {R : α → β → Prop} {xs : List α} {ys : List β} {f : α → γ}
    {g : β → γ} (both : List.Forall₂ R xs ys) (agree : ∀ x y, R x y → f x = g y) :
    xs.map f = ys.map g := by
  induction both with
  | nil => rfl
  | cons first _ ih => rw [List.map_cons, List.map_cons, agree _ _ first, ih]

theorem Exchanged.layoutSame {admitted : List Char → Prop} {line other : Line}
    (unmarked : ∀ body, admitted body → Unmarked body) (exchanged : Exchanged admitted line other) :
    Block.layout line = Block.layout other := by
  have bare := exchanged.bareSame fun body member => (unmarked body member).toSimple
  have echo := (Echo.ofExchanged unmarked exchanged).stripKeeps
  have registered : Registration.start? (strip line) = Registration.start? (strip other) :=
    congrArg (Registration.all.find? ·) (funext fun registration =>
      echo.plainStartAgrees registration.openingPlain)
  simp only [Block.layout, Delimiter.opened, Delimiter.closed, Block.attaches, bare, echo.sameHead,
    registered]

theorem Echo.openingDropped {registration : Registration} {text other : List Char}
    (echo : Echo text other) (opens : registration.opening.toList <+: text) :
    Echo (registration.afterOpening text) (registration.afterOpening other) := by
  obtain ⟨rest, rfl⟩ := opens
  obtain ⟨later, rfl, behind⟩ := echo.pastUnquoted (partUnquoted registration.openingPlain)
  have dropped (rest : List Char) :
      registration.afterOpening (registration.opening.toList ++ rest) = rest :=
    List.drop_left' String.length_toList
  rwa [dropped, dropped]

namespace Source
open Block (registered? registrationStop layout partsTile)

def Reads (read other : Printed) : Prop := read.1 = other.1 ∧ Echo read.2 other.2

def Link.Echoes (link other : Link) : Prop :=
  link.line = other.line ∧ link.attached = other.attached ∧ Echo link.text other.text

theorem attachmentPlain : attachment.all Delimiter.isPlain := by decide

theorem printedBySame (index : Nat) {text other : List Char} (echo : Echo text other) :
    (printedBy index text).map Prod.fst = (printedBy index other).map Prod.fst := by
  have numbers (text : List Char) : (printedBy index text).map Prod.fst =
      List.replicate (Logging.outputs text).length index := by
    rw [printedBy, List.map_map, ← List.map_const']
    rfl
  rw [numbers, numbers, echo.outputsSame]

theorem readsPrinted {reads others : List Printed} (both : List.Forall₂ Reads reads others) :
    (reads.flatMap fun read => printedBy read.1 read.2).map Prod.fst =
      (others.flatMap fun read => printedBy read.1 read.2).map Prod.fst := by
  induction both with
  | nil => rfl
  | cons reads _ ih =>
    rw [List.flatMap_cons, List.flatMap_cons, List.map_append, List.map_append, reads.1,
      printedBySame _ reads.2, ih]

theorem deferredShape (registration : Registration) (start : Nat) {printed other : List Printed}
    (same : printed.map Prod.fst = other.map Prod.fst) :
    (deferred registration start printed).shape = (deferred registration start other).shape := by
  have shaped (printed : List Printed) : (deferred registration start printed).shape =
      { (deferred registration start []).shape with
        output := (printed.map Prod.fst).head?.map fun _ => ""
        extra := (printed.map Prod.fst).tail.map fun (index : Nat) => ((index : Int) + 1, "") } := by
    rw [List.head?_map, ← List.map_tail, Option.map_map, List.map_map]
    simp only [deferred, Task.shape, Option.map_map, List.map_map]
    rfl
  rw [shaped, same, ← shaped]

theorem linksSame {read other : Printed} (reads : Reads read other) :
    List.Forall₂ Link.Echoes (links read) (links other) := by
  obtain ⟨index, text⟩ := read
  obtain ⟨_, text'⟩ := other
  obtain ⟨rfl, echo⟩ := reads
  have pieces := echo.piecesSame attachmentPlain (by decide) fun _ unmarked => unmarked.detached
  rw [links, links]
  generalize Text.pieces attachment text = cut at pieces ⊢
  generalize Text.pieces attachment text' = also at pieces ⊢
  cases pieces with
  | nil => exact .nil
  | cons first rest =>
    refine .cons ⟨rfl, rfl, first⟩ ?_
    rw [List.forall₂_map_left_iff, List.forall₂_map_right_iff]
    exact rest.imp fun _ _ echo => ⟨rfl, rfl, echo⟩

theorem continuationsSame {all others : List Link} (both : List.Forall₂ Link.Echoes all others) :
    (continuations all).1.map Prod.fst = (continuations others).1.map Prod.fst ∧
      List.Forall₂ (fun a b => a.1 = b.1 ∧ a.2.map Prod.fst = b.2.map Prod.fst)
        (continuations all).2 (continuations others).2 := by
  induction both with
  | nil => exact ⟨rfl, .nil⟩
  | @cons link other rest more echoes _ ih =>
    obtain ⟨line, attached, echo⟩ := echoes
    obtain ⟨leading, tasks⟩ := ih
    have printed : (printedBy link.line link.text ++ (continuations rest).1).map Prod.fst =
        (printedBy other.line other.text ++ (continuations more).1).map Prod.fst := by
      rw [List.map_append, List.map_append, line, printedBySame _ echo, leading]
    rw [continuations, continuations, attached]
    cases other.attached with
    | true => exact ⟨rfl, .cons ⟨line, printed⟩ tasks⟩
    | false => exact ⟨printed, tasks⟩

section

variable {admitted : List Char → Prop} (unmarked : ∀ body, admitted body → Unmarked body)
  {lines others : List Line} (exchanged : List.Forall₂ (Exchanged admitted) lines others)

include unmarked exchanged

theorem layoutsSame : lines.map layout = others.map layout :=
  mapAgree exchanged fun _ _ line => line.layoutSame unmarked

theorem lineSame (index : Nat) : Echo (lines[index]?.getD []) (others[index]?.getD []) := by
  induction exchanged generalizing index with
  | nil => exact .done
  | cons line _ ih =>
    cases index with
    | zero => exact .ofExchanged unmarked line
    | succ index => exact ih index

theorem textsSame {registration : Registration} {start : Nat}
    (found : registered? lines start = some registration) (upTo : Nat) :
    List.Forall₂ Reads (texts lines (registration, start, upTo))
      (texts others (registration, start, upTo)) := by
  have line (index : Nat) : Echo (stripped lines index) (stripped others index) :=
    (lineSame unmarked exchanged index).stripKeeps
  have body : bodyLines lines start upTo = bodyLines others start upTo := by
    rw [bodyLines, bodyLines, Block.partsLayout (layoutsSame unmarked exchanged)]
  rw [texts, texts, body]
  refine .cons ⟨rfl, ?_⟩ ?_
  · exact (line start).openingDropped (Registration.startsOpening found)
  · rw [List.forall₂_map_left_iff, List.forall₂_map_right_iff]
    exact List.forall₂_same.mpr fun index _ => ⟨rfl, line index⟩

theorem tasksShape {registration : Registration} {start : Nat}
    (found : registered? lines start = some registration) (upTo : Nat) :
    (tasks lines start upTo registration).map Task.shape =
      (tasks others start upTo registration).map Task.shape := by
  have texts := textsSame unmarked exchanged found upTo
  cases registration with
  | promise =>
    rw [tasks, tasks, chainTasks, chainTasks, chainTextsRead, chainTextsRead, List.map_map,
      List.map_map]
    have links := List.rel_flatMap texts fun _ _ reads => linksSame reads
    refine mapAgree (continuationsSame links).2 ?_
    rintro ⟨index, printed⟩ ⟨_, other⟩ ⟨rfl, same⟩
    exact deferredShape .promise index same
  | _ =>
    refine congrArg (fun task => [task]) (deferredShape _ start ?_)
    rw [callbackPrintedRead, callbackPrintedRead]
    exact readsPrinted texts

theorem jobsShape {registration : Registration} {start : Nat}
    (found : registered? lines start = some registration) (upTo : Nat) :
    (jobs lines start upTo registration).map Job.shape =
      (jobs others start upTo registration).map Job.shape := by
  have own := tasksShape unmarked exchanged found upTo
  have blocks := nestedBlocksLayout (layoutsSame unmarked exchanged) start upTo registration
  have nested : ((nestedBlocks lines start upTo registration).flatMap (blockTasks lines)).map
        Task.shape =
      ((nestedBlocks others start upTo registration).flatMap (blockTasks others)).map
        Task.shape := by
    rw [← blocks, List.map_flatMap, List.map_flatMap]
    refine List.flatMap_congr fun block member => ?_
    have opened := (partsTile lines _ _).partsFound _ (memNestedBlocks.mp member).1
    exact tasksShape unmarked exchanged opened.1 block.2.2
  have shapes (lines : List Line) : (jobs lines start upTo registration).map Job.shape =
      ((tasks lines start upTo registration).map Task.shape).map fun task =>
        { task with
          nested := ((nestedBlocks lines start upTo registration).flatMap
            (blockTasks lines)).map Task.shape } := by
    rw [jobs, List.map_map, List.map_map]
    rfl
  rw [shapes, shapes, own, nested]

theorem jobsAtShape (index : Nat) :
    (jobsAt lines index).map Job.shape = (jobsAt others index).map Job.shape := by
  have same := layoutsSame unmarked exchanged
  have column := (lineSame unmarked exchanged index).plainStartAgrees Logging.openingPlain
  rw [jobsAt, jobsAt, column, Block.registeredLayout same]
  split
  · rfl
  · cases found : registered? others index with
    | none => rfl
    | some registration =>
      rw [← Block.registeredLayout same] at found
      have stops := Block.registrationStopLayout same index registration
      simp only [stops]
      exact jobsShape unmarked exchanged found _

theorem reportedShape (count : Nat) :
    (reported lines count).map Job.shape = (reported others count).map Job.shape := by
  have same := layoutsSame unmarked exchanged
  have blocks (job : Job) : claimedBy lines job = claimedBy others job := by
    simp only [claimedBy, timerBlocks, Block.stopLayout same, nestedBlocksLayout same]
  have shaped (lines : List Line) (jobs : List Job) :
      jobs.flatMap (claimedBy lines) = (jobs.map Job.shape).flatMap (claimedBy lines) := by
    rw [List.flatMap_map]
    rfl
  induction count with
  | zero => rfl
  | succ index ih =>
    have claimed : claimed lines index = claimed others index := by
      rw [claimed, claimed, shaped, ih, ← shaped]
      exact List.flatMap_congr fun job _ => blocks job
    rw [reportedNext, reportedNext, claimed]
    split
    · exact ih
    · rw [List.map_append, List.map_append, ih, jobsAtShape unmarked exchanged]

theorem jobsOfLinesShape :
    (jobsOfLines lines).map Job.shape = (jobsOfLines others).map Job.shape := by
  rw [← reportedAll, ← reportedAll, Block.lengthLayout (layoutsSame unmarked exchanged)]
  exact reportedShape unmarked exchanged _

end

theorem jobsOfLine {line : Line} {registration : Registration}
    (found : Registration.start? (strip line) = some registration) :
    jobsOfLines [line] =
      (tasks [line] 0 1 registration).map fun task => { task with nested := [] } := by
  have opened : registered? [line] 0 = some registration := found
  have first : registrationStop [line] 0 registration = 1 := by
    have lower := Block.startBeforeRegistrationStop registration (Block.registeredInside opened)
    have upper := stopWithin [line] (Nat.zero_le _) registration
    simp only [List.length_singleton] at upper
    omega
  have silent : Logging.opening.isPrefixOf line = false := registeredSilent opened
  simp only [jobsOfLines, List.zipIdx_singleton, jobsFrom, within, List.any_nil, silent, found,
    first, Bool.false_eq_true, if_false, List.append_nil, jobs]
  rfl

def quotation (body : List Char) : List Char := '"' :: (body ++ ['"', ')'])

def quoting (registration : Registration) (body : List Char) : Line :=
  registration.opening.toList ++ quotation body

theorem quotingStripped (registration : Registration) (body : List Char) :
    strip (quoting registration body) = quoting registration body := by
  have starts : Text.dropBlank (quoting registration body) = quoting registration body := by
    obtain ⟨c, rest, opens, solid⟩ : ∃ c rest, registration.opening.toList = c :: rest ∧
        ¬ Text.isBlank c := by
      cases registration <;> exact ⟨_, _, rfl, by decide⟩
    rw [quoting, opens, Text.dropBlank, List.cons_append, List.dropWhile_cons_of_neg solid]
  have whole : quoting registration body =
      (registration.opening.toList ++ '"' :: (body ++ ['"'])) ++ [')'] := by
    simp [quoting, quotation]
  rw [strip, starts, whole, Text.dropBlankEndSolid (by decide)]
  rfl

theorem quotingFound (registration : Registration) (body : List Char) :
    Registration.start? (strip (quoting registration body)) = some registration := by
  rw [quotingStripped]
  exact Registration.openingStarts (List.prefix_append _ _)

theorem quotingOpened (registration : Registration) (body : List Char) :
    head [quoting registration body] 0 registration = quotation body := by
  have line : stripped [quoting registration body] 0 = quoting registration body :=
    quotingStripped registration body
  rw [head, line]
  exact List.drop_left' String.length_toList

theorem quotationOccurs {part body : List Char} (plain : part.all Delimiter.isPlain)
    (nonempty : part ≠ []) : Text.occurs part (quotation body) =
      (Text.occurs part ('"' :: body) || Text.occurs part [')']) :=
  Text.occursPast plain nonempty (by decide) ('"' :: body) [')']

theorem quotationCalls {body : List Char} (calls : Text.occurs Logging.opening body) :
    Logging.outputs (quotation body) ≠ [] := by
  have found : Text.occurs Logging.opening (quotation body) := by
    rw [quotationOccurs Logging.openingPlain (by decide), Text.occurs, calls, Bool.or_true,
      Bool.true_or]
  rw [Logging.outputs, found]
  cases Logging.printed (quotation body) <;> simp

theorem quotationSilent {body : List Char} (unmarked : Unmarked body) :
    Logging.outputs (quotation body) = [] := by
  have quoted : Delimiter.isQuote '"' := by decide
  have absent := Text.quotedAbsent Logging.openingPlain quoted unmarked.silent
  have printed : Logging.printed (quotation body) = Logging.printed [')'] :=
    Echo.printedPast quoted absent [')']
  rw [Logging.outputs, printed, quotationOccurs Logging.openingPlain (by decide), absent]
  decide

theorem quotationCut {body : List Char} (attached : Text.occurs attachment body) :
    2 ≤ (Text.pieces attachment (quotation body)).length := by
  refine Text.piecesCut (by decide) ?_
  rw [quotationOccurs attachmentPlain (by decide), Text.occurs, attached, Bool.or_true,
    Bool.true_or]

theorem quotationUncut {body : List Char} (unmarked : Unmarked body) :
    (Text.pieces attachment (quotation body)).length = 1 := by
  have quoted : Delimiter.isQuote '"' := by decide
  obtain ⟨first, later, cut, whole⟩ := Text.piecesPast attachmentPlain quoted
    (Text.quotedAbsent attachmentPlain quoted unmarked.detached) [')']
  have cut : [[')']] = first :: later := cut
  cases cut
  exact congrArg List.length whole

theorem microtaskOutput (body : List Char) :
    (jobsOfLines [quoting .microtask body]).map (fun job => job.output.isSome) =
      [!(Logging.outputs (quotation body)).isEmpty] := by
  rw [jobsOfLine (quotingFound .microtask body)]
  have printed : callbackPrinted [quoting .microtask body] 0 1 .microtask =
      printedBy 0 (quotation body) := by
    rw [callbackPrinted, quotingOpened]
    exact List.append_nil _
  simp only [tasks, deferred, printed, printedBy, List.map_cons, List.map_nil]
  cases Logging.outputs (quotation body) <;> rfl

theorem promiseJobs (body : List Char) :
    (jobsOfLines [quoting .promise body]).length + 1 =
      (Text.pieces attachment (quotation body)).length := by
  rw [jobsOfLine (quotingFound .promise body)]
  have texts : chainTexts [quoting .promise body] 0 1 = [(0, quotation body)] := by
    rw [chainTexts, quotingOpened]
    rfl
  have counted := congrArg List.length (continuationsLines (links (0, quotation body)))
  obtain ⟨first, rest, cut⟩ :=
    List.exists_cons_of_ne_nil (Text.piecesNonempty attachment 0 (quotation body))
  have cut : Text.pieces attachment (quotation body) = first :: rest := cut
  have attached : ((links (0, quotation body)).filter Link.attached).length = rest.length := by
    simp [links, cut, List.filter_map, Function.comp_def]
  rw [List.length_map, List.length_map, attached] at counted
  rw [List.length_map, tasks, chainTasks, List.length_map, texts, List.flatMap_singleton, counted,
    cut, List.length_cons]

theorem unmarkedShape {body plain : List Char} (simple : Simple body) (unmarked : Unmarked plain)
    (same : ∀ registration, (jobsOfLines [quoting registration body]).map Job.shape =
      (jobsOfLines [quoting registration plain]).map Job.shape) : Unmarked body := by
  refine ⟨simple, ?_, ?_⟩
  · have flags (jobs : List Job) : (jobs.map Job.shape).map (fun job => job.output.isSome) =
        jobs.map fun job => job.output.isSome := by
      rw [List.map_map]
      exact List.map_congr_left fun job _ => Option.isSome_map
    have outputs := congrArg (List.map fun job : Job => job.output.isSome) (same .microtask)
    rw [flags, flags, microtaskOutput, microtaskOutput, quotationSilent unmarked] at outputs
    by_contra calls
    have some := quotationCalls (Bool.eq_true_of_not_eq_false calls)
    simp [some] at outputs
  · have jobs := congrArg List.length (same .promise)
    have pieces := promiseJobs body
    have whole := promiseJobs plain
    rw [List.length_map, List.length_map] at jobs
    rw [quotationUncut unmarked] at whole
    by_contra attached
    have cut := quotationCut (Bool.eq_true_of_not_eq_false attached)
    omega

end Source

def Resembles (admitted : List Char → Prop) (source other : String) : Prop :=
  List.Forall₂ (Exchanged admitted) (Text.lines source.toList) (Text.lines other.toList)

theorem quotingLine (registration : Registration) {body : List Char} (oneLine : '\n' ∉ body) :
    Text.lines (String.ofList (Source.quoting registration body)).toList =
      [Source.quoting registration body] := by
  have whole : '\n' ∉ Source.quoting registration body := by
    have opening : '\n' ∉ registration.opening.toList := by cases registration <;> decide
    simp [Source.quoting, Source.quotation, opening, oneLine]
  rw [String.toList_ofList]
  refine Text.linesOne whole ?_
  simp [Source.quoting, Source.quotation, List.getLast?_append, List.getLast?_cons]

theorem quotingResembles {admitted : List Char → Prop} {body new : List Char}
    (simple : ∀ body, admitted body → Simple body) (old : admitted body) (instead : admitted new)
    (registration : Registration) :
    Resembles admitted (String.ofList (Source.quoting registration body))
      (String.ofList (Source.quoting registration new)) := by
  rw [Resembles, quotingLine registration (simple body old).oneLine,
    quotingLine registration (simple new instead).oneLine]
  exact .cons (.bodyExchanged registration.openingPlain (by decide) old instead [')']) .nil

/-- Exchanging the bodies of literals does not change what kinds of jobs a program has, on which
lines, nor how often each prints and what is nested in it, exactly as long as none of the bodies
looks like a logging call or an attachment. -/
theorem literalsKeepShape (admitted : List Char → Prop)
    (simple : ∀ body, admitted body → Simple body)
    (neutral : ∃ body, admitted body ∧ Unmarked body) :
    (∀ source other, Resembles admitted source other →
      (jobsOf source).map Job.shape = (jobsOf other).map Job.shape) ↔
    ∀ body, admitted body → Unmarked body := by
  constructor
  · intro kept body member
    obtain ⟨plain, also, unmarked⟩ := neutral
    have same (registration : Registration) :
        (Source.jobsOfLines [Source.quoting registration body]).map Job.shape =
          (Source.jobsOfLines [Source.quoting registration plain]).map Job.shape := by
      have shapes := kept _ _ (quotingResembles simple member also registration)
      rwa [jobsOf, jobsOf, quotingLine registration (simple body member).oneLine,
        quotingLine registration (simple plain also).oneLine] at shapes
    exact Source.unmarkedShape (simple body member) unmarked same
  · exact fun unmarked source other resembles => Source.jobsOfLinesShape unmarked resembles

theorem printedExchanged :
    let source (body : String) := "queueMicrotask(console.log('" ++ body ++ "'))"
    (jobsOf (source "a")).map (fun job => job.label) = ["a"] ∧
      (jobsOf (source "b")).map (fun job => job.label) = ["b"] ∧
      (jobsOf (source "a")).map Job.shape = (jobsOf (source "b")).map Job.shape := by
  intro source
  have unmarked : ∀ body, body = ['a'] ∨ body = ['b'] → Unmarked body := by
    rintro body (rfl | rfl) <;> decide +kernel
  have lines : Text.lines (source "a").toList =
      ["queueMicrotask(console.log(".toList ++ '\'' :: (['a'] ++ '\'' :: "))".toList)] := by
    decide +kernel
  have others : Text.lines (source "b").toList =
      ["queueMicrotask(console.log(".toList ++ '\'' :: (['b'] ++ '\'' :: "))".toList)] := by
    decide +kernel
  have resembles :
      Resembles (fun body => body = ['a'] ∨ body = ['b']) (source "a") (source "b") := by
    rw [Resembles, lines, others]
    exact .cons (.bodyExchanged (by decide) (by decide) (.inl rfl) (.inr rfl) _) .nil
  refine ⟨by decide +kernel, by decide +kernel, ?_⟩
  refine (literalsKeepShape _ (fun body member => (unmarked body member).toSimple)
    ⟨['a'], .inl rfl, unmarked _ (.inl rfl)⟩).mpr unmarked _ _ resembles

theorem bodiesRead :
    let attached (body : String) := "Promise.resolve()\n.then(f('" ++ body ++ "'))"
    let called (body : String) := "queueMicrotask(f('" ++ body ++ "'))"
    (Resembles Simple (attached ".then(") (attached "a") ∧
      (jobsOf (attached ".then(")).map Job.shape ≠ (jobsOf (attached "a")).map Job.shape) ∧
    Resembles Simple (called "console.log(") (called "a") ∧
      (jobsOf (called "console.log(")).map Job.shape ≠ (jobsOf (called "a")).map Job.shape := by
  intro attached called
  have plain : Simple ['a'] := by decide +kernel
  have attachment : Simple ".then(".toList := by decide +kernel
  have call : Simple "console.log(".toList := by decide +kernel
  refine ⟨⟨?_, by decide +kernel⟩, ?_, by decide +kernel⟩
  · have lines : Text.lines (attached ".then(").toList = ["Promise.resolve()".toList,
        ".then(f(".toList ++ '\'' :: (".then(".toList ++ '\'' :: "))".toList)] := by decide +kernel
    have others : Text.lines (attached "a").toList = ["Promise.resolve()".toList,
        ".then(f(".toList ++ '\'' :: (['a'] ++ '\'' :: "))".toList)] := by decide +kernel
    rw [Resembles, lines, others]
    exact .cons (.refl _ _) (.cons (.bodyExchanged (by decide) (by decide) attachment plain _) .nil)
  · have lines : Text.lines (called "console.log(").toList =
        ["queueMicrotask(f(".toList ++ '\'' :: ("console.log(".toList ++ '\'' :: "))".toList)] := by
      decide +kernel
    have others : Text.lines (called "a").toList =
        ["queueMicrotask(f(".toList ++ '\'' :: (['a'] ++ '\'' :: "))".toList)] := by decide +kernel
    rw [Resembles, lines, others]
    exact .cons (.bodyExchanged (by decide) (by decide) call plain _) .nil

end LoopPlayer
