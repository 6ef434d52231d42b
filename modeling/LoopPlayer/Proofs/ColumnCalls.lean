import LoopPlayer.Proofs.Echoes
import LoopPlayer.Proofs.SourceOrder

/-! Calls in the first column. A line that starts with a call is a job of its own, unless a timer has
claimed it, and the job prints only what the first of its calls with a literal says. As a line of a
callback's body it prints what all of them say. So the two agree on a line as long as no more than one
of its calls has a literal. -/
namespace LoopPlayer
open Text (Line strip)

theorem flatMapOnly {α β : Type} [DecidableEq α] {all : List α} (distinct : all.Nodup) {f : α → List β}
    {only : α} (others : ∀ a ∈ all, a ≠ only → f a = []) :
    all.flatMap f = if only ∈ all then f only else [] := by
  induction distinct with
  | nil => rfl
  | @cons a rest apart _ ih =>
    have later := ih fun b member => others b (List.mem_cons_of_mem a member)
    rw [List.flatMap_cons, later]
    by_cases here : a = only
    · subst here
      have gone : a ∉ rest := fun member => apart a member rfl
      rw [if_neg gone, if_pos List.mem_cons_self, List.append_nil]
    · have absent : f a = [] := others a List.mem_cons_self here
      have still : only ∈ a :: rest ↔ only ∈ rest := by simp [Ne.symm here]
      rw [absent, List.nil_append]
      exact if_congr still.symm rfl rfl

namespace Logging

theorem openingOccurs {text : List Char} (opens : opening <+: text) : Text.occurs opening text := by
  cases text with
  | nil => exact absurd (List.prefix_nil.mp opens) (by decide)
  | cons c rest =>
    rw [Text.occurs, List.isPrefixOf_iff_prefix.mpr opens]
    exact Bool.true_or _

theorem openingStripped {line : Line} (opens : opening <+: line) : opening <+: strip line := by
  obtain ⟨rest, rfl⟩ := opens
  have started : Text.dropBlank (opening ++ rest) = opening ++ rest :=
    List.dropWhile_cons_of_neg (by decide)
  have ended : Text.dropBlankEnd ("console.log".toList ++ '(' :: rest) =
      "console.log".toList ++ '(' :: Text.dropBlankEnd rest :=
    Text.dropBlankEndSolid (by decide) _ rest
  refine ⟨Text.dropBlankEnd rest, ?_⟩
  rw [strip, started]
  exact ended.symm

theorem outputsFirst {text : List Char} (calls : Text.occurs opening text) :
    (outputs text).take 1 = [firstOutput text] ∧
      ((outputs text).length ≤ 1 ↔ (printed text).length ≤ 1) := by
  rw [outputs, firstOutput, calls, Bool.and_true]
  cases printed text with
  | nil => exact ⟨rfl, by decide⟩
  | cons said others => exact ⟨rfl, Iff.rfl⟩

end Logging

def Job.atOnce (index : Nat) (job : Job) : Bool := job.lane == .callStack && job.line == index + 1

namespace Source
open Block (parts)

variable {lines : List Line} {index : Nat}

theorem jobsAtAtOnce (opens : Logging.opening <+: lines[index]?.getD []) (other : Nat) :
    (jobsAt lines other).filter (Job.atOnce index) =
      if other = index then [immediate (lines[index]?.getD []) index] else [] := by
  by_cases same : other = index
  · subst same
    rw [jobsAt, if_pos (List.isPrefixOf_iff_prefix.mpr opens), if_pos rfl]
    exact List.filter_cons_of_pos (by simp [Job.atOnce, immediate])
  · rw [if_neg same, List.filter_eq_nil_iff]
    intro job member runs
    obtain ⟨lane, line⟩ : job.lane = .callStack ∧ job.line = index + 1 := by
      simpa [Job.atOnce] using runs
    unfold jobsAt at member
    split at member
    · obtain rfl := List.mem_singleton.mp member
      have placed : ((other : Int) + 1) = index + 1 := line
      omega
    · split at member
      · cases member
      · next registration found =>
        obtain ⟨task, own, rfl⟩ := List.mem_map.mp member
        have deferred : registration.lane = .callStack := (tasksLane own).symm.trans lane
        cases registration <;> cases deferred

theorem jobsAtOnce (inside : index < lines.length)
    (opens : Logging.opening <+: lines[index]?.getD []) :
    (jobsOfLines lines).filter (Job.atOnce index) =
      if heard lines index then [immediate (lines[index]?.getD []) index] else [] := by
  have reports := jobsAtAtOnce opens
  have distinct : ((List.range lines.length).filter (heard lines)).Nodup :=
    List.nodup_range.filter _
  have listed : index ∈ (List.range lines.length).filter (heard lines) ↔ heard lines index := by
    rw [List.mem_filter, List.mem_range]
    exact and_iff_right inside
  rw [← reportedAll, reportedHeard (Nat.le_refl _), List.filter_flatMap,
    flatMapOnly distinct fun other _ different => (reports other).trans (if_neg different)]
  exact if_congr listed ((reports index).trans (if_pos rfl)) rfl

theorem printedByOn (index other : Nat) (text : List Char) :
    (printedBy other text).filter (fun entry => entry.1 == index) =
      if other = index then printedBy other text else [] := by
  have placed : ∀ entry ∈ printedBy other text, entry.1 = other := by
    intro entry member
    obtain ⟨said, -, rfl⟩ := List.mem_map.mp member
    rfl
  split
  · next same =>
    exact List.filter_eq_self.mpr fun entry member =>
      beq_iff_eq.mpr ((placed entry member).trans same)
  · next different =>
    exact List.filter_eq_nil_iff.mpr fun entry member here =>
      different ((placed entry member).symm.trans (beq_iff_eq.mp here))

theorem bodyLinePrinted {start upTo : Nat} (registration : Registration)
    (own : .line index ∈ parts lines (start + 1) upTo) :
    (callbackPrinted lines start upTo registration).filter (fun entry => entry.1 == index) =
      printedBy index (stripped lines index) := by
  have member : index ∈ bodyLines lines start upTo := bodyLine.mpr own
  have below : start ≠ index := Nat.ne_of_lt (bodyLineBounds member).1
  have distinct : (bodyLines lines start upTo).Nodup :=
    (bodyLinesOrder lines start upTo).imp Nat.ne_of_lt
  have alone (other : Nat) :
      (printedBy other (stripped lines other)).filter (fun entry => entry.1 == index) =
        if other = index then printedBy other (stripped lines other) else [] :=
    printedByOn index other _
  rw [callbackPrintedRead, texts, List.flatMap_cons, List.filter_append, List.flatMap_map,
    List.filter_flatMap, printedByOn, if_neg below, List.nil_append]
  rw [flatMapOnly distinct fun other _ different => (alone other).trans (if_neg different),
    if_pos member, alone, if_pos rfl]

end Source

/-- A line that starts with a call runs at once as one job, unless a timer has claimed it, and prints
the first of the texts that it prints as a line of a callback's body. These are all of them exactly
when no more than one call on the line has a literal. -/
theorem columnCallPrintsFirst (source : String) (index : Nat) (line : Line)
    (found : (Text.lines source.toList)[index]? = some line) (opens : Logging.opening <+: line) :
    let lines := Text.lines source.toList
    let claimed := (claimedBlocks source).any (Source.covers index)
    let atOnce := (jobsOf source).filter (Job.atOnce index)
    let texts := (Logging.outputs (strip line)).map String.ofList
    (atOnce.map fun job => job.toTask.outputs) = (if claimed then [] else [texts.take 1]) ∧
      ((∀ job ∈ atOnce, job.toTask.outputs = texts) ↔
        claimed ∨ (Logging.printed (strip line)).length ≤ 1) ∧
      ∀ start upTo registration, .line index ∈ Block.parts lines (start + 1) upTo →
        (Source.callbackPrinted lines start upTo registration).filter
            (fun entry => entry.1 == index) =
          (Logging.outputs (strip line)).map fun text => (index, text) := by
  intro lines claimed atOnce texts
  have whole : lines[index]?.getD [] = line := by rw [found, Option.getD_some]
  have inside : index < lines.length := (List.getElem?_eq_some_iff.mp found).1
  obtain ⟨first, one⟩ := Logging.outputsFirst
    (Logging.openingOccurs (Logging.openingStripped opens))
  have heard : Source.heard lines index = !claimed := by
    rw [Source.heard, Source.claimed, Source.reportedAll]
    rfl
  have jobs : atOnce = if claimed then [] else [Source.immediate line index] := by
    have reports := Source.jobsAtOnce inside (whole ▸ opens)
    rw [whole, heard] at reports
    refine reports.trans ?_
    cases claimed <;> rfl
  have prints : (Source.immediate line index).toTask.outputs = texts.take 1 := by
    rw [← List.map_take, first]
    rfl
  have all : texts.take 1 = texts ↔ (Logging.printed (strip line)).length ≤ 1 := by
    rw [List.take_eq_self_iff, List.length_map]
    exact one
  refine ⟨?_, ?_, fun start upTo registration own => ?_⟩
  · rw [jobs, ← prints]
    cases claimed <;> rfl
  · rw [jobs]
    cases claimed with
    | true => simp
    | false => simpa [prints] using all
  · rw [Source.bodyLinePrinted registration own, Source.stripped, whole]
    rfl

def doubledCall : String :=
  "setTimeout(() => \x7b\nconsole.log('a');console.log('b');\n\x7d, 0);"

theorem doubledCallPrinted :
    let lines := Text.lines doubledCall.toList
    (((jobsOf doubledCall).filter (Job.atOnce 1)).map fun job => job.toTask.outputs) = [["a"]] ∧
      (Source.callbackPrinted lines 0 3 .timeout).filter (fun entry => entry.1 == 1) =
        [(1, ['a']), (1, ['b'])] := by
  intro lines
  obtain ⟨jobs, -, body⟩ := columnCallPrintsFirst doubledCall 1
    "console.log('a');console.log('b');".toList (by decide +kernel) (by decide +kernel)
  constructor
  · exact jobs.trans (by decide +kernel)
  · exact (body 0 3 .timeout (by decide +kernel)).trans (by decide +kernel)

theorem secondCallMissed :
    let source := "console.log(\"a\");console.log(\"b\");"
    (Text.lines source.toList)[0]? = some source.toList ∧ Logging.opening <+: source.toList ∧
      (((jobsOf source).filter (Job.atOnce 0)).map fun job => job.toTask.outputs) = [["a"]] ∧
      (Logging.outputs (strip source.toList)).map String.ofList = ["a", "b"] := by
  decide +kernel

end LoopPlayer
