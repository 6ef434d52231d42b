import LoopPlayer.Proofs.Shapes

/-! Blanks at the ends of lines. They stand outside all literals and can only lengthen a comment, so
they change no count of delimiters, and all else is sought in stripped lines, but for calls in the
first column. So a trace depends on the stripped lines and on which of them start in the first column
with a call. -/
namespace LoopPlayer
open Text (Line strip dropBlank dropBlankEnd isBlank)

namespace Text

theorem stripBetween (line : Line) :
    ∃ before after, line = before ++ (strip line ++ after) ∧ (∀ c ∈ before, isBlank c) ∧
      ∀ c ∈ after, isBlank c := by
  have ended : dropBlank line = strip line ++ (dropBlank line).rtakeWhile isBlank := by
    have whole := List.takeWhile_append_dropWhile (p := isBlank) (l := (dropBlank line).reverse)
    have reversed := congrArg List.reverse whole
    rw [List.reverse_append, List.reverse_reverse] at reversed
    exact reversed.symm
  refine ⟨line.takeWhile isBlank, (dropBlank line).rtakeWhile isBlank, ?_,
    fun _ => List.mem_takeWhile_imp, fun _ => List.mem_rtakeWhile_imp⟩
  rw [← ended]
  exact List.takeWhile_append_dropWhile.symm

variable {after : List Char} (blank : ∀ c ∈ after, isBlank c)

include blank

theorem stripAppend (line : Line) : strip (line ++ after) = strip line := by
  have ended (text : List Char) : dropBlankEnd (text ++ after) = dropBlankEnd text := by
    have reversed : ∀ c ∈ after.reverse, isBlank c := fun c member =>
      blank c (List.mem_reverse.mp member)
    rw [dropBlankEnd, dropEndWhile, List.reverse_append, List.dropWhile_append_of_pos reversed]
    rfl
  have started : dropBlank (line ++ after) = dropBlank line ++ after ∨
      dropBlank (line ++ after) = [] ∧ dropBlank line = [] := by
    rw [dropBlank, List.dropWhile_append]
    split
    · next gone =>
      exact .inr ⟨List.dropWhile_eq_nil_iff.mpr blank, List.isEmpty_iff.mp gone⟩
    · exact .inl rfl
  rcases started with kept | ⟨gone, also⟩
  · rw [strip, kept, ended, strip]
  · rw [strip, gone, strip, also]

theorem startsSolid {part : List Char} {c : Char} (solid : isBlank c = false) (line : Line) :
    (part ++ [c]).isPrefixOf (line ++ after) = (part ++ [c]).isPrefixOf line := by
  rw [Bool.eq_iff_iff, List.isPrefixOf_iff_prefix, List.isPrefixOf_iff_prefix]
  refine ⟨fun ⟨rest, whole⟩ => ?_, fun starts => starts.trans (List.prefix_append _ _)⟩
  rcases List.append_eq_append_iff.mp whole with ⟨more, rfl, -⟩ | ⟨more, reaches, rfl⟩
  · exact List.prefix_append _ _
  · rcases List.eq_nil_or_concat' more with rfl | ⟨between, d, rfl⟩
    · rw [List.append_nil] at reaches
      exact ⟨[], by rw [reaches, List.append_nil]⟩
    · rw [← List.append_assoc] at reaches
      cases List.append_inj_right' reaches rfl
      rw [blank c (by simp)] at solid
      cases solid

end Text

def Trailed (text longer : List Char) : Prop :=
  ∃ blanks, (∀ c ∈ blanks, isBlank c) ∧ longer = text ++ blanks

theorem Trailed.cons {text longer : List Char} (c : Char) (trailed : Trailed text longer) :
    Trailed (c :: text) (c :: longer) := by
  obtain ⟨blanks, blank, rfl⟩ := trailed
  exact ⟨blanks, blank, rfl⟩

namespace Delimiter

theorem literalBound {quote : Char} (quoted : isQuote quote) {text : List Char} {length : Nat}
    (closes : literalLength quote text = some length) : length ≤ text.length := by
  obtain ⟨body, more, rfl, ends⟩ := literalSplit quoted closes
  have whole : body ++ quote :: more = (body ++ [quote]) ++ more := by simp
  rw [whole, literalAppend quoted ends more] at closes
  cases closes
  simp

section

variable {quote c : Char} {rest : List Char}

theorem bareClosed (quoted : isQuote quote) {length : Nat}
    (closes : literalLength quote rest = some length) :
    bare (quote :: rest) = bare (rest.drop length) := by
  rw [bare, bareFrom, if_pos quoted, closes]
  exact bareSkip length rest

theorem bareStray (quoted : isQuote quote) (unclosed : literalLength quote rest = none) :
    bare (quote :: rest) = quote :: bare rest := by
  rw [bare, bareFrom, if_pos quoted, unclosed]
  rfl

theorem bareComment (rest : List Char) :
    bare ('/' :: '/' :: rest) = bare (('/' :: rest).dropWhile (· != '\n')) := by
  have whole := List.takeWhile_append_dropWhile (p := (· != '\n')) (l := '/' :: rest)
  have split := (congrArg (List.drop _) whole.symm).trans List.drop_left
  rw [← split, ← bareSkip]
  rfl

theorem bareNext (ordinary : isQuote c = false) (code : ¬ (c = '/' ∧ rest.head? = some '/')) :
    bare (c :: rest) = c :: bare rest := by
  have code : ¬ (c == '/' && rest.head? == some '/') := by simpa using code
  rw [bare, bareFrom, if_neg (by simp [ordinary]), if_neg code]
  rfl

end

variable {after : List Char} (blank : ∀ c ∈ after, isBlank c)

include blank

theorem literalBlank {quote : Char} (quoted : isQuote quote) (text : List Char) :
    literalLength quote (text ++ after) = literalLength quote text := by
  cases closes : literalLength quote text with
  | some length => exact literalAppend quoted closes after
  | none =>
    cases longer : literalLength quote (text ++ after) with
    | none => rfl
    | some length =>
      -- the closing quote is no blank, so the literal closes in the text itself
      obtain ⟨body, rest, whole, ends⟩ := literalSplit quoted longer
      have within : body ++ [quote] <+: text := by
        have starts : (body ++ [quote]).isPrefixOf (text ++ after) :=
          List.isPrefixOf_iff_prefix.mpr ⟨rest, by rw [whole]; simp⟩
        rw [Text.startsSolid blank (Logging.quoteSolid quoted)] at starts
        exact List.isPrefixOf_iff_prefix.mp starts
      obtain ⟨more, rfl⟩ := within
      rw [literalAppend quoted ends more] at closes
      cases closes

theorem bareBlanks : bare after = after := by
  have plain : after.all isPlain := List.all_eq_true.mpr fun c member => blankPlain (blank c member)
  have bares := barePlain plain []
  rw [List.append_nil] at bares
  exact bares.trans (List.append_nil after)

theorem codeAppend {c : Char} {rest : List Char} (code : ¬ (c = '/' ∧ rest.head? = some '/')) :
    ¬ (c = '/' ∧ (rest ++ after).head? = some '/') := by
  rintro ⟨same, second⟩
  cases rest with
  | nil =>
    obtain ⟨more, rfl⟩ := List.head?_eq_some_iff.mp second
    exact absurd (blank '/' (by simp)) (by decide)
  | cons d more => exact code ⟨same, second⟩

theorem commentAppend (rest : List Char)
    (behind : ∀ text : List Char, text.length ≤ rest.length + 1 →
      Trailed (bare text) (bare (text ++ after))) :
    Trailed (bare ('/' :: '/' :: rest)) (bare ('/' :: '/' :: rest ++ after)) := by
  have longer := bareComment (rest ++ after)
  rw [← List.cons_append, List.dropWhile_append] at longer
  rw [bareComment rest, List.cons_append, longer]
  split
  · next commented =>
    have blanks : ∀ c ∈ after.dropWhile (· != '\n'), isBlank c := fun c member =>
      blank c ((List.dropWhile_sublist _).subset member)
    rw [List.isEmpty_iff.mp commented, bareBlanks blanks]
    exact ⟨_, blanks, rfl⟩
  · exact behind _ (List.length_dropWhile_le _ _)

theorem bareTrailed (text : List Char) : Trailed (bare text) (bare (text ++ after)) := by
  induction size : text.length using Nat.strong_induction_on generalizing text with
  | _ size ih =>
    subst size
    cases text with
    | nil => exact ⟨after, blank, bareBlanks blank⟩
    | cons c rest =>
      rw [List.cons_append]
      cases quoted : isQuote c with
      | true =>
        have same := literalBlank blank quoted rest
        cases closes : literalLength c rest with
        | none =>
          rw [closes] at same
          rw [bareStray quoted closes, bareStray quoted same]
          exact (ih _ (Nat.lt_succ_self _) rest rfl).cons c
        | some length =>
          rw [closes] at same
          have bound := literalBound quoted closes
          have shorter : (rest.drop length).length < (c :: rest).length := by
            rw [List.length_drop, List.length_cons]
            omega
          rw [bareClosed quoted closes, bareClosed quoted same, List.drop_append_of_le_length bound]
          exact ih _ shorter _ rfl
      | false =>
        by_cases comment : c = '/' ∧ rest.head? = some '/'
        · obtain ⟨rfl, second⟩ := comment
          obtain ⟨more, rfl⟩ := List.head?_eq_some_iff.mp second
          exact commentAppend blank more fun text short => ih _ (Nat.lt_succ_of_le short) text rfl
        · rw [bareNext quoted comment, bareNext quoted (codeAppend blank comment)]
          exact (ih _ (Nat.lt_succ_self _) rest rfl).cons c

end Delimiter

theorem Delimiter.countStripped {counted : Char → Bool}
    (solid : ∀ c, isBlank c → counted c = false) (line : Line) :
    (bare line).countP counted = (bare (strip line)).countP counted := by
  have none {blanks : List Char} (blank : ∀ c ∈ blanks, isBlank c) : blanks.countP counted = 0 :=
    List.countP_eq_zero.mpr fun c member => by simp [solid c (blank c member)]
  obtain ⟨before, after, whole, blankBefore, blankAfter⟩ := Text.stripBetween line
  have plain : before.all isPlain :=
    List.all_eq_true.mpr fun c member => blankPlain (blankBefore c member)
  obtain ⟨more, blanks, bares⟩ := bareTrailed blankAfter (strip line)
  have opened : bare line = before ++ (bare (strip line) ++ more) := by
    rw [← bares]
    conv_lhs => rw [whole]
    exact barePlain plain _
  rw [opened, List.countP_append, List.countP_append, none blankBefore, none blanks, Nat.zero_add,
    Nat.add_zero]

theorem Delimiter.blankUncounted {one other : Char} (solid : ¬ isBlank one)
    (otherSolid : ¬ isBlank other) (c : Char) (blank : isBlank c) :
    (c == one || c == other) = false := by
  refine Bool.or_eq_false_iff.mpr ⟨beq_false_of_ne ?_, beq_false_of_ne ?_⟩
  · exact fun same => solid (same ▸ blank)
  · exact fun same => otherSolid (same ▸ blank)

theorem Block.layoutStripped {line other : Line} (same : strip line = strip other) :
    layout line = layout other := by
  have opener : ∀ c, isBlank c → Delimiter.isOpener c = false :=
    Delimiter.blankUncounted (by decide) (by decide)
  have closer : ∀ c, isBlank c → Delimiter.isCloser c = false :=
    Delimiter.blankUncounted (by decide) (by decide)
  have opened : Delimiter.opened line = Delimiter.opened other := by
    rw [Delimiter.opened, Delimiter.countStripped opener, same, ← Delimiter.countStripped opener]
    rfl
  have closed : Delimiter.closed line = Delimiter.closed other := by
    rw [Delimiter.closed, Delimiter.countStripped closer, same, ← Delimiter.countStripped closer]
    rfl
  rw [layout, layout, opened, closed, attaches, attaches, same]

namespace Source
open Block (registered? registrationStop layout)

section

variable {lines others : List Line} (same : lines.map strip = others.map strip)

include same

theorem layoutsStripped : lines.map layout = others.map layout := by
  have lineByLine : List.Forall₂ (fun line other => strip line = strip other) lines others := by
    rw [← List.forall₂_map_right_iff, ← List.forall₂_map_left_iff, same]
    exact List.forall₂_same.mpr fun _ _ => rfl
  exact mapAgree lineByLine fun _ _ => Block.layoutStripped

theorem strippedAlike : stripped lines = stripped others := by
  have bare (lines : List Line) (index : Nat) :
      stripped lines index = ((lines.map strip)[index]?).getD [] := by
    rw [stripped, List.getElem?_map]
    cases lines[index]? <;> rfl
  funext index
  rw [bare, bare, same]

theorem tasksStripped (start upTo : Nat) (registration : Registration) :
    tasks lines start upTo registration = tasks others start upTo registration := by
  have parts := Block.partsLayout (layoutsStripped same)
  have stripped := strippedAlike same
  cases registration <;>
    simp only [tasks, chainTasks, chainTexts, callbackPrinted, head, parts, stripped]

theorem jobsStripped (start upTo : Nat) (registration : Registration) :
    jobs lines start upTo registration = jobs others start upTo registration := by
  have nested := nestedBlocksLayout (layoutsStripped same)
  have tasks : tasks lines = tasks others := funext₃ (tasksStripped same)
  simp only [jobs, tasks, nested]

variable (column : lines.map Logging.opening.isPrefixOf = others.map Logging.opening.isPrefixOf)

include column

theorem jobsAtStripped (index : Nat) : jobsAt lines index = jobsAt others index := by
  have layouts := layoutsStripped same
  have starts (lines : List Line) : Logging.opening.isPrefixOf (lines[index]?.getD []) =
      ((lines.map Logging.opening.isPrefixOf)[index]?).getD false := by
    rw [List.getElem?_map]
    cases lines[index]? <;> rfl
  have line : strip (lines[index]?.getD []) = strip (others[index]?.getD []) :=
    congrFun (strippedAlike same) index
  have atOnce : immediate (lines[index]?.getD []) index = immediate (others[index]?.getD []) index := by
    rw [immediate, immediate, line]
  have jobs : jobs lines = jobs others := funext₃ (jobsStripped same)
  rw [jobsAt, jobsAt, starts, starts, column, atOnce, Block.registeredLayout layouts]
  simp only [Block.registrationStopLayout layouts, jobs]

theorem jobsOfLinesStripped : jobsOfLines lines = jobsOfLines others := by
  have layouts := layoutsStripped same
  have blocks (job : Job) : claimedBy lines job = claimedBy others job := by
    simp only [claimedBy, timerBlocks, Block.stopLayout layouts, nestedBlocksLayout layouts]
  have reported (count : Nat) : reported lines count = reported others count := by
    induction count with
    | zero => rfl
    | succ index ih =>
      rw [reportedNext, reportedNext, claimed, claimed, ih, jobsAtStripped same column,
        List.flatMap_congr fun job _ => blocks job]
  rw [← reportedAll, ← reportedAll, Block.lengthLayout layouts, reported]

end

end Source

theorem Logging.startsLine {after : List Char} (blank : ∀ c ∈ after, isBlank c) (line : Line) :
    opening.isPrefixOf (line ++ after) = opening.isPrefixOf line := by
  have ends : opening = "console.log".toList ++ ['('] := by decide
  rw [ends]
  exact Text.startsSolid blank (by decide) line

namespace Trailed

variable {text longer : List Char}

theorem stripAgrees (trailed : Trailed text longer) : strip text = strip longer := by
  obtain ⟨blanks, blank, rfl⟩ := trailed
  exact (Text.stripAppend blank text).symm

theorem openingAgrees (trailed : Trailed text longer) :
    Logging.opening.isPrefixOf text = Logging.opening.isPrefixOf longer := by
  obtain ⟨blanks, blank, rfl⟩ := trailed
  exact (Logging.startsLine blank text).symm

theorem dropReturn (line : List Char) : Trailed (Text.dropReturn line) line := by
  rw [Text.dropReturn]
  split
  · next ends =>
    obtain ⟨before, rfl⟩ := List.getLast?_eq_some_iff.mp ends
    rw [List.dropLast_concat]
    exact ⟨['\r'], List.all_eq_true.mp (by decide), rfl⟩
  · exact ⟨[], List.forall_mem_nil _, (List.append_nil line).symm⟩

theorem consFirst (c : Char) {pieces longer : List (List Char)}
    (both : List.Forall₂ Trailed pieces longer) :
    List.Forall₂ Trailed (Text.consFirst c pieces) (Text.consFirst c longer) := by
  cases both with
  | nil => exact .cons ⟨[], List.forall_mem_nil _, rfl⟩ .nil
  | cons first rest => exact .cons (first.cons c) rest

end Trailed

def Text.withReturns (text : List Char) : List Char :=
  text.flatMap fun c => if c = '\n' then ['\r', '\n'] else [c]

theorem Text.returnsTrail (text : List Char) :
    List.Forall₂ Trailed (pieces ['\n'] text) (pieces ['\n'] (withReturns text)) := by
  induction text with
  | nil => exact .cons ⟨[], List.forall_mem_nil _, rfl⟩ .nil
  | cons c rest ih =>
    by_cases newline : c = '\n'
    · subst newline
      exact .cons ⟨['\r'], List.all_eq_true.mp (by decide), rfl⟩ ih
    · have other : ('\n' == c) = false := by simpa using Ne.symm newline
      have whole : withReturns (c :: rest) = c :: withReturns rest := by
        rw [withReturns, List.flatMap_cons, if_neg newline]
        rfl
      have cut (text : List Char) : pieces ['\n'] (c :: text) = consFirst c (pieces ['\n'] text) := by
        rw [pieces, piecesFrom, List.isPrefixOf, other]
        rfl
      rw [whole, cut, cut]
      exact Trailed.consFirst c ih

theorem traceStripped {source other : String}
    (same : (Text.lines source.toList).map strip = (Text.lines other.toList).map strip)
    (column : (Text.lines source.toList).map Logging.opening.isPrefixOf =
      (Text.lines other.toList).map Logging.opening.isPrefixOf) :
    traceOf source = traceOf other := by
  rw [traceOf, traceOf, jobsOf, jobsOf, Source.jobsOfLinesStripped same column]

theorem traceTrailed {source longer : String}
    (trailed : List.Forall₂ Trailed (Text.pieces ['\n'] source.toList)
      (Text.pieces ['\n'] longer.toList)) :
    traceOf source = traceOf longer := by
  refine traceStripped ?_ ?_
  all_goals
    rw [Text.lines, Text.lines, List.map_map, List.map_map]
    refine mapAgree trailed fun text longer trailed => ?_
  · exact (Trailed.dropReturn text).stripAgrees.trans
      (trailed.stripAgrees.trans (Trailed.dropReturn longer).stripAgrees.symm)
  · exact (Trailed.dropReturn text).openingAgrees.trans
      (trailed.openingAgrees.trans (Trailed.dropReturn longer).openingAgrees.symm)

/-- Programs have the same trace when their lines agree one by one but for blanks at their ends, and
agree on which lines start in the first column with a call. So blanks behind any lines change nothing,
nor do carriage returns before the newlines. -/
theorem blanksChangeNothing :
    (∀ source other : String,
      (Text.lines source.toList).map strip = (Text.lines other.toList).map strip →
      (Text.lines source.toList).map Logging.opening.isPrefixOf =
        (Text.lines other.toList).map Logging.opening.isPrefixOf →
      traceOf source = traceOf other) ∧
    (∀ source longer : String,
      List.Forall₂ Trailed (Text.pieces ['\n'] source.toList) (Text.pieces ['\n'] longer.toList) →
      traceOf longer = traceOf source) ∧
    ∀ source : String, traceOf (String.ofList (Text.withReturns source.toList)) = traceOf source := by
  refine ⟨fun source other => traceStripped, fun source longer trailed => (traceTrailed trailed).symm,
    fun source => ?_⟩
  have trailed := Text.returnsTrail source.toList
  rw [← String.toList_ofList (l := Text.withReturns source.toList)] at trailed
  exact (traceTrailed trailed).symm

theorem indentedSame :
    let source := "queueMicrotask(f('(\\\n console.log('a');\n\x7d);"
    let other := "\u3000queueMicrotask(f('(\\ \xa0\n\t\tconsole.log('a');\r\r\n\x7d);\x1c"
    let longer := "queueMicrotask(f('(\\\t\n console.log('a'); \r\n\x7d);\u2003"
    (Text.lines source.toList).map strip = (Text.lines other.toList).map strip ∧
      traceOf source = traceOf other ∧ traceOf longer = traceOf source ∧
      traceOf (String.ofList (Text.withReturns longer.toList)) = traceOf longer ∧
      (traceOf source).map Step.output = [none, none, some "a"] := by
  intro source other longer
  have same : (Text.lines source.toList).map strip = (Text.lines other.toList).map strip := by
    decide +kernel
  have column : (Text.lines source.toList).map Logging.opening.isPrefixOf =
      (Text.lines other.toList).map Logging.opening.isPrefixOf := by decide +kernel
  have pieces : Text.pieces ['\n'] source.toList =
      ["queueMicrotask(f('(\\".toList, " console.log('a');".toList, "\x7d);".toList] := by
    decide +kernel
  have others : Text.pieces ['\n'] longer.toList =
      ["queueMicrotask(f('(\\\t".toList, " console.log('a'); \r".toList, "\x7d);\u2003".toList] := by
    decide +kernel
  have trailed : List.Forall₂ Trailed (Text.pieces ['\n'] source.toList)
      (Text.pieces ['\n'] longer.toList) := by
    rw [pieces, others]
    exact .cons ⟨['\t'], List.all_eq_true.mp (by decide), by decide⟩
      (.cons ⟨[' ', '\r'], List.all_eq_true.mp (by decide), by decide⟩
        (.cons ⟨['\u2003'], List.all_eq_true.mp (by decide), by decide⟩ .nil))
  exact ⟨same, blanksChangeNothing.1 source other same column,
    blanksChangeNothing.2.1 source longer trailed, blanksChangeNothing.2.2 longer, by decide +kernel⟩

end LoopPlayer
