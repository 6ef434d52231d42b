import LoopPlayer.Proofs.Literals

/-! What calls make of their arguments. Delimiters are counted past whole literals, with what is
escaped in them, but a call reads its literal up to the next quote of the same kind. And the texts
that a line prints are those of its literals; a call without one adds nothing to them. -/
namespace LoopPlayer
open Text (isBlank occurs)
open Delimiter (isQuote literalLength)

/-- What stands between the quotes of a literal: characters other than its quote and the backslash,
and pairs of a backslash and any character that does not end the line. -/
inductive LiteralBody (quote : Char) : List Char → Prop where
  | done : LiteralBody quote []
  | character {c : Char} {rest : List Char} (other : c ≠ quote) (unescaped : c ≠ '\\')
      (tail : LiteralBody quote rest) : LiteralBody quote (c :: rest)
  | escape {c : Char} {rest : List Char} (oneLine : c ≠ '\n') (tail : LiteralBody quote rest) :
      LiteralBody quote ('\\' :: c :: rest)

theorem Delimiter.literalEscaped {c : Char} (oneLine : c ≠ '\n') (quote : Char) (text : List Char) :
    literalLength quote ('\\' :: c :: text) = (literalLength quote text).map (· + 2) := by
  have line : ¬ (c == '\n') := by simpa using oneLine
  rw [literalLength, if_pos (beq_self_eq_true _), if_neg line]

namespace LiteralBody

variable {quote : Char} {body : List Char}

theorem literalLengthBody (quoted : isQuote quote) (literal : LiteralBody quote body)
    (rest : List Char) :
    literalLength quote (body ++ quote :: rest) = some (body.length + 1) := by
  induction literal with
  | done => exact Delimiter.literalClosed quoted rest
  | character other unescaped _ ih =>
    rw [List.cons_append, Delimiter.literalNext unescaped other, ih]
    rfl
  | escape oneLine _ ih =>
    rw [List.cons_append, List.cons_append, Delimiter.literalEscaped oneLine, ih]
    rfl

theorem ofRead (quoted : isQuote quote) : {body : List Char} →
    literalLength quote (body ++ [quote]) = some (body.length + 1) → LiteralBody quote body
  | [], _ => .done
  | c :: rest, closes => by
    by_cases own : c = quote
    · rw [own, List.cons_append, Delimiter.literalClosed quoted] at closes
      simp at closes
    by_cases escaped : c = '\\'
    · subst escaped
      cases rest with
      | nil =>
        have line : quote ≠ '\n' := by rintro rfl; exact absurd quoted (by decide)
        simp [literalLength, line] at closes
      | cons d rest =>
        by_cases line : d = '\n'
        · simp [literalLength, line] at closes
        · rw [List.cons_append, List.cons_append, Delimiter.literalEscaped line,
            Option.map_eq_some_iff] at closes
          obtain ⟨length, later, same⟩ := closes
          obtain rfl : length = rest.length + 1 := by simpa using same
          exact .escape line (ofRead quoted later)
    · rw [List.cons_append, Delimiter.literalNext escaped own, Option.map_eq_some_iff] at closes
      obtain ⟨length, later, same⟩ := closes
      obtain rfl : length = rest.length + 1 := by simpa using same
      exact .character own escaped (ofRead quoted later)

theorem readIff (quoted : isQuote quote) :
    literalLength quote (body ++ [quote]) = some (body.length + 1) ↔ LiteralBody quote body :=
  ⟨ofRead quoted, fun literal => literal.literalLengthBody quoted []⟩

theorem headUnquoted (quoted : isQuote quote) (literal : LiteralBody quote body) :
    body.head? ≠ some quote := by
  cases literal with
  | done => simp
  | character other _ _ => simpa using other
  | escape _ _ => simpa using Ne.symm (Delimiter.quoteUnescaped quoted)

end LiteralBody

namespace Logging

theorem callNonempty {text said after : List Char} (call : Call text said after) : said ≠ [] := by
  cases call with
  | mk _ _ _ spoken => exact spoken.nonempty

theorem printedNonempty {skip : Nat} {text said : List Char} (member : said ∈ printedFrom skip text) :
    said ≠ [] := by
  induction text generalizing skip with
  | nil => cases skip <;> cases member
  | cons c rest ih =>
    cases skip with
    | succ skip => exact ih member
    | zero =>
      rw [printedFrom] at member
      split at member
      · next first length called =>
        rcases List.mem_cons.mp member with rfl | later
        · exact callNonempty (callSound called).1
        · exact ih later
      · exact ih member

theorem callFirst {text said after : List Char} (call : Call text said after) :
    firstOutput text = said ∧ (outputs text).head? = some said := by
  have whole := printedCall call
  rw [firstOutput, outputs, whole]
  exact ⟨rfl, rfl⟩

theorem outputsNonempty {text said : List Char} (member : said ∈ outputs text) : said ≠ [] := by
  rw [outputs] at member
  split at member
  · rw [List.mem_singleton.mp member]
    decide
  · exact printedNonempty member

theorem firstNonempty (text : List Char) : firstOutput text ≠ [] := by
  rw [firstOutput]
  cases first : (printed text).head? with
  | none => decide
  | some said => exact printedNonempty (List.mem_of_head? first)

theorem cutAtQuote (quote : Char) (body rest : List Char) :
    ∃ after, body ++ quote :: rest = body.takeWhile (· != quote) ++ quote :: after := by
  induction body with
  | nil => exact ⟨rest, rfl⟩
  | cons c body ih =>
    by_cases own : c = quote
    · exact ⟨body ++ quote :: rest, by simp [own]⟩
    · obtain ⟨after, whole⟩ := ih
      exact ⟨after, by simp [own, whole]⟩

theorem literalCall {quote : Char} {body blanks : List Char} (quoted : isQuote quote)
    (literal : LiteralBody quote body) (nonempty : body ≠ []) (oneLine : '\n' ∉ body)
    (blank : ∀ c ∈ blanks, isBlank c) (rest : List Char) :
    ∃ after, Call (opening ++ (blanks ++ quote :: (body ++ quote :: rest)))
      (body.takeWhile (· != quote)) after := by
  have spoken : Spoken quote (body.takeWhile (· != quote)) := by
    refine ⟨?_, fun member => ?_, fun member => oneLine ((List.takeWhile_sublist _).subset member)⟩
    · cases body with
      | nil => exact absurd rfl nonempty
      | cons c rest =>
        have other : c ≠ quote := fun same => literal.headUnquoted quoted (by rw [same]; rfl)
        simp [other]
    · have kept := List.mem_takeWhile_imp (List.mem_of_mem_tail member)
      simp at kept
  obtain ⟨after, whole⟩ := cutAtQuote quote body rest
  exact ⟨after, whole ▸ .mk after blank quoted spoken⟩

/-- A literal behind the opening of a call, blanks between them or not, is counted as one literal. The
call prints it, and prints it first, exactly when it is neither empty nor has its own quote in it;
otherwise it is cut short at that quote, or what is printed is something else. -/
theorem literalPrinted {quote : Char} {body blanks : List Char} (quoted : isQuote quote)
    (literal : LiteralBody quote body) (oneLine : '\n' ∉ body) (blank : ∀ c ∈ blanks, isBlank c)
    (rest : List Char) :
    let text := opening ++ (blanks ++ quote :: (body ++ quote :: rest))
    literalLength quote (body ++ quote :: rest) = some (body.length + 1) ∧
      (firstOutput text = body ↔ body ≠ [] ∧ quote ∉ body) ∧
      ((outputs text).head? = some body ↔ body ≠ [] ∧ quote ∉ body) ∧
      (body ≠ [] → firstOutput text = body.takeWhile (· != quote) ∧
        (outputs text).head? = some (body.takeWhile (· != quote))) := by
  intro text
  have cut (nonempty : body ≠ []) : firstOutput text = body.takeWhile (· != quote) ∧
      (outputs text).head? = some (body.takeWhile (· != quote)) := by
    obtain ⟨after, call⟩ := literalCall quoted literal nonempty oneLine blank rest
    exact callFirst call
  have whole : body.takeWhile (· != quote) = body ↔ quote ∉ body := by
    rw [List.takeWhile_eq_self_iff]
    refine ⟨fun all member => ?_, fun absent c member => ?_⟩
    · simpa using all quote member
    · rw [bne_iff_ne]
      rintro rfl
      exact absent member
  refine ⟨literal.literalLengthBody quoted rest, ?_, ?_, cut⟩
  · constructor
    · intro read
      have nonempty : body ≠ [] := read ▸ firstNonempty text
      exact ⟨nonempty, whole.mp ((cut nonempty).1.symm.trans read)⟩
    · rintro ⟨nonempty, absent⟩
      rw [(cut nonempty).1, whole.mpr absent]
  · constructor
    · intro read
      have nonempty : body ≠ [] := outputsNonempty (List.mem_of_head? read)
      have first := (cut nonempty).2.symm.trans read
      exact ⟨nonempty, whole.mp (Option.some.inj first)⟩
    · rintro ⟨nonempty, absent⟩
      rw [(cut nonempty).2, whole.mpr absent]

theorem otherQuotesPrinted :
    let body := "it's \\`1\\`".toList
    let text := opening ++ ([' ', '\t'] ++ '"' :: (body ++ '"' :: " + f(\"".toList))
    LiteralBody '"' body ∧ firstOutput text = body ∧ (outputs text).head? = some body := by
  intro body text
  have literal : LiteralBody '"' body :=
    (LiteralBody.readIff (by decide)).mp (by decide +kernel)
  have both := literalPrinted (by decide) literal (by decide +kernel)
    (List.all_eq_true.mp (by decide : [' ', '\t'].all isBlank)) " + f(\"".toList
  have printed : body ≠ [] ∧ '"' ∉ body := by decide +kernel
  exact ⟨literal, both.2.1.mpr printed, both.2.2.1.mpr printed⟩

theorem literalsMissed :
    let escaped := "a\\\"b".toList
    LiteralBody '"' escaped ∧ LiteralBody '"' [] ∧
      firstOutput (opening ++ '"' :: (escaped ++ ['"', ')'])) = "a\\".toList ∧
      outputs (opening ++ '"' :: (escaped ++ ['"', ')'])) = ["a\\".toList] ∧
      firstOutput (opening ++ ['"', '"', ')']) = placeholder ∧
      outputs (opening ++ ['"', '"', ')']) = [placeholder] := by
  intro escaped
  exact ⟨(LiteralBody.readIff (by decide)).mp (by decide +kernel), .done, by decide +kernel,
    by decide +kernel, by decide +kernel, by decide +kernel⟩

/-- What a call is given: a literal whose body reads the same in all quotes, or a name. What matters of
a name is that it has neither quotes nor parentheses in it. -/
inductive Argument where
  | literal (quote : Char) (body : List Char)
  | name (text : List Char)
  deriving DecidableEq, Repr

namespace Argument

def text : Argument → List Char
  | literal quote body => quote :: (body ++ [quote])
  | name text => text

def WellFormed : Argument → Prop
  | literal quote body => isQuote quote ∧ Simple body
  | name text => ∀ c ∈ text, isQuote c = false ∧ c ≠ '('

instance : (argument : Argument) → Decidable argument.WellFormed
  | literal _ _ => inferInstanceAs (Decidable (_ ∧ _))
  | name text => List.decidableBAll _ text

def literal? : Argument → Option (List Char)
  | literal _ body => some body
  | name _ => none

def shown (argument : Argument) : List Char := argument.literal?.getD placeholder

def call (argument : Argument) : List Char := opening ++ (argument.text ++ [')', ';'])

end Argument

theorem printedSkips {before : List Char} (other : 'c' ∉ before) (rest : List Char) :
    printed (before ++ rest) = printed rest := by
  induction before with
  | nil => rfl
  | cons d before ih =>
    obtain ⟨unlike, other⟩ := List.ne_and_not_mem_of_not_mem_cons other
    rw [List.cons_append, printedElse, ih other]
    intro said after call
    obtain ⟨more, whole⟩ := List.isPrefixOf_iff_prefix.mp (callStarts call)
    exact unlike (List.cons.inj whole).1

theorem printedClosed {text : List Char} (closed : '(' ∉ text) (rest : List Char) :
    printed (text ++ ';' :: rest) = printed rest := by
  induction text with
  | nil =>
    have other : 'c' ∉ [';'] := by decide
    exact printedSkips other rest
  | cons d text ih =>
    rw [List.cons_append, printedElse]
    · exact ih (List.not_mem_of_not_mem_cons closed)
    · intro said after call
      obtain ⟨more, whole⟩ := List.isPrefixOf_iff_prefix.mp (callStarts call)
      rw [← List.cons_append] at whole
      rcases List.append_eq_append_iff.mp whole with ⟨between, longer, -⟩ | ⟨between, shorter, cut⟩
      · refine closed ?_
        rw [longer]
        exact List.mem_append_left _ (by decide)
      · cases between with
        | nil =>
          refine closed ?_
          rw [← List.append_nil (d :: text), ← shorter]
          decide
        | cons e between =>
          obtain rfl : ';' = e := (List.cons.inj cut).1
          have member : ';' ∈ opening := by
            rw [shorter]
            simp
          exact absurd member (by decide)

theorem printedArgument {argument : Argument} (valid : argument.WellFormed) (rest : List Char) :
    printed (argument.call ++ rest) = argument.literal?.toList ++ printed rest := by
  cases argument with
  | literal quote body =>
    obtain ⟨quoted, simple⟩ := valid
    have spoken := simple.simpleSpoken quoted
    have call := Call.mk (')' :: ';' :: rest) (List.forall_mem_nil _) quoted spoken
    have whole : (Argument.literal quote body).call ++ rest =
        opening ++ ([] ++ quote :: (body ++ quote :: ')' :: ';' :: rest)) := by
      simp [Argument.call, Argument.text]
    have other : 'c' ∉ [')', ';'] := by decide
    rw [whole, printedCall call]
    exact congrArg (body :: ·) (printedSkips other rest)
  | name text =>
    obtain ⟨tail, opens, other⟩ : ∃ tail, opening = 'c' :: tail ∧ 'c' ∉ tail :=
      ⟨opening.tail, by decide, by decide⟩
    have whole : (Argument.name text).call ++ rest =
        opening ++ ((text ++ [')']) ++ ';' :: rest) := by
      simp [Argument.call, Argument.text]
    have closed : '(' ∉ text ++ [')'] := by
      rw [List.mem_append, not_or]
      exact ⟨fun member => (valid '(' member).2 rfl, by decide⟩
    have silent (said after : List Char) : ¬ Call ((Argument.name text).call ++ rest) said after := by
      rw [whole]
      generalize same : opening ++ (text ++ [')'] ++ ';' :: rest) = all
      rintro @⟨blanks, quote, said, after, blank, quoted, spoken⟩
      have absent : quote ∉ text ++ [')'] := by
        rw [List.mem_append, not_or, List.mem_singleton]
        refine ⟨fun member => ?_, fun same => absurd (same ▸ quoted) (by decide)⟩
        rw [(valid quote member).1] at quoted
        cases quoted
      -- the quote stands behind the parenthesis, which is no blank
      obtain ⟨more, longer, -⟩ := soughtPast absent (List.append_cancel_left same)
      exact absurd (blank ')' (by simp [longer])) (by decide)
    rw [whole, opens, List.cons_append] at silent
    rw [whole, opens, List.cons_append, printedElse silent, printedSkips other, printedClosed closed]
    rfl

def callTexts (arguments : List Argument) : List Char := arguments.flatMap Argument.call

theorem printedArguments {arguments : List Argument}
    (valid : ∀ argument ∈ arguments, argument.WellFormed) :
    printed (callTexts arguments) = arguments.filterMap Argument.literal? := by
  induction arguments with
  | nil => rfl
  | cons argument rest ih =>
    obtain ⟨first, valid⟩ := List.forall_mem_cons.mp valid
    rw [callTexts, List.flatMap_cons, printedArgument first, List.filterMap_cons]
    have later : printed (rest.flatMap Argument.call) = _ := ih valid
    rw [later]
    cases argument.literal? <;> rfl

theorem callTextsOccur (arguments : List Argument) :
    occurs opening (callTexts arguments) = !arguments.isEmpty := by
  cases arguments with
  | nil => rfl
  | cons argument rest =>
    have starts : opening.isPrefixOf (callTexts (argument :: rest)) :=
      List.isPrefixOf_iff_prefix.mpr ⟨(argument.text ++ [')', ';']) ++ callTexts rest,
        by simp [callTexts, Argument.call]⟩
    have longer : callTexts (argument :: rest) ≠ [] := by
      intro nothing
      rw [nothing] at starts
      exact absurd starts (by decide)
    obtain ⟨c, more, whole⟩ := List.exists_cons_of_ne_nil longer
    rw [whole, occurs, ← whole, starts]
    rfl

theorem literalsShown {arguments : List Argument}
    (all : ∀ argument ∈ arguments, argument.literal?.isSome) :
    arguments.filterMap Argument.literal? = arguments.map Argument.shown := by
  rw [← List.filterMap_eq_map]
  refine List.filterMap_congr fun argument member => ?_
  obtain ⟨body, found⟩ := Option.isSome_iff_exists.mp (all argument member)
  rw [Function.comp_apply, Argument.shown, found]
  rfl

/-- A line of calls prints the texts of their literals in order, and if there is none the placeholder,
once. So it prints what each call is to print exactly when all have literals or there is only one. -/
theorem callsPrinted (arguments : List Argument)
    (valid : ∀ argument ∈ arguments, argument.WellFormed) :
    let literals := arguments.filterMap Argument.literal?
    outputs (callTexts arguments) =
        (if literals = [] ∧ arguments ≠ [] then [placeholder] else literals) ∧
      (outputs (callTexts arguments) = arguments.map Argument.shown ↔
        (∀ argument ∈ arguments, argument.literal?.isSome) ∨ arguments.length = 1) := by
  intro literals
  have outputs : outputs (callTexts arguments) =
      if literals = [] ∧ arguments ≠ [] then [placeholder] else literals := by
    rw [outputs, printedArguments valid, callTextsOccur]
    refine if_congr ?_ rfl rfl
    simp [literals]
  refine ⟨outputs, ?_⟩
  rw [outputs]
  constructor
  · intro same
    have counted := congrArg List.length same
    rw [List.length_map] at counted
    split at counted
    · exact .inr counted.symm
    · left
      rw [List.length_filterMap_eq_countP] at counted
      exact List.countP_eq_length.mp counted
  · rintro (all | one)
    · have shown := literalsShown all
      refine (if_neg ?_).trans shown
      rintro ⟨none, nonempty⟩
      exact nonempty (List.map_eq_nil_iff.mp (shown.symm.trans none))
    · obtain ⟨argument, rfl⟩ := List.length_eq_one_iff.mp one
      cases found : argument.literal? with
      | none => simp [literals, Argument.shown, found]
      | some body => simp [literals, Argument.shown, found]

theorem literalsPrinted :
    let three := [Argument.literal '"' "a".toList, .literal '\'' "console.log(".toList,
      .literal '\x60' " (b) ".toList]
    (outputs (callTexts three) = ["a".toList, "console.log(".toList, " (b) ".toList]) ∧
      outputs (callTexts [.name "value".toList]) = [placeholder] := by
  intro three
  have valid : ∀ argument ∈ three, argument.WellFormed := by decide +kernel
  have alone : ∀ argument ∈ [Argument.name "value".toList], argument.WellFormed := by decide +kernel
  exact ⟨(callsPrinted three valid).2.mpr (.inl (by decide)),
    (callsPrinted _ alone).2.mpr (.inr rfl)⟩

theorem nameMissed :
    let two := [Argument.literal '"' "a".toList, .name "value".toList]
    (∀ argument ∈ two, argument.WellFormed) ∧
      callTexts two = "console.log(\"a\");console.log(value);".toList ∧
      two.map Argument.shown = ["a".toList, placeholder] ∧
      outputs (callTexts two) = ["a".toList] := by
  decide +kernel

end Logging

end LoopPlayer
