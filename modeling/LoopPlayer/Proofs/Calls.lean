import LoopPlayer.Proofs.Occurrences

/-! Logging calls one by one. A call that prints is the opening, blanks, and in quotes a text that
is not empty and ends on the line; its quote may only be the first character of that text. A text
prints what its calls say, each sought behind the one before. -/
namespace LoopPlayer.Logging
open Text (dropBlank isBlank)

structure Spoken (quote : Char) (said : List Char) : Prop where
  nonempty : said ≠ []
  unquoted : quote ∉ said.tail
  oneLine : '\n' ∉ said

/-- A text that starts with a call, what the call says and what comes after it. -/
inductive Call : List Char → List Char → List Char → Prop where
  | mk {blanks : List Char} {quote : Char} {said : List Char} (after : List Char)
      (blank : ∀ c ∈ blanks, isBlank c) (quoted : Delimiter.isQuote quote)
      (spoken : Spoken quote said) :
      Call (opening ++ (blanks ++ quote :: (said ++ quote :: after))) said after

theorem openingPlain : opening.all Delimiter.isPlain := by decide

theorem quoteSolid {quote : Char} (quoted : Delimiter.isQuote quote) : isBlank quote = false := by
  by_contra blank
  have plain := Delimiter.blankPlain (Bool.eq_true_of_not_eq_false blank)
  simp [Delimiter.isPlain, quoted] at plain

section

variable {quote : Char} {text said : List Char}

theorem upToSound (read : upTo quote text = some said) :
    quote ∉ said ∧ '\n' ∉ said ∧ ∃ after, text = said ++ quote :: after := by
  induction text generalizing said with
  | nil => cases read
  | cons c rest ih =>
    rw [upTo] at read
    split at read
    · next closes =>
      cases read
      exact ⟨List.not_mem_nil, List.not_mem_nil, rest, by rw [beq_iff_eq.mp closes]; rfl⟩
    · next other =>
      split at read
      · cases read
      · next line =>
        obtain ⟨more, later, rfl⟩ := Option.map_eq_some_iff.mp read
        obtain ⟨unquoted, oneLine, after, rfl⟩ := ih later
        rw [beq_iff_eq] at other line
        exact ⟨List.not_mem_cons_of_ne_of_not_mem (Ne.symm other) unquoted,
          List.not_mem_cons_of_ne_of_not_mem (Ne.symm line) oneLine, after, rfl⟩

theorem upToComplete (unquoted : quote ∉ said) (oneLine : '\n' ∉ said) (after : List Char) :
    upTo quote (said ++ quote :: after) = some said := by
  induction said with
  | nil => simp [upTo]
  | cons c more ih =>
    obtain ⟨other, unquoted⟩ := List.ne_and_not_mem_of_not_mem_cons unquoted
    obtain ⟨line, oneLine⟩ := List.ne_and_not_mem_of_not_mem_cons oneLine
    rw [List.cons_append, upTo, if_neg (by simpa using Ne.symm other),
      if_neg (by simpa using Ne.symm line), ih unquoted oneLine, Option.map_some]

theorem bodySound (read : body quote text = some said) :
    Spoken quote said ∧ ∃ after, text = said ++ quote :: after := by
  cases text with
  | nil => cases read
  | cons c rest =>
    rw [body] at read
    split at read
    · cases read
    · next line =>
      obtain ⟨more, later, rfl⟩ := Option.map_eq_some_iff.mp read
      obtain ⟨unquoted, oneLine, after, rfl⟩ := upToSound later
      rw [beq_iff_eq] at line
      refine ⟨⟨List.cons_ne_nil c more, unquoted, ?_⟩, after, rfl⟩
      exact List.not_mem_cons_of_ne_of_not_mem (Ne.symm line) oneLine

theorem bodyComplete (spoken : Spoken quote said) (after : List Char) :
    body quote (said ++ quote :: after) = some said := by
  obtain ⟨nonempty, unquoted, oneLine⟩ := spoken
  cases said with
  | nil => exact absurd rfl nonempty
  | cons c more =>
    obtain ⟨line, oneLine⟩ := List.ne_and_not_mem_of_not_mem_cons oneLine
    have later : upTo quote (more ++ quote :: after) = some more :=
      upToComplete unquoted oneLine after
    rw [List.cons_append, body, if_neg (by simpa using Ne.symm line), later, Option.map_some]

end

theorem callRead {blanks : List Char} {quote : Char} {said : List Char}
    (blank : ∀ c ∈ blanks, isBlank c) (quoted : Delimiter.isQuote quote)
    (spoken : Spoken quote said) (after : List Char) :
    call? (opening ++ (blanks ++ quote :: (said ++ quote :: after))) =
      some (said, opening.length + blanks.length + said.length + 2) := by
  have opens : opening.isPrefixOf (opening ++ (blanks ++ quote :: (said ++ quote :: after))) :=
    List.isPrefixOf_iff_prefix.mpr (List.prefix_append _ _)
  have argument : dropBlank (blanks ++ quote :: (said ++ quote :: after)) =
      quote :: (said ++ quote :: after) := by
    rw [dropBlank, List.dropWhile_append_of_pos blank, List.dropWhile_cons_of_neg]
    simp [quoteSolid quoted]
  rw [call?, if_pos opens, List.drop_left, argument]
  simp only [quoted, if_true, bodyComplete spoken, Option.map_some, List.length_append]
  rw [← Nat.add_assoc, Nat.add_sub_cancel]

theorem callDropped (blanks said after : List Char) (quote : Char) :
    (opening ++ (blanks ++ quote :: (said ++ quote :: after))).drop
      (opening.length + blanks.length + said.length + 2) = after := by
  have whole : opening ++ (blanks ++ quote :: (said ++ quote :: after)) =
      (opening ++ blanks ++ quote :: said ++ [quote]) ++ after := by simp
  rw [whole]
  refine List.drop_left' ?_
  simp only [List.length_append, List.length_cons, List.length_nil]
  omega

theorem callComplete {text said after : List Char} (call : Call text said after) :
    ∃ length, call? text = some (said, length) ∧ text.drop length = after := by
  obtain ⟨after, blank, quoted, spoken⟩ := call
  exact ⟨_, callRead blank quoted spoken after, callDropped _ _ _ _⟩

theorem callSound {text said : List Char} {length : Nat}
    (called : call? text = some (said, length)) :
    Call text said (text.drop length) ∧ 0 < length := by
  obtain ⟨blanks, quote, after, blank, quoted, spoken, rfl⟩ : ∃ blanks quote after,
      (∀ c ∈ blanks, isBlank c) ∧ Delimiter.isQuote quote ∧ Spoken quote said ∧
        text = opening ++ (blanks ++ quote :: (said ++ quote :: after)) := by
    simp only [call?] at called
    split at called
    · next opens =>
      obtain ⟨rest, rfl⟩ := List.isPrefixOf_iff_prefix.mp opens
      rw [List.drop_left] at called
      split at called
      · cases called
      · next quote argument found =>
        split at called
        · next quoted =>
          obtain ⟨printed, read, same⟩ := Option.map_eq_some_iff.mp called
          cases same
          obtain ⟨spoken, after, rfl⟩ := bodySound read
          refine ⟨rest.takeWhile isBlank, quote, after, fun c => List.mem_takeWhile_imp, quoted,
            spoken, ?_⟩
          rw [← found, dropBlank, List.takeWhile_append_dropWhile]
        · cases called
    · cases called
  rw [callRead blank quoted spoken after] at called
  cases called
  rw [callDropped]
  exact ⟨.mk after blank quoted spoken, Nat.succ_pos _⟩

theorem callStarts {text said after : List Char} (call : Call text said after) :
    opening.isPrefixOf text := by
  obtain ⟨after, blank, quoted, spoken⟩ := call
  exact List.isPrefixOf_iff_prefix.mpr (List.prefix_append _ _)

theorem callShorter {text said after : List Char} (call : Call text said after) :
    after.length < text.length := by
  obtain ⟨after, blank, quoted, spoken⟩ := call
  simp only [List.length_append, List.length_cons]
  omega

theorem printedSkip (skip : Nat) (text : List Char) :
    printedFrom skip text = printed (text.drop skip) := by
  induction text generalizing skip with
  | nil => cases skip <;> rfl
  | cons c rest ih =>
    cases skip with
    | zero => rfl
    | succ skip => exact ih skip

theorem printedCall {text said after : List Char} (call : Call text said after) :
    printed text = said :: printed after := by
  obtain ⟨length, called, rfl⟩ := callComplete call
  cases text with
  | nil => cases called
  | cons c rest =>
    obtain ⟨length, rfl⟩ := Nat.exists_eq_succ_of_ne_zero (Nat.ne_of_gt (callSound called).2)
    rw [printed, printedFrom, called]
    exact congrArg _ (printedSkip _ _)

theorem printedElse {c : Char} {rest : List Char}
    (silent : ∀ said after, ¬ Call (c :: rest) said after) :
    printed (c :: rest) = printed rest := by
  rw [printed, printedFrom]
  split
  · next said length called => exact absurd (callSound called).1 (silent said _)
  · rfl

end LoopPlayer.Logging
