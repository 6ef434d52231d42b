import LoopPlayer.Proofs.Literals

/-! Texts that agree up to the bodies of literals. A line is stripped, cut at attachments and read
from behind an opening or a call, so what is read may begin anywhere, inside a literal too. What is
found in two such texts is found in the same places. -/
namespace LoopPlayer
open Text (Line strip dropBlank dropBlankEnd isBlank occurs pieces)
open Delimiter (isQuote isPlain)

namespace Text

theorem dropBlankEndNext (c : Char) (rest : List Char) :
    dropBlankEnd (c :: rest) =
      if dropBlankEnd rest = [] ∧ isBlank c then [] else c :: dropBlankEnd rest := by
  have last : [c].dropWhile isBlank = if isBlank c then [] else [c] := by
    by_cases blank : isBlank c <;> simp [blank]
  simp only [dropBlankEnd, dropEndWhile, List.reverse_cons, List.dropWhile_append, last,
    List.isEmpty_iff, List.reverse_eq_nil_iff]
  split
  · next gone => by_cases blank : isBlank c <;> simp [gone, blank]
  · next left => simp [left]

theorem dropBlankEndSolid {c : Char} (solid : isBlank c = false) (before rest : List Char) :
    dropBlankEnd (before ++ c :: rest) = before ++ c :: dropBlankEnd rest := by
  induction before with
  | nil => simp [dropBlankEndNext, solid]
  | cons d before ih => simp [dropBlankEndNext, ih]

variable {quote : Char} {part : List Char}

theorem startsPast (plain : part.all isPlain) (quoted : isQuote quote) (before rest : List Char) :
    part.isPrefixOf (before ++ quote :: rest) = part.isPrefixOf before := by
  induction part generalizing before with
  | nil => simp
  | cons c part ih =>
    rw [List.all_cons, Bool.and_eq_true] at plain
    cases before with
    | nil =>
      have other : (c == quote) = false := by
        rw [beq_eq_false_iff_ne]
        rintro rfl
        simp [isPlain, quoted] at plain
      simp [List.isPrefixOf, other]
    | cons d before => simp [List.isPrefixOf, ih plain.2]

theorem occursPast (plain : part.all isPlain) (nonempty : part ≠ []) (quoted : isQuote quote)
    (before rest : List Char) :
    occurs part (before ++ quote :: rest) = (occurs part before || occurs part rest) := by
  induction before with
  | nil =>
    have here : part.isPrefixOf (quote :: rest) = part.isPrefixOf [] :=
      startsPast plain quoted [] rest
    rw [List.nil_append, occurs, occurs, here]
    cases part <;> simp at nonempty ⊢
  | cons c before ih =>
    have here : part.isPrefixOf (c :: (before ++ quote :: rest)) = part.isPrefixOf (c :: before) :=
      startsPast plain quoted (c :: before) rest
    rw [List.cons_append, occurs, occurs, here, ih, Bool.or_assoc]

theorem quotedAbsent (plain : part.all isPlain) (quoted : isQuote quote) {body : List Char}
    (absent : occurs part body = false) : occurs part (quote :: body) = false := by
  have here : part.isPrefixOf (quote :: body) = part.isPrefixOf [] :=
    startsPast plain quoted [] body
  rw [occurs, here, absent]
  cases part with
  | nil => cases body <;> simp [occurs] at absent
  | cons c part => rfl

theorem piecesPast (plain : part.all isPlain) (quoted : isQuote quote) {before : List Char}
    (absent : occurs part before = false) (rest : List Char) :
    ∃ first later, pieces part rest = first :: later ∧
      pieces part (before ++ quote :: rest) = (before ++ quote :: first) :: later := by
  obtain ⟨first, later, cut⟩ := List.exists_cons_of_ne_nil (piecesNonempty part 0 rest)
  refine ⟨first, later, cut, ?_⟩
  induction before with
  | nil =>
    have here : part.isPrefixOf (quote :: rest) = part.isPrefixOf [] :=
      startsPast plain quoted [] rest
    have other : part.isPrefixOf [] = false := by cases part <;> simp_all [occurs]
    rw [List.nil_append, pieces, piecesFrom, here, other]
    simp [cut, consFirst]
  | cons c before ih =>
    rw [occurs, Bool.or_eq_false_iff] at absent
    have here : part.isPrefixOf (c :: (before ++ quote :: rest)) = part.isPrefixOf (c :: before) :=
      startsPast plain quoted (c :: before) rest
    have later := ih absent.2
    rw [pieces] at later
    rw [List.cons_append, pieces, piecesFrom, here, absent.1, later]
    rfl

theorem piecesCut (nonempty : part ≠ []) {text : List Char} (found : occurs part text) :
    2 ≤ (pieces part text).length := by
  induction text with
  | nil => cases part <;> simp_all [occurs]
  | cons c rest ih =>
    have first := List.length_pos_of_ne_nil (piecesNonempty part (part.length - 1) rest)
    rw [pieces, piecesFrom]
    split
    · rw [List.length_cons]
      omega
    · next other =>
      rw [occurs, Bool.or_eq_true] at found
      have later := ih (found.resolve_left other)
      obtain ⟨first, more, cut⟩ := List.exists_cons_of_ne_nil (piecesNonempty part 0 rest)
      rw [pieces, cut] at later
      rw [cut]
      exact later

theorem piecesUncut {text : List Char} (absent : occurs part text = false) :
    pieces part text = [text] := by
  unfold pieces
  induction text with
  | nil => rfl
  | cons c rest ih =>
    rw [occurs, Bool.or_eq_false_iff] at absent
    rw [piecesFrom, absent.1, ih absent.2]
    rfl

theorem linesReturned {text : List Char} (oneLine : '\n' ∉ text) :
    lines text = [dropReturn text] := by
  have absent : occurs ['\n'] text = false := by
    induction text with
    | nil => rfl
    | cons c rest ih =>
      obtain ⟨line, oneLine⟩ := List.ne_and_not_mem_of_not_mem_cons oneLine
      rw [occurs, ih oneLine, Bool.or_false]
      simp [List.isPrefixOf, line]
  rw [lines, piecesUncut absent, List.map_singleton]

theorem linesOne {text : List Char} (oneLine : '\n' ∉ text)
    (unreturned : text.getLast? ≠ some '\r') : lines text = [text] := by
  rw [linesReturned oneLine, dropReturn, if_neg unreturned]

end Text

/-- Two texts that differ only in unmarked bodies between equal quotes. Unlike a line, a text may
start anywhere, so quotes need not pair as they do in a line. -/
inductive Echo : List Char → List Char → Prop where
  | done : Echo [] []
  | same (c : Char) {rest other : List Char} (tail : Echo rest other) :
    Echo (c :: rest) (c :: other)
  | literal {quote : Char} {body new rest other : List Char} (quoted : isQuote quote)
      (old : Unmarked body) (instead : Unmarked new) (tail : Echo rest other) :
      Echo (quote :: (body ++ quote :: rest)) (quote :: (new ++ quote :: other))

namespace Echo

variable {text other part : List Char}

theorem refl (text : List Char) : Echo text text := by
  induction text with
  | nil => exact .done
  | cons c rest ih => exact .same c ih

theorem symm (echo : Echo text other) : Echo other text := by
  induction echo with
  | done => exact .done
  | same c _ ih => exact .same c ih
  | literal quoted old instead _ ih => exact .literal quoted instead old ih

theorem append (before : List Char) (echo : Echo text other) :
    Echo (before ++ text) (before ++ other) := by
  induction before with
  | nil => exact echo
  | cons c before ih => exact .same c ih

theorem ofExchanged {admitted : List Char → Prop} {line other : Line}
    (unmarked : ∀ body, admitted body → Unmarked body) (exchanged : Exchanged admitted line other) :
    Echo line other := by
  induction exchanged with
  | done => exact .done
  | character _ _ _ ih => exact .same _ ih
  | comment rest => exact refl _
  | stray _ _ _ _ ih => exact .same _ ih
  | kept _ _ _ ih => exact .same _ (append _ (.same _ ih))
  | swapped quoted old instead _ ih =>
    exact .literal quoted (unmarked _ old) (unmarked _ instead) ih

theorem sameHead (echo : Echo text other) : text.head? = other.head? := by
  cases echo <;> rfl

theorem emptyTogether (echo : Echo text other) : text = [] ↔ other = [] := by
  cases echo <;> simp

theorem nextOrLiteral {c : Char} {rest : List Char} (echo : Echo (c :: rest) other) :
    (∃ later, other = c :: later ∧ Echo rest later) ∨
      isQuote c ∧ ∃ body new behind later, Unmarked body ∧ Unmarked new ∧ Echo behind later ∧
        rest = body ++ c :: behind ∧ other = c :: (new ++ c :: later) := by
  generalize whole : c :: rest = text at echo
  cases echo with
  | done => cases whole
  | same d tail =>
    cases whole
    exact .inl ⟨_, rfl, tail⟩
  | literal quoted old instead tail =>
    cases whole
    exact .inr ⟨quoted, _, _, _, _, old, instead, tail, rfl, rfl⟩

theorem pastUnquoted {text before : List Char} (unquoted : ∀ c ∈ before, isQuote c = false)
    (echo : Echo (before ++ text) other) : ∃ later, other = before ++ later ∧ Echo text later := by
  induction before generalizing other with
  | nil => exact ⟨other, rfl, echo⟩
  | cons c before ih =>
    obtain ⟨bare, unquoted⟩ := List.forall_mem_cons.mp unquoted
    rcases echo.nextOrLiteral with ⟨later, rfl, tail⟩ | ⟨quoted, -⟩
    · obtain ⟨behind, rfl, later⟩ := ih unquoted tail
      exact ⟨behind, rfl, later⟩
    · rw [bare] at quoted
      cases quoted

theorem partUnquoted (plain : part.all isPlain) : ∀ c ∈ part, isQuote c = false :=
  fun c member => Delimiter.plainUnquoted (List.all_eq_true.mp plain c member)

theorem plainStartAgrees (plain : part.all isPlain) (echo : Echo text other) :
    part.isPrefixOf text = part.isPrefixOf other := by
  have forward {text other : List Char} (echo : Echo text other) (opens : part.isPrefixOf text) :
      part.isPrefixOf other := by
    obtain ⟨rest, rfl⟩ := List.isPrefixOf_iff_prefix.mp opens
    obtain ⟨later, rfl, -⟩ := echo.pastUnquoted (partUnquoted plain)
    exact List.isPrefixOf_iff_prefix.mpr (List.prefix_append _ _)
  exact Bool.eq_iff_iff.mpr ⟨forward echo, forward echo.symm⟩

theorem dropBlanks (echo : Echo text other) : Echo (dropBlank text) (dropBlank other) := by
  induction echo with
  | done => exact .done
  | same c tail ih =>
    cases blank : isBlank c with
    | true => rwa [dropBlank, dropBlank, List.dropWhile_cons_of_pos blank,
        List.dropWhile_cons_of_pos blank]
    | false =>
      have solid : ¬ isBlank c := by simp [blank]
      rw [dropBlank, dropBlank, List.dropWhile_cons_of_neg solid, List.dropWhile_cons_of_neg solid]
      exact .same c tail
  | literal quoted old instead tail _ =>
    have solid := Bool.eq_false_iff.mp (Logging.quoteSolid quoted)
    rw [dropBlank, dropBlank, List.dropWhile_cons_of_neg solid, List.dropWhile_cons_of_neg solid]
    exact .literal quoted old instead tail

theorem endDropped (echo : Echo text other) : Echo (dropBlankEnd text) (dropBlankEnd other) := by
  induction echo with
  | done => exact .done
  | @same c rest later tail ih =>
    rw [Text.dropBlankEndNext, Text.dropBlankEndNext]
    by_cases gone : dropBlankEnd rest = [] ∧ isBlank c
    · rw [if_pos gone, if_pos ⟨ih.emptyTogether.mp gone.1, gone.2⟩]
      exact .done
    · rw [if_neg gone, if_neg fun both => gone ⟨ih.emptyTogether.mpr both.1, both.2⟩]
      exact .same c ih
  | @literal quote _ _ _ _ quoted old instead tail ih =>
    have kept (body rest : List Char) : dropBlankEnd (quote :: (body ++ quote :: rest)) =
        quote :: (body ++ quote :: dropBlankEnd rest) :=
      Text.dropBlankEndSolid (Logging.quoteSolid quoted) (quote :: body) rest
    rw [kept, kept]
    exact .literal quoted old instead ih

theorem stripKeeps (echo : Echo text other) : Echo (strip text) (strip other) :=
  echo.dropBlanks.endDropped

theorem consFirstSame (c : Char) {pieces others : List (List Char)}
    (both : List.Forall₂ Echo pieces others) :
    List.Forall₂ Echo (Text.consFirst c pieces) (Text.consFirst c others) := by
  cases both with
  | nil => exact .cons (.same c .done) .nil
  | cons first rest => exact .cons (.same c first) rest

section

variable (plain : part.all isPlain) (nonempty : part ≠ [])
  (absent : ∀ body, Unmarked body → occurs part body = false)

include plain nonempty absent

theorem occursSame (echo : Echo text other) : occurs part text = occurs part other := by
  induction echo with
  | done => rfl
  | same c tail ih => rw [occurs, occurs, plainStartAgrees plain (.same c tail), ih]
  | @literal quote body new rest later quoted old instead tail ih =>
    have past {body : List Char} (unmarked : Unmarked body) (rest : List Char) :
        occurs part (quote :: (body ++ quote :: rest)) = occurs part rest := by
      have marks := Text.quotedAbsent plain quoted (absent body unmarked)
      have both := Text.occursPast plain nonempty quoted (quote :: body) rest
      rwa [marks, Bool.false_or] at both
    rw [past old, past instead, ih]

theorem piecesFromSame (echo : Echo text other) {skipped : List Char}
    (unquoted : ∀ c ∈ skipped, isQuote c = false) (begun : skipped <+: text) :
    List.Forall₂ Echo (Text.piecesFrom part skipped.length text)
      (Text.piecesFrom part skipped.length other) := by
  -- `skipped` is what is left of a separator; it has no quote, so no body starts in it
  induction echo generalizing skipped with
  | done => cases skipped <;> exact .cons .done .nil
  | @same c rest later tail ih =>
    cases skipped with
    | cons d skipped =>
      exact ih (List.forall_mem_cons.mp unquoted).2 (List.cons_prefix_cons.mp begun).2
    | nil =>
      have agree := plainStartAgrees plain (.same c tail)
      rw [List.length_nil, Text.piecesFrom, Text.piecesFrom, ← agree]
      cases opens : part.isPrefixOf (c :: rest) with
      | true =>
        cases part with
        | nil => exact absurd rfl nonempty
        | cons d part =>
          have more := (List.cons_prefix_cons.mp (List.isPrefixOf_iff_prefix.mp opens)).2
          have unquoted := (List.forall_mem_cons.mp (partUnquoted plain)).2
          exact .cons .done (ih unquoted more)
      | false =>
        have later := ih (List.forall_mem_nil _) List.nil_prefix
        simp only [Bool.false_eq_true, if_false, List.length_nil] at later ⊢
        exact consFirstSame c later
  | @literal quote body new rest later quoted old instead tail ih =>
    cases skipped with
    | cons d skipped =>
      obtain ⟨rfl, -⟩ := List.cons_prefix_cons.mp begun
      rw [(List.forall_mem_cons.mp unquoted).1] at quoted
      cases quoted
    | nil =>
      have both := ih (List.forall_mem_nil _) List.nil_prefix
      obtain ⟨first, further, cut, here⟩ := Text.piecesPast plain quoted
        (Text.quotedAbsent plain quoted (absent body old)) rest
      obtain ⟨second, beyond, also, there⟩ := Text.piecesPast plain quoted
        (Text.quotedAbsent plain quoted (absent new instead)) later
      simp only [List.length_nil, List.cons_append] at both here there ⊢
      rw [pieces] at cut also here there
      rw [cut, also] at both
      rw [here, there]
      cases both with
      | cons firsts rest => exact .cons (.literal quoted old instead firsts) rest

theorem piecesSame (echo : Echo text other) :
    List.Forall₂ Echo (pieces part text) (pieces part other) :=
  piecesFromSame plain nonempty absent echo (List.forall_mem_nil _) List.nil_prefix

end

/-- Behind a call the texts agree again, or both are inside a body that was exchanged. -/
inductive Within : List Char → List Char → Prop where
  | aligned {text other : List Char} (echo : Echo text other) : Within text other
  | inside {quote : Char} {body new rest other : List Char} (quoted : isQuote quote)
      (old : Unmarked body) (instead : Unmarked new) (tail : Echo rest other) :
      Within (body ++ quote :: rest) (new ++ quote :: other)

theorem quoteNotNewline {quote : Char} (quoted : isQuote quote) : '\n' ≠ quote := by
  rintro rfl
  exact absurd quoted (by decide)

theorem saidSame (echo : Echo text other) {quote : Char} {said after : List Char}
    (whole : text = said ++ quote :: after) (quoted : isQuote quote) (unquoted : quote ∉ said)
    (oneLine : '\n' ∉ said) :
    ∃ new later, other = new ++ quote :: later ∧ (new = [] → said = []) ∧ quote ∉ new ∧
      '\n' ∉ new ∧ Within after later := by
  induction echo generalizing said with
  | done => simp at whole
  | same c tail ih =>
    cases said with
    | nil =>
      cases whole
      exact ⟨[], _, rfl, fun _ => rfl, List.not_mem_nil, List.not_mem_nil, .aligned tail⟩
    | cons d said =>
      rw [List.cons_append, List.cons.injEq] at whole
      obtain ⟨rfl, whole⟩ := whole
      obtain ⟨differs, unquoted⟩ := List.ne_and_not_mem_of_not_mem_cons unquoted
      obtain ⟨line, oneLine⟩ := List.ne_and_not_mem_of_not_mem_cons oneLine
      obtain ⟨new, later, rfl, -, absent, within_, behind⟩ := ih whole unquoted oneLine
      exact ⟨c :: new, later, rfl, nofun, List.not_mem_cons_of_ne_of_not_mem differs absent,
        List.not_mem_cons_of_ne_of_not_mem line within_, behind⟩
  | @literal mark body instead rest later marked old fresh tail ih =>
    cases said with
    | nil =>
      cases whole
      exact ⟨[], _, rfl, fun _ => rfl, List.not_mem_nil, List.not_mem_nil,
        .inside marked old fresh tail⟩
    | cons d said =>
      rw [List.cons_append, List.cons.injEq] at whole
      obtain ⟨rfl, whole⟩ := whole
      obtain ⟨differs, unquoted⟩ := List.ne_and_not_mem_of_not_mem_cons unquoted
      have before : quote ∉ body ++ [mark] := by
        simp [old.quoteAbsent quoted, differs]
      have whole : (body ++ [mark]) ++ rest = said ++ quote :: after := by simpa using whole
      obtain ⟨more, rfl, behind⟩ := soughtPast before whole
      simp only [List.mem_cons, List.mem_append, not_or] at unquoted oneLine
      obtain ⟨new, beyond, rfl, -, absent, within_, behind⟩ := ih behind unquoted.2 oneLine.2.2
      refine ⟨mark :: (instead ++ mark :: new), beyond, by simp, nofun, ?_, ?_, behind⟩
      · simp [differs, fresh.quoteAbsent quoted, absent]
      · simp [quoteNotNewline marked, fresh.oneLine, within_]

theorem spokenSame {quote : Char} {said after : List Char}
    (echo : Echo (said ++ quote :: after) other) (quoted : isQuote quote)
    (spoken : Logging.Spoken quote said) :
    ∃ new later, other = new ++ quote :: later ∧ Logging.Spoken quote new ∧ Within after later := by
  obtain ⟨nonempty, unquoted, oneLine⟩ := spoken
  cases said with
  | nil => exact absurd rfl nonempty
  | cons c said =>
    rw [List.tail_cons] at unquoted
    by_cases own : c = quote
    · subst own
      obtain ⟨line, oneLine⟩ := List.ne_and_not_mem_of_not_mem_cons oneLine
      rcases echo.nextOrLiteral with
        ⟨rest, rfl, more⟩ | ⟨-, body, new, behind, later, old, fresh, tail, whole, rfl⟩
      · obtain ⟨new, later, rfl, -, absent, within_, behind⟩ :=
          more.saidSame rfl quoted unquoted oneLine
        refine ⟨c :: new, later, rfl, ⟨nofun, absent, ?_⟩, behind⟩
        exact List.not_mem_cons_of_ne_of_not_mem line within_
      · have tailAbsent : c ∉ said.tail := fun member => unquoted (List.mem_of_mem_tail member)
        obtain ⟨rfl, rfl⟩ := old.bodyDetermined quoted tailAbsent whole.symm
        refine ⟨c :: new, later, rfl, ⟨nofun, fresh.quoteAbsent quoted, ?_⟩, .aligned tail⟩
        exact List.not_mem_cons_of_ne_of_not_mem line fresh.oneLine
    · have unquoted : quote ∉ c :: said := List.not_mem_cons_of_ne_of_not_mem (Ne.symm own) unquoted
      obtain ⟨new, later, rfl, empty, absent, within_, behind⟩ :=
        echo.saidSame rfl quoted unquoted oneLine
      refine ⟨new, later, rfl, ⟨fun none => nonempty (empty none), ?_, within_⟩, behind⟩
      exact fun member => absent (List.mem_of_mem_tail member)

theorem callSame (echo : Echo text other) {said after : List Char}
    (call : Logging.Call text said after) :
    ∃ new later, Logging.Call other new later ∧ Within after later := by
  obtain ⟨after, blank, quoted, spoken⟩ := call
  obtain ⟨_, rfl, opened⟩ := echo.pastUnquoted (partUnquoted Logging.openingPlain)
  obtain ⟨_, rfl, argued⟩ := opened.pastUnquoted fun c member =>
    Delimiter.plainUnquoted (Delimiter.blankPlain (blank c member))
  rcases argued.nextOrLiteral with
    ⟨rest, rfl, saying⟩ | ⟨-, body, new, behind, later, old, fresh, tail, whole, rfl⟩
  · obtain ⟨new, later, rfl, spoken, behind⟩ := saying.spokenSame quoted spoken
    exact ⟨new, later, .mk later blank quoted spoken, behind⟩
  · obtain ⟨rfl, rfl⟩ := old.bodyDetermined quoted spoken.unquoted whole.symm
    exact ⟨new, later, .mk later blank quoted (fresh.simpleSpoken quoted), .aligned tail⟩

theorem printedPast {quote : Char} (quoted : isQuote quote) {before : List Char}
    (silent : occurs Logging.opening before = false) (rest : List Char) :
    Logging.printed (before ++ quote :: rest) = Logging.printed rest := by
  have quiet {c : Char} {text before : List Char} (cut : c :: text = before ++ quote :: rest)
      (none : Logging.opening.isPrefixOf before = false) :
      Logging.printed (c :: text) = Logging.printed text := by
    refine Logging.printedElse fun said after call => ?_
    have starts := Logging.callStarts call
    rw [cut, Text.startsPast Logging.openingPlain quoted, none] at starts
    cases starts
  induction before with
  | nil => exact quiet (List.nil_append _).symm rfl
  | cons c before ih =>
    rw [occurs, Bool.or_eq_false_iff] at silent
    rw [← ih silent.2]
    exact quiet rfl silent.1

theorem printedSame (echo : Echo text other) :
    (Logging.printed text).length = (Logging.printed other).length := by
  -- a call or a body takes any number of characters at once
  induction size : text.length using Nat.strong_induction_on generalizing text other with
  | _ size ih =>
    subst size
    have past {quote : Char} {body : List Char} (quoted : isQuote quote)
        (unmarked : Unmarked body) (rest : List Char) :
        Logging.printed (quote :: (body ++ quote :: rest)) = Logging.printed rest :=
      printedPast quoted (Text.quotedAbsent Logging.openingPlain quoted unmarked.silent) rest
    cases echo with
    | done => rfl
    | @literal quote body new rest later quoted old instead tail =>
      rw [past quoted old, past quoted instead]
      refine ih _ ?_ tail rfl
      simp only [List.length_cons, List.length_append]
      omega
    | @same c rest later tail =>
      by_cases calls : ∃ said after, Logging.Call (c :: rest) said after
      · obtain ⟨said, after, call⟩ := calls
        obtain ⟨new, behind, also, within_⟩ := (same c tail).callSame call
        have shorter := Logging.callShorter call
        rw [Logging.printedCall call, Logging.printedCall also, List.length_cons, List.length_cons]
        refine congrArg (· + 1) ?_
        cases within_ with
        | aligned echo => exact ih _ shorter echo rfl
        | inside quoted old instead tail =>
          rw [printedPast quoted old.silent, printedPast quoted instead.silent]
          refine ih _ (Nat.lt_trans ?_ shorter) tail rfl
          simp only [List.length_cons, List.length_append]
          omega
      · have silent (said after : List Char) : ¬ Logging.Call (c :: rest) said after :=
          fun call => calls ⟨said, after, call⟩
        have also (said after : List Char) : ¬ Logging.Call (c :: later) said after := fun call =>
          have ⟨new, behind, call, _⟩ := (same c tail).symm.callSame call
          silent new behind call
        rw [Logging.printedElse silent, Logging.printedElse also]
        exact ih _ (Nat.lt_succ_self _) tail rfl

theorem outputsSame (echo : Echo text other) :
    (Logging.outputs text).length = (Logging.outputs other).length := by
  have calls := echo.occursSame Logging.openingPlain (by decide) fun _ unmarked => unmarked.silent
  have printed := echo.printedSame
  have empty : (Logging.printed text).isEmpty = (Logging.printed other).isEmpty := by
    rw [Bool.eq_iff_iff, List.isEmpty_iff_length_eq_zero, List.isEmpty_iff_length_eq_zero, printed]
  rw [Logging.outputs, Logging.outputs, calls, empty]
  split
  · rfl
  · exact printed

end Echo
end LoopPlayer
