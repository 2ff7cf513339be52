import ManifestLint.Proofs.PlacedReaders

/-!
# Scalars inside a longer text

A scalar may run over many lines, up to the end of its text.  There the line of hyphens
that follows ends it as the end of the text does, unless it is quoted.
-/

namespace ManifestLint.Yaml

open Cursor

variable {site : Placement}

theorem ne_lineFeed {c : Char} (noBreak : ¬isBreak c = true) : c ≠ '\n' := by
  rintro rfl
  exact noBreak rfl

/-- What follows a text that has ended at the start of a line. -/
theorem Cursor.Seated.tail_cases {mark : Mark} (seated : Seated site ⟨[], mark⟩) :
    site.tail = [] ∨ mark.column = 0 ∧ ∃ rest, site.tail = '-' :: '-' :: '-' :: '\n' :: rest := by
  obtain ahead | ⟨-, column⟩ := seated
  · exact .inl ahead.tail_eq_nil
  · obtain alone | line := site.bounds
    · exact .inl alone
    · exact .inr ⟨column, line⟩

/-- A reading goes on at a cursor further on. -/
theorem Follows.onward {α β : Type} {move : α → β} {place : α → Cursor} {cursor middle : Cursor}
    {first : Except Fault α} {second : Except Fault β} (way : Reaches cursor middle)
    (seated : Seated site cursor)
    (rest : Seated site middle →
      Follows move (fun result => Reaches middle (place result)) first second) :
    Follows move (fun result => Reaches cursor (place result)) first second :=
  (rest (way.seated seated)).imp fun _ later => way.trans later

/-! ## Block scalars -/

section

variable {start other : Mark}

theorem readIncrement_follows {cursor : Cursor} (ahead : site.LineAhead cursor.rest) :
    Follows (Prod.map id (placed site)) (fun result => Along cursor result.2)
      (readIncrement start cursor) (readIncrement other (cursor.placed site)) := by
  obtain ⟨rest, mark⟩ := cursor
  cases rest with
  | nil =>
      have ended : readIncrement other (placed site ⟨[], mark⟩) =
          .ok (0, placed site ⟨[], mark⟩) := by
        simp [readIncrement, placed, ahead.tail_eq_nil]
      rw [ended]
      exact .ok (.refl _)
  | cons c rest =>
      apply Follows.ite
      · exact fun _ => .misplaced
      · intro _
        apply Follows.ite
        · intro digit
          exact .ok (along_advance (p := Char.isDigit) digit rfl)
        · exact fun _ => .ok (.refl _)

theorem readChomping_placed {cursor : Cursor} (ahead : site.LineAhead cursor.rest) :
    readChomping (cursor.placed site) = Prod.map id (placed site) (readChomping cursor) := by
  obtain ⟨rest, mark⟩ := cursor
  cases rest with
  | nil => simp [readChomping, placed, ahead.tail_eq_nil]
  | cons c rest => cases found : chomping? c <;> simp [readChomping, placed, found, advance]

theorem along_readChomping (cursor : Cursor) : Along cursor (readChomping cursor).2 := by
  obtain ⟨rest, mark⟩ := cursor
  cases rest with
  | nil => exact .refl _
  | cons c rest =>
      cases found : chomping? c with
      | none =>
          simp only [readChomping, found]
          exact .refl _
      | some chomping =>
          simp only [readChomping, found]
          apply Along.next _ (.refl _)
          rintro rfl
          cases found

theorem readIndicators_follows {cursor : Cursor} (ahead : site.LineAhead cursor.rest) :
    Follows (Prod.map id (placed site)) (fun result => Along cursor result.2)
      (readIndicators start cursor) (readIndicators other (cursor.placed site)) := by
  have first := along_readChomping cursor
  unfold readIndicators
  rw [readChomping_placed ahead]
  generalize readChomping cursor = indicator at first
  obtain ⟨chomping, after⟩ := indicator
  have there := first.lineAhead ahead
  cases chomping with
  | some chomping =>
      apply (readIncrement_follows there).bind
      rintro ⟨increment, last⟩ along
      exact .ok (first.trans along)
  | none =>
      apply (readIncrement_follows there).bind
      rintro ⟨increment, last⟩ along
      apply Follows.ite
      · exact fun _ => .ok (first.trans along)
      · intro _
        simp only [Prod.map, id, readChomping_placed (along.lineAhead there)]
        exact .ok (first.trans (along.trans (along_readChomping last)))

theorem readHeader_follows {cursor : Cursor} (ahead : site.LineAhead cursor.rest) :
    Follows (Prod.map id (placed site)) (fun result => Reaches cursor result.2)
      (readHeader start cursor) (readHeader other (cursor.placed site)) := by
  apply (readIndicators_follows ahead).bind
  rintro ⟨header, after⟩ along
  have there := along.lineAhead ahead
  have blanks := along_skipBlanks after
  have comment := along_skipComment after.skipBlanks
  have lineEnd := comment.lineAhead (blanks.lineAhead there)
  simp only [Prod.map, id, skipBlanks_placed there, skipComment_placed (blanks.lineAhead there),
    atLineEnd_placed lineEnd, skipBreak_placed lineEnd]
  apply Follows.ite
  · intro ends
    exact .ok ((along.trans (blanks.trans comment)).reaches.trans (reaches_skipBreak _))
  · exact fun _ => .misplaced

theorem findContent_follows {breaks : List Char} {widest : Nat} {rest : List Char} {mark : Mark}
    (seated : Seated site ⟨rest, mark⟩) :
    Follows (Prod.map id (Prod.map id (placed site)))
      (fun result => Reaches ⟨rest, mark⟩ result.2.2)
      (findContent start breaks widest rest mark)
      (findContent other breaks widest (rest ++ site.tail) (mark.placed site)) := by
  induction rest using lines_induction generalizing breaks widest mark with
  | nil =>
      have ended : findContent other breaks widest ([] ++ site.tail) (mark.placed site) =
          .ok (breaks, max widest mark.column, placed site ⟨[], mark⟩) := by
        obtain alone | ⟨-, later, line⟩ := seated.tail_cases
        · simp [alone, findContent, placed]
        · simp [line, findContent, placed, isBreak]
      rw [ended]
      exact .ok (.refl _)
  | crlf rest ih => exact .onward (.carriageReturn (.refl _)) seated ih
  | cons c rest apart ih =>
      have apart' := seated.lineAhead.not_crlf apart
      rw [List.cons_append, findContent.eq_3 _ _ _ _ _ _ apart, findContent.eq_3 _ _ _ _ _ _ apart']
      apply Follows.ite
      · rintro rfl
        exact .onward (.next (by decide) (.refl _)) seated ih
      · intro _
        apply Follows.ite
        · exact fun _ => .misplaced
        · intro _
          apply Follows.ite
          · intro _
            exact .onward (.lineBreak (.refl _)) seated ih
          · exact fun _ => .ok (.refl _)

theorem blockLines_follows {literal : Bool} {indent : Nat} {block : BlockText} {inLine : Bool}
    {rest : List Char} {mark : Mark} (indented : 0 < indent) (seated : Seated site ⟨rest, mark⟩)
    (lineEnds : inLine = true → site.LineAhead rest) :
    Follows (Prod.map id (placed site)) (fun result => Reaches ⟨rest, mark⟩ result.2)
      (blockLines literal indent start block inLine rest mark)
      (blockLines literal indent other block inLine (rest ++ site.tail) (mark.placed site)) := by
  induction rest using lines_induction generalizing block inLine mark with
  | nil =>
      have ended : blockLines literal indent other block inLine ([] ++ site.tail)
          (mark.placed site) = .ok (block, placed site ⟨[], mark⟩) := by
        obtain alone | ⟨column, later, line⟩ := seated.tail_cases
        · simp [alone, blockLines, placed]
        · cases inLine with
          | true =>
              have alone := (lineEnds rfl).tail_eq_nil
              rw [alone] at line
              cases line
          | false => simp [line, blockLines, placed, isBreak, column, indented.ne]
      rw [ended]
      exact .ok (.refl _)
  | crlf rest ih =>
      exact .onward (.carriageReturn (.refl _)) seated fun there => ih there (by simp)
  | cons c rest apart ih =>
      have ahead := seated.lineAhead
      rw [List.cons_append, blockLines.eq_3 _ _ _ _ _ _ _ _ apart,
        blockLines.eq_3 _ _ _ _ _ _ _ _ (ahead.not_crlf apart)]
      apply Follows.ite
      · intro _
        exact .onward (.lineBreak (.refl _)) seated fun there => ih there (by simp)
      · intro noBreak
        have sameLine := ne_lineFeed noBreak
        have way : Reaches ⟨c :: rest, mark⟩ ⟨rest, mark.next⟩ := .next sameLine (.refl _)
        apply Follows.ite
        · intro _
          exact .onward way seated fun there => ih there fun _ => ahead.of_cons sameLine
        · intro _
          apply Follows.ite
          · intro _
            exact .onward way seated fun there => ih there (by simp)
          · intro _
            apply Follows.ite
            · exact fun _ => .misplaced
            · intro _
              apply Follows.ite
              · intro _
                exact .onward way seated fun there => ih there fun _ => ahead.of_cons sameLine
              · exact fun _ => .ok (.refl _)

theorem readBlock_follows {literal : Bool} {outer : Nat} {c : Char} {rest : List Char}
    {mark : Mark} (ahead : site.LineAhead rest) :
    Follows (Prod.map id (placed site)) (fun result => Reaches ⟨rest, mark.next⟩ result.2)
      (readBlock literal outer ⟨c :: rest, mark⟩)
      (readBlock literal outer (placed site ⟨c :: rest, mark⟩)) := by
  have start : Seated site ⟨rest, mark.next⟩ := .inl ahead
  apply (readHeader_follows (show site.LineAhead (Cursor.mk rest mark.next).rest from ahead)).bind
  rintro ⟨header, after⟩ first
  have seated := first.seated start
  apply Follows.ite
  · intro _
    apply (findContent_follows seated).bind
    rintro ⟨breaks, widest, content⟩ second
    have indented : 0 < max widest (max outer 1) := by omega
    apply (blockLines_follows indented (second.seated seated) (by simp)).bind
    rintro ⟨block, last⟩ third
    exact .ok (first.trans (second.trans third))
  · intro increment
    have indented : 0 < outer - 1 + header.increment := by omega
    apply (blockLines_follows indented seated (by simp)).bind
    rintro ⟨block, last⟩ second
    exact .ok (first.trans second)

end

/-! ## Plain scalars -/

/-- A plain scalar of a text as one of the longer text. -/
def PlainScalar.placed (site : Placement) (scalar : PlainScalar) : PlainScalar :=
  { scalar with
    stop := scalar.stop.placed site
    cursor := scalar.cursor.placed site }

theorem plainRest_follows {inFlow : Bool} {indent : Nat} {start other : Mark} {text : List Char}
    {stop : Mark} {gap : Gap} {resumes : Bool} {rest : List Char} {mark : Mark}
    (seated : Seated site ⟨rest, mark⟩) (pauses : resumes = true ∨ site.LineAhead rest) :
    Follows (PlainScalar.placed site) (fun scalar => Reaches ⟨rest, mark⟩ scalar.cursor)
      (plainRest ⟨inFlow, indent, start⟩ text stop gap resumes rest mark)
      (plainRest ⟨inFlow, indent, other⟩ text (stop.placed site) gap resumes (rest ++ site.tail)
        (mark.placed site)) := by
  induction rest using lines_induction generalizing text stop gap resumes mark with
  | nil =>
      have ended : plainRest ⟨inFlow, indent, other⟩ text (stop.placed site) gap resumes
          ([] ++ site.tail) (mark.placed site) =
          .ok (PlainScalar.placed site ⟨String.ofList text.reverse, stop, ⟨[], mark⟩,
            gap.hasBreak⟩) := by
        obtain alone | ⟨column, later, line⟩ := seated.tail_cases
        · simp [alone, plainRest, PlainScalar.placed, placed]
        · obtain rfl | ahead := pauses
          · simp [line, plainRest, PlainScalar.placed, placed, isBreak, isBlank, column,
              startsIndicator, endsWord]
          · have alone := ahead.tail_eq_nil
            rw [alone] at line
            cases line
      rw [ended]
      exact .ok (.refl _)
  | crlf rest ih =>
      exact .onward (.carriageReturn (.refl _)) seated fun there => ih there (.inl rfl)
  | cons c rest apart ih =>
      have ahead := seated.lineAhead
      have indicator := ahead.startsIndicator_append
      rw [List.cons_append] at indicator ⊢
      rw [plainRest.eq_3 _ _ _ _ _ _ _ _ apart,
        plainRest.eq_3 _ _ _ _ _ _ _ _ (ahead.not_crlf apart)]
      apply Follows.ite
      · intro _
        exact .onward (.lineBreak (.refl _)) seated fun there => ih there (.inl rfl)
      · intro noBreak
        have sameLine := ne_lineFeed noBreak
        have there := ahead.of_cons sameLine
        have way : Reaches ⟨c :: rest, mark⟩ ⟨rest, mark.next⟩ := .next sameLine (.refl _)
        apply Follows.ite
        · intro _
          apply Follows.ite
          · exact fun _ => .misplaced
          · intro _
            exact .onward way seated fun there => ih there (.inl rfl)
        · intro _
          simp only [Mark.column_placed, indicator, startsColonClash, there.startsWith_append,
            there.endsWord_append]
          apply Follows.ite
          · exact fun _ => .ok (.refl _)
          · intro _
            apply Follows.ite
            · exact fun _ => .misplaced
            · intro _
              apply Follows.ite
              · exact fun _ => .ok (.refl _)
              · intro _
                exact .onward way seated fun seated => ih seated (.inr there)

theorem isIndicator_of_isFlowIndicator {c : Char} (flow : isFlowIndicator c = true) :
    Scanner.isIndicator c = true := by
  simp only [isFlowIndicator, Bool.or_eq_true, decide_eq_true_eq] at flow
  obtain (((rfl | rfl) | rfl) | rfl) | rfl := flow <;> decide +kernel

/-- The first character of a plain scalar belongs to it. -/
theorem readPlain_cons {inFlow : Bool} {indent : Nat} {c : Char} {rest : List Char} {mark : Mark}
    (starts : Scanner.startsPlain inFlow c rest = true) :
    readPlain inFlow indent ⟨c :: rest, mark⟩ =
      plainRest ⟨inFlow, indent, mark⟩ [c] mark.next .none false rest mark.next := by
  have visible : isBreak c = false ∧ isBlank c = false ∧
      (inFlow && c = ':' && startsColonClash rest) = false ∧
      (c = ':' && endsWord rest || inFlow && isFlowIndicator c) = false := by
    simp only [Scanner.startsPlain, Bool.or_eq_true] at starts
    obtain (ordinary | hyphen) | indicator := starts
    · have noFlow := mt (isIndicator_of_isFlowIndicator (c := c))
      have noColon : c ≠ ':' := by
        rintro rfl
        revert ordinary
        decide +kernel
      simp_all
    · simp only [Bool.and_eq_true, decide_eq_true_eq] at hyphen
      obtain ⟨rfl, -⟩ := hyphen
      simp [isBreak, isBlank, isFlowIndicator]
    · simp only [Bool.and_eq_true, Bool.or_eq_true, decide_eq_true_eq, Bool.not_eq_true']
        at indicator
      obtain ⟨⟨rfl, rfl | rfl⟩, word⟩ := indicator <;> simp [isBreak, isBlank, word]
  obtain ⟨noBreak, noBlank, noClash, goesOn⟩ := visible
  have apart (later : List Char) (first : c = '\r') (_ : rest = '\n' :: later) : False := by
    rw [first] at noBreak
    cases noBreak
  simp [readPlain, plainRest.eq_3 _ _ _ _ _ _ _ _ apart, noBreak, noBlank, noClash, goesOn,
    Gap.none, Gap.folded]

theorem readPlain_follows {inFlow : Bool} {indent : Nat} {c : Char} {rest : List Char}
    {mark : Mark} (ahead : site.LineAhead rest)
    (starts : Scanner.startsPlain inFlow c rest = true) :
    Follows (PlainScalar.placed site) (fun scalar => Reaches ⟨rest, mark.next⟩ scalar.cursor)
      (readPlain inFlow indent ⟨c :: rest, mark⟩)
      (readPlain inFlow indent (placed site ⟨c :: rest, mark⟩)) := by
  have starts' : Scanner.startsPlain inFlow c (rest ++ site.tail) = true := by
    rw [← starts]
    simp only [Scanner.startsPlain, ahead.startsWith_append, ahead.endsWord_append]
  rw [readPlain_cons starts, placed, List.cons_append, readPlain_cons starts']
  exact plainRest_follows (.inl ahead) (.inr ahead)

/-! ## Quoted scalars -/

/-- Read on behind a backslash between double quotes. -/
def quotedEscape (start : Mark) (joined rest : List Char) (mark : Mark) :
    Except Fault (String × Cursor) :=
  match rest with
  | '\r' :: '\n' :: rest =>
      quotedRest '"' start joined (.breaks [] []) rest (mark.next.nextLine 2)
  | 'x' :: a :: b :: rest => do
      let decoded ← codePointEscape start (mark.nextBy 2) [a, b]
      quotedRest '"' start (decoded :: joined) .none rest (mark.nextBy 4)
  | 'u' :: a :: b :: c :: d :: rest => do
      let decoded ← codePointEscape start (mark.nextBy 2) [a, b, c, d]
      quotedRest '"' start (decoded :: joined) .none rest (mark.nextBy 6)
  | 'U' :: a :: b :: c :: d :: e :: f :: g :: h :: rest => do
      let decoded ← codePointEscape start (mark.nextBy 2) [a, b, c, d, e, f, g, h]
      quotedRest '"' start (decoded :: joined) .none rest (mark.nextBy 10)
  | e :: rest =>
      if isBreak e then
        quotedRest '"' start joined (.breaks [] []) rest (mark.next.nextLine 1)
      else if e = 'x' || e = 'u' || e = 'U' then
        misplaced .expectedHexadecimal (mark.nextBy 2) .quotedEscape start
      else
        match shortEscape? e with
        | some decoded =>
            quotedRest '"' start (decoded :: joined) .none rest (mark.nextBy 2)
        | none => misplaced .unknownEscape mark .quotedEscape start
  | [] => misplaced .unknownEscape mark .quotedEscape start

/-- Read on behind the quote that closes a scalar or stands for itself. -/
def quotedQuote (start : Mark) (joined rest : List Char) (mark : Mark) :
    Except Fault (String × Cursor) :=
  match rest with
  | '\'' :: rest => quotedRest '\'' start ('\'' :: joined) .none rest (mark.nextBy 2)
  | rest => .ok (String.ofList joined.reverse, ⟨rest, mark.next⟩)

theorem quotedRest_cons {quote : Char} {start : Mark} {text : List Char} {gap : Gap} {c : Char}
    {rest : List Char} {mark : Mark}
    (apart : ∀ later, c = '\r' → rest = '\n' :: later → False) :
    quotedRest quote start text gap (c :: rest) mark =
      if isBreak c then quotedRest quote start text (gap.addBreak c) rest (mark.nextLine 1)
      else if isBlank c then quotedRest quote start text (gap.addBlank c) rest mark.next
      else if mark.column = 0 && startsIndicator (c :: rest) then
        misplaced .documentIndicator mark .quotedScalar start
      else if c = '\'' && quote = '\'' then
        quotedQuote start (gap.folded ++ text) rest mark
      else if c = '"' && quote = '"' then
        .ok (String.ofList (gap.folded ++ text).reverse, ⟨rest, mark.next⟩)
      else if c = '\\' && quote = '"' then
        quotedEscape start (gap.folded ++ text) rest mark
      else quotedRest quote start (c :: (gap.folded ++ text)) .none rest mark.next := by
  rw [quotedRest.eq_def]
  split
  · rename_i shape
    cases shape
  · rename_i shape
    cases shape
    exact (apart _ rfl rfl).elim
  · rename_i shape
    cases shape
    refine if_congr Iff.rfl rfl (if_congr Iff.rfl rfl (if_congr Iff.rfl rfl ?_))
    by_cases single : (c = '\'' && quote = '\'') = true
    · obtain rfl : quote = '\'' := by simp_all
      exact if_congr Iff.rfl rfl (by simp_all)
    · rw [if_neg single, if_neg single]
      refine if_congr Iff.rfl rfl ?_
      by_cases escape : (c = '\\' && quote = '"') = true
      · obtain rfl : quote = '"' := by simp_all
        exact if_congr Iff.rfl rfl rfl
      · rw [if_neg escape, if_neg escape]

theorem quotedEscape_cons {start : Mark} {joined : List Char} {e : Char} {rest : List Char}
    {mark : Mark} (apart : ∀ later, e = '\r' → rest = '\n' :: later → False)
    (letter : e ≠ 'x' ∧ e ≠ 'u' ∧ e ≠ 'U') :
    quotedEscape start joined (e :: rest) mark =
      if isBreak e then
        quotedRest '"' start joined (.breaks [] []) rest (mark.next.nextLine 1)
      else
        match shortEscape? e with
        | some decoded =>
            quotedRest '"' start (decoded :: joined) .none rest (mark.nextBy 2)
        | none => misplaced .unknownEscape mark .quotedEscape start := by
  obtain ⟨x, u, U⟩ := letter
  rw [quotedEscape.eq_5]
  · simp [x, u, U]
  · exact apart
  · exact fun _ _ _ same => absurd same x
  · exact fun _ _ _ _ _ same => absurd same u
  · exact fun _ _ _ _ _ _ _ _ _ same => absurd same U

/-- Whether a quoted scalar that goes on with some text is read alike in the longer text. -/
def QuotedAlike (site : Placement) (quote : Char) (start other : Mark) (rest : List Char) : Prop :=
  ∀ text gap mark, Seated site ⟨rest, mark⟩ →
    Follows (Prod.map id (placed site)) (fun result => Reaches ⟨rest, mark⟩ result.2)
      (quotedRest quote start text gap rest mark)
      (quotedRest quote other text gap (rest ++ site.tail) (mark.placed site))

section

variable {start other : Mark} {joined rest : List Char} {mark : Mark}

theorem codePointEscape_follows {place place' : Mark} {digits : List Char} :
    Follows id (fun _ => '\n' ∉ digits) (codePointEscape start place digits)
      (codePointEscape other place' digits) := by
  unfold codePointEscape
  split
  · exact .misplaced
  · rename_i code number
    exact .ite (fun _ => .misplaced) (fun _ => .ok (not_mem_of_ofDigits? number))

/-- A code point and what follows it; `count` is the length of the escape. -/
theorem codePoint_follows {letter : Char} {digits : List Char} {place place' : Mark} {count : Nat}
    (visible : letter ≠ '\n') (length : count = digits.length + 2)
    (seated : Seated site ⟨'\\' :: letter :: (digits ++ rest), mark⟩)
    (alike : QuotedAlike site '"' start other rest) :
    Follows (Prod.map id (placed site))
      (fun result => Reaches ⟨'\\' :: letter :: (digits ++ rest), mark⟩ result.2)
      (codePointEscape start place digits >>= fun decoded =>
        quotedRest '"' start (decoded :: joined) .none rest (mark.nextBy count))
      (codePointEscape other place' digits >>= fun decoded =>
        quotedRest '"' other (decoded :: joined) .none (rest ++ site.tail)
          ((mark.nextBy count).placed site)) := by
  apply codePointEscape_follows.bind
  intro decoded sameLine
  have escape : '\n' ∉ '\\' :: letter :: digits := by
    simpa [visible.symm] using sameLine
  have way := (along_advanceBy escape rest mark).reaches
  rw [show ('\\' :: letter :: digits).length = count from length.symm] at way
  exact .onward way seated (alike _ _ _)

theorem length_lt_behind (c : Char) (front later : List Char) :
    later.length < (c :: (front ++ later)).length := by
  rw [List.length_cons, List.length_append]
  omega

theorem quotedEscape_follows (seated : Seated site ⟨'\\' :: rest, mark⟩)
    (shorter : ∀ later, later.length < rest.length → QuotedAlike site '"' start other later) :
    Follows (Prod.map id (placed site)) (fun result => Reaches ⟨'\\' :: rest, mark⟩ result.2)
      (quotedEscape start joined rest mark)
      (quotedEscape other joined (rest ++ site.tail) (mark.placed site)) := by
  have ahead := seated.lineAhead.of_cons (by decide)
  fun_cases quotedEscape start joined rest mark with
  | case1 rest =>
      have way : Reaches ⟨'\\' :: '\r' :: '\n' :: rest, mark⟩ ⟨rest, mark.next.nextLine 2⟩ :=
        .next (by decide) (.carriageReturn (.refl _))
      exact .onward way seated (shorter rest (length_lt_behind '\r' ['\n'] rest) _ _ _)
  | case2 a b rest =>
      simp only [List.cons_append, quotedEscape, Mark.nextBy_placed]
      exact codePoint_follows (by decide) rfl seated
        (shorter rest (length_lt_behind 'x' [a, b] rest))
  | case3 a b c d rest =>
      simp only [List.cons_append, quotedEscape, Mark.nextBy_placed]
      exact codePoint_follows (by decide) rfl seated
        (shorter rest (length_lt_behind 'u' [a, b, c, d] rest))
  | case4 a b c d e f g h rest =>
      simp only [List.cons_append, quotedEscape, Mark.nextBy_placed]
      exact codePoint_follows (by decide) rfl seated
        (shorter rest (length_lt_behind 'U' [a, b, c, d, e, f, g, h] rest))
  | case5 e rest apart _ _ _ lineBreak =>
      have letter : e ≠ 'x' ∧ e ≠ 'u' ∧ e ≠ 'U' := by
        refine ⟨?_, ?_, ?_⟩ <;> (rintro rfl; cases lineBreak)
      rw [List.cons_append, quotedEscape_cons (ahead.not_crlf apart) letter, if_pos lineBreak]
      have way : Reaches ⟨'\\' :: e :: rest, mark⟩ ⟨rest, mark.next.nextLine 1⟩ :=
        .next (by decide) (.lineBreak (.refl _))
      exact .onward way seated (shorter rest (by simp) _ _ _)
  | case7 e rest apart _ _ _ noBreak notHex decoded known =>
      have letter : e ≠ 'x' ∧ e ≠ 'u' ∧ e ≠ 'U' := by simpa [and_assoc] using notHex
      rw [List.cons_append, quotedEscape_cons (ahead.not_crlf apart) letter, if_neg noBreak, known]
      have way : Reaches ⟨'\\' :: e :: rest, mark⟩ ⟨rest, mark.nextBy 2⟩ :=
        .next (by decide) (.next (ne_lineFeed noBreak) (.refl _))
      exact .onward way seated (shorter rest (by simp) _ _ _)
  | _ => exact .misplaced

end

theorem quotedQuote_follows {start other : Mark} {joined rest : List Char} {mark : Mark}
    (seated : Seated site ⟨'\'' :: rest, mark⟩)
    (shorter : ∀ later, later.length < rest.length → QuotedAlike site '\'' start other later) :
    Follows (Prod.map id (placed site)) (fun result => Reaches ⟨'\'' :: rest, mark⟩ result.2)
      (quotedQuote start joined rest mark)
      (quotedQuote other joined (rest ++ site.tail) (mark.placed site)) := by
  have ahead := seated.lineAhead.of_cons (by decide)
  have step : Reaches ⟨'\'' :: rest, mark⟩ ⟨rest, mark.next⟩ := .next (by decide) (.refl _)
  fun_cases quotedQuote start joined rest mark with
  | case1 rest =>
      have way : Reaches ⟨'\'' :: '\'' :: rest, mark⟩ ⟨rest, mark.nextBy 2⟩ :=
        step.trans (.next (by decide) (.refl _))
      rw [List.cons_append, quotedQuote, Mark.nextBy_placed]
      exact .onward way seated (shorter rest (by simp) _ _ _)
  | case2 rest single =>
      have ends : quotedQuote other joined (rest ++ site.tail) (mark.placed site) =
          .ok (String.ofList joined.reverse, placed site ⟨rest, mark.next⟩) := by
        rw [quotedQuote.eq_2]
        · rfl
        · intro later same
          obtain alone | ⟨line, rfl⟩ := ahead.split
          · rw [alone, List.append_nil] at same
            exact single later same
          · cases line with
            | nil => cases same
            | cons c line =>
                cases same
                exact single _ rfl
      rw [ends]
      exact .ok step

theorem quotedRest_alike {quote : Char} {start other : Mark} (rest : List Char) :
    QuotedAlike site quote start other rest := by
  -- An escape takes several characters at once, so the induction is on the length.
  induction length : rest.length using Nat.strong_induction_on generalizing rest with
  | _ count ih =>
  subst length
  have shorter (later : List Char) (less : later.length < rest.length) :
      QuotedAlike site quote start other later := ih later.length less later rfl
  intro text gap mark seated
  cases rest with
  | nil =>
      rw [quotedRest]
      exact .misplaced
  | cons c rest =>
      by_cases crlf : ∃ later, c = '\r' ∧ rest = '\n' :: later
      · obtain ⟨later, rfl, rfl⟩ := crlf
        rw [List.cons_append, List.cons_append, quotedRest, quotedRest, Mark.nextLine_placed]
        exact .onward (.carriageReturn (.refl _)) seated
          (shorter later (length_lt_behind '\r' ['\n'] later) _ _ _)
      · have apart (later : List Char) (first : c = '\r') (second : rest = '\n' :: later) : False :=
          crlf ⟨later, first, second⟩
        have ahead := seated.lineAhead
        have indicator := ahead.startsIndicator_append
        have onward := shorter rest (by simp)
        rw [List.cons_append] at indicator ⊢
        rw [quotedRest_cons apart, quotedRest_cons (ahead.not_crlf apart), Mark.column_placed,
          indicator]
        apply Follows.ite
        · intro _
          exact .onward (.lineBreak (.refl _)) seated (onward _ _ _)
        · intro noBreak
          have sameLine := ne_lineFeed noBreak
          have way : Reaches ⟨c :: rest, mark⟩ ⟨rest, mark.next⟩ := .next sameLine (.refl _)
          apply Follows.ite
          · intro _
            exact .onward way seated (onward _ _ _)
          · intro _
            apply Follows.ite
            · exact fun _ => .misplaced
            · intro _
              apply Follows.ite
              · intro single
                simp only [Bool.and_eq_true, decide_eq_true_eq] at single
                obtain ⟨rfl, rfl⟩ := single
                exact quotedQuote_follows seated fun later less =>
                  shorter later (Nat.lt_succ_of_lt less)
              · intro _
                apply Follows.ite
                · exact fun _ => .ok way
                · intro _
                  apply Follows.ite
                  · intro escape
                    simp only [Bool.and_eq_true, decide_eq_true_eq] at escape
                    obtain ⟨rfl, rfl⟩ := escape
                    exact quotedEscape_follows seated fun later less =>
                      shorter later (Nat.lt_succ_of_lt less)
                  · intro _
                    exact .onward way seated (onward _ _ _)

theorem readQuoted_follows {quote c : Char} {rest : List Char} {mark : Mark}
    (ahead : site.LineAhead rest) :
    Follows (Prod.map id (placed site)) (fun result => Reaches ⟨rest, mark.next⟩ result.2)
      (readQuoted quote ⟨c :: rest, mark⟩) (readQuoted quote (placed site ⟨c :: rest, mark⟩)) :=
  quotedRest_alike rest _ _ _ (.inl ahead)

end ManifestLint.Yaml
