import ManifestLint.Proofs.TokenRuns

/-!
# Two texts with a line of hyphens between them

A text that ends with a line break is read to its end and the hyphens start the next
document there.  Outside flow collections what follows is then read as a text of its own.
-/

namespace ManifestLint.Yaml

open Cursor

namespace Scanner

variable {site : Placement} {scanner settled next : Scanner} {depth : Option Nat}

/-- Whether no key is pending. -/
def Keyless (scanner : Scanner) : Prop :=
  ∀ key, ¬scanner.Holds key

theorem Keyless.dropKey (keyless : scanner.Keyless) : scanner.dropKey = .ok scanner := by
  unfold Scanner.dropKey
  split
  · rename_i key pending
    exact (keyless key (.inl pending)).elim
  · rfl

theorem dropStale_outer_of_none (place : Mark) {keys : List (Option PendingKey)}
    (empty : ∀ key ∈ keys, key = none) : keys.mapM (dropStale place) = .ok keys := by
  induction keys with
  | nil => rfl
  | cons key rest ih =>
      obtain ⟨rfl, others⟩ := List.forall_mem_cons.mp empty
      rw [List.mapM_cons, ih others]
      rfl

theorem Keyless.outerKeys (keyless : scanner.Keyless) : ∀ key ∈ scanner.outerKeys, key = none := by
  intro key member
  cases key with
  | none => rfl
  | some key => exact (keyless key (.inr member)).elim

theorem Keyless.key (keyless : scanner.Keyless) : scanner.key = none := by
  cases pending : scanner.key with
  | none => rfl
  | some key => exact (keyless key (.inl pending)).elim

theorem Keyless.dropStaleKeys (keyless : scanner.Keyless) :
    scanner.dropStaleKeys = .ok scanner := by
  unfold Scanner.dropStaleKeys
  rw [dropStale_outer_of_none _ keyless.outerKeys, keyless.key]
  have same : { scanner with key := none } = scanner := by
    rw [← keyless.key]
  exact congrArg Except.ok same

theorem Keyless.splitQueue (keyless : scanner.Keyless) (number : Nat) (queue : List Token) :
    scanner.splitQueue number queue = (queue, []) := by
  have free (number : Nat) : scanner.isPending number = false := by
    simp only [isPending, keyless.key, List.any_cons, Option.any_none, Bool.false_or,
      List.any_eq_false]
    intro key member
    simp [keyless.outerKeys key member]
  induction queue generalizing number with
  | nil => rfl
  | cons token rest ih => simp [Scanner.splitQueue, free, ih]

theorem Keyless.release (keyless : scanner.Keyless) :
    scanner.release =
      (scanner.queue,
        { scanner with queue := [], released := scanner.released + scanner.queue.length }) := by
  simp only [Scanner.release, keyless.splitQueue]

theorem Keyless.closeBlocks (keyless : scanner.Keyless) (least : Nat) :
    (scanner.closeBlocks least).Keyless :=
  fun key held => keyless key (holds_closeBlocks.mp held)

/-- At the start of a line every pending key is stale. -/
theorem Settles.keyless (settles : scanner.Settles settled) (steady : scanner.Steady depth)
    (lineStart : settled.mark.column = 0) : settled.Keyless := by
  intro key held
  have before := (steady.settles settles).keys key held
  have young := (settles.keys key held).2
  simp only [Mark.Before] at before
  simp only [isStale, Bool.or_eq_false_iff, decide_eq_false_iff_not] at young
  omega

/-- The state behind three hyphens, once all blocks are closed. -/
def hyphens (closed : Scanner) : Scanner :=
  { closed with keyAllowed := false }.indicator .documentStart 3

/-- That state when all tokens are released. -/
def seam (closed : Scanner) (rest : List Char) : Scanner where
  cursor := ⟨'\n' :: rest, closed.mark.nextBy 3⟩
  queue := []
  released := closed.released + (closed.queue.length + 1)
  indents := closed.indents
  key := none
  outerKeys := closed.outerKeys
  keyAllowed := false
  finished := false

theorem Keyless.hyphens (keyless : scanner.Keyless) : scanner.hyphens.Keyless :=
  keyless

theorem Keyless.release_hyphens (keyless : scanner.Keyless) (unfinished : scanner.finished = false)
    {rest : List Char} (here : scanner.cursor.rest = '-' :: '-' :: '-' :: '\n' :: rest) :
    scanner.hyphens.release =
      (scanner.queue ++ [⟨.documentStart, scanner.mark, scanner.mark.nextBy 3⟩],
        scanner.seam rest) := by
  have behind : scanner.cursor.advanceBy 3 = ⟨'\n' :: rest, scanner.mark.nextBy 3⟩ := by
    rw [advanceBy, here]
    rfl
  rw [keyless.hyphens.release]
  simp only [Scanner.hyphens, indicator, enqueue, behind, keyless.key, unfinished, seam,
    List.length_append, List.length_singleton]
  rfl

theorem splitIndents_zero (indents : List Nat) : (splitIndents 0 indents).1 = [] := by
  induction indents with
  | nil => rfl
  | cons column outer ih => simp [splitIndents, ih]

theorem indents_closeBlocks (outside : (scanner.closeBlocks 0).outerKeys = []) :
    (scanner.closeBlocks 0).indents = [] := by
  have keys : (scanner.closeBlocks 0).outerKeys = scanner.outerKeys := by
    unfold closeBlocks
    split <;> rfl
  have noFlow : scanner.inFlow = false := by
    rw [inFlow, ← keys, outside]
    rfl
  rw [closeBlocks, noFlow]
  exact splitIndents_zero scanner.indents

theorem Keyless.placed (keyless : scanner.Keyless) : (scanner.placed site).Keyless := by
  rintro key (inner | outside)
  · change scanner.key.map _ = _ at inner
    rw [keyless.key] at inner
    cases inner
  · obtain ⟨own, pending, shape⟩ := List.mem_map.mp outside
    rw [keyless.outerKeys own pending] at shape
    cases shape

/-- Before the last step of a text with something behind it, the cursor is at the start
of a line and no key is pending. -/
theorem settled_at_end (steady : scanner.Steady depth) (seated : scanner.cursor.Seated site)
    (followed : site.tail ≠ []) (success : scanner.step = .ok next)
    (finished : next.finished = true) :
    ∃ settled read, scanner.settle = .ok settled ∧ settled.readEnd = .ok read ∧
      read.dropStaleKeys = .ok next ∧ settled.cursor = ⟨[], settled.mark⟩ ∧
      settled.mark.column = 0 ∧ settled.Keyless ∧ settled.Steady depth := by
  obtain ⟨settled, read, first, second, third⟩ := step_eq_ok_iff.mp success
  obtain ⟨-, settles⟩ := settle_follows seated settled first
  unfold readHere at second
  cases shape : settled.cursor.rest with
  | cons c rest =>
      rw [shape] at second
      have here : settled.cursor = ⟨c :: rest, settled.mark⟩ := by
        rw [mark, ← shape]
      obtain ⟨-, advances⟩ := @readToken_follows .alone settled _ _ _ here (.inl rfl)
        (settles.visible c rest shape) read second
      obtain ⟨-, prepares, -⟩ := @dropStaleKeys_follows .alone read next third
      have unfinished := ((steady.settles settles).advances advances).finished
      rw [prepares.finished, unfinished] at finished
      cases finished
  | nil =>
      rw [shape] at second
      have here : settled.cursor = ⟨[], settled.mark⟩ := by
        rw [mark, ← shape]
      have there := settles.cursor.seated seated
      rw [here] at there
      obtain alone | ⟨column, -⟩ := there.tail_cases
      · exact (followed alone).elim
      · exact ⟨settled, read, first, second, third, here, column, settles.keyless steady column,
          steady.settles settles⟩

/-- At the end of a text all blocks are closed. -/
theorem readEnd_of_keyless (here : scanner.cursor = ⟨[], scanner.mark⟩)
    (column : scanner.mark.column = 0) (keyless : scanner.Keyless) :
    scanner.readEnd =
      .ok ({ scanner.closeBlocks 0 with keyAllowed := false, finished := true }.enqueue .streamEnd
        scanner.mark scanner.mark) := by
  have ended : endMark scanner.mark = scanner.mark := if_pos column
  have same : { scanner with cursor := ⟨[], scanner.mark⟩ } = scanner := by
    rw [← here]
  rw [readEnd_eq, ended, same, (keyless.closeBlocks 0).dropKey]
  rfl

/-- Three hyphens at the start of a line close all blocks, too. -/
theorem readHere_of_hyphens {rest : List Char}
    (here : scanner.cursor.rest = '-' :: '-' :: '-' :: '\n' :: rest)
    (column : scanner.mark.column = 0) (keyless : scanner.Keyless) :
    scanner.readHere =
      .ok (scanner.closeBlocks 0).hyphens := by
  have bounds : startsIndicator ('-' :: '-' :: '-' :: '\n' :: rest) = true := rfl
  rw [readHere, here]
  simp only [readToken, column, bounds]
  rw [readDocumentIndicator, (keyless.closeBlocks 0).dropKey]
  rfl

/-- The last step of a text that ends with a line break, and the step over the hyphens in
its place. -/
theorem step_at_end (steady : scanner.Steady depth) (seated : scanner.cursor.Seated site)
    {rest : List Char} (line : site.tail = '-' :: '-' :: '-' :: '\n' :: rest)
    (success : scanner.step = .ok next) (finished : next.finished = true) :
    ∃ closed : Scanner, closed.Steady depth ∧ closed.Keyless ∧
      (closed.outerKeys = [] → closed.indents = []) ∧
      next.release.1 = closed.queue ++ [⟨.streamEnd, closed.mark, closed.mark⟩] ∧
      (closed.placed site).cursor.rest = '-' :: '-' :: '-' :: '\n' :: rest ∧
      (scanner.placed site).step = .ok (closed.placed site).hyphens := by
  have followed : site.tail ≠ [] := by simp [line]
  obtain ⟨settled, read, first, second, third, here, column, keyless, steady'⟩ :=
    settled_at_end steady seated followed success finished
  have closes := closeBlocks_prepares settled 0
  have keyless' := keyless.closeBlocks 0
  have ended := readEnd_of_keyless here column keyless
  obtain rfl : _ = read := Except.ok.inj (ended.symm.trans second)
  have dropped : Keyless ({ settled.closeBlocks 0 with
      keyAllowed := false, finished := true }.enqueue .streamEnd settled.mark settled.mark) :=
    keyless'
  obtain rfl : _ = next := Except.ok.inj (dropped.dropStaleKeys.symm.trans third)
  obtain ⟨settle', -⟩ := settle_follows seated settled first
  have there : (settled.placed site).cursor.rest = '-' :: '-' :: '-' :: '\n' :: rest := by
    change settled.cursor.rest ++ site.tail = _
    rw [here, line]
    rfl
  have read' := readHere_of_hyphens there column keyless.placed
  rw [closeBlocks_placed] at read'
  refine ⟨settled.closeBlocks 0, ?_, keyless', indents_closeBlocks, ?_, ?_, ?_⟩
  · exact steady'.prepares closes fun key held => (keyless' key held).elim
  · rw [dropped.release, closes.mark]
    rfl
  · rw [← there]
    exact congrArg (fun cursor : Cursor => cursor.rest ++ site.tail) closes.cursor
  · exact step_eq_ok_iff.mpr ⟨_, _, settle', read', keyless'.placed.hyphens.dropStaleKeys⟩

/-! ## Behind the hyphens -/

/-- The place of a text behind a line of hyphens. -/
def behind (closed : Scanner) : Placement :=
  { Placement.alone with
    index := closed.mark.index + 4
    line := closed.mark.line + 1
    tokens := closed.released + (closed.queue.length + 1) }

theorem step_congr (same : scanner.approach = next.approach) : scanner.step = next.step := by
  unfold step readNext
  rw [same]

/-- Outside flow collections the text behind the hyphens is read from its start. -/
theorem step_seam {closed : Scanner} (outside : closed.outerKeys = [])
    (indents : closed.indents = []) (text : List Char) :
    (closed.seam text).step = ((start text).placed closed.behind).step := by
  apply step_congr
  simp [approach, seam, behind, Placement.alone, start, placed, Cursor.placed, mark, inFlow,
    outside, indents, passBlanks, isBreak, Mark.start, Mark.placed, Mark.nextBy, Mark.nextLine]

theorem runAll_seam {closed : Scanner} (outside : closed.outerKeys = [])
    (indents : closed.indents = []) (text : List Char) :
    (closed.seam text).runAll = ((start text).placed closed.behind).runAll := by
  have steady : ((start text).placed closed.behind).Steady (some 0) := (Steady.start text).placed
  have length : ((start text).placed closed.behind).cursor.rest.length = text.length := by
    simp [placed, start, behind, Placement.alone]
  have enough : ((start text).placed closed.behind).cursor.rest.length < text.length + 2 := by
    omega
  rw [← run_eq_runAll steady enough, run_succ, ← step_seam outside indents, ← run_succ]
  rfl

end Scanner

/-- The place of a text in front of a line of hyphens and more text. -/
def Placement.before (later : List Char) : Placement :=
  ⟨0, 0, 0, '-' :: '-' :: '-' :: '\n' :: later, .inr ⟨later, rfl⟩⟩

theorem Mark.placed_before (later : List Char) : Mark.placed (.before later) = id :=
  funext fun mark => placed_start _ mark rfl rfl

theorem Token.mapMarks_before (later : List Char) :
    List.map (Token.mapMarks (Mark.placed (.before later))) = id := by
  funext tokens
  rw [Mark.placed_before]
  exact List.map_id tokens

namespace Scanner

theorem start_placed_before (text later : List Char) :
    (start text).placed (.before later) = start (text ++ '-' :: '-' :: '-' :: '\n' :: later) := by
  simp [placed, start, Cursor.placed, Mark.placed_before]
  simp [Placement.before]

/-- What the scanner makes of a text that ends with a line break, alone and with a line
of hyphens and more text behind it.  Either the text has a fault, and the tokens in front
of it stay; or the start of a document takes the place of the end of the stream. -/
theorem runAll_seamed {text : List Char} (ended : text = [] ∨ text.getLast? = some '\n')
    (later : List Char) :
    ((start text).runAll.fault ≠ none ∧ (start text).runAll.tokens <+:
      (start (text ++ '-' :: '-' :: '-' :: '\n' :: later)).runAll.tokens) ∨
    ∃ closed : Scanner, ∃ tokens,
      (start text).runAll = ⟨tokens ++ [⟨.streamEnd, closed.mark, closed.mark⟩], none⟩ ∧
      (start (text ++ '-' :: '-' :: '-' :: '\n' :: later)).runAll =
        (closed.seam later).runAll.prepend
          (tokens ++ [⟨.documentStart, closed.mark, closed.mark.nextBy 3⟩]) ∧
      flowDepth (some 0) tokens ≠ none ∧
      (flowDepth (some 0) tokens = some 0 →
        (closed.seam later).runAll = ((start later).placed closed.behind).runAll) := by
  have seated : (start text).cursor.Seated (.before later) := by
    obtain rfl | last := ended
    · exact .inr ⟨rfl, rfl⟩
    · exact .inl (.inr last)
  have steady := Steady.start text
  -- The scanner of the whole text takes the same steps up to the last one, which finds the
  -- hyphens where the text alone ends.
  obtain ⟨emitted, last, emits, atEnd⟩ := exists_emits steady
  obtain ⟨emits', steady', seated'⟩ := emits.placed steady seated
  have whole := emits'.runAll steady.placed
  rw [start_placed_before, Token.mapMarks_before, id] at whole
  rw [emits.runAll steady, whole]
  cases done : last.step with
  | error fault =>
      left
      rw [runAll_of_fault done]
      exact ⟨nofun, by simp [TokenStream.prepend, TokenStream.failed]⟩
  | ok next =>
      right
      have finished := atEnd next done
      obtain ⟨closed, balanced, keyless, indents, released, there, hyphens⟩ :=
        step_at_end steady' seated' rfl done finished
      have unfinished : (closed.placed (.before later)).finished = false := balanced.finished
      have queue : (closed.placed (.before later)).queue = closed.queue := by
        change List.map _ closed.queue = _
        rw [Token.mapMarks_before, id]
      have mark : (closed.placed (.before later)).mark = closed.mark := by
        rw [mark_placed, Mark.placed_before, id]
      refine ⟨closed.placed (.before later), emitted ++ closed.queue, ?_, ?_, ?_, ?_⟩
      · rw [runAll_of_finished done finished, released, mark]
        simp [TokenStream.prepend]
      · rw [runAll_of_step steady'.placed hyphens unfinished,
          keyless.placed.release_hyphens unfinished there, queue]
        simp [TokenStream.prepend]
      · rw [flowDepth_append, balanced.depth]
        exact Option.some_ne_none _
      · intro flat
        rw [flowDepth_append, balanced.depth, Option.some_inj, List.length_eq_zero_iff] at flat
        have outside : (closed.placed (.before later)).outerKeys = [] := by
          change List.map _ closed.outerKeys = _
          rw [flat]
          rfl
        exact runAll_seam outside (indents flat) later

end Scanner

end ManifestLint.Yaml
