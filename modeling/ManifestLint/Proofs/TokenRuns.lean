import ManifestLint.Proofs.PlacedScanner

/-!
# Runs of the scanner

The scanner emits tokens step by step until it ends the text or gives up.  Over a longer
text around its own it emits the same tokens; where its text ends, the line of hyphens
starts the next document.
-/

namespace ManifestLint.Yaml

open Cursor

namespace Scanner

variable {site : Placement} {scanner middle next : Scanner}

/-! ## A step -/

/-- Move to the next token, without the keys that are stale there and with the ends of
blocks before it. -/
def settle (scanner : Scanner) : Except Fault Scanner := do
  let scanner ← scanner.approach.dropStaleKeys
  return scanner.closeBlocks (scanner.mark.column + 1)

/-- Read the token at the cursor. -/
def readHere (scanner : Scanner) : Except Fault Scanner :=
  match scanner.cursor.rest with
  | [] => scanner.readEnd
  | c :: rest => scanner.readToken c rest

theorem readNext_eq (scanner : Scanner) : scanner.readNext = scanner.settle >>= readHere := by
  unfold readNext settle
  cases scanner.approach.dropStaleKeys <;> rfl

/-- What moving to a token does. -/
structure Settles (scanner next : Scanner) : Prop where
  cursor : Reaches scanner.cursor next.cursor
  visible : ∀ c rest, next.cursor.rest = c :: rest → ¬isBreak c = true
  keys : ∀ key, next.Holds key → scanner.Holds key ∧ isStale next.mark key = false
  flow : next.outerKeys.length = scanner.outerKeys.length
  depth : ∀ depth, flowDepth depth next.queue = flowDepth depth scanner.queue
  finished : next.finished = scanner.finished

theorem holds_closeBlocks {least : Nat} {key : PendingKey} :
    (scanner.closeBlocks least).Holds key ↔ scanner.Holds key := by
  unfold closeBlocks
  split <;> rfl

theorem settle_follows (seated : scanner.cursor.Seated site) :
    Follows (placed site) scanner.Settles scanner.settle (scanner.placed site).settle := by
  unfold settle
  rw [approach_placed scanner seated]
  apply (dropStaleKeys_follows scanner.approach).bind
  rintro next ⟨prepares, fresh⟩
  rw [mark_placed, Mark.column_placed, closeBlocks_placed]
  apply Follows.ok
  have closed := closeBlocks_prepares next (next.mark.column + 1)
  have there : (next.closeBlocks (next.mark.column + 1)).cursor = scanner.approach.cursor :=
    closed.cursor.trans prepares.cursor
  refine ⟨?_, ?_, ?_, ?_, ?_, ?_⟩
  · rw [there]
    exact passBlanks_reaches
  · intro c rest stop
    rw [there] at stop
    exact isBreak_of_passBlanks stop
  · intro key held
    obtain ⟨kept, young⟩ := fresh key (holds_closeBlocks.mp held)
    refine ⟨kept, ?_⟩
    rw [mark, there]
    exact young
  · exact closed.flow.trans prepares.flow
  · exact fun depth => (closed.depth depth).trans (prepares.depth depth)
  · exact closed.finished.trans prepares.finished

/-! ## Steps inside a text -/

/-- What holds between two tokens: keys are pending from before, and the tokens held
back, behind the given number of open collections, open those that are open now. -/
structure Steady (depth : Option Nat) (scanner : Scanner) : Prop where
  keys : ∀ key, scanner.Holds key → key.mark.Before scanner.mark
  depth : flowDepth depth scanner.queue = some scanner.outerKeys.length
  finished : scanner.finished = false

theorem Steady.start (text : List Char) : (start text).Steady (some 0) where
  keys key held := by
    obtain inner | outside := held
    · cases inner
    · cases outside
  depth := rfl
  finished := rfl

theorem Steady.settles {depth : Option Nat} (steady : scanner.Steady depth)
    (settles : scanner.Settles next) : next.Steady depth where
  keys key held := settles.cursor.before (steady.keys key (settles.keys key held).1)
  depth := by
    rw [settles.depth, settles.flow]
    exact steady.depth
  finished := settles.finished.trans steady.finished

theorem Steady.advances {depth : Option Nat} (steady : scanner.Steady depth)
    (advances : scanner.Advances next) : next.Steady depth where
  keys key held := by
    have further : scanner.mark.Before scanner.cursor.advance.mark := Mark.before_next
    obtain kept | noted := advances.keys key held
    · exact advances.cursor.before ((steady.keys key kept).trans further)
    · rw [noted]
      exact advances.cursor.before further
  depth := advances.depth depth steady.depth
  finished := advances.finished.trans steady.finished

theorem Steady.prepares {depth : Option Nat} (steady : scanner.Steady depth)
    (prepares : scanner.Prepares next) (keys : ∀ key, next.Holds key → scanner.Holds key) :
    next.Steady depth where
  keys key held := by
    rw [prepares.mark]
    exact steady.keys key (keys key held)
  depth := by
    rw [prepares.depth, prepares.flow]
    exact steady.depth
  finished := prepares.finished.trans steady.finished

/-- Read a token and drop the keys that are stale behind it. -/
def step (scanner : Scanner) : Except Fault Scanner :=
  scanner.readNext.bind dropStaleKeys

theorem step_eq_ok_iff :
    scanner.step = .ok next ↔ ∃ settled read, scanner.settle = .ok settled ∧
      settled.readHere = .ok read ∧ read.dropStaleKeys = .ok next := by
  have parts : scanner.step = (scanner.settle >>= readHere) >>= dropStaleKeys := by
    rw [← readNext_eq]
    rfl
  simp only [parts, bind_eq_ok_iff]
  constructor
  · rintro ⟨read, ⟨settled, first, second⟩, third⟩
    exact ⟨settled, read, first, second, third⟩
  · rintro ⟨settled, read, first, second, third⟩
    exact ⟨read, ⟨settled, first, second⟩, third⟩

theorem finished_of_readEnd (ended : scanner.readEnd = .ok next) : next.finished = true := by
  obtain ⟨dropped, -, shape⟩ := bind_eq_ok_iff.mp ended
  cases shape
  rfl

/-- A step that does not end the text reads a token at a character. -/
theorem step_cases (success : scanner.step = .ok next) (unfinished : next.finished = false) :
    ∃ settled c rest read, scanner.settle = .ok settled ∧
      settled.cursor = ⟨c :: rest, settled.mark⟩ ∧ settled.readToken c rest = .ok read ∧
      read.dropStaleKeys = .ok next := by
  obtain ⟨settled, read, first, second, third⟩ := step_eq_ok_iff.mp success
  cases shape : settled.cursor.rest with
  | nil =>
      rw [readHere, shape] at second
      obtain ⟨-, prepares, -⟩ := @dropStaleKeys_follows .alone read next third
      rw [prepares.finished, finished_of_readEnd second] at unfinished
      cases unfinished
  | cons c rest =>
      rw [readHere, shape] at second
      refine ⟨settled, c, rest, read, first, ?_, second, third⟩
      rw [mark, ← shape]

/-- A step inside a text is a step over the longer one. -/
theorem step_placed {depth : Option Nat} (steady : scanner.Steady depth)
    (seated : scanner.cursor.Seated site) (success : scanner.step = .ok next)
    (unfinished : next.finished = false) :
    (scanner.placed site).step = .ok (next.placed site) ∧ next.Steady depth ∧
      Reaches scanner.cursor next.cursor ∧
      next.cursor.rest.length < scanner.cursor.rest.length := by
  obtain ⟨settled, c, rest, read, first, here, second, third⟩ := step_cases success unfinished
  obtain ⟨settle', settles⟩ := settle_follows seated settled first
  have there := settles.cursor.seated seated
  rw [here] at there
  have visible := settles.visible c rest (congrArg Cursor.rest here)
  obtain ⟨token', advances⟩ := readToken_follows settled here there.lineAhead visible read second
  obtain ⟨drop', prepares, kept⟩ := @dropStaleKeys_follows site read next third
  have further : Reaches settled.cursor settled.cursor.advance := by
    rw [here]
    exact .next (ne_lineFeed visible) (.refl _)
  have behind : Reaches settled.cursor.advance next.cursor := by
    rw [prepares.cursor]
    exact advances.cursor
  refine ⟨?_, ?_, settles.cursor.trans (further.trans behind), ?_⟩
  · refine step_eq_ok_iff.mpr ⟨_, _, settle', ?_, drop'⟩
    have shape : (settled.placed site).cursor.rest = c :: (rest ++ site.tail) := by
      change settled.cursor.rest ++ site.tail = _
      rw [here]
      rfl
    rw [readHere, shape]
    exact token'
  · exact ((steady.settles settles).advances advances).prepares prepares
      fun key held => (kept key held).1
  · have short := behind.length_le
    have before := settles.cursor.length_le
    rw [here] at short before
    exact Nat.lt_of_le_of_lt short before

/-! ## Releasing tokens -/

theorem isPending_placed (number : Nat) :
    (scanner.placed site).isPending (number + site.tokens) = scanner.isPending number := by
  have same (key : Option PendingKey) : (key.map (placedKey site)).any
      (·.number = number + site.tokens) = key.any (·.number = number) := by
    cases key <;> simp [placedKey]
  simp [isPending, placed, same, Function.comp_def]

theorem splitQueue_placed (number : Nat) (queue : List Token) :
    (scanner.placed site).splitQueue (number + site.tokens)
        (queue.map (·.mapMarks (Mark.placed site))) =
      Prod.map (List.map (·.mapMarks (Mark.placed site))) (List.map (·.mapMarks (Mark.placed site)))
        (scanner.splitQueue number queue) := by
  induction queue generalizing number with
  | nil => rfl
  | cons token rest ih =>
      rw [List.map_cons, splitQueue, splitQueue, isPending_placed]
      split
      · rfl
      · have next := ih (number + 1)
        rw [Nat.add_right_comm] at next
        rw [next]
        rfl

theorem splitQueue_append (number : Nat) (queue : List Token) :
    (scanner.splitQueue number queue).1 ++ (scanner.splitQueue number queue).2 = queue := by
  induction queue generalizing number with
  | nil => rfl
  | cons token rest ih =>
      rw [splitQueue]
      split
      · rfl
      · simp [ih]

theorem release_placed (scanner : Scanner) :
    (scanner.placed site).release =
      (scanner.release.1.map (·.mapMarks (Mark.placed site)), scanner.release.2.placed site) := by
  have split : (scanner.placed site).splitQueue (scanner.placed site).released
      (scanner.placed site).queue = _ := splitQueue_placed scanner.released scanner.queue
  simp only [release, split]
  simp [placed, Nat.add_right_comm]

theorem Steady.release {depth : Option Nat} (steady : scanner.Steady depth) :
    scanner.release.2.Steady (flowDepth depth scanner.release.1) where
  keys := steady.keys
  depth := by
    have whole := @splitQueue_append scanner scanner.released scanner.queue
    have balanced := steady.depth
    rw [← whole, flowDepth_append] at balanced
    exact balanced
  finished := steady.finished

/-! ## Runs -/

/-- The stream of tokens of the rest of a text. -/
def runAll (scanner : Scanner) : TokenStream :=
  run (scanner.cursor.rest.length + 1) scanner

theorem run_succ (steps : Nat) (scanner : Scanner) :
    run (steps + 1) scanner =
      match scanner.step with
      | .error fault => .failed fault
      | .ok next =>
          if next.finished then ⟨next.release.1, none⟩
          else (run steps next.release.2).prepend next.release.1 :=
  rfl

/-- Each step shortens the text, so all numbers of steps that are large enough are
alike. -/
theorem run_eq_run {depth : Option Nat} {steps others : Nat} (steady : scanner.Steady depth)
    (enough : scanner.cursor.rest.length < steps) (enough' : scanner.cursor.rest.length < others) :
    run steps scanner = run others scanner := by
  induction steps generalizing scanner depth others with
  | zero => cases enough
  | succ steps ih =>
      obtain _ | others := others
      · cases enough'
      rw [run_succ, run_succ]
      cases success : scanner.step with
      | error fault => rfl
      | ok next =>
          dsimp only
          cases finished : next.finished with
          | true => rfl
          | false =>
              obtain ⟨-, steady', -, short⟩ :=
                step_placed steady (Seated.alone _) success finished
              have less : next.release.2.cursor.rest.length < scanner.cursor.rest.length := short
              have same : run steps next.release.2 = run others next.release.2 :=
                ih steady'.release (by omega) (by omega)
              rw [same]

theorem run_eq_runAll {depth : Option Nat} {steps : Nat} (steady : scanner.Steady depth)
    (enough : scanner.cursor.rest.length < steps) : run steps scanner = scanner.runAll :=
  run_eq_run steady enough (Nat.lt_succ_self _)

theorem runAll_of_fault {fault : Fault} (failure : scanner.step = .error fault) :
    scanner.runAll = .failed fault := by
  rw [runAll, run_succ, failure]

theorem runAll_of_finished (success : scanner.step = .ok next) (finished : next.finished = true) :
    scanner.runAll = ⟨next.release.1, none⟩ := by
  rw [runAll, run_succ, success]
  exact if_pos finished

theorem runAll_of_step {depth : Option Nat} (steady : scanner.Steady depth)
    (success : scanner.step = .ok next) (unfinished : next.finished = false) :
    scanner.runAll = next.release.2.runAll.prepend next.release.1 := by
  obtain ⟨-, steady', -, short⟩ := step_placed steady (Seated.alone _) success unfinished
  rw [runAll, run_succ, success]
  dsimp only
  rw [unfinished]
  exact congrArg (TokenStream.prepend _) (run_eq_runAll steady'.release short)

/-- Steps inside a text that lead from one state to another one and emit tokens. -/
inductive Emits : Scanner → List Token → Scanner → Prop
  | refl (scanner : Scanner) : Emits scanner [] scanner
  | step {scanner next last : Scanner} {tokens : List Token} (success : scanner.step = .ok next)
      (unfinished : next.finished = false) (later : Emits next.release.2 tokens last) :
      Emits scanner (next.release.1 ++ tokens) last

/-- Whether the next step ends the text or gives up. -/
def AtEnd (scanner : Scanner) : Prop :=
  ∀ next, scanner.step = .ok next → next.finished = true

variable {last : Scanner} {tokens : List Token}

theorem Emits.placed {depth : Option Nat} (emits : scanner.Emits tokens last)
    (steady : scanner.Steady depth) (seated : scanner.cursor.Seated site) :
    (scanner.placed site).Emits (tokens.map (·.mapMarks (Mark.placed site))) (last.placed site) ∧
      last.Steady (flowDepth depth tokens) ∧ last.cursor.Seated site := by
  induction emits generalizing depth with
  | refl scanner => exact ⟨.refl _, steady, seated⟩
  | @step scanner next last tokens success unfinished later ih =>
      obtain ⟨success', steady', way, -⟩ := step_placed steady seated success unfinished
      obtain ⟨later', steady'', seated'⟩ := ih steady'.release (way.seated seated)
      have released := @release_placed site next
      refine ⟨?_, ?_, seated'⟩
      · have first := @Emits.step _ (next.placed site) (last.placed site)
          (tokens.map (·.mapMarks (Mark.placed site))) success' unfinished
        rw [released] at first
        rw [List.map_append]
        exact first later'
      · rw [flowDepth_append]
        exact steady''

theorem Emits.runAll {depth : Option Nat} (emits : scanner.Emits tokens last)
    (steady : scanner.Steady depth) : scanner.runAll = last.runAll.prepend tokens := by
  induction emits generalizing depth with
  | refl scanner => rfl
  | step success unfinished later ih =>
      obtain ⟨-, steady', -, -⟩ := step_placed steady (Seated.alone _) success unfinished
      rw [runAll_of_step steady success unfinished, ih steady'.release]
      simp [TokenStream.prepend]

/-- Every text is read up to its end or a fault. -/
theorem exists_emits {depth : Option Nat} (steady : scanner.Steady depth) :
    ∃ tokens last, scanner.Emits tokens last ∧ last.AtEnd := by
  -- Only a step that does not end the text leaves less of it.
  induction length : scanner.cursor.rest.length using Nat.strong_induction_on
    generalizing scanner depth with
  | _ count ih =>
  by_cases atEnd : scanner.AtEnd
  · exact ⟨[], scanner, .refl _, atEnd⟩
  · simp only [AtEnd, not_forall, Bool.not_eq_true] at atEnd
    obtain ⟨next, success, unfinished⟩ := atEnd
    obtain ⟨-, steady', -, short⟩ := step_placed steady (Seated.alone _) success unfinished
    obtain ⟨tokens, last, emits, atEnd⟩ := ih _ (length ▸ short) steady'.release rfl
    exact ⟨_, last, .step success unfinished emits, atEnd⟩

/-! ## The end of a text -/

/-- Where an unfinished last line counts as ended. -/
def endMark (mark : Mark) : Mark :=
  if mark.column = 0 then mark else ⟨mark.index, mark.line + 1, 0⟩

theorem endMark_placed (mark : Mark) : endMark (mark.placed site) = (endMark mark).placed site := by
  unfold endMark
  rw [Mark.column_placed]
  split <;> rfl

theorem readEnd_eq (scanner : Scanner) :
    scanner.readEnd =
      ({ scanner with cursor := ⟨[], endMark scanner.mark⟩ }.closeBlocks 0).dropKey >>= fun next =>
        .ok ({ next with keyAllowed := false, finished := true }.enqueue .streamEnd
          (endMark scanner.mark) (endMark scanner.mark)) :=
  rfl

theorem readEnd_follows (alone : site.tail = []) :
    Follows (placed site) (fun _ => True) scanner.readEnd (scanner.placed site).readEnd := by
  have ended : { scanner.placed site with cursor := ⟨[], (endMark scanner.mark).placed site⟩ } =
      { scanner with cursor := ⟨[], endMark scanner.mark⟩ }.placed site := by
    simp [placed, Cursor.placed, alone]
  rw [readEnd_eq, readEnd_eq, mark_placed, endMark_placed, ended, closeBlocks_placed]
  apply (dropKey_follows _).bind
  intro next _
  have moved := @enqueue_placed site { next with keyAllowed := false, finished := true }
    .streamEnd (endMark scanner.mark) (endMark scanner.mark)
  exact moved.symm ▸ .ok trivial

/-- Where nothing follows the text, also its last step is a step over the longer one. -/
theorem step_placed_of_alone (alone : site.tail = []) (success : scanner.step = .ok next) :
    (scanner.placed site).step = .ok (next.placed site) := by
  obtain ⟨settled, read, first, second, third⟩ := step_eq_ok_iff.mp success
  obtain ⟨settle', settles⟩ := settle_follows (.inl (.inl alone)) settled first
  obtain ⟨drop', -⟩ := @dropStaleKeys_follows site read next third
  refine step_eq_ok_iff.mpr ⟨_, _, settle', ?_, drop'⟩
  have rest : (settled.placed site).cursor.rest = settled.cursor.rest := by
    change settled.cursor.rest ++ site.tail = _
    rw [alone, List.append_nil]
  unfold readHere at second ⊢
  rw [rest]
  cases shape : settled.cursor.rest with
  | nil =>
      rw [shape] at second
      exact (readEnd_follows alone read second).1
  | cons c rest =>
      rw [shape] at second
      have here : settled.cursor = ⟨c :: rest, settled.mark⟩ := by
        rw [mark, ← shape]
      have token := readToken_follows settled here (.inl alone) (settles.visible c rest shape) read
        second
      rw [alone, List.append_nil] at token
      exact token.1

theorem Steady.placed {depth : Option Nat} (steady : scanner.Steady depth) :
    (scanner.placed site).Steady depth where
  keys key held := by
    have origin : ∃ own, scanner.Holds own ∧ key = placedKey site own := by
      obtain inner | outside := held
      · obtain ⟨own, pending, rfl⟩ := Option.map_eq_some_iff.mp inner
        exact ⟨own, .inl pending, rfl⟩
      · obtain ⟨own, pending, shape⟩ := List.mem_map.mp outside
        obtain ⟨own, rfl, rfl⟩ := Option.map_eq_some_iff.mp shape
        exact ⟨own, .inr pending, rfl⟩
    obtain ⟨own, pending, rfl⟩ := origin
    have before := steady.keys own pending
    simp only [Mark.Before, mark_placed, placedKey, Mark.placed] at before ⊢
    omega
  depth := by
    have balanced := steady.depth
    simp only [Scanner.placed, List.length_map, flowDepth, List.foldl_map] at balanced ⊢
    exact balanced
  finished := steady.finished

/-- A text that can be read to its end is read alike behind other text. -/
theorem runAll_placed_of_alone {depth : Option Nat} (alone : site.tail = [])
    (steady : scanner.Steady depth) (success : scanner.runAll = ⟨tokens, none⟩) :
    (scanner.placed site).runAll = ⟨tokens.map (·.mapMarks (Mark.placed site)), none⟩ := by
  obtain ⟨emitted, last, emits, atEnd⟩ := exists_emits steady
  obtain ⟨emits', -, -⟩ := emits.placed steady (.inl (.inl alone))
  rw [emits.runAll steady] at success
  cases done : last.step with
  | error fault =>
      rw [runAll_of_fault done] at success
      cases success
  | ok next =>
      have finished := atEnd next done
      rw [runAll_of_finished done finished] at success
      cases success
      rw [emits'.runAll steady.placed,
        runAll_of_finished (step_placed_of_alone alone done) finished, release_placed]
      simp [TokenStream.prepend]

end Scanner

end ManifestLint.Yaml
