import ManifestLint.Proofs.PlacedScalars

/-!
# The scanner inside a longer text

The state of the scanner over a text is also a state over a longer text around it, where
places and token numbers are shifted.  Each step over the text is a step over the longer
one.
-/

namespace ManifestLint.Yaml

open Cursor

/-! ## States -/

/-- A token with its marks changed. -/
def Token.mapMarks (f : Mark → Mark) (token : Token) : Token :=
  ⟨token.kind, f token.start, f token.stop⟩

namespace Scanner

variable {site : Placement}

/-- A pending key of a text as one of the longer text. -/
def placedKey (site : Placement) (key : PendingKey) : PendingKey :=
  ⟨key.number + site.tokens, key.mark.placed site, key.required⟩

/-- A state over a text as one over the longer text. -/
def placed (site : Placement) (scanner : Scanner) : Scanner :=
  { scanner with
    cursor := scanner.cursor.placed site
    queue := scanner.queue.map (·.mapMarks (Mark.placed site))
    released := scanner.released + site.tokens
    key := scanner.key.map (placedKey site)
    outerKeys := scanner.outerKeys.map (Option.map (placedKey site)) }

/-- Whether a key is pending in some collection. -/
def Holds (scanner : Scanner) (key : PendingKey) : Prop :=
  scanner.key = some key ∨ some key ∈ scanner.outerKeys

/-- What preparing for a token leaves as it is.  A key may be noted at the token. -/
structure Prepares (scanner next : Scanner) : Prop where
  cursor : next.cursor = scanner.cursor
  flow : next.outerKeys.length = scanner.outerKeys.length
  keys : ∀ key, next.Holds key → scanner.Holds key ∨ key.mark = scanner.mark
  depth : ∀ depth, flowDepth depth next.queue = flowDepth depth scanner.queue
  finished : next.finished = scanner.finished

/-- What reading a token does: it moves the cursor, may note a key at the token, and
counts the flow collections that it opens and closes. -/
structure Advances (scanner next : Scanner) : Prop where
  cursor : Reaches scanner.cursor.advance next.cursor
  keys : ∀ key, next.Holds key → scanner.Holds key ∨ key.mark = scanner.mark
  depth : ∀ depth, flowDepth depth scanner.queue = some scanner.outerKeys.length →
    flowDepth depth next.queue = some next.outerKeys.length
  finished : next.finished = scanner.finished

theorem Prepares.refl (scanner : Scanner) : scanner.Prepares scanner :=
  ⟨rfl, rfl, fun _ => .inl, fun _ => rfl, rfl⟩

section

variable {scanner middle next : Scanner}

theorem Prepares.mark (prepares : scanner.Prepares next) : next.mark = scanner.mark :=
  congrArg Cursor.mark prepares.cursor

theorem Prepares.inFlow (prepares : scanner.Prepares next) : next.inFlow = scanner.inFlow := by
  have length := prepares.flow
  unfold Scanner.inFlow
  cases first : next.outerKeys <;> cases second : scanner.outerKeys <;> simp_all

theorem Prepares.allow (prepares : scanner.Prepares next) (keyAllowed : Bool) :
    scanner.Prepares { next with keyAllowed } :=
  ⟨prepares.cursor, prepares.flow, prepares.keys, prepares.depth, prepares.finished⟩

theorem Prepares.forgetKey (prepares : scanner.Prepares next) :
    scanner.Prepares { next with key := none } := by
  refine ⟨prepares.cursor, prepares.flow, ?_, prepares.depth, prepares.finished⟩
  rintro key (⟨⟨⟩⟩ | outside)
  exact prepares.keys key (.inr outside)

theorem Prepares.trans (first : scanner.Prepares middle) (second : middle.Prepares next) :
    scanner.Prepares next where
  cursor := second.cursor.trans first.cursor
  flow := second.flow.trans first.flow
  keys key held := by
    obtain kept | noted := second.keys key held
    · exact first.keys key kept
    · exact .inr (noted.trans first.mark)
  depth depth := (second.depth depth).trans (first.depth depth)
  finished := second.finished.trans first.finished

end

variable (scanner : Scanner)

@[simp]
theorem inFlow_placed : (scanner.placed site).inFlow = scanner.inFlow := by
  simp [inFlow, placed]

@[simp]
theorem mark_placed : (scanner.placed site).mark = scanner.mark.placed site :=
  rfl

@[simp]
theorem indent_placed : (scanner.placed site).indent = scanner.indent :=
  rfl

theorem enqueue_placed (kind : TokenKind) (start stop : Mark) :
    (scanner.placed site).enqueue kind (start.placed site) (stop.placed site) =
      (scanner.enqueue kind start stop).placed site := by
  simp [enqueue, placed, Token.mapMarks]

theorem insertToken_placed (number : Nat) (kind : TokenKind) (place : Mark) :
    (scanner.placed site).insertToken (number + site.tokens) kind (place.placed site) =
      (scanner.insertToken number kind place).placed site := by
  simp [insertToken, placed, Token.mapMarks, Nat.add_sub_add_right]

theorem insertToken_prepares {kind : TokenKind} (flat : kind.Flat) (number : Nat) (place : Mark) :
    scanner.Prepares (scanner.insertToken number kind place) :=
  ⟨rfl, rfl, fun _ => .inl, fun depth => flowDepth_insert flat depth _ _ _ _, rfl⟩

theorem enqueue_prepares {kind : TokenKind} (flat : kind.Flat) (start stop : Mark) :
    scanner.Prepares (scanner.enqueue kind start stop) := by
  refine ⟨rfl, rfl, fun _ => .inl, fun depth => ?_, rfl⟩
  simp only [enqueue, flowDepth_append]
  exact flat _

/-! ## Pending keys -/

theorem isStale_placed (place : Mark) (key : PendingKey) :
    isStale (place.placed site) (placedKey site key) = isStale place key := by
  simp [isStale, placedKey, Mark.placed, Nat.add_assoc]

theorem dropStale_follows (place : Mark) (key : Option PendingKey) :
    Follows (Option.map (placedKey site))
      (fun kept => ∀ pending, kept = some pending →
        key = some pending ∧ isStale place pending = false)
      (dropStale place key) (dropStale (place.placed site) (key.map (placedKey site))) := by
  cases key with
  | none => exact .ok (by simp)
  | some key =>
      simp only [dropStale, Option.map_some, isStale_placed]
      apply Follows.ite
      · intro _
        exact .ite (fun _ => .misplaced) (fun _ => .ok (by simp))
      · intro fresh
        apply Follows.ok
        rintro pending ⟨⟩
        exact ⟨rfl, by simpa using fresh⟩

theorem dropStale_outer_follows (place : Mark) (keys : List (Option PendingKey)) :
    Follows (List.map (Option.map (placedKey site)))
      (fun kept => kept.length = keys.length ∧ ∀ pending, some pending ∈ kept →
        some pending ∈ keys ∧ isStale place pending = false)
      (keys.mapM (dropStale place))
      ((keys.map (Option.map (placedKey site))).mapM (dropStale (place.placed site))) := by
  induction keys with
  | nil => exact .ok (by simp)
  | cons key rest ih =>
      rw [List.map_cons, List.mapM_cons, List.mapM_cons]
      apply (dropStale_follows place key).bind
      intro kept own
      apply ih.bind
      rintro others ⟨length, outer⟩
      apply Follows.ok
      constructor
      · simp [length]
      · intro pending member
        obtain rfl | member := List.mem_cons.mp member
        · obtain ⟨rfl, fresh⟩ := own pending rfl
          exact ⟨List.mem_cons_self, fresh⟩
        · obtain ⟨present, fresh⟩ := outer pending member
          exact ⟨List.mem_cons_of_mem _ present, fresh⟩

theorem dropStaleKeys_follows :
    Follows (placed site)
      (fun next => scanner.Prepares next ∧
        ∀ key, next.Holds key → scanner.Holds key ∧ isStale scanner.mark key = false)
      scanner.dropStaleKeys (scanner.placed site).dropStaleKeys := by
  apply (dropStale_outer_follows scanner.mark scanner.outerKeys).bind
  rintro outerKeys ⟨length, outer⟩
  apply (dropStale_follows scanner.mark scanner.key).bind
  intro key own
  apply Follows.ok
  have kept (pending : PendingKey)
      (held : Holds { scanner with key, outerKeys } pending) :
      scanner.Holds pending ∧ isStale scanner.mark pending = false := by
    obtain inner | outside := held
    · obtain ⟨present, fresh⟩ := own pending inner
      exact ⟨.inl present, fresh⟩
    · obtain ⟨present, fresh⟩ := outer pending outside
      exact ⟨.inr present, fresh⟩
  exact ⟨⟨rfl, length, fun key held => .inl (kept key held).1, fun _ => rfl, rfl⟩, kept⟩

theorem dropKey_follows :
    Follows (placed site) (fun next => scanner.Prepares next ∧ next.key = none)
      scanner.dropKey (scanner.placed site).dropKey := by
  have same : (scanner.placed site).key = scanner.key.map (placedKey site) := rfl
  unfold dropKey
  rw [same]
  cases pending : scanner.key with
  | none => exact .ok ⟨.refl scanner, pending⟩
  | some key =>
      apply Follows.ite
      · exact fun _ => .misplaced
      · intro _
        have dropped (key : PendingKey) (held : Holds { scanner with key := none } key) :
            scanner.Holds key := by
          obtain inner | outside := held
          · cases inner
          · exact .inr outside
        exact .ok ⟨⟨rfl, rfl, fun key held => .inl (dropped key held), fun _ => rfl, rfl⟩, rfl⟩

theorem noteKey_follows :
    Follows (placed site) scanner.Prepares scanner.noteKey (scanner.placed site).noteKey := by
  apply Follows.ite
  · intro _
    apply (dropKey_follows scanner).bind
    rintro next ⟨prepares, -⟩
    have noted : next.Prepares { next with
        key := some ⟨scanner.released + scanner.queue.length, next.mark,
          !scanner.inFlow && scanner.indents.head? = some scanner.mark.column⟩ } := by
      refine ⟨rfl, rfl, ?_, fun _ => rfl, rfl⟩
      rintro key (⟨⟨⟩⟩ | outside)
      · exact .inr rfl
      · exact .inl (.inr outside)
    have number : (scanner.placed site).released + (scanner.placed site).queue.length =
        scanner.released + scanner.queue.length + site.tokens := by
      simp only [placed, List.length_map]
      omega
    simp only [number, inFlow_placed]
    exact .ok (prepares.trans noted)
  · exact fun _ => .ok (.refl scanner)

/-! ## Indentation -/

theorem openBlock_placed (column : Nat) (kind : TokenKind) (place : Option PendingKey) :
    (scanner.placed site).openBlock column kind (place.map (placedKey site)) =
      (scanner.openBlock column kind place).placed site := by
  unfold openBlock
  rw [inFlow_placed, indent_placed]
  split
  · rfl
  · cases place with
    | none => exact enqueue_placed { scanner with indents := column :: scanner.indents } kind _ _
    | some key =>
        exact insertToken_placed { scanner with indents := column :: scanner.indents } _ kind _

theorem openBlock_prepares {kind : TokenKind} (flat : kind.Flat) (column : Nat)
    (place : Option PendingKey) : scanner.Prepares (scanner.openBlock column kind place) := by
  have opened : scanner.Prepares { scanner with indents := column :: scanner.indents } :=
    ⟨rfl, rfl, fun _ => .inl, fun _ => rfl, rfl⟩
  unfold openBlock
  split
  · exact .refl scanner
  · cases place with
    | none => exact opened.trans (enqueue_prepares _ flat _ _)
    | some key => exact opened.trans (insertToken_prepares _ flat _ _)

theorem closeBlocks_placed (least : Nat) :
    (scanner.placed site).closeBlocks least = (scanner.closeBlocks least).placed site := by
  unfold closeBlocks
  rw [inFlow_placed]
  split
  · rfl
  · simp [placed, Token.mapMarks, mark]

theorem closeBlocks_prepares (least : Nat) : scanner.Prepares (scanner.closeBlocks least) := by
  unfold closeBlocks
  split
  · exact .refl scanner
  · refine ⟨rfl, rfl, fun _ => .inl, fun depth => ?_, rfl⟩
    rw [flowDepth_append]
    generalize (splitIndents least scanner.indents).2 = count
    induction count with
    | zero => rfl
    | succ count ih => exact ih

/-! ## Moving to a token -/

section

variable {inFlow keyAllowed inComment : Bool} {rest : List Char} {mark : Mark}

theorem passBlanks_reaches :
    Reaches ⟨rest, mark⟩ (passBlanks inFlow keyAllowed inComment rest mark).1 := by
  induction rest using lines_induction generalizing keyAllowed inComment mark with
  | nil => exact .refl _
  | crlf rest ih => exact .carriageReturn ih
  | cons c rest apart ih =>
      rw [passBlanks.eq_3 _ _ _ _ _ _ apart]
      split
      · exact .lineBreak ih
      · rename_i noBreak
        have sameLine := ne_lineFeed noBreak
        split
        · exact .next sameLine ih
        · split
          · exact .next sameLine ih
          · exact .refl _

theorem isBreak_of_passBlanks {c : Char} {later : List Char}
    (stop : (passBlanks inFlow keyAllowed inComment rest mark).1.rest = c :: later) :
    ¬isBreak c = true := by
  induction rest using lines_induction generalizing keyAllowed inComment mark with
  | nil => cases stop
  | crlf rest ih => exact ih stop
  | cons d rest apart ih =>
      rw [passBlanks.eq_3 _ _ _ _ _ _ apart] at stop
      split at stop
      · exact ih stop
      · split at stop
        · exact ih stop
        · split at stop
          · exact ih stop
          · cases stop
            assumption

theorem passBlanks_placed (seated : Seated site ⟨rest, mark⟩)
    (lineEnds : inComment = true → site.LineAhead rest) :
    passBlanks inFlow keyAllowed inComment (rest ++ site.tail) (mark.placed site) =
      Prod.map (Cursor.placed site) id (passBlanks inFlow keyAllowed inComment rest mark) := by
  induction rest using lines_induction generalizing keyAllowed inComment mark with
  | nil =>
      obtain alone | ⟨column, later, line⟩ := seated.tail_cases
      · simp [alone, passBlanks, Cursor.placed]
      · cases inComment with
        | true =>
            have alone := (lineEnds rfl).tail_eq_nil
            rw [alone] at line
            cases line
        | false => simp [line, passBlanks, Cursor.placed, isBreak]
  | crlf rest ih =>
      rw [List.cons_append, List.cons_append, passBlanks, passBlanks, Mark.nextLine_placed]
      exact ih ((Reaches.carriageReturn (.refl _)).seated seated) (by simp)
  | cons c rest apart ih =>
      have ahead := seated.lineAhead
      rw [List.cons_append, passBlanks.eq_3 _ _ _ _ _ _ apart,
        passBlanks.eq_3 _ _ _ _ _ _ (ahead.not_crlf apart), Mark.column_placed,
        Mark.nextLine_placed, Mark.next_placed]
      split
      · exact ih ((Reaches.lineBreak (.refl _)).seated seated) (by simp)
      · rename_i noBreak
        have sameLine := ne_lineFeed noBreak
        have there := (Reaches.next sameLine (.refl _)).seated seated
        split
        · exact ih there fun _ => ahead.of_cons sameLine
        · split
          · exact ih there (by simp)
          · rfl

end

theorem approach_placed (seated : scanner.cursor.Seated site) :
    (scanner.placed site).approach = scanner.approach.placed site := by
  have passed : passBlanks scanner.inFlow scanner.keyAllowed false
      (scanner.cursor.rest ++ site.tail) (scanner.mark.placed site) = _ :=
    passBlanks_placed seated (by simp)
  have rest : (scanner.placed site).cursor.rest = scanner.cursor.rest ++ site.tail := rfl
  have allowed : (scanner.placed site).keyAllowed = scanner.keyAllowed := rfl
  simp only [approach, inFlow_placed, mark_placed, rest, allowed, passed]
  rfl

/-! ## Tokens -/

theorem indicator_placed (kind : TokenKind) {length : Nat}
    (short : length ≤ scanner.cursor.rest.length) :
    (scanner.placed site).indicator kind length = (scanner.indicator kind length).placed site := by
  have after : (scanner.placed site).cursor.advanceBy length = _ := advanceBy_placed short
  simp only [indicator, after]
  exact enqueue_placed { scanner with cursor := scanner.cursor.advanceBy length } kind _ _

section

variable {scanner} {next : Scanner} {c : Char} {rest : List Char} {mark : Mark}

/-- An indicator is read once the pending keys and open collections are as they are
behind it. -/
theorem indicator_follows {kind : TokenKind} (next : Scanner)
    (here : scanner.cursor = ⟨c :: rest, mark⟩) (cursor : next.cursor = scanner.cursor)
    (finished : next.finished = scanner.finished)
    (keys : ∀ key, next.Holds key → scanner.Holds key ∨ key.mark = scanner.mark)
    (depth : ∀ depth, flowDepth depth scanner.queue = some scanner.outerKeys.length →
      kind.deepen (flowDepth depth next.queue) = some next.outerKeys.length) :
    Follows (placed site) scanner.Advances (.ok (next.indicator kind 1))
      (.ok ((next.placed site).indicator kind 1)) := by
  have short : 1 ≤ next.cursor.rest.length := by
    simp [cursor, here]
  rw [indicator_placed next kind short]
  refine .ok ⟨?_, keys, ?_, finished⟩
  · rw [← cursor]
    exact .refl _
  · intro start balanced
    exact (flowDepth_append start next.queue _).trans (depth start balanced)

theorem flatIndicator_follows {kind : TokenKind} (flat : kind.Flat)
    (here : scanner.cursor = ⟨c :: rest, mark⟩) (prepares : scanner.Prepares next) :
    Follows (placed site) scanner.Advances (.ok (next.indicator kind 1))
      (.ok ((next.placed site).indicator kind 1)) := by
  apply indicator_follows next here prepares.cursor prepares.finished prepares.keys
  intro depth balanced
  rw [flat, prepares.depth, prepares.flow, balanced]

/-- A token is put behind the others once its end is known. -/
theorem enqueue_follows {kind : TokenKind} {after : Cursor} {keyAllowed : Bool} (flat : kind.Flat)
    (here : scanner.cursor = ⟨c :: rest, mark⟩) (prepares : scanner.Prepares next)
    (way : Reaches ⟨rest, mark.next⟩ after) (start stop : Mark) :
    Follows (placed site) scanner.Advances
      (.ok ({ next with cursor := after, keyAllowed }.enqueue kind start stop))
      (.ok ({ next.placed site with cursor := after.placed site, keyAllowed }.enqueue kind
        (start.placed site) (stop.placed site))) := by
  have moved := @enqueue_placed site { next with cursor := after, keyAllowed } kind start stop
  refine moved.symm ▸ .ok ⟨?_, prepares.keys, ?_, prepares.finished⟩
  · rw [here]
    exact way
  · intro depth balanced
    have token := (enqueue_prepares { next with cursor := after, keyAllowed } flat start stop).depth
      depth
    have outer := congrArg some prepares.flow.symm
    exact token.trans ((prepares.depth depth).trans (balanced.trans outer))

/-- A token with content is read once its key is noted. -/
theorem accept_follows {α : Type} (kind : α → TokenKind) {keyAllowed : Bool}
    {read read' : Except Fault (α × Cursor)} (here : scanner.cursor = ⟨c :: rest, mark⟩)
    (prepares : scanner.Prepares next)
    (follows : Follows (Prod.map id (Cursor.placed site))
      (fun result => Reaches ⟨rest, mark.next⟩ result.2 ∧ (kind result.1).Flat) read read') :
    Follows (placed site) scanner.Advances
      (read >>= fun result => .ok (next.accept (kind result.1) result.2 keyAllowed))
      (read' >>= fun result =>
        .ok ((next.placed site).accept (kind result.1) result.2 keyAllowed)) := by
  apply follows.bind
  rintro ⟨content, after⟩ ⟨way, flat⟩
  exact enqueue_follows flat here prepares way next.mark after.mark

theorem enterBlock_follows {problem : Problem} {kind : TokenKind} (flat : kind.Flat) :
    Follows (placed site) scanner.Prepares (scanner.enterBlock problem kind)
      ((scanner.placed site).enterBlock problem kind) := by
  unfold enterBlock
  rw [inFlow_placed]
  apply Follows.ite
  · exact fun _ => .fail
  · intro _
    have opened : (scanner.placed site).openBlock scanner.mark.column kind none = _ :=
      openBlock_placed scanner _ kind none
    rw [mark_placed, Mark.column_placed, opened]
    exact .ok (openBlock_prepares scanner flat _ none)

theorem readBlockEntry_follows (here : scanner.cursor = ⟨c :: rest, mark⟩) :
    Follows (placed site) scanner.Advances scanner.readBlockEntry
      (scanner.placed site).readBlockEntry := by
  apply (enterBlock_follows fun _ => rfl).bind
  intro entered first
  apply (dropKey_follows entered).bind
  rintro next ⟨second, -⟩
  exact flatIndicator_follows (fun _ => rfl) here ((first.trans second).allow true)

theorem readKey_follows (here : scanner.cursor = ⟨c :: rest, mark⟩) :
    Follows (placed site) scanner.Advances scanner.readKey (scanner.placed site).readKey := by
  apply (enterBlock_follows fun _ => rfl).bind
  intro entered first
  apply (dropKey_follows entered).bind
  rintro next ⟨second, -⟩
  rw [inFlow_placed]
  exact flatIndicator_follows (fun _ => rfl) here ((first.trans second).allow _)

theorem readValue_follows (here : scanner.cursor = ⟨c :: rest, mark⟩) :
    Follows (placed site) scanner.Advances scanner.readValue (scanner.placed site).readValue := by
  have same : (scanner.placed site).key = scanner.key.map (placedKey site) := rfl
  unfold readValue
  rw [same]
  cases scanner.key with
  | some key =>
      have keyed : (scanner.placed site).insertToken (placedKey site key).number .key
          (placedKey site key).mark = _ := insertToken_placed scanner key.number .key key.mark
      have opened (keyed : Scanner) : (keyed.placed site).openBlock (placedKey site key).mark.column
          .blockMappingStart (some (placedKey site key)) = _ :=
        openBlock_placed keyed key.mark.column .blockMappingStart (some key)
      simp only [Option.map_some, keyed, opened]
      have keyFlat : TokenKind.Flat .key := fun _ => rfl
      have mappingFlat : TokenKind.Flat .blockMappingStart := fun _ => rfl
      have prepares := (insertToken_prepares scanner keyFlat key.number key.mark).trans
        (openBlock_prepares _ mappingFlat key.mark.column (some key))
      exact flatIndicator_follows (fun _ => rfl) here (prepares.forgetKey.allow false)
  | none =>
      apply (enterBlock_follows fun _ => rfl).bind
      intro entered first
      rw [inFlow_placed]
      exact flatIndicator_follows (fun _ => rfl) here (first.allow _)

theorem readFlowEntry_follows (here : scanner.cursor = ⟨c :: rest, mark⟩) :
    Follows (placed site) scanner.Advances scanner.readFlowEntry
      (scanner.placed site).readFlowEntry := by
  apply (dropKey_follows scanner).bind
  rintro next ⟨first, -⟩
  exact flatIndicator_follows (fun _ => rfl) here (first.allow true)

theorem openFlow_follows {kind : TokenKind}
    (deeper : ∀ depth, kind.deepen depth = depth.map (· + 1))
    (here : scanner.cursor = ⟨c :: rest, mark⟩) :
    Follows (placed site) scanner.Advances (scanner.openFlow kind)
      ((scanner.placed site).openFlow kind) := by
  apply (noteKey_follows scanner).bind
  intro next prepares
  refine indicator_follows { next with
    key := none, outerKeys := next.key :: next.outerKeys, keyAllowed := true }
    here prepares.cursor prepares.finished ?_ ?_
  · rintro key (⟨⟨⟩⟩ | pending)
    obtain inner | outside := List.mem_cons.mp pending
    · exact prepares.keys key (.inl inner.symm)
    · exact prepares.keys key (.inr outside)
  · intro depth balanced
    rw [deeper, prepares.depth, balanced, ← prepares.flow]
    rfl

theorem closeFlow_follows {kind : TokenKind}
    (shallower : ∀ depth, kind.deepen depth = depth.map (· - 1))
    (here : scanner.cursor = ⟨c :: rest, mark⟩) :
    Follows (placed site) scanner.Advances (scanner.closeFlow kind)
      ((scanner.placed site).closeFlow kind) := by
  apply (dropKey_follows scanner).bind
  rintro next ⟨prepares, -⟩
  have same : (next.placed site).outerKeys = next.outerKeys.map (Option.map (placedKey site)) := rfl
  rw [same]
  have length := prepares.flow
  cases outer : next.outerKeys with
  | nil =>
      refine indicator_follows { next with keyAllowed := false } here prepares.cursor
        prepares.finished prepares.keys ?_
      intro depth balanced
      rw [shallower, prepares.depth, balanced, ← length, outer]
      simp
  | cons key outerKeys =>
      refine indicator_follows { next with key, outerKeys, keyAllowed := false } here
        prepares.cursor prepares.finished ?_ ?_
      · rintro pending (inner | outside)
        · apply prepares.keys pending (.inr _)
          rw [outer, ← show key = some pending from inner]
          exact List.mem_cons_self
        · apply prepares.keys pending (.inr _)
          rw [outer]
          exact List.mem_cons_of_mem _ outside
      · intro depth balanced
        rw [shallower, prepares.depth, balanced, ← length, outer]
        rfl

theorem readAlias_follows (here : scanner.cursor = ⟨c :: rest, mark⟩)
    (ahead : site.LineAhead rest) :
    Follows (placed site) scanner.Advances scanner.readAlias (scanner.placed site).readAlias := by
  apply (noteKey_follows scanner).bind
  intro next prepares
  apply accept_follows .alias here prepares
  change Follows _ _ (readName .alias next.cursor) (readName .alias (next.cursor.placed site))
  rw [prepares.cursor, here]
  exact (readName_follows ahead).imp fun _ along => ⟨along.reaches, fun _ => rfl⟩

theorem readAnchor_follows (here : scanner.cursor = ⟨c :: rest, mark⟩)
    (ahead : site.LineAhead rest) :
    Follows (placed site) scanner.Advances scanner.readAnchor (scanner.placed site).readAnchor := by
  apply (noteKey_follows scanner).bind
  intro next prepares
  apply accept_follows .anchor here prepares
  change Follows _ _ (readName .anchor next.cursor) (readName .anchor (next.cursor.placed site))
  rw [prepares.cursor, here]
  exact (readName_follows ahead).imp fun _ along => ⟨along.reaches, fun _ => rfl⟩

theorem readNodeTag_follows (here : scanner.cursor = ⟨c :: rest, mark⟩)
    (ahead : site.LineAhead rest) :
    Follows (placed site) scanner.Advances scanner.readNodeTag
      (scanner.placed site).readNodeTag := by
  apply (noteKey_follows scanner).bind
  intro next prepares
  apply accept_follows id here prepares
  change Follows _ _ (readTag next.inFlow next.cursor)
    (readTag (next.placed site).inFlow (next.cursor.placed site))
  rw [inFlow_placed, prepares.cursor, here]
  exact (readTag_follows ahead).imp fun _ read => ⟨read.1.reaches, read.2⟩

theorem readBlockScalar_follows {literal : Bool} (here : scanner.cursor = ⟨c :: rest, mark⟩)
    (ahead : site.LineAhead rest) :
    Follows (placed site) scanner.Advances (scanner.readBlockScalar literal)
      ((scanner.placed site).readBlockScalar literal) := by
  apply (dropKey_follows scanner).bind
  rintro next ⟨prepares, -⟩
  apply accept_follows (.scalar .block) here prepares
  change Follows _ _ (readBlock literal next.indent next.cursor)
    (readBlock literal next.indent (next.cursor.placed site))
  rw [prepares.cursor, here]
  exact (readBlock_follows ahead).imp fun _ way => ⟨way, fun _ => rfl⟩

theorem readQuotedScalar_follows {quote : Char} (here : scanner.cursor = ⟨c :: rest, mark⟩)
    (ahead : site.LineAhead rest) :
    Follows (placed site) scanner.Advances (scanner.readQuotedScalar quote)
      ((scanner.placed site).readQuotedScalar quote) := by
  apply (noteKey_follows scanner).bind
  intro next prepares
  apply accept_follows (.scalar .quoted) here prepares
  change Follows _ _ (readQuoted quote next.cursor) (readQuoted quote (next.cursor.placed site))
  rw [prepares.cursor, here]
  exact (readQuoted_follows ahead).imp fun _ way => ⟨way, fun _ => rfl⟩

theorem readPlainScalar_follows (here : scanner.cursor = ⟨c :: rest, mark⟩)
    (ahead : site.LineAhead rest) (starts : startsPlain scanner.inFlow c rest = true) :
    Follows (placed site) scanner.Advances scanner.readPlainScalar
      (scanner.placed site).readPlainScalar := by
  apply (noteKey_follows scanner).bind
  intro next prepares
  have there : next.cursor = ⟨c :: rest, mark⟩ := prepares.cursor.trans here
  have there' : (next.placed site).cursor = Cursor.placed site ⟨c :: rest, mark⟩ :=
    congrArg (Cursor.placed site) there
  rw [inFlow_placed, indent_placed, there, there', prepares.inFlow]
  apply (readPlain_follows ahead starts).bind
  intro scalar way
  exact enqueue_follows (fun _ => rfl) here prepares way next.mark scalar.stop

theorem readDirectiveLine_follows (here : scanner.cursor = ⟨c :: rest, mark⟩)
    (ahead : site.LineAhead rest) :
    Follows (placed site) scanner.Advances scanner.readDirectiveLine
      (scanner.placed site).readDirectiveLine := by
  unfold readDirectiveLine
  rw [closeBlocks_placed]
  apply (dropKey_follows (scanner.closeBlocks 0)).bind
  rintro next ⟨second, -⟩
  have prepares := (closeBlocks_prepares scanner 0).trans second
  have there : next.cursor = ⟨c :: rest, mark⟩ := prepares.cursor.trans here
  have there' : (next.placed site).cursor = Cursor.placed site ⟨c :: rest, mark⟩ :=
    congrArg (Cursor.placed site) there
  rw [there, there']
  apply (readDirective_follows ahead).bind
  rintro ⟨kind, stop, after⟩ ⟨way, flat⟩
  exact enqueue_follows flat here prepares way next.mark stop

theorem readDocumentIndicator_follows {kind : TokenKind} (flat : kind.Flat)
    (here : scanner.cursor = ⟨c :: rest, mark⟩) (bounds : startsIndicator (c :: rest) = true) :
    Follows (placed site) scanner.Advances (scanner.readDocumentIndicator kind)
      ((scanner.placed site).readDocumentIndicator kind) := by
  unfold readDocumentIndicator
  rw [closeBlocks_placed]
  apply (dropKey_follows (scanner.closeBlocks 0)).bind
  rintro next ⟨second, -⟩
  have prepares := (closeBlocks_prepares scanner 0).trans second
  obtain ⟨d, e, later, rfl, visible⟩ :
      ∃ d e later, rest = d :: e :: later ∧ d ≠ '\n' ∧ e ≠ '\n' := by
    unfold startsIndicator at bounds
    split at bounds
    · rename_i shape
      cases shape
      exact ⟨_, _, _, rfl, by decide, by decide⟩
    · rename_i shape
      cases shape
      exact ⟨_, _, _, rfl, by decide, by decide⟩
    · cases bounds
  have way : Reaches ⟨d :: e :: later, mark.next⟩ ⟨later, mark.nextBy 3⟩ :=
    .next visible.1 (.next visible.2 (.refl _))
  have there : next.cursor = ⟨c :: d :: e :: later, mark⟩ := prepares.cursor.trans here
  have there' : (next.placed site).cursor = Cursor.placed site ⟨c :: d :: e :: later, mark⟩ :=
    congrArg (Cursor.placed site) there
  have moved : advanceBy 3 (Cursor.placed site ⟨c :: d :: e :: later, mark⟩) =
      Cursor.placed site ⟨later, mark.nextBy 3⟩ := advanceBy_placed (by simp)
  simp only [indicator, there, there', moved]
  exact enqueue_follows flat here prepares way mark (mark.nextBy 3)

end

/-- The token that starts at a visible character is read alike. -/
theorem readToken_follows {c : Char} {rest : List Char} {mark : Mark}
    (here : scanner.cursor = ⟨c :: rest, mark⟩) (ahead : site.LineAhead (c :: rest))
    (visible : ¬isBreak c = true) :
    Follows (placed site) scanner.Advances (scanner.readToken c rest)
      ((scanner.placed site).readToken c (rest ++ site.tail)) := by
  have there := ahead.of_cons (ne_lineFeed visible)
  have indicator := ahead.startsIndicator_append
  have plain : startsPlain scanner.inFlow c (rest ++ site.tail) =
      startsPlain scanner.inFlow c rest := by
    simp only [startsPlain, there.startsWith_append, there.endsWord_append]
  rw [List.cons_append] at indicator
  simp only [readToken, mark_placed, Mark.column_placed, inFlow_placed, indicator,
    there.endsWord_append, plain]
  refine .ite (fun _ => readDirectiveLine_follows here there) fun _ => ?_
  apply Follows.ite
  · intro bounds
    rw [Bool.and_eq_true] at bounds
    apply readDocumentIndicator_follows _ here bounds.2
    split <;> exact fun _ => rfl
  intro _
  refine .ite (fun _ => openFlow_follows (fun _ => rfl) here) fun _ => ?_
  refine .ite (fun _ => openFlow_follows (fun _ => rfl) here) fun _ => ?_
  refine .ite (fun _ => closeFlow_follows (fun _ => rfl) here) fun _ => ?_
  refine .ite (fun _ => closeFlow_follows (fun _ => rfl) here) fun _ => ?_
  refine .ite (fun _ => readFlowEntry_follows here) fun _ => ?_
  refine .ite (fun _ => readBlockEntry_follows here) fun _ => ?_
  refine .ite (fun _ => readKey_follows here) fun _ => ?_
  refine .ite (fun _ => readValue_follows here) fun _ => ?_
  refine .ite (fun _ => readAlias_follows here there) fun _ => ?_
  refine .ite (fun _ => readAnchor_follows here there) fun _ => ?_
  refine .ite (fun _ => readNodeTag_follows here there) fun _ => ?_
  refine .ite (fun _ => readBlockScalar_follows here there) fun _ => ?_
  refine .ite (fun _ => readQuotedScalar_follows here there) fun _ => ?_
  exact .ite (fun starts => readPlainScalar_follows here there starts) fun _ => .misplaced

end Scanner

end ManifestLint.Yaml
