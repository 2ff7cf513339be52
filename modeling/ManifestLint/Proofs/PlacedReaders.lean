import ManifestLint.Proofs.FlowDepth
import ManifestLint.Proofs.PlacedText

/-!
# Reading inside a longer text

What is read in a text is read in the same way where the text stands in a longer one.
A fault may differ: at the end of the longer text more can be read.
-/

namespace ManifestLint.Yaml

/-! ## Computations that follow each other -/

theorem bind_eq_ok_iff {α β : Type} {first : Except Fault α} {next : α → Except Fault β}
    {result : β} :
    (first >>= next) = .ok result ↔ ∃ value, first = .ok value ∧ next value = .ok result := by
  cases first with
  | error fault => simp [bind, Except.bind]
  | ok value => simp [bind, Except.bind]

/-- If the first computation succeeds, the second one gives the result moved along with
the text, and the result has a property. -/
def Follows {α β : Type} (move : α → β) (fact : α → Prop) (first : Except Fault α)
    (second : Except Fault β) : Prop :=
  ∀ value, first = .ok value → second = .ok (move value) ∧ fact value

namespace Follows

variable {α β γ δ : Type} {move : α → β} {fact goal : α → Prop} {next : γ → δ} {later : γ → Prop}
  {first first' : Except Fault α} {second second' : Except Fault β}

theorem ok {value : α} (holds : fact value) : Follows move fact (.ok value) (.ok (move value)) := by
  rintro _ ⟨⟩
  exact ⟨rfl, holds⟩

theorem fail {fault : Fault} : Follows move fact (.error fault) second := by
  rintro _ ⟨⟩

theorem misplaced {problem : Problem} {mark start : Mark} {activity : Activity} :
    Follows move fact (misplaced problem mark activity start) second :=
  fail

theorem imp (follows : Follows move fact first second) (weaker : ∀ value, fact value → goal value) :
    Follows move goal first second := by
  intro value success
  obtain ⟨moved, holds⟩ := follows value success
  exact ⟨moved, weaker value holds⟩

theorem bind {rest : α → Except Fault γ} {rest' : β → Except Fault δ}
    (follows : Follows move fact first second)
    (onward : ∀ value, fact value → Follows next later (rest value) (rest' (move value))) :
    Follows next later (first >>= rest) (second >>= rest') := by
  intro result success
  cases given : first with
  | error fault =>
      rw [given] at success
      cases success
  | ok value =>
      obtain ⟨moved, holds⟩ := follows value given
      rw [given] at success
      rw [moved]
      exact onward value holds result success

theorem ite {condition : Prop} [Decidable condition]
    (pos : condition → Follows move fact first second)
    (neg : ¬condition → Follows move fact first' second') :
    Follows move fact (if condition then first else first')
      (if condition then second else second') := by
  split
  · exact pos ‹_›
  · exact neg ‹_›

end Follows

open Cursor

variable {site : Placement}

/-! ## Tags, anchors, and aliases -/

theorem lineFeed_of_isUriChar (bounded : Bool) : isUriChar bounded '\n' = false := by
  cases bounded <;> decide +kernel

theorem not_mem_of_ofDigits? {radix value : Nat} {digits : List Char}
    (number : Number.ofDigits? radix digits = some value) : '\n' ∉ digits := by
  have noDigit : Number.digitValue? radix '\n' = none := by
    simp [Number.digitValue?]
  unfold Number.ofDigits? at number
  generalize 0 = start at number
  induction digits generalizing start with
  | nil => simp
  | cons digit rest ih =>
      rw [List.foldlM_cons, Option.bind_eq_bind, Option.bind_eq_some_iff] at number
      obtain ⟨next, first, later⟩ := number
      rw [List.mem_cons, not_or]
      constructor
      · rintro rfl
        simp [noDigit] at first
      · exact ih next later

section

variable {bounded : Bool} {activity : Activity} {start other : Mark}

theorem uriRest_follows {octets : List UInt8} {owed : Nat} {rest : List Char} {mark : Mark}
    (ahead : site.LineAhead rest) :
    Follows (Prod.map id (placed site)) (fun result => Along ⟨rest, mark⟩ result.2)
      (uriRest ⟨bounded, activity, start⟩ octets owed rest mark)
      (uriRest ⟨bounded, activity, other⟩ octets owed (rest ++ site.tail) (mark.placed site)) := by
  fun_induction uriRest ⟨bounded, activity, start⟩ octets owed rest mark with
  | case3 octets mark a b rest octet number count known ih =>
      have sameLine : '\n' ∉ ['%', a, b] := by
        simpa using not_mem_of_ofDigits? number
      simp only [List.cons_append, uriRest, number, known, if_true, Mark.nextBy_placed]
      apply (ih (ahead.of_append _ sameLine)).imp
      intro result along
      exact (along_advanceBy sameLine _ _).trans along
  | case4 octets owed mark a b rest octet number owes trails ih =>
      have sameLine : '\n' ∉ ['%', a, b] := by
        simpa using not_mem_of_ofDigits? number
      simp only [List.cons_append, uriRest, number, owes, if_false, trails, if_true,
        Mark.nextBy_placed]
      apply (ih (ahead.of_append _ sameLine)).imp
      intro result along
      exact (along_advanceBy sameLine _ _).trans along
  | case7 octets owed mark c rest _ plain uri ih =>
      have sameLine : c ≠ '\n' := by
        rintro rfl
        rw [lineFeed_of_isUriChar] at uri
        cases uri
      simp only [Bool.or_eq_true, decide_eq_true_eq, not_or, Nat.not_lt, Nat.le_zero] at plain
      obtain ⟨noEscape, rfl⟩ := plain
      dsimp only at uri
      have step : uriRest ⟨bounded, activity, other⟩ octets 0 (c :: rest ++ site.tail)
          (mark.placed site) = uriRest ⟨bounded, activity, other⟩ (UInt8.ofNat c.toNat :: octets) 0
          (rest ++ site.tail) (mark.next.placed site) := by
        simp [uriRest, noEscape, uri]
      rw [step]
      apply (ih (ahead.of_cons sameLine)).imp
      intro result along
      exact .next sameLine along
  | case8 octets owed mark c rest _ plain ends =>
      have step : uriRest ⟨bounded, activity, other⟩ octets owed (c :: rest ++ site.tail)
          (mark.placed site) = .ok (octets.reverse, placed site ⟨c :: rest, mark⟩) := by
        simp_all [uriRest, placed]
      rw [step]
      exact .ok (.refl _)
  | case10 octets owed mark done =>
      have step : uriRest ⟨bounded, activity, other⟩ octets owed ([] ++ site.tail)
          (mark.placed site) = .ok (octets.reverse, placed site ⟨[], mark⟩) := by
        simp [uriRest, placed, ahead.tail_eq_nil, done]
      rw [step]
      exact .ok (.refl _)
  | _ => exact .misplaced

theorem readUri_follows {taken : List Char} {cursor : Cursor} (ahead : site.LineAhead cursor.rest) :
    Follows (Prod.map id (placed site)) (fun result => Along cursor result.2)
      (readUri ⟨bounded, activity, start⟩ taken cursor)
      (readUri ⟨bounded, activity, other⟩ taken (cursor.placed site)) := by
  apply (uriRest_follows ahead).bind
  rintro ⟨octets, after⟩ along
  exact .ite (fun _ => .misplaced) (fun _ => .ok along)

end

theorem readHandle_of_advance {cursor next : Cursor} (advance : cursor.advance = next) :
    readHandle cursor =
      if (next.span isWord).2.sees (· = '!') then
        ('!' :: (next.span isWord).1 ++ ['!'], (next.span isWord).2.advance)
      else ('!' :: (next.span isWord).1, (next.span isWord).2) := by
  rw [← advance]
  rfl

theorem readHandle_placed {c : Char} {rest : List Char} {mark : Mark}
    (ahead : site.LineAhead rest) :
    readHandle (placed site ⟨c :: rest, mark⟩) =
      Prod.map id (placed site) (readHandle ⟨c :: rest, mark⟩) := by
  have word : span isWord (placed site ⟨rest, mark.next⟩) = _ := span_placed ahead rfl
  have there := (along_span (p := isWord) ⟨rest, mark.next⟩ rfl).lineAhead ahead
  rw [readHandle_of_advance advance_placed_cons, readHandle_of_advance advance_cons, word,
    sees_placed there, advance_placed there]
  split <;> rfl

theorem along_readHandle {c : Char} {rest : List Char} {mark : Mark} :
    Along ⟨rest, mark.next⟩ (readHandle ⟨c :: rest, mark⟩).2 := by
  have word : Along ⟨rest, mark.next⟩ (span isWord ⟨rest, mark.next⟩).2 := along_span _ rfl
  rw [readHandle_of_advance advance_cons]
  split
  · rename_i closed
    exact word.trans (along_advance closed rfl)
  · exact word

theorem readTagParts_follows {start other : Mark} {c : Char} {rest : List Char} {mark : Mark}
    (ahead : site.LineAhead rest) :
    Follows (Prod.map id (Prod.map id (placed site)))
      (fun result => Along ⟨rest, mark.next⟩ result.2.2)
      (readTagParts start ⟨c :: rest, mark⟩)
      (readTagParts other (placed site ⟨c :: rest, mark⟩)) := by
  unfold readTagParts
  rw [rest_placed, List.cons_append, List.drop_one, List.tail_cons, List.drop_one, List.tail_cons,
    ahead.startsWith_append]
  apply Follows.ite
  · intro angle
    obtain ⟨d, uri, rfl, bracket⟩ := exists_of_startsWith angle
    obtain rfl : d = '<' := by simpa using bracket
    have first : Along ⟨'<' :: uri, mark.next⟩ ⟨uri, mark.nextBy 2⟩ := .next (by decide) (.refl _)
    have there := ahead.of_cons (by decide)
    rw [advanceBy_placed (by simp)]
    apply (readUri_follows there).bind
    rintro ⟨octets, after⟩ along
    change Follows _ _ _ (ite ((after.placed site).sees _ = true) _ _)
    rw [sees_placed (along.lineAhead there)]
    apply Follows.ite
    · intro closes
      change Follows _ _ _ (Except.ok ("", octets, (after.placed site).advance))
      rw [advance_placed (along.lineAhead there)]
      exact .ok (first.trans (along.trans (along_advance closes rfl)))
    · exact fun _ => .misplaced
  · intro noAngle
    rw [readHandle_placed ahead]
    have word : Along ⟨rest, mark.next⟩ (readHandle ⟨c :: rest, mark⟩).2 := along_readHandle
    have there := word.lineAhead ahead
    apply Follows.ite
    · intro closed
      apply (readUri_follows there).bind
      rintro ⟨octets, after⟩ along
      exact .ok (word.trans along)
    · intro opened
      apply (readUri_follows there).bind
      rintro ⟨octets, after⟩ along
      exact .ite (fun _ => .ok (word.trans along)) (fun _ => .ok (word.trans along))

theorem readTag_follows {inFlow : Bool} {c : Char} {rest : List Char} {mark : Mark}
    (ahead : site.LineAhead rest) :
    Follows (Prod.map id (placed site))
      (fun result => Along ⟨rest, mark.next⟩ result.2 ∧ result.1.Flat)
      (readTag inFlow ⟨c :: rest, mark⟩) (readTag inFlow (placed site ⟨c :: rest, mark⟩)) := by
  apply (readTagParts_follows ahead).bind
  rintro ⟨handle, octets, after⟩ along
  have there := along.lineAhead ahead
  simp only [Prod.map, id, sees_placed there, atWordEnd_placed there]
  exact .ite (fun _ => .ok ⟨along, fun _ => rfl⟩) (fun _ => .misplaced)

theorem readName_follows {activity : Activity} {c : Char} {rest : List Char} {mark : Mark}
    (ahead : site.LineAhead rest) :
    Follows (Prod.map id (placed site)) (fun result => Along ⟨rest, mark.next⟩ result.2)
      (readName activity ⟨c :: rest, mark⟩)
      (readName activity (placed site ⟨c :: rest, mark⟩)) := by
  have word : span isWord (placed site ⟨rest, mark.next⟩) = _ := span_placed ahead rfl
  have along : Along ⟨rest, mark.next⟩ (span isWord ⟨rest, mark.next⟩).2 := along_span _ rfl
  have there := along.lineAhead ahead
  simp only [readName, advance_cons, advance_placed_cons, word, sees_placed there, rest_placed,
    there.isEmpty_append]
  exact .ite (fun _ => .misplaced) (fun _ => .ok along)

/-! ## Directives -/

section

variable {start other : Mark} {cursor : Cursor}

theorem readVersionNumber_follows (ahead : site.LineAhead cursor.rest) :
    Follows (Prod.map id (placed site)) (fun result => Along cursor result.2)
      (readVersionNumber start cursor) (readVersionNumber other (cursor.placed site)) := by
  simp only [readVersionNumber, span_placed ahead (p := Char.isDigit) rfl]
  exact .ite (fun _ => .misplaced) fun _ =>
    .ite (fun _ => .misplaced) (fun _ => .ok (along_span _ rfl))

theorem readVersion_follows (ahead : site.LineAhead cursor.rest) :
    Follows (Prod.map id (placed site)) (fun result => Along cursor result.2 ∧ result.1.Flat)
      (readVersion start cursor) (readVersion other (cursor.placed site)) := by
  have blanks := along_skipBlanks cursor
  unfold readVersion
  rw [skipBlanks_placed ahead]
  apply (readVersionNumber_follows (blanks.lineAhead ahead)).bind
  rintro ⟨major, after⟩ along
  have there := along.lineAhead (blanks.lineAhead ahead)
  simp only [Prod.map, id, sees_placed there]
  apply Follows.ite
  · intro dot
    have behind := along_advance dot rfl
    rw [advance_placed there]
    apply (readVersionNumber_follows (behind.lineAhead there)).bind
    rintro ⟨minor, last⟩ onward
    exact .ok ⟨blanks.trans (along.trans (behind.trans onward)), fun _ => rfl⟩
  · exact fun _ => .misplaced

theorem readDefinedHandle_follows (ahead : site.LineAhead cursor.rest) :
    Follows (Prod.map id (placed site)) (fun result => Along cursor result.2)
      (readDefinedHandle start cursor) (readDefinedHandle other (cursor.placed site)) := by
  unfold readDefinedHandle
  rw [sees_placed ahead]
  apply Follows.ite
  · intro bang
    have first := along_advance bang rfl
    obtain ⟨rest, mark⟩ := cursor
    obtain ⟨c, rest, rfl, -⟩ := exists_of_startsWith bang
    have there : site.LineAhead rest := first.lineAhead ahead
    rw [readHandle_placed there]
    exact .ite (fun _ => .ok (first.trans along_readHandle)) (fun _ => .misplaced)
  · exact fun _ => .misplaced

theorem readTagDirective_follows (ahead : site.LineAhead cursor.rest) :
    Follows (Prod.map id (placed site)) (fun result => Along cursor result.2 ∧ result.1.Flat)
      (readTagDirective start cursor) (readTagDirective other (cursor.placed site)) := by
  have blanks := along_skipBlanks cursor
  unfold readTagDirective
  rw [skipBlanks_placed ahead]
  apply (readDefinedHandle_follows (blanks.lineAhead ahead)).bind
  rintro ⟨handle, after⟩ along
  have there := along.lineAhead (blanks.lineAhead ahead)
  have further := along_skipBlanks after
  have farther := further.lineAhead there
  simp only [Prod.map, id, sees_placed there, skipBlanks_placed there]
  apply Follows.ite
  · exact fun _ => .misplaced
  · intro blank
    apply (readUri_follows farther).bind
    rintro ⟨image, last⟩ onward
    simp only [Prod.map, id, atWordEnd_placed (onward.lineAhead farther)]
    have line := blanks.trans (along.trans (further.trans onward))
    exact .ite (fun _ => .ok ⟨line, fun _ => rfl⟩) (fun _ => .misplaced)

theorem readDirectiveValue_follows {name : List Char} (ahead : site.LineAhead cursor.rest) :
    Follows (Prod.map id (placed site)) (fun result => Along cursor result.2 ∧ result.1.Flat)
      (readDirectiveValue name start cursor)
      (readDirectiveValue name other (cursor.placed site)) :=
  .ite (fun _ => readVersion_follows ahead) fun _ =>
    .ite (fun _ => readTagDirective_follows ahead) (fun _ => .misplaced)

end

theorem readDirective_follows {c : Char} {rest : List Char} {mark : Mark}
    (ahead : site.LineAhead rest) :
    Follows (Prod.map id (Prod.map (Mark.placed site) (placed site)))
      (fun result => Reaches ⟨rest, mark.next⟩ result.2.2 ∧ result.1.Flat)
      (readDirective ⟨c :: rest, mark⟩) (readDirective (placed site ⟨c :: rest, mark⟩)) := by
  have word : span isWord (placed site ⟨rest, mark.next⟩) = _ := span_placed ahead rfl
  have name : Along ⟨rest, mark.next⟩ (span isWord ⟨rest, mark.next⟩).2 := along_span _ rfl
  have there := name.lineAhead ahead
  simp only [readDirective, advance_cons, advance_placed_cons, word, atWordEnd_placed there]
  refine .ite (fun _ => .misplaced) fun _ => .ite (fun _ => .misplaced) fun _ => ?_
  apply (readDirectiveValue_follows there).bind
  rintro ⟨kind, after⟩ ⟨along, flat⟩
  have value := along.lineAhead there
  have blanks := along_skipBlanks after
  have comment := along_skipComment after.skipBlanks
  have lineEnd := comment.lineAhead (blanks.lineAhead value)
  simp only [Prod.map, id, skipBlanks_placed value, skipComment_placed (blanks.lineAhead value),
    atLineEnd_placed lineEnd, skipBreak_placed lineEnd]
  apply Follows.ite
  · intro ends
    have line := name.trans (along.trans (blanks.trans comment))
    exact .ok ⟨line.reaches.trans (reaches_skipBreak _), flat⟩
  · exact fun _ => .misplaced

end ManifestLint.Yaml
