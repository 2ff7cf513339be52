import Mathlib.Data.List.TakeWhile
import ManifestLint.Yaml.Token.Quoted

/-!
# A text inside a longer one

A text can be read where it stands in a longer one: behind other lines, which shifts
its places, and before a line of three hyphens, which starts the next document.  As long
as a line break of the text is still ahead, nothing behind the text is looked at.
-/

namespace ManifestLint.Yaml

/-- Where a text stands: the characters, lines, and tokens before it, and what follows. -/
structure Placement where
  index : Nat
  line : Nat
  tokens : Nat
  tail : List Char
  bounds : tail = [] ∨ ∃ rest, tail = '-' :: '-' :: '-' :: '\n' :: rest

/-- The place of a text that stands alone. -/
def Placement.alone : Placement :=
  ⟨0, 0, 0, [], .inl rfl⟩

/-! ## Places -/

namespace Mark

/-- A place of a text as a place of the longer one. -/
def placed (site : Placement) (mark : Mark) : Mark :=
  ⟨site.index + mark.index, site.line + mark.line, mark.column⟩

variable (site : Placement) (mark : Mark)

@[simp]
theorem column_placed : (mark.placed site).column = mark.column :=
  rfl

@[simp]
theorem next_placed : (mark.placed site).next = mark.next.placed site :=
  rfl

@[simp]
theorem nextBy_placed (count : Nat) :
    (mark.placed site).nextBy count = (mark.nextBy count).placed site := by
  simp [placed, nextBy, Nat.add_assoc]

@[simp]
theorem nextLine_placed (length : Nat) :
    (mark.placed site).nextLine length = (mark.nextLine length).placed site := by
  simp [placed, nextLine, Nat.add_assoc]

/-- At the start of the longer text places do not change. -/
theorem placed_start (first : site.index = 0) (top : site.line = 0) : mark.placed site = mark := by
  simp [placed, first, top]

/-- The place of a line and a column in the order of reading. -/
def Before (mark other : Mark) : Prop :=
  mark.line < other.line ∨ mark.line = other.line ∧ mark.column < other.column

variable {mark}

theorem Before.trans {middle last : Mark} (first : mark.Before middle)
    (second : middle.Before last) : mark.Before last := by
  unfold Before at first second ⊢
  omega

theorem before_next : mark.Before mark.next :=
  .inr ⟨rfl, Nat.lt_succ_self _⟩

theorem before_nextLine (length : Nat) : mark.Before (mark.nextLine length) :=
  .inl (Nat.lt_succ_self _)

end Mark

/-- A cursor in a text as a cursor in the longer one. -/
def Cursor.placed (site : Placement) (cursor : Cursor) : Cursor :=
  ⟨cursor.rest ++ site.tail, cursor.mark.placed site⟩

@[simp]
theorem Cursor.rest_placed (site : Placement) (cursor : Cursor) :
    (cursor.placed site).rest = cursor.rest ++ site.tail :=
  rfl

@[simp]
theorem Cursor.mark_placed (site : Placement) (cursor : Cursor) :
    (cursor.placed site).mark = cursor.mark.placed site :=
  rfl

/-! ## Looking ahead -/

variable {site : Placement} {rest : List Char}

theorem exists_of_startsWith {p : Char → Bool} (starts : startsWith p rest = true) :
    ∃ c later, rest = c :: later ∧ p c = true := by
  cases rest with
  | nil => cases starts
  | cons c rest => exact ⟨c, rest, rfl, starts⟩

/-- Induction on a text that takes a carriage return and a line feed together. -/
theorem lines_induction {motive : List Char → Prop} (nil : motive [])
    (crlf : ∀ rest, motive rest → motive ('\r' :: '\n' :: rest))
    (cons : ∀ c rest, (∀ later, c = '\r' → rest = '\n' :: later → False) → motive rest →
      motive (c :: rest)) : ∀ rest, motive rest
  | [] => nil
  | c :: rest => by
      by_cases pair : ∃ later, c = '\r' ∧ rest = '\n' :: later
      · obtain ⟨later, rfl, rfl⟩ := pair
        exact crlf later (lines_induction nil crlf cons later)
      · apply cons c rest _ (lines_induction nil crlf cons rest)
        intro later first second
        exact pair ⟨later, first, second⟩
termination_by rest => rest.length

/-- Three characters decide whether an indicator stands here. -/
theorem startsIndicator_cons (a b c : Char) (rest : List Char) :
    startsIndicator (a :: b :: c :: rest) =
      ((a = '-' && b = '-' && c = '-' || a = '.' && b = '.' && c = '.') && endsWord rest) := by
  unfold startsIndicator
  split
  · simp_all
  · simp_all
  · rename_i hyphens points
    have noHyphens := hyphens rest
    have noPoints := points rest
    grind

namespace Placement

/-- Whether a line break comes before what follows the text, if anything does. -/
def LineAhead (site : Placement) (rest : List Char) : Prop :=
  site.tail = [] ∨ rest.getLast? = some '\n'

namespace LineAhead

theorem tail_eq_nil (ahead : site.LineAhead []) : site.tail = [] := by
  obtain alone | last := ahead
  · exact alone
  · cases last

theorem of_append (taken : List Char) (ahead : site.LineAhead (taken ++ rest))
    (sameLine : '\n' ∉ taken) : site.LineAhead rest := by
  obtain alone | last := ahead
  · exact .inl alone
  · right
    cases rest with
    | nil =>
        rw [List.append_nil] at last
        exact absurd (List.mem_of_getLast? last) sameLine
    | cons c rest => simpa [List.getLast?_append] using last

theorem of_cons {c : Char} (ahead : site.LineAhead (c :: rest)) (sameLine : c ≠ '\n') :
    site.LineAhead rest := by
  apply of_append [c] ahead
  simpa using sameLine.symm

/-- What is ahead is all there is, or ends with a line break. -/
theorem split (ahead : site.LineAhead rest) :
    site.tail = [] ∨ ∃ line, rest = line ++ ['\n'] := by
  obtain alone | last := ahead
  · exact .inl alone
  · exact .inr (List.getLast?_eq_some_iff.mp last)

theorem startsWith_append (ahead : site.LineAhead rest) (p : Char → Bool) :
    startsWith p (rest ++ site.tail) = startsWith p rest := by
  obtain alone | ⟨line, rfl⟩ := ahead.split
  · rw [alone, List.append_nil]
  · cases line <;> rfl

theorem endsWord_append (ahead : site.LineAhead rest) :
    endsWord (rest ++ site.tail) = endsWord rest := by
  obtain alone | ⟨line, rfl⟩ := ahead.split
  · rw [alone, List.append_nil]
  · cases line <;> rfl

theorem startsIndicator_append (ahead : site.LineAhead rest) :
    startsIndicator (rest ++ site.tail) = startsIndicator rest := by
  obtain alone | ⟨line, rfl⟩ := ahead.split
  · rw [alone, List.append_nil]
  · match line with
    | [] => rfl
    | [a] => simp [startsIndicator]
    | [a, b] => simp [startsIndicator]
    | [a, b, c] => simp [startsIndicator_cons, endsWord]
    | a :: b :: c :: d :: line => simp [startsIndicator_cons, endsWord]

theorem takeWhile_append (ahead : site.LineAhead rest) {p : Char → Bool}
    (stops : p '\n' = false) : (rest ++ site.tail).takeWhile p = rest.takeWhile p := by
  obtain alone | ⟨line, rfl⟩ := ahead.split
  · rw [alone, List.append_nil]
  · rw [List.append_assoc]
    simp [List.takeWhile_append, stops]

theorem isEmpty_append (ahead : site.LineAhead rest) :
    (rest ++ site.tail).isEmpty = rest.isEmpty := by
  obtain alone | ⟨line, rfl⟩ := ahead.split
  · rw [alone, List.append_nil]
  · cases line <;> rfl

/-- A carriage return and a line feed are not torn apart. -/
theorem not_crlf {c : Char} (ahead : site.LineAhead (c :: rest))
    (apart : ∀ later, c = '\r' → rest = '\n' :: later → False) (later : List Char) :
    c = '\r' → rest ++ site.tail = '\n' :: later → False := by
  rintro rfl same
  obtain alone | last := ahead.of_cons (by decide)
  · rw [alone, List.append_nil] at same
    exact apart _ rfl same
  · cases rest with
    | nil => simp at last
    | cons d rest =>
        cases same
        exact apart _ rfl rfl

end LineAhead

end Placement

/-! ## Moving on -/

namespace Cursor

/-- The second cursor is behind some characters of the line at which the first one is. -/
inductive Along : Cursor → Cursor → Prop
  | refl (cursor : Cursor) : Along cursor cursor
  | next {c : Char} {rest : List Char} {mark : Mark} {target : Cursor} (sameLine : c ≠ '\n')
      (later : Along ⟨rest, mark.next⟩ target) : Along ⟨c :: rest, mark⟩ target

/-- The second cursor is behind some characters and lines from the first one on. -/
inductive Reaches : Cursor → Cursor → Prop
  | refl (cursor : Cursor) : Reaches cursor cursor
  | next {c : Char} {rest : List Char} {mark : Mark} {target : Cursor} (sameLine : c ≠ '\n')
      (later : Reaches ⟨rest, mark.next⟩ target) : Reaches ⟨c :: rest, mark⟩ target
  | lineBreak {c : Char} {rest : List Char} {mark : Mark} {target : Cursor}
      (later : Reaches ⟨rest, mark.nextLine 1⟩ target) : Reaches ⟨c :: rest, mark⟩ target
  | carriageReturn {rest : List Char} {mark : Mark} {target : Cursor}
      (later : Reaches ⟨rest, mark.nextLine 2⟩ target) :
      Reaches ⟨'\r' :: '\n' :: rest, mark⟩ target

variable {site : Placement} {cursor middle target : Cursor}

theorem Along.reaches (way : Along cursor target) : Reaches cursor target := by
  induction way with
  | refl cursor => exact .refl cursor
  | next sameLine _ ih => exact .next sameLine ih

theorem Along.trans (first : Along cursor middle) (second : Along middle target) :
    Along cursor target := by
  induction first with
  | refl cursor => exact second
  | next sameLine _ ih => exact .next sameLine (ih second)

theorem Reaches.trans (first : Reaches cursor middle) (second : Reaches middle target) :
    Reaches cursor target := by
  induction first with
  | refl cursor => exact second
  | next sameLine _ ih => exact .next sameLine (ih second)
  | lineBreak _ ih => exact .lineBreak (ih second)
  | carriageReturn _ ih => exact .carriageReturn (ih second)

theorem Reaches.length_le (way : Reaches cursor target) :
    target.rest.length ≤ cursor.rest.length := by
  induction way with
  | refl cursor => exact Nat.le_refl _
  | next _ _ ih => exact Nat.le_succ_of_le ih
  | lineBreak _ ih => exact Nat.le_succ_of_le ih
  | carriageReturn _ ih => exact Nat.le_succ_of_le (Nat.le_succ_of_le ih)

theorem Reaches.before {mark : Mark} (way : Reaches cursor target)
    (earlier : mark.Before cursor.mark) : mark.Before target.mark := by
  induction way with
  | refl cursor => exact earlier
  | next _ _ ih => exact ih (earlier.trans Mark.before_next)
  | lineBreak _ ih => exact ih (earlier.trans (Mark.before_nextLine 1))
  | carriageReturn _ ih => exact ih (earlier.trans (Mark.before_nextLine 2))

/-- The line break that is ahead stays ahead on its line. -/
theorem Along.lineAhead (way : Along cursor target) (ahead : site.LineAhead cursor.rest) :
    site.LineAhead target.rest := by
  induction way with
  | refl cursor => exact ahead
  | next sameLine _ ih => exact ih (ahead.of_cons sameLine)

/-- Whether a cursor is in the text before a line break, or behind the last one. -/
def Seated (site : Placement) (cursor : Cursor) : Prop :=
  site.LineAhead cursor.rest ∨ cursor.rest = [] ∧ cursor.mark.column = 0

theorem Seated.alone (cursor : Cursor) : cursor.Seated .alone :=
  .inl (.inl rfl)

theorem Seated.lineAhead {c : Char} {rest : List Char} {mark : Mark}
    (seated : Seated site ⟨c :: rest, mark⟩) : site.LineAhead (c :: rest) := by
  obtain ahead | ⟨ended, -⟩ := seated
  · exact ahead
  · cases ended

theorem Reaches.seated (way : Reaches cursor target) (seated : cursor.Seated site) :
    target.Seated site := by
  induction way with
  | refl cursor => exact seated
  | next sameLine _ ih =>
      obtain ahead | ⟨ended, -⟩ := seated
      · exact ih (.inl (ahead.of_cons sameLine))
      · cases ended
  | @lineBreak c rest mark target _ ih =>
      apply ih
      obtain (alone | last) | ⟨ended, -⟩ := seated
      · exact .inl (.inl alone)
      · cases rest with
        | nil => exact .inr ⟨rfl, rfl⟩
        | cons d rest => exact .inl (.inr (by simpa using last))
      · cases ended
  | @carriageReturn rest mark target _ ih =>
      apply ih
      obtain (alone | last) | ⟨ended, -⟩ := seated
      · exact .inl (.inl alone)
      · cases rest with
        | nil => exact .inr ⟨rfl, rfl⟩
        | cons d rest => exact .inl (.inr (by simpa using last))
      · cases ended

/-! ## Cursors that move on -/

theorem along_advanceBy {taken : List Char} (sameLine : '\n' ∉ taken) (rest : List Char)
    (mark : Mark) :
    Along ⟨taken ++ rest, mark⟩ ⟨rest, mark.nextBy taken.length⟩ := by
  induction taken generalizing mark with
  | nil => exact .refl _
  | cons c taken ih =>
      rw [List.mem_cons, not_or] at sameLine
      have later := ih sameLine.2 mark.next
      rw [show mark.next.nextBy taken.length = mark.nextBy (c :: taken).length from
        by simp [Mark.next, Mark.nextBy, Nat.add_assoc, Nat.add_comm 1]] at later
      exact .next (Ne.symm sameLine.1) later

theorem advanceBy_placed {count : Nat} (short : count ≤ cursor.rest.length) :
    (cursor.placed site).advanceBy count = (cursor.advanceBy count).placed site := by
  have behind := Mark.nextBy_placed site cursor.mark count
  simp only [Mark.nextBy] at behind
  simp only [advanceBy, placed, behind, List.drop_append_of_le_length short]

section

variable {p : Char → Bool}

theorem rest_span (p : Char → Bool) (cursor : Cursor) :
    (cursor.span p).2.rest = cursor.rest.dropWhile p :=
  calc
    cursor.rest.drop (cursor.rest.takeWhile p).length =
        (cursor.rest.takeWhile p ++ cursor.rest.dropWhile p).drop
          (cursor.rest.takeWhile p).length := by
      rw [List.takeWhile_append_dropWhile]
    _ = cursor.rest.dropWhile p := List.drop_left

theorem along_span (cursor : Cursor) (stops : p '\n' = false) :
    Along cursor (cursor.span p).2 := by
  have sameLine : '\n' ∉ cursor.rest.takeWhile p := by
    intro taken
    have passed := List.mem_takeWhile_imp taken
    rw [stops] at passed
    cases passed
  have way := along_advanceBy sameLine (cursor.rest.dropWhile p) cursor.mark
  rw [List.takeWhile_append_dropWhile, ← rest_span] at way
  exact way

theorem span_placed (ahead : site.LineAhead cursor.rest) (stops : p '\n' = false) :
    (cursor.placed site).span p = ((cursor.span p).1, (cursor.span p).2.placed site) := by
  have taken := ahead.takeWhile_append stops
  have short := (List.takeWhile_sublist (l := cursor.rest) p).length_le
  simp only [span, rest_placed, taken, advanceBy_placed short]

theorem along_advance (seen : cursor.sees p = true) (stops : p '\n' = false) :
    Along cursor cursor.advance := by
  obtain ⟨rest, mark⟩ := cursor
  obtain ⟨c, rest, rfl, passed⟩ := exists_of_startsWith seen
  apply Along.next _ (.refl _)
  rintro rfl
  rw [stops] at passed
  cases passed

theorem sees_placed (ahead : site.LineAhead cursor.rest) (p : Char → Bool) :
    (cursor.placed site).sees p = cursor.sees p :=
  ahead.startsWith_append p

end

theorem advance_placed (ahead : site.LineAhead cursor.rest) :
    (cursor.placed site).advance = cursor.advance.placed site := by
  obtain ⟨rest, mark⟩ := cursor
  obtain alone | ⟨line, rfl⟩ := ahead.split
  · simp [advance, placed, alone]
  · cases line <;> simp [advance, placed]

@[simp]
theorem advance_cons {c : Char} {rest : List Char} {mark : Mark} :
    advance ⟨c :: rest, mark⟩ = ⟨rest, mark.next⟩ :=
  rfl

@[simp]
theorem advance_placed_cons {c : Char} {rest : List Char} {mark : Mark} :
    (placed site ⟨c :: rest, mark⟩).advance = placed site ⟨rest, mark.next⟩ :=
  rfl

theorem atWordEnd_placed (ahead : site.LineAhead cursor.rest) :
    (cursor.placed site).atWordEnd = cursor.atWordEnd :=
  ahead.endsWord_append

theorem atLineEnd_placed (ahead : site.LineAhead cursor.rest) :
    (cursor.placed site).atLineEnd = cursor.atLineEnd := by
  obtain ⟨rest, mark⟩ := cursor
  obtain alone | ⟨line, rfl⟩ := ahead.split
  · simp [atLineEnd, alone]
  · cases line <;> rfl

theorem along_skipBlanks (cursor : Cursor) : Along cursor cursor.skipBlanks :=
  along_span cursor rfl

theorem skipBlanks_placed (ahead : site.LineAhead cursor.rest) :
    (cursor.placed site).skipBlanks = cursor.skipBlanks.placed site :=
  congrArg Prod.snd (span_placed ahead rfl)

theorem along_skipComment (cursor : Cursor) : Along cursor cursor.skipComment := by
  unfold skipComment
  split
  · exact along_span cursor rfl
  · exact .refl cursor

theorem skipComment_placed (ahead : site.LineAhead cursor.rest) :
    (cursor.placed site).skipComment = cursor.skipComment.placed site := by
  simp only [skipComment, rest_placed, ahead.startsWith_append]
  split
  · exact congrArg Prod.snd (span_placed ahead rfl)
  · rfl

theorem reaches_skipBreak (cursor : Cursor) : Reaches cursor cursor.skipBreak := by
  obtain ⟨rest, mark⟩ := cursor
  unfold skipBreak
  split
  · rename_i shape
    cases shape
    exact .carriageReturn (.refl _)
  · rename_i shape
    cases shape
    split
    · exact .lineBreak (.refl _)
    · exact .refl _
  · exact .refl _

theorem skipBreak_cons {c : Char} {rest : List Char} {mark : Mark}
    (apart : ∀ later, c = '\r' → rest = '\n' :: later → False) :
    skipBreak ⟨c :: rest, mark⟩ =
      if isBreak c then ⟨rest, mark.nextLine 1⟩ else ⟨c :: rest, mark⟩ := by
  unfold skipBreak
  split
  · rename_i shape
    cases shape
    exact (apart _ rfl rfl).elim
  · rename_i shape
    cases shape
    rfl
  · rename_i shape
    cases shape

theorem skipBreak_placed (ahead : site.LineAhead cursor.rest) :
    (cursor.placed site).skipBreak = cursor.skipBreak.placed site := by
  obtain ⟨rest, mark⟩ := cursor
  match rest with
  | [] =>
      obtain alone | last := ahead
      · simp [placed, skipBreak, alone]
      · cases last
  | c :: rest =>
      by_cases crlf : ∃ later, c = '\r' ∧ rest = '\n' :: later
      · obtain ⟨later, rfl, rfl⟩ := crlf
        simp [placed, skipBreak]
      · have apart (later : List Char) (first : c = '\r') (second : rest = '\n' :: later) :
            False := crlf ⟨later, first, second⟩
        rw [skipBreak_cons apart, placed, List.cons_append,
          skipBreak_cons (ahead.not_crlf apart)]
        split
        · simp [placed]
        · rfl

end Cursor

end ManifestLint.Yaml
