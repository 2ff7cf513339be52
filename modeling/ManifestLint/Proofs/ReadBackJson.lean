import ManifestLint.Json.Printer
import ManifestLint.Json.Reader
import Mathlib.Data.List.TakeWhile

/-!
# JSON is read back

The text that is printed for a value is read as that value, if every number in it is
an unsigned integer of sixty-four bits.  What follows a value never belongs to it: a
printed value is followed by a comma, by a line break, or by nothing.
-/

namespace ManifestLint.Json

open ManifestLint.Number (ofDigits? spanDigits decimalValue powerOfTwo)

/-- Every number in a value is an unsigned integer of sixty-four bits. -/
inductive WordNumbers : Json → Prop where
  | null : WordNumbers .null
  | bool (value : Bool) : WordNumbers (.bool value)
  | nat {value : Nat} (bound : value < powerOfTwo 64) : WordNumbers (.nat value)
  | string (value : String) : WordNumbers (.string value)
  | array {items : List Json} (inside : ∀ item ∈ items, WordNumbers item) :
      WordNumbers (.array items)
  | object {members : List (String × Json)} (inside : ∀ member ∈ members, WordNumbers member.2) :
      WordNumbers (.object members)

/-! ## Strings -/

theorem ofDigits?_hexDigits :
    ∀ n < 0x20, ofDigits? 16 ['0', '0', hexDigit (n / 16), hexDigit n] = some n := by
  decide

/-- A control is read from its number. -/
theorem readEscapedUnit_control {c : Char} (control : c.toNat < 0x20) (text : List Char) :
    readEscapedUnit ('0' :: '0' :: hexDigit (c.toNat / 16) :: hexDigit c.toNat :: text) =
      some (c, text) := by
  have unit : readUnit ('0' :: '0' :: hexDigit (c.toNat / 16) :: hexDigit c.toNat :: text) =
      some (c.toNat, text) := by
    rw [readUnit, ofDigits?_hexDigits c.toNat control]
    rfl
  have noHigh : ¬ 0xD800 ≤ c.toNat := by omega
  have noLow : ¬ 0xDC00 ≤ c.toNat := by omega
  simp [readEscapedUnit, unit, noHigh, noLow]

/-- Each character of a string is read from its escape. -/
theorem readStringRest_escapeChar (fuel : Nat) (c : Char) (text : List Char) :
    readStringRest (fuel + 1) (escapeChar c ++ text) =
      (readStringRest fuel text).map fun result => (c :: result.1, result.2) := by
  have simple (letter : Char) (known : simpleEscape? letter = some c) (notUnit : letter ≠ 'u') :
      readStringRest (fuel + 1) ('\\' :: letter :: text) =
        (readStringRest fuel text).map fun result => (c :: result.1, result.2) := by
    cases rest : readStringRest fuel text <;>
      simp [readStringRest, known, notUnit, rest]
  unfold escapeChar
  split
  · subst c
    exact simple '"' rfl (by decide)
  split
  · subst c
    exact simple '\\' rfl (by decide)
  split
  · subst c
    exact simple 'n' rfl (by decide)
  split
  · subst c
    exact simple 'r' rfl (by decide)
  split
  · subst c
    exact simple 't' rfl (by decide)
  split
  · subst c
    exact simple 'b' rfl (by decide)
  split
  · subst c
    exact simple 'f' rfl (by decide)
  rename_i notQuote notEscape _ _ _ _ _
  split
  · rename_i control
    cases rest : readStringRest fuel text <;>
      simp [readStringRest, readEscapedUnit_control control, rest]
  · rename_i visible
    cases rest : readStringRest fuel text <;>
      simp [readStringRest, notQuote, notEscape, visible, rest]

theorem readStringRest_flatMap (chars : List Char) {fuel : Nat} (enough : chars.length < fuel)
    (text : List Char) :
    readStringRest fuel (chars.flatMap escapeChar ++ '"' :: text) = some (chars, text) := by
  induction chars generalizing fuel with
  | nil =>
      cases fuel with
      | zero => cases enough
      | succ fuel => simp [readStringRest]
  | cons c rest ih =>
      cases fuel with
      | zero => cases enough
      | succ fuel =>
          rw [List.flatMap_cons, List.append_assoc, readStringRest_escapeChar,
            ih (Nat.lt_of_succ_lt_succ enough)]
          rfl

theorem readString_stringText (text : String) {fuel : Nat} (enough : text.toList.length < fuel)
    (rest : List Char) : readString fuel (stringText text ++ rest) = some (text, rest) := by
  have shape : stringText text ++ rest =
      '"' :: (text.toList.flatMap escapeChar ++ '"' :: rest) := by
    simp [stringText]
  rw [shape, readString, readStringRest_flatMap _ enough, Option.map_some, String.ofList_toList]

/-- Every character of a string takes at least one character of its text. -/
theorem length_lt_length_stringText (text : String) :
    text.toList.length < (stringText text).length := by
  have escaped : ∀ chars : List Char, chars.length ≤ (chars.flatMap escapeChar).length := by
    intro chars
    induction chars with
    | nil => exact Nat.le_refl _
    | cons c rest ih =>
        have first : 1 ≤ (escapeChar c).length := by
          unfold escapeChar
          split_ifs <;> simp
        rw [List.flatMap_cons, List.length_append, List.length_cons]
        omega
  have inner := escaped text.toList
  simp only [stringText, List.length_cons, List.length_append]
  omega

/-! ## Numbers -/

/-- What may stand behind a printed value. -/
def Bounded (rest : List Char) : Prop :=
  ∀ c ∈ rest.head?, c = ',' ∨ c = '\n'

theorem isDigit_of_mem {n : Nat} {c : Char} (member : c ∈ Nat.toDigits 10 n) :
    c.isDigit = true :=
  Nat.isDigit_of_mem_toDigits (by decide) (by decide) member

theorem toDigits_eq_cons (n : Nat) :
    ∃ first rest, Nat.toDigits 10 n = first :: rest ∧ first.isDigit = true := by
  cases digits : Nat.toDigits 10 n with
  | nil => exact absurd digits Nat.toDigits_ne_nil
  | cons first rest => exact ⟨first, rest, rfl, isDigit_of_mem (digits ▸ List.mem_cons_self ..)⟩

/-- Only zero begins with the digit zero. -/
theorem head?_toDigits_ne_zero {n : Nat} (positive : 0 < n) :
    (Nat.toDigits 10 n).head? ≠ some '0' := by
  induction n using Nat.strongRecOn with
  | ind n ih =>
      by_cases small : n < 10
      · rw [Nat.toDigits_of_lt_base small]
        simp [Nat.digitChar_eq_zero]
        omega
      · have quotient : 0 < n / 10 := by omega
        rcases toDigits_eq_cons (n / 10) with ⟨first, rest, shape, _⟩
        have leading := ih (n / 10) (by omega) quotient
        rw [Nat.toDigits_of_base_le (by decide) (Nat.not_lt.mp small), shape]
        rwa [shape] at leading

theorem decimalValue_toDigits (n : Nat) : decimalValue (Nat.toDigits 10 n) = n := by
  have read := Nat.ofDigitChars_ten_toDigits (n := n)
  rwa [Nat.ofDigitChars_eq_foldl] at read

theorem numberText_nat (n : Nat) : numberText (.integer n) = Nat.toDigits 10 n := by
  rw [numberText]
  change (toString n).toList = _
  rw [Nat.toString_eq_ofList_toDigits, String.toList_ofList]

/-- The digits of a number end where the number ends. -/
theorem spanDigits_toDigits (n : Nat) {rest : List Char} (bounded : Bounded rest) :
    spanDigits (Nat.toDigits 10 n ++ rest) = (Nat.toDigits 10 n, rest) := by
  have digits : ∀ c ∈ Nat.toDigits 10 n, c.isDigit = true := fun _ => isDigit_of_mem
  have noDigit : ∀ c ∈ rest.head?, c.isDigit = false := by
    intro c head
    rcases bounded c head with rfl | rfl <;> rfl
  have stop : rest.takeWhile Char.isDigit = [] ∧ rest.dropWhile Char.isDigit = rest := by
    cases rest with
    | nil => exact ⟨rfl, rfl⟩
    | cons c text => simp [noDigit c rfl]
  rw [spanDigits, List.takeWhile_append_of_pos digits, List.dropWhile_append_of_pos digits,
    stop.1, stop.2, List.append_nil]

theorem readFraction_of_bounded {rest : List Char} (bounded : Bounded rest) :
    readFraction rest = some (none, rest) := by
  cases rest with
  | nil => rfl
  | cons c text => rcases bounded c rfl with rfl | rfl <;> rfl

theorem readExponent_of_bounded {rest : List Char} (bounded : Bounded rest) :
    readExponent rest = some (none, rest) := by
  cases rest with
  | nil => rfl
  | cons c text => rcases bounded c rfl with rfl | rfl <;> rfl

theorem readNumber_nat {n : Nat} (bound : n < powerOfTwo 64) {rest : List Char}
    (bounded : Bounded rest) :
    readNumber (numberText (.integer n) ++ rest) = some (.integer n, rest) := by
  rcases toDigits_eq_cons n with ⟨first, digits, shape, digit⟩
  have noSign : first ≠ '-' := by
    rintro rfl
    cases digit
  have noLeadingZero : ((Nat.toDigits 10 n).isEmpty ||
      (1 < (Nat.toDigits 10 n).length && (Nat.toDigits 10 n).head? = some '0')) = false := by
    rcases Nat.eq_zero_or_pos n with rfl | positive
    · rfl
    · simp [head?_toDigits_ne_zero positive, Nat.toDigits_ne_nil]
  have isWord : Number.isWord n = true := by
    simp only [Number.isWord, Bool.and_eq_true, decide_eq_true_eq]
    omega
  have value : assembleNumber false (Nat.toDigits 10 n) none none = .integer n := by
    simp [assembleNumber, decimalValue_toDigits, isWord]
  have span := spanDigits_toDigits n bounded
  rw [numberText_nat]
  unfold readNumber
  split
  rename_i negative text matched
  split at matched
  · rename_i signed
    rw [shape, List.cons_append, List.cons.injEq] at signed
    exact absurd signed.1 noSign
  · cases matched
    simp [span, noLeadingZero, readFraction_of_bounded bounded, readExponent_of_bounded bounded,
      value]

/-! ## Blanks -/

/-- A character that cannot be dropped. -/
def IsToken (c : Char) : Prop :=
  ¬ (c = ' ' ∨ c = '\n' ∨ c = '\r' ∨ c = '\t')
deriving Decidable

theorem dropBlanks_cons_token {c : Char} (token : IsToken c) (rest : List Char) :
    dropBlanks (c :: rest) = c :: rest := by
  have kept : ¬ (c = ' ' || c = '\n' || c = '\r' || c = '\t') = true := by
    simpa [IsToken, or_assoc] using token
  rw [dropBlanks, if_neg kept]

theorem dropBlanks_newline (level : Nat) (text : List Char) :
    dropBlanks (newline level ++ text) = dropBlanks text := by
  have spaces : ∀ count : Nat, dropBlanks (List.replicate count ' ' ++ text) = dropBlanks text := by
    intro count
    induction count with
    | zero => rfl
    | succ count ih =>
        rw [List.replicate_succ, List.cons_append, dropBlanks, if_pos (by decide), ih]
  rw [newline, List.cons_append, dropBlanks, if_pos (by decide), spaces]

/-- The text of a value begins with a character that no blank and no closing bracket
is. -/
theorem render_eq_cons (level : Nat) {value : Json} (words : WordNumbers value) :
    ∃ first rest, render level value = first :: rest ∧ IsToken first ∧ first ≠ ']' := by
  cases words with
  | null => exact ⟨'n', _, rfl, by decide, by decide⟩
  | bool value =>
      cases value with
      | false => exact ⟨'f', _, rfl, by decide, by decide⟩
      | true => exact ⟨'t', _, rfl, by decide, by decide⟩
  | @nat value bound =>
      rcases toDigits_eq_cons value with ⟨first, rest, shape, digit⟩
      rw [nat, render, numberText_nat]
      refine ⟨first, rest, shape, ?_, ?_⟩
      · rintro (rfl | rfl | rfl | rfl) <;> cases digit
      · rintro rfl
        cases digit
  | string value => exact ⟨_, _, rfl, by decide, by decide⟩
  | @array items inside => cases items <;> exact ⟨_, _, rfl, by decide, by decide⟩
  | @object members inside => cases members <;> exact ⟨_, _, rfl, by decide, by decide⟩

theorem dropBlanks_render (level : Nat) {value : Json} (words : WordNumbers value)
    (rest : List Char) : dropBlanks (render level value ++ rest) = render level value ++ rest := by
  rcases render_eq_cons level words with ⟨first, text, shape, token, _⟩
  rw [shape, List.cons_append, dropBlanks_cons_token token]

/-! ## Values -/

/-- A value is read from its text, at any level and whatever stands behind it. -/
def ReadsBack (value : Json) : Prop :=
  ∀ ⦃level fuel : Nat⦄ ⦃rest : List Char⦄, 2 * (render level value).length ≤ fuel →
    Bounded rest → readValue fuel (render level value ++ rest) = some (value, rest)

theorem readValue_dropBlanks (fuel : Nat) {text other : List Char}
    (same : dropBlanks text = dropBlanks other) : readValue fuel text = readValue fuel other := by
  cases fuel with
  | zero => rfl
  | succ fuel => rw [readValue, readValue, same]

theorem readsBack_null : ReadsBack .null := by
  intro level fuel rest enough _
  cases fuel with
  | zero => simp [render] at enough
  | succ fuel => rfl

theorem readsBack_bool (value : Bool) : ReadsBack (.bool value) := by
  intro level fuel rest enough _
  cases fuel with
  | zero => cases value <;> simp [render] at enough
  | succ fuel => cases value <;> rfl

theorem readsBack_nat {n : Nat} (bound : n < powerOfTwo 64) : ReadsBack (.nat n) := by
  intro level fuel rest enough bounded
  have number := readNumber_nat bound bounded
  have dropped := dropBlanks_render level (.nat bound) rest
  rcases toDigits_eq_cons n with ⟨first, digits, shape, digit⟩
  have differs {c : Char} (noDigit : c.isDigit = false) : first ≠ c := by
    rintro rfl
    rw [digit] at noDigit
    cases noDigit
  rw [nat, render, numberText_nat, shape] at enough dropped ⊢
  rw [numberText_nat, shape] at number
  cases fuel with
  | zero => simp at enough
  | succ fuel =>
      rw [List.cons_append] at number dropped
      rw [readValue, List.cons_append, dropped]
      simp [differs, number]

theorem readsBack_string (value : String) : ReadsBack (.string value) := by
  intro level fuel rest enough _
  rw [render] at enough ⊢
  have long := length_lt_length_stringText value
  cases fuel with
  | zero => omega
  | succ fuel =>
      have within : value.toList.length < fuel + 1 := by omega
      have read := readString_stringText value within rest
      have shape : stringText value ++ rest =
          '"' :: (value.toList.flatMap escapeChar ++ ['"'] ++ rest) := rfl
      rw [shape] at read ⊢
      rw [readValue, dropBlanks_cons_token (by decide)]
      simp only [read]
      rfl

/-! ### Arrays -/

theorem dropBlanks_dropBlanks (text : List Char) :
    dropBlanks (dropBlanks text) = dropBlanks text := by
  induction text with
  | nil => rfl
  | cons c rest ih =>
      by_cases token : IsToken c
      · rw [dropBlanks_cons_token token, dropBlanks_cons_token token]
      · have dropped : (c = ' ' || c = '\n' || c = '\r' || c = '\t') = true := by
          rw [IsToken, Decidable.not_not] at token
          simpa [or_assoc] using token
        rw [dropBlanks, if_pos dropped, ih]

theorem readItems_dropBlanks (fuel : Nat) (text : List Char) :
    readItems fuel (dropBlanks text) = readItems fuel text := by
  cases fuel with
  | zero => rfl
  | succ fuel =>
      rw [readItems, readItems, readValue_dropBlanks fuel (dropBlanks_dropBlanks text)]

theorem bounded_renderItems (level outer : Nat) (items : List Json) (rest : List Char) :
    Bounded (renderItems level items ++ (newline outer ++ rest)) := by
  cases items with
  | nil => simp [Bounded, renderItems, newline]
  | cons item items => simp [Bounded, renderItems]

/-- The items of an array are read one by one up to the closing bracket. -/
theorem readItems_rendered {item : Json} {items : List Json}
    (back : ∀ each ∈ item :: items, ReadsBack each) (level outer : Nat) {fuel : Nat}
    (enough : 2 * ((render level item).length + (renderItems level items).length) + 1 ≤ fuel)
    (rest : List Char) :
    readItems fuel (newline level ++ (render level item ++
      (renderItems level items ++ (newline outer ++ ']' :: rest)))) =
        some (item :: items, rest) := by
  induction items generalizing item fuel with
  | nil =>
      cases fuel with
      | zero => cases enough
      | succ fuel =>
          have read : readValue fuel (render level item ++
              (renderItems level [] ++ (newline outer ++ ']' :: rest))) = some (item, _) :=
            back item (List.mem_cons_self ..) (by omega) (bounded_renderItems level outer [] _)
          rw [readItems, readValue_dropBlanks fuel (dropBlanks_newline level _), read]
          simp only [renderItems, List.nil_append, dropBlanks_newline, Option.bind_eq_bind,
            Option.bind_some]
          rw [dropBlanks_cons_token (by decide)]
          rfl
  | cons next items ih =>
      cases fuel with
      | zero => cases enough
      | succ fuel =>
          rw [List.forall_mem_cons] at back
          have length : (renderItems level (next :: items)).length =
              1 + (newline level).length + (render level next).length +
                (renderItems level items).length := by
            simp only [renderItems, List.length_append, List.length_cons]
            omega
          have read : readValue fuel (render level item ++
              (renderItems level (next :: items) ++ (newline outer ++ ']' :: rest))) =
                some (item, _) :=
            back.1 (by omega) (bounded_renderItems level outer (next :: items) _)
          have more : readItems fuel _ = some (next :: items, rest) := ih back.2 (by omega)
          rw [readItems, readValue_dropBlanks fuel (dropBlanks_newline level _), read]
          simp only [renderItems, List.cons_append, List.append_assoc, Option.bind_eq_bind,
            Option.bind_some]
          rw [dropBlanks_cons_token (by decide)]
          simp [more]

theorem readsBack_array {items : List Json} (words : ∀ item ∈ items, WordNumbers item)
    (back : ∀ item ∈ items, ReadsBack item) : ReadsBack (.array items) := by
  intro level fuel rest enough _
  cases fuel with
  | zero =>
      cases items <;> simp [render] at enough
  | succ fuel =>
      cases items with
      | nil => rfl
      | cons item items =>
          have shape : render level (.array (item :: items)) ++ rest =
              '[' :: (newline (level + 1) ++ (render (level + 1) item ++
                (renderItems (level + 1) items ++ (newline level ++ ']' :: rest)))) := by
            simp [render]
          have length := congrArg List.length shape
          simp only [List.length_append, List.length_cons] at length
          have read : readItems fuel _ = some (item :: items, rest) :=
            readItems_rendered back (level + 1) level (by omega) rest
          rw [← readItems_dropBlanks, dropBlanks_newline] at read
          rcases render_eq_cons (level + 1) (words item (List.mem_cons_self ..)) with
            ⟨first, text, start, token, notClosing⟩
          rw [shape, readValue, dropBlanks_cons_token (by decide)]
          simp only [dropBlanks_newline]
          rw [start, List.cons_append, dropBlanks_cons_token token] at read ⊢
          simp [notClosing, read]

/-! ### Objects -/

theorem bounded_renderMembers (level outer : Nat) (members : List (String × Json))
    (rest : List Char) : Bounded (renderMembers level members ++ (newline outer ++ rest)) := by
  cases members with
  | nil => simp [Bounded, renderMembers, newline]
  | cons member members => simp [Bounded, renderMembers]

theorem readMembers_dropBlanks (fuel : Nat) (text : List Char) :
    readMembers fuel (dropBlanks text) = readMembers fuel text := by
  cases fuel with
  | zero => rfl
  | succ fuel => rw [readMembers, readMembers, dropBlanks_dropBlanks]

/-- One member is read up to what stands behind it. -/
theorem readMembers_member {member : String × Json} (back : ReadsBack member.2)
    {level fuel : Nat} (enough : 2 * (renderMember level member).length ≤ fuel)
    {text : List Char} (bounded : Bounded text) :
    readMembers (fuel + 1) (newline level ++ (renderMember level member ++ text)) =
      match dropBlanks text with
      | '\x7d' :: rest => some ([member], rest)
      | ',' :: rest => do
          let (members, rest) ← readMembers fuel rest
          some (member :: members, rest)
      | _ => none := by
  rcases member with ⟨name, value⟩
  change ReadsBack value at back
  have long := length_lt_length_stringText name
  have length : (renderMember level (name, value)).length =
      (stringText name).length + 2 + (render level value).length := by
    simp only [renderMember, List.length_append, List.length_cons, List.length_nil]
  have shape : renderMember level (name, value) ++ text =
      stringText name ++ (':' :: ' ' :: (render level value ++ text)) := by
    simp [renderMember]
  have nameRead : readString (fuel + 1)
      (dropBlanks (newline level ++ (renderMember level (name, value) ++ text))) =
        some (name, ':' :: ' ' :: (render level value ++ text)) := by
    have quoted : dropBlanks (stringText name ++ (':' :: ' ' :: (render level value ++ text))) =
        stringText name ++ (':' :: ' ' :: (render level value ++ text)) :=
      dropBlanks_cons_token (by decide) _
    rw [dropBlanks_newline, shape, quoted]
    exact readString_stringText name (by omega) _
  have space : dropBlanks (' ' :: (render level value ++ text)) =
      dropBlanks (render level value ++ text) := rfl
  have valueRead : readValue fuel (' ' :: (render level value ++ text)) = some (value, text) := by
    rw [readValue_dropBlanks fuel space]
    exact back (by omega) bounded
  have colon : dropBlanks (':' :: ' ' :: (render level value ++ text)) =
      ':' :: ' ' :: (render level value ++ text) := dropBlanks_cons_token (by decide) _
  rw [readMembers, nameRead]
  simp only [Option.bind_eq_bind, Option.bind_some, colon]
  rw [valueRead]
  rfl

/-- The members of an object are read one by one up to the closing brace. -/
theorem readMembers_rendered {member : String × Json} {members : List (String × Json)}
    (back : ∀ each ∈ member :: members, ReadsBack each.2) (level outer : Nat) {fuel : Nat}
    (enough : 2 * ((renderMember level member).length + (renderMembers level members).length) + 1 ≤
      fuel) (rest : List Char) :
    readMembers fuel (newline level ++ (renderMember level member ++
      (renderMembers level members ++ (newline outer ++ '\x7d' :: rest)))) =
        some (member :: members, rest) := by
  induction members generalizing member fuel with
  | nil =>
      cases fuel with
      | zero => cases enough
      | succ fuel =>
          rw [readMembers_member (back _ (List.mem_cons_self ..)) (by omega)
            (bounded_renderMembers level outer [] _)]
          simp only [renderMembers, List.nil_append, dropBlanks_newline]
          rw [dropBlanks_cons_token (by decide)]
          rfl
  | cons next members ih =>
      cases fuel with
      | zero => cases enough
      | succ fuel =>
          rw [List.forall_mem_cons] at back
          have length : (renderMembers level (next :: members)).length =
              1 + (newline level).length + (renderMember level next).length +
                (renderMembers level members).length := by
            simp only [renderMembers, List.length_append, List.length_cons]
            omega
          have more : readMembers fuel _ = some (next :: members, rest) :=
            ih back.2 (by omega)
          rw [readMembers_member back.1 (by omega)
            (bounded_renderMembers level outer (next :: members) _)]
          simp only [renderMembers, List.cons_append, List.append_assoc]
          rw [dropBlanks_cons_token (by decide)]
          simp [more]

theorem readsBack_object {members : List (String × Json)}
    (back : ∀ member ∈ members, ReadsBack member.2) : ReadsBack (.object members) := by
  intro level fuel rest enough _
  cases fuel with
  | zero =>
      cases members <;> simp [render] at enough
  | succ fuel =>
      cases members with
      | nil => rfl
      | cons member members =>
          have shape : render level (.object (member :: members)) ++ rest =
              '\x7b' :: (newline (level + 1) ++ (renderMember (level + 1) member ++
                (renderMembers (level + 1) members ++ (newline level ++ '\x7d' :: rest)))) := by
            simp [render]
          have length := congrArg List.length shape
          simp only [List.length_append, List.length_cons] at length
          have read : readMembers fuel _ = some (member :: members, rest) :=
            readMembers_rendered back (level + 1) level (by omega) rest
          rw [← readMembers_dropBlanks, dropBlanks_newline] at read
          have start : ∃ text, renderMember (level + 1) member = '"' :: text := by
            cases member
            exact ⟨_, rfl⟩
          rcases start with ⟨text, start⟩
          rw [shape, readValue, dropBlanks_cons_token (by decide)]
          simp only [dropBlanks_newline]
          rw [start, List.cons_append, dropBlanks_cons_token (by decide)] at read ⊢
          simp [read]

/-- Every value is read back from its text. -/
theorem WordNumbers.readsBack {value : Json} (words : WordNumbers value) : ReadsBack value := by
  induction words with
  | null => exact readsBack_null
  | bool value => exact readsBack_bool value
  | nat bound => exact readsBack_nat bound
  | string value => exact readsBack_string value
  | array inside ih => exact readsBack_array inside ih
  | object _ ih => exact readsBack_object ih

/-- The text that is printed for a value is read as that value. -/
theorem read_pretty {value : Json} (words : WordNumbers value) :
    read value.pretty = some value := by
  have back : readValue (2 * (render 0 value).length + 2) (render 0 value ++ []) =
      some (value, []) := words.readsBack (by omega) nofun
  rw [List.append_nil] at back
  rw [read, pretty, String.toList_ofList, back]
  rfl

end ManifestLint.Json
