import ManifestLint.Proofs.ReadBackJson

/-!
# The grammar of JSON

Which texts are JSON documents: blanks may stand around every value and every
punctuation mark, strings escape the quote, the backslash and controls, and numbers
have no leading zero.  Every printed value is such a text.
-/

namespace ManifestLint.Json

/-! ## Blanks, strings, and numbers -/

/-- Any number of blanks and line breaks. -/
def IsSpace (text : List Char) : Prop :=
  ∀ c ∈ text, c = ' ' ∨ c = '\t' ∨ c = '\n' ∨ c = '\r'

/-- A hexadecimal digit. -/
def IsHexDigit (c : Char) : Prop :=
  c.isDigit = true ∨ ('a' ≤ c ∧ c ≤ 'f') ∨ ('A' ≤ c ∧ c ≤ 'F')
deriving Decidable

/-- How one character is written inside a string. -/
inductive IsCharacter : List Char → Prop where
  | plain {c : Char} (notQuote : c ≠ '"') (notEscape : c ≠ '\\') (noControl : 0x20 ≤ c.toNat) :
      IsCharacter [c]
  | escaped {c : Char} (known : c ∈ ['"', '\\', '/', 'b', 'f', 'n', 'r', 't']) :
      IsCharacter ['\\', c]
  | unit {a b c d : Char} (digits : ∀ digit ∈ [a, b, c, d], IsHexDigit digit) :
      IsCharacter ['\\', 'u', a, b, c, d]

/-- What stands between the quotes of a string. -/
inductive IsContent : List Char → Prop where
  | nil : IsContent []
  | cons {first rest : List Char} (character : IsCharacter first) (others : IsContent rest) :
      IsContent (first ++ rest)

/-- A string. -/
inductive IsString : List Char → Prop where
  | quoted {content : List Char} (inside : IsContent content) :
      IsString ('"' :: content ++ ['"'])

/-- At least one digit. -/
def IsDigits (text : List Char) : Prop :=
  text ≠ [] ∧ ∀ c ∈ text, c.isDigit = true

/-- The whole part of a number, without a leading zero. -/
def IsWhole (text : List Char) : Prop :=
  IsDigits text ∧ (text.head? = some '0' → text = ['0'])

/-- The fraction of a number, if there is one. -/
inductive IsFraction : List Char → Prop where
  | absent : IsFraction []
  | places {digits : List Char} (isDigits : IsDigits digits) : IsFraction ('.' :: digits)

/-- The exponent of a number, if there is one. -/
inductive IsExponent : List Char → Prop where
  | absent : IsExponent []
  | power {letter : Char} (isLetter : letter = 'e' ∨ letter = 'E') {sign digits : List Char}
      (isSign : sign = [] ∨ sign = ['+'] ∨ sign = ['-']) (isDigits : IsDigits digits) :
      IsExponent (letter :: sign ++ digits)

/-- A number. -/
inductive IsNumber : List Char → Prop where
  | parts {sign whole fraction exponent : List Char} (isSign : sign = [] ∨ sign = ['-'])
      (isWhole : IsWhole whole) (isFraction : IsFraction fraction)
      (isExponent : IsExponent exponent) : IsNumber (sign ++ whole ++ fraction ++ exponent)

/-! ## Values -/

mutual

/-- A value, without blanks around it. -/
inductive IsValue : List Char → Prop where
  | null : IsValue "null".toList
  | true : IsValue "true".toList
  | false : IsValue "false".toList
  | number {text : List Char} (isNumber : IsNumber text) : IsValue text
  | string {text : List Char} (isString : IsString text) : IsValue text
  | emptyArray {space : List Char} (isSpace : IsSpace space) : IsValue ('[' :: space ++ [']'])
  | array {items : List Char} (isItems : IsItems items) : IsValue ('[' :: items ++ [']'])
  | emptyObject {space : List Char} (isSpace : IsSpace space) :
      IsValue ('\x7b' :: space ++ ['\x7d'])
  | object {members : List Char} (isMembers : IsMembers members) :
      IsValue ('\x7b' :: members ++ ['\x7d'])

/-- The items of an array, with commas between them. -/
inductive IsItems : List Char → Prop where
  | last {before value after : List Char} (spaceBefore : IsSpace before) (isValue : IsValue value)
      (spaceAfter : IsSpace after) : IsItems (before ++ value ++ after)
  | more {before value after items : List Char} (spaceBefore : IsSpace before)
      (isValue : IsValue value) (spaceAfter : IsSpace after) (others : IsItems items) :
      IsItems (before ++ value ++ after ++ ',' :: items)

/-- The members of an object, with commas between them. -/
inductive IsMembers : List Char → Prop where
  | last {member : List Char} (isMember : IsMember member) : IsMembers member
  | more {member members : List Char} (isMember : IsMember member) (others : IsMembers members) :
      IsMembers (member ++ ',' :: members)

/-- A name and its value. -/
inductive IsMember : List Char → Prop where
  | named {before name between beyond value after : List Char} (spaceBefore : IsSpace before)
      (isName : IsString name) (spaceBetween : IsSpace between) (spaceBeyond : IsSpace beyond)
      (isValue : IsValue value) (spaceAfter : IsSpace after) :
      IsMember (before ++ name ++ between ++ ':' :: (beyond ++ value ++ after))

end

/-- A document: one value with blanks around it. -/
inductive IsDocument : List Char → Prop where
  | value {before value after : List Char} (spaceBefore : IsSpace before)
      (isValue : IsValue value) (spaceAfter : IsSpace after) :
      IsDocument (before ++ value ++ after)

/-! ## Printed values -/

theorem isSpace_nil : IsSpace [] :=
  List.forall_mem_nil _

theorem isSpace_newline (level : Nat) : IsSpace (newline level) := by
  intro c member
  rcases List.mem_cons.mp member with rfl | space
  · exact .inr (.inr (.inl rfl))
  · exact .inl (List.eq_of_mem_replicate space)

theorem isHexDigit_hexDigit (n : Nat) : IsHexDigit (hexDigit n) := by
  have all : ∀ digit < 16, IsHexDigit (Nat.digitChar digit) := by decide
  exact all (n % 16) (Nat.mod_lt n (by decide))

theorem isCharacter_escapeChar (c : Char) : IsCharacter (escapeChar c) := by
  unfold escapeChar
  split_ifs with quote escape _ _ _ _ _ control
  · exact .escaped (by decide)
  · exact .escaped (by decide)
  · exact .escaped (by decide)
  · exact .escaped (by decide)
  · exact .escaped (by decide)
  · exact .escaped (by decide)
  · exact .escaped (by decide)
  · apply IsCharacter.unit
    simp only [List.forall_mem_cons]
    exact ⟨by decide, by decide, isHexDigit_hexDigit _, isHexDigit_hexDigit _,
      List.forall_mem_nil _⟩
  · exact .plain quote escape (Nat.not_lt.mp control)

theorem isString_stringText (text : String) : IsString (stringText text) := by
  have content : ∀ chars : List Char, IsContent (chars.flatMap escapeChar) := by
    intro chars
    induction chars with
    | nil => exact .nil
    | cons c rest ih =>
        rw [List.flatMap_cons]
        exact .cons (isCharacter_escapeChar c) ih
  exact .quoted (content text.toList)

theorem isNumber_numberText (n : Nat) : IsNumber (numberText (.integer n)) := by
  have whole : IsWhole (Nat.toDigits 10 n) := by
    refine ⟨⟨Nat.toDigits_ne_nil, fun _ => isDigit_of_mem⟩, ?_⟩
    intro leadingZero
    rcases Nat.eq_zero_or_pos n with rfl | positive
    · rfl
    · exact absurd leadingZero (head?_toDigits_ne_zero positive)
  have parts := IsNumber.parts (.inl rfl) whole .absent .absent
  rw [numberText_nat]
  simpa using parts

theorem isItems_renderItems (level outer : Nat) {item : Json} {items : List Json}
    (values : ∀ each ∈ item :: items, ∀ level, IsValue (render level each)) :
    IsItems (newline level ++ (render level item ++
      (renderItems level items ++ newline outer))) := by
  induction items generalizing item with
  | nil =>
      have last := IsItems.last (isSpace_newline level) (values item (List.mem_cons_self ..) level)
        (isSpace_newline outer)
      simpa [renderItems] using last
  | cons next items ih =>
      rw [List.forall_mem_cons] at values
      have more := IsItems.more (isSpace_newline level) (values.1 level) isSpace_nil (ih values.2)
      simpa [renderItems] using more

theorem isMember_renderMember (member : String × Json) {level : Nat}
    (isValue : IsValue (render level member.2)) {after : List Char} (spaceAfter : IsSpace after) :
    IsMember (newline level ++ (renderMember level member ++ after)) := by
  rcases member with ⟨name, value⟩
  have space : IsSpace [' '] := fun c member => .inl (List.mem_singleton.mp member)
  have named := IsMember.named (isSpace_newline level) (isString_stringText name) isSpace_nil
    space isValue spaceAfter
  simpa [renderMember] using named

theorem isMembers_renderMembers (level outer : Nat) {member : String × Json}
    {members : List (String × Json)}
    (values : ∀ each ∈ member :: members, ∀ level, IsValue (render level each.2)) :
    IsMembers (newline level ++ (renderMember level member ++
      (renderMembers level members ++ newline outer))) := by
  induction members generalizing member with
  | nil =>
      have last := IsMembers.last (isMember_renderMember member
        (values member (List.mem_cons_self ..) level) (isSpace_newline outer))
      simpa [renderMembers] using last
  | cons next members ih =>
      rw [List.forall_mem_cons] at values
      have more := IsMembers.more (isMember_renderMember member (values.1 level) isSpace_nil)
        (ih values.2)
      simpa [renderMembers] using more

/-- A printed value is a value. -/
theorem WordNumbers.isValue {value : Json} (words : WordNumbers value) (level : Nat) :
    IsValue (render level value) := by
  induction words generalizing level with
  | null => exact .null
  | bool value =>
      cases value with
      | false => exact .false
      | true => exact .true
  | nat _ => exact .number (isNumber_numberText _)
  | string value => exact .string (isString_stringText value)
  | @array items _ ih =>
      cases items with
      | nil => exact .emptyArray isSpace_nil
      | cons item items =>
          have array := IsValue.array (isItems_renderItems (level + 1) level ih)
          simpa [render] using array
  | @object members _ ih =>
      cases members with
      | nil => exact .emptyObject isSpace_nil
      | cons member members =>
          have object := IsValue.object (isMembers_renderMembers (level + 1) level ih)
          simpa [render] using object

/-- A printed text is a JSON document. -/
theorem isDocument_pretty {value : Json} (words : WordNumbers value) :
    IsDocument value.pretty.toList := by
  rw [pretty, String.toList_ofList]
  simpa using IsDocument.value isSpace_nil (words.isValue 0) isSpace_nil

end ManifestLint.Json
