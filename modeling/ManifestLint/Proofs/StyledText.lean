import ManifestLint.Report.Pretty
import ManifestLint.Proofs.DiscoveredFiles

/-!
# Text behind styles

What a reader sees of a text in terminal styles is the text without its style
sequences.  A text that is painted keeps its place, its padding and its lines, and it
shows the same whether it is painted or not.
-/

namespace ManifestLint.Text

/-! ## Deleting style sequences -/

/-- Whether a character may stand between the bracket and the end of a style sequence. -/
def isParameter (c : Char) : Bool :=
  c.isDigit || c = ';'

/-- The text behind the parameters and the end of a style sequence. -/
def afterParameters? : List Char → Option (List Char)
  | [] => none
  | c :: rest =>
      if c = 'm' then some rest
      else if isParameter c then afterParameters? rest
      else none

/-- The text behind a style sequence that it begins with. -/
def afterSequence? : List Char → Option (List Char)
  | '\x1b' :: '[' :: rest => afterParameters? rest
  | _ => none

theorem length_lt_of_afterParameters? {text rest : List Char}
    (found : afterParameters? text = some rest) : rest.length < text.length := by
  induction text with
  | nil => cases found
  | cons c others ih =>
      rw [afterParameters?] at found
      split at found
      · cases found
        exact Nat.lt_succ_self _
      · split at found
        · exact Nat.lt_succ_of_lt (ih found)
        · cases found

theorem length_lt_of_afterSequence? {text rest : List Char}
    (found : afterSequence? text = some rest) : rest.length < text.length := by
  unfold afterSequence? at found
  split at found
  · exact Nat.lt_succ_of_lt (Nat.lt_succ_of_lt (length_lt_of_afterParameters? found))
  · cases found

/-- A text without its style sequences. -/
def unstyled (text : List Char) : List Char :=
  match _found : afterSequence? text with
  | some rest => unstyled rest
  | none =>
      match text with
      | [] => []
      | c :: rest => c :: unstyled rest
termination_by text.length
decreasing_by
  · exact length_lt_of_afterSequence? _found
  · exact Nat.lt_succ_self _

theorem unstyled_of_sequence {text rest : List Char} (found : afterSequence? text = some rest) :
    unstyled text = unstyled rest := by
  rw [unstyled]
  split
  · rename_i other same
    rw [found] at same
    cases same
    rfl
  · rename_i absent
    rw [found] at absent
    cases absent

@[simp] theorem unstyled_nil : unstyled [] = [] := by
  rw [unstyled]
  rfl

theorem unstyled_cons {c : Char} (noEscape : c ≠ '\x1b') (rest : List Char) :
    unstyled (c :: rest) = c :: unstyled rest := by
  have absent : afterSequence? (c :: rest) = none := by
    unfold afterSequence?
    split
    · rename_i same
      exact absurd (List.cons.inj same).1 noEscape
    · rfl
  rw [unstyled]
  split
  · rename_i found
    rw [absent] at found
    cases found
  · rfl

theorem unstyled_append {front : List Char} (noEscape : '\x1b' ∉ front) (rest : List Char) :
    unstyled (front ++ rest) = front ++ unstyled rest := by
  induction front with
  | nil => rfl
  | cons c others ih =>
      rw [List.mem_cons, not_or] at noEscape
      rw [List.cons_append, unstyled_cons (Ne.symm noEscape.1), ih noEscape.2, List.cons_append]

/-- A text without escapes is left as it is. -/
theorem unstyled_of_not_mem {text : List Char} (noEscape : '\x1b' ∉ text) :
    unstyled text = text := by
  have whole := unstyled_append noEscape []
  rwa [List.append_nil, unstyled_nil, List.append_nil] at whole

/-! ## Style sequences -/

theorem isDigit_of_mem_toString {n : Nat} {c : Char} (member : c ∈ (toString n).toList) :
    c.isDigit = true := by
  rw [Nat.toString_eq_ofList_toDigits, String.toList_ofList] at member
  exact Nat.isDigit_of_mem_toDigits (by decide) (by decide) member

theorem afterParameters?_append {parameters : List Char}
    (allowed : ∀ c ∈ parameters, isParameter c = true) (rest : List Char) :
    afterParameters? (parameters ++ 'm' :: rest) = some rest := by
  induction parameters with
  | nil => rfl
  | cons c others ih =>
      rw [List.forall_mem_cons] at allowed
      have notEnd : c ≠ 'm' := by
        rintro rfl
        exact absurd allowed.1 (by decide)
      rw [List.cons_append, afterParameters?, if_neg notEnd, if_pos allowed.1, ih allowed.2]

namespace Style

/-- The codes between the bracket and the end of the sequence that sets a style. -/
def parameters (style : Style) : List Char :=
  (";".intercalate (style.codes.map toString)).toList

theorem opening_eq (style : Style) :
    style.opening = '\x1b' :: '[' :: (style.parameters ++ ['m']) :=
  rfl

theorem isParameter_of_mem {style : Style} {c : Char} (member : c ∈ style.parameters) :
    isParameter c = true := by
  obtain ⟨codes⟩ := style
  unfold parameters at member
  induction codes with
  | nil => simp at member
  | cons code rest ih =>
      cases rest with
      | nil =>
          rw [List.map_singleton, String.intercalate_singleton] at member
          simp [isParameter, isDigit_of_mem_toString member]
      | cons next others =>
          rw [List.map_cons, List.map_cons, String.intercalate_cons_cons, String.toList_append,
            String.toList_append, List.mem_append, List.mem_append] at member
          rcases member with (digit | separator) | behind
          · simp [isParameter, isDigit_of_mem_toString digit]
          · rw [List.mem_singleton.mp separator]
            decide
          · exact ih behind

@[simp] theorem unstyled_opening (style : Style) (rest : List Char) :
    unstyled (style.opening ++ rest) = unstyled rest := by
  apply unstyled_of_sequence
  rw [opening_eq, List.cons_append, List.cons_append, List.append_assoc, afterSequence?]
  exact afterParameters?_append (fun _ => isParameter_of_mem) rest

@[simp] theorem unstyled_reset (rest : List Char) :
    unstyled (reset ++ rest) = unstyled rest :=
  unstyled_of_sequence rfl

theorem restore_cons {c : Char} (noEscape : c ≠ '\x1b') (style : Style) (rest : List Char) :
    style.restore (c :: rest) = c :: style.restore rest := by
  rw [restore]
  rintro others ⟨⟩
  exact absurd rfl noEscape

theorem restore_of_not_mem (style : Style) {text : List Char} (noEscape : '\x1b' ∉ text) :
    style.restore text = text := by
  induction text with
  | nil => rfl
  | cons c rest ih =>
      rw [List.mem_cons, not_or] at noEscape
      rw [restore_cons (Ne.symm noEscape.1), ih noEscape.2]

/-- Only characters of style sequences come in with them. -/
theorem mem_restore {style : Style} {text : List Char} {c : Char}
    (member : c ∈ style.restore text) : c ∈ text ∨ c ∈ reset ∨ c ∈ style.opening := by
  fun_induction restore style text with
  | case1 rest ih =>
      rw [List.mem_append, List.mem_append] at member
      rcases member with (inReset | inOpening) | behind
      · exact .inr (.inl inReset)
      · exact .inr (.inr inOpening)
      · rcases ih behind with inRest | inSequence
        · simp [inRest]
        · exact .inr inSequence
  | case2 first rest _ ih =>
      rcases List.mem_cons.mp member with here | behind
      · simp [here]
      · rcases ih behind with inRest | inSequence
        · simp [inRest]
        · exact .inr inSequence
  | case3 => cases member

theorem lineFeed_not_mem_opening (style : Style) : '\n' ∉ style.opening := by
  intro member
  rw [opening_eq] at member
  have inParameters : '\n' ∈ style.parameters := by simpa using member
  exact absurd (isParameter_of_mem inParameters) (by decide)

end Style

/-! ## Texts without some characters -/

theorem not_mem_toList_append {c : Char} {text other : String} :
    c ∉ (text ++ other).toList ↔ c ∉ text.toList ∧ c ∉ other.toList := by
  rw [String.toList_append, List.mem_append, not_or]

/-- Padding brings nothing but blanks into a text. -/
theorem not_mem_padRight_iff {c : Char} (notBlank : c ≠ ' ') {width : Nat} {text : List Char} :
    c ∉ padRight width text ↔ c ∉ text := by
  simp [padRight, notBlank]


/-- No character of a text is a control. -/
def NoControls (text : String) : Prop :=
  ∀ c ∈ text.toList, 0x20 ≤ c.toNat

instance (text : String) : Decidable (NoControls text) :=
  List.decidableBAll (fun c : Char => 0x20 ≤ c.toNat) text.toList

theorem NoControls.ofList {chars : List Char}
    (plain : chars.all (fun c => decide (0x20 ≤ c.toNat)) = true) :
    NoControls (String.ofList chars) := by
  simpa only [NoControls, String.toList_ofList, List.all_eq_true, decide_eq_true_eq] using plain

theorem NoControls.append {text other : String} (first : NoControls text)
    (second : NoControls other) : NoControls (text ++ other) := by
  unfold NoControls
  rw [String.toList_append, List.forall_mem_append]
  exact ⟨first, second⟩

theorem noControls_toString (n : Nat) : NoControls (toString n) := by
  intro c member
  have digit := isDigit_of_mem_toString member
  simp only [Char.isDigit, Bool.and_eq_true, decide_eq_true_eq] at digit
  exact Nat.le_trans (by decide) digit.1

theorem NoControls.noEscape {text : String} (plain : NoControls text) :
    '\x1b' ∉ text.toList := by
  intro member
  exact absurd (plain _ member) (by decide)

/-- A text keeps to one line. -/
def OneLine (text : String) : Prop :=
  '\n' ∉ text.toList

instance (text : String) : Decidable (OneLine text) :=
  inferInstanceAs (Decidable ('\n' ∉ text.toList))

theorem OneLine.ofList {chars : List Char} (single : '\n' ∉ chars) :
    OneLine (String.ofList chars) := by
  rwa [OneLine, String.toList_ofList]

theorem OneLine.append {text other : String} (first : OneLine text) (second : OneLine other) :
    OneLine (text ++ other) :=
  not_mem_toList_append.mpr ⟨first, second⟩

theorem NoControls.oneLine {text : String} (plain : NoControls text) : OneLine text := by
  intro member
  exact absurd (plain _ member) (by decide)

/-! ## Painted text -/

theorem toList_paint_plain (style : Style) (width : Nat) (text : String) :
    (paint false style width text).toList = padRight width text.toList := by
  rw [paint, if_neg Bool.false_ne_true, String.toList_ofList]

theorem toList_paint_colored (style : Style) (width : Nat) (text : String) :
    (paint true style width text).toList =
      style.opening ++ padRight width (style.restore text.toList) ++ Style.reset := by
  rw [paint, if_pos rfl, String.toList_ofList]

/-- A painted text shows the text with its padding. -/
theorem unstyled_paint (colored : Bool) (style : Style) (width : Nat) {text : String}
    (noEscape : '\x1b' ∉ text.toList) (rest : List Char) :
    unstyled ((paint colored style width text).toList ++ rest) =
      padRight width text.toList ++ unstyled rest := by
  have padded : '\x1b' ∉ padRight width text.toList :=
    (not_mem_padRight_iff (by decide)).mpr noEscape
  cases colored with
  | false => rw [toList_paint_plain, unstyled_append padded]
  | true =>
      rw [toList_paint_colored, style.restore_of_not_mem noEscape, List.append_assoc,
        List.append_assoc, Style.unstyled_opening, unstyled_append padded,
        Style.unstyled_reset]

theorem OneLine.padRight {text : String} (single : OneLine text) (width : Nat) :
    '\n' ∉ padRight width text.toList :=
  (not_mem_padRight_iff (by decide)).mpr single

/-- A painted text stays on its line. -/
theorem OneLine.paint {text : String} (single : OneLine text) (colored : Bool) (style : Style)
    (width : Nat) : OneLine (paint colored style width text) := by
  unfold OneLine
  cases colored with
  | false =>
      rw [toList_paint_plain]
      exact single.padRight width
  | true =>
      rw [toList_paint_colored]
      simp only [List.mem_append, not_or]
      refine ⟨⟨style.lineFeed_not_mem_opening, ?_⟩, by decide⟩
      rw [not_mem_padRight_iff (by decide)]
      intro restored
      rcases Style.mem_restore restored with inText | inReset | inOpening
      · exact single inText
      · exact absurd inReset (by decide)
      · exact style.lineFeed_not_mem_opening inOpening

/-! ## Lines and words -/

/-- The lines of a text, each of which a line feed ends. -/
def lines (text : List Char) : List (List Char) :=
  (split '\n' text).dropLast

theorem lines_line {line : List Char} (single : '\n' ∉ line) (rest : List Char) :
    lines (line ++ '\n' :: rest) = line :: lines rest := by
  rw [lines, split_append_cons, split_of_not_mem single, List.singleton_append,
    List.dropLast_cons_of_ne_nil (split_ne_nil '\n' rest), lines]

/-- Lines that are ended one by one are told apart. -/
theorem lines_join {separate : List String} (single : ∀ line ∈ separate, OneLine line)
    (rest : List Char) :
    lines ((String.join (separate.map (· ++ "\n"))).toList ++ rest) =
      separate.map String.toList ++ lines rest := by
  have lineFeed : "\n".toList = ['\n'] := rfl
  rw [String.toList_join, List.flatMap_map]
  induction separate with
  | nil => rfl
  | cons line others ih =>
      rw [List.forall_mem_cons] at single
      rw [List.flatMap_cons, String.toList_append, lineFeed, List.append_assoc, List.append_assoc,
        List.singleton_append, lines_line single.1, ih single.2, List.map_cons, List.cons_append]

/-- The last line stands behind the last line feed but one. -/
theorem getLast?_lines (before : List Char) {line : List Char} (single : '\n' ∉ line) :
    (lines (before ++ '\n' :: (line ++ ['\n']))).getLast? = some line := by
  have parts : split '\n' (line ++ ['\n']) = [line, []] := by
    rw [split_append_cons, split_of_not_mem single]
    rfl
  rw [lines, split_append_cons, parts, List.dropLast_append_cons]
  simp

/-- The words of a line. -/
def words (line : List Char) : List String :=
  (split ' ' line).map String.ofList

theorem words_cons {word : String} (whole : ' ' ∉ word.toList) (rest : List Char) :
    words (word.toList ++ ' ' :: rest) = word :: words rest := by
  rw [words, split_append_cons, split_of_not_mem whole, List.singleton_append, List.map_cons,
    String.ofList_toList, words]

/-- Words with blanks between them are told apart. -/
theorem words_intercalate {separate : List String} (some : separate ≠ [])
    (whole : ∀ word ∈ separate, ' ' ∉ word.toList) :
    words (" ".intercalate separate).toList = separate := by
  induction separate with
  | nil => exact absurd rfl some
  | cons word rest ih =>
      rw [List.forall_mem_cons] at whole
      cases rest with
      | nil =>
          rw [String.intercalate_singleton, words, split_of_not_mem whole.1, List.map_singleton,
            String.ofList_toList]
      | cons next others =>
          have blank : " ".toList = [' '] := rfl
          rw [String.intercalate_cons_cons, String.toList_append, String.toList_append, blank,
            List.append_assoc, List.singleton_append, words_cons whole.1,
            ih (List.cons_ne_nil _ _) whole.2]

end ManifestLint.Text
