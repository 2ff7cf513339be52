import Mathlib
import ManifestLint.Text.Casing

/-!
# Lower case is settled

No run of capital letters covers what a run maps to, so the lower case of a text
has nothing left to lower.  The case of ASCII letters does not show in the lower
case of a text: neither in the letters themselves nor in the form of a sigma near
them.
-/

namespace ManifestLint.Text

/-! ## Runs of capital letters -/

namespace CaseRun

/-- The last code point that a run can map to. -/
def imageEnd (run : CaseRun) : Nat :=
  run.image + (run.last - run.first)

/-- Whether a run maps to nothing that another covers: they lie apart, or the
other covers every second code point and the run maps to those between. -/
def isClearOf (run other : CaseRun) : Bool :=
  run.imageEnd.blt other.first || other.last.blt run.image ||
    other.step == 2 && (run.step == 2 || run.first == run.last) &&
      (run.image + other.first) % 2 == 1

theorem covers_iff {run : CaseRun} {code : Nat} :
    run.covers code = true ↔
      run.first ≤ code ∧ code ≤ run.last ∧ (code - run.first) % run.step = 0 := by
  simp [covers, and_assoc]

theorem not_covers_of_isClearOf {run other : CaseRun} (clear : run.isClearOf other = true)
    {code : Nat} (covered : run.covers code = true) :
    other.covers (run.image + (code - run.first)) = false := by
  rw [covers_iff] at covered
  obtain ⟨start, stop, step⟩ := covered
  rw [Bool.eq_false_iff, Ne, covers_iff]
  rintro ⟨otherStart, otherStop, otherStep⟩
  simp only [isClearOf, imageEnd, Bool.or_eq_true, Bool.and_eq_true, beq_iff_eq, Nat.blt_eq]
    at clear
  rcases clear with (before | behind) | ⟨⟨two, alternating | single⟩, odd⟩
  · omega
  · omega
  · rw [alternating] at step
    rw [two] at otherStep
    omega
  · rw [two] at otherStep
    omega

end CaseRun

theorem all_isClearOf :
    (lowerCaseRuns.all fun run => lowerCaseRuns.all run.isClearOf) = true := by
  decide +kernel

/-- The runs map to characters, to none before the small letters, and not to the
dotted capital I. -/
theorem image_bounds : ∀ run ∈ lowerCaseRuns,
    (run.imageEnd < 0xD800 ∨ 0xDFFF < run.image ∧ run.imageEnd < 0x110000) ∧
      'a'.toNat ≤ run.image ∧ (run.imageEnd < 'İ'.toNat ∨ 'İ'.toNat < run.image) := by
  decide +kernel

/-! ## The lower case of a character -/

/-- A character without a run keeps its case, and one with a run gets the code
point at the same distance from the image. -/
theorem lowerChar_cases (c : Char) :
    lowerChar c = c ∨
      ∃ run ∈ lowerCaseRuns, run.covers c.toNat = true ∧
        (lowerChar c).toNat = run.image + (c.toNat - run.first) := by
  cases found : lowerCaseRuns.find? (·.covers c.toNat) with
  | none =>
      left
      rw [lowerChar, found]
  | some run =>
      right
      have covered := List.find?_some found
      have member := List.mem_of_find?_eq_some found
      refine ⟨run, member, covered, ?_⟩
      obtain ⟨valid, -, -⟩ := image_bounds run member
      obtain ⟨start, stop, -⟩ := CaseRun.covers_iff.mp covered
      have isValid : (run.image + (c.toNat - run.first)).isValidChar := by
        unfold CaseRun.imageEnd at valid
        unfold Nat.isValidChar
        omega
      rw [lowerChar, found]
      simp only [Char.toNat_ofNat, if_pos isValid]

theorem lowerChar_of_uncovered {c : Char}
    (uncovered : ∀ run ∈ lowerCaseRuns, run.covers c.toNat = false) : lowerChar c = c := by
  rcases lowerChar_cases c with same | ⟨run, member, covered, -⟩
  · exact same
  · rw [uncovered run member] at covered
    contradiction

/-- The lower case of a character is its own lower case. -/
@[simp]
theorem lowerChar_lowerChar (c : Char) : lowerChar (lowerChar c) = lowerChar c := by
  rcases lowerChar_cases c with same | ⟨run, member, covered, image⟩
  · rw [same, same]
  · apply lowerChar_of_uncovered
    intro other otherMember
    rw [image]
    have clear := List.all_eq_true.mp all_isClearOf run member
    exact CaseRun.not_covers_of_isClearOf (List.all_eq_true.mp clear other otherMember) covered

/-- What no run maps to is the lower case of itself alone. -/
theorem eq_of_lowerChar_eq {c image : Char} (lowered : lowerChar c = image)
    (noImage : ∀ run ∈ lowerCaseRuns, image.toNat < run.image ∨ run.imageEnd < image.toNat) :
    c = image := by
  rcases lowerChar_cases c with same | ⟨run, member, covered, code⟩
  · rw [← same, lowered]
  · obtain ⟨start, stop, -⟩ := CaseRun.covers_iff.mp covered
    have apart := noImage run member
    rw [lowered] at code
    unfold CaseRun.imageEnd at apart
    omega

/-! ## The lower case of a text -/

/-- A character that lower case leaves alone, wherever it stands. -/
structure IsLowered (c : Char) : Prop where
  notSigma : c ≠ 'Σ'
  notDottedI : c ≠ 'İ'
  same : lowerChar c = c

theorem isLowered_lowerChar {c : Char} (notDottedI : c ≠ 'İ') : IsLowered (lowerChar c) where
  notSigma := by
    intro sigma
    have again := lowerChar_lowerChar c
    rw [sigma] at again
    exact absurd again (by decide)
  notDottedI := by
    intro dottedI
    apply notDottedI
    apply eq_of_lowerChar_eq dottedI
    intro run member
    exact (image_bounds run member).2.2.symm
  same := lowerChar_lowerChar c

/-- What one character of a text becomes: a form of the small sigma, a small i with
its dot, or the lower case of the character. -/
theorem lowerFrom_cons_cases (before : List Char) (c : Char) (rest : List Char) :
    ∃ image, lowerFrom before (c :: rest) = image ++ lowerFrom (c :: before) rest ∧
      (image = ['ς'] ∨ image = ['σ'] ∨ image = ['i', '\u0307'] ∨
        c ≠ 'İ' ∧ image = [lowerChar c]) := by
  refine ⟨_, rfl, ?_⟩
  split
  · split
    · exact .inl rfl
    · exact .inr (.inl rfl)
  · split
    · exact .inr (.inr (.inl rfl))
    · rename_i notDottedI
      exact .inr (.inr (.inr ⟨notDottedI, rfl⟩))

theorem isLowered_of_mem_lowerFrom {before text : List Char} {c : Char}
    (member : c ∈ lowerFrom before text) : IsLowered c := by
  induction text generalizing before with
  | nil => simp [lowerFrom] at member
  | cons first rest ih =>
      obtain ⟨image, spelled, form⟩ := lowerFrom_cons_cases before first rest
      rw [spelled, List.mem_append] at member
      rcases member with here | later
      · rcases form with rfl | rfl | rfl | ⟨notDottedI, rfl⟩
        · rw [List.mem_singleton.mp here]
          constructor <;> decide
        · rw [List.mem_singleton.mp here]
          constructor <;> decide
        · have parts : c = 'i' ∨ c = '\u0307' := by simpa using here
          rcases parts with rfl | rfl <;> constructor <;> decide
        · rw [List.mem_singleton.mp here]
          exact isLowered_lowerChar notDottedI
      · exact ih later

theorem lowerFrom_of_isLowered {before text : List Char} (lowered : ∀ c ∈ text, IsLowered c) :
    lowerFrom before text = text := by
  induction text generalizing before with
  | nil => rfl
  | cons c rest ih =>
      rw [List.forall_mem_cons] at lowered
      obtain ⟨here, later⟩ := lowered
      rw [lowerFrom, if_neg here.notSigma, if_neg here.notDottedI, here.same, ih later]
      rfl

/-- The lower case of a text is its own lower case. -/
@[simp]
theorem lower_lower (text : String) : lower (lower text) = lower text := by
  have lowered : ∀ c ∈ (lower text).toList, IsLowered c := by
    rw [lower, String.toList_ofList]
    exact fun c member => isLowered_of_mem_lowerFrom member
  rw [lower, lowerFrom_of_isLowered lowered, String.ofList_toList]

/-- A lowered text starts with a point only if the text does. -/
theorem head?_of_head?_lower {text : String} (point : (lower text).toList.head? = some '.') :
    text.toList.head? = some '.' := by
  rw [lower, String.toList_ofList] at point
  cases spelled : text.toList with
  | nil => simp [spelled, lowerFrom] at point
  | cons c rest =>
      obtain ⟨image, lowered, form⟩ := lowerFrom_cons_cases [] c rest
      rw [spelled, lowered] at point
      rcases form with rfl | rfl | rfl | ⟨-, rfl⟩
      · simp at point
      · simp at point
      · simp at point
      · have becomesPoint : lowerChar c = '.' := by simpa using point
        -- All runs map to letters, which stand behind the point.
        have same : c = '.' := by
          apply eq_of_lowerChar_eq becomesPoint
          intro run member
          exact .inl (lt_of_lt_of_le (by decide) (image_bounds run member).2.1)
        rw [same, List.head?_cons]

/-! ## The case of ASCII letters -/

/-- Casing treats two characters alike: they have one lower case, mean the same
for a sigma near them, and are the same exception or none. -/
structure SameCasing (c other : Char) : Prop where
  lower : lowerChar c = lowerChar other
  ignorable : caseIgnorableRanges.contains c = caseIgnorableRanges.contains other
  cased : casedRanges.contains c = casedRanges.contains other
  sigma : c = 'Σ' ↔ other = 'Σ'
  dottedI : c = 'İ' ↔ other = 'İ'

theorem isUpper_iff {c : Char} : c.isUpper = true ↔ 'A'.toNat ≤ c.toNat ∧ c.toNat ≤ 'Z'.toNat := by
  simp [Char.isUpper, UInt32.le_iff_toNat_le]

theorem toNat_toLower {c : Char} (upper : c.isUpper = true) :
    c.toLower.toNat = c.toNat + 32 := by
  have bounds := isUpper_iff.mp upper
  have isValid : (c.toNat + 32).isValidChar := by
    simp only [Nat.isValidChar, Char.reduceToNat] at bounds ⊢
    omega
  rw [Char.toLower_eq_of_isUpper upper, Char.toNat_ofNat, if_pos isValid]

/-- The first run is that of the ASCII letters. -/
theorem lowerChar_of_isUpper {c : Char} (upper : c.isUpper = true) : lowerChar c = c.toLower := by
  have bounds := isUpper_iff.mp upper
  simp only [Char.reduceToNat] at bounds
  have covered : CaseRun.covers ⟨0x41, 0x5A, 1, 0x61⟩ c.toNat = true :=
    CaseRun.covers_iff.mpr ⟨bounds.1, bounds.2, Nat.mod_one _⟩
  have found : lowerCaseRuns.find? (·.covers c.toNat) = some ⟨0x41, 0x5A, 1, 0x61⟩ :=
    List.find?_cons_of_pos covered
  have distance : 0x61 + (c.toNat - 0x41) = c.toNat + 32 := by omega
  rw [lowerChar, found, Char.toLower_eq_of_isUpper upper]
  simp only [distance]

/-- Casing does not look through ASCII letters. -/
theorem ignorable_bounds : ∀ range ∈ caseIgnorableRanges,
    range.2 < 'A'.toNat ∨ 'Z'.toNat < range.1 ∧ range.2 < 'a'.toNat ∨ 'z'.toNat < range.1 := by
  decide +kernel

theorem not_ignorable {c : Char} (letter : 'A'.toNat ≤ c.toNat ∧ c.toNat ≤ 'Z'.toNat ∨
    'a'.toNat ≤ c.toNat ∧ c.toNat ≤ 'z'.toNat) : caseIgnorableRanges.contains c = false := by
  rw [Bool.eq_false_iff, Ne, CharRanges.contains_iff]
  rintro ⟨range, member, start, stop⟩
  have apart := ignorable_bounds range member
  simp only [Char.reduceToNat] at letter apart
  omega

/-- The case of an ASCII letter makes no difference to casing. -/
theorem sameCasing_toLower (c : Char) : SameCasing c.toLower c := by
  by_cases upper : c.isUpper = true
  · have bounds := isUpper_iff.mp upper
    have lowered := toNat_toLower upper
    have small : 'a'.toNat ≤ c.toLower.toNat ∧ c.toLower.toNat ≤ 'z'.toNat := by
      simp only [Char.reduceToNat] at bounds ⊢
      omega
    have capital : c.toNat ≤ 'z'.toNat := bounds.2.trans (by decide)
    have differs {letter other : Char} (low : letter.toNat ≤ 'z'.toNat)
        (high : 'z'.toNat < other.toNat) : letter ≠ other := by
      rintro rfl
      exact absurd high (Nat.not_lt_of_le low)
    constructor
    · rw [← lowerChar_of_isUpper upper, lowerChar_lowerChar]
    · rw [not_ignorable (.inr small), not_ignorable (.inl bounds)]
    · rw [(casedRanges.contains_iff _).mpr ⟨(0x61, 0x7A), by decide, small⟩,
        (casedRanges.contains_iff _).mpr ⟨(0x41, 0x5A), by decide, bounds⟩]
    · exact iff_of_false (differs small.2 (by decide)) (differs capital (by decide))
    · exact iff_of_false (differs small.2 (by decide)) (differs capital (by decide))
  · rw [Char.toLower_eq_of_not_isUpper upper]
    exact ⟨rfl, rfl, rfl, Iff.rfl, Iff.rfl⟩

/-- Only a letter becomes another character. -/
theorem eq_of_toLower_eq {c image : Char} (lowered : c.toLower = image)
    (noLetter : image.toNat < 'a'.toNat) : c = image := by
  by_cases upper : c.isUpper = true
  · have bounds := isUpper_iff.mp upper
    have code := toNat_toLower upper
    simp only [lowered, Char.reduceToNat] at bounds code noLetter
    omega
  · rwa [Char.toLower_eq_of_not_isUpper upper] at lowered

/-- What is no letter stands in a text whatever the case of its letters. -/
theorem mem_of_map_toLower_eq {text other : List Char} {c : Char}
    (same : text.map Char.toLower = other.map Char.toLower) (noLetter : c.toNat < 'A'.toNat)
    (member : c ∈ text) : c ∈ other := by
  have notUpper : ¬ c.isUpper = true := fun upper =>
    Nat.not_lt_of_le (isUpper_iff.mp upper).1 noLetter
  have lowered := List.mem_map_of_mem (f := Char.toLower) member
  rw [same, Char.toLower_eq_of_not_isUpper notUpper, List.mem_map] at lowered
  obtain ⟨image, there, lowers⟩ := lowered
  rwa [← eq_of_toLower_eq lowers (noLetter.trans (by decide))]

theorem toLower_eq_iff {text other : String} :
    text.toLower = other.toLower ↔
      text.toList.map Char.toLower = other.toList.map Char.toLower := by
  rw [← String.toList_inj, String.toLower, String.toLower, String.toList_map, String.toList_map]

theorem meetsCased_map_toLower (text : List Char) :
    meetsCased (text.map Char.toLower) = meetsCased text := by
  induction text with
  | nil => rfl
  | cons c rest ih =>
      have same := sameCasing_toLower c
      rw [List.map_cons, meetsCased, meetsCased, same.ignorable, same.cased, ih]

theorem lowerFrom_map_toLower (before text : List Char) :
    lowerFrom (before.map Char.toLower) (text.map Char.toLower) = lowerFrom before text := by
  induction text generalizing before with
  | nil => rfl
  | cons c rest ih =>
      have same := sameCasing_toLower c
      have later := ih (c :: before)
      rw [List.map_cons] at later
      rw [List.map_cons, lowerFrom, lowerFrom, later]
      simp only [same.sigma, same.dottedI, same.lower, meetsCased_map_toLower]

/-- The case of ASCII letters does not show in the lower case of a text. -/
theorem lower_toLower (text : String) : lower text.toLower = lower text := by
  rw [lower, String.toLower, String.toList_map]
  exact congrArg String.ofList (lowerFrom_map_toLower [] text.toList)

theorem lower_congr {text other : String} (same : text.toLower = other.toLower) :
    lower text = lower other := by
  rw [← lower_toLower text, same, lower_toLower]

end ManifestLint.Text
