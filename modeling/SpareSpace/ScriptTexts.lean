import Mathlib.Data.List.DropRight

/-!
# Texts as scripts take them apart

The functions `split`, `trim` and `parseInt` of a script's strings, by characters.  What
was joined with a separator is found again by splitting, if the parts do not contain it,
and the decimal text of a number is read as the number.
-/

namespace ScriptTexts

/-- The characters that `\s` matches. -/
def isWhiteSpace (character : Char) : Bool :=
  [0x9, 0xA, 0xB, 0xC, 0xD, 0x20, 0xA0, 0x1680, 0x2028, 0x2029, 0x202F, 0x205F,
    0x3000, 0xFEFF].contains character.toNat ||
      (0x2000 ≤ character.toNat && character.toNat ≤ 0x200A)

/-- `text.split(separator)`, for a separator of one character. -/
def split (separator : Char) (text : String) : List String :=
  (text.toList.splitOn separator).map String.ofList

/-- `parts.join(separator)`. -/
def join (separator : Char) (parts : List String) : String :=
  (String.singleton separator).intercalate parts

/-- `text.trim()`. -/
def trim (text : String) : String :=
  String.ofList ((text.toList.dropWhile isWhiteSpace).rdropWhile isWhiteSpace)

/-- `text.startsWith(start)`. -/
def startsWith (start text : String) : Bool :=
  start.toList.isPrefixOf text.toList

/-- `text.split(/\s+/)` of a text without white space at its ends. -/
def words (text : String) : List String :=
  ((text.toList.splitOnP isWhiteSpace).filter (· ≠ [])).map String.ofList

/-- The number that the digits at the start of a text spell. -/
def leadingNumber (text : List Char) : Option Nat :=
  let digits := text.takeWhile Char.isDigit
  if digits = [] then none else some (Nat.ofDigitChars 10 digits 0)

/-- `parseInt(text, 10)`, with `none` for `NaN`. -/
def parseInt (text : String) : Option Int :=
  match text.toList.dropWhile isWhiteSpace with
  | '-' :: rest => (leadingNumber rest).map fun number => -(number : Int)
  | '+' :: rest => (leadingNumber rest).map fun number => (number : Int)
  | rest => (leadingNumber rest).map fun number => (number : Int)

variable {separator : Char}

@[simp]
theorem split_ne_nil (separator : Char) (text : String) : split separator text ≠ [] := by
  simp [split]

theorem split_of_not_mem {text : String} (absent : separator ∉ text.toList) :
    split separator text = [text] := by
  simp [split, List.splitOn_eq_singleton absent]

/-- Splitting cuts off what stands before the first separator. -/
theorem split_append_cons {first : String} (absent : separator ∉ first.toList)
    (rest : String) :
    split separator (first ++ String.singleton separator ++ rest) =
      first :: split separator rest := by
  simp [split, List.splitOn_append_cons_self_of_not_mem absent]

theorem join_split (separator : Char) (text : String) :
    join separator (split separator text) = text := by
  apply String.toList_inj.mp
  simp [join, split, String.toList_intercalate, List.map_map, Function.comp_def,
    List.intercalate_splitOn]

/-- A text starts with a part and the separator when splitting yields the part and more. -/
theorem startsWith_iff_split {first : String} (plain : separator ∉ first.toList)
    (text : String) :
    startsWith (first ++ String.singleton separator) text = true ↔
      ∃ second rest, split separator text = first :: second :: rest := by
  constructor
  · intro starts
    obtain ⟨rest, spells⟩ := List.isPrefixOf_iff_prefix.mp starts
    have whole : text = first ++ String.singleton separator ++ String.ofList rest := by
      apply String.toList_inj.mp
      rw [String.toList_append, String.toList_ofList, spells]
    obtain ⟨second, others, parts⟩ :=
      List.exists_cons_of_ne_nil (split_ne_nil separator (String.ofList rest))
    refine ⟨second, others, ?_⟩
    rw [whole, split_append_cons plain, parts]
  · rintro ⟨second, rest, parts⟩
    have whole := join_split separator text
    rw [parts, join, String.intercalate_cons_cons] at whole
    rw [← whole, startsWith, List.isPrefixOf_iff_prefix]
    exact ⟨_, String.toList_append.symm⟩

/-- What is joined has the characters of the parts and the separator. -/
theorem mem_join {parts : List String} {character : Char}
    (present : character ∈ (join separator parts).toList) :
    character = separator ∨ ∃ part ∈ parts, character ∈ part.toList := by
  rw [join, String.toList_intercalate, String.toList_singleton] at present
  induction parts with
  | nil => cases present
  | cons first rest ih =>
      by_cases last : rest.map String.toList = []
      · rw [List.map_cons, last, List.intercalate_singleton] at present
        exact Or.inr ⟨first, List.mem_cons_self, present⟩
      · rw [List.map_cons, List.intercalate_cons_of_ne_nil last] at present
        rcases List.mem_append.mp present with inFirst | later
        · rcases List.mem_append.mp inFirst with inFirst | isSeparator
          · exact Or.inr ⟨first, List.mem_cons_self, inFirst⟩
          · exact Or.inl (List.mem_singleton.mp isSeparator)
        · rcases ih later with isSeparator | ⟨part, partMem, inPart⟩
          · exact Or.inl isSeparator
          · exact Or.inr ⟨part, List.mem_cons_of_mem _ partMem, inPart⟩

/-- Splitting finds the parts that were joined. -/
theorem split_join {parts : List String} (nonempty : parts ≠ [])
    (absent : ∀ part ∈ parts, separator ∉ part.toList) :
    split separator (join separator parts) = parts := by
  have cut : ([separator].intercalate (parts.map String.toList)).splitOn separator =
      parts.map String.toList :=
    List.splitOn_intercalate separator (by simpa using absent) (by simpa using nonempty)
  simp [split, join, String.toList_intercalate, cut, Function.comp_def]

/-- Nothing is dropped at the ends of a trimmed text. -/
theorem dropWhile_of_trimmed {text : String} (trimmed : trim text = text) :
    text.toList.dropWhile isWhiteSpace = text.toList ∧
      text.toList.rdropWhile isWhiteSpace = text.toList := by
  have ends : (text.toList.dropWhile isWhiteSpace).rdropWhile isWhiteSpace =
      text.toList := by
    simpa [trim] using congrArg String.toList trimmed
  have shorter := (List.rdropWhile_prefix isWhiteSpace
    (l := text.toList.dropWhile isWhiteSpace)).length_le
  rw [ends] at shorter
  have front : text.toList.dropWhile isWhiteSpace = text.toList :=
    (List.dropWhile_suffix isWhiteSpace).eq_of_length_le shorter
  exact ⟨front, by rwa [front] at ends⟩

theorem trim_of_not_blank {text : String}
    (solid : ∀ character ∈ text.toList, isWhiteSpace character = false) :
    trim text = text := by
  have none (characters : List Char) (inText : characters ⊆ text.toList) :
      characters.dropWhile isWhiteSpace = characters := by
    cases characters with
    | nil => rfl
    | cons first rest =>
        exact List.dropWhile_cons_of_neg
          (by simp [solid first (inText List.mem_cons_self)])
  rw [trim, none _ (List.Subset.refl _), List.rdropWhile,
    none _ (fun character present => List.mem_reverse.mp present), List.reverse_reverse,
    String.ofList_toList]

/-- A text between two signs that are no white space is trimmed. -/
theorem trim_between {first last : Char} (solidFirst : isWhiteSpace first = false)
    (solidLast : isWhiteSpace last = false) (middle : List Char) :
    trim (String.ofList (first :: (middle ++ [last]))) =
      String.ofList (first :: (middle ++ [last])) := by
  have back : (first :: (middle ++ [last])).rdropWhile isWhiteSpace =
      first :: (middle ++ [last]) := by
    rw [← List.cons_append, List.rdropWhile_concat_neg _ _ _ (by simp [solidLast])]
  rw [trim, String.toList_ofList, List.dropWhile_cons_of_neg (by simp [solidFirst]), back]

/-- White space around a trimmed text is trimmed. -/
theorem trim_padded {before text after : String}
    (blankBefore : ∀ character ∈ before.toList, isWhiteSpace character = true)
    (blankAfter : ∀ character ∈ after.toList, isWhiteSpace character = true)
    (trimmed : trim text = text) (nonempty : text ≠ "") :
    trim (before ++ text ++ after) = text := by
  obtain ⟨front, back⟩ := dropWhile_of_trimmed trimmed
  have filled : text.toList ≠ [] := by simpa using nonempty
  have start : (before.toList ++ (text.toList ++ after.toList)).dropWhile isWhiteSpace =
      text.toList ++ after.toList := by
    rw [List.dropWhile_append, List.dropWhile_eq_nil_iff.mpr blankBefore,
      List.dropWhile_append, front]
    simp [filled]
  have last : (text.toList ++ after.toList).rdropWhile isWhiteSpace = text.toList := by
    rw [List.rdropWhile, List.reverse_eq_iff] at back ⊢
    rw [List.reverse_append, List.dropWhile_append,
      List.dropWhile_eq_nil_iff.mpr fun character present =>
        blankAfter character (List.mem_reverse.mp present)]
    exact back
  rw [trim, String.toList_append, String.toList_append, List.append_assoc, start, last,
    String.ofList_toList]

theorem isDigit_of_mem_repr {number : Nat} {character : Char}
    (present : character ∈ number.repr.toList) : character.isDigit = true := by
  rw [Nat.toList_repr] at present
  exact Nat.isDigit_of_mem_toDigits (by decide) (by decide) present

theorem isWhiteSpace_of_isDigit {character : Char} (digit : character.isDigit = true) :
    isWhiteSpace character = false := by
  have bounds : 48 ≤ character.toNat ∧ character.toNat ≤ 57 := by
    simpa [Char.isDigit, UInt32.le_iff_toNat_le] using digit
  simp only [isWhiteSpace, Bool.or_eq_false_iff, Bool.and_eq_false_iff, decide_eq_false_iff_not,
    List.contains_eq_mem, List.mem_cons, List.not_mem_nil, or_false]
  omega

/-- The decimal text of a number is read as the number. -/
theorem parseInt_repr (number : Nat) : parseInt number.repr = some (number : Int) := by
  have digits character (present : character ∈ number.repr.toList) :=
    isDigit_of_mem_repr present
  obtain ⟨first, rest, spells⟩ :=
    List.exists_cons_of_ne_nil (@Nat.toDigits_ne_nil number 10)
  have text : number.repr.toList = first :: rest := by rw [Nat.toList_repr, spells]
  rw [text] at digits
  have digit := digits first List.mem_cons_self
  have value : leadingNumber (first :: rest) = some number := by
    rw [leadingNumber, List.takeWhile_eq_self_iff.mpr digits]
    simp [← spells]
  unfold parseInt
  rw [text, List.dropWhile_cons_of_neg (by simp [isWhiteSpace_of_isDigit digit])]
  split
  · next same => cases same; contradiction
  · next same => cases same; contradiction
  · rw [value]
    rfl

end ScriptTexts
