import SpareSpace.JsonTexts
import SpareSpace.ListingSearch
import SpareSpace.ScriptTexts

/-!
# The spellings of a list filter

A search request names listing types and amenities in a JSON array, in a text with
commas, or by repeating the parameter.  One transformation tells the spellings apart by
the ends of the text, and for the names of the two enumerations it makes the same list of
all of them.
-/

namespace SpareSpace

open JsonTexts ScriptTexts

def SpaceAmenity.text : SpaceAmenity → String
  | .security => "SECURITY"
  | .videoSurveillance => "VIDEO_SURVEILLANCE"
  | .heating => "HEATING"
  | .ventilation => "VENTILATION"
  | .waterSupply => "WATER_SUPPLY"
  | .electricity => "ELECTRICITY"
  | .wifi => "WIFI"
  | .ethernet => "ETHERNET"

/-- `!value`; a number is zero when its literal has no other digit. -/
def falsy : JsonValue → Bool
  | .null => true
  | .bool value => !value
  | .number literal =>
      (literal.toList.takeWhile fun character => character ∉ ['e', 'E']).all
        (['-', '0', '.'].contains ·)
  | .string text => text == ""
  | .array _ | .object _ => false

/-- The transformation of a list parameter; `none` is `undefined`. -/
def listTransform (value : Option JsonValue) : Option JsonValue :=
  match value with
  | none => none
  | some value =>
      if falsy value then
        none
      else
        match value with
        | .string text =>
            if text.toList.head? = some '[' ∧ text.toList.getLast? = some ']' then
              some ((parse text).getD (.array [.string text]))
            else
              some (.array ((split ',' text).map fun item => .string (trim item)))
        | .array items => some (.array items)
        | other => some (.array [other])

namespace SearchListingsDto

/-- The transformation of the parameter `types`. -/
def transformTypes (value : Option JsonValue) : Option JsonValue :=
  listTransform value

/-- The transformation of the parameter `amenities`. -/
def transformAmenities (value : Option JsonValue) : Option JsonValue :=
  listTransform value

end SearchListingsDto

/-- A name of capital letters and underscores. -/
def Word (name : String) : Prop :=
  name ≠ "" ∧ ∀ character ∈ name.toList, (character.isUpper || character == '_') = true

instance (name : String) : Decidable (Word name) :=
  decidable_of_iff (name ≠ "" ∧
    (name.toList.all fun character => character.isUpper || character == '_') = true)
    (and_congr Iff.rfl List.all_eq_true)

/-- A name with spaces around it. -/
def Padded (name part : String) : Prop :=
  ∃ before after : String,
    (∀ character ∈ before.toList, isWhiteSpace character = true) ∧
      (∀ character ∈ after.toList, isWhiteSpace character = true) ∧
        part = before ++ name ++ after

/-- The values by which a client encodes a list of names. -/
inductive EncodesList (names : List String) : JsonValue → Prop
  | json {text : String} (spells : SpellsArray text names) :
      EncodesList names (.string text)
  | commas {parts : List String} (padded : List.Forall₂ Padded names parts) :
      EncodesList names (.string (join ',' parts))
  | repeated : EncodesList names (.array (names.map .string))
  | bare {name : String} (single : names = [name]) : EncodesList names (.string name)

namespace Word

variable {name part : String} {character : Char}

/-- The codes of the characters of a name. -/
theorem code (word : Word name) (present : character ∈ name.toList) :
    65 ≤ character.toNat ∧ character.toNat ≤ 90 ∨ character.toNat = 95 := by
  rcases Bool.or_eq_true_iff.mp (word.2 character present) with upper | underscore
  · have range : 'A'.val ≤ character.val ∧ character.val ≤ 'Z'.val := of_decide_eq_true upper
    exact Or.inl ⟨UInt32.le_iff_toNat_le.mp range.1, UInt32.le_iff_toNat_le.mp range.2⟩
  · exact Or.inr (by rw [beq_iff_eq.mp underscore]; rfl)

theorem not_mem_of_code (word : Word name)
    (other : ¬ (65 ≤ character.toNat ∧ character.toNat ≤ 90 ∨ character.toNat = 95)) :
    character ∉ name.toList :=
  fun present => other (word.code present)

theorem not_blank (word : Word name) (present : character ∈ name.toList) :
    isWhiteSpace character = false := by
  have code := word.code present
  simp only [isWhiteSpace, Bool.or_eq_false_iff, Bool.and_eq_false_iff,
    decide_eq_false_iff_not, List.contains_eq_mem, List.mem_cons, List.not_mem_nil, or_false]
  omega

theorem unescaped (word : Word name) : Unescaped name.toList := by
  intro character present
  have code := word.code present
  refine ⟨?_, ?_, by omega⟩
  · rintro rfl
    exact absurd code (by decide)
  · rintro rfl
    exact absurd code (by decide)

theorem basic (word : Word name) : Basic name.toList := by
  intro character present
  have code := word.code present
  omega

theorem trim_padded (word : Word name) (padded : Padded name part) : trim part = name := by
  obtain ⟨before, after, blankBefore, blankAfter, rfl⟩ := padded
  exact ScriptTexts.trim_padded blankBefore blankAfter
    (trim_of_not_blank fun _ present => word.not_blank present) word.1

/-- A sign that is neither white space nor in a name is not in the name with spaces. -/
theorem not_mem_padded (word : Word name) (padded : Padded name part)
    (other : ¬ (65 ≤ character.toNat ∧ character.toNat ≤ 90 ∨ character.toNat = 95))
    (solid : isWhiteSpace character = false) : character ∉ part.toList := by
  obtain ⟨before, after, blankBefore, blankAfter, rfl⟩ := padded
  simp only [String.toList_append, List.mem_append, not_or]
  refine ⟨⟨fun present => ?_, word.not_mem_of_code other⟩, fun present => ?_⟩
  · rw [blankBefore character present] at solid
    cases solid
  · rw [blankAfter character present] at solid
    cases solid

end Word

section Transform

variable {names parts : List String} {value : JsonValue}

/-- A text that spells a JSON array is parsed. -/
theorem listTransform_json {text : String} (spells : SpellsArray text names)
    (words : ∀ name ∈ names, Word name) :
    listTransform (some (.string text)) = some (.array (names.map .string)) := by
  have read := parse_of_spells spells fun name present => (words name present).basic
  obtain ⟨body, bracket, items⟩ := spells
  obtain ⟨front, rfl⟩ := items.ends
  have filled : text ≠ "" := by
    rintro rfl
    cases bracket
  simp [listTransform, falsy, filled, bracket, read, List.getLast?_cons]

theorem trim_parts (words : ∀ name ∈ names, Word name)
    (padded : List.Forall₂ Padded names parts) : parts.map trim = names := by
  induction padded with
  | nil => rfl
  | cons first _ ih =>
      rw [List.map_cons, (words _ List.mem_cons_self).trim_padded first,
        ih fun name present => words name (List.mem_cons_of_mem _ present)]

theorem word_of_part (words : ∀ name ∈ names, Word name)
    (padded : List.Forall₂ Padded names parts) :
    ∀ part ∈ parts, ∃ name, Word name ∧ Padded name part := by
  induction padded with
  | nil => nofun
  | @cons name part names parts first _ ih =>
      intro other present
      rcases List.mem_cons.mp present with rfl | later
      · exact ⟨name, words name List.mem_cons_self, first⟩
      · exact ih (fun name present => words name (List.mem_cons_of_mem _ present)) other later

/-- Names with spaces, joined by commas, are cut and trimmed. -/
theorem listTransform_commas (words : ∀ name ∈ names, Word name) (nonempty : names ≠ [])
    (padded : List.Forall₂ Padded names parts) :
    listTransform (some (.string (join ',' parts))) =
      some (.array (names.map .string)) := by
  have each := word_of_part words padded
  have someParts : parts ≠ [] := by
    rintro rfl
    exact nonempty (List.forall₂_nil_right_iff.mp padded)
  have cut : split ',' (join ',' parts) = parts :=
    split_join someParts fun part present => by
      obtain ⟨name, word, pads⟩ := each part present
      exact word.not_mem_padded pads (by decide) (by decide)
  have notArray : (join ',' parts).toList.head? ≠ some '[' := by
    intro bracket
    rcases mem_join (List.mem_of_mem_head? bracket) with comma | ⟨part, partMem, inPart⟩
    · cases comma
    · obtain ⟨name, word, pads⟩ := each part partMem
      exact word.not_mem_padded pads (by decide) (by decide) inPart
  have filled : join ',' parts ≠ "" := by
    intro empty
    rw [empty, split_of_not_mem (by simp)] at cut
    obtain ⟨name, word, before, after, _, _, same⟩ := each "" (cut ▸ List.mem_singleton_self _)
    have blank : before = "" ∧ name = "" ∧ after = "" := by
      simpa using (congrArg String.toList same).symm
    exact word.1 blank.2.1
  have items : parts.map (fun part => JsonValue.string (trim part)) =
      names.map .string := by
    rw [← trim_parts words padded, List.map_map]
    rfl
  simp only [listTransform, falsy, beq_eq_false_iff_ne.mpr filled, notArray, cut, items]
  simp

/-- All encodings of a list of names are transformed into this list. -/
theorem listTransform_of_encodes (words : ∀ name ∈ names, Word name) (nonempty : names ≠ [])
    (encodes : EncodesList names value) :
    listTransform (some value) = some (.array (names.map .string)) := by
  cases encodes with
  | json spells => exact listTransform_json spells words
  | commas padded => exact listTransform_commas words nonempty padded
  | repeated => rfl
  | @bare name single =>
      subst single
      have plain : Padded name name := ⟨"", "", by simp, by simp, by simp⟩
      exact listTransform_commas words nonempty (.cons plain .nil)

end Transform

theorem ListingType.word_text (type : ListingType) : Word type.text := by
  cases type <;> decide

theorem SpaceAmenity.word_text (amenity : SpaceAmenity) : Word amenity.text := by
  cases amenity <;> decide

/-- Each encoding of a list of listing types, or of amenities, is transformed into the
names of this list. -/
theorem list_filters_agree :
    (∀ types : List ListingType, types ≠ [] → ∀ value,
      EncodesList (types.map ListingType.text) value →
        SearchListingsDto.transformTypes (some value) =
          some (.array (types.map fun type => .string type.text))) ∧
    ∀ amenities : List SpaceAmenity, amenities ≠ [] → ∀ value,
      EncodesList (amenities.map SpaceAmenity.text) value →
        SearchListingsDto.transformAmenities (some value) =
          some (.array (amenities.map fun amenity => .string amenity.text)) := by
  constructor
  · intro types nonempty value encodes
    have words : ∀ name ∈ types.map ListingType.text, Word name := by
      rintro _ present
      obtain ⟨type, _, rfl⟩ := List.mem_map.mp present
      exact type.word_text
    have agreed := listTransform_of_encodes words (by simpa using nonempty) encodes
    rwa [List.map_map] at agreed
  · intro amenities nonempty value encodes
    have words : ∀ name ∈ amenities.map SpaceAmenity.text, Word name := by
      rintro _ present
      obtain ⟨amenity, _, rfl⟩ := List.mem_map.mp present
      exact amenity.word_text
    have agreed := listTransform_of_encodes words (by simpa using nonempty) encodes
    rwa [List.map_map] at agreed

/-- Two types as a JSON text, with commas and spaces, and as a repeated parameter. -/
theorem list_filters_agree_sample :
    let transformed := some (JsonValue.array [.string "MOTO_SLOT", .string "GARAGE"])
    SearchListingsDto.transformTypes (some (.string
        (quotedArray ["MOTO_SLOT", "GARAGE"]))) = transformed ∧
      SearchListingsDto.transformTypes (some (.string "MOTO_SLOT, GARAGE")) =
        transformed ∧
      SearchListingsDto.transformTypes (some (.array
        [.string "MOTO_SLOT", .string "GARAGE"])) = transformed := by
  obtain ⟨agree, _⟩ := list_filters_agree
  have types := agree [.motoSlot, .garage] (by decide)
  refine ⟨types _ (.json ?_), types _ (@EncodesList.commas _ ["MOTO_SLOT", " GARAGE"] ?_),
    types _ .repeated⟩
  · exact spells_quotedArray (by decide) (by
      simp only [List.forall_mem_cons]
      exact ⟨(ListingType.word_text .motoSlot).unescaped,
        (ListingType.word_text .garage).unescaped, by simp⟩)
  · exact .cons ⟨"", "", by simp, by simp, by rfl⟩
      (.cons ⟨" ", "", by simp [show isWhiteSpace ' ' = true from rfl], by simp, by rfl⟩ .nil)

end SpareSpace
