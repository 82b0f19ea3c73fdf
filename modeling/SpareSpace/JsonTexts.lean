import Mathlib.Data.List.Basic

/-!
# JSON texts

A parser of JSON texts as scripts read them.  A string is read as its UTF-16 units,
since an escape names a unit and two of them may name one character; a number is kept as
it is written.  Every text that spells an array of strings, with any blanks between its
signs and any escapes in its strings, is read as this array.
-/

namespace JsonTexts

inductive JsonValue
  | null
  | bool (value : Bool)
  | number (literal : String)
  | string (text : String)
  | array (items : List JsonValue)
  | object (entries : List (String × JsonValue))

/-- The white space between the signs of a JSON text. -/
def isBlank (character : Char) : Bool :=
  character == ' ' || character == '\t' || character == '\n' || character == '\r'

/-- The value of a hexadecimal digit. -/
def hexDigit (character : Char) : Option Nat :=
  if character.isDigit then
    some (character.toNat - 48)
  else if 'a' ≤ character ∧ character ≤ 'f' then
    some (character.toNat - 87)
  else if 'A' ≤ character ∧ character ≤ 'F' then
    some (character.toNat - 55)
  else
    none

/-- The UTF-16 unit that four hexadecimal digits name. -/
def hexUnit (first second third fourth : Char) : Option Nat := do
  let first ← hexDigit first
  let second ← hexDigit second
  let third ← hexDigit third
  let fourth ← hexDigit fourth
  return ((first * 16 + second) * 16 + third) * 16 + fourth

/-- The character that a backslash before a sign names. -/
def escaped : Char → Option Char
  | '"' => some '"'
  | '\\' => some '\\'
  | '/' => some '/'
  | 'b' => some (Char.ofNat 8)
  | 'f' => some (Char.ofNat 12)
  | 'n' => some '\n'
  | 'r' => some '\r'
  | 't' => some '\t'
  | _ => none

/-- The UTF-16 units of a character. -/
def unitsOf (character : Char) : List Nat :=
  if character.toNat < 0x10000 then
    [character.toNat]
  else
    [0xD800 + (character.toNat - 0x10000) / 0x400,
      0xDC00 + (character.toNat - 0x10000) % 0x400]

/-- The text of UTF-16 units, where a surrogate without its partner, which is no
character, becomes the replacement character. -/
def textOfUnits : List Nat → List Char
  | high :: low :: rest =>
      if 0xD800 ≤ high ∧ high < 0xDC00 ∧ 0xDC00 ≤ low ∧ low < 0xE000 then
        Char.ofNat (0x10000 + (high - 0xD800) * 0x400 + (low - 0xDC00)) ::
          textOfUnits rest
      else
        single high :: textOfUnits (low :: rest)
  | [unit] => [single unit]
  | [] => []
where
  single (unit : Nat) : Char :=
    if 0xD800 ≤ unit ∧ unit < 0xE000 then Char.ofNat 0xFFFD else Char.ofNat unit

/-- The units of a string up to its closing quote, and what follows. -/
def stringUnits : List Char → Option (List Nat × List Char)
  | '"' :: rest => some ([], rest)
  | '\\' :: 'u' :: first :: second :: third :: fourth :: rest => do
      let unit ← hexUnit first second third fourth
      let (units, rest) ← stringUnits rest
      return (unit :: units, rest)
  | '\\' :: sign :: rest => do
      let character ← escaped sign
      let (units, rest) ← stringUnits rest
      return (character.toNat :: units, rest)
  | character :: rest =>
      if character = '\\' ∨ character.toNat < 0x20 then
        none
      else do
        let (units, rest) ← stringUnits rest
        return (unitsOf character ++ units, rest)
  | [] => none

/-- A string after its opening quote. -/
def string (text : List Char) : Option (String × List Char) := do
  let (units, rest) ← stringUnits text
  return (String.ofList (textOfUnits units), rest)

/-- The digits at the start of a text, of which there is one at least. -/
def digits (text : List Char) : Option (List Char × List Char) :=
  if text.takeWhile Char.isDigit = [] then
    none
  else
    some (text.takeWhile Char.isDigit, text.dropWhile Char.isDigit)

/-- The point and the digits after it, if a text starts with them. -/
def fraction : List Char → Option (List Char × List Char)
  | '.' :: text => do
      let (decimals, rest) ← digits text
      return ('.' :: decimals, rest)
  | text => some ([], text)

/-- The sign at the start of a text, if there is one of the given. -/
def signOf (signs : List Char) : List Char → List Char × List Char
  | first :: rest => if first ∈ signs then ([first], rest) else ([], first :: rest)
  | [] => ([], [])

/-- The exponent, if a text starts with one. -/
def exponent (text : List Char) : Option (List Char × List Char) := do
  let (mark, rest) := signOf ['e', 'E'] text
  if mark = [] then
    return ([], text)
  let (sign, rest) := signOf ['+', '-'] rest
  let (power, rest) ← digits rest
  return (mark ++ sign ++ power, rest)

/-- A number: its sign, digits without a leading zero, fraction and exponent. -/
def number (text : List Char) : Option (String × List Char) := do
  let (sign, rest) := signOf ['-'] text
  let (whole, rest) ← digits rest
  if whole.length > 1 ∧ whole.head? = some '0' then
    none
  let (decimals, rest) ← fraction rest
  let (power, rest) ← exponent rest
  return (String.ofList (sign ++ whole ++ decimals ++ power), rest)

mutual

/-- A value, and what follows it. -/
def value : Nat → List Char → Option (JsonValue × List Char)
  | 0, _ => none
  | fuel + 1, text =>
      match text.dropWhile isBlank with
      | '"' :: rest => do
          let (text, rest) ← string rest
          return (.string text, rest)
      | '[' :: rest =>
          match rest.dropWhile isBlank with
          | ']' :: rest => some (.array [], rest)
          | _ => do
              let (items, rest) ← items fuel rest
              return (.array items, rest)
      | '{' :: rest =>
          match rest.dropWhile isBlank with
          | '}' :: rest => some (.object [], rest)
          | _ => do
              let (entries, rest) ← entries fuel rest
              return (.object entries, rest)
      | 'n' :: 'u' :: 'l' :: 'l' :: rest => some (.null, rest)
      | 't' :: 'r' :: 'u' :: 'e' :: rest => some (.bool true, rest)
      | 'f' :: 'a' :: 'l' :: 's' :: 'e' :: rest => some (.bool false, rest)
      | rest => do
          let (literal, rest) ← number rest
          return (.number literal, rest)

/-- The items of an array up to its closing bracket, and what follows. -/
def items : Nat → List Char → Option (List JsonValue × List Char)
  | 0, _ => none
  | fuel + 1, text => do
      let (first, rest) ← value fuel text
      match rest.dropWhile isBlank with
      | ',' :: rest => do
          let (more, rest) ← items fuel rest
          return (first :: more, rest)
      | ']' :: rest => return ([first], rest)
      | _ => none

/-- The entries of an object up to its closing brace, and what follows. -/
def entries : Nat → List Char → Option (List (String × JsonValue) × List Char)
  | 0, _ => none
  | fuel + 1, text =>
      match text.dropWhile isBlank with
      | '"' :: rest => do
          let (name, rest) ← string rest
          match rest.dropWhile isBlank with
          | ':' :: rest => do
              let (first, rest) ← value fuel rest
              match rest.dropWhile isBlank with
              | ',' :: rest => do
                  let (more, rest) ← entries fuel rest
                  return ((name, first) :: more, rest)
              | '}' :: rest => return ([(name, first)], rest)
              | _ => none
          | _ => none
      | _ => none

end

/-- `JSON.parse(text)`, with `none` where it throws.  Two calls at most stand between two
signs of the text, so that the fuel is enough. -/
def parse (text : String) : Option JsonValue := do
  let (value, rest) ← value (2 * text.toList.length + 2) text.toList
  if rest.all isBlank then
    return value
  else
    none

/-- What stands between the quotes of a string that is a text: its characters as they are,
or escaped. -/
inductive Spells : List Char → List Char → Prop
  | nil : Spells [] []
  | plain {character : Char} {body text : List Char} (noQuote : character ≠ '"')
      (noEscape : character ≠ '\\') (printed : 0x20 ≤ character.toNat)
      (more : Spells body text) : Spells (character :: body) (character :: text)
  | sign {sign character : Char} {body text : List Char}
      (names : escaped sign = some character) (more : Spells body text) :
      Spells ('\\' :: sign :: body) (character :: text)
  | unit {first second third fourth character : Char} {body text : List Char}
      (names : hexUnit first second third fourth = some character.toNat)
      (more : Spells body text) :
      Spells ('\\' :: 'u' :: first :: second :: third :: fourth :: body)
        (character :: text)

def Blank (text : List Char) : Prop :=
  ∀ character ∈ text, isBlank character = true

/-- The strings of an array after its opening bracket, with blanks around each. -/
inductive SpellsItems : List Char → List (List Char) → Prop
  | last {before body text after : List Char} (blankBefore : Blank before)
      (spells : Spells body text) (blankAfter : Blank after) :
      SpellsItems (before ++ '"' :: (body ++ '"' :: (after ++ [']']))) [text]
  | cons {before body text after rest : List Char} {texts : List (List Char)}
      (blankBefore : Blank before) (spells : Spells body text) (blankAfter : Blank after)
      (more : SpellsItems rest texts) :
      SpellsItems (before ++ '"' :: (body ++ '"' :: (after ++ ',' :: rest)))
        (text :: texts)

/-- The characters of a text are single UTF-16 units before the surrogates. -/
def Basic (text : List Char) : Prop :=
  ∀ character ∈ text, character.toNat < 0xD800

theorem stringUnits_of_spells {body text : List Char} (spells : Spells body text)
    (basic : Basic text) (rest : List Char) :
    stringUnits (body ++ '"' :: rest) = some (text.map Char.toNat, rest) := by
  induction spells with
  | nil => rfl
  | @plain character body text noQuote noEscape printed more ih =>
      have unit : unitsOf character = [character.toNat] := by
        have below := basic character List.mem_cons_self
        rw [unitsOf, if_pos (by omega)]
      have later := ih fun other present => basic other (List.mem_cons_of_mem _ present)
      rw [List.cons_append, stringUnits]
      · simp [noEscape, later, unit, printed]
      · exact noQuote
      · exact fun _ _ _ _ _ escape _ => noEscape escape
      · exact fun _ _ escape _ => noEscape escape
  | @sign sign character body text names more ih =>
      have later := ih fun other present => basic other (List.mem_cons_of_mem _ present)
      have notUnit : sign ≠ 'u' := by
        rintro rfl
        cases names
      rw [List.cons_append, List.cons_append, stringUnits]
      · simp [names, later]
      · intro _ _ _ _ _ same _
        exact notUnit same
  | @unit first second third fourth character body text names more ih =>
      have later := ih fun other present => basic other (List.mem_cons_of_mem _ present)
      simp only [List.cons_append]
      rw [stringUnits]
      simp [names, later]

private theorem single_toNat {character : Char} (below : character.toNat < 0xD800) :
    textOfUnits.single character.toNat = character := by
  rw [textOfUnits.single, if_neg (by omega), Char.ofNat_toNat]

theorem textOfUnits_map {text : List Char} (basic : Basic text) :
    textOfUnits (text.map Char.toNat) = text := by
  induction text with
  | nil => rfl
  | cons first rest ih =>
      have below := basic first List.mem_cons_self
      have later := ih fun other present => basic other (List.mem_cons_of_mem _ present)
      cases rest with
      | nil => simp [textOfUnits, single_toNat below]
      | cons second rest =>
          simp only [List.map_cons] at later ⊢
          rw [textOfUnits, if_neg (by omega), single_toNat below, later]

theorem string_of_spells {body text : List Char} (spells : Spells body text)
    (basic : Basic text) (rest : List Char) :
    string (body ++ '"' :: rest) = some (String.ofList text, rest) := by
  simp [string, stringUnits_of_spells spells basic, textOfUnits_map basic]

private theorem dropWhile_blank {before : List Char} (blank : Blank before) {first : Char}
    (stops : isBlank first = false) (rest : List Char) :
    (before ++ first :: rest).dropWhile isBlank = first :: rest := by
  rw [List.dropWhile_append_of_pos blank, List.dropWhile_cons_of_neg (by simp [stops])]

theorem value_of_spells {before body text : List Char} (blank : Blank before)
    (spells : Spells body text) (basic : Basic text) (fuel : Nat) (rest : List Char) :
    value (fuel + 1) (before ++ '"' :: (body ++ '"' :: rest)) =
      some (.string (String.ofList text), rest) := by
  rw [value, dropWhile_blank blank (by decide)]
  simp [string_of_spells spells basic]

/-- The items of an array of strings are read, given a call for each and one more. -/
theorem items_of_spells {body : List Char} {texts : List (List Char)}
    (spells : SpellsItems body texts) (basic : ∀ text ∈ texts, Basic text) {fuel : Nat}
    (enough : texts.length < fuel) (rest : List Char) :
    items fuel (body ++ rest) =
      some (texts.map fun text => .string (String.ofList text), rest) := by
  induction spells generalizing fuel with
  | @last before body text after blankBefore spells blankAfter =>
      obtain ⟨fuel, rfl⟩ : ∃ less, fuel = less + 1 + 1 :=
        ⟨fuel - 2, by simp only [List.length_singleton] at enough; omega⟩
      simp only [List.append_assoc, List.cons_append, List.nil_append]
      rw [items, value_of_spells blankBefore spells (basic text List.mem_cons_self),
        Option.bind_eq_bind, Option.bind_some]
      simp only
      rw [dropWhile_blank blankAfter (by decide)]
      rfl
  | @cons before body text after more texts blankBefore spells blankAfter moreSpells ih =>
      obtain ⟨fuel, rfl⟩ : ∃ less, fuel = less + 1 + 1 :=
        ⟨fuel - 2, by simp only [List.length_cons] at enough; omega⟩
      have later := @ih (fun other present => basic other (List.mem_cons_of_mem _ present))
        (fuel + 1) (by simp only [List.length_cons] at enough; omega)
      simp only [List.append_assoc, List.cons_append]
      rw [items, value_of_spells blankBefore spells (basic text List.mem_cons_self),
        Option.bind_eq_bind, Option.bind_some]
      simp only
      rw [dropWhile_blank blankAfter (by decide)]
      simp [later]

theorem SpellsItems.length_le {body : List Char} {texts : List (List Char)}
    (spells : SpellsItems body texts) : texts.length ≤ body.length := by
  induction spells with
  | last =>
      simp only [List.length_cons, List.length_append]
      omega
  | cons _ _ _ _ ih =>
      simp only [List.length_cons, List.length_append]
      omega

theorem SpellsItems.ends {body : List Char} {texts : List (List Char)}
    (spells : SpellsItems body texts) : ∃ front, body = front ++ [']'] := by
  induction spells with
  | @last before body text after => exact ⟨before ++ '"' :: (body ++ '"' :: after), by simp⟩
  | @cons before body text after rest texts _ _ _ _ ih =>
      obtain ⟨front, rfl⟩ := ih
      exact ⟨before ++ '"' :: (body ++ '"' :: (after ++ ',' :: front)), by simp⟩

/-- The items of an array do not start with its closing bracket. -/
theorem SpellsItems.starts {body : List Char} {texts : List (List Char)}
    (spells : SpellsItems body texts) :
    ∃ rest, body.dropWhile isBlank = '"' :: rest := by
  cases spells with
  | last blankBefore => exact ⟨_, dropWhile_blank blankBefore (by decide) _⟩
  | cons blankBefore => exact ⟨_, dropWhile_blank blankBefore (by decide) _⟩

/-- A text that spells an array of strings. -/
def SpellsArray (text : String) (texts : List String) : Prop :=
  ∃ body, text.toList = '[' :: body ∧ SpellsItems body (texts.map String.toList)

/-- `JSON.stringify(texts)`, for texts that need no escapes. -/
def quotedArray (texts : List String) : String :=
  String.ofList ('[' :: ([','].intercalate (texts.map fun text =>
    '"' :: (text.toList ++ ['"'])) ++ [']']))

/-- The characters of a text stand for themselves in a string. -/
def Unescaped (text : List Char) : Prop :=
  ∀ character ∈ text, character ≠ '"' ∧ character ≠ '\\' ∧ 0x20 ≤ character.toNat

theorem Unescaped.spells {text : List Char} (unescaped : Unescaped text) :
    Spells text text := by
  induction text with
  | nil => exact .nil
  | cons first rest ih =>
      obtain ⟨noQuote, noEscape, printed⟩ := unescaped first List.mem_cons_self
      exact .plain noQuote noEscape printed
        (ih fun other present => unescaped other (List.mem_cons_of_mem _ present))

/-- The quoted array spells its texts. -/
theorem spells_quotedArray {texts : List String} (nonempty : texts ≠ [])
    (unescaped : ∀ text ∈ texts, Unescaped text.toList) :
    SpellsArray (quotedArray texts) texts := by
  refine ⟨_, String.toList_ofList, ?_⟩
  induction texts with
  | nil => contradiction
  | cons first rest ih =>
      have own := (unescaped first List.mem_cons_self).spells
      have blank : Blank [] := fun _ present => absurd present List.not_mem_nil
      cases rest with
      | nil => simpa using SpellsItems.last blank own blank
      | cons second rest =>
          have later := ih (List.cons_ne_nil _ _)
            fun text present => unescaped text (List.mem_cons_of_mem _ present)
          simpa [List.intercalate_cons_cons] using SpellsItems.cons blank own blank later

/-- A text that spells an array of strings is read as this array. -/
theorem parse_of_spells {text : String} {texts : List String}
    (spells : SpellsArray text texts) (basic : ∀ text ∈ texts, Basic text.toList) :
    parse text = some (.array (texts.map .string)) := by
  obtain ⟨body, bracket, spells⟩ := spells
  obtain ⟨rest, starts⟩ := spells.starts
  have read := items_of_spells spells (by simpa using basic)
    (show (texts.map String.toList).length < 2 * (body.length + 1) + 1 by
      have := spells.length_le
      omega) []
  have strings : ((texts.map String.toList).map fun text =>
      JsonValue.string (String.ofList text)) = texts.map .string := by
    simp [List.map_map, Function.comp_def]
  rw [List.append_nil, strings] at read
  have whole : value (2 * text.toList.length + 2) text.toList =
      some (.array (texts.map .string), []) := by
    rw [bracket, List.length_cons, value, List.dropWhile_cons_of_neg (by decide)]
    simp only
    rw [starts, read]
    rfl
  rw [parse, whole]
  rfl

end JsonTexts
