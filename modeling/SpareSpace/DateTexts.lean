import SpareSpace.CalendarLaws

/-!
# ISO texts of instants

Instants are milliseconds from 1970 in UTC.  The text of an instant has its date and its
time in fields of fixed width, with more digits and a sign for the years that four digits
do not hold, and reading the fields gives the instant back.
-/

namespace DateTexts

open CivilCalendar

/-- The decimal digits of a number, with zeros before them up to a width. -/
def padded (width number : Nat) : List Char :=
  (Nat.toDigits 10 number).leftpad width '0'

/-- A year in four digits, or in six with a sign. -/
def yearText (year : Int) : List Char :=
  if 0 ≤ year ∧ year ≤ 9999 then
    padded 4 year.toNat
  else
    (if year < 0 then '-' else '+') :: padded 6 year.natAbs

/-- The characters of `toISOString`. -/
def isoCharacters (instant : Int) : List Char :=
  let date := civilFromDays (instant / 86400000)
  let time := (instant % 86400000).toNat
  yearText date.year ++ '-' :: (padded 2 (date.month + 1).toNat ++
    '-' :: (padded 2 date.day.toNat ++ 'T' :: (padded 2 (time / 3600000) ++
      ':' :: (padded 2 (time / 60000 % 60) ++ ':' :: (padded 2 (time / 1000 % 60) ++
        '.' :: (padded 3 (time % 1000) ++ ['Z']))))))

/-- `date.toISOString()`. -/
def toISOString (instant : Int) : String :=
  String.ofList (isoCharacters instant)

/-- The number at the start of a text. -/
def number (text : List Char) : Option (Nat × List Char) :=
  if text.takeWhile Char.isDigit = [] then
    none
  else
    some (Nat.ofDigitChars 10 (text.takeWhile Char.isDigit) 0,
      text.dropWhile Char.isDigit)

/-- The year at the start of a text. -/
def year : List Char → Option (Int × List Char)
  | '-' :: rest => (number rest).map fun found => (-(found.1 : Int), found.2)
  | '+' :: rest => (number rest).map fun found => ((found.1 : Int), found.2)
  | rest => (number rest).map fun found => ((found.1 : Int), found.2)

/-- The number after a mark at the start of a text. -/
def field (mark : Char) : List Char → Option (Nat × List Char)
  | first :: rest => if first = mark then number rest else none
  | [] => none

/-- `new Date(text)`, for a text with all fields of `toISOString`. -/
def ofISOString (text : String) : Option Int := do
  let (year, rest) ← year text.toList
  let (month, rest) ← field '-' rest
  let (day, rest) ← field '-' rest
  let (hour, rest) ← field 'T' rest
  let (minute, rest) ← field ':' rest
  let (second, rest) ← field ':' rest
  let (millisecond, rest) ← field '.' rest
  if rest = ['Z'] then
    return daysFromCivil year (month - 1) day * 86400000 +
      (((hour * 60 + minute) * 60 + second) * 1000 + millisecond)
  else
    none

theorem isDigit_of_mem_padded {width value : Nat} {character : Char}
    (present : character ∈ padded width value) : character.isDigit = true := by
  rcases List.mem_append.mp present with zero | digit
  · rw [List.eq_of_mem_replicate zero]
    rfl
  · exact Nat.isDigit_of_mem_toDigits (by decide) (by decide) digit

/-- A padded number is read as the number, up to the mark that follows. -/
theorem number_padded (width value : Nat) {mark : Char} (stops : mark.isDigit = false)
    (rest : List Char) :
    number (padded width value ++ mark :: rest) = some (value, mark :: rest) := by
  have digits character (present : character ∈ padded width value) :=
    isDigit_of_mem_padded present
  have front : (padded width value ++ mark :: rest).takeWhile Char.isDigit =
      padded width value := by
    rw [List.takeWhile_append_of_pos digits, List.takeWhile_cons_of_neg (by simp [stops]),
      List.append_nil]
  have back : (padded width value ++ mark :: rest).dropWhile Char.isDigit = mark :: rest := by
    rw [List.dropWhile_append_of_pos digits, List.dropWhile_cons_of_neg (by simp [stops])]
  have filled : padded width value ≠ [] := by
    simp [padded, List.leftpad, Nat.toDigits_ne_nil]
  have sum : Nat.ofDigitChars 10 (padded width value) 0 = value := by
    simp [padded, List.leftpad, Nat.ofDigitChars_append]
  rw [number, front, back, if_neg filled, sum]

theorem field_padded (opening : Char) (width value : Nat) {mark : Char}
    (stops : mark.isDigit = false) (rest : List Char) :
    field opening (opening :: (padded width value ++ mark :: rest)) =
      some (value, mark :: rest) := by
  rw [field, if_pos rfl, number_padded width value stops]

theorem year_yearText (value : Int) (rest : List Char) :
    year (yearText value ++ '-' :: rest) = some (value, '-' :: rest) := by
  unfold yearText
  split
  · next bounds =>
      obtain ⟨first, digits, spells⟩ := List.exists_cons_of_ne_nil
        (show padded 4 value.toNat ≠ [] by simp [padded, List.leftpad, Nat.toDigits_ne_nil])
      have digit : first.isDigit = true :=
        isDigit_of_mem_padded (spells ▸ List.mem_cons_self)
      have read := @number_padded 4 value.toNat '-' (by decide) rest
      rw [spells] at read ⊢
      have value : (value.toNat : Int) = value := by omega
      rw [List.cons_append] at read ⊢
      unfold year
      split
      · next same =>
          cases same
          cases digit
      · next same =>
          cases same
          cases digit
      · rw [read, Option.map_some, value]
  · next outside =>
      by_cases negative : value < 0
      · rw [if_pos negative, List.cons_append, year,
          number_padded 6 value.natAbs (by decide) rest]
        simp only [Option.map_some]
        rw [show -(value.natAbs : Int) = value by omega]
      · rw [if_neg negative, List.cons_append, year,
          number_padded 6 value.natAbs (by decide) rest]
        simp only [Option.map_some]
        rw [show (value.natAbs : Int) = value by omega]

/-- The text of an instant is read as the instant. -/
theorem ofISOString_toISOString (instant : Int) :
    ofISOString (toISOString instant) = some instant := by
  obtain ⟨⟨first, last⟩, one, _⟩ := civilFromDays_spec (instant / 86400000)
  have days := daysFromCivil_civilFromDays (instant / 86400000)
  obtain ⟨date, dates⟩ : ∃ date, date = civilFromDays (instant / 86400000) := ⟨_, rfl⟩
  obtain ⟨time, times⟩ : ∃ time, time = (instant % 86400000).toNat := ⟨_, rfl⟩
  rw [← dates] at first one days
  have month : ((date.month + 1).toNat : Int) - 1 = date.month := by omega
  have day : (date.day.toNat : Int) = date.day := by omega
  rw [ofISOString, toISOString, String.toList_ofList, isoCharacters, ← dates, ← times]
  simp only [year_yearText, field_padded _ 2 _ (show ('-' : Char).isDigit = false by decide),
    field_padded _ 2 _ (show ('T' : Char).isDigit = false by decide),
    field_padded _ 2 _ (show (':' : Char).isDigit = false by decide),
    field_padded _ 2 _ (show ('.' : Char).isDigit = false by decide),
    field_padded _ 3 _ (show ('Z' : Char).isDigit = false by decide), Option.bind_eq_bind,
    Option.bind_some, month, day, days, if_true, Option.pure_def, Option.some.injEq]
  omega

theorem of_mem_yearText {value : Int} {character : Char}
    (present : character ∈ yearText value) :
    character.isDigit = true ∨ character ∈ ['-', '+'] := by
  unfold yearText at present
  split at present
  · exact Or.inl (isDigit_of_mem_padded present)
  · rcases List.mem_cons.mp present with rfl | digit
    · split <;> simp
    · exact Or.inl (isDigit_of_mem_padded digit)

/-- The characters of the text of an instant. -/
theorem of_mem_toISOString {instant : Int} {character : Char}
    (present : character ∈ (toISOString instant).toList) :
    character.isDigit = true ∨ character ∈ ['-', '+', 'T', ':', '.', 'Z'] := by
  have digit {width value : Nat} (inField : character ∈ padded width value) :
      character.isDigit = true ∨ character ∈ ['-', '+', 'T', ':', '.', 'Z'] :=
    Or.inl (isDigit_of_mem_padded inField)
  rw [toISOString, String.toList_ofList, isoCharacters] at present
  simp only [List.mem_append, List.mem_cons, List.not_mem_nil, or_false] at present
  rcases present with inYear | rfl | inField | rfl | inField | rfl | inField | rfl | inField |
    rfl | inField | rfl | inField | rfl
  · rcases of_mem_yearText inYear with digit | sign
    · exact Or.inl digit
    · simp only [List.mem_cons, List.not_mem_nil, or_false] at sign
      rcases sign with rfl | rfl <;> simp
  all_goals first | exact digit inField | simp

end DateTexts
