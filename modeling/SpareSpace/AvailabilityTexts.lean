import SpareSpace.DateTexts
import SpareSpace.Entities
import SpareSpace.ScriptTexts

/-!
# The texts of the availability of a listing

A request writes the periods of a listing as texts of ranges, and the database gives
them back as one text of an array whose elements are quoted.  The entity takes this text
apart by removing its braces and quotes and looking for brackets.  Both ways the periods
are the same, in the same order.
-/

namespace SpareSpace

open DateTexts ScriptTexts

/-- The column `availability` as an entity holds it. -/
inductive StoredAvailability
  | missing
  | text (text : String)
  | strings (strings : List String)

/-- The characters that `.` does not match. -/
def isLineTerminator (character : Char) : Bool :=
  [0xA, 0xD, 0x2028, 0x2029].contains character.toNat

/-- `replace(/\\"/g, '')`. -/
def removeEscapedQuotes : List Char → List Char
  | '\\' :: '"' :: rest => removeEscapedQuotes rest
  | character :: rest => character :: removeEscapedQuotes rest
  | [] => []

/-- `replace(/"/g, '')`. -/
def removeQuotes (text : List Char) : List Char :=
  text.filter (· != '"')

/-- A text up to its first closing parenthesis on the line, and what follows. -/
def upToClosing : List Char → Option (List Char × List Char)
  | ')' :: rest => some ([')'], rest)
  | character :: rest =>
      if isLineTerminator character then
        none
      else
        (upToClosing rest).map fun found => (character :: found.1, found.2)
  | [] => none

/-- The match of `/\[.+?\)/` at the start of a text, and what follows. -/
def matchPeriod : List Char → Option (List Char × List Char)
  | '[' :: first :: rest =>
      if isLineTerminator first then
        none
      else
        (upToClosing rest).map fun found => ('[' :: first :: found.1, found.2)
  | _ => none

/-- `match(/\[.+?\)/g)`.  Each step takes a character at least, so that the length of
the text is fuel enough. -/
def matchPeriods : Nat → List Char → List (List Char)
  | 0, _ => []
  | _ + 1, [] => []
  | fuel + 1, character :: rest =>
      match matchPeriod (character :: rest) with
      | some (found, after) => found :: matchPeriods fuel after
      | none => matchPeriods fuel rest

namespace Listing

/-- `replace(/^{/, '')`. -/
def removeOpeningBrace : List Char → List Char
  | '\x7b' :: rest => rest
  | text => text

/-- `replace(/}$/, '')`. -/
def removeClosingBrace (text : List Char) : List Char :=
  if text.getLast? = some '\x7d' then text.dropLast else text

def parseStringAvailability (stringAvailability : String) : List String :=
  if stringAvailability = "" ∨ stringAvailability = "\x7b\x7d" then
    []
  else
    let stripped := removeQuotes (removeEscapedQuotes (removeClosingBrace
      (removeOpeningBrace (trim stringAvailability).toList)))
    (matchPeriods stripped.length stripped).map String.ofList

def availabilityPeriodStrings : StoredAvailability → List String
  | .missing => []
  | .text text => parseStringAvailability text
  | .strings strings => strings

/-- The two texts of a period that passes the test `/^\[[^,]+,[^,]+\)$/`. -/
def periodParts (trimmed : String) : Option (String × String) :=
  match trimmed.toList with
  | '[' :: rest =>
      if rest.getLast? = some ')' then
        match split ',' (String.ofList rest.dropLast) with
        | [first, second] =>
            if first ≠ "" ∧ second ≠ "" then some (first, second) else none
        | _ => none
      else
        none
  | _ => none

/-- A period as its texts are read; a date that is not valid is `none`. -/
def parseStringPeriod (date : String → Option Int) (stringPeriod : String) :
    Except String (Option Int × Option Int) :=
  let trimmed := trim stringPeriod
  match periodParts trimmed with
  | some (first, second) => .ok (date (trim first), date (trim second))
  | none =>
      .error s!"Invalid availability period stored in database: {trimmed}"

def availabilityPeriodDates (date : String → Option Int) (availability : StoredAvailability) :
    Except String (List (Option Int × Option Int)) :=
  (availabilityPeriodStrings availability).mapM (parseStringPeriod date)

end Listing

/-- The strings that `prepareListingData` builds. -/
def preparedAvailability (availability : List PeriodDto) : List String :=
  availability.map fun interval =>
    s!"[{toISOString interval.start},{toISOString interval.stop})"

/-- An element of an array, quoted. -/
def quoteElement (text : List Char) : List Char :=
  '"' :: (text.flatMap (fun character =>
    if character = '"' ∨ character = '\\' then ['\\', character] else [character]) ++ ['"'])

/-- A stored range that is not empty, with its bounds as the database prints them. -/
def rangeText (print : Int → String) (period : PeriodDto) : List Char :=
  '[' :: '"' :: ((print period.start).toList ++
    '"' :: ',' :: '"' :: ((print period.stop).toList ++ ['"', ')']))

/-- A stored `tstzrange[]` as the database gives it back. -/
def arrayText (print : Int → String) (periods : List PeriodDto) : String :=
  String.ofList ('\x7b' :: ([','].intercalate (periods.map fun period =>
    quoteElement (rangeText print period)) ++ ['\x7d']))

/-- The text of a bound: without the signs of ranges and arrays, on one line, with no
white space at its ends. -/
structure BoundText (text : String) : Prop where
  nonempty : text ≠ ""
  trimmed : trim text = text
  plain : ∀ character ∈ text.toList,
    character ∉ [',', '[', ']', '(', ')', '\x7b', '\x7d', '"', '\\'] ∧
      isLineTerminator character = false

/-- Whether a character of a bound is plain, for texts that are given. -/
def isPlain (character : Char) : Bool :=
  decide (character ∉ [',', '[', ']', '(', ')', '\x7b', '\x7d', '"', '\\']) &&
    !isLineTerminator character

theorem plain_of_isPlain {text : List Char} (all : text.all isPlain = true) :
    ∀ character ∈ text,
      character ∉ [',', '[', ']', '(', ')', '\x7b', '\x7d', '"', '\\'] ∧
        isLineTerminator character = false := by
  intro character present
  have plain := List.all_eq_true.mp all character present
  simpa only [isPlain, Bool.and_eq_true, decide_eq_true_eq, Bool.not_eq_true'] using plain

/-- A period between the brackets of its range. -/
def periodText (start stop : List Char) : List Char :=
  '[' :: (start ++ ',' :: (stop ++ [')']))

namespace BoundText

variable {text : String}

theorem not_mem (bound : BoundText text) {character : Char}
    (special : character ∈ [',', '[', ']', '(', ')', '\x7b', '\x7d', '"', '\\']) :
    character ∉ text.toList :=
  fun present => (bound.plain character present).1 special

end BoundText

theorem boundText_toISOString (instant : Int) : BoundText (toISOString instant) := by
  have plain : ∀ character ∈ (toISOString instant).toList,
      character ∉ [',', '[', ']', '(', ')', '\x7b', '\x7d', '"', '\\'] ∧
        isLineTerminator character = false ∧ isWhiteSpace character = false := by
    intro character present
    rcases of_mem_toISOString present with digit | mark
    · have bounds : 48 ≤ character.toNat ∧ character.toNat ≤ 57 := by
        simpa [Char.isDigit, UInt32.le_iff_toNat_le] using digit
      refine ⟨fun special => ?_, ?_, isWhiteSpace_of_isDigit digit⟩
      · simp only [List.mem_cons, List.not_mem_nil, or_false] at special
        rcases special with rfl | rfl | rfl | rfl | rfl | rfl | rfl | rfl | rfl <;>
          exact absurd digit (by decide)
      · simp only [isLineTerminator, List.contains_eq_mem, List.mem_cons, List.not_mem_nil,
          or_false, decide_eq_false_iff_not]
        omega
    · simp only [List.mem_cons, List.not_mem_nil, or_false] at mark
      rcases mark with rfl | rfl | rfl | rfl | rfl | rfl <;> decide
  refine ⟨?_, trim_of_not_blank fun character present => (plain character present).2.2,
    fun character present => ⟨(plain character present).1, (plain character present).2.1⟩⟩
  intro empty
  have read := ofISOString_toISOString instant
  rw [empty] at read
  cases read

section Strip

variable {text rest : List Char}

theorem removeEscapedQuotes_append (noEscape : '\\' ∉ text) (rest : List Char) :
    removeEscapedQuotes (text ++ rest) = text ++ removeEscapedQuotes rest := by
  induction text with
  | nil => rfl
  | cons first text ih =>
      have other : first ≠ '\\' := fun same => noEscape (same ▸ List.mem_cons_self)
      rw [List.cons_append, removeEscapedQuotes,
        ih fun present => noEscape (List.mem_cons_of_mem _ present), List.cons_append]
      exact fun _ escape _ => other escape

theorem removeQuotes_of_not_mem (noQuote : '"' ∉ text) : removeQuotes text = text := by
  refine List.filter_eq_self.mpr fun character present => ?_
  simp only [bne_iff_ne, ne_eq]
  rintro rfl
  exact noQuote present

theorem escape_of_plain (noQuote : '"' ∉ text) (noEscape : '\\' ∉ text) :
    (text.flatMap fun character =>
      if character = '"' ∨ character = '\\' then ['\\', character] else [character]) =
        text := by
  induction text with
  | nil => rfl
  | cons first text ih =>
      have quote : first ≠ '"' := fun same => noQuote (same ▸ List.mem_cons_self)
      have escape : first ≠ '\\' := fun same => noEscape (same ▸ List.mem_cons_self)
      rw [List.flatMap_cons, if_neg (not_or.mpr ⟨quote, escape⟩),
        ih (fun present => noQuote (List.mem_cons_of_mem _ present))
          fun present => noEscape (List.mem_cons_of_mem _ present), List.singleton_append]

/-- The quotes and escapes of a quoted range are removed. -/
theorem strip_quoteElement {print : Int → String} {period : PeriodDto}
    (start : BoundText (print period.start)) (stop : BoundText (print period.stop))
    (rest : List Char) :
    removeQuotes (removeEscapedQuotes (quoteElement (rangeText print period) ++ rest)) =
      periodText (print period.start).toList (print period.stop).toList ++
        removeQuotes (removeEscapedQuotes rest) := by
  have quoted : quoteElement (rangeText print period) ++ rest =
      '"' :: '[' :: '\\' :: '"' :: ((print period.start).toList ++
        '\\' :: '"' :: ',' :: '\\' :: '"' :: ((print period.stop).toList ++
          '\\' :: '"' :: ')' :: '"' :: rest)) := by
    simp [quoteElement, rangeText, List.flatMap_append,
      escape_of_plain (start.not_mem (by simp)) (start.not_mem (by simp)),
      escape_of_plain (stop.not_mem (by simp)) (stop.not_mem (by simp))]
  have unescaped : removeEscapedQuotes (quoteElement (rangeText print period) ++ rest) =
      '"' :: '[' :: ((print period.start).toList ++
        ',' :: ((print period.stop).toList ++ ')' :: '"' :: removeEscapedQuotes rest)) := by
    rw [quoted]
    simp [removeEscapedQuotes, removeEscapedQuotes_append (start.not_mem (by simp)),
      removeEscapedQuotes_append (stop.not_mem (by simp))]
  have unquoted {text : String} (bound : BoundText text) :
      text.toList.filter (· != '"') = text.toList :=
    removeQuotes_of_not_mem (bound.not_mem (by simp))
  rw [unescaped]
  simp [removeQuotes, periodText, List.filter_append, unquoted start, unquoted stop]

end Strip

section Read

variable {print : Int → String} {periods : List PeriodDto}

/-- The bounds of all periods are printed as texts of bounds. -/
def PrintsBounds (print : Int → String) (periods : List PeriodDto) : Prop :=
  ∀ period ∈ periods, BoundText (print period.start) ∧ BoundText (print period.stop)

/-- The text of a period between its brackets. -/
def periodTextOf (print : Int → String) (period : PeriodDto) : List Char :=
  periodText (print period.start).toList (print period.stop).toList

theorem strip_array (bounds : PrintsBounds print periods) :
    removeQuotes (removeEscapedQuotes ([','].intercalate (periods.map fun period =>
      quoteElement (rangeText print period)))) =
        [','].intercalate (periods.map (periodTextOf print)) := by
  induction periods with
  | nil => rfl
  | cons first rest ih =>
      obtain ⟨start, stop⟩ := bounds first List.mem_cons_self
      have later := ih fun period present => bounds period (List.mem_cons_of_mem _ present)
      cases rest with
      | nil =>
          have own := strip_quoteElement start stop []
          simpa [periodTextOf, removeEscapedQuotes, removeQuotes] using own
      | cons second rest =>
          simp only [List.map_cons, List.intercalate_cons_cons, List.append_assoc,
            List.singleton_append] at later ⊢
          rw [strip_quoteElement start stop]
          have comma (text : List Char) : removeQuotes (removeEscapedQuotes (',' :: text)) =
              ',' :: removeQuotes (removeEscapedQuotes text) := by
            simp [removeEscapedQuotes, removeQuotes]
          rw [comma, later]
          rfl

theorem upToClosing_append {text : List Char} (unclosed : ')' ∉ text)
    (line : ∀ character ∈ text, isLineTerminator character = false) (rest : List Char) :
    upToClosing (text ++ ')' :: rest) = some (text ++ [')'], rest) := by
  induction text with
  | nil => rfl
  | cons first text ih =>
      have other : first ≠ ')' := fun same => unclosed (same ▸ List.mem_cons_self)
      rw [List.cons_append, upToClosing, line first List.mem_cons_self,
        ih (fun present => unclosed (List.mem_cons_of_mem _ present))
          fun character present => line character (List.mem_cons_of_mem _ present)]
      · rfl
      · exact other

/-- A period at the start of a text is matched. -/
theorem matchPeriod_periodText {start stop : String} (boundStart : BoundText start)
    (boundStop : BoundText stop) (rest : List Char) :
    matchPeriod (periodText start.toList stop.toList ++ rest) =
      some (periodText start.toList stop.toList, rest) := by
  obtain ⟨first, more, spells⟩ := List.exists_cons_of_ne_nil
    (show start.toList ≠ [] by simpa using boundStart.nonempty)
  have plainStart := boundStart.plain
  rw [spells] at plainStart
  have closed : ')' ∉ more ++ ',' :: stop.toList := by
    intro present
    rcases List.mem_append.mp present with inStart | inStop
    · exact (plainStart ')' (List.mem_cons_of_mem _ inStart)).1 (by simp)
    · rcases List.mem_cons.mp inStop with comma | inStop
      · cases comma
      · exact boundStop.not_mem (by simp) inStop
  have line : ∀ character ∈ more ++ ',' :: stop.toList,
      isLineTerminator character = false := by
    intro character present
    rcases List.mem_append.mp present with inStart | inStop
    · exact (plainStart character (List.mem_cons_of_mem _ inStart)).2
    · rcases List.mem_cons.mp inStop with rfl | inStop
      · rfl
      · exact (boundStop.plain character inStop).2
  have found := upToClosing_append closed line rest
  simp only [List.append_assoc, List.cons_append] at found
  simp [periodText, spells, matchPeriod, (plainStart first List.mem_cons_self).2, found]

theorem matchPeriods_of_match {text found after : List Char}
    (matched : matchPeriod text = some (found, after)) (fuel : Nat) :
    matchPeriods (fuel + 1) text = found :: matchPeriods fuel after := by
  cases text with
  | nil => cases matched
  | cons first rest => rw [matchPeriods, matched]

/-- All periods between commas are matched, in order. -/
theorem matchPeriods_intercalate (bounds : PrintsBounds print periods) {fuel : Nat}
    (enough : ([','].intercalate (periods.map (periodTextOf print))).length ≤ fuel) :
    matchPeriods fuel ([','].intercalate (periods.map (periodTextOf print))) =
      periods.map (periodTextOf print) := by
  induction periods generalizing fuel with
  | nil => cases fuel <;> rfl
  | cons first rest ih =>
      obtain ⟨start, stop⟩ := bounds first List.mem_cons_self
      have later := @ih fun period present => bounds period (List.mem_cons_of_mem _ present)
      have matched := matchPeriod_periodText start stop
      cases rest with
      | nil =>
          obtain ⟨fuel, rfl⟩ : ∃ less, fuel = less + 1 :=
            ⟨fuel - 1, by simp [periodTextOf, periodText] at enough; omega⟩
          have whole := matchPeriods_of_match (matched []) fuel
          rw [List.append_nil] at whole
          simp only [List.map_cons, List.map_nil, List.intercalate_singleton]
          rw [periodTextOf, whole]
          cases fuel <;> rfl
      | cons second rest =>
          simp only [List.map_cons, List.intercalate_cons_cons, List.append_assoc,
            List.singleton_append] at later enough ⊢
          obtain ⟨fuel, rfl⟩ : ∃ less, fuel = less + 1 + 1 :=
            ⟨fuel - 2, by simp [periodTextOf, periodText] at enough; omega⟩
          have comma (text : List Char) :
              matchPeriods (fuel + 1) (',' :: text) = matchPeriods fuel text := rfl
          rw [periodTextOf, matchPeriods_of_match (matched _), comma,
            later (by simp [periodTextOf, periodText] at enough ⊢; omega)]

/-- A period between its brackets is read as its bounds. -/
theorem parseStringPeriod_periodText (date : String → Option Int) {start stop : String}
    (boundStart : BoundText start) (boundStop : BoundText stop) :
    Listing.parseStringPeriod date
        (String.ofList (periodText start.toList stop.toList)) =
      .ok (date start, date stop) := by
  have trimmed : trim (String.ofList (periodText start.toList stop.toList)) =
      String.ofList (periodText start.toList stop.toList) := by
    have between := @trim_between '[' ')' (by decide) (by decide)
      (start.toList ++ ',' :: stop.toList)
    simpa [periodText] using between
  have inner : split ',' (String.ofList (start.toList ++ ',' :: stop.toList)) =
      [start, stop] := by
    have cut := split_append_cons (boundStart.not_mem (by simp) : ',' ∉ start.toList) stop
    rw [split_of_not_mem (boundStop.not_mem (by simp))] at cut
    convert cut using 2
    apply String.toList_inj.mp
    simp
  have parts : Listing.periodParts (String.ofList (periodText start.toList stop.toList)) =
      some (start, stop) := by
    have cutOff : (start.toList ++ ',' :: (stop.toList ++ [')'])).dropLast =
        start.toList ++ ',' :: stop.toList := by
      rw [← List.cons_append, ← List.append_assoc, List.dropLast_concat]
    have closed : (start.toList ++ ',' :: (stop.toList ++ [')'])).getLast? = some ')' := by
      rw [← List.cons_append, ← List.append_assoc, List.getLast?_concat]
    rw [Listing.periodParts, String.toList_ofList, periodText]
    simp only
    rw [if_pos closed, cutOff, inner]
    simp [boundStart.nonempty, boundStop.nonempty]
  rw [Listing.parseStringPeriod, trimmed, parts]
  simp only
  rw [boundStart.trimmed, boundStop.trimmed]

/-- The text of the array is read as the texts of its periods. -/
theorem parseStringAvailability_arrayText (bounds : PrintsBounds print periods) :
    Listing.parseStringAvailability (arrayText print periods) =
      periods.map fun period => String.ofList (periodTextOf print period) := by
  cases periods with
  | nil => rfl
  | cons first rest =>
      have trimmed := @trim_between '\x7b' '\x7d' (by decide) (by decide)
        ([','].intercalate ((first :: rest).map fun period =>
          quoteElement (rangeText print period)))
      have filled : ¬ (arrayText print (first :: rest) = "" ∨
          arrayText print (first :: rest) = "\x7b\x7d") := by
        rw [← String.toList_inj, ← String.toList_inj, arrayText, String.toList_ofList]
        cases rest <;> simp [quoteElement]
      have braces (text : List Char) : Listing.removeClosingBrace
          (Listing.removeOpeningBrace ('\x7b' :: (text ++ ['\x7d']))) = text := by
        simp [Listing.removeOpeningBrace, Listing.removeClosingBrace]
      have matched := matchPeriods_intercalate bounds le_rfl
      rw [Listing.parseStringAvailability, if_neg filled]
      simp only
      rw [arrayText, trimmed, String.toList_ofList, braces, strip_array bounds, matched,
        List.map_map]
      rfl

/-- The strings of a request are the texts of its periods. -/
theorem preparedAvailability_eq (periods : List PeriodDto) :
    preparedAvailability periods =
      periods.map fun period => String.ofList (periodTextOf toISOString period) := by
  refine List.map_congr_left fun period _ => String.toList_inj.mp ?_
  simp [periodTextOf, periodText, toString]

/-- Periods are read from their texts, in order. -/
theorem mapM_parseStringPeriod {date : String → Option Int}
    (bounds : PrintsBounds print periods)
    (reads : ∀ period ∈ periods, date (print period.start) = some period.start ∧
      date (print period.stop) = some period.stop) :
    (periods.map fun period => String.ofList (periodTextOf print period)).mapM
        (Listing.parseStringPeriod date) =
      .ok (periods.map fun period => (some period.start, some period.stop)) := by
  induction periods with
  | nil => rfl
  | cons first rest ih =>
      obtain ⟨start, stop⟩ := bounds first List.mem_cons_self
      obtain ⟨readsStart, readsStop⟩ := reads first List.mem_cons_self
      have later := ih (fun period present => bounds period (List.mem_cons_of_mem _ present))
        fun period present => reads period (List.mem_cons_of_mem _ present)
      rw [List.map_cons, List.mapM_cons, later, periodTextOf,
        parseStringPeriod_periodText date start stop, readsStart, readsStop]
      rfl

end Read

/-- **Periods survive storage.**  Suppose that the database prints the bounds of the
periods as texts of bounds, and that a date is read the same from such a text as from its
ISO text.  Then the periods of a listing are those of the request, in the same order,
whether the entity holds the strings just built or the text of the stored array. -/
theorem Listing.availabilityPeriodDates_survive (print : Int → String)
    (date : String → Option Int) (periods : List PeriodDto)
    (bounds : PrintsBounds print periods)
    (readsPrinted : ∀ period ∈ periods, date (print period.start) = some period.start ∧
      date (print period.stop) = some period.stop)
    (readsISO : ∀ period ∈ periods, date (toISOString period.start) = some period.start ∧
      date (toISOString period.stop) = some period.stop) :
    Listing.availabilityPeriodDates date (.strings (preparedAvailability periods)) =
        .ok (periods.map fun period => (some period.start, some period.stop)) ∧
      Listing.availabilityPeriodDates date (.text (arrayText print periods)) =
        .ok (periods.map fun period => (some period.start, some period.stop)) := by
  have isoBounds : PrintsBounds toISOString periods := fun period _ =>
    ⟨boundText_toISOString period.start, boundText_toISOString period.stop⟩
  constructor
  · rw [Listing.availabilityPeriodDates, Listing.availabilityPeriodStrings,
      preparedAvailability_eq]
    exact mapM_parseStringPeriod isoBounds readsISO
  · rw [Listing.availabilityPeriodDates, Listing.availabilityPeriodStrings,
      parseStringAvailability_arrayText bounds]
    exact mapM_parseStringPeriod bounds readsPrinted

/-- An instant of a full second as the database prints it, in UTC. -/
def timestamptzText (instant : Int) : String :=
  let iso := isoCharacters instant
  String.ofList (iso.take 10 ++ ' ' :: ((iso.drop 11).take 8 ++ "+00".toList))

example : arrayText timestamptzText [⟨1767225600000, 1767744000000⟩] =
    "\x7b\"[\\\"2026-01-01 00:00:00+00\\\",\\\"2026-01-07 00:00:00+00\\\")\"\x7d" := by
  decide +kernel

/-- A date of an ISO text, or of a text that `timestamptzText` prints. -/
def dateOfText (text : String) : Option Int :=
  let characters := text.toList
  (ofISOString text).or (ofISOString (String.ofList
    (characters.take 10 ++ 'T' :: ((characters.drop 11).take 8 ++ ".000Z".toList))))

theorem Listing.availabilityPeriodDates_survive_two_weeks :
    Listing.availabilityPeriodDates dateOfText (.text (arrayText timestamptzText
      [⟨1767225600000, 1767744000000⟩, ⟨1768348800000, 1768953600000⟩])) =
        .ok [(some 1767225600000, some 1767744000000),
          (some 1768348800000, some 1768953600000)] := by
  have bound (instant : Int) (week : instant ∈
      [1767225600000, 1767744000000, 1768348800000, 1768953600000]) :
      BoundText (timestamptzText instant) := by
    simp only [List.mem_cons, List.not_mem_nil, or_false] at week
    rcases week with rfl | rfl | rfl | rfl <;>
      exact ⟨by decide +kernel, by decide +kernel, plain_of_isPlain (by decide +kernel)⟩
  refine (Listing.availabilityPeriodDates_survive timestamptzText dateOfText
    [⟨1767225600000, 1767744000000⟩, ⟨1768348800000, 1768953600000⟩] ?_
    (by decide +kernel) (by decide +kernel)).2
  intro period present
  simp only [List.mem_cons, List.not_mem_nil, or_false] at present
  rcases present with rfl | rfl
  · exact ⟨bound _ (by simp), bound _ (by simp)⟩
  · exact ⟨bound _ (by simp), bound _ (by simp)⟩

end SpareSpace
