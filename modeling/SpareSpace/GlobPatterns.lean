import Mathlib.Data.List.Infix

/-!
# Glob patterns

The patterns by which a key store scans its keys: a star stands for any run of
characters, a question mark for one character, a class in brackets for one of
the characters it names, and a backslash takes the next character as it is.
Text without these signs, between two stars, is found in exactly the keys that
contain it.  A decimal number in such a key is plain, and a sign after it that
is no digit shows where it ends.
-/

namespace GlobPatterns

inductive Piece
  | anyRun
  | one (accepts : Char → Bool)

def Piece.literal (character : Char) : Piece :=
  .one fun other => other == character

/-- A class in brackets, as far as it has been read. -/
structure CharClass where
  negated : Bool
  names : Char → Bool

namespace CharClass

def opened (negated : Bool) : CharClass :=
  ⟨negated, fun _ => false⟩

def adding (charClass : CharClass) (more : Char → Bool) : CharClass :=
  { charClass with names := fun other => charClass.names other || more other }

def piece (charClass : CharClass) : Piece :=
  .one fun other => charClass.names other != charClass.negated

end CharClass

/-- The characters between two ends of a range, given in either order. -/
def between (first last other : Char) : Bool :=
  (decide (first ≤ other) && decide (other ≤ last)) ||
    (decide (last ≤ other) && decide (other ≤ first))

/-- The pieces of a pattern, read from inside a class when one is open.  A class
without an end names what follows up to the end of the pattern. -/
def parse : Option CharClass → List Char → List Piece
  | none, [] => []
  | none, '*' :: rest => .anyRun :: parse none rest
  | none, '?' :: rest => .one (fun _ => true) :: parse none rest
  | none, '[' :: '^' :: rest => parse (some (.opened true)) rest
  | none, '[' :: rest => parse (some (.opened false)) rest
  | none, '\\' :: character :: rest => .literal character :: parse none rest
  | none, character :: rest => .literal character :: parse none rest
  | some charClass, [] => [charClass.piece]
  | some charClass, '\\' :: character :: rest =>
      parse (some (charClass.adding (· == character))) rest
  | some charClass, ']' :: rest => charClass.piece :: parse none rest
  | some charClass, first :: '-' :: last :: rest =>
      parse (some (charClass.adding (between first last))) rest
  | some charClass, character :: rest =>
      parse (some (charClass.adding (· == character))) rest

/-- The whole text can be cut into the pieces. -/
def covers : List Piece → List Char → Bool
  | [], text => text.isEmpty
  | .anyRun :: rest, text => text.tails.any (covers rest)
  | .one _ :: _, [] => false
  | .one accepts :: rest, character :: text =>
      accepts character && covers rest text

/-- A character that stands for itself outside of classes. -/
def Plain (character : Char) : Prop :=
  character ∉ ['*', '?', '[', '\\']

instance (character : Char) : Decidable (Plain character) :=
  inferInstanceAs (Decidable (¬ _))

theorem plain_of_all {text : List Char}
    (all : text.all (fun character => decide (Plain character)) = true) :
    ∀ character ∈ text, Plain character :=
  fun character present =>
    of_decide_eq_true (List.all_eq_true.mp all character present)

theorem parse_plain {character : Char} (plain : Plain character)
    (rest : List Char) :
    parse none (character :: rest) = .literal character :: parse none rest := by
  simp only [Plain, List.mem_cons, List.not_mem_nil, or_false, not_or] at plain
  obtain ⟨noStar, noQuestion, noBracket, noBackslash⟩ := plain
  rw [parse]
  · exact fun same => noStar same
  · exact fun same => noQuestion same
  · exact fun _ same => (noBracket same).elim
  · exact fun same => noBracket same
  · exact fun _ _ same => (noBackslash same).elim

/-- Plain text is read as itself. -/
theorem parse_plain_append {text : List Char}
    (plain : ∀ character ∈ text, Plain character) (rest : List Char) :
    parse none (text ++ rest) = text.map .literal ++ parse none rest := by
  induction text with
  | nil => rfl
  | cons character text ih =>
      rw [List.cons_append, parse_plain (plain character List.mem_cons_self),
        ih fun other present => plain other (List.mem_cons_of_mem _ present)]
      rfl

theorem covers_anyRun_iff {rest : List Piece} {text : List Char} :
    covers (.anyRun :: rest) text = true ↔
      ∃ tail, tail <:+ text ∧ covers rest tail = true := by
  simp only [covers, List.any_eq_true, List.mem_tails]

/-- Literals before a star are found at the beginning of a text. -/
theorem covers_literals_iff {characters text : List Char} :
    covers (characters.map .literal ++ [.anyRun]) text = true ↔
      characters <+: text := by
  induction characters generalizing text with
  | nil =>
      simp only [List.map_nil, List.nil_append, List.nil_prefix, iff_true]
      exact covers_anyRun_iff.mpr ⟨[], List.nil_suffix, rfl⟩
  | cons character characters ih =>
      cases text with
      | nil => simp [covers, Piece.literal]
      | cons first text =>
          simp only [List.map_cons, List.cons_append, Piece.literal, covers,
            Bool.and_eq_true, beq_iff_eq, List.cons_prefix_cons]
          rw [← ih, eq_comm]

/-- Plain text between two stars is found in the keys that contain it. -/
theorem covers_between_stars_iff {text key : List Char}
    (plain : ∀ character ∈ text, Plain character) :
    covers (parse none ('*' :: (text ++ ['*']))) key = true ↔ text <:+: key := by
  rw [parse, parse_plain_append plain, covers_anyRun_iff,
    List.infix_iff_prefix_suffix]
  constructor
  · rintro ⟨tail, suffix, covered⟩
    exact ⟨tail, covers_literals_iff.mp covered, suffix⟩
  · rintro ⟨tail, begins, suffix⟩
    exact ⟨tail, suffix, covers_literals_iff.mpr begins⟩

example : covers (parse none "*r[a-e]views:\\*:?".toList)
    "key:reviews:*:7".toList = true := by
  decide

section Decimals

variable {m n : Nat} {separator : Char} {first second : List Char}

theorem plain_of_isDigit {character : Char} (digit : character.isDigit = true) :
    Plain character := by
  intro special
  simp only [List.mem_cons, List.not_mem_nil, or_false] at special
  rcases special with rfl | rfl | rfl | rfl <;> contradiction

theorem isDigit_of_mem_decimal {character : Char}
    (present : character ∈ Nat.toDigits 10 n) : character.isDigit = true :=
  Nat.isDigit_of_mem_toDigits (by decide) (by decide) present

theorem decimal_injective (same : Nat.toDigits 10 m = Nat.toDigits 10 n) :
    m = n := by
  have values := congrArg (fun digits => Nat.ofDigitChars 10 digits 0) same
  simpa only [Nat.ofDigitChars_ten_toDigits] using values

/-- A number followed by a sign that is no digit can be read back. -/
theorem decimal_delimited (noDigit : separator.isDigit = false)
    (same : Nat.toDigits 10 m ++ separator :: first =
      Nat.toDigits 10 n ++ separator :: second) :
    m = n ∧ first = second := by
  have ends (number : Nat) (rest : List Char) :
      (Nat.toDigits 10 number ++ separator :: rest).takeWhile Char.isDigit =
        Nat.toDigits 10 number := by
    rw [List.takeWhile_append_of_pos fun _ => isDigit_of_mem_decimal,
      List.takeWhile_cons_of_neg (by simp [noDigit]), List.append_nil]
  have digits := congrArg (List.takeWhile Char.isDigit) same
  rw [ends, ends] at digits
  obtain rfl := decimal_injective digits
  exact ⟨rfl, (List.cons.inj (List.append_cancel_left same)).2⟩

end Decimals

end GlobPatterns
