import Mathlib.Data.List.Infix

/-!
# Texts of separated words

A text is written as words with a separator after each but the last.  The words can be
read back, and a run of whole words is found in the text where the words stand in a row;
only its first word may be the end of a longer word.  What is put before the text makes
no difference, unless it completes the first word.
-/

namespace SeparatedWords

variable {α : Type} {separator : α} {word first : List α} {words more : List (List α)}
  {last front rest tail : List α}

/-- Words, each with the separator after it. -/
def terminated (separator : α) (words : List (List α)) : List α :=
  words.flatMap (· ++ [separator])

@[simp]
theorem terminated_nil : terminated separator [] = [] :=
  rfl

@[simp]
theorem terminated_cons : terminated separator (word :: words) =
    word ++ separator :: terminated separator words := by
  simp [terminated]

theorem eq_or_mem_of_mem_terminated {sign : α} (present : sign ∈ terminated separator words) :
    sign = separator ∨ ∃ word ∈ words, sign ∈ word := by
  obtain ⟨word, among, present⟩ := List.mem_flatMap.mp present
  rcases List.mem_append.mp present with inWord | isSeparator
  · exact Or.inr ⟨word, among, inWord⟩
  · exact Or.inl (List.mem_singleton.mp isSeparator)

/-- No word contains the separator. -/
def FreeOf (separator : α) (words : List (List α)) : Prop :=
  ∀ word ∈ words, separator ∉ word

theorem freeOf_cons : FreeOf separator (word :: words) ↔
    separator ∉ word ∧ FreeOf separator words :=
  List.forall_mem_cons

/-- The words stand in a row, the first perhaps at the end of a longer word. -/
def Occurs (word : List α) (more : List (List α)) : List (List α) → Prop
  | [] => False
  | candidate :: words =>
      (word <:+ candidate ∧ more <+: words) ∨ Occurs word more words

/-- Two texts up to their first separator. -/
theorem append_cons_inj (free : separator ∉ word) (freeFirst : separator ∉ first) :
    word ++ separator :: rest = first ++ separator :: tail ↔ word = first ∧ rest = tail := by
  induction word generalizing first with
  | nil =>
      cases first with
      | nil => simp
      | cons character first =>
          have other : separator ≠ character := List.ne_of_not_mem_cons freeFirst
          simp [other]
  | cons character word ih =>
      cases first with
      | nil =>
          have other : character ≠ separator := (List.ne_of_not_mem_cons free).symm
          simp [other]
      | cons character' first =>
          rw [List.cons_append, List.cons_append, List.cons.injEq,
            ih (List.not_mem_of_not_mem_cons free) (List.not_mem_of_not_mem_cons freeFirst),
            List.cons.injEq, and_assoc]

theorem append_cons_prefix_iff (free : separator ∉ word) (freeFirst : separator ∉ first) :
    word ++ separator :: rest <+: first ++ separator :: tail ↔
      word = first ∧ rest <+: tail := by
  constructor
  · rintro ⟨after, same⟩
    rw [List.append_assoc, List.cons_append, append_cons_inj free freeFirst] at same
    exact ⟨same.1, after, same.2⟩
  · rintro ⟨rfl, after, rfl⟩
    exact ⟨after, by simp⟩

/-- A text without the separator does not contain one with it. -/
theorem not_infix_of_free (free : separator ∉ last) :
    ¬ word ++ separator :: rest <:+: last :=
  fun present => free (present.subset (by simp))

/-- A text with a separator is found at the end of the first word or behind it. -/
theorem append_cons_infix_iff (free : separator ∉ word) (freeFirst : separator ∉ first) :
    word ++ separator :: rest <:+: first ++ separator :: tail ↔
      (word <:+ first ∧ rest <+: tail) ∨ word ++ separator :: rest <:+: tail := by
  induction first with
  | nil =>
      rw [List.nil_append, List.infix_cons_iff, ← List.nil_append (separator :: tail),
        append_cons_prefix_iff free List.not_mem_nil, List.suffix_nil]
  | cons character first ih =>
      rw [List.cons_append, List.infix_cons_iff, ← List.cons_append,
        append_cons_prefix_iff free freeFirst,
        ih fun present => freeFirst (List.mem_cons_of_mem _ present), List.suffix_cons_iff,
        or_and_right, or_assoc]

/-- Whole words at the beginning of a text are its first words. -/
theorem terminated_prefix_iff (free : FreeOf separator more)
    (freeWords : FreeOf separator words) (freeLast : separator ∉ last) :
    terminated separator more <+: terminated separator words ++ last ↔ more <+: words := by
  induction more generalizing words with
  | nil => simp
  | cons word more ih =>
      obtain ⟨freeWord, freeMore⟩ := freeOf_cons.mp free
      cases words with
      | nil =>
          simp only [terminated_cons, terminated_nil, List.nil_append, List.prefix_nil,
            reduceCtorEq, iff_false]
          exact fun begins => not_infix_of_free freeLast begins.isInfix
      | cons first words =>
          obtain ⟨freeFirst, freeWords⟩ := freeOf_cons.mp freeWords
          rw [terminated_cons, terminated_cons, List.append_assoc, List.cons_append,
            append_cons_prefix_iff freeWord freeFirst, ih freeMore freeWords,
            List.cons_prefix_cons]

/-- Whole words are found in a text where they stand in a row. -/
theorem terminated_infix_iff (free : FreeOf separator (word :: more))
    (freeWords : FreeOf separator words) (freeLast : separator ∉ last) :
    terminated separator (word :: more) <:+: terminated separator words ++ last ↔
      Occurs word more words := by
  obtain ⟨freeWord, freeMore⟩ := freeOf_cons.mp free
  rw [terminated_cons]
  induction words with
  | nil => exact iff_of_false (not_infix_of_free freeLast) id
  | cons first words ih =>
      obtain ⟨freeFirst, freeWords⟩ := freeOf_cons.mp freeWords
      rw [terminated_cons, List.append_assoc, List.cons_append,
        append_cons_infix_iff freeWord freeFirst,
        terminated_prefix_iff freeMore freeWords freeLast, ih freeWords, Occurs]

/-- What stands before a text makes no difference to a search, if it does not hold the
first word itself and the first word of the text completes no end of it. -/
theorem infix_append_iff_of_apart (free : separator ∉ word) (freeFirst : separator ∉ first)
    (absent : ¬ word ++ [separator] <:+: front) (apart : first <:+ word → word = first) :
    word ++ separator :: rest <:+: front ++ (first ++ separator :: tail) ↔
      word ++ separator :: rest <:+: first ++ separator :: tail := by
  induction front with
  | nil => rw [List.nil_append]
  | cons character front ih =>
      have absentRest : ¬ word ++ [separator] <:+: front :=
        fun present => absent (List.infix_cons present)
      rw [List.cons_append, List.infix_cons_iff, ih absentRest, or_iff_right]
      intro begins
      have header : word ++ [separator] <+: word ++ separator :: rest := ⟨rest, by simp⟩
      rcases List.prefix_or_prefix_of_prefix (header.trans begins)
        (List.prefix_append (character :: front) _) with within | across
      · exact absent within.isInfix
      · obtain ⟨middle, spells⟩ := across
        rcases List.eq_nil_or_concat' middle with rfl | ⟨middle, final, rfl⟩
        · rw [List.append_nil] at spells
          exact absent (spells ▸ List.infix_rfl)
        · rw [← List.append_assoc] at spells
          obtain ⟨split, _⟩ := List.append_inj' spells rfl
          have next : middle ++ separator :: rest <+: first ++ separator :: tail := by
            rw [← split, ← List.cons_append, List.append_assoc] at begins
            exact (List.prefix_append_right_inj _).mp begins
          have freeMiddle : separator ∉ middle := fun present =>
            free (split ▸ List.mem_append_right _ present)
          obtain ⟨rfl, _⟩ := (append_cons_prefix_iff freeMiddle freeFirst).mp next
          have whole := apart ⟨character :: front, split⟩
          have lengths := congrArg List.length (split.trans whole)
          simp only [List.length_append, List.length_cons] at lengths
          omega

/-- The words of a text can be read back. -/
theorem terminated_append_inj {words' : List (List α)} {last' : List α}
    (free : FreeOf separator words) (free' : FreeOf separator words')
    (freeLast : separator ∉ last) (freeLast' : separator ∉ last') :
    terminated separator words ++ last = terminated separator words' ++ last' ↔
      words = words' ∧ last = last' := by
  induction words generalizing words' with
  | nil =>
      cases words' with
      | nil => simp
      | cons first words' =>
          refine iff_of_false (fun same => freeLast ?_) (by simp)
          rw [show last = _ from same]
          simp
  | cons first words ih =>
      cases words' with
      | nil =>
          refine iff_of_false (fun same => freeLast' ?_) (by simp)
          rw [← show _ = last' from same]
          simp
      | cons first' words' =>
          obtain ⟨freeFirst, free⟩ := freeOf_cons.mp free
          obtain ⟨freeFirst', free'⟩ := freeOf_cons.mp free'
          rw [terminated_cons, terminated_cons, List.append_assoc, List.append_assoc,
            List.cons_append, List.cons_append, append_cons_inj freeFirst freeFirst',
            ih free free', List.cons.injEq, and_assoc]

end SeparatedWords
