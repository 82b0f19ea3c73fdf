import SpareSpace.GlobPatterns
import SpareSpace.RedisService

/-!
# Deleting cached values by pattern

Values are kept by the text of their key, and `deleteByPattern` removes those
whose key a glob pattern covers.  It removes nothing else, and a pattern that is
plain text with a number in it and a star at its end removes every key that has
this text and this number.
-/

namespace SpareSpace.RedisService

open GlobPatterns

/-- A pattern with a star before it, unless it starts with one. -/
def normalizedPattern (pattern : String) : List Char :=
  if pattern.toList.head? = some '*' then
    pattern.toList
  else
    '*' :: pattern.toList

/-- `deleteByPattern` on the values of one type. -/
def deleteMatching {α : Type} (pattern : String) (pages : String → Cached α) :
    String → Cached α :=
  fun key =>
    if covers (parse none (normalizedPattern pattern)) key.toList then
      none
    else
      pages key

variable {α : Type} {pattern key : String} {pages : String → Cached α}

/-- What is left was there before. -/
theorem kept_of_deleteMatching {entry : CacheEntry α}
    (kept : deleteMatching pattern pages key = some entry) :
    pages key = some entry := by
  unfold deleteMatching at kept
  split at kept
  · contradiction
  · exact kept

/-- A pattern that is plain up to its last star covers the keys that contain its
text. -/
theorem covers_normalizedPattern_iff {text characters : List Char}
    (spells : pattern.toList = text ++ ['*']) (filled : text ≠ [])
    (plain : ∀ character ∈ text, Plain character) :
    covers (parse none (normalizedPattern pattern)) characters = true ↔
      text <:+: characters := by
  have noStar : pattern.toList.head? ≠ some '*' := by
    obtain ⟨first, rest, rfl⟩ := List.exists_cons_of_ne_nil filled
    rw [spells]
    intro star
    exact plain first List.mem_cons_self (by simp [Option.some.inj star])
  rw [normalizedPattern, if_neg noStar, spells, covers_between_stars_iff plain]

/-- A pattern that is plain up to its last star deletes the keys that contain
its text. -/
theorem deleteMatching_of_contained {text : List Char}
    (spells : pattern.toList = text ++ ['*']) (filled : text ≠ [])
    (plain : ∀ character ∈ text, Plain character)
    (found : text <:+: key.toList) : deleteMatching pattern pages key = none :=
  if_pos ((covers_normalizedPattern_iff spells filled plain).mpr found)

/-- A pattern with a number between plain texts deletes the keys with these texts
and this number, whatever the key store puts before them. -/
theorem deleteMatching_of_number {head tail rest : List Char} {number : Nat}
    (space : String) (filled : head ≠ [])
    (plainHead : ∀ character ∈ head, Plain character)
    (plainTail : ∀ character ∈ tail, Plain character)
    (spells : pattern.toList =
      head ++ (Nat.toDigits 10 number ++ (tail ++ ['*'])))
    (begins : key.toList = head ++ (Nat.toDigits 10 number ++ (tail ++ rest))) :
    deleteMatching pattern pages (space ++ key) = none := by
  refine @deleteMatching_of_contained α pattern (space ++ key) pages
    (head ++ (Nat.toDigits 10 number ++ tail)) ?_ ?_ ?_ ?_
  · rw [spells]
    simp only [List.append_assoc]
  · exact List.append_ne_nil_of_left_ne_nil filled _
  · intro character present
    rcases List.mem_append.mp present with inHead | present
    · exact plainHead character inHead
    · rcases List.mem_append.mp present with inDigits | inTail
      · exact plain_of_isDigit (isDigit_of_mem_decimal inDigits)
      · exact plainTail character inTail
  · rw [String.toList_append, begins]
    refine ⟨space.toList, rest, ?_⟩
    simp only [List.append_assoc]

end SpareSpace.RedisService
