import Mathlib.Data.List.Basic
import Mathlib.Tactic.Common

/-!
# Base64 texts

Three bytes are four digits of six bits, and what is left of one or two bytes is filled up
with zeros and padded.  Reading skips every character that is no digit, in particular the
padding, and gives back the bytes that were written.
-/

namespace Base64Texts

/-- The digits, by their values. -/
def alphabet : List Char :=
  "ABCDEFGHIJKLMNOPQRSTUVWXYZabcdefghijklmnopqrstuvwxyz0123456789+/".toList

def digit (value : Nat) : Char :=
  alphabet.getD value '='

/-- The value of a digit; those of file names are read as well. -/
def value (character : Char) : Option Nat :=
  if character = '-' then
    some 62
  else if character = '_' then
    some 63
  else
    alphabet.idxOf? character

/-- The values of the digits of some bytes. -/
def sextets : List UInt8 → List Nat
  | [] => []
  | [first] => [first.toNat / 4, first.toNat % 4 * 16]
  | [first, second] =>
      [first.toNat / 4, first.toNat % 4 * 16 + second.toNat / 16, second.toNat % 16 * 4]
  | first :: second :: third :: rest =>
      first.toNat / 4 :: (first.toNat % 4 * 16 + second.toNat / 16) ::
        (second.toNat % 16 * 4 + third.toNat / 64) :: third.toNat % 64 :: sextets rest

/-- The bytes of some digits; bits that make up no whole byte are dropped. -/
def bytesOf : List Nat → List UInt8
  | first :: second :: third :: fourth :: rest =>
      UInt8.ofNat (first * 4 + second / 16) :: UInt8.ofNat (second % 16 * 16 + third / 4) ::
        UInt8.ofNat (third % 4 * 64 + fourth) :: bytesOf rest
  | [first, second, third] =>
      [UInt8.ofNat (first * 4 + second / 16), UInt8.ofNat (second % 16 * 16 + third / 4)]
  | [first, second] => [UInt8.ofNat (first * 4 + second / 16)]
  | _ => []

def padding (bytes : List UInt8) : List Char :=
  List.replicate ((3 - bytes.length % 3) % 3) '='

def encode (bytes : List UInt8) : String :=
  String.ofList ((sextets bytes).map digit ++ padding bytes)

def decode (text : String) : List UInt8 :=
  bytesOf (text.toList.filterMap value)

theorem value_digit {sextet : Nat} (small : sextet < 64) : value (digit sextet) = some sextet := by
  have all : ∀ sextet < 64, value (digit sextet) = some sextet := by
    decide +kernel
  exact all sextet small

theorem sextets_lt (bytes : List UInt8) : ∀ sextet ∈ sextets bytes, sextet < 64 := by
  induction bytes using sextets.induct with
  | case1 => simp [sextets]
  | case2 first =>
      have bound := first.toNat_lt
      simp only [sextets, List.forall_mem_cons, List.not_mem_nil, false_implies,
        implies_true, and_true]
      omega
  | case3 first second =>
      have bounds := And.intro first.toNat_lt second.toNat_lt
      simp only [sextets, List.forall_mem_cons, List.not_mem_nil, false_implies,
        implies_true, and_true]
      omega
  | case4 first second third rest ih =>
      have bounds := And.intro first.toNat_lt (And.intro second.toNat_lt third.toNat_lt)
      simp only [sextets, List.forall_mem_cons]
      refine ⟨?_, ?_, ?_, ?_, ih⟩
      all_goals omega

/-- What a byte is made of again. -/
theorem ofNat_eq {byte : UInt8} {number : Nat} (same : number = byte.toNat) :
    UInt8.ofNat number = byte := by
  rw [same, UInt8.ofNat_toNat]

theorem bytesOf_sextets (bytes : List UInt8) : bytesOf (sextets bytes) = bytes := by
  induction bytes using sextets.induct with
  | case1 => rfl
  | case2 first =>
      have bound := first.toNat_lt
      simp only [sextets, bytesOf]
      rw [@ofNat_eq first _ (by omega)]
  | case3 first second =>
      have bounds := And.intro first.toNat_lt second.toNat_lt
      simp only [sextets, bytesOf]
      rw [@ofNat_eq first _ (by omega), @ofNat_eq second _ (by omega)]
  | case4 first second third rest ih =>
      have bounds := And.intro first.toNat_lt (And.intro second.toNat_lt third.toNat_lt)
      simp only [sextets, bytesOf]
      rw [@ofNat_eq first _ (by omega), @ofNat_eq second _ (by omega),
        @ofNat_eq third _ (by omega), ih]

/-- The text of some bytes is read as the bytes. -/
theorem decode_encode (bytes : List UInt8) : decode (encode bytes) = bytes := by
  have digits : ((sextets bytes).map digit).filterMap value = sextets bytes := by
    rw [List.filterMap_map]
    have same : ∀ sextet ∈ sextets bytes, (value ∘ digit) sextet = some sextet :=
      fun sextet present => value_digit (sextets_lt bytes sextet present)
    rw [List.filterMap_congr same, List.filterMap_some]
  have skipped : (padding bytes).filterMap value = [] := by
    apply List.filterMap_eq_nil_iff.mpr
    intro character present
    rw [List.eq_of_mem_replicate present]
    rfl
  rw [decode, encode, String.toList_ofList, List.filterMap_append, digits, skipped,
    List.append_nil, bytesOf_sextets]

theorem encode_injective : Function.Injective encode :=
  Function.LeftInverse.injective decode_encode

/-- Only no bytes at all have the empty text. -/
theorem encode_eq_empty_iff {bytes : List UInt8} : encode bytes = "" ↔ bytes = [] := by
  have nothing : encode [] = "" := rfl
  rw [← nothing]
  exact encode_injective.eq_iff

example : encode [77, 97, 110, 33] = "TWFuIQ==" := by decide

end Base64Texts
