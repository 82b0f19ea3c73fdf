import SpareSpace.Base64Texts
import SpareSpace.TwoFactorService

/-!
# How a second factor's secret is stored

The secret is encrypted with AES-256-GCM under the key of the service.  The initialization
vector, the authentication tag and the ciphertext are stored behind one another in one
Base64 text, from which decryption cuts them out again.  The cipher itself is an argument.
-/

namespace SpareSpace

open Base64Texts

/-- `aes-256-gcm` under one key: what is sealed with a vector of twelve bytes gets a tag of
sixteen, and only what was sealed so is opened. -/
structure GcmCipher where
  /-- The ciphertext and the tag. -/
  sealBytes : (iv plaintext : List UInt8) → List UInt8 × List UInt8
  openBytes : (iv authTag encrypted : List UInt8) → Option (List UInt8)
  tag_length : ∀ iv plaintext, (sealBytes iv plaintext).2.length = 16
  openBytes_iff : ∀ iv authTag encrypted plaintext, iv.length = 12 → authTag.length = 16 →
    (openBytes iv authTag encrypted = some plaintext ↔
      sealBytes iv plaintext = (encrypted, authTag))

/-- What `randomBytes(12)` gives. -/
structure InitVector where
  bytes : List UInt8
  length : bytes.length = 12

namespace TwoFactorService

/-- `cipher.update(text, 'utf8')` reads the text so. -/
def utf8 (text : String) : List UInt8 :=
  text.toUTF8.data.toList

/-- `toString('utf8')`, with `none` for bytes that are no text. -/
def ofUtf8 (bytes : List UInt8) : Option String :=
  String.fromUTF8? ⟨bytes.toArray⟩

variable (cipher : GcmCipher)

def encrypt (iv : InitVector) (text : String) : String :=
  let (encrypted, authTag) := cipher.sealBytes iv.bytes (utf8 text)
  encode (iv.bytes ++ authTag ++ encrypted)

/-- `none` stands for the exception about invalid encrypted data. -/
def decrypt (encryptedData : String) : Option String :=
  let buffer := decode encryptedData
  let iv := buffer.take 12
  let authTag := (buffer.drop 12).take 16
  let encrypted := buffer.drop 28
  (cipher.openBytes iv authTag encrypted).bind ofUtf8

theorem ofUtf8_utf8 (text : String) : ofUtf8 (utf8 text) = some text := by
  have valid : text.toUTF8.IsValidUTF8 := text.isValidUTF8
  have same : (⟨text.toUTF8.data.toList.toArray⟩ : ByteArray) = text.toUTF8 := by
    rw [Array.toArray_toList]
  unfold ofUtf8 utf8
  rw [same, String.fromUTF8?, dif_pos valid]
  rfl

variable {cipher}

/-- The pieces of what is stored. -/
theorem pieces (iv : InitVector) {authTag : List UInt8} (length : authTag.length = 16)
    (encrypted : List UInt8) :
    (iv.bytes ++ authTag ++ encrypted).take 12 = iv.bytes ∧
      ((iv.bytes ++ authTag ++ encrypted).drop 12).take 16 = authTag ∧
        (iv.bytes ++ authTag ++ encrypted).drop 28 = encrypted := by
  have ivLength := iv.length
  refine ⟨?_, ?_, ?_⟩
  · rw [List.append_assoc, List.take_left' ivLength]
  · rw [List.append_assoc, List.drop_left' ivLength, List.take_left' length]
  · rw [List.drop_left' (by rw [List.length_append, ivLength, length])]

theorem decrypt_encrypt (iv : InitVector) (text : String) :
    decrypt cipher (encrypt cipher iv text) = some text := by
  obtain ⟨vector, tag, rest⟩ := pieces iv (cipher.tag_length iv.bytes (utf8 text))
    (cipher.sealBytes iv.bytes (utf8 text)).1
  have opened : cipher.openBytes iv.bytes (cipher.sealBytes iv.bytes (utf8 text)).2
      (cipher.sealBytes iv.bytes (utf8 text)).1 = some (utf8 text) :=
    (cipher.openBytes_iff _ _ _ _ iv.length (cipher.tag_length _ _)).mpr rfl
  simp only [decrypt, encrypt, decode_encode, vector, tag, rest, opened, Option.bind_some,
    ofUtf8_utf8]

/-- An encrypted text is not empty. -/
theorem encrypt_ne_empty (iv : InitVector) (text : String) : encrypt cipher iv text ≠ "" := by
  intro empty
  have nothing := congrArg List.length (encode_eq_empty_iff.mp empty)
  rw [List.length_append, List.length_append, iv.length] at nothing
  simp at nothing

end TwoFactorService

/-- A cipher that hides nothing, to compute with. -/
def GcmCipher.plain : GcmCipher where
  sealBytes _ plaintext := (plaintext, List.replicate 16 0)
  openBytes _ authTag encrypted :=
    if authTag = List.replicate 16 0 then some encrypted else none
  tag_length _ _ := by simp
  openBytes_iff iv authTag encrypted plaintext _ _ := by
    rw [Prod.mk.injEq]
    split
    · next zero =>
        rw [zero, Option.some.injEq, eq_comm]
        exact (and_iff_left rfl).symm
    · next other => exact iff_of_false (Option.some_ne_none _).symm fun same => other same.2.symm

/-- The library functions of authentication with this encryption; a vector is drawn by its
name. -/
def Crypto.sealing (library : Crypto) (cipher : GcmCipher) (ivOf : String → InitVector) :
    Crypto where
  hmac := library.hmac
  bcryptHash := library.bcryptHash
  bcryptCompare := library.bcryptCompare
  encrypt iv text := TwoFactorService.encrypt cipher (ivOf iv) text
  decrypt := TwoFactorService.decrypt cipher
  totpVerify := library.totpVerify

/-- An encrypted text is not empty, and is decrypted to what it was. -/
def Crypto.Recovers (crypto : Crypto) : Prop :=
  ∀ iv text, crypto.encrypt iv text ≠ "" ∧ crypto.decrypt (crypto.encrypt iv text) = some text

theorem Crypto.sealing_recovers (library : Crypto) (cipher : GcmCipher)
    (ivOf : String → InitVector) : (library.sealing cipher ivOf).Recovers := by
  intro iv text
  constructor
  · apply TwoFactorService.encrypt_ne_empty
  · apply TwoFactorService.decrypt_encrypt

end SpareSpace
