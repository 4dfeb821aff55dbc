import VCardEmul.Rsa.Agreement
import VCardEmul.Rsa.Memo

/-!
# The fallback after a choked raw attempt

Some tokens claim `CKM_RSA_X_509` and then fail the raw operation. For a key
whose `failedX509` is still `VCardEmulUnknown`, `vcard_emul_rsa_op` then goes on
to the emulation, meaning to treat the token as one that never claimed the
mechanism. It goes on with the value the failed `PK11_PrivDecryptRaw` left in
`signature_len`, and that value becomes the output capacity `signature.len` of
the emulated `PK11_Sign`. `PK11_PrivDecryptPKCS1` writes `signature_len` before it
is read again, so only the signature path can tell the two slots apart.
-/

namespace VCardEmul

/-- What the caller of two calls can observe of them is the same: status, buffer
and key. -/
def SameOutcome (first second : RsaResult) : Prop :=
  first.status = second.status ∧ first.buffer = second.buffer ∧ first.key = second.key

/-- After a choked raw attempt on a key that never succeeded with it, the call is
the emulation of an unadvertising slot, whenever the failed call leaves
`signature_len` at the signature length or the buffer does not look like a
type-1 block. -/
theorem vcardEmulRsaOp_fallback_agrees {privateKey : PrivateKey} {key : VCardKey} {buffer : Bytes}
    {error : SecError} {left : Nat} (unknown : key.failedX509 = .vcardEmulUnknown)
    (choked : privateKey.privDecryptRaw buffer privateKey.signatureLen = .error (error, left))
    (unharmed : left = privateKey.signatureLen ∨ ¬ looksLikeTypeOne buffer) :
    SameOutcome (vcardEmulRsaOp true ⟨some privateKey, true⟩ (some key) buffer)
      (vcardEmulRsaOp true ⟨some privateKey, false⟩ (some key) buffer) := by
  by_cases sized : buffer.length = privateKey.signatureLen
  · have sameEmulation : rsaEmulate privateKey key buffer left =
        rsaEmulate privateKey key buffer privateKey.signatureLen := by
      rcases unharmed with rfl | notTypeOne
      · rfl
      · exact rsaEmulate_of_not_looksLikeTypeOne notTypeOne _ _
    rw [vcardEmulRsaOp_of_checks _ _ _ rfl sized, vcardEmulRsaOp_of_checks _ _ _ rfl sized]
    simp [SameOutcome, rsaRawStage, unknown, choked, sameEmulation]
  · simp [SameOutcome, vcardEmulRsaOp, sized]

/-- A token that leaves `signature_len` at its maximum when raw decryption fails. -/
theorem vcardEmulRsaOp_fallback_agrees_identity :
    (vcardEmulMakeKey 0 []).failedX509 = .vcardEmulUnknown ∧
    SameOutcome
      (vcardEmulRsaOp true ⟨some { rawRsaKey id 12 with
        privDecryptRaw := fun _ maxLen => .error (.pkcs11GeneralError, maxLen) }, true⟩
        (some (vcardEmulMakeKey 0 [])) (pkcs1Type1Block 12 [7]))
      (vcardEmulRsaOp true ⟨some { rawRsaKey id 12 with
        privDecryptRaw := fun _ maxLen => .error (.pkcs11GeneralError, maxLen) }, false⟩
        (some (vcardEmulMakeKey 0 [])) (pkcs1Type1Block 12 [7])) :=
  ⟨rfl, vcardEmulRsaOp_fallback_agrees rfl rfl (.inl rfl)⟩

/-- The honest raw-RSA key of `rawRsaKey` on a token whose raw decryption answers
with `privDecryptRaw` instead. -/
def chokingKey (raw : Bytes → Bytes) (n : Nat)
    (privDecryptRaw : Bytes → Nat → Except (SecError × Nat) Bytes) : PrivateKey :=
  { rawRsaKey raw n with privDecryptRaw := privDecryptRaw }

/-- A token that claims `CKM_RSA_X_509`, chokes on a conforming type-1 block and
leaves less than the signature length in `signature_len` gets an emulated
`PK11_Sign` with too small a capacity. The call fails with
`VCARD7816_STATUS_ERROR_DATA_INVALID` and the key stays as it was, where the same
call on a slot without the mechanism signs and marks the key `VCardEmulTrue`. -/
theorem vcardEmulRsaOp_fallback_short_capacity {raw : Bytes → Bytes} {n : Nat}
    {choke : Bytes → Nat → Except (SecError × Nat) Bytes} {key : VCardKey} {digest : Bytes}
    {error : SecError} {left : Nat} (unknown : key.failedX509 = .vcardEmulUnknown)
    (conforming : digest.length + 11 ≤ n)
    (choked : choke (pkcs1Type1Block n digest) n = .error (error, left)) (short : left < n) :
    (vcardEmulRsaOp true ⟨some (chokingKey raw n choke), true⟩ (some key)
      (pkcs1Type1Block n digest)).status = .errorDataInvalid ∧
    (vcardEmulRsaOp true ⟨some (chokingKey raw n choke), true⟩ (some key)
      (pkcs1Type1Block n digest)).key = some key ∧
    (vcardEmulRsaOp true ⟨some (chokingKey raw n choke), false⟩ (some key)
      (pkcs1Type1Block n digest)).status = .success ∧
    (vcardEmulRsaOp true ⟨some (chokingKey raw n choke), false⟩ (some key)
      (pkcs1Type1Block n digest)).key = some (key.withFailedX509 .vcardEmulTrue) := by
  have typeOne : looksLikeTypeOne (pkcs1Type1Block n digest) := (looksLikeTypeOne_block _ digest).1
  have hash : typeOneHash (pkcs1Type1Block n digest) = digest := (looksLikeTypeOne_block _ digest).2.2
  have room : ¬ n < n := Nat.lt_irrefl n
  have sized : (pkcs1Type1Block n digest).length = (chokingKey raw n choke).signatureLen :=
    length_pkcs1Type1Block conforming
  rw [vcardEmulRsaOp_of_checks _ _ _ rfl sized, vcardEmulRsaOp_of_checks _ _ _ rfl sized]
  simp [rsaRawStage, chokingKey, unknown, choked, rsaEmulate, typeOne, rsaSignStage, hash, rawRsaKey,
    short, room, conforming, vcardEmulMapError]

/-- `smallRsaKey` on a token that fails every raw decryption and leaves zero in
the output length, signing the five-byte digest `01 02 03 04 05`. -/
theorem smallRsaKey_fallback_short_capacity :
    (vcardEmulRsaOp true ⟨some (chokingKey smallRsaKey.rsaPrivate 16
      fun _ _ => .error (.pkcs11GeneralError, 0)), true⟩ (some (vcardEmulMakeKey 0 []))
      (pkcs1Type1Block 16 [1, 2, 3, 4, 5])).status = .errorDataInvalid ∧
    (vcardEmulRsaOp true ⟨some (chokingKey smallRsaKey.rsaPrivate 16
      fun _ _ => .error (.pkcs11GeneralError, 0)), false⟩ (some (vcardEmulMakeKey 0 []))
      (pkcs1Type1Block 16 [1, 2, 3, 4, 5])).status = .success :=
  have diverges := @vcardEmulRsaOp_fallback_short_capacity smallRsaKey.rsaPrivate 16 _
    (vcardEmulMakeKey 0 []) [1, 2, 3, 4, 5] _ _ rfl (by decide) rfl (by decide)
  ⟨diverges.1, diverges.2.2.1⟩

end VCardEmul
