import VCardEmul.Rsa.RawRsa

/-!
# The bytes of the caller's buffer an RSA operation touches

`vcard_emul_rsa_op` checks that the buffer has the key's signature length `n`
and then works on the buffer in place. With a provider that keeps its contract
(a raw decrypt and a signature that succeed are `n` bytes long) every store is
below `n`: the copy of the raw result or of the signature covers `[0, n)`, and
the guard `pad_len >= 4` of the type-2 rebuild keeps the offsets `n - L - 3`,
`n - L - 1` and `n - L` in range for every recovered length `L`, whatever
`PK11_PrivDecryptPKCS1` returns.

The type-1 test has no guard: it reads `buffer[0]`, and `buffer[1]` after a
zero first byte, before it knows the buffer is that long. Every index the call
touches is below `max n 2` (`vcardEmulRsaOp_touched_lt`), and a key whose
signature length is 0 or 1 makes the emulation read one byte past the buffer
(`vcardEmulRsaOp_reads_past_short_buffer`).
-/

namespace VCardEmul

/-- What a provider promises for a private key: a raw decrypt and a signature
that succeed give `PK11_SignatureLen` bytes. -/
structure PrivateKey.WithinContract (privateKey : PrivateKey) : Prop where
  raw : ∀ input capacity output, privateKey.privDecryptRaw input capacity = .ok output →
    output.length = privateKey.signatureLen
  sign : ∀ hash capacity signature, privateKey.sign hash capacity = .ok signature →
    signature.length = privateKey.signatureLen

/-- The honest raw-RSA provider keeps the contract when the permutation keeps
blocks at `n` bytes. -/
theorem rawRsaKey_withinContract {raw : Bytes → Bytes} {n : Nat}
    (blockLength : ∀ block : Bytes, block.length = n → (raw block).length = n) :
    (rawRsaKey raw n).WithinContract where
  raw input capacity output answered := by
    simp only [rawRsaKey] at answered
    split at answered
    · next sized =>
      cases answered
      exact blockLength input sized.1
    · cases answered
  sign digest capacity signature answered := by
    simp only [rawRsaKey] at answered
    split at answered
    · cases answered
    · split at answered
      · next conforming =>
        cases answered
        exact blockLength _ (length_pkcs1Type1Block conforming)
      · cases answered

/-! ## The emulation -/

/-- The type-1 scan stops within the buffer, or at index 2 of a shorter one. -/
theorem typeOneScanEnd_le (buffer : Bytes) : typeOneScanEnd buffer ≤ max buffer.length 2 := by
  have := (@List.takeWhile_prefix _ (buffer.drop 2) (· == 0xFF)).length_le
  rw [typeOneScanEnd, ffScan_eq]
  simp only [List.length_drop] at this
  omega

/-- The type-1 test reads below the buffer's length, or one of the two header bytes. -/
theorem typeOneReads_lt {buffer : Bytes} {i : Nat} (read : i ∈ typeOneReads buffer) : i < max buffer.length 2 := by
  have scanEnd := typeOneScanEnd_le buffer
  unfold typeOneReads at read
  split_ifs at read <;>
    simp only [List.mem_cons, List.mem_append, List.mem_range'_1, List.mem_singleton, List.not_mem_nil,
      or_false] at read <;>
    omega

/-- The stores of the type-2 rebuild stay below `n` when `pad_len = n - L` is at least 4. -/
theorem rebuildType2Writes_lt {payload : Bytes} {n i : Nat} (roomy : payload.length + 4 ≤ n)
    (written : i ∈ rebuildType2Writes payload (n - payload.length)) : i < n := by
  simp only [rebuildType2Writes, List.mem_append, List.mem_cons, List.mem_range'_1, List.not_mem_nil,
    or_false] at written
  omega

/-- The emulation touches the buffer below `max n 2` when a signature is never
longer than the buffer. -/
theorem rsaEmulate_touched_lt {privateKey : PrivateKey} {key : VCardKey} {buffer : Bytes} {signatureLen : Nat}
    (signs : ∀ hash capacity signature, privateKey.sign hash capacity = .ok signature →
      signature.length ≤ buffer.length) :
    ∀ i ∈ (rsaEmulate privateKey key buffer signatureLen).touched, i < max buffer.length 2 := by
  rcases rsaEmulate_cases privateKey key buffer signatureLen with
    ⟨-, _, -, result⟩ | ⟨-, signature, signed, result⟩ | ⟨-, _, -, result⟩ | ⟨-, _, -, -, result⟩ |
      ⟨-, payload, -, roomy, result⟩ <;> rw [result] <;> intro i touched
  · exact typeOneReads_lt touched
  · rcases List.mem_append.mp touched with read | written
    · exact typeOneReads_lt read
    · have := signs _ _ _ signed
      simp only [List.mem_range] at written
      omega
  · exact typeOneReads_lt touched
  · exact typeOneReads_lt touched
  · rcases List.mem_append.mp touched with read | written
    · exact typeOneReads_lt read
    · have := rebuildType2Writes_lt roomy written
      omega

/-- Every index the type-1 test reads is touched by the emulation, whichever way it goes. -/
theorem typeOneReads_touched (privateKey : PrivateKey) (key : VCardKey) (buffer : Bytes) (signatureLen : Nat) :
    ∀ i ∈ typeOneReads buffer, i ∈ (rsaEmulate privateKey key buffer signatureLen).touched := by
  rcases rsaEmulate_cases privateKey key buffer signatureLen with
    ⟨-, _, -, result⟩ | ⟨-, _, -, result⟩ | ⟨-, _, -, result⟩ | ⟨-, _, -, -, result⟩ |
      ⟨-, _, -, -, result⟩ <;> rw [result] <;> intro i read
  all_goals first | exact read | exact List.mem_append_left _ read

/-! ## The whole operation -/

/-- The raw stage touches the buffer below `max n 2` for a provider within its contract. -/
theorem rsaRawStage_touched_lt {privateKey : PrivateKey} (contract : privateKey.WithinContract)
    {doesMechanismX509 : Bool} {key : VCardKey} {buffer : Bytes} (sized : buffer.length = privateKey.signatureLen) :
    ∀ i ∈ (rsaRawStage privateKey doesMechanismX509 key buffer).touched, i < max buffer.length 2 := by
  have signs : ∀ hash capacity signature, privateKey.sign hash capacity = .ok signature →
      signature.length ≤ buffer.length := fun hash capacity signature signed =>
    ((contract.sign hash capacity signature signed).trans sized.symm).le
  rcases rsaRawStage_cases privateKey doesMechanismX509 key buffer with
    ⟨-, -, output, raw, result⟩ | ⟨-, -, _, _, -, result⟩ | ⟨-, -, _, _, -, result⟩ | ⟨-, result⟩ <;> rw [result]
  · intro i touched
    have := contract.raw _ _ _ raw
    simp only [List.mem_range] at touched
    omega
  · simp
  · simpa using rsaEmulate_touched_lt signs
  · exact rsaEmulate_touched_lt signs

/-- For a provider within its contract, every index of the caller's buffer that
`vcard_emul_rsa_op` reads or writes is below `max n 2`: below the buffer's
length `n` whenever `n` is at least 2. -/
theorem vcardEmulRsaOp_touched_lt {nssEmulInit : Bool} {provider : RsaProvider} {key : Option VCardKey}
    {buffer : Bytes} (contract : ∀ privateKey, provider.privateKey = some privateKey → privateKey.WithinContract) :
    ∀ i ∈ (vcardEmulRsaOp nssEmulInit provider key buffer).touched, i < max buffer.length 2 := by
  by_cases checks : RsaChecksPass nssEmulInit provider key buffer
  · obtain ⟨rfl, k, privateKey, rfl, found, sized⟩ := checks
    rw [vcardEmulRsaOp_of_checks provider k buffer found sized]
    exact rsaRawStage_touched_lt (contract privateKey found) sized
  · simp [(vcardEmulRsaOp_of_not_checks checks).2.2.2.2]

/-- An all-zero 16-byte buffer on a fresh key of the identity permutation, on a
slot without `CKM_RSA_X_509`. -/
theorem identityKey_touched_in_bounds :
    (∀ privateKey, (⟨some (rawRsaKey id 16), false⟩ : RsaProvider).privateKey = some privateKey →
      privateKey.WithinContract) ∧
      ∀ i ∈ (vcardEmulRsaOp true ⟨some (rawRsaKey id 16), false⟩ (some (vcardEmulMakeKey 0 []))
        (List.replicate 16 0)).touched, i < max (List.replicate 16 (0 : UInt8)).length 2 :=
  have contract : ∀ privateKey, (⟨some (rawRsaKey id 16), false⟩ : RsaProvider).privateKey = some privateKey →
      privateKey.WithinContract := fun _ found => Option.some.inj found ▸ rawRsaKey_withinContract fun _ => id
  ⟨contract, vcardEmulRsaOp_touched_lt contract⟩

/-- On a buffer of length 0, or of length 1 holding a zero byte, that passes the
length check and goes to the emulation, the type-1 test reads the index equal
to the buffer's length, one past its end, whatever the provider does. -/
theorem vcardEmulRsaOp_reads_past_short_buffer {provider : RsaProvider} {key : VCardKey} {buffer : Bytes}
    {privateKey : PrivateKey} (found : provider.privateKey = some privateKey)
    (sized : buffer.length = privateKey.signatureLen)
    (emulated : key.failedX509 = .vcardEmulTrue ∨ provider.doesMechanismX509 = false)
    (short : buffer = [] ∨ buffer = [0]) :
    buffer.length ∈ (vcardEmulRsaOp true provider (some key) buffer).touched := by
  have skipped : rsaRawStage privateKey provider.doesMechanismX509 key buffer =
      rsaEmulate privateKey key buffer privateKey.signatureLen := by
    rw [rsaRawStage, if_neg]
    rcases emulated with skip | skip <;> simp [skip]
  rw [vcardEmulRsaOp_of_checks provider key buffer found sized, skipped]
  exact typeOneReads_touched _ _ _ _ _ (by rcases short with rfl | rfl <;> decide)

/-- A key whose `PK11_SignatureLen` is 0 and whose operations all fail. -/
def zeroLengthKey : PrivateKey :=
  ⟨0, fun _ _ => .error (.pkcs11GeneralError, 0), fun _ _ => .error .pkcs11GeneralError,
    fun _ _ => .error .pkcs11GeneralError⟩

/-- On a slot without `CKM_RSA_X_509`, the empty buffer passes the length check
for this key, and the type-1 test reads `buffer[0]`. -/
theorem zeroLengthKey_reads_index_zero :
    zeroLengthKey.WithinContract ∧
      (⟨some zeroLengthKey, false⟩ : RsaProvider).privateKey = some zeroLengthKey ∧
      ([] : Bytes).length = zeroLengthKey.signatureLen ∧
      ((vcardEmulMakeKey 0 []).failedX509 = .vcardEmulTrue ∨
        (⟨some zeroLengthKey, false⟩ : RsaProvider).doesMechanismX509 = false) ∧
      (([] : Bytes) = [] ∨ ([] : Bytes) = [0]) ∧
      ([] : Bytes).length ∈ (vcardEmulRsaOp true ⟨some zeroLengthKey, false⟩ (some (vcardEmulMakeKey 0 [])) []).touched :=
  ⟨⟨(fun _ _ _ failed => by cases failed), (fun _ _ _ failed => by cases failed)⟩, rfl, rfl, .inr rfl, .inl rfl,
    vcardEmulRsaOp_reads_past_short_buffer rfl rfl (.inr rfl) (.inl rfl)⟩

end VCardEmul
