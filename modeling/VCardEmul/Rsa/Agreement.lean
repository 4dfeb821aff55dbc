import VCardEmul.Rsa.RawRsa

/-!
# The emulated operation against a real card

A card doing the raw operation answers `raw buffer`. The emulator reaches the
same bytes on the raw path and on the signature path, where the buffer is the
type-1 block of exactly the hash it hands to `PK11_Sign`; on the decryption path
it cannot recover the random padding and answers a type-2 block with the same
payload. `vcardEmulRsaOp_agrees_with_raw_rsa` says every successful call is one
of these three, against any provider whose answers are those of raw RSA.

The converse fails: a ciphertext whose own bytes read `00 01`, fewer than eight
`0xFF` and `00` is routed to `PK11_Sign`, which refuses it, and the decryption
fallback is never tried (`rsaEmulate_short_run_fails`); `smallRsaKey` is a real
key with such a ciphertext. Last, no failed call leaves a trace in the caller's
buffer or in the key (`vcardEmulRsaOp_frame_of_failure`).
-/

namespace VCardEmul

/-- The emulated ways of answering like a real card doing `raw`: on the signature
path the buffer is the type-1 block of the hash signed and the answer is
`raw buffer`; on the decryption path the answer is `00 02 03 .. 03 00 P` with `P`
the payload of `raw buffer`, which unpads to the same payload. -/
def EmulationAgrees (raw : Bytes → Bytes) (n : Nat) (buffer : Bytes) (result : RsaResult) : Prop :=
  (∃ digest capacity, buffer = pkcs1Type1Block n digest ∧
    ProviderCall.sign digest capacity true ∈ result.calls ∧ result.buffer = raw buffer) ∨
  (∃ payload, pkcs1Type2Payload (raw buffer) = some payload ∧ payload.length + 4 ≤ n ∧
    result.buffer = pkcs1Type2Block (List.replicate (n - payload.length - 3) 3) payload ∧
    pkcs1Type2Payload result.buffer = some payload)

/-- A result of `vcard_emul_rsa_op` on an `n`-byte buffer that answers like a real
card doing `raw`: by the raw operation itself, or by an emulation that agrees. -/
def AgreesWithRawRsa (raw : Bytes → Bytes) (n : Nat) (buffer : Bytes) (result : RsaResult) : Prop :=
  buffer.length = n ∧
    ((result.calls = [.privDecryptRaw true] ∧ result.buffer = raw buffer) ∨
      EmulationAgrees raw n buffer result)

theorem EmulationAgrees.afterCall {raw : Bytes → Bytes} {n : Nat} {buffer : Bytes} {result : RsaResult}
    (agrees : EmulationAgrees raw n buffer result) (call : ProviderCall) :
    EmulationAgrees raw n buffer (result.afterCall call) := by
  rcases agrees with ⟨digest, capacity, block, signed, answer⟩ | decrypted
  · exact .inl ⟨digest, capacity, block, List.mem_cons_of_mem _ signed, answer⟩
  · exact .inr decrypted

section RawRsaProvider

variable {raw : Bytes → Bytes} {n : Nat} {privateKey : PrivateKey}

/-- Every successful emulation against a raw-RSA provider agrees with the card. -/
theorem rsaEmulate_agrees (model : RealizesRawRsa raw n privateKey) {key : VCardKey}
    {buffer : Bytes} {signatureLen : Nat} (sized : buffer.length = n)
    (succeeded : (rsaEmulate privateKey key buffer signatureLen).status = .success) :
    EmulationAgrees raw n buffer (rsaEmulate privateKey key buffer signatureLen) := by
  rcases rsaEmulate_cases privateKey key buffer signatureLen with
    ⟨-, _, -, result⟩ | ⟨typeOne, signature, signed, result⟩ | ⟨-, _, -, result⟩ |
      ⟨-, _, -, -, result⟩ | ⟨-, payload, decrypted, roomy, result⟩ <;>
    rw [result] at succeeded ⊢ <;> try simp at succeeded
  · have block : buffer = pkcs1Type1Block n (typeOneHash buffer) :=
      sized ▸ eq_pkcs1Type1Block_of_looksLikeTypeOne typeOne
    have answer : signature = raw buffer := by
      rw [(model.sign _ _ _ signed).2, ← block]
    have sameLength : (raw buffer).length = buffer.length := (model.blockLength buffer sized).trans sized.symm
    refine .inl ⟨typeOneHash buffer, signatureLen, block, List.mem_singleton_self _, ?_⟩
    rw [answer, writeBytes_whole buffer _ sameLength]
  · have accepted := model.privDecryptPkcs1 _ _ _ decrypted
    have long := length_of_pkcs1Type2Payload accepted
    rw [model.blockLength buffer sized] at long
    refine .inr ⟨payload, accepted, sized ▸ roomy, ?_, ?_⟩ <;> rw [rsaRebuildType2_eq roomy, sized]
    exact pkcs1Type2Payload_rebuilt _ payload (by omega)

/-- Every successful raw stage against a raw-RSA provider agrees with the card. -/
theorem rsaRawStage_agrees (model : RealizesRawRsa raw n privateKey) {doesMechanismX509 : Bool}
    {key : VCardKey} {buffer : Bytes} (sized : buffer.length = n)
    (succeeded : (rsaRawStage privateKey doesMechanismX509 key buffer).status = .success) :
    AgreesWithRawRsa raw n buffer (rsaRawStage privateKey doesMechanismX509 key buffer) := by
  refine ⟨sized, ?_⟩
  rcases rsaRawStage_cases privateKey doesMechanismX509 key buffer with
    ⟨-, -, output, decrypted, result⟩ | ⟨-, -, _, _, -, result⟩ | ⟨-, -, _, _, -, result⟩ |
      ⟨-, result⟩ <;> rw [result] at succeeded ⊢
  · have answer : output = raw buffer := model.privDecryptRaw _ _ _ decrypted
    have sameLength : (raw buffer).length = buffer.length := (model.blockLength buffer sized).trans sized.symm
    exact .inl ⟨rfl, by rw [answer, writeBytes_whole buffer _ sameLength]⟩
  · simp at succeeded
  · exact .inr ((rsaEmulate_agrees model sized succeeded).afterCall _)
  · exact .inr (rsaEmulate_agrees model sized succeeded)

/-- A type-1-looking buffer whose `0xFF` run is shorter than eight bytes is
handed to `PK11_Sign`, which refuses a digest that long, so the emulation fails
whatever `raw buffer` is. -/
theorem rsaEmulate_short_run_fails (model : RealizesRawRsa raw n privateKey) (key : VCardKey)
    (signatureLen run : Nat) (hash : Bytes) (short : run < 8)
    (sized : ([0, 1] ++ List.replicate run 0xFF ++ 0 :: hash).length = n) :
    (rsaEmulate privateKey key ([0, 1] ++ List.replicate run 0xFF ++ 0 :: hash) signatureLen).status ≠
      .success := by
  obtain ⟨typeOne, -, hashEq⟩ := looksLikeTypeOne_block run hash
  rcases rsaEmulate_cases privateKey key ([0, 1] ++ List.replicate run 0xFF ++ 0 :: hash) signatureLen with
    ⟨-, _, -, result⟩ | ⟨-, signature, signed, -⟩ | ⟨notTypeOne, -⟩ | ⟨notTypeOne, -⟩ | ⟨notTypeOne, -⟩
  · rw [result]
    simp
  · have tooLong := (model.sign _ _ _ signed).1
    simp only [hashEq, List.length_append, List.length_cons, List.length_replicate,
      List.length_nil] at tooLong sized
    omega
  all_goals exact absurd typeOne notTypeOne

end RawRsaProvider

/-- On the emulated path the honest raw-RSA provider answers every request whose
answer a client accepts, the type-1 look-alikes apart: a conforming type-1 block
is signed, and a buffer that fails the type-1 test and whose raw image is a
conforming type-2 block is decrypted. -/
theorem vcardEmulRsaOp_emulated_succeeds {raw : Bytes → Bytes} {n : Nat}
    (blockLength : ∀ block : Bytes, block.length = n → (raw block).length = n)
    {doesMechanismX509 : Bool} {key : VCardKey} {buffer : Bytes}
    (emulated : key.failedX509 = .vcardEmulTrue ∨ doesMechanismX509 = false)
    (sized : buffer.length = n)
    (accepted : (∃ digest : Bytes, digest.length + 11 ≤ n ∧ buffer = pkcs1Type1Block n digest) ∨
      (¬ looksLikeTypeOne buffer ∧ ∃ payload, pkcs1Type2Payload (raw buffer) = some payload)) :
    (vcardEmulRsaOp true ⟨some (rawRsaKey raw n), doesMechanismX509⟩ (some key) buffer).status =
      .success := by
  have skipsRaw : ¬ (key.failedX509 ≠ .vcardEmulTrue ∧ doesMechanismX509 = true) := by
    rcases emulated with emulated | emulated <;> simp [emulated]
  rw [vcardEmulRsaOp_of_checks _ _ _ rfl sized]
  simp only [rsaRawStage, skipsRaw, if_false]
  rcases accepted with ⟨digest, conforming, rfl⟩ | ⟨notTypeOne, payload, decrypted⟩
  · have typeOne : looksLikeTypeOne (pkcs1Type1Block n digest) := (looksLikeTypeOne_block _ digest).1
    have hash : typeOneHash (pkcs1Type1Block n digest) = digest := (looksLikeTypeOne_block _ digest).2.2
    simp [rsaEmulate, typeOne, rsaSignStage, hash, rawRsaKey, conforming]
  · have long := length_of_pkcs1Type2Payload decrypted
    rw [blockLength buffer sized] at long
    have roomy : ¬ ((n : Int) - payload.length < 4) := by omega
    simp [rsaEmulate, notTypeOne, rsaDecryptStage, rawRsaKey, decrypted, roomy, sized,
      show payload.length ≤ n by omega]

/-- The identity provider signs a conforming block on a slot without the mechanism. -/
theorem vcardEmulRsaOp_emulated_signs_identity :
    (vcardEmulRsaOp true ⟨some (rawRsaKey id 12), false⟩ (some (vcardEmulMakeKey 0 []))
      (pkcs1Type1Block 12 [7])).status = .success :=
  vcardEmulRsaOp_emulated_succeeds (fun _ sized => sized) (.inr rfl) rfl (.inl ⟨[7], by decide, rfl⟩)

/-- Every call of `vcard_emul_rsa_op` that succeeds against a provider doing raw
RSA on `n`-byte blocks leaves what a real card would: `raw buffer` on the raw and
signature paths, a type-2 block with the payload of `raw buffer` on the
decryption path. -/
theorem vcardEmulRsaOp_agrees_with_raw_rsa {raw : Bytes → Bytes} {n : Nat} {nssEmulInit : Bool}
    {provider : RsaProvider} {key : Option VCardKey} {buffer : Bytes}
    (realizes : ∀ privateKey, provider.privateKey = some privateKey → RealizesRawRsa raw n privateKey)
    (succeeded : (vcardEmulRsaOp nssEmulInit provider key buffer).status = .success) :
    AgreesWithRawRsa raw n buffer (vcardEmulRsaOp nssEmulInit provider key buffer) := by
  by_cases checks : RsaChecksPass nssEmulInit provider key buffer
  · obtain ⟨rfl, k, privateKey, rfl, found, sized⟩ := checks
    have model := realizes privateKey found
    rw [vcardEmulRsaOp_of_checks provider k buffer found sized] at succeeded ⊢
    exact rsaRawStage_agrees model (sized.trans model.signatureLen) succeeded
  · exact absurd succeeded (vcardEmulRsaOp_of_not_checks checks).1

/-- A signature request on a 12-byte key of the identity provider succeeds and agrees. -/
theorem vcardEmulRsaOp_agrees_identity_signature :
    (vcardEmulRsaOp true ⟨some (rawRsaKey id 12), false⟩ (some (vcardEmulMakeKey 0 []))
        (pkcs1Type1Block 12 [7])).status = .success ∧
      AgreesWithRawRsa id 12 (pkcs1Type1Block 12 [7])
        (vcardEmulRsaOp true ⟨some (rawRsaKey id 12), false⟩ (some (vcardEmulMakeKey 0 []))
          (pkcs1Type1Block 12 [7])) :=
  have succeeded : (vcardEmulRsaOp true ⟨some (rawRsaKey id 12), false⟩ (some (vcardEmulMakeKey 0 []))
      (pkcs1Type1Block 12 [7])).status = .success := by decide
  ⟨succeeded, vcardEmulRsaOp_agrees_with_raw_rsa
    (fun _ found => Option.some.inj found ▸ rawRsaKey_realizes (fun _ sized => sized)) succeeded⟩

/-- No call that fails leaves a trace: the caller's buffer and the key, with its
`failedX509`, are as before the call. -/
theorem vcardEmulRsaOp_frame_of_failure (nssEmulInit : Bool) (provider : RsaProvider)
    (key : Option VCardKey) (buffer : Bytes)
    (failed : (vcardEmulRsaOp nssEmulInit provider key buffer).status ≠ .success) :
    (vcardEmulRsaOp nssEmulInit provider key buffer).buffer = buffer ∧
      (vcardEmulRsaOp nssEmulInit provider key buffer).key = key := by
  by_cases checks : RsaChecksPass nssEmulInit provider key buffer
  · obtain ⟨rfl, k, privateKey, rfl, found, sized⟩ := checks
    rw [vcardEmulRsaOp_of_checks provider k buffer found sized] at failed ⊢
    exact rsaRawStage_frame failed
  · obtain ⟨-, unchangedBuffer, unchangedKey, -⟩ := vcardEmulRsaOp_of_not_checks checks
    exact ⟨unchangedBuffer, unchangedKey⟩

/-- A call whose raw attempt fails on a key that once succeeded with it returns
the mapped error and leaves buffer and key alone. -/
theorem vcardEmulRsaOp_frame_raw_failure :
    (vcardEmulRsaOp true ⟨some { rawRsaKey id 3 with privDecryptRaw := fun _ _ => .error (.badData, 0) },
        true⟩ (some ⟨[], 0, .vcardEmulFalse⟩) [1, 2, 3]).status ≠ .success ∧
      (vcardEmulRsaOp true ⟨some { rawRsaKey id 3 with privDecryptRaw := fun _ _ => .error (.badData, 0) },
        true⟩ (some ⟨[], 0, .vcardEmulFalse⟩) [1, 2, 3]).buffer = [1, 2, 3] ∧
      (vcardEmulRsaOp true ⟨some { rawRsaKey id 3 with privDecryptRaw := fun _ _ => .error (.badData, 0) },
        true⟩ (some ⟨[], 0, .vcardEmulFalse⟩) [1, 2, 3]).key = some ⟨[], 0, .vcardEmulFalse⟩ :=
  have failed : (vcardEmulRsaOp true ⟨some { rawRsaKey id 3 with privDecryptRaw := fun _ _ => .error (.badData, 0) },
      true⟩ (some ⟨[], 0, .vcardEmulFalse⟩) [1, 2, 3]).status ≠ .success := by decide
  ⟨failed, vcardEmulRsaOp_frame_of_failure _ _ _ _ failed⟩

/-! ## A ciphertext the emulator cannot decrypt -/

/-- A 121-bit RSA key on 16-byte blocks: modulus
`1225745701036883701 * 1749934684994715139`, public exponent 65537. -/
def smallRsaKey : RsaKeyPair where
  modulus := 2144974917227605357039741698767049439
  publicExponent := 65537
  privateExponent := 1593978491826278834149074782990401073
  blockLength := 16
  exponentBits := 128

/-- A ciphertext of `smallRsaKey` whose bytes read `00 01 00 ..`. -/
def shortRunCiphertext : Bytes :=
  [0, 1, 0, 68, 225, 142, 105, 28, 13, 44, 208, 248, 31, 218, 26, 130]

set_option maxRecDepth 4000 in
/-- `shortRunCiphertext` encrypts the conforming type-2 block with payload
`48 69 21 0a`, yet on the emulated path the call fails. -/
theorem shortRunCiphertext_not_decrypted :
    smallRsaKey.modulus = 1225745701036883701 * 1749934684994715139 ∧
    smallRsaKey.publicExponent * smallRsaKey.privateExponent %
      ((1225745701036883701 - 1) * (1749934684994715139 - 1)) = 1 ∧
    smallRsaKey.rsaPublic (smallRsaKey.rsaPrivate shortRunCiphertext) = shortRunCiphertext ∧
    pkcs1Type2Payload (smallRsaKey.rsaPrivate shortRunCiphertext) = some [0x48, 0x69, 0x21, 0x0a] ∧
    (vcardEmulRsaOp true ⟨some (rawRsaKey smallRsaKey.rsaPrivate 16), false⟩
      (some (vcardEmulMakeKey 0 [])) shortRunCiphertext).status ≠ .success := by
  refine ⟨by decide, by decide, by decide, by decide, ?_⟩
  rw [vcardEmulRsaOp_of_checks _ _ _ rfl rfl]
  simp only [rsaRawStage, Bool.false_eq_true, and_false, if_false]
  exact rsaEmulate_short_run_fails (rawRsaKey_realizes fun block _ => smallRsaKey.length_rsaPrivate block)
    _ _ 0 _ (by decide) rfl

end VCardEmul
