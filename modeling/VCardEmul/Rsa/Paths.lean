import VCardEmul.Rsa.Op

/-!
# The ways through `vcard_emul_rsa_op`

One inversion lemma per stage says everything the stage can do, guards
included: `rsaEmulate_cases` for the emulation and `rsaRawStage_cases` for the
raw attempt. Every later statement about the operation is read off these two and
the entry lemmas of `VCardEmul.Rsa.Op`, never by unfolding the code again.

The two byte-level facts the emulation rests on are here too: a buffer that
passes the type-1 test is the type-1 block of its own hash, and the stores of
the type-2 rebuild lay down exactly `00 02 03 .. 03 00 payload`.
-/

namespace VCardEmul

/-! ## The emulation -/

/-- The five exits of the emulation. -/
theorem rsaEmulate_cases (privateKey : PrivateKey) (key : VCardKey) (buffer : Bytes)
    (signatureLen : Nat) :
    (looksLikeTypeOne buffer ∧ ∃ error, privateKey.sign (typeOneHash buffer) signatureLen = .error error ∧
      rsaEmulate privateKey key buffer signatureLen =
        ⟨vcardEmulMapError error, buffer, some key, [.sign (typeOneHash buffer) signatureLen false],
          typeOneReads buffer⟩) ∨
    (looksLikeTypeOne buffer ∧ ∃ signature, privateKey.sign (typeOneHash buffer) signatureLen = .ok signature ∧
      rsaEmulate privateKey key buffer signatureLen =
        ⟨.success, writeBytes buffer 0 signature, some (key.withFailedX509 .vcardEmulTrue),
          [.sign (typeOneHash buffer) signatureLen true], typeOneReads buffer ++ List.range signature.length⟩) ∨
    (¬ looksLikeTypeOne buffer ∧ ∃ error, privateKey.privDecryptPkcs1 buffer buffer.length = .error error ∧
      rsaEmulate privateKey key buffer signatureLen =
        ⟨vcardEmulMapError error, buffer, some key, [.privDecryptPkcs1 false], typeOneReads buffer⟩) ∨
    (¬ looksLikeTypeOne buffer ∧ ∃ payload, privateKey.privDecryptPkcs1 buffer buffer.length = .ok payload ∧
      buffer.length < payload.length + 4 ∧
      rsaEmulate privateKey key buffer signatureLen =
        ⟨.errorGeneral, buffer, some key, [.privDecryptPkcs1 true], typeOneReads buffer⟩) ∨
    (¬ looksLikeTypeOne buffer ∧ ∃ payload, privateKey.privDecryptPkcs1 buffer buffer.length = .ok payload ∧
      payload.length + 4 ≤ buffer.length ∧
      rsaEmulate privateKey key buffer signatureLen =
        ⟨.success, rsaRebuildType2 buffer payload (buffer.length - payload.length),
          some (key.withFailedX509 .vcardEmulTrue), [.privDecryptPkcs1 true],
          typeOneReads buffer ++ rebuildType2Writes payload (buffer.length - payload.length)⟩) := by
  by_cases typeOne : looksLikeTypeOne buffer
  · cases signed : privateKey.sign (typeOneHash buffer) signatureLen with
    | error error => exact .inl ⟨typeOne, error, rfl, by simp [rsaEmulate, typeOne, rsaSignStage, signed]⟩
    | ok signature =>
      exact .inr (.inl ⟨typeOne, signature, rfl, by simp [rsaEmulate, typeOne, rsaSignStage, signed]⟩)
  · refine .inr (.inr ?_)
    cases decrypted : privateKey.privDecryptPkcs1 buffer buffer.length with
    | error error => exact .inl ⟨typeOne, error, rfl, by simp [rsaEmulate, typeOne, rsaDecryptStage, decrypted]⟩
    | ok payload =>
      by_cases roomy : payload.length + 4 ≤ buffer.length
      · have padLen : ((buffer.length : Int) - payload.length).toNat = buffer.length - payload.length := by
          omega
        refine .inr (.inr ⟨typeOne, payload, rfl, roomy, ?_⟩)
        simp only [rsaEmulate, typeOne, if_false, rsaDecryptStage, decrypted, padLen]
        rw [if_neg (by omega)]
      · refine .inr (.inl ⟨typeOne, payload, rfl, by omega, ?_⟩)
        simp only [rsaEmulate, typeOne, if_false, rsaDecryptStage, decrypted]
        rw [if_pos (by omega)]

/-- An emulation that does not succeed leaves the buffer and the key as they were. -/
theorem rsaEmulate_frame {privateKey : PrivateKey} {key : VCardKey} {buffer : Bytes}
    {signatureLen : Nat} (failed : (rsaEmulate privateKey key buffer signatureLen).status ≠ .success) :
    (rsaEmulate privateKey key buffer signatureLen).buffer = buffer ∧
      (rsaEmulate privateKey key buffer signatureLen).key = some key := by
  rcases rsaEmulate_cases privateKey key buffer signatureLen with
    ⟨-, _, -, result⟩ | ⟨-, _, -, result⟩ | ⟨-, _, -, result⟩ | ⟨-, _, -, -, result⟩ |
      ⟨-, _, -, -, result⟩ <;> rw [result] at failed ⊢ <;> simp_all

/-- What an emulation leaves in the key: nothing new unless it succeeds through
`PK11_Sign` or `PK11_PrivDecryptPKCS1`, and then `VCardEmulTrue`. -/
theorem rsaEmulate_key (privateKey : PrivateKey) (key : VCardKey) (buffer : Bytes)
    (signatureLen : Nat) :
    ∃ after, (rsaEmulate privateKey key buffer signatureLen).key = some (key.withFailedX509 after) ∧
      (after = key.failedX509 ∨
        (after = .vcardEmulTrue ∧ (rsaEmulate privateKey key buffer signatureLen).status = .success ∧
          ((∃ hash capacity, ProviderCall.sign hash capacity true ∈
              (rsaEmulate privateKey key buffer signatureLen).calls) ∨
            ProviderCall.privDecryptPkcs1 true ∈ (rsaEmulate privateKey key buffer signatureLen).calls))) := by
  rcases rsaEmulate_cases privateKey key buffer signatureLen with
    ⟨-, _, -, result⟩ | ⟨-, _, -, result⟩ | ⟨-, _, -, result⟩ | ⟨-, _, -, -, result⟩ |
      ⟨-, _, -, -, result⟩ <;> rw [result]
  · exact ⟨key.failedX509, by simp, .inl rfl⟩
  · exact ⟨.vcardEmulTrue, rfl, .inr ⟨rfl, rfl, .inl ⟨_, _, List.mem_singleton_self _⟩⟩⟩
  · exact ⟨key.failedX509, by simp, .inl rfl⟩
  · exact ⟨key.failedX509, by simp, .inl rfl⟩
  · exact ⟨.vcardEmulTrue, rfl, .inr ⟨rfl, rfl, .inr (List.mem_singleton_self _)⟩⟩

/-- The emulation never calls `PK11_PrivDecryptRaw`. -/
theorem rsaEmulate_no_raw_call (privateKey : PrivateKey) (key : VCardKey) (buffer : Bytes)
    (signatureLen : Nat) (succeeded : Bool) :
    ProviderCall.privDecryptRaw succeeded ∉ (rsaEmulate privateKey key buffer signatureLen).calls := by
  rcases rsaEmulate_cases privateKey key buffer signatureLen with
    ⟨-, _, -, result⟩ | ⟨-, _, -, result⟩ | ⟨-, _, -, result⟩ | ⟨-, _, -, -, result⟩ |
      ⟨-, _, -, -, result⟩ <;> rw [result] <;> simp

/-- The emulation reads `signature_len` only as the capacity handed to `PK11_Sign`. -/
theorem rsaEmulate_of_not_looksLikeTypeOne {privateKey : PrivateKey} {key : VCardKey}
    {buffer : Bytes} (notTypeOne : ¬ looksLikeTypeOne buffer) (first second : Nat) :
    rsaEmulate privateKey key buffer first = rsaEmulate privateKey key buffer second := by
  simp [rsaEmulate, notTypeOne]

/-! ## The raw attempt -/

/-- The four exits of the raw stage. -/
theorem rsaRawStage_cases (privateKey : PrivateKey) (doesMechanismX509 : Bool) (key : VCardKey)
    (buffer : Bytes) :
    (key.failedX509 ≠ .vcardEmulTrue ∧ doesMechanismX509 = true ∧ ∃ output,
      privateKey.privDecryptRaw buffer privateKey.signatureLen = .ok output ∧
      rsaRawStage privateKey doesMechanismX509 key buffer =
        ⟨.success, writeBytes buffer 0 output, some (key.withFailedX509 .vcardEmulFalse),
          [.privDecryptRaw true], List.range output.length⟩) ∨
    (key.failedX509 = .vcardEmulFalse ∧ doesMechanismX509 = true ∧ ∃ error signatureLen,
      privateKey.privDecryptRaw buffer privateKey.signatureLen = .error (error, signatureLen) ∧
      rsaRawStage privateKey doesMechanismX509 key buffer =
        ⟨vcardEmulMapError error, buffer, some key, [.privDecryptRaw false], []⟩) ∨
    (key.failedX509 = .vcardEmulUnknown ∧ doesMechanismX509 = true ∧ ∃ error signatureLen,
      privateKey.privDecryptRaw buffer privateKey.signatureLen = .error (error, signatureLen) ∧
      rsaRawStage privateKey doesMechanismX509 key buffer =
        (rsaEmulate privateKey key buffer signatureLen).afterCall (.privDecryptRaw false)) ∨
    ((key.failedX509 = .vcardEmulTrue ∨ doesMechanismX509 = false) ∧
      rsaRawStage privateKey doesMechanismX509 key buffer =
        rsaEmulate privateKey key buffer privateKey.signatureLen) := by
  by_cases attempted : key.failedX509 ≠ .vcardEmulTrue ∧ doesMechanismX509 = true
  · obtain ⟨notTrue, advertised⟩ := attempted
    cases raw : privateKey.privDecryptRaw buffer privateKey.signatureLen with
    | ok output => exact .inl ⟨notTrue, advertised, output, rfl, by simp [rsaRawStage, notTrue, advertised, raw]⟩
    | error failure =>
      obtain ⟨error, signatureLen⟩ := failure
      cases remembered : key.failedX509 with
      | vcardEmulTrue => exact absurd remembered notTrue
      | vcardEmulFalse =>
        exact .inr (.inl ⟨rfl, advertised, error, signatureLen, rfl,
          by simp [rsaRawStage, remembered, advertised, raw]⟩)
      | vcardEmulUnknown =>
        exact .inr (.inr (.inl ⟨rfl, advertised, error, signatureLen, rfl,
          by simp [rsaRawStage, remembered, advertised, raw]⟩))
  · refine .inr (.inr (.inr ⟨?_, by simp [rsaRawStage, attempted]⟩))
    cases doesMechanismX509 <;> simp_all

/-- A raw stage that does not succeed leaves the buffer and the key as they were. -/
theorem rsaRawStage_frame {privateKey : PrivateKey} {doesMechanismX509 : Bool} {key : VCardKey}
    {buffer : Bytes}
    (failed : (rsaRawStage privateKey doesMechanismX509 key buffer).status ≠ .success) :
    (rsaRawStage privateKey doesMechanismX509 key buffer).buffer = buffer ∧
      (rsaRawStage privateKey doesMechanismX509 key buffer).key = some key := by
  rcases rsaRawStage_cases privateKey doesMechanismX509 key buffer with
    ⟨-, -, _, -, result⟩ | ⟨-, -, _, _, -, result⟩ | ⟨-, -, _, _, -, result⟩ | ⟨-, result⟩ <;>
    rw [result] at failed ⊢
  · simp at failed
  · simp
  · simpa using rsaEmulate_frame (by simpa using failed)
  · exact rsaEmulate_frame failed

/-! ## Bytes of the emulation -/

theorem le_ffScan (bytes : Bytes) (i : Nat) : i ≤ ffScan bytes i := by
  rw [ffScan_eq]
  omega

/-- A buffer that passes the type-1 test is the type-1 block of its hash. -/
theorem eq_pkcs1Type1Block_of_looksLikeTypeOne {buffer : Bytes} (typeOne : looksLikeTypeOne buffer) :
    buffer = pkcs1Type1Block buffer.length (typeOneHash buffer) := by
  obtain ⟨first, second, -, stopsAtZero⟩ := typeOne
  rcases buffer with _ | ⟨byte0, _ | ⟨byte1, rest⟩⟩
  · cases first
  · cases second
  simp only [List.getElem?_cons_zero, List.getElem?_cons_succ, Option.some.injEq] at first second
  subst first second
  obtain ⟨run, scanEq⟩ : ∃ run, ffScan rest 2 = run + 2 := ⟨ffScan rest 2 - 2, by have := le_ffScan rest 2; omega⟩
  simp only [typeOneScanEnd, List.drop_succ_cons, List.drop_zero, scanEq,
    List.getElem?_cons_succ] at stopsAtZero
  have split : rest = List.replicate run 0xFF ++ 0 :: rest.drop (run + 1) := by
    simpa [scanEq] using @eq_of_ffScan_zero rest 2 (by rw [scanEq]; simpa using stopsAtZero)
  have bound : run < rest.length := (List.getElem?_eq_some_iff.mp stopsAtZero).1
  have hashEq : typeOneHash (0 :: 1 :: rest) = rest.drop (run + 1) := by
    simp [typeOneHash, typeOneScanEnd, scanEq]
  have runLength : (0 :: 1 :: rest).length - 3 - (rest.drop (run + 1)).length = run := by
    simp only [List.length_cons, List.length_drop]
    omega
  rw [hashEq, pkcs1Type1Block, runLength]
  conv_lhs => rw [split]
  rfl

/-- A run of `0xFF` between `00 01` and a zero byte passes the type-1 test, and
the hash is what follows the zero byte. -/
theorem looksLikeTypeOne_block (run : Nat) (hash : Bytes) :
    looksLikeTypeOne ([0, 1] ++ List.replicate run 0xFF ++ 0 :: hash) ∧
      typeOneScanEnd ([0, 1] ++ List.replicate run 0xFF ++ 0 :: hash) = run + 2 ∧
      typeOneHash ([0, 1] ++ List.replicate run 0xFF ++ 0 :: hash) = hash := by
  have scanEnd : typeOneScanEnd ([0, 1] ++ List.replicate run 0xFF ++ 0 :: hash) = run + 2 := by
    simp only [typeOneScanEnd, List.cons_append, List.nil_append, List.drop_succ_cons, List.drop_zero,
      ffScan_replicate_zero]
    omega
  have atZero : ([0, 1] ++ List.replicate run 0xFF ++ 0 :: hash)[run + 2]? = some 0 := by
    rw [List.getElem?_append_right (by simp)]
    simp
  refine ⟨⟨by simp, by simp, by rw [scanEnd]; simp, by rw [scanEnd]; exact atZero⟩, scanEnd, ?_⟩
  rw [typeOneHash, scanEnd]
  simp [List.drop_append_eq_append_drop]

/-- The stores of the type-2 rebuild lay down `00 02`, `0x03` filler, `00` and the payload. -/
theorem rsaRebuildType2_eq {buffer payload : Bytes} (roomy : payload.length + 4 ≤ buffer.length) :
    rsaRebuildType2 buffer payload (buffer.length - payload.length) =
      pkcs1Type2Block (List.replicate (buffer.length - payload.length - 3) 3) payload := by
  set filler := buffer.length - payload.length - 3 with fillerEq
  have first : writeBytes buffer 0 [0] = [0] ++ buffer.drop 1 :=
    @writeBytes_append_of_length [] _ _ _ rfl (by simp; omega)
  have second : writeBytes ([0] ++ buffer.drop 1) 1 [2] = [0, 2] ++ buffer.drop 2 := by
    rw [writeBytes_append_of_length (by simp) (by simp; omega)]
    simp
  have third : writeBytes ([0, 2] ++ buffer.drop 2) 2 (List.replicate filler 3) =
      [0, 2] ++ List.replicate filler 3 ++ buffer.drop (filler + 2) := by
    rw [writeBytes_append_of_length (by simp) (by simp; omega), List.drop_drop, List.length_replicate,
      Nat.add_comm]
  have fourth : writeBytes ([0, 2] ++ List.replicate filler 3 ++ buffer.drop (filler + 2))
      (filler + 2) [0] = [0, 2] ++ List.replicate filler 3 ++ [0] ++ buffer.drop (filler + 2 + 1) := by
    rw [writeBytes_append_of_length (by simp) (by simp; omega), List.drop_drop]
    rfl
  have fifth : writeBytes ([0, 2] ++ List.replicate filler 3 ++ [0] ++ buffer.drop (filler + 2 + 1))
      (filler + 2 + 1) payload = [0, 2] ++ List.replicate filler 3 ++ [0] ++ payload := by
    rw [writeBytes_append_of_length (by simp) (by simp; omega), List.drop_drop,
      List.drop_eq_nil_of_le (by omega), List.append_nil]
  simp only [rsaRebuildType2, ← fillerEq, first, second, third, fourth, fifth, pkcs1Type2Block]
  simp

/-- A rebuilt block with at least eight filler bytes is accepted by a client. -/
theorem pkcs1Type2Payload_rebuilt (filler : Nat) (payload : Bytes) (long : 8 ≤ filler) :
    pkcs1Type2Payload (pkcs1Type2Block (List.replicate filler 3) payload) = some payload :=
  (pkcs1Type2Payload_eq_some_iff _ _).mpr
    ⟨List.replicate filler 3, by simp [List.mem_replicate], by simpa using long, rfl⟩

end VCardEmul
