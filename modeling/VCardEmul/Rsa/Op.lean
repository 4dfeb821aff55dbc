import VCardEmul.Rsa.Block

/-!
# `vcard_emul_rsa_op`

The RSA private-key operation the card asks of a key, performed in place on the
caller's buffer. The provider enters as its answers: the private key it finds
for the key's certificate (`none` when the token is not logged in), whether the
card's slot advertises `CKM_RSA_X_509`, and the three operations of that private
key. A call returns the status word, the buffer as it leaves it, the key with its
`failedX509` memory, the provider operations it invoked in order, and the
indices of the caller's buffer the emulator itself read or wrote.

The code is cut at its `goto cleanup` boundaries: `rsaSignStage` and
`rsaDecryptStage` are the two ways out of `rsaEmulate`, the emulation that
starts at the PKCS #1 type-1 test, and `vcardEmulRsaOp` is the entry with its
checks and the raw attempt. The scratch buffer `bp` is the value a provider
operation returns; it reaches the caller's buffer only through `writeBytes`.
-/

namespace VCardEmul

/-- `VCardEmulTriState`: whether the raw operation is known to work for a key. -/
inductive VCardEmulTriState where
  | vcardEmulUnknown
  | vcardEmulFalse
  | vcardEmulTrue
  deriving DecidableEq, Repr

/-- `struct VCardKeyStruct`: the key's certificate (its DER bytes), its slot and
its memory of the raw operation. -/
structure VCardKey where
  cert : Bytes
  slot : Nat
  failedX509 : VCardEmulTriState
  deriving DecidableEq, Repr

/-- `vcard_emul_make_key`: a fresh key does not know yet whether the raw operation works. -/
def vcardEmulMakeKey (slot : Nat) (cert : Bytes) : VCardKey :=
  { cert := cert, slot := slot, failedX509 := .vcardEmulUnknown }

/-- A provider private key (`SECKEYPrivateKey`), given by its answers. -/
structure PrivateKey where
  /-- `PK11_SignatureLen`, as the unsigned `signature_len` holds it. -/
  signatureLen : Nat
  /-- `PK11_PrivDecryptRaw(key, bp, &len, maxLen, input, inputLen)` on the input
  and `maxLen`: the output, or the error with what the call left in `len`. -/
  privDecryptRaw : Bytes → Nat → Except (SecError × Nat) Bytes
  /-- `PK11_Sign(key, &signature, &hash)` on the hash and `signature.len`. -/
  sign : Bytes → Nat → Except SecError Bytes
  /-- `PK11_PrivDecryptPKCS1(key, bp, &len, maxLen, input, inputLen)` on the input and `maxLen`. -/
  privDecryptPkcs1 : Bytes → Nat → Except SecError Bytes

/-- The provider as one call of `vcard_emul_rsa_op` sees it. -/
structure RsaProvider where
  /-- `vcard_emul_get_nss_key`: `none` when the token is not logged in. -/
  privateKey : Option PrivateKey
  /-- `PK11_DoesMechanism(slot, CKM_RSA_X_509)` for the card's slot. -/
  doesMechanismX509 : Bool

/-- A provider operation invoked by the emulator, with the arguments that vary
and whether it succeeded. -/
inductive ProviderCall where
  | privDecryptRaw (succeeded : Bool)
  | sign (hash : Bytes) (signatureLen : Nat) (succeeded : Bool)
  | privDecryptPkcs1 (succeeded : Bool)
  deriving DecidableEq, Repr

/-- Everything a call of `vcard_emul_rsa_op` leaves behind. -/
structure RsaResult where
  status : Vcard7816Status
  buffer : Bytes
  key : Option VCardKey
  calls : List ProviderCall
  /-- Indices of the caller's buffer read or written by the emulator itself. -/
  touched : List Nat

/-- Record a provider call made before the rest of the call. -/
def RsaResult.afterCall (call : ProviderCall) (result : RsaResult) : RsaResult :=
  { result with calls := call :: result.calls }

@[simp] theorem RsaResult.afterCall_status (call : ProviderCall) (result : RsaResult) :
    (result.afterCall call).status = result.status := rfl

@[simp] theorem RsaResult.afterCall_buffer (call : ProviderCall) (result : RsaResult) :
    (result.afterCall call).buffer = result.buffer := rfl

@[simp] theorem RsaResult.afterCall_key (call : ProviderCall) (result : RsaResult) :
    (result.afterCall call).key = result.key := rfl

@[simp] theorem RsaResult.afterCall_calls (call : ProviderCall) (result : RsaResult) :
    (result.afterCall call).calls = call :: result.calls := rfl

@[simp] theorem RsaResult.afterCall_touched (call : ProviderCall) (result : RsaResult) :
    (result.afterCall call).touched = result.touched := rfl

/-- The key as the emulator leaves it after choosing a way to do the operation. -/
def VCardKey.withFailedX509 (key : VCardKey) (failedX509 : VCardEmulTriState) : VCardKey :=
  { key with failedX509 := failedX509 }

@[simp] theorem VCardKey.withFailedX509_failedX509 (key : VCardKey) (failedX509 : VCardEmulTriState) :
    (key.withFailedX509 failedX509).failedX509 = failedX509 := rfl

@[simp] theorem VCardKey.withFailedX509_self (key : VCardKey) :
    key.withFailedX509 key.failedX509 = key := rfl

/-- The index where the type-1 scan `for (i = 2; ...)` stops. -/
def typeOneScanEnd (buffer : Bytes) : Nat := ffScan (buffer.drop 2) 2

/-- The test `(buffer[0] == 0) && (buffer[1] == 1)` followed by the scan and
`(i < buffer_size) && (buffer[i] == 0)`: the buffer looks like a type-1 block. -/
def looksLikeTypeOne (buffer : Bytes) : Prop :=
  buffer[0]? = some 0 ∧ buffer[1]? = some 1 ∧ typeOneScanEnd buffer < buffer.length ∧
    buffer[typeOneScanEnd buffer]? = some 0

instance (buffer : Bytes) : Decidable (looksLikeTypeOne buffer) :=
  inferInstanceAs (Decidable (_ ∧ _ ∧ _ ∧ _))

/-- The indices the type-1 test reads: `buffer[0]`; `buffer[1]` when the first
byte is zero, or lies past the end of an empty buffer, where it may be zero; then
the scanned `0xFF` bytes and the byte the scan stopped on. -/
def typeOneReads (buffer : Bytes) : List Nat :=
  if buffer[0]?.getD 0 = 0 then
    if buffer[1]? = some 1 then
      0 :: 1 :: List.range' 2 (typeOneScanEnd buffer - 2) ++
        (if typeOneScanEnd buffer < buffer.length then [typeOneScanEnd buffer] else [])
    else [0, 1]
  else [0]

/-- The bytes after the separator, `hash.data = &buffer[i]` after `i++`. -/
def typeOneHash (buffer : Bytes) : Bytes := buffer.drop (typeOneScanEnd buffer + 1)

/-- Lines 327-348: sign the bytes after the separator and copy the signature back. -/
def rsaSignStage (privateKey : PrivateKey) (key : VCardKey) (buffer : Bytes)
    (signatureLen : Nat) : RsaResult :=
  let hash := typeOneHash buffer
  match privateKey.sign hash signatureLen with
  | .error error =>
    ⟨vcardEmulMapError error, buffer, some key, [.sign hash signatureLen false],
      typeOneReads buffer⟩
  | .ok signature =>
    ⟨.success, writeBytes buffer 0 signature, some (key.withFailedX509 .vcardEmulTrue),
      [.sign hash signatureLen true], typeOneReads buffer ++ List.range signature.length⟩

/-- Lines 369-383: `00 02`, `padLen - 3` filler bytes `0x03`, a zero separator
and the payload, stored in that order, as the variable `pad_len` walks along. -/
def rsaRebuildType2 (buffer payload : Bytes) (padLen : Nat) : Bytes :=
  let buffer := writeBytes (writeBytes buffer 0 [0]) 1 [2]
  let padLen := padLen - 3
  let buffer := writeBytes buffer 2 (List.replicate padLen 3)
  let padLen := padLen + 2
  let buffer := writeBytes buffer padLen [0]
  let padLen := padLen + 1
  writeBytes buffer padLen payload

/-- The indices `rsaRebuildType2` writes. -/
def rebuildType2Writes (payload : Bytes) (padLen : Nat) : List Nat :=
  [0, 1] ++ List.range' 2 (padLen - 3) ++ [padLen - 1] ++ List.range' padLen payload.length

/-- Lines 354-389: decrypt as PKCS #1, then rebuild a type-2 block around the
payload. `pad_len = buffer_size - signature_len` is an `int`. -/
def rsaDecryptStage (privateKey : PrivateKey) (key : VCardKey) (buffer : Bytes) : RsaResult :=
  match privateKey.privDecryptPkcs1 buffer buffer.length with
  | .error error =>
    ⟨vcardEmulMapError error, buffer, some key, [.privDecryptPkcs1 false], typeOneReads buffer⟩
  | .ok payload =>
    let padLen : Int := buffer.length - payload.length
    if padLen < 4 then
      ⟨.errorGeneral, buffer, some key, [.privDecryptPkcs1 true], typeOneReads buffer⟩
    else
      ⟨.success, rsaRebuildType2 buffer payload padLen.toNat,
        some (key.withFailedX509 .vcardEmulTrue), [.privDecryptPkcs1 true],
        typeOneReads buffer ++ rebuildType2Writes payload padLen.toNat⟩

/-- Lines 308-389: emulate the raw operation with `CKM_RSA_PKCS`, given the value
`signature_len` holds when the emulation starts. -/
def rsaEmulate (privateKey : PrivateKey) (key : VCardKey) (buffer : Bytes)
    (signatureLen : Nat) : RsaResult :=
  if looksLikeTypeOne buffer then rsaSignStage privateKey key buffer signatureLen
  else rsaDecryptStage privateKey key buffer

/-- Lines 279-307: try the raw operation unless the key remembers it failing; a
raw failure on a key that never succeeded with it falls back to `rsaEmulate`,
with whatever the failed call left in `signature_len`. -/
def rsaRawStage (privateKey : PrivateKey) (doesMechanismX509 : Bool) (key : VCardKey)
    (buffer : Bytes) : RsaResult :=
  if key.failedX509 ≠ .vcardEmulTrue ∧ doesMechanismX509 = true then
    match privateKey.privDecryptRaw buffer privateKey.signatureLen with
    | .ok output =>
      ⟨.success, writeBytes buffer 0 output, some (key.withFailedX509 .vcardEmulFalse),
        [.privDecryptRaw true], List.range output.length⟩
    | .error (error, signatureLen) =>
      if key.failedX509 = .vcardEmulFalse then
        ⟨vcardEmulMapError error, buffer, some key, [.privDecryptRaw false], []⟩
      else (rsaEmulate privateKey key buffer signatureLen).afterCall (.privDecryptRaw false)
  else rsaEmulate privateKey key buffer privateKey.signatureLen

/-- `vcard_emul_rsa_op`: the checks of lines 253-271, then the raw attempt. -/
def vcardEmulRsaOp (nssEmulInit : Bool) (provider : RsaProvider) (key : Option VCardKey)
    (buffer : Bytes) : RsaResult :=
  match nssEmulInit, key, provider.privateKey with
  | true, some key, some privateKey =>
    if buffer.length ≠ privateKey.signatureLen then
      ⟨.errorDataInvalid, buffer, some key, [], []⟩
    else rsaRawStage privateKey provider.doesMechanismX509 key buffer
  | true, some key, none => ⟨.errorConditionNotSatisfied, buffer, some key, [], []⟩
  | _, key, _ => ⟨.errorConditionNotSatisfied, buffer, key, [], []⟩

/-- The checks of lines 253-271 pass: the subsystem is initialised, the key is
there, the provider finds its private key and the buffer has the signature length. -/
def RsaChecksPass (nssEmulInit : Bool) (provider : RsaProvider) (key : Option VCardKey)
    (buffer : Bytes) : Prop :=
  nssEmulInit = true ∧ ∃ k privateKey, key = some k ∧ provider.privateKey = some privateKey ∧
    buffer.length = privateKey.signatureLen

/-- Past the checks, the call is the raw stage. -/
theorem vcardEmulRsaOp_of_checks (provider : RsaProvider) (key : VCardKey) (buffer : Bytes)
    {privateKey : PrivateKey} (found : provider.privateKey = some privateKey)
    (sized : buffer.length = privateKey.signatureLen) :
    vcardEmulRsaOp true provider (some key) buffer =
      rsaRawStage privateKey provider.doesMechanismX509 key buffer := by
  simp [vcardEmulRsaOp, found, sized]

/-- A call that fails a check returns an error before touching the buffer, the
key or the provider's operations. -/
theorem vcardEmulRsaOp_of_not_checks {nssEmulInit : Bool} {provider : RsaProvider}
    {key : Option VCardKey} {buffer : Bytes}
    (fails : ¬ RsaChecksPass nssEmulInit provider key buffer) :
    let result := vcardEmulRsaOp nssEmulInit provider key buffer
    result.status ≠ .success ∧ result.buffer = buffer ∧ result.key = key ∧ result.calls = [] ∧
      result.touched = [] := by
  unfold vcardEmulRsaOp
  split
  · next k privateKey found =>
    have missized : buffer.length ≠ privateKey.signatureLen :=
      fun sized => fails ⟨rfl, k, privateKey, rfl, found, sized⟩
    simp [missized]
  all_goals simp

end VCardEmul
