import VCardEmul.Rsa.Paths

/-!
# A provider doing raw RSA

The reference the emulator is judged by: a private key whose every answer is the
one a raw RSA permutation `raw` on `n`-byte blocks determines. `PK11_Sign` pads
the digest to a type-1 block and fails when fewer than eight `0xFF` bytes would
fit; `PK11_PrivDecryptPKCS1` returns the payload of a conforming type-2 block.
`RealizesRawRsa` says only what successful answers are; `rawRsaKey` is the honest
provider that gives them, and `rsaPrivate` is textbook RSA, used to exhibit real
keys.
-/

namespace VCardEmul

/-- Every successful answer of `privateKey` is the one raw RSA `raw` on `n`-byte
blocks determines. -/
structure RealizesRawRsa (raw : Bytes → Bytes) (n : Nat) (privateKey : PrivateKey) : Prop where
  blockLength : ∀ block : Bytes, block.length = n → (raw block).length = n
  signatureLen : privateKey.signatureLen = n
  privDecryptRaw : ∀ input maxLen output,
    privateKey.privDecryptRaw input maxLen = .ok output → output = raw input
  sign : ∀ digest capacity signature, privateKey.sign digest capacity = .ok signature →
    digest.length + 11 ≤ n ∧ signature = raw (pkcs1Type1Block n digest)
  privDecryptPkcs1 : ∀ input maxLen payload,
    privateKey.privDecryptPkcs1 input maxLen = .ok payload → pkcs1Type2Payload (raw input) = some payload

/-- The honest provider key for raw RSA `raw` with an `n`-byte modulus. `PK11_Sign`
checks the capacity `signature.len` first, as `C_Sign` does. -/
def rawRsaKey (raw : Bytes → Bytes) (n : Nat) : PrivateKey where
  signatureLen := n
  privDecryptRaw input maxLen :=
    if input.length = n ∧ n ≤ maxLen then .ok (raw input) else .error (.inputLen, 0)
  sign digest capacity :=
    if capacity < n then .error .outputLen
    else if digest.length + 11 ≤ n then .ok (raw (pkcs1Type1Block n digest))
    else .error .inputLen
  privDecryptPkcs1 input maxLen :=
    match pkcs1Type2Payload (raw input) with
    | some payload => if payload.length ≤ maxLen then .ok payload else .error .outputLen
    | none => .error .badData

/-- The honest provider realizes raw RSA whenever `raw` keeps blocks at `n` bytes. -/
theorem rawRsaKey_realizes {raw : Bytes → Bytes} {n : Nat}
    (blockLength : ∀ block : Bytes, block.length = n → (raw block).length = n) :
    RealizesRawRsa raw n (rawRsaKey raw n) where
  blockLength := blockLength
  signatureLen := rfl
  privDecryptRaw input maxLen output answered := by
    simp only [rawRsaKey] at answered
    split at answered <;> simp_all
  sign digest capacity signature answered := by
    simp only [rawRsaKey] at answered
    split at answered
    · cases answered
    · split at answered <;> simp_all
  privDecryptPkcs1 input maxLen payload answered := by
    simp only [rawRsaKey] at answered
    split at answered
    · next payload' accepted => split at answered <;> simp_all
    · cases answered

/-! ## Textbook RSA -/

/-- Big-endian value of a byte string. -/
def bytesToNat (bytes : Bytes) : Nat :=
  bytes.foldl (fun value byte => value * 256 + byte.toNat) 0

/-- The `width`-byte big-endian encoding of `value` modulo `256 ^ width`. -/
def natToBytes : Nat → Nat → Bytes
  | 0, _ => []
  | width + 1, value => natToBytes width (value / 256) ++ [UInt8.ofNat (value % 256)]

@[simp] theorem length_natToBytes (width value : Nat) : (natToBytes width value).length = width := by
  induction width generalizing value with
  | zero => rfl
  | succ width inductionHypothesis => simp [natToBytes, inductionHypothesis]

/-- `base ^ exponent % modulus` by square-and-multiply over the low `bits` bits of `exponent`. -/
def powMod (modulus : Nat) : (bits base exponent : Nat) → Nat
  | 0, _, _ => 1 % modulus
  | bits + 1, base, exponent =>
    let rest := powMod modulus bits (base * base % modulus) (exponent / 2)
    if exponent % 2 = 1 then base * rest % modulus else rest

/-- An RSA key pair on `blockLength`-byte blocks; `exponentBits` bounds the bit
length of both exponents. -/
structure RsaKeyPair where
  modulus : Nat
  publicExponent : Nat
  privateExponent : Nat
  blockLength : Nat
  exponentBits : Nat

/-- The raw private-key operation of a key pair. -/
def RsaKeyPair.rsaPrivate (keyPair : RsaKeyPair) (block : Bytes) : Bytes :=
  natToBytes keyPair.blockLength
    (powMod keyPair.modulus keyPair.exponentBits (bytesToNat block) keyPair.privateExponent)

/-- The raw public-key operation of a key pair. -/
def RsaKeyPair.rsaPublic (keyPair : RsaKeyPair) (block : Bytes) : Bytes :=
  natToBytes keyPair.blockLength
    (powMod keyPair.modulus keyPair.exponentBits (bytesToNat block) keyPair.publicExponent)

/-- Textbook RSA keeps blocks at the key's block length. -/
theorem RsaKeyPair.length_rsaPrivate (keyPair : RsaKeyPair) (block : Bytes) :
    (keyPair.rsaPrivate block).length = keyPair.blockLength :=
  length_natToBytes _ _

end VCardEmul
