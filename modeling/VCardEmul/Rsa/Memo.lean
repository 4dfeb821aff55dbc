import VCardEmul.Rsa.RawRsa

/-!
# The `failedX509` memory over a run of calls

A key made by `vcard_emul_make_key` starts `VCardEmulUnknown`. Each call of
`vcard_emul_rsa_op` on it may settle the question once: `VCardEmulFalse` after a
raw decryption that worked, `VCardEmulTrue` after an emulation that worked. A run
is a list of requests, each with its own buffer and its own provider answers, on
a slot whose advertisement of `CKM_RSA_X_509` stays fixed.

`rsaCall_failedX509` is the one-call fact; `rsaKeyAt_false_advertised` is the
run invariant that a key remembering `VCardEmulFalse` sits on an advertising
slot. From them: `VCardEmulTrue` and `VCardEmulFalse` are never left, a `True`
key never reaches `PK11_PrivDecryptRaw` again, and a `False` key goes through
it on every call that passes the entry checks, returning its failure as is. A
call that fails an entry check makes no provider operation and keeps the key.
-/

namespace VCardEmul

/-- One request on a key: whether the subsystem is initialised, the private key
the provider finds for it, and the caller's buffer. -/
structure RsaRequest where
  nssEmulInit : Bool
  privateKey : Option PrivateKey
  buffer : Bytes

/-- A request on `key`, over a slot that does or does not advertise `CKM_RSA_X_509`. -/
def rsaCall (doesMechanismX509 : Bool) (key : VCardKey) (request : RsaRequest) : RsaResult :=
  vcardEmulRsaOp request.nssEmulInit ⟨request.privateKey, doesMechanismX509⟩ (some key) request.buffer

/-- The key a request leaves behind. -/
def rsaKeyStep (doesMechanismX509 : Bool) (key : VCardKey) (request : RsaRequest) : VCardKey :=
  (rsaCall doesMechanismX509 key request).key.getD key

/-- The key before request `i` of a run. -/
def rsaKeyAt (doesMechanismX509 : Bool) (key : VCardKey) (requests : List RsaRequest) (i : Nat) :
    VCardKey :=
  (requests.take i).foldl (rsaKeyStep doesMechanismX509) key

/-- The moves of `failedX509` one call may make: none; `Unknown` to `False` on a
raw decryption that succeeded; `Unknown` to `True` on a call that succeeded
through `PK11_Sign` or `PK11_PrivDecryptPKCS1`. -/
def FailedX509Move (before after : VCardEmulTriState) (result : RsaResult) : Prop :=
  after = before ∨
    (before = .vcardEmulUnknown ∧ after = .vcardEmulFalse ∧ ProviderCall.privDecryptRaw true ∈ result.calls) ∨
    (before = .vcardEmulUnknown ∧ after = .vcardEmulTrue ∧ result.status = .success ∧
      ((∃ hash capacity, ProviderCall.sign hash capacity true ∈ result.calls) ∨
        ProviderCall.privDecryptPkcs1 true ∈ result.calls))

theorem FailedX509Move.afterCall {before after : VCardEmulTriState} {result : RsaResult}
    (move : FailedX509Move before after result) (call : ProviderCall) :
    FailedX509Move before after (result.afterCall call) := by
  rcases move with same | ⟨unknown, settled, raw⟩ | ⟨unknown, settled, succeeded, used⟩
  · exact .inl same
  · exact .inr (.inl ⟨unknown, settled, List.mem_cons_of_mem _ raw⟩)
  · refine .inr (.inr ⟨unknown, settled, succeeded, ?_⟩)
    rcases used with ⟨hash, capacity, signed⟩ | decrypted
    · exact .inl ⟨hash, capacity, List.mem_cons_of_mem _ signed⟩
    · exact .inr (List.mem_cons_of_mem _ decrypted)

theorem rsaKeyAt_zero (doesMechanismX509 : Bool) (key : VCardKey) (requests : List RsaRequest) :
    rsaKeyAt doesMechanismX509 key requests 0 = key := rfl

theorem rsaKeyAt_succ {doesMechanismX509 : Bool} {key : VCardKey} {requests : List RsaRequest} {i : Nat}
    (inRun : i < requests.length) :
    rsaKeyAt doesMechanismX509 key requests (i + 1) =
      rsaKeyStep doesMechanismX509 (rsaKeyAt doesMechanismX509 key requests i) requests[i] := by
  rw [rsaKeyAt, rsaKeyAt, List.take_succ, List.getElem?_eq_getElem inRun, List.foldl_append]
  rfl

/-- One call: `failedX509` makes an allowed move, or, on a slot that does not
advertise `CKM_RSA_X_509`, a `False` key is emulated and becomes `True`. -/
theorem rsaCall_failedX509 (doesMechanismX509 : Bool) (key : VCardKey) (request : RsaRequest) :
    ∃ after, (rsaCall doesMechanismX509 key request).key = some (key.withFailedX509 after) ∧
      (FailedX509Move key.failedX509 after (rsaCall doesMechanismX509 key request) ∨
        (key.failedX509 = .vcardEmulFalse ∧ doesMechanismX509 = false ∧ after = .vcardEmulTrue)) := by
  unfold rsaCall
  by_cases checks : RsaChecksPass request.nssEmulInit ⟨request.privateKey, doesMechanismX509⟩ (some key)
      request.buffer
  · obtain ⟨initialised, k, privateKey, keyEq, found, sized⟩ := checks
    cases keyEq
    rw [initialised, vcardEmulRsaOp_of_checks _ key _ found sized]
    rcases rsaRawStage_cases privateKey doesMechanismX509 key request.buffer with
      ⟨notTrue, -, _, -, result⟩ | ⟨-, -, _, _, -, result⟩ | ⟨unknown, -, _, signatureLen, -, result⟩ |
        ⟨skipped, result⟩ <;> rw [result]
    · refine ⟨.vcardEmulFalse, rfl, .inl ?_⟩
      cases remembered : key.failedX509
      · exact .inr (.inl ⟨rfl, rfl, List.mem_singleton_self _⟩)
      · exact .inl rfl
      · exact absurd remembered notTrue
    · exact ⟨key.failedX509, by simp, .inl (.inl rfl)⟩
    · obtain ⟨after, keyEq, emulated⟩ := rsaEmulate_key privateKey key request.buffer signatureLen
      refine ⟨after, keyEq, .inl (FailedX509Move.afterCall ?_ _)⟩
      rcases emulated with same | ⟨settled, succeeded, used⟩
      · exact .inl same
      · exact .inr (.inr ⟨unknown, settled, succeeded, used⟩)
    · obtain ⟨after, keyEq, emulated⟩ :=
        rsaEmulate_key privateKey key request.buffer privateKey.signatureLen
      refine ⟨after, keyEq, ?_⟩
      rcases emulated with same | ⟨settled, succeeded, used⟩
      · exact .inl (.inl same)
      · cases remembered : key.failedX509
        · exact .inl (.inr (.inr ⟨rfl, settled, succeeded, used⟩))
        · exact .inr ⟨rfl, by simpa [remembered] using skipped, settled⟩
        · exact .inl (.inl settled)
  · obtain ⟨-, -, keyEq, -, -⟩ := vcardEmulRsaOp_of_not_checks checks
    exact ⟨key.failedX509, by simpa using keyEq, .inl (.inl rfl)⟩

/-- The same move, read off the key a request leaves behind. -/
theorem rsaKeyStep_move (doesMechanismX509 : Bool) (key : VCardKey) (request : RsaRequest) :
    FailedX509Move key.failedX509 (rsaKeyStep doesMechanismX509 key request).failedX509
        (rsaCall doesMechanismX509 key request) ∨
      (key.failedX509 = .vcardEmulFalse ∧ doesMechanismX509 = false ∧
        (rsaKeyStep doesMechanismX509 key request).failedX509 = .vcardEmulTrue) := by
  obtain ⟨after, keyEq, move⟩ := rsaCall_failedX509 doesMechanismX509 key request
  simpa [rsaKeyStep, keyEq] using move

/-- A call reaches `PK11_PrivDecryptRaw` only on an advertising slot. -/
theorem rsaCall_raw_advertised {doesMechanismX509 : Bool} {key : VCardKey} {request : RsaRequest}
    {succeeded : Bool}
    (raw : ProviderCall.privDecryptRaw succeeded ∈ (rsaCall doesMechanismX509 key request).calls) :
    doesMechanismX509 = true := by
  unfold rsaCall at raw
  by_cases checks : RsaChecksPass request.nssEmulInit ⟨request.privateKey, doesMechanismX509⟩ (some key)
      request.buffer
  · obtain ⟨initialised, k, privateKey, keyEq, found, sized⟩ := checks
    cases keyEq
    rw [initialised, vcardEmulRsaOp_of_checks _ key _ found sized] at raw
    rcases rsaRawStage_cases privateKey doesMechanismX509 key request.buffer with
      ⟨-, advertised, -⟩ | ⟨-, advertised, -⟩ | ⟨-, advertised, -⟩ | ⟨-, result⟩
    · exact advertised
    · exact advertised
    · exact advertised
    · rw [result] at raw
      exact absurd raw (rsaEmulate_no_raw_call _ _ _ _ _)
  · simp [(vcardEmulRsaOp_of_not_checks checks).2.2.2.1] at raw

/-- A key that remembers `VCardEmulTrue` never reaches `PK11_PrivDecryptRaw`. -/
theorem rsaCall_true_no_raw {doesMechanismX509 : Bool} {key : VCardKey} {request : RsaRequest}
    (remembers : key.failedX509 = .vcardEmulTrue) (succeeded : Bool) :
    ProviderCall.privDecryptRaw succeeded ∉ (rsaCall doesMechanismX509 key request).calls := by
  unfold rsaCall
  by_cases checks : RsaChecksPass request.nssEmulInit ⟨request.privateKey, doesMechanismX509⟩ (some key)
      request.buffer
  · obtain ⟨initialised, k, privateKey, keyEq, found, sized⟩ := checks
    cases keyEq
    rw [initialised, vcardEmulRsaOp_of_checks _ key _ found sized]
    rcases rsaRawStage_cases privateKey doesMechanismX509 key request.buffer with
      ⟨notTrue, -⟩ | ⟨notTrue, -⟩ | ⟨notTrue, -⟩ | ⟨-, result⟩
    · exact absurd remembers notTrue
    · simp [remembers] at notTrue
    · simp [remembers] at notTrue
    · rw [result]
      exact rsaEmulate_no_raw_call _ _ _ _ _
  · simp [(vcardEmulRsaOp_of_not_checks checks).2.2.2.1]

/-- A key that remembers `VCardEmulFalse`, on an advertising slot, goes through
`PK11_PrivDecryptRaw` on every call past the entry checks, and a raw failure is
the call's mapped error with no emulation after it. -/
theorem rsaCall_false_raw {key : VCardKey} {request : RsaRequest} {privateKey : PrivateKey}
    (remembers : key.failedX509 = .vcardEmulFalse) (initialised : request.nssEmulInit = true)
    (found : request.privateKey = some privateKey) (sized : request.buffer.length = privateKey.signatureLen) :
    (∃ output, privateKey.privDecryptRaw request.buffer privateKey.signatureLen = .ok output ∧
        (rsaCall true key request).calls = [.privDecryptRaw true]) ∨
      (∃ error signatureLen,
        privateKey.privDecryptRaw request.buffer privateKey.signatureLen = .error (error, signatureLen) ∧
        (rsaCall true key request).status = vcardEmulMapError error ∧
        (rsaCall true key request).calls = [.privDecryptRaw false]) := by
  unfold rsaCall
  rw [initialised, vcardEmulRsaOp_of_checks ⟨request.privateKey, true⟩ key _ found sized]
  rcases rsaRawStage_cases privateKey true key request.buffer with
    ⟨-, -, output, decrypted, result⟩ | ⟨-, -, error, signatureLen, failed, result⟩ |
      ⟨unknown, -⟩ | ⟨skipped, -⟩
  · exact .inl ⟨output, decrypted, by rw [result]⟩
  · exact .inr ⟨error, signatureLen, failed, by rw [result], by rw [result]⟩
  · simp [remembers] at unknown
  · simp [remembers] at skipped

/-- A key that remembers `VCardEmulFalse` in a run from a fresh key sits on a slot
that advertises `CKM_RSA_X_509`: only a raw decryption that worked sets it. -/
theorem rsaKeyAt_false_advertised {doesMechanismX509 : Bool} {slot : Nat} {cert : Bytes}
    {requests : List RsaRequest} {i : Nat} (inRun : i ≤ requests.length)
    (remembers : (rsaKeyAt doesMechanismX509 (vcardEmulMakeKey slot cert) requests i).failedX509 =
      .vcardEmulFalse) :
    doesMechanismX509 = true := by
  induction i with
  | zero => simp [rsaKeyAt_zero, vcardEmulMakeKey] at remembers
  | succ i inductionHypothesis =>
    rw [rsaKeyAt_succ (by omega)] at remembers
    have move := rsaKeyStep_move doesMechanismX509
        (rsaKeyAt doesMechanismX509 (vcardEmulMakeKey slot cert) requests i) requests[i]
    rw [remembers] at move
    rcases move with (same | ⟨-, -, raw⟩ | ⟨-, settled, -⟩) | ⟨-, -, settled⟩
    · exact inductionHypothesis (by omega) same.symm
    · exact rsaCall_raw_advertised raw
    · cases settled
    · cases settled

/-- `VCardEmulTrue` is never left. -/
theorem rsaKeyAt_true_stays {doesMechanismX509 : Bool} {key : VCardKey} {requests : List RsaRequest}
    {j i : Nat} (earlier : j ≤ i) (inRun : i ≤ requests.length)
    (remembers : (rsaKeyAt doesMechanismX509 key requests j).failedX509 = .vcardEmulTrue) :
    (rsaKeyAt doesMechanismX509 key requests i).failedX509 = .vcardEmulTrue := by
  induction i, earlier using Nat.le_induction with
  | base => exact remembers
  | succ i _ inductionHypothesis =>
    rw [rsaKeyAt_succ (by omega)]
    have before := inductionHypothesis (by omega)
    rcases rsaKeyStep_move doesMechanismX509 (rsaKeyAt doesMechanismX509 key requests i) requests[i] with
      (same | ⟨unknown, -⟩ | ⟨unknown, -⟩) | ⟨false, -⟩
    · exact same.trans before
    all_goals rw [before] at *; contradiction

/-- In a run from a fresh key, `VCardEmulFalse` is never left. -/
theorem rsaKeyAt_false_stays {doesMechanismX509 : Bool} {slot : Nat} {cert : Bytes}
    {requests : List RsaRequest} {j i : Nat} (earlier : j ≤ i) (inRun : i ≤ requests.length)
    (remembers : (rsaKeyAt doesMechanismX509 (vcardEmulMakeKey slot cert) requests j).failedX509 =
      .vcardEmulFalse) :
    (rsaKeyAt doesMechanismX509 (vcardEmulMakeKey slot cert) requests i).failedX509 = .vcardEmulFalse := by
  have advertised := rsaKeyAt_false_advertised (by omega) remembers
  induction i, earlier using Nat.le_induction with
  | base => exact remembers
  | succ i _ inductionHypothesis =>
    rw [rsaKeyAt_succ (by omega)]
    have before := inductionHypothesis (by omega)
    rcases rsaKeyStep_move doesMechanismX509
        (rsaKeyAt doesMechanismX509 (vcardEmulMakeKey slot cert) requests i) requests[i] with
      (same | ⟨unknown, -⟩ | ⟨unknown, -⟩) | ⟨-, unadvertised, -⟩
    · exact same.trans before
    · rw [before] at unknown
      contradiction
    · rw [before] at unknown
      contradiction
    · rw [advertised] at unadvertised
      contradiction

/-- What the memory guarantees at call `i` of a run of requests on a key from
`vcard_emul_make_key`, on a slot whose advertisement of `CKM_RSA_X_509` is fixed. -/
structure FailedX509Memo (doesMechanismX509 : Bool) (slot : Nat) (cert : Bytes)
    (requests : List RsaRequest) (i : Nat) (inRun : i < requests.length) : Prop where
  /-- The call moves `failedX509` only as `FailedX509Move` allows. -/
  moves : FailedX509Move (rsaKeyAt doesMechanismX509 (vcardEmulMakeKey slot cert) requests i).failedX509
    (rsaKeyAt doesMechanismX509 (vcardEmulMakeKey slot cert) requests (i + 1)).failedX509
    (rsaCall doesMechanismX509 (rsaKeyAt doesMechanismX509 (vcardEmulMakeKey slot cert) requests i)
      requests[i])
  /-- Once it has been `VCardEmulTrue`, the call does not reach `PK11_PrivDecryptRaw`. -/
  trueSkipsRaw : ∀ j ≤ i,
    (rsaKeyAt doesMechanismX509 (vcardEmulMakeKey slot cert) requests j).failedX509 = .vcardEmulTrue →
    ∀ succeeded, ProviderCall.privDecryptRaw succeeded ∉
      (rsaCall doesMechanismX509 (rsaKeyAt doesMechanismX509 (vcardEmulMakeKey slot cert) requests i)
        requests[i]).calls
  /-- Once it has been `VCardEmulFalse`, the call goes through `PK11_PrivDecryptRaw`
  when it passes the entry checks, and a raw failure is its mapped error. -/
  falseGoesRaw : ∀ j ≤ i,
    (rsaKeyAt doesMechanismX509 (vcardEmulMakeKey slot cert) requests j).failedX509 = .vcardEmulFalse →
    ∀ privateKey, requests[i].nssEmulInit = true → requests[i].privateKey = some privateKey →
    requests[i].buffer.length = privateKey.signatureLen →
    (∃ output, privateKey.privDecryptRaw requests[i].buffer privateKey.signatureLen = .ok output ∧
      (rsaCall doesMechanismX509 (rsaKeyAt doesMechanismX509 (vcardEmulMakeKey slot cert) requests i)
        requests[i]).calls = [.privDecryptRaw true]) ∨
    (∃ error signatureLen,
      privateKey.privDecryptRaw requests[i].buffer privateKey.signatureLen = .error (error, signatureLen) ∧
      (rsaCall doesMechanismX509 (rsaKeyAt doesMechanismX509 (vcardEmulMakeKey slot cert) requests i)
        requests[i]).status = vcardEmulMapError error ∧
      (rsaCall doesMechanismX509 (rsaKeyAt doesMechanismX509 (vcardEmulMakeKey slot cert) requests i)
        requests[i]).calls = [.privDecryptRaw false])
  /-- A call that fails an entry check returns its error before any provider
  operation and leaves the key as it was. -/
  checksFailEarly :
    ¬ RsaChecksPass requests[i].nssEmulInit ⟨requests[i].privateKey, doesMechanismX509⟩
      (some (rsaKeyAt doesMechanismX509 (vcardEmulMakeKey slot cert) requests i)) requests[i].buffer →
    (rsaCall doesMechanismX509 (rsaKeyAt doesMechanismX509 (vcardEmulMakeKey slot cert) requests i)
        requests[i]).status ≠ .success ∧
      (rsaCall doesMechanismX509 (rsaKeyAt doesMechanismX509 (vcardEmulMakeKey slot cert) requests i)
        requests[i]).calls = [] ∧
      rsaKeyAt doesMechanismX509 (vcardEmulMakeKey slot cert) requests (i + 1) =
        rsaKeyAt doesMechanismX509 (vcardEmulMakeKey slot cert) requests i

/-- Every call of every run of `vcard_emul_rsa_op` on a key from
`vcard_emul_make_key`, over a slot with a fixed advertisement, keeps the memory's
guarantees. -/
theorem rsaRun_failedX509_memo (doesMechanismX509 : Bool) (slot : Nat) (cert : Bytes)
    (requests : List RsaRequest) (i : Nat) (inRun : i < requests.length) :
    FailedX509Memo doesMechanismX509 slot cert requests i inRun where
  moves := by
    rw [rsaKeyAt_succ inRun]
    rcases rsaKeyStep_move doesMechanismX509
        (rsaKeyAt doesMechanismX509 (vcardEmulMakeKey slot cert) requests i) requests[i] with
      move | ⟨remembers, unadvertised, -⟩
    · exact move
    · rw [rsaKeyAt_false_advertised (by omega) remembers] at unadvertised
      contradiction
  trueSkipsRaw _ earlier remembers :=
    rsaCall_true_no_raw (rsaKeyAt_true_stays earlier (by omega) remembers)
  falseGoesRaw _ earlier remembers _ initialised found sized := by
    have stays := rsaKeyAt_false_stays earlier (by omega) remembers
    obtain rfl := rsaKeyAt_false_advertised (by omega) stays
    exact rsaCall_false_raw stays initialised found sized
  checksFailEarly fails := by
    obtain ⟨failed, -, kept, noCalls, -⟩ := vcardEmulRsaOp_of_not_checks fails
    refine ⟨failed, noCalls, ?_⟩
    rw [rsaKeyAt_succ inRun, rsaKeyStep, rsaCall, kept]
    rfl

/-- A run whose second request has a buffer one byte short of the signature length. -/
def shortBufferRun : List RsaRequest :=
  [⟨true, some (rawRsaKey id 1), [5]⟩, ⟨true, some (rawRsaKey id 1), []⟩]

/-- After the raw decryption has worked once, a call with a short buffer still
stops at the length check and never reaches `PK11_PrivDecryptRaw`. -/
theorem shortBufferRun_skips_raw :
    (rsaKeyAt true (vcardEmulMakeKey 0 []) shortBufferRun 1).failedX509 = .vcardEmulFalse ∧
      (rsaCall true (rsaKeyAt true (vcardEmulMakeKey 0 []) shortBufferRun 1) shortBufferRun[1]).calls = [] := by
  decide

/-- The memory's guarantees at the first call of `shortBufferRun`. -/
theorem shortBufferRun_memo :
    0 < shortBufferRun.length ∧ FailedX509Memo true 0 [] shortBufferRun 0 (by decide) :=
  ⟨by decide, rsaRun_failedX509_memo true 0 [] shortBufferRun 0 (by decide)⟩

end VCardEmul
