import VCardEmul.Basic.Memory

/-!
# The `0xFF` scan and PKCS #1 v1.5 blocks

`ffScan` is the loop of the RSA emulator that looks for the `0xFF` run of a
type-1 block.

The second half is the reference the emulator is measured against, not code of
the emulator: the type-1 block a provider signs for a digest, and the payload a
PKCS #1 v1.5 client takes from a decrypted type-2 block.
-/

namespace VCardEmul

/-! ## The `0xFF` scan -/

/-- The scan loop `for (i = 2; i < buffer_size; i++) if (buffer[i] != 0xff) break;`
run over the bytes from index `i` on: the index of the first byte that is not
`0xFF`, or the end of the buffer. -/
def ffScan : Bytes → Nat → Nat
  | [], i => i
  | byte :: rest, i => if byte = 0xFF then ffScan rest (i + 1) else i

/-- The scan stops after the `0xFF` prefix of what it reads. -/
theorem ffScan_eq (bytes : Bytes) (i : Nat) :
    ffScan bytes i = i + (bytes.takeWhile (· == 0xFF)).length := by
  induction bytes generalizing i with
  | nil => rfl
  | cons byte rest inductionHypothesis =>
    by_cases isFF : byte = 0xFF
    · simp [ffScan, isFF, List.takeWhile_cons, inductionHypothesis]
      omega
    · simp [ffScan, isFF, List.takeWhile_cons]

/-- Over a run of `k` bytes `0xFF` closed by a zero byte, the scan stops at the zero. -/
theorem ffScan_replicate_zero (k : Nat) (rest : Bytes) (i : Nat) :
    ffScan (List.replicate k 0xFF ++ 0 :: rest) i = i + k := by
  rw [ffScan_eq, List.takeWhile_append_of_pos (by simp)]
  simp

/-- A list splits at the element its `takeWhile` prefix stops on, which fails the test. -/
theorem takeWhile_stop {α : Type} {p : α → Bool} {l : List α} {stop : α}
    (stopsAt : l[(l.takeWhile p).length]? = some stop) :
    p stop = false ∧ l = l.takeWhile p ++ stop :: l.drop ((l.takeWhile p).length + 1) := by
  induction l with
  | nil => cases stopsAt
  | cons head tail inductionHypothesis =>
    cases passes : p head
    · simp only [List.takeWhile_cons, passes, Bool.false_eq_true, if_false, List.length_nil,
        List.getElem?_cons_zero, Option.some.injEq] at stopsAt
      subst stopsAt
      simp [passes]
    · simp only [List.takeWhile_cons, passes, if_true, List.length_cons,
        List.getElem?_cons_succ] at stopsAt ⊢
      obtain ⟨fails, split⟩ := inductionHypothesis stopsAt
      exact ⟨fails, by simpa using split⟩

/-- When the scan stops on a zero byte, it stepped over `FF .. FF 00`. -/
theorem eq_of_ffScan_zero {bytes : Bytes} {i : Nat}
    (stopsAtZero : bytes[ffScan bytes i - i]? = some 0) :
    bytes = List.replicate (ffScan bytes i - i) 0xFF ++ 0 :: bytes.drop (ffScan bytes i - i + 1) := by
  rw [ffScan_eq, Nat.add_sub_cancel_left] at *
  have allFF : bytes.takeWhile (· == 0xFF) =
      List.replicate (bytes.takeWhile (· == 0xFF)).length 0xFF :=
    List.eq_replicate_iff.mpr ⟨rfl, fun byte mem => by simpa using List.mem_takeWhile_imp mem⟩
  conv_lhs => rw [(takeWhile_stop stopsAtZero).2, allFF]
  simp

/-! ## PKCS #1 v1.5 blocks -/

/-- The type-1 block a provider signs for `digest` under an `n`-byte modulus:
`00 01 FF .. FF 00 digest`. -/
def pkcs1Type1Block (n : Nat) (digest : Bytes) : Bytes :=
  [0, 1] ++ List.replicate (n - 3 - digest.length) 0xFF ++ 0 :: digest

/-- The type-2 block `00 02 padding 00 payload`. -/
def pkcs1Type2Block (padding payload : Bytes) : Bytes :=
  [0, 2] ++ padding ++ 0 :: payload

/-- What a PKCS #1 v1.5 client takes from a decrypted block: the payload after
`00 02 PS 00`, when the padding `PS` has at least eight bytes and no zero byte. -/
def pkcs1Type2Payload : Bytes → Option Bytes
  | first :: second :: rest =>
    let padding := rest.takeWhile (· != 0)
    if first = 0 ∧ second = 2 ∧ 8 ≤ padding.length ∧ padding.length < rest.length then
      some (rest.drop (padding.length + 1))
    else none
  | _ => none

/-- A digest with room for eight padding bytes fills the block exactly. -/
theorem length_pkcs1Type1Block {n : Nat} {digest : Bytes} (conforming : digest.length + 11 ≤ n) :
    (pkcs1Type1Block n digest).length = n := by
  simp [pkcs1Type1Block]
  omega

@[simp] theorem length_pkcs1Type2Block (padding payload : Bytes) :
    (pkcs1Type2Block padding payload).length = padding.length + payload.length + 3 := by
  simp [pkcs1Type2Block]
  omega

/-- A client accepts exactly the type-2 blocks with eight or more nonzero padding bytes. -/
theorem pkcs1Type2Payload_eq_some_iff (block payload : Bytes) :
    pkcs1Type2Payload block = some payload ↔
      ∃ padding : Bytes, (∀ byte ∈ padding, byte ≠ 0) ∧ 8 ≤ padding.length ∧
        block = pkcs1Type2Block padding payload := by
  constructor
  · intro accepted
    rcases block with _ | ⟨first, _ | ⟨second, rest⟩⟩
    · cases accepted
    · cases accepted
    simp only [pkcs1Type2Payload] at accepted
    split at accepted
    · next bounds =>
      obtain ⟨rfl, rfl, long, shorter⟩ := bounds
      cases accepted
      refine ⟨rest.takeWhile (· != 0), fun byte mem => ?_, long, ?_⟩
      · simpa using List.mem_takeWhile_imp mem
      · obtain ⟨stop, stopsAt⟩ : ∃ stop, rest[(rest.takeWhile (· != 0)).length]? = some stop :=
          ⟨_, List.getElem?_eq_getElem shorter⟩
        obtain ⟨isZero, split⟩ := takeWhile_stop stopsAt
        simp only [bne_eq_false_iff_eq] at isZero
        subst isZero
        conv_lhs => rw [split]
        rfl
    · cases accepted
  · rintro ⟨padding, nonzero, long, rfl⟩
    have scanned : (padding ++ 0 :: payload).takeWhile (· != 0) = padding := by
      rw [List.takeWhile_append_of_pos (by simpa using nonzero)]
      simp
    simp [pkcs1Type2Payload, pkcs1Type2Block, scanned, long]

/-- Every block a client accepts is at least eleven bytes longer than its payload. -/
theorem length_of_pkcs1Type2Payload {block payload : Bytes}
    (accepted : pkcs1Type2Payload block = some payload) :
    payload.length + 11 ≤ block.length := by
  obtain ⟨padding, -, long, rfl⟩ := (pkcs1Type2Payload_eq_some_iff block payload).mp accepted
  simp only [length_pkcs1Type2Block]
  omega

end VCardEmul
