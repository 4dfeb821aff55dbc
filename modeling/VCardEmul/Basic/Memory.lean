import VCardEmul.Basic.Status

/-!
# Stores into byte buffers

`writeBytes` is the single store primitive of the model: every `memcpy`, every
`memset` and every one-byte store the emulator makes into a caller's buffer or
into its own copy of a PIN is an instance.
-/

namespace VCardEmul

/-- Store `src` into `buffer` from `offset` on, as `memcpy(&buffer[offset], src, len)`
does; the part of `src` that would land past the end of `buffer` is dropped. -/
def writeBytes (buffer : Bytes) (offset : Nat) (src : Bytes) : Bytes :=
  buffer.take offset ++ src.take (buffer.length - offset) ++ buffer.drop (offset + src.length)

/-- Stores never change the length of the buffer. -/
@[simp] theorem length_writeBytes (buffer : Bytes) (offset : Nat) (src : Bytes) :
    (writeBytes buffer offset src).length = buffer.length := by
  simp only [writeBytes, List.length_append, List.length_take, List.length_drop]
  omega

/-- A store right after a known prefix replaces the bytes it covers. -/
theorem writeBytes_append_length (pre rest src : Bytes) (fits : src.length ≤ rest.length) :
    writeBytes (pre ++ rest) pre.length src = pre ++ src ++ rest.drop src.length := by
  have lengthSub : (pre ++ rest).length - pre.length = rest.length := by simp
  rw [writeBytes, lengthSub, List.take_of_length_le fits, List.take_left, List.drop_append]

/-- The same, with the offset given as the prefix's length. -/
theorem writeBytes_append_of_length {pre rest src : Bytes} {offset : Nat} (atEnd : pre.length = offset)
    (fits : src.length ≤ rest.length) :
    writeBytes (pre ++ rest) offset src = pre ++ src ++ rest.drop src.length := by
  subst atEnd
  exact writeBytes_append_length pre rest src fits

/-- Overwriting a whole buffer with a block of its length gives the block. -/
theorem writeBytes_whole (buffer src : Bytes) (sameLength : src.length = buffer.length) :
    writeBytes buffer 0 src = src := by
  simpa [sameLength] using writeBytes_append_length [] buffer src (by omega)

end VCardEmul
