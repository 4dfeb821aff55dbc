import Mathlib.Data.List.Basic

/-!
# Bytes, status words and the provider error map

The vocabulary shared by every part of the NSS card emulator: byte strings, the
7816 status words the emulator hands to the card-protocol layer, the provider
errors `PORT_GetError` reports, and `vcard_emul_map_error`, the fixed table from
the second to the first. Numeric values of the status words belong to the
protocol layer and are not modelled; only which word is returned matters here.
-/

namespace VCardEmul

/-- Byte strings: caller buffers, certificates, PINs and object identifiers. -/
abbrev Bytes := List UInt8

/-- The status words the emulator returns (`vcard_7816_status_t`). -/
inductive Vcard7816Status where
  | success
  | errorConditionNotSatisfied
  | errorDataInvalid
  | excErrorMemoryFailure
  | excErrorChange
  | errorGeneral
  deriving DecidableEq, Repr

/-- Provider errors as `PORT_GetError` reports them. `other` stands for every
code that `vcard_emul_map_error` does not list. -/
inductive SecError where
  | tokenNotLoggedIn
  | badData
  | outputLen
  | inputLen
  | invalidArgs
  | invalidAlgorithm
  | noKey
  | invalidKey
  | decryptionDisallowed
  | pkcs11GeneralError
  | noMemory
  | other (code : Int)
  deriving DecidableEq, Repr

/-- `vcard_emul_map_error`: unlisted codes fall through to the generic
`VCARD7816_STATUS_EXC_ERROR_CHANGE` after a warning. -/
def vcardEmulMapError : SecError → Vcard7816Status
  | .tokenNotLoggedIn => .errorConditionNotSatisfied
  | .badData | .outputLen | .inputLen | .invalidArgs | .invalidAlgorithm
  | .noKey | .invalidKey | .decryptionDisallowed | .pkcs11GeneralError => .errorDataInvalid
  | .noMemory => .excErrorMemoryFailure
  | .other _ => .excErrorChange

/-- A mapped provider error is never reported as success. -/
@[simp] theorem vcardEmulMapError_ne_success (error : SecError) :
    vcardEmulMapError error ≠ .success := by
  cases error <;> simp [vcardEmulMapError]

end VCardEmul
