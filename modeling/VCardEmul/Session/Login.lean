import VCardEmul.Basic.Memory
import Mathlib.Data.List.DropRight

/-!
# Login sessions

`vcard_emul_login`, `vcard_emul_logout`, `vcard_emul_reset` and
`vcard_emul_is_logged_in` keep no login state of their own: they read and change
the login state of the card's PKCS #11 slot. A slot is modelled by what they
reach of it: `PK11_NeedLogin`, the token's PIN, and whether the slot is logged
in. The provider's one free choice is whether a `PK11_Logout` succeeds; each call
that may reach one carries that outcome.

`PK11_Authenticate(slot, PR_FALSE, pin_string)` asks for the PIN only when the
slot still requires a login; the PIN then goes through
`vcard_emul_get_password` and `PORT_Strdup`, so the token sees the copy
`pin_string` as a C string, up to its first zero byte.

`sessionPromise` is what the session manager is for: logged in after a login
with the right PIN, until the next login, logout or reset. With a reliable
`PK11_Logout` every run of the code refines it (`sessionRun_refines_promise`).
A `PK11_Logout` that fails, whose status `vcard_emul_logout` ignores, leaves
the old session open, and `PK11_Authenticate` then accepts any PIN
(`vcardEmulLogin_any_pin_after_failed_logout`).
-/

namespace VCardEmul

/-- The login state of a PKCS #11 slot as the session manager reaches it. -/
structure SlotLogin where
  needLogin : Bool
  pin : Bytes
  loggedIn : Bool
  deriving DecidableEq, Repr

/-- A NUL-terminated string read from its first byte. -/
def cString (bytes : Bytes) : Bytes := bytes.takeWhile (· != 0)

/-- `PK11_Logout`, when it succeeds. -/
def pk11Logout (logoutSucceeds : Bool) (slot : SlotLogin) : SlotLogin :=
  if logoutSucceeds then { slot with loggedIn := false } else slot

/-- `PK11_Authenticate(slot, PR_FALSE, pin_string)`: a slot that needs a login
and is not logged in checks the PIN with `C_Login`; any other slot is accepted as
it stands. -/
def pk11Authenticate (slot : SlotLogin) (pinString : Bytes) : Bool × SlotLogin :=
  if slot.needLogin ∧ ¬ slot.loggedIn then
    if cString pinString = slot.pin then (true, { slot with loggedIn := true }) else (false, slot)
  else (true, slot)

/-- `vcard_emul_logout`: log out if `PK11_IsLoggedIn`, ignoring the status of
`PK11_Logout`. -/
def vcardEmulLogout (nssEmulInit logoutSucceeds : Bool) (slot : SlotLogin) : SlotLogin :=
  if !nssEmulInit then slot
  else if slot.loggedIn then pk11Logout logoutSucceeds slot
  else slot

/-- `vcard_emul_reset`: any power change logs out. -/
def vcardEmulReset (nssEmulInit logoutSucceeds : Bool) (slot : SlotLogin) : SlotLogin :=
  vcardEmulLogout nssEmulInit logoutSucceeds slot

/-- `vcard_emul_is_logged_in`; before initialisation it returns the status word
`VCARD7816_STATUS_ERROR_CONDITION_NOT_SATISFIED` in its `int`. -/
def vcardEmulIsLoggedIn (nssEmulInit : Bool) (slot : SlotLogin) : Except Vcard7816Status Nat :=
  if !nssEmulInit then .error .errorConditionNotSatisfied
  else if !slot.needLogin then .ok 1
  else .ok (if slot.loggedIn then 1 else 0)

/-- The loop `for (i = pin_len-1; i >= 0 && (pin_string[i] == 0xff); i--)
pin_string[i] = 0;`, with `remaining = i + 1` indices left to look at. -/
def zeroPinPadding : Nat → Bytes → Bytes
  | 0, pinString => pinString
  | i + 1, pinString =>
    if pinString[i]? = some 0xFF then zeroPinPadding i (pinString.set i 0) else pinString

/-- `pin_string` as `PK11_Authenticate` gets it: the `pin_len` bytes of the PIN
and a terminating zero, with the trailing `0xFF` bytes zeroed. -/
def loginPinString (pin : Bytes) : Bytes := zeroPinPadding pin.length (pin ++ [0])

/-- The PIN the token checks: `pin_string` read as a C string. -/
def submittedPin (pin : Bytes) : Bytes := cString (loginPinString pin)

/-- What `vcard_emul_login` returns, leaves in the slot, hands to
`PK11_Authenticate`, and hands to `g_free`. -/
structure LoginResult where
  status : Vcard7816Status
  slot : SlotLogin
  authenticated : Option Bytes
  freed : Option Bytes

/-- `vcard_emul_login`: copy the PIN, zero its trailing `0xFF`, force a logout,
authenticate, and wipe `pin_len` bytes of the copy before freeing it. -/
def vcardEmulLogin (nssEmulInit logoutSucceeds : Bool) (slot : SlotLogin) (pin : Bytes) :
    LoginResult :=
  if !nssEmulInit then ⟨.errorConditionNotSatisfied, slot, none, none⟩
  else
    let pinString := loginPinString pin
    let (accepted, slot) := pk11Authenticate (vcardEmulLogout true logoutSucceeds slot) pinString
    ⟨if accepted then .success else .errorConditionNotSatisfied, slot, some pinString,
      some (writeBytes pinString 0 (List.replicate pin.length 0))⟩

/-! ## The PIN copy -/

example : submittedPin [0x31, 0xFF, 0x32, 0xFF, 0xFF] = [0x31, 0xFF, 0x32] := by decide

/-! ## One call -/

section OneCall

variable {slot : SlotLogin}

/-- After initialisation, a logout leaves the slot logged in exactly when it was
and `PK11_Logout` failed. -/
theorem vcardEmulLogout_eq (logoutSucceeds : Bool) (slot : SlotLogin) :
    vcardEmulLogout true logoutSucceeds slot =
      { slot with loggedIn := slot.loggedIn && !logoutSucceeds } := by
  cases slot with
  | mk needLogin pin loggedIn => cases loggedIn <;> cases logoutSucceeds <;> rfl

/-- On a slot that needs a login, a login succeeds when the session it did not
manage to close is still open, or when the token takes the PIN. -/
theorem vcardEmulLogin_eq (needs : slot.needLogin = true) (logoutSucceeds : Bool) (pin : Bytes) :
    (vcardEmulLogin true logoutSucceeds slot pin).status =
        (if (slot.loggedIn && !logoutSucceeds) || submittedPin pin == slot.pin then .success
          else .errorConditionNotSatisfied) ∧
      (vcardEmulLogin true logoutSucceeds slot pin).slot =
        { slot with loggedIn := (slot.loggedIn && !logoutSucceeds) || submittedPin pin == slot.pin } := by
  obtain ⟨needLogin, tokenPin, loggedIn⟩ := slot
  subst needs
  by_cases accepted : cString (loginPinString pin) = tokenPin <;>
    cases loggedIn <;> cases logoutSucceeds <;>
    simp [vcardEmulLogin, vcardEmulLogout_eq, pk11Authenticate, submittedPin, accepted]

/-- Once a login has succeeded, a login whose forced `PK11_Logout` fails is
accepted whatever PIN it submits, and `vcard_emul_is_logged_in` reports the old
session. -/
theorem vcardEmulLogin_any_pin_after_failed_logout (needs : slot.needLogin = true)
    (logoutSucceeds : Bool) (pin other : Bytes) (correct : submittedPin pin = slot.pin) :
    (vcardEmulLogin true logoutSucceeds slot pin).status = .success ∧
      (vcardEmulLogin true false (vcardEmulLogin true logoutSucceeds slot pin).slot other).status =
        .success ∧
      vcardEmulIsLoggedIn true
        (vcardEmulLogin true false (vcardEmulLogin true logoutSucceeds slot pin).slot other).slot =
          .ok 1 := by
  obtain ⟨firstStatus, firstSlot⟩ := vcardEmulLogin_eq needs logoutSucceeds pin
  have opened : (vcardEmulLogin true logoutSucceeds slot pin).slot = { slot with loggedIn := true } := by
    simp [firstSlot, correct]
  obtain ⟨secondStatus, secondSlot⟩ := @vcardEmulLogin_eq { slot with loggedIn := true } needs false other
  refine ⟨by simp [firstStatus, correct], ?_, ?_⟩ <;> rw [opened]
  · simp [secondStatus]
  · rw [secondSlot]
    simp [vcardEmulIsLoggedIn, needs]

/-- The PIN `1234` padded with two `0xFF`, then `9999` with a failed logout. -/
theorem vcardEmulLogin_wrong_pin_accepted :
    submittedPin [0x39, 0x39, 0x39, 0x39] ≠ [0x31, 0x32, 0x33, 0x34] ∧
    (vcardEmulLogin true true ⟨true, [0x31, 0x32, 0x33, 0x34], false⟩
      [0x31, 0x32, 0x33, 0x34, 0xFF, 0xFF]).status = .success ∧
    (vcardEmulLogin true false (vcardEmulLogin true true ⟨true, [0x31, 0x32, 0x33, 0x34], false⟩
      [0x31, 0x32, 0x33, 0x34, 0xFF, 0xFF]).slot [0x39, 0x39, 0x39, 0x39]).status = .success ∧
    vcardEmulIsLoggedIn true (vcardEmulLogin true false
      (vcardEmulLogin true true ⟨true, [0x31, 0x32, 0x33, 0x34], false⟩
        [0x31, 0x32, 0x33, 0x34, 0xFF, 0xFF]).slot [0x39, 0x39, 0x39, 0x39]).slot = .ok 1 :=
  ⟨by decide, vcardEmulLogin_any_pin_after_failed_logout rfl true _ _ (by decide)⟩

end OneCall

/-! ## Runs -/

/-- The calls of the session manager on one card, each with the outcome of the
`PK11_Logout` it would reach. -/
inductive SessionCall where
  | login (pin : Bytes) (logoutSucceeds : Bool)
  | logout (logoutSucceeds : Bool)
  | reset (logoutSucceeds : Bool)
  | isLoggedIn
  deriving DecidableEq, Repr

/-- Whether the call would reach a `PK11_Logout` that fails. -/
def SessionCall.logoutFails : SessionCall → Bool
  | .login _ logoutSucceeds | .logout logoutSucceeds | .reset logoutSucceeds => !logoutSucceeds
  | .isLoggedIn => false

/-- The slot after a call. -/
def sessionStep (nssEmulInit : Bool) (slot : SlotLogin) : SessionCall → SlotLogin
  | .login pin logoutSucceeds => (vcardEmulLogin nssEmulInit logoutSucceeds slot pin).slot
  | .logout logoutSucceeds => vcardEmulLogout nssEmulInit logoutSucceeds slot
  | .reset logoutSucceeds => vcardEmulReset nssEmulInit logoutSucceeds slot
  | .isLoggedIn => slot

/-- The slot before call `i` of a run. -/
def slotAt (nssEmulInit : Bool) (slot : SlotLogin) (calls : List SessionCall) (i : Nat) : SlotLogin :=
  (calls.take i).foldl (sessionStep nssEmulInit) slot

/-- What the session manager is for: a login with the token's PIN opens the
session, any other login, a logout and a reset close it, and the query leaves it
as it is. -/
def sessionPromise (tokenPin : Bytes) (loggedIn : Bool) : SessionCall → Bool
  | .login pin _ => submittedPin pin == tokenPin
  | .logout _ | .reset _ => false
  | .isLoggedIn => loggedIn

/-- The promised session before call `i` of a run. -/
def promisedAt (tokenPin : Bytes) (loggedIn : Bool) (calls : List SessionCall) (i : Nat) : Bool :=
  (calls.take i).foldl (sessionPromise tokenPin) loggedIn

section ReliableLogout

variable {slot : SlotLogin}

/-- A call whose `PK11_Logout` would not fail takes the slot where the promise says. -/
theorem sessionStep_promise (needs : slot.needLogin = true) {call : SessionCall}
    (reliable : call.logoutFails = false) :
    sessionStep true slot call = { slot with loggedIn := sessionPromise slot.pin slot.loggedIn call } := by
  cases call with
  | login pin logoutSucceeds =>
    obtain rfl : logoutSucceeds = true := by simpa [SessionCall.logoutFails] using reliable
    simp [sessionStep, (vcardEmulLogin_eq needs true pin).2, sessionPromise]
  | logout logoutSucceeds | reset logoutSucceeds =>
    obtain rfl : logoutSucceeds = true := by simpa [SessionCall.logoutFails] using reliable
    simp [sessionStep, vcardEmulReset, vcardEmulLogout_eq, sessionPromise]
  | isLoggedIn => rfl

/-- A run of calls whose `PK11_Logout` would not fail takes the slot where the promise says. -/
theorem foldl_sessionStep_promise (calls : List SessionCall) (needs : slot.needLogin = true)
    (reliable : ∀ call ∈ calls, call.logoutFails = false) :
    calls.foldl (sessionStep true) slot =
      { slot with loggedIn := calls.foldl (sessionPromise slot.pin) slot.loggedIn } := by
  induction calls generalizing slot with
  | nil => rfl
  | cons call calls inductionHypothesis =>
    have stepped := sessionStep_promise needs (reliable call (List.mem_cons_self _ _))
    simp only [List.foldl_cons, stepped]
    exact @inductionHypothesis { slot with loggedIn := sessionPromise slot.pin slot.loggedIn call } needs
      fun later member => reliable later (List.mem_cons_of_mem _ member)

/-- With a `PK11_Logout` that never fails, every run on a slot that needs a login
is the promised session: before each call the slot is logged in exactly as
`sessionPromise` says, `vcard_emul_is_logged_in` answers 1 exactly then, and a
login succeeds exactly when the token takes the PIN it submits. -/
theorem sessionRun_refines_promise (calls : List SessionCall) (needs : slot.needLogin = true)
    (reliable : ∀ call ∈ calls, call.logoutFails = false) (i : Nat) :
    slotAt true slot calls i = { slot with loggedIn := promisedAt slot.pin slot.loggedIn calls i } ∧
      vcardEmulIsLoggedIn true (slotAt true slot calls i) =
        .ok (if promisedAt slot.pin slot.loggedIn calls i then 1 else 0) ∧
      ∀ pin logoutSucceeds, calls[i]? = some (.login pin logoutSucceeds) →
        ((vcardEmulLogin true logoutSucceeds (slotAt true slot calls i) pin).status = .success ↔
          submittedPin pin = slot.pin) := by
  have atCall : slotAt true slot calls i =
      { slot with loggedIn := promisedAt slot.pin slot.loggedIn calls i } :=
    foldl_sessionStep_promise _ needs fun call member => reliable call (List.mem_of_mem_take member)
  refine ⟨atCall, by simp [atCall, vcardEmulIsLoggedIn, needs], ?_⟩
  intro pin logoutSucceeds isLogin
  obtain rfl : logoutSucceeds = true := by
    simpa [SessionCall.logoutFails] using reliable _ (List.getElem?_mem isLogin)
  rw [atCall, (@vcardEmulLogin_eq { slot with loggedIn := promisedAt slot.pin slot.loggedIn calls i }
    needs true pin).1]
  simp

/-- A login with the right PIN, a query, a logout and a query. -/
theorem sessionRun_refines_promise_sample :
    (∀ call ∈ [SessionCall.login [0x31] true, .isLoggedIn, .logout true, .isLoggedIn],
      call.logoutFails = false) ∧
    vcardEmulIsLoggedIn true (slotAt true ⟨true, [0x31], false⟩
      [.login [0x31] true, .isLoggedIn, .logout true, .isLoggedIn] 1) =
      .ok (if promisedAt [0x31] false [.login [0x31] true, .isLoggedIn, .logout true, .isLoggedIn] 1
        then 1 else 0) :=
  ⟨by decide, (@sessionRun_refines_promise ⟨true, [0x31], false⟩ _ rfl (by decide) 1).2.1⟩

end ReliableLogout

end VCardEmul
