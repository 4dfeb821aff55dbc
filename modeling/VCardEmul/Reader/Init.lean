import VCardEmul.Reader.Emul
import VCardEmul.Options.Accepted

/-!
# What `vcard_emul_init` makes of its options

`vcard_emul_init` runs once. Under PC/SC a passthru card type for hardware
readers excludes soft cards and hands everything to the PC/SC layer. Otherwise it
opens the NSS database and sets up one reader for each soft reader of the options
whose slot the database knows; a reader gets a card when at least one of its
certificate nicknames is found. Without hardware readers the call succeeds, and
the emulator counts as initialised, only when the loop's flag `has_readers` is
set, which the first soft reader that got certificates does and nothing undoes
(`vcardEmulInitSoftLoop_hasReaders`); with hardware readers it goes on to the
module loop of `VCardEmul.Reader.Registry` and always succeeds.

Every soft reader the option parser returns has a card type, so the card
`vcard_emul_make_card` builds for it is never dropped for its type.

`vcard_emul_init` sets `vcard_emul_init_called` before anything else and nothing
clears it, and `vcard_emul_finalize` only shuts the NSS context down: the first
call of `vcard_emul_init` in a process decides `nss_emul_init`, the flag every
entry point checks, for the rest of the process (`lifecycleRun_first_init_decides`).
-/

namespace VCardEmul

/-- What the NSS database answers to the soft-card loop of `vcard_emul_init`. -/
structure SoftTokens where
  /-- `PK11_FindSlotByName`: the slot of a name, `none` when there is none. -/
  findSlotByName : Bytes → Option TokenSlot
  /-- `PK11_FindCertFromNickname`: whether a certificate of the nickname is found. -/
  findCertFromNickname : Bytes → Bool

/-- `vcard_emul_get_type`: the reader's own card type unless it is
`VCARD_EMUL_NONE`, else `vcard_emul_type_select`'s, which is outside this file. -/
def vcardEmulGetType (defaultType typeSelect : VCardEmulType) : VCardEmulType :=
  if defaultType != .vcardEmulNone then defaultType else typeSelect

/-- The soft-card loop body of `vcard_emul_init` for one reader of the options:
nothing when its slot is not found, else the reader, the calls it made, and
whether any of its certificates was found. `vcard_emul_make_card` gives `NULL`
when the reader's card type resolves to `VCARD_EMUL_NONE`. -/
def vcardEmulInitSoftCard (tokens : SoftTokens) (typeSelect : VCardEmulType) (reader : VirtualReaderOptions) :
    Option (VReader × List InsertCall × Bool) :=
  match tokens.findSlotByName reader.name with
  | none => none
  | some slot =>
    if reader.certName.any tokens.findCertFromNickname then
      let card : Option VCard :=
        if vcardEmulGetType reader.cardType typeSelect != .vcardEmulNone then some ⟨slot.series⟩ else none
      let (vreader, calls) := vcardEmulInitSoftReader slot (some card)
      some (vreader, calls, true)
    else
      let (vreader, calls) := vcardEmulInitSoftReader slot none
      some (vreader, calls, false)

/-- The soft-card loop of `vcard_emul_init` over the readers of the options,
from the flag `has_readers` as the loop found it: the readers it set up with
their calls, and the flag as the loop leaves it. -/
def vcardEmulInitSoftLoop (tokens : SoftTokens) (typeSelect : VCardEmulType) :
    List VirtualReaderOptions → Bool → List (VReader × List InsertCall) × Bool
  | [], hasReaders => ([], hasReaders)
  | reader :: rest, hasReaders =>
    match vcardEmulInitSoftCard tokens typeSelect reader with
    | none => vcardEmulInitSoftLoop tokens typeSelect rest hasReaders
    | some (vreader, calls, certified) =>
      let later := vcardEmulInitSoftLoop tokens typeSelect rest (hasReaders || certified)
      ((vreader, calls) :: later.1, later.2)

/-- What one call of `vcard_emul_init` returns and leaves: its status,
`nss_emul_init`, the soft readers it set up with their calls, and whether it
goes on to the hardware module loop. -/
structure InitResult where
  status : VCardEmulError
  nssEmulInit : Bool
  softReaders : List (VReader × List InsertCall)
  hardwareLoop : Bool

/-- `vcard_emul_init` up to its hardware module loop, with `initCalled` for
`vcard_emul_init_called`, `pcsc` for a build with `ENABLE_PCSC`, and the outcomes
of `capcsc_init` and `NSS_InitContext`. -/
def vcardEmulInit (initCalled nssEmulInit pcsc capcscFails nssInitFails : Bool) (tokens : SoftTokens)
    (typeSelect : VCardEmulType) (options : VCardEmulOptions) : InitResult :=
  if initCalled then ⟨.initAlreadyInited, nssEmulInit, [], false⟩
  else if pcsc && options.useHw != .useHwNo && options.hwCardType == .vcardEmulPassthru then
    if !options.vreader.isEmpty || capcscFails then ⟨.fail, nssEmulInit, [], false⟩
    else ⟨.ok, nssEmulInit, [], false⟩
  else if nssInitFails then ⟨.fail, nssEmulInit, [], false⟩
  else
    let soft := vcardEmulInitSoftLoop tokens typeSelect options.vreader false
    if options.useHw == .useHwNo then ⟨if soft.2 then .ok else .fail, soft.2, soft.1, false⟩
    else ⟨.ok, true, soft.1, true⟩

/-- A soft reader whose slot and at least one of whose certificates are found
counts for `has_readers`. -/
theorem vcardEmulInitSoftCard_certified {tokens : SoftTokens} {typeSelect : VCardEmulType}
    {reader : VirtualReaderOptions} :
    (∃ set, vcardEmulInitSoftCard tokens typeSelect reader = some set ∧ set.2.2 = true) ↔
      (tokens.findSlotByName reader.name).isSome ∧ reader.certName.any tokens.findCertFromNickname := by
  unfold vcardEmulInitSoftCard
  split
  · simp_all
  · split_ifs <;> simp_all

/-- The loop leaves `has_readers` set exactly when it found it set or went over a
reader whose slot and one of whose certificates are found. -/
theorem vcardEmulInitSoftLoop_hasReaders (tokens : SoftTokens) (typeSelect : VCardEmulType)
    (readers : List VirtualReaderOptions) (hasReaders : Bool) :
    (vcardEmulInitSoftLoop tokens typeSelect readers hasReaders).2 = true ↔
      hasReaders = true ∨ ∃ reader ∈ readers, (tokens.findSlotByName reader.name).isSome ∧
        reader.certName.any tokens.findCertFromNickname := by
  induction readers generalizing hasReaders with
  | nil => simp [vcardEmulInitSoftLoop]
  | cons reader rest inductionHypothesis =>
    simp only [List.mem_cons, exists_eq_or_imp, vcardEmulInitSoftLoop]
    split
    · next skipped =>
      have uncounted : ¬ ((tokens.findSlotByName reader.name).isSome ∧
          reader.certName.any tokens.findCertFromNickname) := fun counted => by
        obtain ⟨_, made, -⟩ := (@vcardEmulInitSoftCard_certified tokens typeSelect reader).mpr counted
        cases skipped ▸ made
      rw [inductionHypothesis]
      simp only [uncounted, false_or]
    · next vreader calls certified made =>
      have counted : certified = true ↔ (tokens.findSlotByName reader.name).isSome ∧
          reader.certName.any tokens.findCertFromNickname := by
        rw [← vcardEmulInitSoftCard_certified, made]
        simp
      rw [inductionHypothesis, Bool.or_eq_true, counted, or_assoc]

/-- The first call of `vcard_emul_init` that is no passthru setup and opens the
database: without hardware readers it succeeds, and sets `nss_emul_init`,
exactly when the slot of some soft reader and one of its certificates are found;
with hardware readers it succeeds and sets `nss_emul_init` whatever readers there
are. -/
theorem vcardEmulInit_status {nssEmulInit pcsc capcscFails : Bool} (tokens : SoftTokens)
    (typeSelect : VCardEmulType) (options : VCardEmulOptions)
    (notPassthru : ¬ (pcsc = true ∧ options.useHw ≠ .useHwNo ∧ options.hwCardType = .vcardEmulPassthru)) :
    (options.useHw = .useHwNo →
      ((vcardEmulInit false nssEmulInit pcsc capcscFails false tokens typeSelect options).status = .ok ↔
        ∃ reader ∈ options.vreader, (tokens.findSlotByName reader.name).isSome ∧
          reader.certName.any tokens.findCertFromNickname) ∧
      (vcardEmulInit false nssEmulInit pcsc capcscFails false tokens typeSelect options).nssEmulInit =
        ((vcardEmulInit false nssEmulInit pcsc capcscFails false tokens typeSelect options).status == .ok)) ∧
    (options.useHw ≠ .useHwNo →
      (vcardEmulInit false nssEmulInit pcsc capcscFails false tokens typeSelect options).status = .ok ∧
        (vcardEmulInit false nssEmulInit pcsc capcscFails false tokens typeSelect options).nssEmulInit = true) := by
  have skipped : (pcsc && options.useHw != .useHwNo && options.hwCardType == .vcardEmulPassthru) = false := by
    simpa [Bool.and_eq_true] using notPassthru
  have hasReaders := vcardEmulInitSoftLoop_hasReaders tokens typeSelect options.vreader false
  rw [Bool.false_eq_true, false_or] at hasReaders
  simp only [vcardEmulInit, skipped, Bool.false_eq_true, if_false]
  refine ⟨fun noHw => ?_, fun hw => ?_⟩
  · simp only [noHw, beq_self_eq_true, if_true]
    rw [← hasReaders]
    cases (vcardEmulInitSoftLoop tokens typeSelect options.vreader false).2 <;> simp
  · simp [hw]

/-- A database that knows the slot `slot`, with a token of series 4, and only the
certificate `cert2`. -/
def sampleTokens : SoftTokens :=
  ⟨fun name => if name = ascii "slot" then some ⟨true, 4⟩ else none, fun nickname => nickname = ascii "cert2"⟩

/-- One soft reader with two certificates and no hardware readers. -/
def softOnlyOptions : VCardEmulOptions :=
  ⟨none, [⟨ascii "slot", ascii "reader", .vcardEmulCac, ascii "params", [ascii "cert1", ascii "cert2"]⟩],
    .vcardEmulCac, none, .useHwNo⟩

theorem softOnlyOptions_init_ok :
    ¬ (false = true ∧ softOnlyOptions.useHw ≠ .useHwNo ∧ softOnlyOptions.hwCardType = .vcardEmulPassthru) ∧
      (vcardEmulInit false false false false false sampleTokens .vcardEmulCac softOnlyOptions).status = .ok :=
  ⟨by decide, ((vcardEmulInit_status sampleTokens .vcardEmulCac softOnlyOptions (by decide)).1 rfl).1.mpr
    ⟨_, List.mem_singleton_self _, rfl, rfl⟩⟩

/-- Every soft reader the option parser returns gets, from `vcard_emul_init`, a
card of its slot's series when its slot and one of its certificates are found:
the card is saved for forced insertion, and held when the slot has a token. -/
theorem vcardEmulInitSoftCard_parsed {pcsc : Bool} {typeFromString : Bytes → VCardEmulType} {args : Bytes}
    {options : VCardEmulOptions} (accepted : vcardEmulOptions pcsc typeFromString args = some (.ok options))
    (tokens : SoftTokens) (typeSelect : VCardEmulType) {reader : VirtualReaderOptions}
    (member : reader ∈ options.vreader) {slot : TokenSlot} (found : tokens.findSlotByName reader.name = some slot)
    (certified : reader.certName.any tokens.findCertFromNickname = true) :
    ∃ vreader calls, vcardEmulInitSoftCard tokens typeSelect reader = some (vreader, calls, true) ∧
      vreader.emul.savedVcard = some ⟨slot.series⟩ ∧
      vreader.card = if slot.present then some ⟨slot.series⟩ else none := by
  have typed := ((optionsLoop_wellFormed defaultOptions_wellFormed accepted).readers reader member).typed
  have resolved : vcardEmulGetType reader.cardType typeSelect = reader.cardType := by
    simp [vcardEmulGetType, typed]
  refine ⟨_, _, by simp only [vcardEmulInitSoftCard, found, certified, if_true, resolved]; rfl, ?_, ?_⟩
  · simp [vcardEmulInitSoftReader, vcardEmulInitSeries_fst, resolved, typed]
  · simp [vcardEmulInitSoftReader, vcardEmulInitSeries_fst, vreaderInsertCard, resolved, typed]

/-- The options of `soft=(slot,reader,CAC,params,cert1,cert2),use_hw=no`. -/
def softOnlyOptionString : Bytes := ascii "soft=(slot,reader,CAC,params,cert1,cert2),use_hw=no"

theorem softOnlyOptionString_card :
    vcardEmulOptions false cacTypeOnly softOnlyOptionString = some (.ok softOnlyOptions) ∧
      ∃ vreader calls, vcardEmulInitSoftCard sampleTokens .vcardEmulCac
          ⟨ascii "slot", ascii "reader", .vcardEmulCac, ascii "params", [ascii "cert1", ascii "cert2"]⟩ =
          some (vreader, calls, true) ∧
        vreader.emul.savedVcard = some ⟨4⟩ ∧ vreader.card = if true then some ⟨4⟩ else none :=
  have accepted : vcardEmulOptions false cacTypeOnly softOnlyOptionString = some (.ok softOnlyOptions) := rfl
  ⟨accepted, vcardEmulInitSoftCard_parsed accepted sampleTokens .vcardEmulCac (List.mem_singleton_self _) rfl rfl⟩

/-! ## Initialisation once per process -/

/-- The process-wide state `vcard_emul_init` and `vcard_emul_finalize` leave:
`vcard_emul_init_called`, `nss_emul_init`, and whether `nss_ctx` holds an open
NSS context. -/
structure EmulGlobals where
  initCalled : Bool
  nssEmulInit : Bool
  nssContext : Bool
  deriving DecidableEq, Repr

/-- At process start the three statics are clear. -/
def EmulGlobals.start : EmulGlobals := ⟨false, false, false⟩

/-- A call of `vcard_emul_init`, with the answers of PC/SC and NSS, or of
`vcard_emul_finalize`, with whether `NSS_ShutdownContext` fails. -/
inductive LifecycleCall where
  | init (pcsc capcscFails nssInitFails : Bool) (tokens : SoftTokens) (typeSelect : VCardEmulType)
      (options : VCardEmulOptions)
  | finalize (shutdownFails : Bool)

def LifecycleCall.isInit : LifecycleCall → Bool
  | .init .. => true
  | .finalize _ => false

/-- One call: `vcard_emul_init` sets `vcard_emul_init_called` first thing, and
`nss_ctx` holds what `NSS_InitContext` returned when the call gets that far (past
the passthru path); `vcard_emul_finalize` shuts the context down and clears
`nss_ctx`, and nothing else. -/
def lifecycleStep (g : EmulGlobals) : LifecycleCall → EmulGlobals × VCardEmulError
  | .init pcsc capcscFails nssInitFails tokens typeSelect options =>
    let result := vcardEmulInit g.initCalled g.nssEmulInit pcsc capcscFails nssInitFails tokens typeSelect options
    let passthru := pcsc && options.useHw != .useHwNo && options.hwCardType == .vcardEmulPassthru
    (⟨true, result.nssEmulInit, if g.initCalled || passthru then g.nssContext else !nssInitFails⟩, result.status)
  | .finalize shutdownFails => if shutdownFails then (g, .fail) else ({ g with nssContext := false }, .ok)

/-- The statics after a run of calls. -/
def lifecycleRun (g : EmulGlobals) (calls : List LifecycleCall) : EmulGlobals :=
  calls.foldl (fun g call => (lifecycleStep g call).1) g

/-- Once `vcard_emul_init` has been called, every call leaves `nss_emul_init` as
it is, and a call of `vcard_emul_init` returns `VCARD_EMUL_INIT_ALREADY_INITED`. -/
theorem lifecycleStep_initialised {g : EmulGlobals} (called : g.initCalled = true) (call : LifecycleCall) :
    (lifecycleStep g call).1.initCalled = true ∧ (lifecycleStep g call).1.nssEmulInit = g.nssEmulInit ∧
      (call.isInit = true → (lifecycleStep g call).2 = .initAlreadyInited) := by
  cases call with
  | init => simp [lifecycleStep, vcardEmulInit, called, LifecycleCall.isInit]
  | finalize shutdownFails => cases shutdownFails <;> simp [lifecycleStep, called, LifecycleCall.isInit]

theorem lifecycleRun_initialised {g : EmulGlobals} (called : g.initCalled = true) (calls : List LifecycleCall) :
    (lifecycleRun g calls).initCalled = true ∧ (lifecycleRun g calls).nssEmulInit = g.nssEmulInit := by
  induction calls generalizing g with
  | nil => exact ⟨called, rfl⟩
  | cons call rest inductionHypothesis =>
    obtain ⟨stillCalled, kept, -⟩ := lifecycleStep_initialised called call
    obtain ⟨endCalled, endKept⟩ := inductionHypothesis stillCalled
    exact ⟨endCalled, endKept.trans kept⟩

/-- Calls of `vcard_emul_finalize` alone change neither flag. -/
theorem lifecycleRun_finalizes {g : EmulGlobals} {calls : List LifecycleCall}
    (finalizesOnly : ∀ call ∈ calls, call.isInit = false) :
    (lifecycleRun g calls).initCalled = g.initCalled ∧ (lifecycleRun g calls).nssEmulInit = g.nssEmulInit := by
  induction calls generalizing g with
  | nil => exact ⟨rfl, rfl⟩
  | cons call rest inductionHypothesis =>
    have restOnly : ∀ later ∈ rest, later.isInit = false := fun later member =>
      finalizesOnly later (List.mem_cons_of_mem _ member)
    cases call with
    | init => exact absurd (finalizesOnly _ (List.mem_cons_self _ _)) (by simp [LifecycleCall.isInit])
    | finalize shutdownFails =>
      obtain ⟨endCalled, endKept⟩ := @inductionHypothesis (lifecycleStep g (.finalize shutdownFails)).1 restOnly
      cases shutdownFails <;> exact ⟨endCalled, endKept⟩

/-- The first call of `vcard_emul_init` in a process decides `nss_emul_init` for
good: no later call of `vcard_emul_init` does anything but return
`VCARD_EMUL_INIT_ALREADY_INITED`, and `vcard_emul_finalize` shuts the NSS context
down without clearing `nss_emul_init`. An emulator whose first initialisation
failed stays uninitialised, and one whose context was shut down still counts as
initialised. -/
theorem lifecycleRun_first_init_decides {before after : List LifecycleCall}
    (finalizesOnly : ∀ call ∈ before, call.isInit = false) (pcsc capcscFails nssInitFails : Bool)
    (tokens : SoftTokens) (typeSelect : VCardEmulType) (options : VCardEmulOptions) :
    (lifecycleRun EmulGlobals.start (before ++ .init pcsc capcscFails nssInitFails tokens typeSelect options :: after)).nssEmulInit =
        (vcardEmulInit false false pcsc capcscFails nssInitFails tokens typeSelect options).nssEmulInit ∧
      ∀ pcsc' capcscFails' nssInitFails' tokens' typeSelect' options',
        (lifecycleStep (lifecycleRun EmulGlobals.start
            (before ++ .init pcsc capcscFails nssInitFails tokens typeSelect options :: after))
          (.init pcsc' capcscFails' nssInitFails' tokens' typeSelect' options')).2 = .initAlreadyInited := by
  obtain ⟨beforeCalled, beforeKept⟩ := @lifecycleRun_finalizes EmulGlobals.start before finalizesOnly
  have first : (lifecycleStep (lifecycleRun EmulGlobals.start before)
      (.init pcsc capcscFails nssInitFails tokens typeSelect options)).1.initCalled = true := rfl
  obtain ⟨endCalled, endKept⟩ := lifecycleRun_initialised first after
  rw [lifecycleRun, List.foldl_append, List.foldl_cons]
  refine ⟨endKept.trans ?_, fun pcsc' capcscFails' nssInitFails' tokens' typeSelect' options' =>
    (lifecycleStep_initialised endCalled _).2.2 rfl⟩
  simp only [lifecycleStep]
  rw [beforeCalled, beforeKept]
  rfl

/-- The first initialisation succeeds with hardware readers; after
`vcard_emul_finalize` the context is shut down and `nss_emul_init` is still set. -/
theorem finalizedEmulator_still_initialised :
    (∀ call ∈ ([] : List LifecycleCall), call.isInit = false) ∧
      (lifecycleRun EmulGlobals.start ([] ++ .init false false false sampleTokens .vcardEmulCac defaultOptions ::
          [.finalize false])).nssEmulInit = true ∧
      (lifecycleRun EmulGlobals.start ([] ++ .init false false false sampleTokens .vcardEmulCac defaultOptions ::
          [.finalize false])).nssContext = false :=
  ⟨by simp, (lifecycleRun_first_init_decides (by simp) false false false sampleTokens .vcardEmulCac defaultOptions).1,
    rfl⟩

end VCardEmul
