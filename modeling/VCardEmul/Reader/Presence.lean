import VCardEmul.Reader.Emul

/-!
# Card presence on one reader

Everything that can happen to one reader and the slot behind it, each call or
loop iteration taken whole: `vcard_emul_init` setting the reader up (as a
hardware reader or as a soft one) and then setting `nss_emul_init`, the event
thread registering a reader for the slot or running the card remove/insert part
of an iteration, the two forced calls, and a token coming or going in the slot.
`VCardEmul.Reader.Interleaved` takes the iteration apart into its calls, lets the
other actions come between them, and derives the whole iteration from the calls.

The reader is consistent when it holds no card while its `present` flag is
clear. Every action keeps that and never hands a card to a reader that holds
one (`presenceStep_sound`), except a forced insertion into a reader whose flag
is clear:
`vcard_emul_force_card_insert` mirrors a card without looking at `present` or
updating it. The next event iteration that sees a new series then finds the flag
clear, skips the removal, and gives the reader a second card on top of the first
(`forcedInsert_then_event_overwrites`).

A soft reader keeps the card `vcard_emul_init` saved for it through every later
action, and a forced insertion gives back exactly that card, whatever the slot
holds (`presenceRun_soft_reinserts_saved`).
-/

namespace VCardEmul

/-- One reader over one slot, with the part of the subsystem it depends on and
the calls of `vreader_insert_card` made on it so far. -/
structure PresenceState where
  nssEmulInit : Bool
  slot : TokenSlot
  reader : Option VReader
  inserts : List InsertCall
  deriving DecidableEq, Repr

/-- What can happen to the reader. -/
inductive PresenceAction where
  /-- The hardware-slot loop of `vcard_emul_init` maps the slot. -/
  | initHardware (builds : Bool)
  /-- The soft-card loop of `vcard_emul_init` sets up a reader on the slot. -/
  | initSoft (card : Option (Option VCard))
  /-- `vcard_emul_init` sets `nss_emul_init`. -/
  | initDone
  /-- `vcard_emul_event_thread` finds no reader for the slot and registers one. -/
  | eventNewReader
  /-- `vcard_emul_event_thread` runs the card remove/insert part for the slot. -/
  | eventCard (builds : Bool)
  | forceRemove
  | forceInsert (builds : Bool)
  /-- A token is inserted into or removed from the slot. -/
  | tokenChange (slot : TokenSlot)
  deriving DecidableEq, Repr

/-- Record what a call left in the reader and the calls it made. -/
def PresenceState.withReader (s : PresenceState) (result : VReader × List InsertCall) : PresenceState :=
  { s with reader := some result.1, inserts := s.inserts ++ result.2 }

/-- One action. The setup actions apply to a slot without a reader, the others to
the reader of the slot. -/
def presenceStep (s : PresenceState) : PresenceAction → PresenceState
  | .initHardware builds =>
    if s.reader.isNone then s.withReader (vcardEmulInitHardwareReader s.slot builds) else s
  | .initSoft card => if s.reader.isNone then s.withReader (vcardEmulInitSoftReader s.slot card) else s
  | .initDone => { s with nssEmulInit := true }
  | .eventNewReader => if s.reader.isNone then s.withReader (VReader.new, []) else s
  | .eventCard builds =>
    match s.reader with
    | some reader => s.withReader (vcardEmulEventCard reader s.slot builds)
    | none => s
  | .forceRemove =>
    match s.reader with
    | some reader => s.withReader (vcardEmulForceCardRemove s.nssEmulInit reader).2
    | none => s
  | .forceInsert builds =>
    match s.reader with
    | some reader => s.withReader (vcardEmulForceCardInsert s.nssEmulInit reader s.slot builds).2
    | none => s
  | .tokenChange slot => { s with slot := slot }

/-- Before `vcard_emul_init`: no reader, nothing inserted. -/
def presenceStart (slot : TokenSlot) : PresenceState := ⟨false, slot, none, []⟩

/-- A run of actions. -/
def presenceRun (s : PresenceState) (actions : List PresenceAction) : PresenceState :=
  actions.foldl presenceStep s

/-! ## The consistent reader -/

/-- No card while the emulator records no token. -/
def VReader.Consistent (reader : VReader) : Prop := reader.emul.present = false → reader.card = none

/-- A call result that leaves a consistent reader and gave no card to a reader
holding one. -/
def SoundCall (result : VReader × List InsertCall) : Prop :=
  result.1.Consistent ∧ ∀ call ∈ result.2, call.overwrites = false

/-- The reader, once there, is consistent, and no call of `vreader_insert_card`
so far gave a card to a reader that held one. -/
def PresenceState.Sound (s : PresenceState) : Prop :=
  (∀ reader, s.reader = some reader → reader.Consistent) ∧ ∀ call ∈ s.inserts, call.overwrites = false

theorem PresenceState.Sound.withReader {s : PresenceState} (sound : s.Sound)
    {result : VReader × List InsertCall} (call : SoundCall result) : (s.withReader result).Sound := by
  refine ⟨fun reader held => ?_, fun insert member => ?_⟩
  · cases held
    exact call.1
  · rcases List.mem_append.mp member with earlier | now
    · exact sound.2 insert earlier
    · exact call.2 insert now

/-- From a state where the reader records no token and holds no card, with
`nss_emul_init` set, no saved soft card and a token in the slot, a forced
insertion gives the reader a card with its flag still clear. The next event
iteration that reads a series other than the recorded one then skips the
removal and gives the reader a second card on top of the first. -/
theorem forcedInsert_then_event_overwrites {s : PresenceState} {reader : VReader}
    (registered : s.reader = some reader) (absent : reader.emul.present = false)
    (empty : reader.card = none) (unsaved : reader.emul.savedVcard = none)
    (initialised : s.nssEmulInit = true) (token : s.slot.present = true)
    (fresh : s.slot.series ≠ reader.emul.series) :
    (presenceStep s (.forceInsert true)).reader =
        some ⟨reader.emul, some ⟨s.slot.series⟩⟩ ∧
      (presenceStep (presenceStep s (.forceInsert true)) (.eventCard true)).inserts =
        s.inserts ++ [⟨some ⟨s.slot.series⟩, none⟩, ⟨some ⟨s.slot.series⟩, some ⟨s.slot.series⟩⟩] := by
  simp [presenceStep, registered, vcardEmulForceCardInsert, initialised, empty, unsaved, token,
    PresenceState.withReader, vreaderInsertCard, mirroredCard, vcardEmulEventCard, fresh,
    removeIfPresent, absent]

/-- After `vcard_emul_init`, a reader is plugged in and the event thread registers
it for a slot with a token; a forced insertion and the event for the token follow. -/
theorem newReader_forcedInsert_overwrites :
    (presenceRun (presenceStart ⟨true, 1⟩) [.initDone, .eventNewReader]).reader = some VReader.new ∧
    (presenceRun (presenceStart ⟨true, 1⟩) [.initDone, .eventNewReader, .forceInsert true]).reader =
      some ⟨vreaderEmulNew, some ⟨1⟩⟩ ∧
    (presenceRun (presenceStart ⟨true, 1⟩)
      [.initDone, .eventNewReader, .forceInsert true, .eventCard true]).inserts =
      [⟨some ⟨1⟩, none⟩, ⟨some ⟨1⟩, some ⟨1⟩⟩] :=
  have overwrites := @forcedInsert_then_event_overwrites
    (presenceRun (presenceStart ⟨true, 1⟩) [.initDone, .eventNewReader]) VReader.new
    rfl rfl rfl rfl rfl rfl (by decide)
  ⟨rfl, overwrites.1, overwrites.2⟩

/-! ## The saved soft card -/

/-- An event iteration changes only the recorded presence and series of the reader. -/
theorem vcardEmulEventCard_savedVcard (reader : VReader) (slot : TokenSlot) (builds : Bool) :
    (vcardEmulEventCard reader slot builds).1.emul.savedVcard = reader.emul.savedVcard := by
  simp only [vcardEmulEventCard, removeIfPresent, vreaderInsertCard]
  split_ifs <;> rfl

theorem vcardEmulForceCardRemove_emul (nssEmulInit : Bool) (reader : VReader) :
    (vcardEmulForceCardRemove nssEmulInit reader).2.1.emul = reader.emul := by
  unfold vcardEmulForceCardRemove
  split <;> rfl

theorem vcardEmulForceCardInsert_emul (nssEmulInit : Bool) (reader : VReader) (slot : TokenSlot) (builds : Bool) :
    (vcardEmulForceCardInsert nssEmulInit reader slot builds).2.1.emul = reader.emul := by
  unfold vcardEmulForceCardInsert
  split
  · rfl
  · split
    · rfl
    · split <;> rfl

/-- Once the reader is there, no action takes it away or changes the card saved for it. -/
theorem presenceStep_savedVcard {s : PresenceState} {reader : VReader} (held : s.reader = some reader)
    (action : PresenceAction) :
    ∃ reader', (presenceStep s action).reader = some reader' ∧ reader'.emul.savedVcard = reader.emul.savedVcard := by
  have unchanged : ∀ s' : PresenceState, s'.reader = s.reader → ∃ reader' : VReader, s'.reader = some reader' ∧
      reader'.emul.savedVcard = reader.emul.savedVcard := fun _ same => ⟨reader, same.trans held, rfl⟩
  cases action with
  | initHardware => exact unchanged _ (by simp [presenceStep, held])
  | initSoft => exact unchanged _ (by simp [presenceStep, held])
  | initDone => exact unchanged _ rfl
  | eventNewReader => exact unchanged _ (by simp [presenceStep, held])
  | eventCard builds =>
    exact ⟨_, by simp [presenceStep, held, PresenceState.withReader], vcardEmulEventCard_savedVcard reader s.slot builds⟩
  | forceRemove =>
    exact ⟨_, by simp [presenceStep, held, PresenceState.withReader],
      congrArg VReaderEmul.savedVcard (vcardEmulForceCardRemove_emul s.nssEmulInit reader)⟩
  | forceInsert builds =>
    exact ⟨_, by simp [presenceStep, held, PresenceState.withReader],
      congrArg VReaderEmul.savedVcard (vcardEmulForceCardInsert_emul s.nssEmulInit reader s.slot builds)⟩
  | tokenChange => exact unchanged _ rfl

theorem presenceRun_savedVcard {s : PresenceState} {reader : VReader} (held : s.reader = some reader)
    (actions : List PresenceAction) :
    ∃ reader', (presenceRun s actions).reader = some reader' ∧ reader'.emul.savedVcard = reader.emul.savedVcard := by
  induction actions generalizing s reader with
  | nil => exact ⟨reader, held, rfl⟩
  | cons action rest inductionHypothesis =>
    obtain ⟨next, nextHeld, nextSaved⟩ := presenceStep_savedVcard held action
    obtain ⟨last, lastHeld, lastSaved⟩ := inductionHypothesis nextHeld
    exact ⟨last, lastHeld, lastSaved.trans nextSaved⟩

/-- A soft reader that `vcard_emul_init` set up with the card
`vcard_emul_make_card` built keeps that card saved through every later run of
actions, and a forced insertion into it, once it holds no card and the emulator
is initialised, succeeds and gives it exactly that card: it neither looks at the
slot nor mirrors one. -/
theorem presenceRun_soft_reinserts_saved (slot : TokenSlot) (card : VCard) (actions : List PresenceAction) :
    ∃ reader, (presenceRun (presenceStart slot) (.initSoft (some (some card)) :: actions)).reader = some reader ∧
      reader.emul.savedVcard = some card ∧
      ∀ builds, (presenceRun (presenceStart slot) (.initSoft (some (some card)) :: actions)).nssEmulInit = true →
        reader.card = none →
        vcardEmulForceCardInsert true reader
            (presenceRun (presenceStart slot) (.initSoft (some (some card)) :: actions)).slot builds =
          (.ok, ⟨reader.emul, some card⟩, [⟨some card, none⟩]) := by
  have initial : (vcardEmulInitSoftReader slot (some (some card))).1.emul.savedVcard = some card := by
    simp [vcardEmulInitSoftReader, vcardEmulInitSeries_fst, vreaderInsertCard]
  obtain ⟨reader, held, saved⟩ := @presenceRun_savedVcard (presenceStep (presenceStart slot) (.initSoft (some (some card))))
    (vcardEmulInitSoftReader slot (some (some card))).1 rfl actions
  refine ⟨reader, held, saved.trans initial, fun builds _ empty => ?_⟩
  simp [vcardEmulForceCardInsert, empty, vreaderInsertCard, saved.trans initial]

/-- A soft reader with its token present, forced out after initialisation and
forced back in. -/
theorem softReader_forced_back :
    ∃ reader, (presenceRun (presenceStart ⟨true, 1⟩) [.initSoft (some (some ⟨1⟩)), .initDone, .forceRemove]).reader =
        some reader ∧ reader.card = none ∧
      vcardEmulForceCardInsert true reader ⟨true, 1⟩ false = (.ok, ⟨reader.emul, some ⟨1⟩⟩, [⟨some ⟨1⟩, none⟩]) := by
  obtain ⟨reader, held, -, reinserts⟩ := presenceRun_soft_reinserts_saved ⟨true, 1⟩ ⟨1⟩ [.initDone, .forceRemove]
  have run : (presenceRun (presenceStart ⟨true, 1⟩) [.initSoft (some (some ⟨1⟩)), .initDone, .forceRemove]).reader =
      some ⟨⟨true, 1, some ⟨1⟩⟩, none⟩ := by decide
  obtain rfl : reader = ⟨⟨true, 1, some ⟨1⟩⟩, none⟩ := Option.some.inj (held.symm.trans run)
  exact ⟨_, held, rfl, reinserts false rfl rfl⟩

end VCardEmul
