import VCardEmul.Basic.Status

/-!
# Readers and the calls that put cards into them

A reader emulated over a PKCS #11 slot carries a `VReaderEmul`: whether the
emulator last saw a token in the slot, the slot series it saw then, and for a
soft reader the card to put back after a forced removal. The reader itself holds
the card `vreader_insert_card` last gave it; every function here returns the calls
it made to `vreader_insert_card`, so that a caller can see what the reader held
when it was given a card.

A card is known by the generation of the token it was mirrored from: the value
`PK11_GetSlotSeries` had when `vcard_emul_mirror_card` read the token. What the
mirror reads of the token (certificates, keys) is modelled in
`VCardEmul.Mirror.Sort`; here the provider's one choice is whether it yields a
card at all.
-/

namespace VCardEmul

/-- A virtual card, known by the generation of the token it was mirrored from. -/
structure VCard where
  generation : Nat
  deriving DecidableEq, Repr

/-- The token in a slot as `PK11_IsPresent` and `PK11_GetSlotSeries` see it. -/
structure TokenSlot where
  present : Bool
  series : Nat
  deriving DecidableEq, Repr

/-- `VReaderEmul`: what the emulator remembers of the slot behind a reader. -/
structure VReaderEmul where
  present : Bool
  series : Nat
  savedVcard : Option VCard
  deriving DecidableEq, Repr

/-- `vreader_emul_new`: no token seen, series 0, no saved card. -/
def vreaderEmulNew : VReaderEmul := ⟨false, 0, none⟩

/-- A reader: its emulation state and the card it holds. -/
structure VReader where
  emul : VReaderEmul
  card : Option VCard
  deriving DecidableEq, Repr

/-- A reader as `vreader_new` makes it: a new emulation state and no card. -/
def VReader.new : VReader := ⟨vreaderEmulNew, none⟩

/-- One call of `vreader_insert_card`: the card given and the card the reader held. -/
structure InsertCall where
  given : Option VCard
  held : Option VCard
  deriving DecidableEq, Repr

/-- A call that puts a card into a reader that already holds one, with no
removal in between. -/
def InsertCall.overwrites (call : InsertCall) : Bool := call.given.isSome && call.held.isSome

/-- `vreader_insert_card`: the reader drops the card it held and takes the one given. -/
def vreaderInsertCard (reader : VReader) (card : Option VCard) : VReader × InsertCall :=
  ({ reader with card := card }, ⟨card, reader.card⟩)

/-- What `vcard_emul_mirror_card` gives a reader, as the reader models see it: a
card of the token's current generation, when there is a token and the provider
yields a card (`VCardEmul.Mirror.Sort` models what the card holds). -/
def mirroredCard (slot : TokenSlot) (builds : Bool) : Option VCard :=
  if slot.present ∧ builds then some ⟨slot.series⟩ else none

/-- `if (vreader_emul->present) vreader_insert_card(vreader, NULL);` -/
def removeIfPresent (reader : VReader) : VReader × List InsertCall :=
  if reader.emul.present then
    let (reader, removal) := vreaderInsertCard reader none
    (reader, [removal])
  else (reader, [])

@[simp] theorem removeIfPresent_emul (reader : VReader) : (removeIfPresent reader).1.emul = reader.emul := by
  unfold removeIfPresent
  split <;> rfl

/-- `vcard_emul_init_series`: record whether the slot has a token and its series,
and empty the reader if there is none. -/
def vcardEmulInitSeries (reader : VReader) (slot : TokenSlot) : VReader × List InsertCall :=
  let reader := { reader with emul := { reader.emul with present := slot.present, series := slot.series } }
  if !slot.present then
    let (reader, removal) := vreaderInsertCard reader none
    (reader, [removal])
  else (reader, [])

/-- `vcard_emul_init_series` stores the slot's series and keeps the card only
when there is a token. -/
theorem vcardEmulInitSeries_fst (reader : VReader) (slot : TokenSlot) :
    (vcardEmulInitSeries reader slot).1 =
      ⟨{ reader.emul with present := slot.present, series := slot.series },
        if slot.present then reader.card else none⟩ := by
  unfold vcardEmulInitSeries
  cases slot.present <;> rfl

/-- The body of the hardware-slot loop of `vcard_emul_init` for a slot it maps,
with the slot unchanged throughout: a new reader and, when a token is present,
its mirrored card and series. -/
def vcardEmulInitHardwareReader (slot : TokenSlot) (builds : Bool) : VReader × List InsertCall :=
  if slot.present then
    let (reader, insertion) := vreaderInsertCard VReader.new (mirroredCard slot builds)
    let (reader, calls) := vcardEmulInitSeries reader slot
    (reader, insertion :: calls)
  else (VReader.new, [])

/-- The body of the soft-card loop of `vcard_emul_init` for a reader whose
certificates were found: the card `vcard_emul_make_card` built is inserted, the
series taken, and the card saved for `vcard_emul_force_card_insert`. A reader
without certificates is left as `vreader_new` made it. -/
def vcardEmulInitSoftReader (slot : TokenSlot) (card : Option (Option VCard)) : VReader × List InsertCall :=
  match card with
  | none => (VReader.new, [])
  | some card =>
    let (reader, insertion) := vreaderInsertCard VReader.new card
    let (reader, calls) := vcardEmulInitSeries reader slot
    ({ reader with emul := { reader.emul with savedVcard := card } }, insertion :: calls)

/-- The card remove/insert part of an iteration of `vcard_emul_event_thread` on a
reader it found for the slot, with the slot unchanged throughout the iteration. -/
def vcardEmulEventCard (reader : VReader) (slot : TokenSlot) (builds : Bool) : VReader × List InsertCall :=
  if slot.present then
    let (reader, calls) :=
      if slot.series ≠ reader.emul.series then
        let (reader, removal) := removeIfPresent reader
        let (reader, insertion) := vreaderInsertCard reader (mirroredCard slot builds)
        (reader, removal ++ [insertion])
      else (reader, [])
    ({ reader with emul := { reader.emul with series := slot.series, present := true } }, calls)
  else
    let (reader, removal) := removeIfPresent reader
    ({ reader with emul := { reader.emul with series := 0, present := false } }, removal)

/-- Where the current iteration of `vcard_emul_event_thread` on the slot is. -/
inductive EventPc where
  /-- In `SECMOD_WaitForAnyTokenEvent`. -/
  | idle
  /-- The reader is found; about to call `PK11_IsPresent`. -/
  | checkPresent
  /-- About to call `PK11_GetSlotSeries` and compare. -/
  | readSeries
  /-- About to call `vcard_emul_mirror_card` after reading `series`. -/
  | mirror (series : Nat)
  /-- About to call `vreader_insert_card` with the mirrored card. -/
  | insert (series : Nat) (card : Option VCard)
  /-- About to store `series` and set `present`. -/
  | store (series : Nat)
  /-- `PK11_IsPresent` said no token: about to empty the reader and reset. -/
  | absent
  deriving DecidableEq, Repr

/-- One call of the card remove/insert part of an iteration of
`vcard_emul_event_thread` on the reader of the slot, made at `pc` with the slot as
it is at that moment: the reader after it, its calls of `vreader_insert_card`, and
where the iteration goes on. -/
def vcardEmulEventCall (reader : VReader) (slot : TokenSlot) (builds : Bool) :
    EventPc → VReader × List InsertCall × EventPc
  | .idle => (reader, [], .checkPresent)
  | .checkPresent => (reader, [], if slot.present then .readSeries else .absent)
  | .readSeries =>
    if slot.series ≠ reader.emul.series then
      let removal := removeIfPresent reader
      (removal.1, removal.2, .mirror slot.series)
    else (reader, [], .store slot.series)
  | .mirror series => (reader, [], .insert series (mirroredCard slot builds))
  | .insert series card =>
    let insertion := vreaderInsertCard reader card
    (insertion.1, [insertion.2], .store series)
  | .store series => ({ reader with emul := { reader.emul with series := series, present := true } }, [], .idle)
  | .absent =>
    let removal := removeIfPresent reader
    ({ removal.1 with emul := { removal.1.emul with series := 0, present := false } }, removal.2, .idle)

/-- `VCardEmulError`. -/
inductive VCardEmulError where
  | ok
  | fail
  | initAlreadyInited
  deriving DecidableEq, Repr

/-- `vcard_emul_force_card_remove`: empty a reader that holds a card. -/
def vcardEmulForceCardRemove (nssEmulInit : Bool) (reader : VReader) :
    VCardEmulError × VReader × List InsertCall :=
  if !nssEmulInit || reader.card.isNone then (.fail, reader, [])
  else
    let (reader, removal) := vreaderInsertCard reader none
    (.ok, reader, [removal])

/-- `vcard_emul_force_card_insert`: give an empty reader its saved soft card, or
else a card mirrored from its slot when a token is there. -/
def vcardEmulForceCardInsert (nssEmulInit : Bool) (reader : VReader) (slot : TokenSlot)
    (builds : Bool) : VCardEmulError × VReader × List InsertCall :=
  if !nssEmulInit || reader.card.isSome then (.fail, reader, [])
  else
    match reader.emul.savedVcard with
    | some saved =>
      let (reader, insertion) := vreaderInsertCard reader (some saved)
      (.ok, reader, [insertion])
    | none =>
      if !slot.present then (.fail, reader, [])
      else
        let (reader, insertion) := vreaderInsertCard reader (mirroredCard slot builds)
        (.ok, reader, [insertion])

end VCardEmul
