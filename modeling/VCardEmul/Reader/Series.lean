import VCardEmul.Reader.Emul

/-!
# Slot series against token swaps

The series of a hardware slot is the generation of its token: every insertion
or removal advances it. Here the setup of one hardware reader by
`vcard_emul_init` and the iterations of `vcard_emul_event_thread` on it are
taken apart into their calls to the provider and to the reader, and a token may
change between any two of them.

The event thread reads the series before it mirrors the token, so a card it
inserts is never older than the series it stores. `vcard_emul_init` does it the
other way round: it mirrors the token, inserts the card, and only then lets
`vcard_emul_init_series` read the series. A swap in between leaves the old
generation's card under the new generation's series, and the event the swap
raises then finds the series unchanged and keeps the card
(`seriesRun_swap_during_init_stale`). Without a change in that window no run
leaves a card older than the series stored beside it, so none is stale
(`seriesRun_card_bound`).
-/

namespace VCardEmul

/-- Where the setup of the reader in `vcard_emul_init` is. -/
inductive InitPc where
  /-- About to call `PK11_IsPresent`. -/
  | checkPresent
  /-- About to call `vcard_emul_mirror_card`. -/
  | mirror
  /-- About to call `vreader_insert_card` with the mirrored card. -/
  | insert (card : Option VCard)
  /-- About to call `vcard_emul_init_series`. -/
  | initSeries
  | done
  deriving DecidableEq, Repr

/-- The slot, its reader, and where the two threads are. -/
structure SeriesState where
  slot : TokenSlot
  reader : VReader
  initPc : InitPc
  eventPc : EventPc
  deriving DecidableEq, Repr

/-- A step of `vcard_emul_init`, a step of the event thread, or a token swap. -/
inductive SeriesAction where
  | init (builds : Bool)
  | event (builds : Bool)
  | tokenChange (present : Bool)
  deriving DecidableEq, Repr

/-- The next call of the setup of the reader in `vcard_emul_init`. -/
def initStep (s : SeriesState) (builds : Bool) : SeriesState :=
  match s.initPc with
  | .checkPresent => { s with initPc := if s.slot.present then .mirror else .done }
  | .mirror => { s with initPc := .insert (mirroredCard s.slot builds) }
  | .insert card => { s with reader := (vreaderInsertCard s.reader card).1, initPc := .initSeries }
  | .initSeries => { s with reader := (vcardEmulInitSeries s.reader s.slot).1, initPc := .done }
  | .done => s

/-- The next call of the event thread's iteration, which starts once
`vcard_emul_init` has set the reader up and started the thread. -/
def eventStep (s : SeriesState) (builds : Bool) : SeriesState :=
  if s.eventPc = .idle ∧ s.initPc ≠ .done then s
  else
    let call := vcardEmulEventCall s.reader s.slot builds s.eventPc
    { s with reader := call.1, eventPc := call.2.2 }

/-- One action. -/
def seriesStep (s : SeriesState) : SeriesAction → SeriesState
  | .init builds => initStep s builds
  | .event builds => eventStep s builds
  | .tokenChange present => { s with slot := ⟨present, s.slot.series + 1⟩ }

/-- The slot as `vcard_emul_init` finds it, with a new reader. -/
def seriesStart (slot : TokenSlot) : SeriesState := ⟨slot, VReader.new, .checkPresent, .idle⟩

/-- A run of actions. -/
def seriesRun (s : SeriesState) (actions : List SeriesAction) : SeriesState :=
  actions.foldl seriesStep s

/-- The reader stores the slot's current series but holds a card of an earlier
generation: no event will rebuild it. -/
def SeriesState.Stale (s : SeriesState) : Prop :=
  s.reader.emul.series = s.slot.series ∧ ∃ card, s.reader.card = some card ∧ card.generation < s.slot.series

/-! ## A swap during the setup -/

/-- A token swapped for another between the mirror and the series read of
`vcard_emul_init` leaves a stale card, and every event iteration that follows
without another swap leaves the state exactly as it is. -/
theorem seriesRun_swap_during_init_stale (generation : Nat) (builds : Bool) :
    (seriesRun (seriesStart ⟨true, generation⟩)
      [.init true, .init true, .tokenChange true, .init true, .init true]).Stale ∧
    seriesRun (seriesRun (seriesStart ⟨true, generation⟩)
        [.init true, .init true, .tokenChange true, .init true, .init true])
      [.event builds, .event builds, .event builds, .event builds] =
      seriesRun (seriesStart ⟨true, generation⟩)
        [.init true, .init true, .tokenChange true, .init true, .init true] := by
  constructor
  · simp [SeriesState.Stale, seriesRun, seriesStep, seriesStart, initStep, mirroredCard,
      vreaderInsertCard, vcardEmulInitSeries, VReader.new]
  · simp [seriesRun, seriesStep, seriesStart, initStep, eventStep, vcardEmulEventCall, mirroredCard,
      vreaderInsertCard, vcardEmulInitSeries, VReader.new]

/-! ## No swap in the window -/

/-- The setup of `vcard_emul_init` is between its mirror and its series read. -/
def InitPc.inWindow : InitPc → Bool
  | .insert _ | .initSeries => true
  | _ => false

/-- A run with no token swap while `vcard_emul_init` is between its mirror and its
series read. -/
def NoSwapInWindow : SeriesState → List SeriesAction → Prop
  | _, [] => True
  | s, action :: rest =>
    (∀ present, action = .tokenChange present → s.initPc.inWindow = false) ∧
      NoSwapInWindow (seriesStep s action) rest

/-- A card is never older than the series stored beside it. -/
def SeriesCardBound (series : Nat) (card : Option VCard) : Prop :=
  ∀ held, card = some held → series ≤ held.generation

/-- What the setup in `vcard_emul_init` carries from one call to the next. -/
def InitPcOk (slot : TokenSlot) (reader : VReader) : InitPc → Prop
  | .insert card => SeriesCardBound slot.series card
  | .initSeries => SeriesCardBound slot.series reader.card
  | _ => True

/-- What the event thread carries from one call to the next. -/
def EventPcOk (slot : TokenSlot) (reader : VReader) : EventPc → Prop
  | .mirror series => reader.emul.series ≤ series ∧ series ≤ slot.series
  | .insert series card => reader.emul.series ≤ series ∧ series ≤ slot.series ∧ SeriesCardBound series card
  | .store series => series ≤ slot.series ∧ SeriesCardBound series reader.card
  | _ => True

/-- What holds at every step of a run with no swap in the window. -/
structure SeriesInv (s : SeriesState) : Prop where
  stored : SeriesCardBound s.reader.emul.series s.reader.card
  seriesLe : s.reader.emul.series ≤ s.slot.series
  initOk : InitPcOk s.slot s.reader s.initPc
  eventOk : EventPcOk s.slot s.reader s.eventPc
  eventWaits : s.initPc ≠ .done → s.eventPc = .idle

/-- An invariant state is not stale. -/
theorem SeriesInv.not_stale {s : SeriesState} (inv : SeriesInv s) : ¬ s.Stale := by
  rintro ⟨same, card, held, older⟩
  have bound := inv.stored card held
  omega

theorem seriesInv_start (slot : TokenSlot) : SeriesInv (seriesStart slot) :=
  ⟨fun _ held => (by cases held), Nat.zero_le _, trivial, trivial, fun _ => rfl⟩

theorem seriesCardBound_none (series : Nat) : SeriesCardBound series none :=
  fun _ held => by cases held

theorem seriesCardBound_mirror (slot : TokenSlot) (builds : Bool) {series : Nat}
    (le : series ≤ slot.series) : SeriesCardBound series (mirroredCard slot builds) := by
  intro held mirrored
  simp only [mirroredCard] at mirrored
  split at mirrored
  · cases mirrored
    exact le
  · cases mirrored

theorem seriesCardBound_removeIfPresent {series : Nat} {reader : VReader}
    (bound : SeriesCardBound series reader.card) : SeriesCardBound series (removeIfPresent reader).1.card := by
  unfold removeIfPresent
  split
  · exact seriesCardBound_none series
  · exact bound

theorem seriesInv_initStep {s : SeriesState} (inv : SeriesInv s) (builds : Bool) :
    SeriesInv (initStep s builds) := by
  obtain ⟨slot, reader, initPc, eventPc⟩ := s
  obtain ⟨stored, seriesLe, initOk, eventOk, eventWaits⟩ := inv
  cases initPc with
  | done => exact ⟨stored, seriesLe, initOk, eventOk, eventWaits⟩
  | checkPresent =>
    obtain rfl : eventPc = .idle := eventWaits (by simp)
    refine ⟨stored, seriesLe, ?_, trivial, fun _ => rfl⟩
    simp only [initStep]
    split <;> trivial
  | mirror =>
    obtain rfl : eventPc = .idle := eventWaits (by simp)
    exact ⟨stored, seriesLe, seriesCardBound_mirror slot builds le_rfl, trivial, fun _ => rfl⟩
  | insert card =>
    obtain rfl : eventPc = .idle := eventWaits (by simp)
    exact ⟨fun held inserted => le_trans seriesLe (initOk held inserted), seriesLe, initOk, trivial,
      fun _ => rfl⟩
  | initSeries =>
    obtain rfl : eventPc = .idle := eventWaits (by simp)
    have stepped : initStep ⟨slot, reader, .initSeries, .idle⟩ builds =
        ⟨slot, (vcardEmulInitSeries reader slot).1, .done, .idle⟩ := rfl
    rw [stepped, vcardEmulInitSeries_fst]
    refine ⟨?_, le_rfl, trivial, trivial, fun _ => rfl⟩
    dsimp only
    split
    · exact initOk
    · exact seriesCardBound_none _

/-- Once `vcard_emul_init` is done, the invariant is about the event thread alone. -/
theorem SeriesInv.ofDone {slot : TokenSlot} {reader : VReader} {eventPc : EventPc}
    (stored : SeriesCardBound reader.emul.series reader.card) (seriesLe : reader.emul.series ≤ slot.series)
    (eventOk : EventPcOk slot reader eventPc) : SeriesInv ⟨slot, reader, .done, eventPc⟩ :=
  ⟨stored, seriesLe, trivial, eventOk, fun notDone => absurd rfl notDone⟩

theorem seriesInv_eventStep {s : SeriesState} (inv : SeriesInv s) (builds : Bool) :
    SeriesInv (eventStep s builds) := by
  obtain ⟨slot, reader, initPc, eventPc⟩ := s
  obtain ⟨stored, seriesLe, initOk, eventOk, eventWaits⟩ := inv
  by_cases started : initPc = .done
  · subst started
    have stepped : eventStep ⟨slot, reader, .done, eventPc⟩ builds =
        ⟨slot, (vcardEmulEventCall reader slot builds eventPc).1, .done,
          (vcardEmulEventCall reader slot builds eventPc).2.2⟩ := by
      simp [eventStep]
    rw [stepped]
    cases eventPc with
    | idle => exact .ofDone stored seriesLe trivial
    | checkPresent =>
      refine .ofDone stored seriesLe ?_
      simp only [vcardEmulEventCall]
      split <;> trivial
    | readSeries =>
      simp only [vcardEmulEventCall]
      split
      · exact .ofDone (by simpa using seriesCardBound_removeIfPresent stored) (by simpa using seriesLe)
          ⟨by simpa using seriesLe, le_rfl⟩
      · next same =>
        have same : slot.series = reader.emul.series := by simpa using same
        exact .ofDone stored seriesLe ⟨le_rfl, same ▸ stored⟩
    | mirror series =>
      exact .ofDone stored seriesLe ⟨eventOk.1, eventOk.2, seriesCardBound_mirror slot builds eventOk.2⟩
    | insert series card =>
      obtain ⟨storedLe, le, bound⟩ := eventOk
      exact .ofDone (fun held inserted => le_trans storedLe (bound held inserted)) seriesLe ⟨le, bound⟩
    | store series => exact .ofDone eventOk.2 eventOk.1 trivial
    | absent => exact .ofDone (fun _ _ => Nat.zero_le _) (Nat.zero_le _) trivial
  · obtain rfl := eventWaits started
    have waits : eventStep ⟨slot, reader, initPc, .idle⟩ builds = ⟨slot, reader, initPc, .idle⟩ := by
      simp [eventStep, started]
    rw [waits]
    exact ⟨stored, seriesLe, initOk, eventOk, eventWaits⟩

theorem seriesInv_tokenChange {s : SeriesState} (inv : SeriesInv s) (present : Bool)
    (outside : s.initPc.inWindow = false) : SeriesInv (seriesStep s (.tokenChange present)) := by
  obtain ⟨slot, reader, initPc, eventPc⟩ := s
  obtain ⟨stored, seriesLe, initOk, eventOk, eventWaits⟩ := inv
  refine ⟨stored, Nat.le_succ_of_le seriesLe, ?_, ?_, eventWaits⟩
  · cases initPc with
    | insert _ | initSeries => simp [InitPc.inWindow] at outside
    | checkPresent | mirror | done => trivial
  · cases eventPc with
    | idle | checkPresent | readSeries | absent => trivial
    | mirror _ => exact ⟨eventOk.1, Nat.le_succ_of_le eventOk.2⟩
    | insert _ _ => exact ⟨eventOk.1, Nat.le_succ_of_le eventOk.2.1, eventOk.2.2⟩
    | store _ => exact ⟨Nat.le_succ_of_le eventOk.1, eventOk.2⟩

/-- Every step keeps the invariant, but a swap inside the window. -/
theorem seriesInv_step {s : SeriesState} (inv : SeriesInv s) {action : SeriesAction}
    (guarded : ∀ present, action = .tokenChange present → s.initPc.inWindow = false) :
    SeriesInv (seriesStep s action) := by
  cases action with
  | init builds => exact seriesInv_initStep inv builds
  | event builds => exact seriesInv_eventStep inv builds
  | tokenChange present => exact seriesInv_tokenChange inv present (guarded present rfl)

theorem seriesInv_run {s : SeriesState} (inv : SeriesInv s) {actions : List SeriesAction}
    (noSwap : NoSwapInWindow s actions) : SeriesInv (seriesRun s actions) := by
  induction actions generalizing s with
  | nil => exact inv
  | cons action rest inductionHypothesis =>
    exact inductionHypothesis (seriesInv_step inv noSwap.1) noSwap.2

/-- No run from the start of `vcard_emul_init` with no token swap between its
mirror and its series read, whatever the event thread does, leaves a card older
than the series stored beside it, so none is stale. -/
theorem seriesRun_card_bound (slot : TokenSlot) (actions : List SeriesAction)
    (noSwap : NoSwapInWindow (seriesStart slot) actions) :
    SeriesCardBound (seriesRun (seriesStart slot) actions).reader.emul.series
        (seriesRun (seriesStart slot) actions).reader.card ∧
      ¬ (seriesRun (seriesStart slot) actions).Stale :=
  have inv := seriesInv_run (seriesInv_start slot) noSwap
  ⟨inv.stored, inv.not_stale⟩

/-- A swap before the mirror, then an event iteration. -/
theorem seriesRun_card_bound_sample :
    NoSwapInWindow (seriesStart ⟨true, 1⟩)
      [.init true, .tokenChange true, .init true, .init true, .init true, .event true, .event true,
        .event true, .event true] ∧
    SeriesCardBound (seriesRun (seriesStart ⟨true, 1⟩)
        [.init true, .tokenChange true, .init true, .init true, .init true, .event true, .event true,
          .event true, .event true]).reader.emul.series
      (seriesRun (seriesStart ⟨true, 1⟩)
        [.init true, .tokenChange true, .init true, .init true, .init true, .event true, .event true,
          .event true, .event true]).reader.card ∧
    ¬ (seriesRun (seriesStart ⟨true, 1⟩)
      [.init true, .tokenChange true, .init true, .init true, .init true, .event true, .event true,
        .event true, .event true]).Stale :=
  have noSwap : NoSwapInWindow (seriesStart ⟨true, 1⟩)
      [.init true, .tokenChange true, .init true, .init true, .init true, .event true, .event true,
        .event true, .event true] := by
    simp [NoSwapInWindow, seriesStep, seriesStart, initStep, eventStep, vcardEmulEventCall, InitPc.inWindow]
  ⟨noSwap, seriesRun_card_bound _ _ noSwap⟩

end VCardEmul
