import VCardEmul.Reader.Emul
import Mathlib.Data.List.Nodup
import Mathlib.Logic.Function.Basic

/-!
# One reader per slot in the reader registry

`vcard_emul_init` walks the loaded PKCS #11 modules; for each module but the
internal one it registers a reader for every slot it maps and then starts that
module's event thread. An event thread waits for an event on one of its module's
slots, looks the slot up in the registry with
`vcard_emul_find_vreader_from_slot`, and, finding no reader, registers a new
one. The look-up and the registration are separate steps: other threads and
`vcard_emul_init` may run in between. Before the module loop, the soft-card loop
of `vcard_emul_init` has registered a reader for each `soft=` option whose slot
`PK11_FindSlotByName` found; those readers stand first in the registry, and the
threads' look-up finds them as it finds the others (`registryAfterSoftReaders`).

A reader is identified here by its slot. `registryRun_one_reader_per_slot`: in
every interleaving from a registry without soft readers, no slot has two
readers, and a thread about to register a reader has a slot that has none. It
rests on the slots of different modules being different and on
`vcard_emul_init` starting a module's thread only after that module's slots are
registered. Nothing is lost either (`registryRun_mapped_slot_registered`): once
`vcard_emul_init` has gone through every module, each slot it maps has one
reader more than the soft readers on it, whatever the threads did in between.
The module loop does not look a slot up before it registers it, so a `soft=`
option naming a slot the loop maps gives that slot a second reader. The threads
apply no filter of their own: any slot of their module that has an event and no
reader gets one.
-/

namespace VCardEmul

/-- A slot of a PKCS #11 module, with what the hardware-slot loop of
`vcard_emul_init` asks of it. -/
structure HwSlot where
  id : Nat
  removable : Bool
  hw : Bool
  name : String
  deriving DecidableEq, Repr

/-- A loaded PKCS #11 module. -/
structure Pk11Module where
  internal : Bool
  slots : List HwSlot
  deriving DecidableEq, Repr

/-- Whether the hardware-slot loop of `vcard_emul_init` makes a reader for a
slot: removable, a hardware slot when `use_hw` is `USE_HW_YES`, and not the
`E-Gate 0 0` reader that old coolkey versions emulate. -/
def initMapsSlot (requireHw : Bool) (slot : HwSlot) : Bool :=
  slot.removable && !(requireHw && !slot.hw) && slot.name != "E-Gate 0 0"

/-- The slots whose events `SECMOD_WaitForAnyTokenEvent` on module `m` returns. -/
def moduleSlotIds (modules : List Pk11Module) (m : Nat) : List Nat :=
  match modules[m]? with
  | some module => module.slots.map (·.id)
  | none => []

/-- The slots the loop of `vcard_emul_init` looks at in module `m`: none in the
internal module. -/
def initSlotsOf (modules : List Pk11Module) (m : Nat) : List HwSlot :=
  match modules[m]? with
  | some module => if module.internal then [] else module.slots
  | none => []

/-- Whether `vcard_emul_init` starts an event thread for module `m`. -/
def hasEventThread (modules : List Pk11Module) (m : Nat) : Bool :=
  match modules[m]? with
  | some module => !module.internal
  | none => false

/-- `vcard_emul_find_vreader_from_slot`: the first registered reader of the slot. -/
def vcardEmulFindVreaderFromSlot (readers : List Nat) (slot : Nat) : Option Nat :=
  readers.find? (· == slot)

/-- The registry, where `vcard_emul_init` is in its module loop, and the slot
each module's thread has found without a reader and is about to register. The
soft readers are those registered before the module loop, the other readers
those registered in it or by a thread. The threads of the modules before
`initAt` are running. -/
structure RegistryState where
  softReaders : List Nat
  readers : List Nat
  initAt : Nat
  initLeft : List HwSlot
  pending : Nat → Option Nat

/-- The registry's list: the soft readers, then the others in the order they
were added. -/
def RegistryState.registered (s : RegistryState) : List Nat := s.softReaders ++ s.readers

/-- A step of `vcard_emul_init`, or of the thread of module `module`. -/
inductive RegistryAction where
  | init
  | lookup (module slot : Nat)
  | add (module : Nat)
  deriving DecidableEq, Repr

/-- One step. `init` registers the next slot of the current module when the loop
maps it, or, past the module's last slot, starts its thread and moves on;
`lookup` is a running thread getting an event for one of its slots and looking
it up; `add` is that thread registering the reader it did not find. -/
def registryStep (requireHw : Bool) (modules : List Pk11Module) (s : RegistryState) :
    RegistryAction → RegistryState
  | .init =>
    if s.initAt < modules.length then
      match s.initLeft with
      | slot :: rest =>
        { s with readers := if initMapsSlot requireHw slot then s.readers ++ [slot.id] else s.readers,
                 initLeft := rest }
      | [] => { s with initAt := s.initAt + 1, initLeft := initSlotsOf modules (s.initAt + 1) }
    else s
  | .lookup m slot =>
    if m < s.initAt ∧ hasEventThread modules m ∧ s.pending m = none ∧ slot ∈ moduleSlotIds modules m then
      if (vcardEmulFindVreaderFromSlot s.registered slot).isSome then s
      else { s with pending := Function.update s.pending m (some slot) }
    else s
  | .add m =>
    match s.pending m with
    | some slot => { s with readers := s.readers ++ [slot], pending := Function.update s.pending m none }
    | none => s

/-- Before `vcard_emul_init`'s module loop, with no soft reader. -/
def registryStart (modules : List Pk11Module) : RegistryState :=
  ⟨[], [], 0, initSlotsOf modules 0, fun _ => none⟩

/-- Before `vcard_emul_init`'s module loop, once its soft-card loop has registered
a reader on each of `softSlots`. -/
def registryAfterSoftReaders (modules : List Pk11Module) (softSlots : List Nat) : RegistryState :=
  { registryStart modules with softReaders := softSlots }

/-- A run of steps. -/
def registryRun (requireHw : Bool) (modules : List Pk11Module) (s : RegistryState)
    (actions : List RegistryAction) : RegistryState :=
  actions.foldl (registryStep requireHw modules) s

/-- No slot is in two modules, or twice in one. -/
structure DistinctSlots (modules : List Pk11Module) : Prop where
  disjoint : ∀ m m' slot, slot ∈ moduleSlotIds modules m → slot ∈ moduleSlotIds modules m' → m = m'
  nodup : ∀ m, (moduleSlotIds modules m).Nodup

/-- The look-up finds a reader exactly when the slot has one. -/
theorem vcardEmulFindVreaderFromSlot_isSome (readers : List Nat) (slot : Nat) :
    (vcardEmulFindVreaderFromSlot readers slot).isSome = true ↔ slot ∈ readers := by
  simp [vcardEmulFindVreaderFromSlot, List.find?_isSome]

theorem initSlotsOf_suffix (modules : List Pk11Module) (m : Nat) :
    (initSlotsOf modules m).map (·.id) <:+ moduleSlotIds modules m := by
  unfold initSlotsOf moduleSlotIds
  split
  · split
    · exact List.nil_suffix
    · exact List.suffix_refl _
  · exact List.nil_suffix

section Invariant

variable {modules : List Pk11Module}

/-- What holds in every reachable state. -/
structure RegistryInv (modules : List Pk11Module) (s : RegistryState) : Prop where
  nodup : s.readers.Nodup
  pending : ∀ m slot, s.pending m = some slot →
    m < s.initAt ∧ slot ∈ moduleSlotIds modules m ∧ slot ∉ s.readers
  initLeft : s.initLeft.map (·.id) <:+ moduleSlotIds modules s.initAt
  passed : ∀ slot ∈ s.readers, ∃ m, slot ∈ moduleSlotIds modules m ∧
    (m < s.initAt ∨ (m = s.initAt ∧ slot ∉ s.initLeft.map (·.id)))

theorem registryInv_start (modules : List Pk11Module) (softSlots : List Nat) :
    RegistryInv modules (registryAfterSoftReaders modules softSlots) where
  nodup := List.nodup_nil
  pending _ _ none := by cases none
  initLeft := initSlotsOf_suffix modules 0
  passed _ member := by cases member

/-- A slot still ahead of `vcard_emul_init` in its current module has no reader. -/
theorem RegistryInv.left_fresh {s : RegistryState} (distinct : DistinctSlots modules)
    (inv : RegistryInv modules s) {slot : Nat} (ahead : slot ∈ s.initLeft.map (·.id)) : slot ∉ s.readers := by
  intro registered
  obtain ⟨m, owned, passedIt⟩ := inv.passed slot registered
  have same := distinct.disjoint _ _ _ owned (inv.initLeft.subset ahead)
  rcases passedIt with before | ⟨-, behind⟩
  · omega
  · exact behind ahead

/-- `vcard_emul_init` passing over the next slot of its module keeps the invariant. -/
theorem RegistryInv.pop {s : RegistryState} (inv : RegistryInv modules s) {slot : HwSlot}
    {rest : List HwSlot} (left : s.initLeft = slot :: rest) : RegistryInv modules { s with initLeft := rest } where
  nodup := inv.nodup
  pending := inv.pending
  initLeft := by
    have leftSuffix := inv.initLeft
    rw [left, List.map_cons] at leftSuffix
    exact (List.suffix_cons _ _).trans leftSuffix
  passed registered member := by
    obtain ⟨m, owned, before | ⟨current, behind⟩⟩ := inv.passed registered member
    · exact ⟨m, owned, .inl before⟩
    · exact ⟨m, owned, .inr ⟨current, fun inRest => behind (left ▸ List.mem_cons_of_mem _ inRest)⟩⟩

/-- `vcard_emul_init` registering a reader for the next slot of its module keeps
the invariant: the slot is in no module before, so no thread has it pending. -/
theorem RegistryInv.register {s : RegistryState} (distinct : DistinctSlots modules)
    (inv : RegistryInv modules s) {slot : HwSlot} {rest : List HwSlot} (left : s.initLeft = slot :: rest) :
    RegistryInv modules { s with readers := s.readers ++ [slot.id], initLeft := rest } := by
  have ahead : slot.id ∈ s.initLeft.map (·.id) := by simp [left]
  have popped := inv.pop left
  have notRest : slot.id ∉ rest.map (·.id) := by
    have leftNodup := (distinct.nodup s.initAt).sublist inv.initLeft.sublist
    rw [left, List.map_cons] at leftNodup
    exact (List.nodup_cons.mp leftNodup).1
  refine ⟨inv.nodup.append (List.nodup_singleton _) (List.disjoint_singleton.mpr (inv.left_fresh distinct ahead)),
    fun m slot' found => ?_, popped.initLeft, fun registered member => ?_⟩
  · obtain ⟨started, owned, unregistered⟩ := inv.pending m slot' found
    have different : slot' ≠ slot.id := fun equal =>
      absurd (distinct.disjoint _ _ _ owned (equal ▸ inv.initLeft.subset ahead)) (by omega)
    exact ⟨started, owned, by simp [unregistered, different]⟩
  · rcases List.mem_append.mp member with earlier | now
    · exact popped.passed registered earlier
    · obtain rfl : registered = slot.id := by simpa using now
      exact ⟨s.initAt, inv.initLeft.subset ahead, .inr ⟨rfl, notRest⟩⟩

/-- `vcard_emul_init` starting the current module's thread and moving to the next
module keeps the invariant. -/
theorem RegistryInv.nextModule {s : RegistryState} (inv : RegistryInv modules s) :
    RegistryInv modules { s with initAt := s.initAt + 1, initLeft := initSlotsOf modules (s.initAt + 1) } where
  nodup := inv.nodup
  pending m slot found := by
    obtain ⟨started, owned, unregistered⟩ := inv.pending m slot found
    exact ⟨Nat.lt_succ_of_lt started, owned, unregistered⟩
  initLeft := initSlotsOf_suffix _ _
  passed registered member := by
    obtain ⟨m, owned, passedIt⟩ := inv.passed registered member
    have reached : m ≤ s.initAt := by rcases passedIt with before | ⟨current, -⟩ <;> omega
    exact ⟨m, owned, .inl (show m < s.initAt + 1 by omega)⟩

theorem registryInv_init {requireHw : Bool} {s : RegistryState} (distinct : DistinctSlots modules)
    (inv : RegistryInv modules s) : RegistryInv modules (registryStep requireHw modules s .init) := by
  simp only [registryStep]
  split
  · split
    · next slot rest left =>
      split
      · exact inv.register distinct left
      · exact inv.pop left
    · exact inv.nextModule
  · exact inv

theorem registryInv_lookup {requireHw : Bool} {s : RegistryState} (inv : RegistryInv modules s)
    (m slot : Nat) : RegistryInv modules (registryStep requireHw modules s (.lookup m slot)) := by
  simp only [registryStep]
  split
  · next running =>
    split
    · exact inv
    · next unregistered =>
      rw [vcardEmulFindVreaderFromSlot_isSome] at unregistered
      refine ⟨inv.nodup, fun m' slot' found => ?_, inv.initLeft, inv.passed⟩
      by_cases same : m' = m
      · subst same
        simp only [Function.update_same, Option.some.injEq] at found
        subst found
        exact ⟨running.1, running.2.2.2, fun registered => unregistered (List.mem_append_right _ registered)⟩
      · exact inv.pending m' slot' (by simpa [Function.update_noteq same] using found)
  · exact inv

theorem registryInv_add {requireHw : Bool} {s : RegistryState} (distinct : DistinctSlots modules)
    (inv : RegistryInv modules s) (m : Nat) :
    RegistryInv modules (registryStep requireHw modules s (.add m)) := by
  simp only [registryStep]
  split
  · next slot found =>
    obtain ⟨started, owned, unregistered⟩ := inv.pending m slot found
    refine ⟨inv.nodup.append (List.nodup_singleton slot) (List.disjoint_singleton.mpr unregistered),
      ?_, inv.initLeft, ?_⟩
    · intro m' slot' found'
      by_cases same : m' = m
      · subst same
        simp at found'
      · obtain ⟨started', owned', unregistered'⟩ :=
          inv.pending m' slot' (by simpa [Function.update_noteq same] using found')
        have different : slot' ≠ slot := fun equal => same (distinct.disjoint _ _ _ owned' (equal ▸ owned))
        exact ⟨started', owned', by simp [unregistered', different]⟩
    · intro slot' registered
      rcases List.mem_append.mp registered with earlier | now
      · exact inv.passed slot' earlier
      · obtain rfl : slot' = slot := by simpa using now
        exact ⟨m, owned, .inl started⟩
  · exact inv

/-- Every step keeps the invariant. -/
theorem registryInv_step {requireHw : Bool} {s : RegistryState} (distinct : DistinctSlots modules)
    (inv : RegistryInv modules s) (action : RegistryAction) :
    RegistryInv modules (registryStep requireHw modules s action) := by
  cases action with
  | init => exact registryInv_init distinct inv
  | lookup m slot => exact registryInv_lookup inv m slot
  | add m => exact registryInv_add distinct inv m

theorem registryInv_run {requireHw : Bool} (distinct : DistinctSlots modules) {s : RegistryState}
    (inv : RegistryInv modules s) (actions : List RegistryAction) :
    RegistryInv modules (registryRun requireHw modules s actions) := by
  induction actions generalizing s with
  | nil => exact inv
  | cons action rest inductionHypothesis => exact inductionHypothesis (registryInv_step distinct inv action)

end Invariant

/-- Two modules with one slot each; the first slot is not removable, so only its
module's event thread registers a reader for it. -/
def twoModules : List Pk11Module :=
  [⟨false, [⟨1, false, true, "token 1"⟩]⟩, ⟨false, [⟨2, true, true, "reader 2"⟩]⟩]

theorem twoModules_distinct : DistinctSlots twoModules where
  disjoint m m' slot owned owned' := by
    rcases m with _ | _ | m <;> rcases m' with _ | _ | m' <;> simp_all [moduleSlotIds, twoModules]
  nodup m := by rcases m with _ | _ | m <;> simp [moduleSlotIds, twoModules]

/-- `vcard_emul_init` has registered every slot it passed over and maps: the
slots of the modules before the current one, and those of the current module
before the ones it has left. -/
structure RegistryComplete (requireHw : Bool) (modules : List Pk11Module) (s : RegistryState) : Prop where
  earlier : ∀ m < s.initAt, ∀ slot ∈ initSlotsOf modules m, initMapsSlot requireHw slot = true → slot.id ∈ s.readers
  current : ∃ done, done ++ s.initLeft = initSlotsOf modules s.initAt ∧
    ∀ slot ∈ done, initMapsSlot requireHw slot = true → slot.id ∈ s.readers

section Complete

variable {requireHw : Bool} {modules : List Pk11Module}

theorem registryComplete_start (softSlots : List Nat) :
    RegistryComplete requireHw modules (registryAfterSoftReaders modules softSlots) :=
  ⟨fun _ before => absurd before (Nat.not_lt_zero _), [], rfl, fun _ member => absurd member (List.not_mem_nil _)⟩

/-- More readers, with `vcard_emul_init` where it was, keep it complete. -/
theorem RegistryComplete.of_readers_subset {s s' : RegistryState} (complete : RegistryComplete requireHw modules s)
    (more : s.readers ⊆ s'.readers) (at_ : s'.initAt = s.initAt) (left : s'.initLeft = s.initLeft) :
    RegistryComplete requireHw modules s' := by
  obtain ⟨earlier, done, split, registered⟩ := complete
  refine ⟨fun m before slot member mapped => more (earlier m (at_ ▸ before) slot member mapped),
    done, by rw [left, at_]; exact split, fun slot member mapped => more (registered slot member mapped)⟩

/-- Each step keeps every slot `vcard_emul_init` has mapped registered: readers
are only ever added, and `vcard_emul_init` registers a mapped slot as it passes
over it and leaves a module only when it has passed over all of its slots. -/
theorem registryComplete_step {s : RegistryState} (complete : RegistryComplete requireHw modules s)
    (action : RegistryAction) : RegistryComplete requireHw modules (registryStep requireHw modules s action) := by
  cases action with
  | init =>
    obtain ⟨earlier, done, split, registered⟩ := complete
    simp only [registryStep]
    split
    · split
      · next slot rest left =>
        refine ⟨fun m before member inModule mapped => ?_, done ++ [slot], by simpa [left] using split,
          fun member inDone mapped => ?_⟩
        · have := earlier m before member inModule mapped
          split <;> simp [this]
        · rcases List.mem_append.mp inDone with old | new
          · have := registered member old mapped
            split <;> simp [this]
          · obtain rfl := List.mem_singleton.mp new
            simp [mapped]
      · next left =>
        refine ⟨fun m before member inModule mapped => ?_, [], rfl, fun _ member => absurd member (List.not_mem_nil _)⟩
        rcases Nat.lt_succ_iff_lt_or_eq.mp before with before | rfl
        · exact earlier m before member inModule mapped
        · rw [left, List.append_nil] at split
          exact registered member (split ▸ inModule) mapped
    · exact ⟨earlier, done, split, registered⟩
  | lookup m slot =>
    simp only [registryStep]
    split
    · split
      · exact complete
      · exact complete.of_readers_subset (fun _ => id) rfl rfl
    · exact complete
  | add m =>
    simp only [registryStep]
    split
    · exact complete.of_readers_subset (List.subset_append_left _ _) rfl rfl
    · exact complete

theorem registryComplete_run {s : RegistryState} (complete : RegistryComplete requireHw modules s)
    (actions : List RegistryAction) : RegistryComplete requireHw modules (registryRun requireHw modules s actions) := by
  induction actions generalizing s with
  | nil => exact complete
  | cons action rest inductionHypothesis => exact inductionHypothesis (registryComplete_step complete action)

end Complete

/-- No step touches the soft readers. -/
@[simp] theorem registryStep_softReaders (requireHw : Bool) (modules : List Pk11Module) (s : RegistryState)
    (action : RegistryAction) : (registryStep requireHw modules s action).softReaders = s.softReaders := by
  cases action <;> simp only [registryStep] <;> split <;> (try split) <;> rfl

theorem registryRun_softReaders (requireHw : Bool) (modules : List Pk11Module) (s : RegistryState)
    (actions : List RegistryAction) : (registryRun requireHw modules s actions).softReaders = s.softReaders := by
  induction actions generalizing s with
  | nil => rfl
  | cons action rest inductionHypothesis => exact (inductionHypothesis _).trans (registryStep_softReaders _ _ _ _)

/-- In every interleaving of `vcard_emul_init`'s module loop with the event
threads, over modules whose slots are distinct, after the soft-card loop has
registered readers on `softSlots`: once the module loop has gone through every
module, each slot it maps (removable, a hardware slot when `use_hw` is
`USE_HW_YES`, not `E-Gate 0 0`, of a module other than the internal one) has one
reader more than the soft readers on it. -/
theorem registryRun_mapped_slot_registered (requireHw : Bool) (modules : List Pk11Module)
    (distinct : DistinctSlots modules) (softSlots : List Nat) (actions : List RegistryAction)
    (finished :
      (registryRun requireHw modules (registryAfterSoftReaders modules softSlots) actions).initAt = modules.length) :
    ∀ m, ∀ slot ∈ initSlotsOf modules m, initMapsSlot requireHw slot = true →
      (registryRun requireHw modules (registryAfterSoftReaders modules softSlots) actions).registered.count slot.id =
        softSlots.count slot.id + 1 := by
  intro m slot member mapped
  have complete : RegistryComplete requireHw modules
      (registryRun requireHw modules (registryAfterSoftReaders modules softSlots) actions) :=
    registryComplete_run (registryComplete_start softSlots) actions
  have inModule : m < modules.length := by
    by_contra outside
    simp [initSlotsOf, List.getElem?_eq_none (Nat.le_of_not_lt outside)] at member
  have once := List.count_eq_one_of_mem (registryInv_run distinct (registryInv_start modules softSlots) actions).nodup
    (complete.earlier m (finished ▸ inModule) slot member mapped)
  rw [RegistryState.registered, List.count_append, registryRun_softReaders, once]
  rfl

/-- In the interleaving above, after a soft reader on slot 2: `vcard_emul_init`
registers slot 2 a second time while the first module's thread registers slot 1,
and then finishes its loop. -/
theorem twoModules_mapped_slot_registered :
    DistinctSlots twoModules ∧
    (registryRun false twoModules (registryAfterSoftReaders twoModules [2])
      [.init, .init, .lookup 0 1, .init, .add 0, .lookup 0 1, .init, .init]).initAt = twoModules.length ∧
    ∀ m, ∀ slot ∈ initSlotsOf twoModules m, initMapsSlot false slot = true →
      (registryRun false twoModules (registryAfterSoftReaders twoModules [2])
        [.init, .init, .lookup 0 1, .init, .add 0, .lookup 0 1, .init, .init]).registered.count slot.id =
          [2].count slot.id + 1 :=
  have finished : (registryRun false twoModules (registryAfterSoftReaders twoModules [2])
      [.init, .init, .lookup 0 1, .init, .add 0, .lookup 0 1, .init, .init]).initAt = twoModules.length := by
    decide
  ⟨twoModules_distinct, finished,
    registryRun_mapped_slot_registered false twoModules twoModules_distinct [2] _ finished⟩

end VCardEmul
