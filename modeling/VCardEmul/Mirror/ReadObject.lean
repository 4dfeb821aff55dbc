import VCardEmul.Basic.Status

/-!
# Reading a data object by its label

`vcard_emul_read_object` enumerates the data objects of the card's slot, reads
the `CKA_LABEL` of each, and returns the `CKA_VALUE` of the first one whose label
is the given string. Unlike the certificate mirror, which skips an object it
cannot read, the search gives up at the first label it cannot read, even when a
later object carries the label. An empty value comes back as `NULL`. When the
first enumerated object carries the label, the call destroys it with the list
before it reads its value (`vcardEmulReadObject_eq_value`).
-/

namespace VCardEmul

/-- A data object as `PK11_FindGenericObjects(slot, CKO_DATA)` enumerates it,
with the provider's answers to `PK11_ReadRawAttribute` for `CKA_LABEL` and
`CKA_VALUE`; `none` is a failed read. -/
structure DataObject where
  label : Option Bytes
  value : Option Bytes
  deriving DecidableEq, Repr

/-- What a call of `vcard_emul_read_object` comes to. -/
inductive ReadObjectResult where
  /-- It returns the copy `g_memdup2` makes of the value. -/
  | value (bytes : Bytes)
  /-- It returns `NULL`. -/
  | null
  /-- It reads `CKA_VALUE` from the first enumerated object, and destroys it, after
  `PK11_DestroyGenericObjects(firstObj)` has destroyed it. -/
  | readsDestroyed
  deriving DecidableEq, Repr

/-- The search loop: the position and the object of the first object whose label
reads as `label`; `none` when a label cannot be read first or no object carries it. -/
def findLabelled (label : Bytes) : List DataObject → Option (Nat × DataObject)
  | [] => none
  | object :: rest =>
    match object.label with
    | none => none
    | some objectLabel =>
      if objectLabel = label then some (0, object)
      else (findLabelled label rest).map fun (position, found) => (position + 1, found)

/-- `vcard_emul_read_object`. `PK11_UnlinkGenericObject` takes the object found
out of the list, and `PK11_DestroyGenericObjects(firstObj)` then destroys the list
`firstObj` is in: every object but the one found when that is a later one, but
`firstObj` alone when it is the one found, which the call goes on to read and to
destroy a second time. `g_memdup2` makes `NULL` of an empty value. -/
def vcardEmulReadObject (label : Bytes) (objects : List DataObject) : ReadObjectResult :=
  match findLabelled label objects with
  | none => .null
  | some (0, _) => .readsDestroyed
  | some (_ + 1, object) =>
    match object.value with
    | none => .null
    | some [] => .null
    | some value => .value value

/-- The search stops at an object labelled `label` exactly when every object
before it has a readable label that is a different one. -/
theorem findLabelled_eq_some {label : Bytes} {position : Nat} {found : DataObject} {objects : List DataObject} :
    findLabelled label objects = some (position, found) ↔
      ∃ before after, objects = before ++ found :: after ∧ before.length = position ∧
        (∀ earlier ∈ before, ∃ other, earlier.label = some other ∧ other ≠ label) ∧
        found.label = some label := by
  induction objects generalizing position with
  | nil => simp [findLabelled]
  | cons first rest inductionHypothesis =>
    cases labelled : first.label with
    | none =>
      simp only [findLabelled, labelled, reduceCtorEq, false_iff]
      rintro ⟨_ | ⟨earlier, before⟩, after, split, -, readable, foundLabel⟩
      · obtain ⟨rfl, -⟩ := List.cons.inj split
        simp [labelled] at foundLabel
      · obtain ⟨rfl, -⟩ := List.cons.inj split
        obtain ⟨_, readLabel, -⟩ := readable _ (List.mem_cons_self _ _)
        simp [labelled] at readLabel
    | some firstLabel =>
      by_cases same : firstLabel = label
      · subst same
        simp only [findLabelled, labelled, if_true, Option.some.injEq, Prod.mk.injEq]
        constructor
        · rintro ⟨rfl, rfl⟩
          exact ⟨[], rest, rfl, rfl, by simp, labelled⟩
        · rintro ⟨_ | ⟨earlier, before⟩, after, split, length, readable, foundLabel⟩
          · obtain ⟨rfl, -⟩ := List.cons.inj split
            exact ⟨length, rfl⟩
          · obtain ⟨rfl, -⟩ := List.cons.inj split
            obtain ⟨_, readLabel, different⟩ := readable _ (List.mem_cons_self _ _)
            simp [labelled] at readLabel
            exact absurd readLabel.symm different
      · simp only [findLabelled, labelled, if_neg same, Option.map_eq_some', Prod.exists, Prod.mk.injEq]
        constructor
        · rintro ⟨later, _, found', ⟨rfl, rfl⟩⟩
          obtain ⟨before, after, rfl, rfl, readable, foundLabel⟩ := inductionHypothesis.mp found'
          refine ⟨first :: before, after, rfl, rfl, ?_, foundLabel⟩
          rintro earlier (_ | ⟨_, member⟩)
          exacts [⟨firstLabel, labelled, same⟩, readable earlier member]
        · rintro ⟨_ | ⟨earlier, before⟩, after, split, length, readable, foundLabel⟩
          · obtain ⟨rfl, -⟩ := List.cons.inj split
            simp [labelled] at foundLabel
            exact absurd foundLabel same
          · obtain ⟨rfl, rfl⟩ := List.cons.inj split
            exact ⟨before.length, found, inductionHypothesis.mpr ⟨before, after, rfl, rfl,
              fun later member => readable later (List.mem_cons_of_mem _ member), foundLabel⟩,
              by simpa using length, rfl⟩

/-- The call returns a value when the search stops at an object after the first
whose value reads as a non-empty string. -/
theorem vcardEmulReadObject_eq_value_iff {label value : Bytes} {objects : List DataObject} :
    vcardEmulReadObject label objects = .value value ↔
      ∃ position object, findLabelled label objects = some (position + 1, object) ∧
        object.value = some value ∧ value ≠ [] := by
  unfold vcardEmulReadObject
  rcases findLabelled label objects with _ | ⟨_ | position, object⟩
  · simp
  · simp
  · rcases read : object.value with _ | _ | ⟨byte, bytes⟩ <;> simp [read, eq_comm, and_assoc]
    rintro rfl
    exact List.cons_ne_nil _ _

/-- The call reads a destroyed object when the search stops at the first one. -/
theorem vcardEmulReadObject_eq_readsDestroyed_iff {label : Bytes} {objects : List DataObject} :
    vcardEmulReadObject label objects = .readsDestroyed ↔ ∃ object, findLabelled label objects = some (0, object) := by
  unfold vcardEmulReadObject
  rcases findLabelled label objects with _ | ⟨_ | position, object⟩
  · simp
  · simp
  · rcases read : object.value with _ | _ | ⟨byte, bytes⟩ <;> simp [read]

/-- The call returns a value exactly for an object after the first one, labelled
`label`, whose value reads as a non-empty string, behind objects whose labels are
all readable and different; when the first object is the one labelled `label`,
the call reads it after destroying it. -/
theorem vcardEmulReadObject_eq_value {label : Bytes} {objects : List DataObject} :
    (∀ value, vcardEmulReadObject label objects = .value value ↔
      ∃ first before object after, objects = first :: before ++ object :: after ∧
        (∀ earlier ∈ first :: before, ∃ other, earlier.label = some other ∧ other ≠ label) ∧
        object.label = some label ∧ object.value = some value ∧ value ≠ []) ∧
      ∀ first rest, objects = first :: rest →
        (vcardEmulReadObject label objects = .readsDestroyed ↔ first.label = some label) := by
  refine ⟨fun value => ?_, fun first rest split => ?_⟩
  · rw [vcardEmulReadObject_eq_value_iff]
    constructor
    · rintro ⟨position, object, found, read, nonempty⟩
      obtain ⟨_ | ⟨first, before⟩, after, rfl, length, readable, labelled⟩ := findLabelled_eq_some.mp found
      · cases length
      · exact ⟨first, before, object, after, rfl, readable, labelled, read, nonempty⟩
    · rintro ⟨first, before, object, after, rfl, readable, labelled, read, nonempty⟩
      exact ⟨_, _, findLabelled_eq_some.mpr ⟨first :: before, after, rfl, rfl, readable, labelled⟩, read, nonempty⟩
  · subst split
    rw [vcardEmulReadObject_eq_readsDestroyed_iff]
    constructor
    · rintro ⟨object, found⟩
      obtain ⟨_ | ⟨_, _⟩, after, split, length, -, labelled⟩ := findLabelled_eq_some.mp found
      · obtain ⟨rfl, -⟩ := List.cons.inj split
        exact labelled
      · cases length
    · intro labelled
      exact ⟨first, findLabelled_eq_some.mpr ⟨[], rest, rfl, rfl, nofun, labelled⟩⟩

/-- An object whose label cannot be read, behind objects with other labels, ends
the search with `NULL`, whatever objects follow it. -/
theorem vcardEmulReadObject_unreadable {label : Bytes} {before after : List DataObject} {object : DataObject}
    (readable : ∀ earlier ∈ before, ∃ other, earlier.label = some other ∧ other ≠ label)
    (unreadable : object.label = none) : vcardEmulReadObject label (before ++ object :: after) = .null := by
  have notFound : findLabelled label (before ++ object :: after) = none := by
    induction before with
    | nil => simp [findLabelled, unreadable]
    | cons earlier before inductionHypothesis =>
      obtain ⟨other, earlierLabel, different⟩ := readable earlier (List.mem_cons_self _ _)
      rw [List.cons_append, findLabelled, earlierLabel]
      simp only [if_neg different, inductionHypothesis fun later member => readable later (List.mem_cons_of_mem _ member),
        Option.map_none']
  simp [vcardEmulReadObject, notFound]

/-- A token whose first data object has an unreadable label and whose second
carries the label `01`. -/
theorem unreadableFirst_read_fails :
    (∀ earlier ∈ ([] : List DataObject), ∃ other, earlier.label = some other ∧ other ≠ [0x01]) ∧
      (⟨none, none⟩ : DataObject).label = none ∧
      vcardEmulReadObject [0x01] ([] ++ ⟨none, none⟩ :: [⟨some [0x01], some [0x2A]⟩]) = .null :=
  ⟨by simp, rfl, vcardEmulReadObject_unreadable (by simp) rfl⟩

end VCardEmul
