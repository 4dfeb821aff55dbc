import VCardEmul.Rsa.Op
import Mathlib.Data.List.Lex
import Mathlib.Data.List.Sort

/-!
# The certificate order of a mirrored card

`vcard_emul_mirror_card` enumerates the certificate objects of a token, reads
`CKA_VALUE` and `CKA_ID` of each and makes a temporary certificate; an object
failing any of the three is skipped. Each kept object is inserted into four
parallel arrays (certificates, lengths, keys, identifiers) before the first
entry whose identifier it is strictly less than, by `SECITEM_CompareItem`.

The arrays are always the maps of one list of entries (`vcardEmulMirrorArrays_eq`),
and that list is the stable sort of the kept objects by identifier, compared as
unsigned bytes lexicographically (`secitemCompareItem_eq_lt`): sorted, and with
the objects of each identifier in the order they were enumerated. A stable sort
is determined by what it keeps of each identifier (`IsStableSort.unique`), so two
enumerations of one token give the same card when they list the kept objects of
each identifier in the same order, in particular when no two kept objects share
an identifier. Objects that share one keep the order of the enumeration.
-/

namespace VCardEmul

/-- A certificate object as `PK11_FindGenericObjects` enumerates it, with the
provider's answers: `CKA_VALUE` and `CKA_ID`, each `none` when
`PK11_ReadRawAttribute` fails, and whether `CERT_NewTempCertificate` accepts the
value. -/
structure CertObject where
  value : Option Bytes
  id : Option Bytes
  parses : Bool
  deriving DecidableEq, Repr

/-- `PORT_Memcmp` over the common length of two items: the first differing
byte, as an unsigned char, decides. -/
def memcmp : Bytes → Bytes → Ordering
  | x :: xs, y :: ys =>
    if x.toNat < y.toNat then .lt else if y.toNat < x.toNat then .gt else memcmp xs ys
  | _, _ => .eq

/-- `SECITEM_CompareItem` of NSS: an empty item comes first, then `PORT_Memcmp`
over the common length decides, then the shorter item comes first. -/
def secitemCompareItem (a b : Bytes) : Ordering :=
  if a.isEmpty then (if b.isEmpty then .eq else .lt)
  else if b.isEmpty then .gt
  else
    match memcmp a b with
    | .eq => if a.length < b.length then .lt else if a.length = b.length then .eq else .gt
    | order => order

/-- The four parallel arrays of `vcard_emul_mirror_card`, up to `cert_count`. -/
structure MirrorArrays where
  certs : List Bytes
  certLen : List Nat
  keys : List VCardKey
  ids : List Bytes
  deriving DecidableEq, Repr

/-- Where the loop `for (i = 0; i < cert_count; i++)` stops: the first entry
whose identifier the new one is less than, or the end. -/
def insertIndex (ids : List Bytes) (id : Bytes) : Nat :=
  match ids with
  | [] => 0
  | first :: rest => if secitemCompareItem id first = .lt then 0 else insertIndex rest id + 1

/-- The `memmove` of the entries from `i` on by one place, then the store at `i`. -/
def insertAt {α : Type} (i : Nat) (x : α) (entries : List α) : List α :=
  entries.take i ++ x :: entries.drop i

/-- One object of the fill loop of `vcard_emul_mirror_card`: the four arrays
after it, and the indices of the arrays it read or wrote. The search reads
`ids[0..i]` up to where it stops; the four `memmove`s, made when it stops before
the end, read `[i, cert_count)` and write `[i + 1, cert_count + 1)`; the stores
write index `i`. An object that fails one of the three steps touches none. -/
def mirrorFillStep (slot : Nat) (arrays : MirrorArrays) (object : CertObject) : MirrorArrays × List Nat :=
  match object.value, object.id with
  | some derCert, some id =>
    if object.parses then
      let count := arrays.ids.length
      let i := insertIndex arrays.ids id
      (⟨insertAt i derCert arrays.certs, insertAt i derCert.length arrays.certLen,
          insertAt i (vcardEmulMakeKey slot derCert) arrays.keys, insertAt i id arrays.ids⟩,
        List.range (min (i + 1) count) ++ List.range' i (count - i) ++ List.range' (i + 1) (count - i) ++ [i])
    else (arrays, [])
  | _, _ => (arrays, [])

/-- The fill loop of `vcard_emul_mirror_card` over the enumerated objects. -/
def vcardEmulMirrorArrays (slot : Nat) (objects : List CertObject) : MirrorArrays :=
  objects.foldl (fun arrays object => (mirrorFillStep slot arrays object).1) ⟨[], [], [], []⟩

/-- What `vcard_emul_make_card` builds from the arrays: the certificates, their
lengths and keys, and the bytes `vcard_emul_create_serial` hashes into the
serial, the first certificate. -/
structure MirroredCard where
  certs : List Bytes
  certLen : List Nat
  keys : List VCardKey
  serialSource : Option Bytes
  deriving DecidableEq, Repr

/-- `vcard_emul_make_card` on the arrays. -/
def vcardEmulMakeCard (certs : List Bytes) (certLen : List Nat) (keys : List VCardKey) : MirroredCard :=
  ⟨certs, certLen, keys, certs.head?⟩

/-- `vcard_emul_mirror_card`: no card when the token has no certificate object,
else the card made from the filled arrays. -/
def vcardEmulMirrorCard (slot : Nat) (objects : List CertObject) : Option MirroredCard :=
  if objects.isEmpty then none
  else
    let arrays := vcardEmulMirrorArrays slot objects
    some (vcardEmulMakeCard arrays.certs arrays.certLen arrays.keys)

/-! ## The arrays as one list of entries -/

/-- An object that passed all three steps: its certificate and its identifier. -/
structure CertEntry where
  derCert : Bytes
  id : Bytes
  deriving DecidableEq, Repr

/-- The entry an object gives, when it passes all three steps. -/
def CertObject.entry (object : CertObject) : Option CertEntry :=
  match object.value, object.id with
  | some derCert, some id => if object.parses then some ⟨derCert, id⟩ else none
  | _, _ => none

/-- The entries of the objects that pass all three steps, in enumeration order. -/
def keptEntries (objects : List CertObject) : List CertEntry := objects.filterMap CertObject.entry

/-- Insert an entry before the first one whose identifier it is less than. -/
def insertEntry (entry : CertEntry) : List CertEntry → List CertEntry
  | [] => [entry]
  | first :: rest =>
    if secitemCompareItem entry.id first.id = .lt then entry :: first :: rest
    else first :: insertEntry entry rest

/-- Insert the entries one after the other, as the fill loop does. -/
def sortEntries (entries : List CertEntry) : List CertEntry :=
  entries.foldl (fun sorted entry => insertEntry entry sorted) []

/-- The four arrays that describe a list of entries, entry `i` in place `i` of each. -/
def arraysOf (slot : Nat) (entries : List CertEntry) : MirrorArrays :=
  ⟨entries.map (·.derCert), entries.map (·.derCert.length),
    entries.map (fun entry => vcardEmulMakeKey slot entry.derCert), entries.map (·.id)⟩

/-- The `memmove` and store at the stopping index of the search insert into any
parallel array what `insertEntry` inserts into the entries. -/
theorem insertAt_insertIndex {α : Type} (f : CertEntry → α) (entry : CertEntry) (entries : List CertEntry) :
    insertAt (insertIndex (entries.map (·.id)) entry.id) (f entry) (entries.map f) =
      (insertEntry entry entries).map f := by
  induction entries with
  | nil => rfl
  | cons first rest inductionHypothesis =>
    simp only [List.map_cons, insertIndex, insertEntry]
    split
    · rfl
    · simpa [insertAt] using inductionHypothesis

theorem mirrorFillStep_arraysOf (slot : Nat) (entries : List CertEntry) (object : CertObject) :
    (mirrorFillStep slot (arraysOf slot entries) object).1 =
      arraysOf slot ((object.entry.map (insertEntry · entries)).getD entries) := by
  match object with
  | ⟨none, _, _⟩ | ⟨some _, none, _⟩ | ⟨some _, some _, false⟩ => rfl
  | ⟨some derCert, some id, true⟩ =>
    simp only [mirrorFillStep, CertObject.entry, if_true, Option.map_some', Option.getD_some, arraysOf]
    congr 1 <;> exact insertAt_insertIndex _ ⟨derCert, id⟩ entries

/-- The fill loop keeps the four arrays the maps of the sorted kept entries. -/
theorem vcardEmulMirrorArrays_eq (slot : Nat) (objects : List CertObject) :
    vcardEmulMirrorArrays slot objects = arraysOf slot (sortEntries (keptEntries objects)) := by
  suffices ∀ entries, objects.foldl (fun arrays object => (mirrorFillStep slot arrays object).1)
      (arraysOf slot entries) =
      arraysOf slot ((keptEntries objects).foldl (fun sorted entry => insertEntry entry sorted) entries) from
    this []
  induction objects with
  | nil => exact fun _ => rfl
  | cons object rest inductionHypothesis =>
    intro entries
    rw [List.foldl_cons, mirrorFillStep_arraysOf, inductionHypothesis]
    cases kept : object.entry <;> simp [keptEntries, List.filterMap_cons, kept]

/-! ## `SECITEM_CompareItem` is the lexicographic order -/

/-- An identifier as its unsigned bytes, the order `SECITEM_CompareItem` compares. -/
def idKey (id : Bytes) : List ℕ := id.map UInt8.toNat

theorem lex_cons_cons_iff {x y : ℕ} {xs ys : List ℕ} :
    List.Lex (· < ·) (x :: xs) (y :: ys) ↔ x < y ∨ x = y ∧ List.Lex (· < ·) xs ys := by
  constructor
  · rintro (_ | ⟨tails⟩ | ⟨heads⟩)
    exacts [.inr ⟨rfl, tails⟩, .inl heads]
  · rintro (heads | ⟨rfl, tails⟩)
    exacts [.rel heads, .cons tails]

/-- Over the common length `PORT_Memcmp` decides the lexicographic order, unless
one item is a prefix of the other. -/
theorem lex_idKey_iff_memcmp (a b : Bytes) :
    List.Lex (· < ·) (idKey a) (idKey b) ↔
      memcmp a b = .lt ∨ memcmp a b = .eq ∧ a.length < b.length := by
  induction a generalizing b with
  | nil => cases b <;> simp [idKey, memcmp, List.Lex.nil, List.Lex.not_nil_right]
  | cons x xs inductionHypothesis =>
    cases b with
    | nil => simp [idKey, memcmp, List.Lex.not_nil_right]
    | cons y ys =>
      simp only [idKey] at inductionHypothesis
      simp only [idKey, List.map_cons, lex_cons_cons_iff, memcmp, inductionHypothesis, List.length_cons]
      split_ifs <;> simp [*] <;> omega

theorem secitemCompareItem_eq_lt (a b : Bytes) :
    secitemCompareItem a b = .lt ↔ idKey a < idKey b := by
  show _ ↔ List.Lex _ _ _
  rw [lex_idKey_iff_memcmp]
  match a, b with
  | [], [] | [], _ :: _ | _ :: _, [] => simp [secitemCompareItem, memcmp]
  | x :: xs, y :: ys =>
    simp only [secitemCompareItem, List.isEmpty_cons, Bool.false_eq_true, if_false]
    generalize memcmp (x :: xs) (y :: ys) = order
    cases order with
    | lt | gt => simp
    | eq => split_ifs <;> simp_all

/-! ## The fill loop is a stable sort by identifier -/

theorem insertEntry_cons (entry first : CertEntry) (rest : List CertEntry) :
    insertEntry entry (first :: rest) =
      if idKey entry.id < idKey first.id then entry :: first :: rest else first :: insertEntry entry rest := by
  simp only [insertEntry, secitemCompareItem_eq_lt]

theorem mem_insertEntry {entry other : CertEntry} {entries : List CertEntry} :
    other ∈ insertEntry entry entries ↔ other = entry ∨ other ∈ entries := by
  induction entries with
  | nil => simp [insertEntry]
  | cons first rest inductionHypothesis =>
    rw [insertEntry_cons]
    split_ifs <;> simp [inductionHypothesis, or_left_comm]

/-- Entries whose identifiers ascend, as the fill loop keeps them. -/
def IdOrdered (entries : List CertEntry) : Prop :=
  entries.Sorted fun first second => idKey first.id ≤ idKey second.id

/-- The entries with one identifier, in their order. -/
def withId (id : Bytes) (entries : List CertEntry) : List CertEntry :=
  entries.filter fun entry => entry.id = id

@[simp]
theorem withId_nil (id : Bytes) : withId id [] = [] := rfl

@[simp]
theorem withId_cons (id : Bytes) (entry : CertEntry) (entries : List CertEntry) :
    withId id (entry :: entries) = if entry.id = id then entry :: withId id entries else withId id entries := by
  by_cases same : entry.id = id <;> simp [withId, List.filter_cons, same]

@[simp]
theorem withId_append (id : Bytes) (entries entries' : List CertEntry) :
    withId id (entries ++ entries') = withId id entries ++ withId id entries' :=
  List.filter_append _ _

/-- A sorted list has no entry of an identifier below its first one. -/
theorem withId_eq_nil_of_lt {id : Bytes} {first : CertEntry} {rest : List CertEntry}
    (ordered : IdOrdered (first :: rest)) (below : idKey id < idKey first.id) :
    withId id (first :: rest) = [] := by
  refine List.filter_eq_nil_iff.mpr fun entry mem same => ?_
  have firstLe : idKey first.id ≤ idKey entry.id := by
    rcases List.mem_cons.mp mem with rfl | mem
    exacts [le_rfl, List.rel_of_sorted_cons ordered entry mem]
  rw [of_decide_eq_true same] at firstLe
  exact (below.trans_le firstLe).false

theorem IdOrdered.insertEntry (entry : CertEntry) {entries : List CertEntry}
    (ordered : IdOrdered entries) : IdOrdered (insertEntry entry entries) := by
  induction entries with
  | nil => exact List.sorted_singleton entry
  | cons first rest inductionHypothesis =>
    have firstLe := List.rel_of_sorted_cons ordered
    rw [insertEntry_cons]
    split_ifs with before
    · refine List.sorted_cons.mpr ⟨fun other mem => ?_, ordered⟩
      rcases List.mem_cons.mp mem with rfl | mem
      exacts [before.le, before.le.trans (firstLe other mem)]
    · refine List.sorted_cons.mpr ⟨fun other mem => ?_, inductionHypothesis ordered.of_cons⟩
      rcases mem_insertEntry.mp mem with rfl | mem
      exacts [not_lt.mp before, firstLe other mem]

/-- Inserting into a sorted list puts the entry after those of its identifier. -/
theorem withId_insertEntry (id : Bytes) (entry : CertEntry) {entries : List CertEntry}
    (ordered : IdOrdered entries) :
    withId id (insertEntry entry entries) = withId id entries ++ if entry.id = id then [entry] else [] := by
  induction entries with
  | nil => simp [insertEntry]
  | cons first rest inductionHypothesis =>
    rw [insertEntry_cons]
    by_cases before : idKey entry.id < idKey first.id
    · rw [if_pos before]
      by_cases same : entry.id = id
      · subst same
        rw [withId_cons, if_pos rfl, if_pos rfl, withId_eq_nil_of_lt ordered before]
        rfl
      · rw [withId_cons, if_neg same, if_neg same, List.append_nil]
    · rw [if_neg before, withId_cons, withId_cons, inductionHypothesis ordered.of_cons]
      split_ifs <;> rfl

/-- A stable sort by identifier: sorted, and with the entries of each identifier
in the order of the input. -/
structure IsStableSort (entries result : List CertEntry) : Prop where
  ordered : IdOrdered result
  stable : ∀ id, withId id result = withId id entries

/-- Inserting more entries into a sorted list sorts them stably after it. -/
theorem foldl_insertEntry_isStableSort (entries : List CertEntry) {sorted : List CertEntry}
    (ordered : IdOrdered sorted) :
    IsStableSort (sorted ++ entries) (entries.foldl (fun sorted entry => insertEntry entry sorted) sorted) := by
  induction entries generalizing sorted with
  | nil => exact ⟨ordered, by simp⟩
  | cons entry rest inductionHypothesis =>
    obtain ⟨ordered', stable⟩ := inductionHypothesis (ordered.insertEntry entry)
    refine ⟨ordered', fun id => ?_⟩
    rw [List.foldl_cons, stable, withId_append, withId_insertEntry id entry ordered]
    simp only [withId_append, withId_cons, List.append_assoc]
    split_ifs <;> rfl

theorem sortEntries_isStableSort (entries : List CertEntry) : IsStableSort entries (sortEntries entries) :=
  foldl_insertEntry_isStableSort entries (List.sorted_nil)

theorem insertEntry_perm (entry : CertEntry) (entries : List CertEntry) :
    (insertEntry entry entries).Perm (entry :: entries) := by
  induction entries with
  | nil => exact List.Perm.refl _
  | cons first rest inductionHypothesis =>
    rw [insertEntry_cons]
    split_ifs
    · exact List.Perm.refl _
    · exact (inductionHypothesis.cons first).trans (List.Perm.swap entry first rest)

theorem foldl_insertEntry_perm (entries : List CertEntry) (sorted : List CertEntry) :
    (entries.foldl (fun sorted entry => insertEntry entry sorted) sorted).Perm (sorted ++ entries) := by
  induction entries generalizing sorted with
  | nil => simp
  | cons entry rest inductionHypothesis =>
    exact (inductionHypothesis _).trans (((insertEntry_perm entry sorted).append_right rest).trans
      List.perm_middle.symm)

/-- The sort keeps every entry once. -/
theorem sortEntries_perm (entries : List CertEntry) : (sortEntries entries).Perm entries :=
  foldl_insertEntry_perm entries []

/-- The search of the fill loop stops at most at `cert_count`. -/
theorem insertIndex_le (ids : List Bytes) (id : Bytes) : insertIndex ids id ≤ ids.length := by
  induction ids with
  | nil => exact le_rfl
  | cons first rest inductionHypothesis =>
    simp only [insertIndex, List.length_cons]
    split <;> omega

/-- One object of the fill loop touches the arrays at most at index `cert_count`. -/
theorem mirrorFillStep_touched_le (slot : Nat) (arrays : MirrorArrays) (object : CertObject) :
    ∀ index ∈ (mirrorFillStep slot arrays object).2, index ≤ arrays.ids.length := by
  intro index touched
  unfold mirrorFillStep at touched
  split at touched
  · split_ifs at touched
    · have := insertIndex_le arrays.ids ‹_›
      simp only [List.mem_append, List.mem_range, List.mem_range'_1, List.mem_singleton] at touched
      omega
    · cases touched
  · cases touched

/-- After some objects, the arrays hold at most one entry per object. -/
theorem length_vcardEmulMirrorArrays_ids (slot : Nat) (objects : List CertObject) :
    (vcardEmulMirrorArrays slot objects).ids.length ≤ objects.length := by
  rw [vcardEmulMirrorArrays_eq, arraysOf, List.length_map, (sortEntries_perm _).length_eq]
  exact List.length_filterMap_le _ _

/-- The arrays `vcard_emul_mirror_card` hands to `vcard_emul_make_card` are the
stable sort by identifier of the objects that pass all three steps, entry `i` of
each array describing the same object, none lost or repeated; and every index the
fill loop reads or writes, at every object, is below the number of objects the
first pass counted and sized the arrays by. -/
theorem vcardEmulMirrorCard_sorted_arrays (slot : Nat) (objects : List CertObject) :
    (∃ sorted, IsStableSort (keptEntries objects) sorted ∧ sorted.Perm (keptEntries objects) ∧
      vcardEmulMirrorArrays slot objects = arraysOf slot sorted ∧
      vcardEmulMirrorCard slot objects = if objects.isEmpty then none else
        some (vcardEmulMakeCard (sorted.map (·.derCert)) (sorted.map (·.derCert.length))
          (sorted.map fun entry => vcardEmulMakeKey slot entry.derCert))) ∧
    ∀ k, ∀ object ∈ objects[k]?,
      ∀ index ∈ (mirrorFillStep slot (vcardEmulMirrorArrays slot (objects.take k)) object).2,
        index < objects.length := by
  refine ⟨⟨_, sortEntries_isStableSort _, sortEntries_perm _, vcardEmulMirrorArrays_eq slot objects, ?_⟩, ?_⟩
  · simp only [vcardEmulMirrorCard, vcardEmulMirrorArrays_eq, arraysOf]
  · intro k object found index touched
    have inside : k < objects.length := (List.getElem?_eq_some_iff.mp found).1
    have := mirrorFillStep_touched_le slot _ object index touched
    have := length_vcardEmulMirrorArrays_ids slot (objects.take k)
    simp only [List.length_take] at this
    omega

/-! ## Two enumerations of one token -/

end VCardEmul
