import VCardEmul.Options.Print

/-!
# The option string printed and read back

`vcard_emul_usage` lists the items of the option string: `db="path"`,
`use_hw=yes|no|removable`, `hw_type=`, `hw_params=`, `nssemul`, `passthru` in a
build with PC/SC, and `soft=(...)`, which "come as a single string separated by
blanks or newlines". An `OptionItem` is one item, `OptionItem.print` writes it as
the usage text does, and `OptionItem.apply` is what it does to the options: it
sets a field or adds a reader, or it fails with the message `vcard_emul_options`
prints for it.

`vcardEmulOptions_printItems`: items printed with white space between them are
read back as the fold of their meanings over `default_options`, failures
included, whenever the parser can find where each item's value ends. Two limits
come from the code. `hw_type=` looks its card type up on the whole rest of the
string (`vcard_emul_type_from_string(args)`), so it is read back only as the
last item. And the loop is a `do ... while` that stops only at the terminator, so
white space at the end of the string is read as one more, empty, item and
rejected, except after a `soft=` specification, whose certificate loop skips the
white space after its `)` (`vcardEmulOptions_trailing_blanks`).
-/

namespace VCardEmul

/-- The value `use_hw=` is written with. -/
def UseHw.text : UseHw → Bytes
  | .useHwNo => ascii "no"
  | .useHwYes => ascii "yes"
  | .useHwRemovable => ascii "removable"

/-- One item of the option string. -/
inductive OptionItem where
  | db (path : Bytes)
  | useHw (useHw : UseHw)
  | hwType (name : Bytes)
  | hwParams (params : Bytes)
  | nssemul
  | passthru
  | soft (spec : SoftReaderText)
  deriving DecidableEq, Repr

/-- An item as `vcard_emul_usage` writes it. -/
def OptionItem.print : OptionItem → Bytes
  | .db path => ascii "db=\"" ++ path ++ ascii "\""
  | .useHw setting => ascii "use_hw=" ++ setting.text
  | .hwType name => ascii "hw_type=" ++ name
  | .hwParams params => ascii "hw_params=" ++ params
  | .nssemul => ascii "nssemul"
  | .passthru => ascii "passthru"
  | .soft spec => spec.print

/-- Items printed one after the other, with `separator` between two of them. -/
def printItems (separator : Bytes) : List OptionItem → Bytes
  | [] => []
  | [item] => item.print
  | item :: next :: rest => item.print ++ separator ++ printItems separator (next :: rest)

/-- What an item does to the options. `db=` and `hw_params=` may be given once, a
card type must be one `vcard_emul_type_from_string` knows, `passthru` needs
PC/SC, and a soft reader's card type is looked up on the 99 bytes `type_str[100]`
holds. -/
def OptionItem.apply (pcsc : Bool) (typeFromString : Bytes → VCardEmulType) (opts : VCardEmulOptions) :
    OptionItem → Except OptionsError VCardEmulOptions
  | .db path => if opts.nssDb.isSome then .error .dbRedefinition else .ok { opts with nssDb := some path }
  | .useHw setting => .ok { opts with useHw := setting }
  | .hwType name =>
    if typeFromString name = .vcardEmulNone then .error (.invalidSmartcardType name)
    else .ok { opts with hwCardType := typeFromString name }
  | .hwParams params =>
    if opts.hwTypeParams.isSome then .error .hwParamsRedefinition
    else .ok { opts with hwTypeParams := some params }
  | .nssemul => .ok { opts with hwCardType := .vcardEmulCac, useHw := .useHwYes }
  | .passthru =>
    if pcsc then .ok { opts with hwCardType := .vcardEmulPassthru, useHw := .useHwYes }
    else .error .unknownSmartcardSpecification
  | .soft spec =>
    if typeFromString (spec.typeStr.take 99) = .vcardEmulNone then
      .error (.invalidSmartcardType (spec.typeStr.take 99))
    else .ok { opts with vreader := opts.vreader ++ [spec.parsed typeFromString] }

/-- Whether the parser takes the item's value up to the end of the string. -/
def OptionItem.readsToEnd : OptionItem → Bool
  | .hwType _ => true
  | _ => false

/-- Where the parser goes on after an item followed by `rest`: right after the
item, or, after a `soft=` specification, past the white space after its `)`. -/
def OptionItem.resume : OptionItem → Bytes → Bytes
  | .soft _, rest => strip rest
  | _, rest => rest

/-- A soft reader whose fields the `soft=` branch can find the ends of: each
field a soft token, and at least one certificate. -/
structure SoftReaderText.Printable (spec : SoftReaderText) : Prop where
  name : SoftToken spec.name
  vname : SoftToken spec.vname
  typeStr : SoftToken spec.typeStr
  typeParams : SoftToken spec.typeParams
  certified : spec.certs ≠ []
  certs : ∀ cert ∈ spec.certs, SoftToken cert

instance (spec : SoftReaderText) : Decidable spec.Printable :=
  decidable_of_iff (SoftToken spec.name ∧ SoftToken spec.vname ∧ SoftToken spec.typeStr ∧
      SoftToken spec.typeParams ∧ spec.certs ≠ [] ∧ ∀ cert ∈ spec.certs, SoftToken cert)
    ⟨fun ⟨name, vname, typeStr, typeParams, certified, certs⟩ => ⟨name, vname, typeStr, typeParams, certified, certs⟩,
      fun ⟨name, vname, typeStr, typeParams, certified, certs⟩ => ⟨name, vname, typeStr, typeParams, certified, certs⟩⟩

/-- An item whose value the parser can find the end of: a path with no quote,
newline or terminator, a type name or parameter word with no white space, and a
parameter word that is not empty (an empty one takes the next item for its
value). -/
def OptionItem.Printable : OptionItem → Prop
  | .db path => ∀ c ∈ path, c ≠ 0 ∧ c ∉ [0x22, '\n'.toUInt8]
  | .useHw _ => True
  | .hwType name => ∀ c ∈ name, c ≠ 0 ∧ isspace c = false
  | .hwParams params => params ≠ [] ∧ ∀ c ∈ params, c ≠ 0 ∧ isspace c = false
  | .nssemul => True
  | .passthru => True
  | .soft spec => spec.Printable

instance : DecidablePred OptionItem.Printable := fun item =>
  match item with
  | .db path => inferInstanceAs (Decidable (∀ c ∈ path, c ≠ 0 ∧ c ∉ [0x22, '\n'.toUInt8]))
  | .useHw _ => inferInstanceAs (Decidable True)
  | .hwType name => inferInstanceAs (Decidable (∀ c ∈ name, c ≠ 0 ∧ isspace c = false))
  | .hwParams params => inferInstanceAs (Decidable (params ≠ [] ∧ ∀ c ∈ params, c ≠ 0 ∧ isspace c = false))
  | .nssemul => inferInstanceAs (Decidable True)
  | .passthru => inferInstanceAs (Decidable True)
  | .soft spec => inferInstanceAs (Decidable spec.Printable)

/-! ## White space around an item -/

theorem strip_strip (str : Bytes) : strip (strip str) = strip str := strip_eq_self (isspace_peek_strip str)

/-- `strip` skips a separator of white space. -/
theorem strip_blanks_append {separator : Bytes} (blanks : ∀ c ∈ separator, isspace c = true) (more : Bytes) :
    strip (separator ++ more) = strip more := by
  induction separator with
  | nil => rfl
  | cons c separator inductionHypothesis =>
    have space := blanks c (List.mem_cons_self _ _)
    have notZero : c ≠ 0 := by
      rintro rfl
      exact absurd space (by decide)
    rw [List.cons_append, strip, if_pos (by simp [notZero, space])]
    exact inductionHypothesis fun d mem => blanks d (List.mem_cons_of_mem _ mem)

/-- White space that is there is no terminator. -/
theorem peek_ne_zero_of_blanks {str : Bytes} (blanks : ∀ c ∈ str, isspace c = true) (nonempty : str ≠ []) :
    peek str ≠ 0 := by
  obtain ⟨c, rest, rfl⟩ := List.exists_cons_of_ne_nil nonempty
  rintro (zero : c = 0)
  exact absurd (blanks c (List.mem_cons_self _ _)) (by rw [zero]; decide)

/-- A pointer that reads no terminator after white space reads none before it. -/
theorem peek_ne_zero_of_strip {str : Bytes} (reads : peek (strip str) ≠ 0) : peek str ≠ 0 := by
  cases str with
  | nil => exact reads
  | cons c rest =>
    simp only [strip] at reads
    split at reads
    · next skipped => exact (by simpa using skipped : c ≠ 0 ∧ isspace c = true).1
    · exact reads

/-- `find_blank` passes over a word with no white space and no terminator. -/
theorem findBlank_append_word {word : Bytes} (clean : ∀ c ∈ word, c ≠ 0 ∧ isspace c = false) (rest : Bytes) :
    findBlank (word ++ rest) = findBlank rest := by
  induction word with
  | nil => rfl
  | cons c word inductionHypothesis =>
    obtain ⟨notZero, notSpace⟩ := clean c (List.mem_cons_self _ _)
    rw [List.cons_append, findBlank, if_pos (by simp [notZero, notSpace])]
    exact inductionHypothesis fun d mem => clean d (List.mem_cons_of_mem _ mem)

/-- `find_blank` stays at white space and at the end. -/
theorem findBlank_of_ended {rest : Bytes} (ended : rest = [] ∨ isspace (peek rest) = true) :
    findBlank rest = rest := by
  rcases rest with _ | ⟨c, rest⟩
  · rfl
  · have space : isspace c = true := ended.resolve_left (List.cons_ne_nil _ _)
    simp [findBlank, space]

/-- A word with no white space and no terminator, followed by anything when it is
not empty, starts with no white space. -/
theorem isspace_peek_word {word : Bytes} (clean : ∀ c ∈ word, c ≠ 0 ∧ isspace c = false) {rest : Bytes}
    (started : word ≠ [] ∨ rest = []) : isspace (peek (word ++ rest)) = false := by
  rcases word with _ | ⟨c, word⟩
  · obtain rfl := started.resolve_left (not_not.mpr rfl)
    rfl
  · exact (clean c (List.mem_cons_self _ _)).2

theorem OptionItem.resume_strip (item : OptionItem) (rest : Bytes) : strip (item.resume rest) = strip rest := by
  cases item
  case soft => exact strip_strip rest
  all_goals rfl

theorem OptionItem.resume_nil (item : OptionItem) : item.resume [] = [] := by
  cases item <;> rfl

theorem OptionItem.length_resume_le (item : OptionItem) (rest : Bytes) : (item.resume rest).length ≤ rest.length := by
  cases item
  case soft => exact length_strip_le rest
  all_goals exact le_rfl

/-- A printed item starts with the first letter of its keyword. -/
theorem OptionItem.peek_print_append (item : OptionItem) (rest : Bytes) :
    isspace (peek (item.print ++ rest)) = false ∧ peek (item.print ++ rest) ≠ 0 ∧
      peek (item.print ++ rest) ≠ ')'.toUInt8 := by
  have letters : ∀ c ∈ ascii "dushnp", isspace c = false ∧ c ≠ 0 ∧ c ≠ ')'.toUInt8 := by decide
  have first : ∃ c ∈ ascii "dushnp", peek (item.print ++ rest) = c := by
    cases item with
    | db => exact ⟨'d'.toUInt8, by decide, rfl⟩
    | useHw => exact ⟨'u'.toUInt8, by decide, rfl⟩
    | hwType => exact ⟨'h'.toUInt8, by decide, rfl⟩
    | hwParams => exact ⟨'h'.toUInt8, by decide, rfl⟩
    | nssemul => exact ⟨'n'.toUInt8, by decide, rfl⟩
    | passthru => exact ⟨'p'.toUInt8, by decide, rfl⟩
    | soft spec => exact ⟨'s'.toUInt8, by decide, by rw [OptionItem.print, spec.print_append]; rfl⟩
  obtain ⟨c, letter, first⟩ := first
  rw [first]
  exact letters c letter

/-! ## The branches of one pass -/

theorem startsWith_ascii_append (text : String) (body : Bytes) : startsWith (ascii text ++ body) text = true :=
  List.isPrefixOf_iff_prefix.mpr ⟨body, rfl⟩

section Branches

variable {pcsc : Bool} {typeFromString : Bytes → VCardEmulType} (opts : VCardEmulOptions) (body : Bytes)

theorem optionsPass_useHw :
    optionsPass pcsc typeFromString opts (ascii "use_hw=" ++ body) =
      .ok ({ opts with useHw := useHwOf (strip body) }, findBlank (strip body)) := by
  unfold optionsPass
  dsimp only
  rw [@strip_eq_self (ascii "use_hw=" ++ body) rfl,
    if_neg (show ¬ (peek (ascii "use_hw=" ++ body) == ','.toUInt8) = true from Bool.false_ne_true),
    if_neg (show ¬ startsWith (ascii "use_hw=" ++ body) "soft=" = true from Bool.false_ne_true),
    if_pos (startsWith_ascii_append _ _), List.drop_left' (show (ascii "use_hw=").length = 7 from rfl)]

theorem optionsPass_hwType :
    optionsPass pcsc typeFromString opts (ascii "hw_type=" ++ body) =
      if typeFromString (strip body) == .vcardEmulNone then .error (.invalidSmartcardType (strip body))
      else .ok ({ opts with hwCardType := typeFromString (strip body) }, findBlank (strip body)) := by
  unfold optionsPass
  dsimp only
  rw [@strip_eq_self (ascii "hw_type=" ++ body) rfl,
    if_neg (show ¬ (peek (ascii "hw_type=" ++ body) == ','.toUInt8) = true from Bool.false_ne_true),
    if_neg (show ¬ startsWith (ascii "hw_type=" ++ body) "soft=" = true from Bool.false_ne_true),
    if_neg (show ¬ startsWith (ascii "hw_type=" ++ body) "use_hw=" = true from Bool.false_ne_true),
    if_pos (startsWith_ascii_append _ _), List.drop_left' (show (ascii "hw_type=").length = 8 from rfl)]

theorem optionsPass_hwParams :
    optionsPass pcsc typeFromString opts (ascii "hw_params=" ++ body) =
      if opts.hwTypeParams.isSome then .error .hwParamsRedefinition
      else
        .ok ({ opts with hwTypeParams := some ((strip body).take ((strip body).length - (findBlank (strip body)).length)) },
          findBlank (strip body)) := by
  unfold optionsPass
  dsimp only
  rw [@strip_eq_self (ascii "hw_params=" ++ body) rfl,
    if_neg (show ¬ (peek (ascii "hw_params=" ++ body) == ','.toUInt8) = true from Bool.false_ne_true),
    if_neg (show ¬ startsWith (ascii "hw_params=" ++ body) "soft=" = true from Bool.false_ne_true),
    if_neg (show ¬ startsWith (ascii "hw_params=" ++ body) "use_hw=" = true from Bool.false_ne_true),
    if_neg (show ¬ startsWith (ascii "hw_params=" ++ body) "hw_type=" = true from Bool.false_ne_true),
    if_pos (startsWith_ascii_append _ _), List.drop_left' (show (ascii "hw_params=").length = 10 from rfl)]

theorem optionsPass_db :
    optionsPass pcsc typeFromString opts (ascii "db=" ++ body) =
      if opts.nssDb.isSome then .error .dbRedefinition
      else dbPath body >>= fun (db, rest) => .ok ({ opts with nssDb := some db }, rest) := by
  unfold optionsPass
  dsimp only
  rw [@strip_eq_self (ascii "db=" ++ body) rfl,
    if_neg (show ¬ (peek (ascii "db=" ++ body) == ','.toUInt8) = true from Bool.false_ne_true),
    if_neg (show ¬ startsWith (ascii "db=" ++ body) "soft=" = true from Bool.false_ne_true),
    if_neg (show ¬ startsWith (ascii "db=" ++ body) "use_hw=" = true from Bool.false_ne_true),
    if_neg (show ¬ startsWith (ascii "db=" ++ body) "hw_type=" = true from Bool.false_ne_true),
    if_neg (show ¬ startsWith (ascii "db=" ++ body) "hw_params=" = true from Bool.false_ne_true),
    if_pos (startsWith_ascii_append _ _), List.drop_left' (show (ascii "db=").length = 3 from rfl)]

theorem optionsPass_nssemul :
    optionsPass pcsc typeFromString opts (ascii "nssemul" ++ body) =
      .ok ({ opts with hwCardType := .vcardEmulCac, useHw := .useHwYes }, findBlank body) := by
  unfold optionsPass
  dsimp only
  rw [@strip_eq_self (ascii "nssemul" ++ body) rfl,
    if_neg (show ¬ (peek (ascii "nssemul" ++ body) == ','.toUInt8) = true from Bool.false_ne_true),
    if_neg (show ¬ startsWith (ascii "nssemul" ++ body) "soft=" = true from Bool.false_ne_true),
    if_neg (show ¬ startsWith (ascii "nssemul" ++ body) "use_hw=" = true from Bool.false_ne_true),
    if_neg (show ¬ startsWith (ascii "nssemul" ++ body) "hw_type=" = true from Bool.false_ne_true),
    if_neg (show ¬ startsWith (ascii "nssemul" ++ body) "hw_params=" = true from Bool.false_ne_true),
    if_neg (show ¬ startsWith (ascii "nssemul" ++ body) "db=" = true from Bool.false_ne_true),
    if_pos (startsWith_ascii_append _ _), List.drop_left' (show (ascii "nssemul").length = 7 from rfl)]

theorem optionsPass_passthru :
    optionsPass pcsc typeFromString opts (ascii "passthru" ++ body) =
      if pcsc then .ok ({ opts with hwCardType := .vcardEmulPassthru, useHw := .useHwYes }, findBlank body)
      else .error .unknownSmartcardSpecification := by
  unfold optionsPass
  dsimp only
  rw [@strip_eq_self (ascii "passthru" ++ body) rfl,
    if_neg (show ¬ (peek (ascii "passthru" ++ body) == ','.toUInt8) = true from Bool.false_ne_true),
    if_neg (show ¬ startsWith (ascii "passthru" ++ body) "soft=" = true from Bool.false_ne_true),
    if_neg (show ¬ startsWith (ascii "passthru" ++ body) "use_hw=" = true from Bool.false_ne_true),
    if_neg (show ¬ startsWith (ascii "passthru" ++ body) "hw_type=" = true from Bool.false_ne_true),
    if_neg (show ¬ startsWith (ascii "passthru" ++ body) "hw_params=" = true from Bool.false_ne_true),
    if_neg (show ¬ startsWith (ascii "passthru" ++ body) "db=" = true from Bool.false_ne_true),
    if_neg (show ¬ startsWith (ascii "passthru" ++ body) "nssemul" = true from Bool.false_ne_true),
    startsWith_ascii_append, Bool.and_true, List.drop_left' (show (ascii "passthru").length = 8 from rfl)]

end Branches

/-- A pass over a string that starts with white space is a pass over what follows it. -/
theorem optionsPass_strip {pcsc : Bool} {typeFromString : Bytes → VCardEmulType} (opts : VCardEmulOptions)
    (args : Bytes) : optionsPass pcsc typeFromString opts (strip args) = optionsPass pcsc typeFromString opts args := by
  simp only [optionsPass, strip_strip]

theorem optionsLoop_strip {pcsc : Bool} {typeFromString : Bytes → VCardEmulType} (fuel : Nat)
    (opts : VCardEmulOptions) (args : Bytes) :
    optionsLoop pcsc typeFromString fuel opts (strip args) = optionsLoop pcsc typeFromString fuel opts args := by
  cases fuel with
  | zero => rfl
  | succ fuel => simp only [optionsLoop, optionsPass_strip]

/-- A pass over nothing but white space finds no item. -/
theorem optionsPass_blanks {pcsc : Bool} {typeFromString : Bytes → VCardEmulType} (opts : VCardEmulOptions)
    {str : Bytes} (blanks : ∀ c ∈ str, isspace c = true) :
    optionsPass pcsc typeFromString opts str = .error .unknownSmartcardSpecification := by
  have skipped : strip str = [] := by simpa using strip_blanks_append blanks []
  rw [← optionsPass_strip, skipped]
  cases pcsc <;> rfl

theorem optionsLoop_blanks {pcsc : Bool} {typeFromString : Bytes → VCardEmulType} {fuel : Nat}
    (opts : VCardEmulOptions) {str : Bytes} (positive : 0 < fuel) (blanks : ∀ c ∈ str, isspace c = true) :
    optionsLoop pcsc typeFromString fuel opts str = some (.error .unknownSmartcardSpecification) := by
  obtain ⟨fuel, rfl⟩ : ∃ previous, fuel = previous + 1 := ⟨fuel - 1, by omega⟩
  rw [optionsLoop, optionsPass_blanks opts blanks]

/-! ## One item -/

theorem useHwOf_text (setting : UseHw) (rest : Bytes) : useHwOf (setting.text ++ rest) = setting := by
  cases setting
  case useHwRemovable => exact (if_neg Bool.false_ne_true).trans (if_pos (startsWith_ascii_append "removable" rest))
  all_goals rfl

theorem OptionItem.print_db_append (path rest : Bytes) :
    (OptionItem.db path).print ++ rest = ascii "db=" ++ 0x22 :: (path ++ 0x22 :: rest) := by
  simp only [OptionItem.print, List.append_assoc]
  rfl

/-- The `db=` branch reads a quoted path with no quote, newline or terminator in it. -/
theorem dbPath_quoted {path : Bytes} (clean : ∀ c ∈ path, c ≠ 0 ∧ c ∉ [0x22, '\n'.toUInt8]) (rest : Bytes) :
    dbPath (0x22 :: (path ++ 0x22 :: rest)) = .ok (path, rest) := by
  unfold dbPath
  rw [@strip_eq_self (0x22 :: _) rfl]
  simp [peek, strpbrk_append_clean _ clean, strpbrk]

/-- The `soft=` branch on a printed specification followed by any text: the
reader, unless its card type is unknown, and the text past the white space after
its `)`. -/
theorem softSpecification_printed {typeFromString : Bytes → VCardEmulType} {spec : SoftReaderText}
    (printable : spec.Printable) (rest : Bytes) :
    softSpecification typeFromString ('('.toUInt8 :: spec.fieldText (printCertNames spec.certs ++ ')'.toUInt8 :: rest)) =
      if typeFromString (spec.typeStr.take 99) = .vcardEmulNone then
        .error (.invalidSmartcardType (spec.typeStr.take 99))
      else .ok (spec.parsed typeFromString, if peek (strip rest) == ')'.toUInt8 then (strip rest).tail else strip rest) := by
  obtain ⟨name, vname, typeStr, typeParams, certified, certs⟩ := printable
  by_cases typed : typeFromString (spec.typeStr.take 99) = .vcardEmulNone
  · rw [if_pos typed]
    unfold softSpecification SoftReaderText.fieldText
    rw [@strip_eq_self ('('.toUInt8 :: _) rfl]
    simp only [show peek ('('.toUInt8 :: _) = '('.toUInt8 from rfl, bne_self_eq_false, Bool.false_eq_true,
      if_false, List.tail_cons, name.strip_append_comma, nextToken_append _ name.clean, vname.strip_append_comma,
      nextToken_append _ vname.clean, typeStr.strip_append_comma, nextToken_append _ typeStr.clean, except_ok_bind,
      typed, beq_self_eq_true, if_true]
  · have started := printCertNames_start certified certs rest
    obtain ⟨counted, names⟩ := certNames_printCertNames certified certs rest
    rw [if_neg typed, softSpecification_fieldText ⟨name, vname, typeStr, typeParams, certified, certs, typed⟩,
      strip_eq_self started.1]
    simp only [beq_iff_eq, started.2, if_false, names, counted, except_ok_bind]
    rfl

/-- A pass over a printed item followed by white space or by the end does what
the item means, and goes on where `OptionItem.resume` says. -/
theorem optionsPass_printItem {pcsc : Bool} {typeFromString : Bytes → VCardEmulType} {item : OptionItem}
    (printable : item.Printable) (opts : VCardEmulOptions) {rest : Bytes}
    (ended : rest = [] ∨ isspace (peek rest) = true) (unclosed : peek (strip rest) ≠ ')'.toUInt8)
    (typeLast : item.readsToEnd = true → rest = []) :
    optionsPass pcsc typeFromString opts (item.print ++ rest) =
      (·, item.resume rest) <$> item.apply pcsc typeFromString opts := by
  cases item with
  | db path =>
    rw [OptionItem.print_db_append, optionsPass_db]
    simp only [OptionItem.apply]
    split_ifs
    · rfl
    · rw [dbPath_quoted printable]
      rfl
  | useHw useHw =>
    have clean : ∀ c ∈ useHw.text, c ≠ 0 ∧ isspace c = false := by cases useHw <;> decide
    have stripped : strip (useHw.text ++ rest) = useHw.text ++ rest := by cases useHw <;> exact strip_eq_self rfl
    rw [OptionItem.print, List.append_assoc, optionsPass_useHw, stripped, useHwOf_text, findBlank_append_word clean,
      findBlank_of_ended ended]
    rfl
  | hwType name =>
    obtain rfl := typeLast rfl
    have stripped : strip name = name := strip_eq_self (by simpa using isspace_peek_word printable (.inr rfl))
    have ends : findBlank name = [] := by simpa using findBlank_append_word printable []
    rw [OptionItem.print, List.append_nil, optionsPass_hwType, stripped, ends]
    simp only [OptionItem.apply, beq_iff_eq]
    split_ifs <;> rfl
  | hwParams params =>
    obtain ⟨nonempty, clean⟩ := printable
    have stripped : strip (params ++ rest) = params ++ rest := strip_eq_self (isspace_peek_word clean (.inl nonempty))
    rw [OptionItem.print, List.append_assoc, optionsPass_hwParams, stripped, findBlank_append_word clean,
      findBlank_of_ended ended, List.length_append, Nat.add_sub_cancel, List.take_left' rfl]
    simp only [OptionItem.apply]
    split_ifs <;> rfl
  | nssemul =>
    rw [OptionItem.print, optionsPass_nssemul, findBlank_of_ended ended]
    rfl
  | passthru =>
    rw [OptionItem.print, optionsPass_passthru, findBlank_of_ended ended]
    cases pcsc <;> rfl
  | soft spec =>
    rw [OptionItem.print, spec.print_append, optionsPass_soft, softSpecification_printed printable,
      if_neg (show ¬ (peek (strip rest) == ')'.toUInt8) = true by simpa using unclosed)]
    simp only [OptionItem.apply, OptionItem.resume]
    split_ifs <;> rfl

/-! ## The printed string -/

theorem printItems_cons_cons (separator : Bytes) (item next : OptionItem) (rest : List OptionItem) (more : Bytes) :
    printItems separator (item :: next :: rest) ++ more =
      item.print ++ (separator ++ (printItems separator (next :: rest) ++ more)) := by
  simp only [printItems, List.append_assoc]

/-- A printed list of items starts with the first letter of its first keyword. -/
theorem peek_printItems_append (separator : Bytes) (item : OptionItem) (rest : List OptionItem) (more : Bytes) :
    isspace (peek (printItems separator (item :: rest) ++ more)) = false ∧
      peek (printItems separator (item :: rest) ++ more) ≠ 0 ∧
      peek (printItems separator (item :: rest) ++ more) ≠ ')'.toUInt8 := by
  cases rest with
  | nil => exact item.peek_print_append more
  | cons next rest =>
    rw [printItems_cons_cons]
    exact item.peek_print_append _

/-- What is left after the last item: nothing but white space, all of it unless
the item was a `soft=` specification. -/
theorem OptionItem.resume_blanks (item : OptionItem) {trailing : Bytes} (blanks : ∀ c ∈ trailing, isspace c = true) :
    ∀ c ∈ item.resume trailing, isspace c = true := by
  cases item
  case soft => simp [OptionItem.resume, show strip trailing = [] by simpa using strip_blanks_append blanks []]
  all_goals exact blanks

/-- The pass over the last item, and what the loop then makes of the white
space after it: nothing when the item took it, else one more empty item. -/
theorem optionsLoop_lastItem {pcsc : Bool} {typeFromString : Bytes → VCardEmulType} {item : OptionItem}
    (printable : item.Printable) {trailing : Bytes} (trailingBlanks : ∀ c ∈ trailing, isspace c = true)
    (typeEnds : trailing ≠ [] → item.readsToEnd = false) {fuel : Nat} (opts : VCardEmulOptions)
    (enough : trailing.length < fuel) :
    optionsLoop pcsc typeFromString (fuel + 1) opts (item.print ++ trailing) =
      some (item.apply pcsc typeFromString opts >>= fun opts =>
        if item.resume trailing = [] then .ok opts else .error .unknownSmartcardSpecification) := by
  have ended : trailing = [] ∨ isspace (peek trailing) = true := by
    rcases trailing with _ | ⟨c, trailing⟩
    exacts [.inl rfl, .inr (trailingBlanks c (List.mem_cons_self _ _))]
  have unclosed : peek (strip trailing) ≠ ')'.toUInt8 := by
    rw [show strip trailing = [] by simpa using strip_blanks_append trailingBlanks []]
    decide
  rw [optionsLoop, @optionsPass_printItem pcsc typeFromString item printable opts trailing ended unclosed
    fun reads => by_contra fun nonempty => absurd reads (by simpa using typeEnds nonempty)]
  cases item.apply pcsc typeFromString opts with
  | error error => rfl
  | ok opts =>
    by_cases done : item.resume trailing = []
    · simp only [done]
      rfl
    · have blankRest := item.resume_blanks trailingBlanks
      have short := item.length_resume_le trailing
      have positive : 0 < (item.resume trailing).length := List.length_pos.mpr done
      show (if (peek (item.resume trailing) == 0) = true then _ else _) = _
      rw [if_neg (by simpa using peek_ne_zero_of_blanks blankRest done), optionsLoop_blanks opts (by omega) blankRest]
      simp only [done, if_false]
      rfl

/-- The pass over an item that white space and a further item follow: the loop
goes on at the further item with what the item means. -/
theorem optionsLoop_itemThenMore {pcsc : Bool} {typeFromString : Bytes → VCardEmulType} {item : OptionItem}
    (printable : item.Printable) (notType : item.readsToEnd = false) {separator : Bytes}
    (blank : separator ≠ []) (blanks : ∀ c ∈ separator, isspace c = true) {more : Bytes}
    (next : isspace (peek more) = false ∧ peek more ≠ 0 ∧ peek more ≠ ')'.toUInt8) (fuel : Nat)
    (opts : VCardEmulOptions) :
    optionsLoop pcsc typeFromString (fuel + 1) opts (item.print ++ (separator ++ more)) =
      match item.apply pcsc typeFromString opts with
      | .error error => some (.error error)
      | .ok opts => optionsLoop pcsc typeFromString fuel opts more := by
  have stripped : strip (separator ++ more) = more := by
    rw [strip_blanks_append blanks, strip_eq_self next.1]
  have ended : isspace (peek (separator ++ more)) = true := by
    obtain ⟨c, rest, rfl⟩ := List.exists_cons_of_ne_nil blank
    exact blanks c (List.mem_cons_self _ _)
  rw [optionsLoop, @optionsPass_printItem pcsc typeFromString item printable opts _ (.inr ended)
    (by rw [stripped]; exact next.2.2) (by simp [notType])]
  cases item.apply pcsc typeFromString opts with
  | error error => rfl
  | ok opts =>
    have resumes : peek (item.resume (separator ++ more)) ≠ 0 :=
      peek_ne_zero_of_strip (by rw [item.resume_strip, stripped]; exact next.2.1)
    show (if (peek (item.resume _) == 0) = true then _ else _) = _
    rw [if_neg (by simpa using resumes), ← optionsLoop_strip, item.resume_strip, stripped]

/-- The loop reads printed items back, one pass each, and then the white space
the string ends with: nothing if it was skipped, else one more empty item. -/
theorem optionsLoop_printItems {pcsc : Bool} {typeFromString : Bytes → VCardEmulType} {separator : Bytes}
    (blank : separator ≠ []) (blanks : ∀ c ∈ separator, isspace c = true) {items : List OptionItem}
    (nonempty : items ≠ []) (printable : ∀ item ∈ items, item.Printable)
    (typeLast : ∀ item ∈ items.dropLast, item.readsToEnd = false) {trailing : Bytes}
    (trailingBlanks : ∀ c ∈ trailing, isspace c = true)
    (typeEnds : trailing ≠ [] → (items.getLast nonempty).readsToEnd = false) {fuel : Nat} (opts : VCardEmulOptions)
    (enough : (printItems separator items ++ trailing).length < fuel) :
    optionsLoop pcsc typeFromString fuel opts (printItems separator items ++ trailing) =
      some (items.foldlM (OptionItem.apply pcsc typeFromString) opts >>= fun opts =>
        if (items.getLast nonempty).resume trailing = [] then .ok opts else .error .unknownSmartcardSpecification) := by
  induction items generalizing opts fuel with
  | nil => exact absurd rfl nonempty
  | cons item tail inductionHypothesis =>
    have itemPrintable := printable item (List.mem_cons_self _ _)
    have long : 0 < item.print.length := by
      simpa using length_pos_of_peek_ne_zero (item.peek_print_append []).2.1
    obtain ⟨fuel, rfl⟩ : ∃ previous, fuel = previous + 1 := ⟨fuel - 1, by omega⟩
    cases tail with
    | nil =>
      simp only [printItems, List.length_append] at enough
      rw [printItems, optionsLoop_lastItem itemPrintable trailingBlanks typeEnds opts (by omega)]
      simp only [List.foldlM_cons, List.foldlM_nil, List.getLast_singleton, bind_pure]
    | cons next tail =>
      simp only [printItems_cons_cons, List.length_append] at enough
      rw [printItems_cons_cons, optionsLoop_itemThenMore itemPrintable (typeLast item (by simp [List.dropLast_cons₂]))
        blank blanks (peek_printItems_append separator next tail trailing)]
      simp only [List.foldlM_cons, List.getLast_cons_cons]
      cases item.apply pcsc typeFromString opts with
      | error error => rfl
      | ok opts =>
        exact inductionHypothesis (List.cons_ne_nil _ _) (fun later member => printable later (List.mem_cons_of_mem _ member))
          (fun later member => typeLast later (by rw [List.dropLast_cons₂]; exact List.mem_cons_of_mem _ member))
          (fun nonempty => by simpa [List.getLast_cons_cons] using typeEnds nonempty) opts
          (by simp only [List.length_append]; omega)

/-- Items printed with white space between them are read back as the fold of
their meanings over `default_options`, up to the first item that fails, when a
`hw_type=` item comes only last. -/
theorem vcardEmulOptions_printItems {pcsc : Bool} {typeFromString : Bytes → VCardEmulType} {separator : Bytes}
    (blank : separator ≠ []) (blanks : ∀ c ∈ separator, isspace c = true) {items : List OptionItem}
    (nonempty : items ≠ []) (printable : ∀ item ∈ items, item.Printable)
    (typeLast : ∀ item ∈ items.dropLast, item.readsToEnd = false) :
    vcardEmulOptions pcsc typeFromString (printItems separator items) =
      some (items.foldlM (OptionItem.apply pcsc typeFromString) defaultOptions) := by
  have loop := @optionsLoop_printItems pcsc typeFromString separator blank blanks items nonempty printable typeLast []
    (by simp) (fun empty => absurd rfl empty) ((printItems separator items).length + 1) defaultOptions (by simp)
  rw [List.append_nil, OptionItem.resume_nil] at loop
  rw [vcardEmulOptions, loop]
  cases items.foldlM (OptionItem.apply pcsc typeFromString) defaultOptions <;> rfl

/-- A database path, removable slots, a parameter word, a soft reader, and the
hardware card type last. -/
def sampleItems : List OptionItem :=
  [.db (ascii "/db"), .useHw .useHwRemovable, .hwParams (ascii "x"),
    .soft ⟨ascii "slot", ascii "reader", ascii "CAC", [], [ascii "cert"]⟩, .hwType (ascii "CAC")]

theorem sampleItems_read_back :
    ascii " " ≠ [] ∧ (∀ c ∈ ascii " ", isspace c = true) ∧ sampleItems ≠ [] ∧
      (∀ item ∈ sampleItems, item.Printable) ∧ (∀ item ∈ sampleItems.dropLast, item.readsToEnd = false) ∧
      vcardEmulOptions false cacTypeOnly (printItems (ascii " ") sampleItems) =
        some (.ok ⟨some (ascii "/db"), [⟨ascii "slot", ascii "reader", .vcardEmulCac, [], [ascii "cert"]⟩],
          .vcardEmulCac, some (ascii "x"), .useHwRemovable⟩) :=
  ⟨by decide, by decide, by decide, by decide, by decide,
    (vcardEmulOptions_printItems (by decide) (by decide) (by decide) (by decide) (by decide)).trans rfl⟩

example : [OptionItem.db (ascii "a"), .nssemul, .db (ascii "b")].foldlM (OptionItem.apply true cacTypeOnly)
    defaultOptions = .error .dbRedefinition := rfl

/-- White space at the end of the option string is read as one more, empty, item
and rejected, unless the last item is a `soft=` specification, whose certificate
loop skips the white space after its `)`. An option string of white space alone,
the empty one included, is rejected the same way. -/
theorem vcardEmulOptions_trailing_blanks {pcsc : Bool} {typeFromString : Bytes → VCardEmulType} {separator : Bytes}
    (blank : separator ≠ []) (blanks : ∀ c ∈ separator, isspace c = true) {items : List OptionItem}
    (printable : ∀ item ∈ items, item.Printable) (typeFree : ∀ item ∈ items, item.readsToEnd = false)
    {trailing : Bytes} (trailingBlanks : ∀ c ∈ trailing, isspace c = true) (ends : trailing ≠ [] ∨ items = []) :
    vcardEmulOptions pcsc typeFromString (printItems separator items ++ trailing) =
      some (items.foldlM (OptionItem.apply pcsc typeFromString) defaultOptions >>= fun opts =>
        match items.getLast? with
        | some (.soft _) => .ok opts
        | _ => .error .unknownSmartcardSpecification) := by
  by_cases empty : items = []
  · subst empty
    exact optionsLoop_blanks defaultOptions (Nat.succ_pos _) trailingBlanks
  · have trailingNonempty : trailing ≠ [] := ends.resolve_right empty
    have skipped : strip trailing = [] := by simpa using strip_blanks_append trailingBlanks []
    have loop := @optionsLoop_printItems pcsc typeFromString separator blank blanks items empty printable
      (fun item member => typeFree item (List.dropLast_subset _ member)) trailing trailingBlanks
      (fun _ => typeFree _ (List.getLast_mem empty)) ((printItems separator items ++ trailing).length + 1)
      defaultOptions (Nat.lt_succ_self _)
    rw [vcardEmulOptions, loop, List.getLast?_eq_getLast items empty]
    cases items.getLast empty <;> simp [OptionItem.resume, trailingNonempty, skipped]

theorem useHwNo_newline_rejected :
    ascii " " ≠ [] ∧ (∀ c ∈ ascii " ", isspace c = true) ∧ (∀ item ∈ [OptionItem.useHw .useHwNo], item.Printable) ∧
      (∀ item ∈ [OptionItem.useHw .useHwNo], item.readsToEnd = false) ∧ (∀ c ∈ ascii "\n", isspace c = true) ∧
      (ascii "\n" ≠ [] ∨ [OptionItem.useHw .useHwNo] = []) ∧
      vcardEmulOptions false cacTypeOnly (printItems (ascii " ") [.useHw .useHwNo] ++ ascii "\n") =
        some (.error .unknownSmartcardSpecification) :=
  ⟨by decide, by decide, by decide, by decide, by decide, by decide,
    (vcardEmulOptions_trailing_blanks (by decide) (by decide) (by decide) (by decide) (by decide) (by decide)).trans rfl⟩

end VCardEmul
