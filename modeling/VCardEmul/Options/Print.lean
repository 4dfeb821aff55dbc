import VCardEmul.Options.Accepted

/-!
# Soft readers printed and read back

`vcard_emul_usage` documents a soft reader as
`soft=(slot_name,virt_name,emul_type,emul_flags,cert_1,cert_2,...)`. Printing
readers in that form and joining them with commas gives a string that
`vcard_emul_options` reads back into exactly those readers, with every other
option at its default (`vcardEmulOptions_printSoftReaders`), when every printed
field is a soft token and at least one certificate is named. The card type is
what `vcard_emul_type_from_string` makes of the first 99 bytes of its field,
the part `type_str[100]` holds, which is the whole field for a lookup that knows
no longer name (`vcardEmulOptions_printSoftReaders_typed`).

The certificate loop trusts `count_tokens` to have counted one separator per
name. A specification whose certificate list is not closed by `)` passes
`NEXT_TOKEN`, and `count_tokens` then counts the commas up to the terminator, so
the last `strpbrk` of the loop returns `NULL` (`certNames_unclosed`).
-/

namespace VCardEmul

/-- A soft reader as the usage text writes it: its card type is a string. -/
structure SoftReaderText where
  name : Bytes
  vname : Bytes
  typeStr : Bytes
  typeParams : Bytes
  certs : List Bytes
  deriving DecidableEq, Repr

/-- The certificate names separated by commas. -/
def printCertNames : List Bytes → Bytes
  | [] => []
  | [cert] => cert
  | cert :: next :: rest => cert ++ ascii "," ++ printCertNames (next :: rest)

/-- `soft=(name,vname,type,params,cert_1,...,cert_k)`. -/
def SoftReaderText.print (spec : SoftReaderText) : Bytes :=
  ascii "soft=(" ++ spec.name ++ ascii "," ++ spec.vname ++ ascii "," ++ spec.typeStr ++ ascii "," ++
    spec.typeParams ++ ascii "," ++ printCertNames spec.certs ++ ascii ")"

/-- The specifications printed one after the other, separated by commas. -/
def printSoftReaders : List SoftReaderText → Bytes
  | [] => []
  | [spec] => spec.print
  | spec :: next :: rest => spec.print ++ ascii "," ++ printSoftReaders (next :: rest)

/-- The reader `vcard_emul_options` should make of a printed specification. -/
def SoftReaderText.parsed (typeFromString : Bytes → VCardEmulType) (spec : SoftReaderText) :
    VirtualReaderOptions :=
  ⟨spec.name, spec.vname, typeFromString (spec.typeStr.take 99), spec.typeParams, spec.certs⟩

/-- A specification whose fields are soft tokens, with a card type and at least
one certificate. -/
structure SoftReaderText.WellFormed (typeFromString : Bytes → VCardEmulType) (spec : SoftReaderText) :
    Prop where
  name : SoftToken spec.name
  vname : SoftToken spec.vname
  typeStr : SoftToken spec.typeStr
  typeParams : SoftToken spec.typeParams
  certified : spec.certs ≠ []
  certs : ∀ cert ∈ spec.certs, SoftToken cert
  typed : typeFromString (spec.typeStr.take 99) ≠ .vcardEmulNone

instance (typeFromString : Bytes → VCardEmulType) (spec : SoftReaderText) :
    Decidable (spec.WellFormed typeFromString) :=
  decidable_of_iff (SoftToken spec.name ∧ SoftToken spec.vname ∧ SoftToken spec.typeStr ∧
      SoftToken spec.typeParams ∧ spec.certs ≠ [] ∧ (∀ cert ∈ spec.certs, SoftToken cert) ∧
      typeFromString (spec.typeStr.take 99) ≠ .vcardEmulNone)
    ⟨fun ⟨name, vname, typeStr, typeParams, certified, certs, typed⟩ =>
        ⟨name, vname, typeStr, typeParams, certified, certs, typed⟩,
      fun ⟨name, vname, typeStr, typeParams, certified, certs, typed⟩ =>
        ⟨name, vname, typeStr, typeParams, certified, certs, typed⟩⟩

/-! ## The string functions on a printed token -/

/-- `strip` leaves a string that starts with no white space as it is. -/
theorem strip_eq_self {str : Bytes} (stops : isspace (peek str) = false) : strip str = str := by
  cases str with
  | nil => rfl
  | cons c rest => simp [strip, show isspace c = false from stops]

/-- `strpbrk` passes over a token that holds no terminator and no byte it looks for. -/
theorem strpbrk_append_clean {accept : List UInt8} {token : Bytes} (more : Bytes)
    (clean : ∀ c ∈ token, c ≠ 0 ∧ c ∉ accept) :
    strpbrk accept (token ++ more) = (strpbrk accept more).map (· + token.length) := by
  induction token with
  | nil => simp
  | cons c token inductionHypothesis =>
    obtain ⟨notZero, notAccepted⟩ := clean c (List.mem_cons_self _ _)
    rw [List.cons_append, strpbrk, if_neg (by simpa using notZero), if_neg notAccepted,
      inductionHypothesis fun d mem => clean d (List.mem_cons_of_mem _ mem), Option.map_map]
    rfl

/-- `count_tokens` passes over a token that holds no terminator, `,` or `)`. -/
theorem countTokens_append_clean {token : Bytes} (more : Bytes) (clean : ∀ c ∈ token, c ≠ 0 ∧ c ∉ ascii ",)") :
    countTokens ','.toUInt8 ')'.toUInt8 (token ++ more) = countTokens ','.toUInt8 ')'.toUInt8 more := by
  induction token with
  | nil => rfl
  | cons c token inductionHypothesis =>
    obtain ⟨notZero, notSeparator⟩ := clean c (List.mem_cons_self _ _)
    have notComma : c ≠ ','.toUInt8 := fun same => notSeparator (by simp [same, ascii])
    have notClose : c ≠ ')'.toUInt8 := fun same => notSeparator (by simp [same, ascii])
    rw [List.cons_append, countTokens, if_neg (by simpa using notZero), if_neg (by simpa using notClose),
      if_neg (by simpa using notComma), Nat.zero_add]
    exact inductionHypothesis fun d mem => clean d (List.mem_cons_of_mem _ mem)

theorem countTokens_close (more : Bytes) : countTokens ','.toUInt8 ')'.toUInt8 (')'.toUInt8 :: more) = 0 := by
  simp [countTokens, show ')'.toUInt8 ≠ 0 by decide, show ')'.toUInt8 ≠ ','.toUInt8 by decide]

theorem countTokens_comma (more : Bytes) :
    countTokens ','.toUInt8 ')'.toUInt8 (','.toUInt8 :: more) = countTokens ','.toUInt8 ')'.toUInt8 more + 1 := by
  simp [countTokens, show ','.toUInt8 ≠ 0 by decide, show ','.toUInt8 ≠ ')'.toUInt8 by decide, Nat.add_comm]

/-- A soft token followed by a byte that is no white space starts with no white space. -/
theorem SoftToken.isspace_peek_append {token : Bytes} (soft : SoftToken token) {more : Bytes}
    (stops : isspace (peek more) = false) : isspace (peek (token ++ more)) = false := by
  cases token with
  | nil => exact stops
  | cons c rest => exact soft.leading

/-- A soft token followed by a separator starts with neither white space nor the
terminator, and so does a soft token that is not empty. -/
theorem SoftToken.starts_append {token : Bytes} (soft : SoftToken token) {more : Bytes}
    (separated : token ≠ [] ∨ peek more = ','.toUInt8 ∨ peek more = ')'.toUInt8) :
    isspace (peek (token ++ more)) = false ∧ peek (token ++ more) ≠ 0 := by
  cases token with
  | nil =>
    rcases separated with empty | comma | close
    · exact absurd rfl empty
    · simp only [List.nil_append, comma]
      decide
    · simp only [List.nil_append, close]
      decide
  | cons c rest => exact ⟨soft.leading, (soft.clean c (List.mem_cons_self _ _)).1⟩

/-- `strpbrk` finds the separator after a clean token. -/
theorem strpbrk_token {token : Bytes} (clean : ∀ c ∈ token, c ≠ 0 ∧ c ∉ ascii ",)") {separator : UInt8}
    (found : separator ∈ ascii ",)") (more : Bytes) :
    strpbrk (ascii ",)") (token ++ separator :: more) = some token.length := by
  have notZero : separator ≠ 0 := by
    rintro rfl
    exact absurd found (by decide)
  simp [strpbrk_append_clean _ clean, strpbrk, notZero, found]

/-- `NEXT_TOKEN` takes a clean token up to its comma and skips the white space after it. -/
theorem nextToken_append {token : Bytes} (more : Bytes) (clean : ∀ c ∈ token, c ≠ 0 ∧ c ∉ ascii ",)") :
    nextToken (token ++ ascii "," ++ more) = .ok (token, strip more) := by
  have split : token ++ ascii "," ++ more = token ++ ','.toUInt8 :: more := by simp [ascii]
  rw [split, nextToken, strpbrk_token clean (by decide) more]
  simp [peek, show ','.toUInt8 ≠ 0 by decide, show ','.toUInt8 ≠ ')'.toUInt8 by decide]

/-! ## The certificate loop -/

theorem printCertNames_cons_append (cert : Bytes) (tail : List Bytes) (rest : Bytes) :
    printCertNames (cert :: tail) ++ rest =
      cert ++ if tail = [] then rest else ','.toUInt8 :: (printCertNames tail ++ rest) := by
  cases tail <;> simp [printCertNames, ascii]

/-- The certificate text of a specification starts with neither white space nor
the terminator. -/
theorem printCertNames_start {certs : List Bytes} (certified : certs ≠ []) (soft : ∀ cert ∈ certs, SoftToken cert)
    (rest : Bytes) :
    isspace (peek (printCertNames certs ++ ')'.toUInt8 :: rest)) = false ∧
      peek (printCertNames certs ++ ')'.toUInt8 :: rest) ≠ 0 := by
  obtain ⟨cert, tail, rfl⟩ := List.exists_cons_of_ne_nil certified
  rw [printCertNames_cons_append]
  exact (soft cert (List.mem_cons_self _ _)).starts_append (.inr (by split <;> simp [peek]))

/-- One turn of the certificate loop takes a clean name up to its separator. -/
theorem certNames_token {token : Bytes} (clean : ∀ c ∈ token, c ≠ 0 ∧ c ∉ ascii ",)") {separator : UInt8}
    (found : separator ∈ ascii ",)") (count : Nat) (more : Bytes) :
    certNames (count + 1) (token ++ separator :: more) =
      certNames count (strip more) >>= fun (names, rest) => .ok (token :: names, rest) := by
  rw [certNames, strpbrk_token clean found more]
  simp

/-- The certificate loop reads a printed list back up to its `)`, and
`count_tokens` counts one comma fewer than there are names. -/
theorem certNames_printCertNames {certs : List Bytes} (certified : certs ≠ [])
    (soft : ∀ cert ∈ certs, SoftToken cert) (rest : Bytes) :
    certNames certs.length (printCertNames certs ++ ')'.toUInt8 :: rest) = .ok (certs, strip rest) ∧
      countTokens ','.toUInt8 ')'.toUInt8 (printCertNames certs ++ ')'.toUInt8 :: rest) + 1 = certs.length := by
  induction certs with
  | nil => exact absurd rfl certified
  | cons cert tail inductionHypothesis =>
    have clean := (soft cert (List.mem_cons_self _ _)).clean
    rw [printCertNames_cons_append]
    cases tail with
    | nil =>
      refine ⟨?_, by rw [if_pos rfl, countTokens_append_clean _ clean, countTokens_close]; rfl⟩
      rw [if_pos rfl, List.length_singleton, certNames_token clean (by decide)]
      rfl
    | cons next tail =>
      have tailSoft : ∀ later ∈ next :: tail, SoftToken later :=
        fun later mem => soft later (List.mem_cons_of_mem _ mem)
      have stripped := strip_eq_self (printCertNames_start (List.cons_ne_nil _ _) tailSoft rest).1
      obtain ⟨later, counted⟩ := inductionHypothesis (List.cons_ne_nil _ _) tailSoft
      simp only [List.cons_ne_nil, if_false, countTokens_append_clean _ clean, countTokens_comma,
        List.length_cons] at later counted ⊢
      refine ⟨?_, by omega⟩
      rw [certNames_token clean (by decide), stripped, later]
      rfl

/-! ## One specification -/

/-- The four fields of a specification, each followed by its comma, before the
certificate text. -/
def SoftReaderText.fieldText (spec : SoftReaderText) (certText : Bytes) : Bytes :=
  spec.name ++ ascii "," ++ (spec.vname ++ ascii "," ++ (spec.typeStr ++ ascii "," ++
    (spec.typeParams ++ ascii "," ++ certText)))

theorem SoftReaderText.print_append (spec : SoftReaderText) (rest : Bytes) :
    spec.print ++ rest =
      ascii "soft=" ++ '('.toUInt8 :: spec.fieldText (printCertNames spec.certs ++ ')'.toUInt8 :: rest) := by
  simp only [SoftReaderText.print, SoftReaderText.fieldText, List.append_assoc]
  rfl

/-- A soft token followed by a comma is left alone by `strip`. -/
theorem SoftToken.strip_append_comma {token : Bytes} (soft : SoftToken token) (more : Bytes) :
    strip (token ++ ascii "," ++ more) = token ++ ascii "," ++ more :=
  strip_eq_self (by rw [List.append_assoc]; exact soft.isspace_peek_append rfl)

/-- A pass that meets `soft=` is the `soft=` branch. -/
theorem optionsPass_soft {pcsc : Bool} {typeFromString : Bytes → VCardEmulType} (opts : VCardEmulOptions)
    (body : Bytes) :
    optionsPass pcsc typeFromString opts (ascii "soft=" ++ body) =
      softSpecification typeFromString body >>= fun (reader, rest) =>
        .ok ({ opts with vreader := opts.vreader ++ [reader] }, rest) := by
  have starts : startsWith (ascii "soft=" ++ body) "soft=" = true := List.isPrefixOf_iff_prefix.mpr ⟨body, rfl⟩
  unfold optionsPass
  dsimp only
  rw [@strip_eq_self (ascii "soft=" ++ body) rfl,
    if_neg (show ¬ (peek (ascii "soft=" ++ body) == ','.toUInt8) = true from Bool.false_ne_true), if_pos starts]
  simp [ascii]

/-- The `soft=` branch takes the four fields of a well-formed specification and
goes on to the certificate loop with the text after them. -/
theorem softSpecification_fieldText {typeFromString : Bytes → VCardEmulType} {spec : SoftReaderText}
    (wellFormed : spec.WellFormed typeFromString) (certText : Bytes) :
    softSpecification typeFromString ('('.toUInt8 :: spec.fieldText certText) =
      if peek (strip certText) == 0 then .error .missingCertSpecification else
      certNames (countTokens ','.toUInt8 ')'.toUInt8 (strip certText) + 1) (strip certText) >>=
        fun (certName, args) =>
      .ok (⟨spec.name, spec.vname, typeFromString (spec.typeStr.take 99), spec.typeParams, certName⟩,
        if peek args == ')'.toUInt8 then args.tail else args) := by
  obtain ⟨name, vname, typeStr, typeParams, -, -, typed⟩ := wellFormed
  unfold softSpecification SoftReaderText.fieldText
  rw [@strip_eq_self ('('.toUInt8 :: _) rfl]
  simp only [show peek ('('.toUInt8 :: _) = '('.toUInt8 from rfl, bne_self_eq_false, Bool.false_eq_true, if_false,
    List.tail_cons, name.strip_append_comma, nextToken_append _ name.clean, vname.strip_append_comma,
    nextToken_append _ vname.clean, typeStr.strip_append_comma, nextToken_append _ typeStr.clean, except_ok_bind,
    typed, beq_iff_eq, typeParams.strip_append_comma, nextToken_append _ typeParams.clean]

/-- The `soft=` branch reads a printed specification back, up to the rest of the
string, when the rest starts with neither white space nor `)`. -/
theorem softSpecification_print {typeFromString : Bytes → VCardEmulType} {spec : SoftReaderText}
    (wellFormed : spec.WellFormed typeFromString) {rest : Bytes} (stops : isspace (peek rest) = false)
    (unclosed : peek rest ≠ ')'.toUInt8) :
    softSpecification typeFromString ('('.toUInt8 :: spec.fieldText (printCertNames spec.certs ++ ')'.toUInt8 :: rest)) =
      .ok (spec.parsed typeFromString, rest) := by
  have started := printCertNames_start wellFormed.certified wellFormed.certs rest
  obtain ⟨counted, names⟩ := certNames_printCertNames wellFormed.certified wellFormed.certs rest
  rw [softSpecification_fieldText wellFormed, strip_eq_self started.1]
  simp only [beq_iff_eq, started.2, if_false, names, counted, except_ok_bind, strip_eq_self stops, unclosed]
  rfl

/-- A pass over a printed specification adds its reader and stops before the rest. -/
theorem optionsPass_print {pcsc : Bool} {typeFromString : Bytes → VCardEmulType} (opts : VCardEmulOptions)
    {spec : SoftReaderText} (wellFormed : spec.WellFormed typeFromString) {rest : Bytes}
    (stops : isspace (peek rest) = false) (unclosed : peek rest ≠ ')'.toUInt8) :
    optionsPass pcsc typeFromString opts (spec.print ++ rest) =
      .ok ({ opts with vreader := opts.vreader ++ [spec.parsed typeFromString] }, rest) := by
  rw [spec.print_append, optionsPass_soft, softSpecification_print wellFormed stops unclosed]
  rfl

/-- A pass over a comma skips it. -/
theorem optionsPass_comma {pcsc : Bool} {typeFromString : Bytes → VCardEmulType} (opts : VCardEmulOptions)
    (more : Bytes) : optionsPass pcsc typeFromString opts (ascii "," ++ more) = .ok (opts, more) := by
  unfold optionsPass
  dsimp only
  rw [@strip_eq_self (ascii "," ++ more) rfl, if_pos (show (peek (ascii "," ++ more) == ','.toUInt8) = true from rfl)]
  rfl

/-! ## Printed readers -/

theorem peek_printSoftReaders (spec : SoftReaderText) (tail : List SoftReaderText) :
    peek (printSoftReaders (spec :: tail)) = 's'.toUInt8 := by
  cases tail with
  | nil => rw [printSoftReaders, ← List.append_nil spec.print, spec.print_append]; rfl
  | cons next tail => rw [printSoftReaders, List.append_assoc, spec.print_append]; rfl

/-- The loop reads printed readers back one after the other, a pass for each
reader and one for each comma between two of them. -/
theorem optionsLoop_printSoftReaders {pcsc : Bool} {typeFromString : Bytes → VCardEmulType}
    {specs : List SoftReaderText} (nonempty : specs ≠ [])
    (wellFormed : ∀ spec ∈ specs, spec.WellFormed typeFromString) {fuel : Nat} (opts : VCardEmulOptions)
    (enough : (printSoftReaders specs).length < fuel) :
    optionsLoop pcsc typeFromString fuel opts (printSoftReaders specs) =
      some (.ok { opts with vreader := opts.vreader ++ specs.map (SoftReaderText.parsed typeFromString) }) := by
  induction specs generalizing opts fuel with
  | nil => exact absurd rfl nonempty
  | cons spec tail inductionHypothesis =>
    have specWellFormed := wellFormed spec (List.mem_cons_self _ _)
    obtain ⟨fuel, rfl⟩ : ∃ previous, fuel = previous + 1 := ⟨fuel - 1, by omega⟩
    cases tail with
    | nil =>
      have pass := @optionsPass_print pcsc typeFromString opts spec specWellFormed [] rfl (by decide)
      rw [List.append_nil] at pass
      simp only [printSoftReaders, optionsLoop, pass]
      rfl
    | cons next tail =>
      have pass := @optionsPass_print pcsc typeFromString opts spec specWellFormed
        (ascii "," ++ printSoftReaders (next :: tail)) rfl (show ','.toUInt8 ≠ ')'.toUInt8 by decide)
      have printed : printSoftReaders (spec :: next :: tail) =
          spec.print ++ (ascii "," ++ printSoftReaders (next :: tail)) := by
        simp only [printSoftReaders, List.append_assoc]
      have long : 0 < spec.print.length := by simp [SoftReaderText.print, ascii]
      rw [printed, List.length_append, List.length_append, show (ascii ",").length = 1 from rfl] at enough
      obtain ⟨fuel, rfl⟩ : ∃ previous, fuel = previous + 1 := ⟨fuel - 1, by omega⟩
      have rest := @inductionHypothesis (List.cons_ne_nil _ _)
        (fun later member => wellFormed later (List.mem_cons_of_mem _ member)) fuel
        { opts with vreader := opts.vreader ++ [spec.parsed typeFromString] } (by omega)
      rw [printed, optionsLoop, pass]
      dsimp only
      rw [if_neg (show ¬ (peek (ascii "," ++ printSoftReaders (next :: tail)) == 0) = true from Bool.false_ne_true),
        optionsLoop, optionsPass_comma]
      dsimp only
      rw [peek_printSoftReaders, if_neg (by decide), rest]
      simp

/-- Printed soft readers, joined by commas, are read back in order, each with the
card type of the first 99 bytes of its type field, and every other option keeps
its default. -/
theorem vcardEmulOptions_printSoftReaders {pcsc : Bool} {typeFromString : Bytes → VCardEmulType}
    {specs : List SoftReaderText} (nonempty : specs ≠ [])
    (wellFormed : ∀ spec ∈ specs, spec.WellFormed typeFromString) :
    vcardEmulOptions pcsc typeFromString (printSoftReaders specs) =
      some (.ok { defaultOptions with vreader := specs.map (SoftReaderText.parsed typeFromString) }) :=
  optionsLoop_printSoftReaders nonempty wellFormed defaultOptions (Nat.lt_succ_self _)

/-- With a card-type lookup that knows no name longer than the 99 bytes
`type_str` holds, as `vcard_emul_type_from_string` knows only `CAC` and
`PASSTHRU`: readers whose fields are soft tokens, each naming a card type and at
least one certificate, printed and joined by commas, are read back as exactly
those readers in order, each card type looked up on its whole field, with every
other option at its default. -/
theorem vcardEmulOptions_printSoftReaders_typed {pcsc : Bool} {typeFromString : Bytes → VCardEmulType}
    (shortNames : ∀ name, typeFromString name ≠ .vcardEmulNone → name.length ≤ 99)
    {specs : List SoftReaderText} (nonempty : specs ≠ [])
    (tokens : ∀ spec ∈ specs, SoftToken spec.name ∧ SoftToken spec.vname ∧ SoftToken spec.typeStr ∧
      SoftToken spec.typeParams ∧ spec.certs ≠ [] ∧ ∀ cert ∈ spec.certs, SoftToken cert)
    (typed : ∀ spec ∈ specs, typeFromString spec.typeStr ≠ .vcardEmulNone) :
    vcardEmulOptions pcsc typeFromString (printSoftReaders specs) =
      some (.ok { defaultOptions with vreader := specs.map fun spec =>
        ⟨spec.name, spec.vname, typeFromString spec.typeStr, spec.typeParams, spec.certs⟩ }) := by
  have whole : ∀ spec ∈ specs, spec.typeStr.take 99 = spec.typeStr := fun spec member =>
    List.take_of_length_le (shortNames _ (typed spec member))
  have wellFormed : ∀ spec ∈ specs, spec.WellFormed typeFromString := fun spec member =>
    have ⟨name, vname, typeStr, typeParams, certified, certs⟩ := tokens spec member
    ⟨name, vname, typeStr, typeParams, certified, certs, (whole spec member).symm ▸ typed spec member⟩
  rw [vcardEmulOptions_printSoftReaders nonempty wellFormed,
    List.map_congr_left fun spec member => by rw [SoftReaderText.parsed, whole spec member]]

/-- Two readers, the first with an empty parameter field and a space inside its
reader name. -/
def twoSoftReaders : List SoftReaderText :=
  [⟨ascii "slot1", ascii "reader 1", ascii "CAC", [], [ascii "cert1", ascii "cert2"]⟩,
    ⟨ascii "slot2", ascii "reader2", ascii "CAC", ascii "p", [ascii "cert3"]⟩]

/-- The two readers with a lookup that knows only `CAC`. -/
theorem twoSoftReaders_read_back :
    (∀ name, cacTypeOnly name ≠ .vcardEmulNone → name.length ≤ 99) ∧ twoSoftReaders ≠ [] ∧
      (∀ spec ∈ twoSoftReaders, SoftToken spec.name ∧ SoftToken spec.vname ∧ SoftToken spec.typeStr ∧
        SoftToken spec.typeParams ∧ spec.certs ≠ [] ∧ ∀ cert ∈ spec.certs, SoftToken cert) ∧
      (∀ spec ∈ twoSoftReaders, cacTypeOnly spec.typeStr ≠ .vcardEmulNone) ∧
      vcardEmulOptions false cacTypeOnly (printSoftReaders twoSoftReaders) =
        some (.ok { defaultOptions with vreader := twoSoftReaders.map fun spec =>
          ⟨spec.name, spec.vname, cacTypeOnly spec.typeStr, spec.typeParams, spec.certs⟩ }) :=
  have shortNames : ∀ name, cacTypeOnly name ≠ .vcardEmulNone → name.length ≤ 99 := fun name known => by
    by_cases cac : name = ascii "CAC"
    · subst cac
      decide
    · exact absurd (if_neg cac) known
  have tokens : ∀ spec ∈ twoSoftReaders, SoftToken spec.name ∧ SoftToken spec.vname ∧ SoftToken spec.typeStr ∧
      SoftToken spec.typeParams ∧ spec.certs ≠ [] ∧ ∀ cert ∈ spec.certs, SoftToken cert := by
    decide
  have typed : ∀ spec ∈ twoSoftReaders, cacTypeOnly spec.typeStr ≠ .vcardEmulNone := by decide
  ⟨shortNames, nofun, tokens, typed, vcardEmulOptions_printSoftReaders_typed shortNames nofun tokens typed⟩

/-! ## A certificate list without its `)` -/

/-- `strip` keeps a suffix of its string. -/
theorem strip_suffix (str : Bytes) : strip str <:+ str := by
  induction str with
  | nil => exact List.suffix_refl _
  | cons c rest inductionHypothesis =>
    simp only [strip]
    split
    · exact inductionHypothesis.trans (List.suffix_cons _ _)
    · exact List.suffix_refl _

/-- `strip` skips no `,`, `)` or terminator, so `count_tokens` counts as much after it. -/
theorem countTokens_strip (str : Bytes) :
    countTokens ','.toUInt8 ')'.toUInt8 (strip str) = countTokens ','.toUInt8 ')'.toUInt8 str := by
  induction str with
  | nil => rfl
  | cons c rest inductionHypothesis =>
    simp only [strip]
    split
    · next skipped =>
      obtain ⟨notZero, space⟩ : c ≠ 0 ∧ isspace c = true := by simpa using skipped
      have notComma : c ≠ ','.toUInt8 := by rintro rfl; exact absurd space (by decide)
      have notClose : c ≠ ')'.toUInt8 := by rintro rfl; exact absurd space (by decide)
      rw [inductionHypothesis, countTokens, if_neg (by simpa using notZero), if_neg (by simpa using notClose),
        if_neg (by simpa using notComma), Nat.zero_add]
    · rfl

/-- In a text with no `)` and no terminator, the separator `strpbrk` finds is a
comma, and `count_tokens` counts it. -/
theorem countTokens_of_strpbrk {args : Bytes} (noClose : ∀ c ∈ args, c ≠ 0 ∧ c ≠ ')'.toUInt8) {offset : Nat}
    (found : strpbrk (ascii ",)") args = some offset) :
    countTokens ','.toUInt8 ')'.toUInt8 args =
      countTokens ','.toUInt8 ')'.toUInt8 (strip (args.drop (offset + 1))) + 1 := by
  obtain ⟨inside, separator, before⟩ := strpbrk_eq_some found
  have isComma : args[offset] = ','.toUInt8 := by
    have member : args[offset] ∈ [','.toUInt8, ')'.toUInt8] := by
      rw [List.drop_eq_getElem_cons inside] at separator
      exact separator
    rcases List.mem_cons.mp member with comma | close
    · exact comma
    · exact absurd (List.mem_singleton.mp close) (noClose _ (List.getElem_mem inside)).2
  have split : args = args.take offset ++ ','.toUInt8 :: args.drop (offset + 1) := by
    rw [← isComma, ← List.drop_eq_getElem_cons inside, List.take_append_drop]
  calc countTokens ','.toUInt8 ')'.toUInt8 args
      = countTokens ','.toUInt8 ')'.toUInt8 (args.take offset ++ ','.toUInt8 :: args.drop (offset + 1)) :=
        congrArg _ split
    _ = countTokens ','.toUInt8 ')'.toUInt8 (args.drop (offset + 1)) + 1 := by
        rw [countTokens_append_clean _ before, countTokens_comma]
    _ = countTokens ','.toUInt8 ')'.toUInt8 (strip (args.drop (offset + 1))) + 1 := by rw [countTokens_strip]

/-- In a text with no `)` and no terminator, the certificate loop of `count_tokens`
plus one names runs out of separators at its last name. -/
theorem certNames_unclosed {args : Bytes} (noClose : ∀ c ∈ args, c ≠ 0 ∧ c ≠ ')'.toUInt8) :
    certNames (countTokens ','.toUInt8 ')'.toUInt8 args + 1) args = .error .certEndNull := by
  generalize counted : countTokens ','.toUInt8 ')'.toUInt8 args = count
  induction count generalizing args with
  | zero =>
    cases found : strpbrk (ascii ",)") args with
    | none => simp [certNames, found]
    | some offset =>
      have := countTokens_of_strpbrk noClose found
      omega
  | succ count inductionHypothesis =>
    cases found : strpbrk (ascii ",)") args with
    | none => simp [certNames, found]
    | some offset =>
      have later := countTokens_of_strpbrk noClose found
      have suffix := (strip_suffix (args.drop (offset + 1))).trans (List.drop_suffix _ _)
      rw [certNames, found]
      dsimp only
      rw [inductionHypothesis (fun c mem => noClose c (suffix.subset mem)) (by omega)]
      rfl

/-- The names of soft tokens, joined by commas, hold no `)` and no terminator. -/
theorem printCertNames_unclosed {certs : List Bytes} (soft : ∀ cert ∈ certs, SoftToken cert) :
    ∀ c ∈ printCertNames certs, c ≠ 0 ∧ c ≠ ')'.toUInt8 := by
  have ofToken : ∀ {cert}, SoftToken cert → ∀ c ∈ cert, c ≠ 0 ∧ c ≠ ')'.toUInt8 := fun certSoft c mem =>
    ⟨(certSoft.clean c mem).1, fun close => (certSoft.clean c mem).2 (close ▸ by decide)⟩
  induction certs using printCertNames.induct with
  | case1 => simp [printCertNames]
  | case2 cert => exact ofToken (soft cert (List.mem_singleton_self _))
  | case3 cert next rest inductionHypothesis =>
    intro c mem
    simp only [printCertNames, List.mem_append] at mem
    rcases mem with (inCert | comma) | later
    · exact ofToken (soft cert (List.mem_cons_self _ _)) c inCert
    · obtain rfl : c = ','.toUInt8 := by simpa [ascii] using comma
      decide
    · exact inductionHypothesis (fun later member => soft later (List.mem_cons_of_mem _ member)) c later

/-- A printed specification without its closing `)`, followed by any text with no
`)`, is not rejected before the certificate loop, and the loop's last `strpbrk`
returns `NULL`: `vcard_emul_options` goes on with a `NULL` pointer. -/
theorem vcardEmulOptions_unclosed {pcsc : Bool} {typeFromString : Bytes → VCardEmulType} {spec : SoftReaderText}
    (wellFormed : spec.WellFormed typeFromString) (named : spec.certs.head? ≠ some []) (more : Bytes)
    (noClose : ∀ c ∈ more, c ≠ 0 ∧ c ≠ ')'.toUInt8) :
    vcardEmulOptions pcsc typeFromString (spec.print.dropLast ++ more) = some (.error .certEndNull) := by
  have body : spec.print.dropLast ++ more =
      ascii "soft=" ++ '('.toUInt8 :: spec.fieldText (printCertNames spec.certs ++ more) := by
    rw [SoftReaderText.print, show ascii ")" = [')'.toUInt8] from rfl, List.dropLast_concat]
    simp only [SoftReaderText.fieldText, List.append_assoc]
    rfl
  obtain ⟨cert, tail, certsEq⟩ := List.exists_cons_of_ne_nil wellFormed.certified
  have started : isspace (peek (printCertNames spec.certs ++ more)) = false ∧
      peek (printCertNames spec.certs ++ more) ≠ 0 := by
    rw [certsEq, printCertNames_cons_append]
    exact (wellFormed.certs cert (by simp [certsEq])).starts_append (.inl fun empty => named (by simp [certsEq, empty]))
  have clean : ∀ c ∈ printCertNames spec.certs ++ more, c ≠ 0 ∧ c ≠ ')'.toUInt8 := by
    intro c mem
    rcases List.mem_append.mp mem with named | later
    exacts [printCertNames_unclosed wellFormed.certs c named, noClose c later]
  rw [vcardEmulOptions, body, optionsLoop, optionsPass_soft, softSpecification_fieldText wellFormed,
    strip_eq_self started.1, if_neg (by simpa using started.2), certNames_unclosed clean]
  rfl

/-- `soft=(a,b,CAC,p,cert1`: one certificate, no closing parenthesis. -/
def unclosedSpec : SoftReaderText := ⟨ascii "a", ascii "b", ascii "CAC", ascii "p", [ascii "cert1"]⟩

example : unclosedSpec.print.dropLast = ascii "soft=(a,b,CAC,p,cert1" := by decide

theorem unclosedSpec_cert_loop_null :
    unclosedSpec.WellFormed cacTypeOnly ∧ unclosedSpec.certs.head? ≠ some [] ∧
      (∀ c ∈ ([] : Bytes), c ≠ 0 ∧ c ≠ ')'.toUInt8) ∧
      vcardEmulOptions false cacTypeOnly (unclosedSpec.print.dropLast ++ []) = some (.error .certEndNull) :=
  ⟨by decide, by decide, by simp, vcardEmulOptions_unclosed (by decide) (by decide) [] (by simp)⟩

end VCardEmul
