import VCardEmul.Basic.Status

/-!
# The option string of the emulator

`vcard_emul_options` reads the argument string of the emulator: items such as
`soft=(slot,reader,type,params,cert,...)`, `use_hw=`, `hw_type=`, `hw_params=`,
`db="path"`, `nssemul` and, in a build with PC/SC, `passthru`, separated by
white space or commas. It fills a copy of `default_options`, or prints a message
and returns `NULL`.

The string is the bytes before its terminating zero, and a pointer into it is the
suffix from that position on; reading past the last byte reads the terminator.
`vcard_emul_type_from_string` is not part of this file, so the card type of a
string is a parameter. The loop runs with fuel; `optionsLoop_isSome` shows that
one pass per byte is always enough.
-/

namespace VCardEmul

/-- The bytes of an ASCII text, as a C string literal holds them. -/
def ascii (text : String) : Bytes := text.toList.map Char.toUInt8

/-- The byte a pointer reads: the terminating zero at the end. -/
def peek (str : Bytes) : UInt8 := str.headD 0

/-- `isspace` in the C locale: space, tab, newline, vertical tab, form feed and
carriage return. -/
def isspace (c : UInt8) : Bool := c == 0x20 || (0x09 ≤ c && c ≤ 0x0D)

/-- `strip`: skip leading white space. -/
def strip : Bytes → Bytes
  | c :: rest => if c != 0 && isspace c then strip rest else c :: rest
  | [] => []

/-- `find_blank`: skip to the first white space or the end. -/
def findBlank : Bytes → Bytes
  | c :: rest => if c != 0 && !isspace c then findBlank rest else c :: rest
  | [] => []

/-- `count_tokens`: how many `token` bytes come before the first `token_end`. -/
def countTokens (token tokenEnd : UInt8) : Bytes → Nat
  | c :: rest =>
    if c == 0 then 0
    else
      let count := if c == token then 1 else 0
      if c == tokenEnd then count else count + countTokens token tokenEnd rest
  | [] => 0

/-- `strpbrk`: the offset of the first byte that is in `accept`, or `NULL` when
the string ends first. -/
def strpbrk (accept : List UInt8) : Bytes → Option Nat
  | c :: rest =>
    if c == 0 then none else if c ∈ accept then some 0 else (strpbrk accept rest).map (· + 1)
  | [] => none

/-- `strncmp(str, text, strlen(text)) == 0`. -/
def startsWith (str : Bytes) (text : String) : Bool := (ascii text).isPrefixOf str

/-- `VCardEmulType`, with the values this file names. -/
inductive VCardEmulType where
  | vcardEmulNone
  | vcardEmulCac
  | vcardEmulPassthru
  deriving DecidableEq, Repr

/-- Which slots `vcard_emul_init` makes readers for. -/
inductive UseHw where
  | useHwNo
  | useHwYes
  | useHwRemovable
  deriving DecidableEq, Repr

/-- `VirtualReaderOptions`: one soft reader; `cert_count` is the length of `certName`. -/
structure VirtualReaderOptions where
  name : Bytes
  vname : Bytes
  cardType : VCardEmulType
  typeParams : Bytes
  certName : List Bytes
  deriving DecidableEq, Repr

/-- `VCardEmulOptions`; `vreader_count` is the length of `vreader`. -/
structure VCardEmulOptions where
  nssDb : Option Bytes
  vreader : List VirtualReaderOptions
  hwCardType : VCardEmulType
  hwTypeParams : Option Bytes
  useHw : UseHw
  deriving DecidableEq, Repr

/-- `default_options`. -/
def defaultOptions : VCardEmulOptions := ⟨none, [], .vcardEmulCac, none, .useHwYes⟩

/-- Why `vcard_emul_options` gives no options: the message it prints before
returning `NULL`, or a `NULL` from `strpbrk` in the certificate loop, which the
code goes on to use and so never returns (`certEndNull`). -/
inductive OptionsError where
  | invalidSoftSpecification
  | invalidSmartcardType (typeStr : Bytes)
  | missingCertSpecification
  | hwParamsRedefinition
  | dbRedefinition
  | unquotedDbPath
  | invalidDbArgument
  | unknownSmartcardSpecification
  | certEndNull
  deriving DecidableEq, Repr

/-- What `vcard_emul_options` prints to `stderr` before it returns `NULL`. -/
def OptionsError.message : OptionsError → Option Bytes
  | .invalidSoftSpecification => some (ascii "Error: invalid soft specification.\n")
  | .invalidSmartcardType typeStr =>
    some (ascii "Error: invalid smartcard type \x27" ++ typeStr ++ ascii "\x27.\n")
  | .missingCertSpecification => some (ascii "Error: missing cert specification.\n")
  | .hwParamsRedefinition => some (ascii "Error: redefinition of hw_params= is not allowed.\n")
  | .dbRedefinition => some (ascii "Error: redefinition of db= is not allowed.\n")
  | .unquotedDbPath => some (ascii "Error: you must quote the file path.\n")
  | .invalidDbArgument => some (ascii "Error: invalid db argument.\n")
  | .unknownSmartcardSpecification => some (ascii "Error: Unknown smartcard specification.\n")
  | .certEndNull => none

/-- `NEXT_TOKEN`: the token up to the next `,`, and where the next token starts.
A `)` or the end of the string before the `,` is an invalid soft specification. -/
def nextToken (args : Bytes) : Except OptionsError (Bytes × Bytes) :=
  match strpbrk (ascii ",)") args with
  | none => .error .invalidSoftSpecification
  | some offset =>
    if peek (args.drop offset) == 0 || peek (args.drop offset) == ')'.toUInt8 then
      .error .invalidSoftSpecification
    else .ok (args.take offset, strip (args.drop (offset + 1)))

/-- The certificate loop of the `soft=` branch: `count` names, each up to the
next `,` or `)`. -/
def certNames : Nat → Bytes → Except OptionsError (List Bytes × Bytes)
  | 0, args => .ok ([], args)
  | count + 1, args =>
    match strpbrk (ascii ",)") args with
    | none => .error .certEndNull
    | some offset =>
      certNames count (strip (args.drop (offset + 1))) >>= fun (names, rest) =>
      .ok (args.take offset :: names, rest)

/-- The `soft=` branch, from just after `soft=`: the reader and where the next
item starts. The card type is looked up on at most 99 bytes of its token. -/
def softSpecification (typeFromString : Bytes → VCardEmulType) (args : Bytes) :
    Except OptionsError (VirtualReaderOptions × Bytes) :=
  if peek (strip args) != '('.toUInt8 then .error .invalidSoftSpecification else
  nextToken (strip (strip args).tail) >>= fun (name, args) =>
  nextToken args >>= fun (vname, args) =>
  nextToken args >>= fun (typeToken, args) =>
  if typeFromString (typeToken.take 99) == .vcardEmulNone then
    .error (.invalidSmartcardType (typeToken.take 99)) else
  nextToken args >>= fun (typeParams, args) =>
  if peek args == 0 then .error .missingCertSpecification else
  certNames (countTokens ','.toUInt8 ')'.toUInt8 args + 1) args >>= fun (certName, args) =>
  .ok (⟨name, vname, typeFromString (typeToken.take 99), typeParams, certName⟩,
    if peek args == ')'.toUInt8 then args.tail else args)

/-- The value of `use_hw=`: `0`, `N`, `n` or `F` turn it off, `removable` asks
for removable slots, anything else for hardware slots. -/
def useHwOf (args : Bytes) : UseHw :=
  if peek args == '0'.toUInt8 || peek args == 'N'.toUInt8 || peek args == 'n'.toUInt8 ||
      peek args == 'F'.toUInt8 then .useHwNo
  else if startsWith args "removable" then .useHwRemovable
  else .useHwYes

/-- The `db=` branch, from just after `db=`: the path between the double quotes
(`0x22`), ended by a quote or a newline. -/
def dbPath (args : Bytes) : Except OptionsError (Bytes × Bytes) :=
  let args := strip args
  if peek args != 0x22 then .error .unquotedDbPath
  else
    match strpbrk [0x22, '\n'.toUInt8] args.tail with
    | none => .error .invalidDbArgument
    | some offset =>
      let rest := args.tail.drop offset
      .ok (args.tail.take offset, if peek rest != 0 then rest.tail else rest)

/-- One pass of the loop `do { ... } while (*args != 0)` of `vcard_emul_options`:
the options and where `args` points after it. -/
def optionsPass (pcsc : Bool) (typeFromString : Bytes → VCardEmulType) (opts : VCardEmulOptions)
    (args : Bytes) : Except OptionsError (VCardEmulOptions × Bytes) :=
  let args := strip args
  if peek args == ','.toUInt8 then .ok (opts, args.tail)
  else if startsWith args "soft=" then
    softSpecification typeFromString (args.drop 5) >>= fun (reader, rest) =>
    .ok ({ opts with vreader := opts.vreader ++ [reader] }, rest)
  else if startsWith args "use_hw=" then
    .ok ({ opts with useHw := useHwOf (strip (args.drop 7)) }, findBlank (strip (args.drop 7)))
  else if startsWith args "hw_type=" then
    let args := strip (args.drop 8)
    if typeFromString args == .vcardEmulNone then .error (.invalidSmartcardType args)
    else .ok ({ opts with hwCardType := typeFromString args }, findBlank args)
  else if startsWith args "hw_params=" then
    if opts.hwTypeParams.isSome then .error .hwParamsRedefinition
    else
      let params := strip (args.drop 10)
      .ok ({ opts with hwTypeParams := some (params.take (params.length - (findBlank params).length)) },
        findBlank params)
  else if startsWith args "db=" then
    if opts.nssDb.isSome then .error .dbRedefinition
    else dbPath (args.drop 3) >>= fun (db, rest) => .ok ({ opts with nssDb := some db }, rest)
  else if startsWith args "nssemul" then
    .ok ({ opts with hwCardType := .vcardEmulCac, useHw := .useHwYes }, findBlank (args.drop 7))
  else if pcsc && startsWith args "passthru" then
    .ok ({ opts with hwCardType := .vcardEmulPassthru, useHw := .useHwYes }, findBlank (args.drop 8))
  else .error .unknownSmartcardSpecification

/-- The loop of `vcard_emul_options`, for at most `fuel` passes; `none` when the
fuel runs out. -/
def optionsLoop (pcsc : Bool) (typeFromString : Bytes → VCardEmulType) :
    Nat → VCardEmulOptions → Bytes → Option (Except OptionsError VCardEmulOptions)
  | 0, _, _ => none
  | fuel + 1, opts, args =>
    match optionsPass pcsc typeFromString opts args with
    | .error error => some (.error error)
    | .ok (opts, rest) => if peek rest == 0 then some (.ok opts) else optionsLoop pcsc typeFromString fuel opts rest

/-- `vcard_emul_options`, with one pass per byte of the string. -/
def vcardEmulOptions (pcsc : Bool) (typeFromString : Bytes → VCardEmulType) (args : Bytes) :
    Option (Except OptionsError VCardEmulOptions) :=
  optionsLoop pcsc typeFromString (args.length + 1) defaultOptions args

/-! ## The string functions -/

/-- A computation in `Except` that succeeds is a successful first step and a
successful rest. -/
theorem except_bind_eq_ok {ε α β : Type} {x : Except ε α} {f : α → Except ε β} {b : β} :
    x >>= f = .ok b ↔ ∃ a, x = .ok a ∧ f a = .ok b := by
  cases x <;> simp [bind, Except.bind]

@[simp]
theorem except_ok_bind {ε α β : Type} (a : α) (f : α → Except ε β) : (Except.ok a : Except ε α) >>= f = f a := rfl

/-- A pointer that reads no terminator is not at the end. -/
theorem length_pos_of_peek_ne_zero {str : Bytes} (reads : peek str ≠ 0) : 0 < str.length := by
  cases str
  · exact absurd rfl reads
  · exact Nat.succ_pos _

theorem isspace_peek_take {str : Bytes} (stripped : isspace (peek str) = false) (count : Nat) :
    isspace (peek (str.take count)) = false := by
  cases count with
  | zero => rfl
  | succ count =>
    cases str with
    | nil => rfl
    | cons c rest => exact stripped

theorem length_strip_le (str : Bytes) : (strip str).length ≤ str.length := by
  induction str with
  | nil => exact le_rfl
  | cons c rest inductionHypothesis =>
    simp only [strip]
    split
    · exact Nat.le_succ_of_le inductionHypothesis
    · exact le_rfl

theorem length_findBlank_le (str : Bytes) : (findBlank str).length ≤ str.length := by
  induction str with
  | nil => exact le_rfl
  | cons c rest inductionHypothesis =>
    simp only [findBlank]
    split
    · exact Nat.le_succ_of_le inductionHypothesis
    · exact le_rfl

/-- `strip` stops at a byte that is not white space. -/
theorem isspace_peek_strip (str : Bytes) : isspace (peek (strip str)) = false := by
  induction str with
  | nil => rfl
  | cons c rest inductionHypothesis =>
    simp only [strip]
    split
    · exact inductionHypothesis
    · next stops =>
      by_cases zero : c = 0
      · subst zero
        rfl
      · simpa [peek, zero] using stops

/-- `find_blank` skips a word with no terminator and no white space. -/
theorem findBlank_spec (str : Bytes) :
    ∃ word, str = word ++ findBlank str ∧ ∀ c ∈ word, c ≠ 0 ∧ isspace c = false := by
  induction str with
  | nil => exact ⟨[], rfl, by simp⟩
  | cons c rest inductionHypothesis =>
    simp only [findBlank]
    split
    · next inWord =>
      obtain ⟨word, split, clean⟩ := inductionHypothesis
      refine ⟨c :: word, congrArg (List.cons c) split, ?_⟩
      simp only [Bool.and_eq_true, bne_iff_ne, ne_eq, Bool.not_eq_true'] at inWord
      simpa [inWord] using clean
    · exact ⟨[], rfl, by simp⟩

/-- `strpbrk` finds a byte of `accept`, after bytes that are neither the
terminator nor in `accept`. -/
theorem strpbrk_eq_some {accept : List UInt8} {str : Bytes} {offset : Nat}
    (found : strpbrk accept str = some offset) :
    offset < str.length ∧ peek (str.drop offset) ∈ accept ∧ ∀ c ∈ str.take offset, c ≠ 0 ∧ c ∉ accept := by
  induction str generalizing offset with
  | nil => cases found
  | cons c rest inductionHypothesis =>
    simp only [strpbrk] at found
    split_ifs at found with atEnd inAccept
    · cases found
      exact ⟨Nat.succ_pos _, inAccept, by simp⟩
    · cases later : strpbrk accept rest with
      | none => simp [later] at found
      | some laterOffset =>
        obtain rfl : laterOffset + 1 = offset := by simpa [later] using found
        obtain ⟨inside, foundAccept, before⟩ := inductionHypothesis later
        refine ⟨Nat.succ_lt_succ inside, foundAccept, ?_⟩
        rintro d (_ | ⟨_, mem⟩)
        · exact ⟨by simpa using atEnd, inAccept⟩
        · exact before d mem

/-- A literal that `strncmp` matches is there in full. -/
theorem length_le_of_startsWith {str : Bytes} {text : String} (starts : startsWith str text = true) :
    (ascii text).length ≤ str.length :=
  (List.isPrefixOf_iff_prefix.mp starts).length_le

/-! ## What each part of the parser accepts -/

/-- `NEXT_TOKEN` takes the bytes before the first `,` or `)`, and goes on after it. -/
theorem nextToken_eq_ok {args token rest : Bytes} (next : nextToken args = .ok (token, rest)) :
    ∃ offset, offset < args.length ∧ token = args.take offset ∧ rest = strip (args.drop (offset + 1)) ∧
      ∀ c ∈ token, c ≠ 0 ∧ c ∉ ascii ",)" := by
  unfold nextToken at next
  split at next
  · cases next
  · next offset found =>
    split at next
    · cases next
    · cases next
      obtain ⟨inside, -, before⟩ := strpbrk_eq_some found
      exact ⟨offset, inside, rfl, rfl, before⟩

theorem nextToken_length {args token rest : Bytes} (next : nextToken args = .ok (token, rest)) :
    rest.length < args.length := by
  obtain ⟨offset, inside, -, rfl, -⟩ := nextToken_eq_ok next
  have := length_strip_le (args.drop (offset + 1))
  simp only [List.length_drop] at this
  omega

/-- The certificate loop takes `count` names, each before a `,` or a `)`. -/
theorem certNames_eq_ok {count : Nat} {args rest : Bytes} {names : List Bytes}
    (loop : certNames count args = .ok (names, rest)) :
    rest.length ≤ args.length ∧ names.length = count ∧ ∀ name ∈ names, ∀ c ∈ name, c ≠ 0 ∧ c ∉ ascii ",)" := by
  induction count generalizing args names with
  | zero =>
    cases loop
    exact ⟨le_rfl, rfl, by simp⟩
  | succ count inductionHypothesis =>
    unfold certNames at loop
    split at loop
    · cases loop
    · next offset found =>
      obtain ⟨⟨later, laterRest⟩, inner, outer⟩ := except_bind_eq_ok.mp loop
      cases outer
      obtain ⟨shorter, counted, clean⟩ := inductionHypothesis inner
      obtain ⟨inside, -, before⟩ := strpbrk_eq_some found
      have := length_strip_le (args.drop (offset + 1))
      simp only [List.length_drop] at this
      refine ⟨by omega, by simp [counted], ?_⟩
      rintro name (_ | ⟨_, mem⟩)
      exacts [before, clean name mem]

/-- The first byte of every certificate name of the loop is not white space when
the loop starts after white space was skipped. -/
theorem certNames_stripped {count : Nat} {args rest : Bytes} {names : List Bytes}
    (stripped : isspace (peek args) = false) (loop : certNames count args = .ok (names, rest)) :
    ∀ name ∈ names, isspace (peek name) = false := by
  induction count generalizing args names with
  | zero =>
    cases loop
    simp
  | succ count inductionHypothesis =>
    unfold certNames at loop
    split at loop
    · cases loop
    · next offset found =>
      obtain ⟨⟨later, laterRest⟩, inner, outer⟩ := except_bind_eq_ok.mp loop
      cases outer
      rintro name (_ | ⟨_, mem⟩)
      exacts [isspace_peek_take stripped offset, inductionHypothesis (isspace_peek_strip _) inner name mem]

/-- What a `soft=` specification that parses is made of. -/
theorem softSpecification_eq_ok {typeFromString : Bytes → VCardEmulType} {args rest : Bytes}
    {reader : VirtualReaderOptions} (spec : softSpecification typeFromString args = .ok (reader, rest)) :
    ∃ afterName afterVname typeToken afterType afterParams afterCerts,
      peek (strip args) = '('.toUInt8 ∧
      nextToken (strip (strip args).tail) = .ok (reader.name, afterName) ∧
      nextToken afterName = .ok (reader.vname, afterVname) ∧
      nextToken afterVname = .ok (typeToken, afterType) ∧
      reader.cardType = typeFromString (typeToken.take 99) ∧ reader.cardType ≠ .vcardEmulNone ∧
      nextToken afterType = .ok (reader.typeParams, afterParams) ∧ peek afterParams ≠ 0 ∧
      certNames (countTokens ','.toUInt8 ')'.toUInt8 afterParams + 1) afterParams =
        .ok (reader.certName, afterCerts) ∧
      rest = if peek afterCerts == ')'.toUInt8 then afterCerts.tail else afterCerts := by
  unfold softSpecification at spec
  split_ifs at spec with opened
  obtain ⟨⟨name, afterName⟩, nameToken, spec⟩ := except_bind_eq_ok.mp spec
  obtain ⟨⟨vname, afterVname⟩, vnameToken, spec⟩ := except_bind_eq_ok.mp spec
  obtain ⟨⟨typeToken, afterType⟩, typeTokenOk, spec⟩ := except_bind_eq_ok.mp spec
  dsimp only at spec
  split_ifs at spec with typed
  obtain ⟨⟨typeParams, afterParams⟩, paramsToken, spec⟩ := except_bind_eq_ok.mp spec
  dsimp only at spec
  split_ifs at spec with certified
  obtain ⟨⟨certName, afterCerts⟩, certs, spec⟩ := except_bind_eq_ok.mp spec
  cases spec
  exact ⟨afterName, afterVname, typeToken, afterType, afterParams, afterCerts, by simpa using opened,
    nameToken, vnameToken, typeTokenOk, rfl, by simpa using typed, paramsToken, by simpa using certified,
    certs, rfl⟩

theorem softSpecification_length {typeFromString : Bytes → VCardEmulType} {args rest : Bytes}
    {reader : VirtualReaderOptions} (spec : softSpecification typeFromString args = .ok (reader, rest)) :
    rest.length ≤ args.length := by
  obtain ⟨afterName, afterVname, typeToken, afterType, afterParams, afterCerts, -, nameToken, vnameToken,
    typeTokenOk, -, -, paramsToken, -, certs, rfl⟩ := softSpecification_eq_ok spec
  have := nextToken_length nameToken
  have := nextToken_length vnameToken
  have := nextToken_length typeTokenOk
  have := nextToken_length paramsToken
  have := (certNames_eq_ok certs).1
  have := length_strip_le args
  have := length_strip_le (strip args).tail
  have : (strip args).tail.length ≤ (strip args).length := by simp
  split_ifs
  · rw [List.length_tail]
    omega
  · omega

/-- What the `db=` branch accepts: a path with no terminator, quote or newline. -/
theorem dbPath_eq_ok {args db rest : Bytes} (path : dbPath args = .ok (db, rest)) :
    rest.length < args.length ∧ ∀ c ∈ db, c ≠ 0 ∧ c ∉ [0x22, '\n'.toUInt8] := by
  unfold dbPath at path
  dsimp only at path
  split at path
  · cases path
  · next quoted =>
    split at path
    · cases path
    · next offset found =>
      cases path
      obtain ⟨inside, -, before⟩ := strpbrk_eq_some found
      have quotedNonempty : 0 < (strip args).length := length_pos_of_peek_ne_zero fun zero => by simp [zero] at quoted
      have := length_strip_le args
      refine ⟨?_, before⟩
      split_ifs <;> simp only [List.length_tail, List.length_drop] at * <;> omega

/-- What one pass of the loop can do to the options, and that it consumes part of
the string. -/
theorem optionsPass_eq_ok {pcsc : Bool} {typeFromString : Bytes → VCardEmulType}
    {opts opts' : VCardEmulOptions} {args rest : Bytes}
    (pass : optionsPass pcsc typeFromString opts args = .ok (opts', rest)) :
    rest.length < args.length ∧
      (opts' = opts ∨
        (∃ reader, softSpecification typeFromString ((strip args).drop 5) = .ok (reader, rest) ∧
          opts' = { opts with vreader := opts.vreader ++ [reader] }) ∨
        (∃ useHw, opts' = { opts with useHw := useHw }) ∨
        (∃ type, type ≠ .vcardEmulNone ∧ opts' = { opts with hwCardType := type }) ∨
        (∃ params, (∀ c ∈ params, c ≠ 0 ∧ isspace c = false) ∧
          opts' = { opts with hwTypeParams := some params }) ∨
        (∃ db, (∀ c ∈ db, c ≠ 0 ∧ c ∉ [0x22, '\n'.toUInt8]) ∧ opts' = { opts with nssDb := some db }) ∨
        (∃ type, type ≠ .vcardEmulNone ∧ opts' = { opts with hwCardType := type, useHw := .useHwYes })) := by
  have consumes : ∀ {text : String} {count : Nat}, startsWith (strip args) text = true →
      0 < count → count ≤ (ascii text).length → ((strip args).drop count).length < args.length :=
    fun starts positive within => by
      have := length_le_of_startsWith starts
      have := length_strip_le args
      simp only [List.length_drop]
      omega
  have skipped : ∀ str : Bytes, (findBlank (strip str)).length ≤ str.length :=
    fun str => (length_findBlank_le _).trans (length_strip_le str)
  unfold optionsPass at pass
  dsimp only at pass
  rcases ite_eq_iff.mp pass with ⟨comma, pass⟩ | ⟨-, pass⟩
  · cases pass
    have := @length_pos_of_peek_ne_zero (strip args) fun zero => by
      rw [zero] at comma
      exact absurd comma (by decide)
    have := length_strip_le args
    exact ⟨by simp only [List.length_tail]; omega, .inl rfl⟩
  rcases ite_eq_iff.mp pass with ⟨soft, pass⟩ | ⟨-, pass⟩
  · obtain ⟨⟨reader, after⟩, spec, pass⟩ := except_bind_eq_ok.mp pass
    cases pass
    exact ⟨(softSpecification_length spec).trans_lt (consumes soft (by decide) (by decide)),
      .inr (.inl ⟨reader, spec, rfl⟩)⟩
  rcases ite_eq_iff.mp pass with ⟨useHw, pass⟩ | ⟨-, pass⟩
  · cases pass
    exact ⟨(skipped _).trans_lt (consumes useHw (by decide) le_rfl), .inr (.inr (.inl ⟨_, rfl⟩))⟩
  rcases ite_eq_iff.mp pass with ⟨hwType, pass⟩ | ⟨-, pass⟩
  · rcases ite_eq_iff.mp pass with ⟨-, pass⟩ | ⟨typed, pass⟩
    · cases pass
    cases pass
    exact ⟨(skipped _).trans_lt (consumes hwType (by decide) le_rfl),
      .inr (.inr (.inr (.inl ⟨_, by simpa using typed, rfl⟩)))⟩
  rcases ite_eq_iff.mp pass with ⟨hwParams, pass⟩ | ⟨-, pass⟩
  · rcases ite_eq_iff.mp pass with ⟨-, pass⟩ | ⟨-, pass⟩
    · cases pass
    cases pass
    obtain ⟨word, split, clean⟩ := findBlank_spec (strip ((strip args).drop 10))
    have taken : (strip ((strip args).drop 10)).take
        ((strip ((strip args).drop 10)).length - (findBlank (strip ((strip args).drop 10))).length) = word := by
      generalize findBlank (strip ((strip args).drop 10)) = after at split ⊢
      rw [split]
      simp
    exact ⟨(skipped _).trans_lt (consumes hwParams (by decide) le_rfl),
      .inr (.inr (.inr (.inr (.inl ⟨_, taken ▸ clean, rfl⟩))))⟩
  rcases ite_eq_iff.mp pass with ⟨db, pass⟩ | ⟨-, pass⟩
  · rcases ite_eq_iff.mp pass with ⟨-, pass⟩ | ⟨-, pass⟩
    · cases pass
    obtain ⟨⟨path, after⟩, dbOk, pass⟩ := except_bind_eq_ok.mp pass
    cases pass
    obtain ⟨shorter, clean⟩ := dbPath_eq_ok dbOk
    exact ⟨shorter.trans (consumes db (by decide) le_rfl),
      .inr (.inr (.inr (.inr (.inr (.inl ⟨path, clean, rfl⟩)))))⟩
  rcases ite_eq_iff.mp pass with ⟨nssemul, pass⟩ | ⟨-, pass⟩
  · cases pass
    exact ⟨(length_findBlank_le _).trans_lt (consumes nssemul (by decide) le_rfl),
      .inr (.inr (.inr (.inr (.inr (.inr ⟨_, by decide, rfl⟩)))))⟩
  rcases ite_eq_iff.mp pass with ⟨passthru, pass⟩ | ⟨-, pass⟩
  · cases pass
    exact ⟨(length_findBlank_le _).trans_lt (consumes ((Bool.and_eq_true _ _).mp passthru).2 (by decide) le_rfl),
      .inr (.inr (.inr (.inr (.inr (.inr ⟨_, by decide, rfl⟩)))))⟩
  cases pass

/-! ## The loop ends -/

/-- One pass per byte is enough: the loop ends before its fuel does. -/
theorem optionsLoop_isSome {pcsc : Bool} {typeFromString : Bytes → VCardEmulType} {fuel : Nat}
    {opts : VCardEmulOptions} {args : Bytes} (enough : args.length < fuel) :
    (optionsLoop pcsc typeFromString fuel opts args).isSome := by
  induction fuel generalizing opts args with
  | zero => omega
  | succ fuel inductionHypothesis =>
    simp only [optionsLoop]
    split
    · rfl
    · next opts' rest pass =>
      split
      · rfl
      · exact inductionHypothesis (by have := (optionsPass_eq_ok pass).1; omega)

/-- With enough fuel the loop's answer does not depend on how much. -/
theorem optionsLoop_eq_of_lt {pcsc : Bool} {typeFromString : Bytes → VCardEmulType} {fuel fuel' : Nat}
    {opts : VCardEmulOptions} {args : Bytes} (enough : args.length < fuel) (enough' : args.length < fuel') :
    optionsLoop pcsc typeFromString fuel opts args = optionsLoop pcsc typeFromString fuel' opts args := by
  induction fuel generalizing fuel' opts args with
  | zero => omega
  | succ fuel inductionHypothesis =>
    obtain ⟨fuel', rfl⟩ : ∃ previous, fuel' = previous + 1 := ⟨fuel' - 1, by omega⟩
    simp only [optionsLoop]
    split
    · rfl
    · next opts' rest pass =>
      have := (optionsPass_eq_ok pass).1
      split
      · rfl
      · exact inductionHypothesis (by omega) (by omega)

/-- The loop of `vcard_emul_options` comes to an end on every string: the call
returns the options, or prints the message of what it rejects and returns `NULL`,
or meets the `NULL` that `strpbrk` gives in the certificate loop of a `soft=`
list left unclosed, which it then uses. -/
theorem vcardEmulOptions_ends (pcsc : Bool) (typeFromString : Bytes → VCardEmulType) (args : Bytes) :
    (∃ opts, vcardEmulOptions pcsc typeFromString args = some (.ok opts)) ∨
      (∃ error message, vcardEmulOptions pcsc typeFromString args = some (.error error) ∧
        error.message = some message) ∨
      vcardEmulOptions pcsc typeFromString args = some (.error .certEndNull) := by
  obtain ⟨result, ended⟩ := Option.isSome_iff_exists.mp
    (@optionsLoop_isSome pcsc typeFromString _ defaultOptions args (Nat.lt_succ_self _))
  rw [vcardEmulOptions, ended]
  rcases result with error | opts
  · cases error
    case certEndNull => exact .inr (.inr rfl)
    all_goals exact .inr (.inl ⟨_, _, rfl, rfl⟩)
  · exact .inl ⟨opts, rfl⟩

end VCardEmul
