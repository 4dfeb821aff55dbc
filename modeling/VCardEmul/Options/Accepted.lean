import VCardEmul.Options.Parse

/-!
# What the option parser accepts

The options `vcard_emul_options` returns are well formed: each soft reader has a
card type and at least one certificate, and its tokens hold no terminator, `,`
or `)` and start with no white space; the hardware card type is a card type, the
`hw_params=` value is one word, and the database path holds no quote or newline.
The default options are well formed and each pass of the loop keeps them so.
-/

namespace VCardEmul

/-- A token of a `soft=` specification: no terminator, `,` or `)` in it, and no
white space in front. -/
structure SoftToken (token : Bytes) : Prop where
  leading : isspace (peek token) = false
  clean : ∀ c ∈ token, c ≠ 0 ∧ c ∉ ascii ",)"

instance (token : Bytes) : Decidable (SoftToken token) :=
  decidable_of_iff (isspace (peek token) = false ∧ ∀ c ∈ token, c ≠ 0 ∧ c ∉ ascii ",)")
    ⟨fun ⟨leading, clean⟩ => ⟨leading, clean⟩, fun ⟨leading, clean⟩ => ⟨leading, clean⟩⟩

/-- A soft reader as `vcard_emul_options` builds them. -/
structure VirtualReaderOptions.WellFormed (reader : VirtualReaderOptions) : Prop where
  typed : reader.cardType ≠ .vcardEmulNone
  certified : reader.certName ≠ []
  name : SoftToken reader.name
  vname : SoftToken reader.vname
  typeParams : SoftToken reader.typeParams
  certs : ∀ cert ∈ reader.certName, SoftToken cert

/-- Options as `vcard_emul_options` returns them. -/
structure VCardEmulOptions.WellFormed (opts : VCardEmulOptions) : Prop where
  readers : ∀ reader ∈ opts.vreader, reader.WellFormed
  hwTyped : opts.hwCardType ≠ .vcardEmulNone
  hwParams : ∀ params, opts.hwTypeParams = some params → ∀ c ∈ params, c ≠ 0 ∧ isspace c = false
  db : ∀ db, opts.nssDb = some db → ∀ c ∈ db, c ≠ 0 ∧ c ∉ [0x22, '\n'.toUInt8]

theorem defaultOptions_wellFormed : defaultOptions.WellFormed where
  readers _ member := by cases member
  hwTyped := by decide
  hwParams _ unset := by cases unset
  db _ unset := by cases unset

/-- A token that `NEXT_TOKEN` takes after white space was skipped is a soft token,
and white space is skipped after it. -/
theorem nextToken_softToken {args token rest : Bytes} (stripped : isspace (peek args) = false)
    (next : nextToken args = .ok (token, rest)) : SoftToken token ∧ isspace (peek rest) = false := by
  obtain ⟨offset, -, rfl, rfl, clean⟩ := nextToken_eq_ok next
  exact ⟨⟨isspace_peek_take stripped offset, clean⟩, isspace_peek_strip _⟩

/-- A `soft=` specification that parses gives a well-formed reader. -/
theorem softSpecification_wellFormed {typeFromString : Bytes → VCardEmulType} {args rest : Bytes}
    {reader : VirtualReaderOptions} (spec : softSpecification typeFromString args = .ok (reader, rest)) :
    reader.WellFormed := by
  obtain ⟨afterName, afterVname, typeToken, afterType, afterParams, afterCerts, -, nameToken, vnameToken,
    typeTokenOk, -, typed, paramsToken, -, certs, -⟩ := softSpecification_eq_ok spec
  obtain ⟨name, afterNameStripped⟩ := nextToken_softToken (isspace_peek_strip _) nameToken
  obtain ⟨vname, afterVnameStripped⟩ := nextToken_softToken afterNameStripped vnameToken
  obtain ⟨-, afterTypeStripped⟩ := nextToken_softToken afterVnameStripped typeTokenOk
  obtain ⟨typeParams, afterParamsStripped⟩ := nextToken_softToken afterTypeStripped paramsToken
  obtain ⟨-, counted, clean⟩ := certNames_eq_ok certs
  refine ⟨typed, fun empty => by simp [empty] at counted, name, vname, typeParams, fun cert member => ?_⟩
  exact ⟨certNames_stripped afterParamsStripped certs cert member, clean cert member⟩

/-- Each pass of the loop keeps the options well formed. -/
theorem optionsPass_wellFormed {pcsc : Bool} {typeFromString : Bytes → VCardEmulType}
    {opts opts' : VCardEmulOptions} {args rest : Bytes} (wellFormed : opts.WellFormed)
    (pass : optionsPass pcsc typeFromString opts args = .ok (opts', rest)) : opts'.WellFormed := by
  rcases (optionsPass_eq_ok pass).2 with rfl | ⟨reader, spec, rfl⟩ | ⟨useHw, rfl⟩ | ⟨type, typed, rfl⟩ |
    ⟨params, clean, rfl⟩ | ⟨db, clean, rfl⟩ | ⟨type, typed, rfl⟩
  · exact wellFormed
  · refine ⟨fun member inReaders => ?_, wellFormed.hwTyped, wellFormed.hwParams, wellFormed.db⟩
    rcases List.mem_append.mp inReaders with old | new
    · exact wellFormed.readers member old
    · obtain rfl : member = reader := List.mem_singleton.mp new
      exact softSpecification_wellFormed spec
  · exact ⟨wellFormed.readers, wellFormed.hwTyped, wellFormed.hwParams, wellFormed.db⟩
  · exact ⟨wellFormed.readers, typed, wellFormed.hwParams, wellFormed.db⟩
  · exact ⟨wellFormed.readers, wellFormed.hwTyped, fun _ set => Option.some.inj set ▸ clean, wellFormed.db⟩
  · exact ⟨wellFormed.readers, wellFormed.hwTyped, wellFormed.hwParams, fun _ set => Option.some.inj set ▸ clean⟩
  · exact ⟨wellFormed.readers, typed, wellFormed.hwParams, wellFormed.db⟩

/-- The loop returns well-formed options from well-formed options. -/
theorem optionsLoop_wellFormed {pcsc : Bool} {typeFromString : Bytes → VCardEmulType} {fuel : Nat}
    {opts result : VCardEmulOptions} {args : Bytes} (wellFormed : opts.WellFormed)
    (accepted : optionsLoop pcsc typeFromString fuel opts args = some (.ok result)) : result.WellFormed := by
  induction fuel generalizing opts args with
  | zero => cases accepted
  | succ fuel inductionHypothesis =>
    simp only [optionsLoop] at accepted
    split at accepted
    · cases accepted
    · next opts' rest pass =>
      have passed := optionsPass_wellFormed wellFormed pass
      split at accepted
      · cases accepted
        exact passed
      · exact inductionHypothesis passed accepted

/-- Every option set `vcard_emul_options` returns is well formed. -/
theorem vcardEmulOptions_wellFormed {pcsc : Bool} {typeFromString : Bytes → VCardEmulType} {args : Bytes}
    {opts : VCardEmulOptions} (accepted : vcardEmulOptions pcsc typeFromString args = some (.ok opts)) :
    opts.WellFormed :=
  optionsLoop_wellFormed defaultOptions_wellFormed accepted

/-- A card-type lookup that knows only `CAC`. -/
def cacTypeOnly (typeStr : Bytes) : VCardEmulType :=
  if typeStr = ascii "CAC" then .vcardEmulCac else .vcardEmulNone

/-- A soft reader with two certificates, removable hardware slots and hardware
parameters. -/
def sampleOptionString : Bytes :=
  ascii "soft=(slot, reader,CAC,params,cert1, cert2) use_hw=removable hw_params=x"

theorem sampleOptionString_wellFormed :
    vcardEmulOptions false cacTypeOnly sampleOptionString =
        some (.ok ⟨none, [⟨ascii "slot", ascii "reader", .vcardEmulCac, ascii "params",
          [ascii "cert1", ascii "cert2"]⟩], .vcardEmulCac, some (ascii "x"), .useHwRemovable⟩) ∧
      VCardEmulOptions.WellFormed ⟨none, [⟨ascii "slot", ascii "reader", .vcardEmulCac, ascii "params",
          [ascii "cert1", ascii "cert2"]⟩], .vcardEmulCac, some (ascii "x"), .useHwRemovable⟩ :=
  have accepted : vcardEmulOptions false cacTypeOnly sampleOptionString =
      some (.ok ⟨none, [⟨ascii "slot", ascii "reader", .vcardEmulCac, ascii "params",
        [ascii "cert1", ascii "cert2"]⟩], .vcardEmulCac, some (ascii "x"), .useHwRemovable⟩) := by
    rfl
  ⟨accepted, vcardEmulOptions_wellFormed accepted⟩

end VCardEmul
