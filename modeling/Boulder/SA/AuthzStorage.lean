import Boulder.SA.Authz

/-!
# Writing an authorization row (`sa/model.go`)

`authzPBToModel` stores a `corepb.Authorization` as one `authzModel` row, the other direction of
`modelToAuthzPB`.  The row keeps a bitmap of the challenge types, one token, and the validation
data of at most one challenge, the attempted one:

* `hasMultipleNonPendingChallenges` — whether two challenges are `valid` or `invalid`;
* `authzPBToModel` — the row, built by a loop over the challenges (`authzChallengeStep`) that
  sets the bit of each type, decodes each token in turn, and for a `valid` or `invalid`
  challenge records its type, validation time, validation records (for `http-01` without their
  hostname and port) and error, the last two as JSON;
* `populateAttemptedFields` and `rehydrateHostPort` — the read of that data, the parameter of
  `modelToAuthzPB`: the status comes from whether an error is stored, and an `http-01` record
  gets its hostname and port back from its URL.

`encoding/json`, `net/url` and the conversions of the `grpc` package between protobuf and core
records and problems are outside the sources: they are the fields of `StorageLib`, and
`StorageLib.Lawful` states the round trips they guarantee.

Principal results: `modelToAuthzPB_authzPBToModel` — every `Storable` authorization is read back
from its row, with only the attempted challenge once there is one;
`authzPBToModel_modelToAuthzPB_newAuthzReqToModel` — the row of a new authorization is the row
`authzPBToModel` writes for the authorization it reads back as; and
`modelToAuthzPB_authzPBToModel_stable` — after one store and load, further cycles change
nothing.
-/

set_option autoImplicit false

namespace Boulder

/-! ## Records and the libraries -/

/-- `corepb.ValidationRecord`: the hostname, port and URL the conversions read, and the other
fields. -/
structure ValidationRecordPB (Rest : Type) where
  Hostname : GoString
  Port : GoString
  Url : GoString
  rest : Rest

/-- `core.ValidationRecord`. -/
structure ValidationRecord (Rest : Type) where
  Hostname : GoString
  Port : GoString
  URL : GoString
  rest : Rest

/-- The functions outside the sources that the conversions call. -/
structure StorageLib (RestPB Rest ProblemPB Problem URL : Type) where
  /-- `grpc.PBToValidationRecord` and `grpc.ValidationRecordToPB` on the fields other than the
  hostname, port and URL, which they copy: the resolved addresses, which can fail to parse. -/
  restFromPB : RestPB → Except GoError Rest
  restToPB : Rest → Except GoError RestPB
  /-- `grpc.PBToProblemDetails` and `grpc.ProblemDetailsToPB`. -/
  PBToProblemDetails : ProblemPB → Except GoError Problem
  ProblemDetailsToPB : Problem → Except GoError ProblemPB
  /-- `json.Marshal` and `json.Unmarshal` of a `[]core.ValidationRecord`. -/
  marshalRecords : List (ValidationRecord Rest) → Except GoError (List UInt8)
  unmarshalRecords : List UInt8 → Except GoError (List (ValidationRecord Rest))
  /-- `json.Marshal` and `json.Unmarshal` of a `probs.ProblemDetails`. -/
  marshalProblem : Problem → Except GoError (List UInt8)
  unmarshalProblem : List UInt8 → Except GoError Problem
  /-- `url.Parse`, and the `Hostname()`, `Port()` and `Scheme` of a URL. -/
  Parse : GoString → Except GoError URL
  Hostname : URL → GoString
  Port : URL → GoString
  Scheme : URL → GoString

variable {RestPB Rest ProblemPB Problem URL : Type}
  (C : StorageLib RestPB Rest ProblemPB Problem URL)

/-- The round trips the libraries guarantee: the `grpc` conversions invert each other, and
`json.Marshal` of records and problems succeeds with a non-empty text that `json.Unmarshal`
reads back. -/
structure StorageLib.Lawful : Prop where
  restToPB_restFromPB : ∀ {p r}, C.restFromPB p = .ok r → C.restToPB r = .ok p
  ProblemDetailsToPB_PBToProblemDetails :
    ∀ {p q}, C.PBToProblemDetails p = .ok q → C.ProblemDetailsToPB q = .ok p
  marshalRecords_ok : ∀ rs, ∃ b, C.marshalRecords rs = .ok b ∧ C.unmarshalRecords b = .ok rs
  marshalProblem_ok :
    ∀ q, ∃ b, C.marshalProblem q = .ok b ∧ b ≠ [] ∧ C.unmarshalProblem b = .ok q

/-- `grpc.PBToValidationRecord`. -/
def PBToValidationRecord (r : ValidationRecordPB RestPB) : Except GoError (ValidationRecord Rest) :=
  (fun rest => ⟨r.Hostname, r.Port, r.Url, rest⟩) <$> C.restFromPB r.rest

/-- `grpc.ValidationRecordToPB`. -/
def ValidationRecordToPB (r : ValidationRecord Rest) : Except GoError (ValidationRecordPB RestPB) :=
  (fun rest => ⟨r.Hostname, r.Port, r.URL, rest⟩) <$> C.restToPB r.rest

/-- `core.IsAnyNilOrZero` of one `*timestamppb.Timestamp`: nil, or the zero time. -/
def isNilOrZero : Option Timestamp → Bool
  | none => true
  | some ts => ts.AsTime.IsZero

/-- `badJSONError(msg, jsonData, err)`, as its `Error()` prints it. -/
def badJSONError (msg : String) (jsonData : List UInt8) (err : GoError) : GoError :=
  .other (.sprintf "%s: error unmarshaling JSON %q: %s"
    [.text msg, .str (jsonData.map fun b => Char.ofNat b.toNat), err.detail])

/-- `statusToUint[core.AcmeStatus(s)]` for a status string: the code of the status it names, and
Go's zero value `0` for a string that is not a key. -/
def statusToUintOf (s : String) : UInt8 :=
  (([AcmeStatus.pending, .valid, .invalid, .deactivated, .revoked].find? (·.str = s)).map
    statusToUint).getD 0

section Challenges

variable {Record Prob : Type}

/-- `c.Status == string(core.StatusValid) || c.Status == string(core.StatusInvalid)`. -/
def isNonPending (c : Challenge Record Prob) : Bool :=
  c.Status = AcmeStatus.valid.str || c.Status = AcmeStatus.invalid.str

/-- The loop of `hasMultipleNonPendingChallenges`, with its flag `nonPending`. -/
def hasMultipleNonPendingChallenges.loop (nonPending : Bool) :
    List (Challenge Record Prob) → Bool
  | [] => false
  | c :: cs =>
    if isNonPending c then (if !nonPending then loop true cs else true) else loop nonPending cs

/-- `hasMultipleNonPendingChallenges`. -/
def hasMultipleNonPendingChallenges (challenges : List (Challenge Record Prob)) : Bool :=
  hasMultipleNonPendingChallenges.loop false challenges

end Challenges

/-! ## Writing the row -/

/-- One turn of the challenge loop of `authzPBToModel`. -/
def authzChallengeStep (am : authzModel) (chall : Challenge (ValidationRecordPB RestPB) ProblemPB) :
    Except GoError authzModel := do
  let am := { am with Challenges := am.Challenges ||| (1 <<< (challTypeToUint chall.type).getD 0) }
  let tokenStr := chall.Token
  let am ← if isNonPending chall then do
      let records ← chall.Validationrecords.mapM fun recordPB =>
        PBToValidationRecord C
          (if chall.type = "http-01" then { recordPB with Hostname := [], Port := [] } else recordPB)
      let validationRecord ← C.marshalRecords records
      let validationError ← match chall.Error with
        | none => pure am.ValidationError
        | some e => do C.marshalProblem (← C.PBToProblemDetails e)
      pure { am with
        Attempted := some ((challTypeToUint chall.type).getD 0)
        AttemptedAt :=
          if isNilOrZero chall.Validated then none else chall.Validated.map Timestamp.AsTime
        ValidationRecord := validationRecord
        ValidationError := validationError }
    else pure am
  match DecodeString tokenStr with
  | .error n => .error (.other (.text (CorruptInputError n)))
  | .ok token => pure { am with Token := token }

/-- The row `authzPBToModel` starts from: `am := &authzModel{...}`, with the profile when it is
not empty. -/
def authzPBToModel.row (authz : Authorization (ValidationRecordPB RestPB) ProblemPB) :
    authzModel :=
  { ID := 0
    IdentifierType := (identifierTypeToUint authz.Identifier.type).getD 0
    IdentifierValue := authz.Identifier.value
    RegistrationID := authz.RegistrationID
    CertificateProfileName :=
      if authz.CertificateProfileName = "" then none else some authz.CertificateProfileName
    Status := statusToUintOf authz.Status
    Expires := authz.Expires.AsTime
    Challenges := 0
    Attempted := none
    AttemptedAt := none
    Token := []
    ValidationError := []
    ValidationRecord := [] }

/-- `authzPBToModel`. -/
def authzPBToModel (authz : Authorization (ValidationRecordPB RestPB) ProblemPB) :
    Except GoError authzModel := do
  let am := authzPBToModel.row authz
  let am ← if authz.Id = "" then pure am else
    match Atoi authz.Id.toList with
    | none => .error (.other (.sprintf "strconv.Atoi: parsing %q" [.text authz.Id]))
    | some id => pure { am with ID := SInt.wrap id }
  if hasMultipleNonPendingChallenges authz.Challenges then
    .error (.other (.text "multiple challenges are non-pending"))
  else authz.Challenges.foldlM (authzChallengeStep C) am

/-! ## Reading the attempted challenge -/

/-- `rehydrateHostPort`: a record without hostname or port gets them from its URL, the port
from the scheme when the URL has none, and only `80` or `443`. -/
def rehydrateHostPort (vr : ValidationRecord Rest) : Except GoError (ValidationRecord Rest) :=
  if vr.URL = [] then
    .error (.other (.text "rehydrating validation record, URL field cannot be empty"))
  else match C.Parse vr.URL with
  | .error err =>
    .error (.other (.sprintf "parsing validation record URL %q: %w" [.str vr.URL, err.detail]))
  | .ok parsedUrl => do
    let vr ← if vr.Hostname = [] then
        if C.Hostname parsedUrl = [] then
          .error (.other (.sprintf "hostname missing in URL %q" [.str vr.URL]))
        else pure { vr with Hostname := C.Hostname parsedUrl }
      else pure vr
    if vr.Port = [] then
      if C.Port parsedUrl = [] then
        if C.Scheme parsedUrl = "https".toList then pure { vr with Port := "443".toList }
        else if C.Scheme parsedUrl = "http".toList then pure { vr with Port := "80".toList }
        else .error (.other (.sprintf "unknown scheme %q in URL %q"
          [.str (C.Scheme parsedUrl), .str vr.URL]))
      else if C.Port parsedUrl = "80".toList ∨ C.Port parsedUrl = "443".toList then
        pure { vr with Port := C.Port parsedUrl }
      else .error (.other (.sprintf "only ports 80/tcp and 443/tcp are allowed in URL %q"
        [.str vr.URL]))
    else pure vr

/-- `populateAttemptedFields`. -/
def populateAttemptedFields (am : authzModel)
    (challenge : Challenge (ValidationRecordPB RestPB) ProblemPB) :
    Except GoError (Challenge (ValidationRecordPB RestPB) ProblemPB) := do
  let challenge ← if am.ValidationError ≠ [] then do
      let prob ← (C.unmarshalProblem am.ValidationError).mapError
        (badJSONError "failed to unmarshal authz2 model's validation error" am.ValidationError)
      let e ← C.ProblemDetailsToPB prob
      pure { challenge with Status := AcmeStatus.invalid.str, Error := some e }
    else pure { challenge with Status := AcmeStatus.valid.str }
  let records ← (C.unmarshalRecords am.ValidationRecord).mapError
    (badJSONError "failed to unmarshal authz2 model's validation record" am.ValidationRecord)
  let validationrecords ← records.mapM fun r => do
    let r ← if challenge.type = "http-01" then rehydrateHostPort C r else pure r
    ValidationRecordToPB C r
  pure { challenge with Validationrecords := validationrecords }

/-! ## The write loop -/

section Challenges

variable {Record Prob : Type}

theorem hasMultipleNonPendingChallenges.loop_iff :
    ∀ (b : Bool) (cs : List (Challenge Record Prob)),
      loop b cs = true ↔ 2 ≤ b.toNat + (cs.filter isNonPending).length
  | b, [] => by cases b <;> simp [loop]
  | b, c :: cs => by
    by_cases hc : isNonPending c <;> cases b <;>
      simp [loop, hc, List.filter_cons, loop_iff _ cs] <;> omega

/-- `hasMultipleNonPendingChallenges` is whether two challenges are `valid` or `invalid`. -/
theorem hasMultipleNonPendingChallenges_iff (cs : List (Challenge Record Prob)) :
    hasMultipleNonPendingChallenges cs = true ↔ 2 ≤ (cs.filter isNonPending).length := by
  simp [hasMultipleNonPendingChallenges, hasMultipleNonPendingChallenges.loop_iff]

end Challenges

/-- A turn at a pending challenge sets the bit of its type and stores the bytes of its token. -/
theorem authzChallengeStep_pending {am : authzModel}
    {chall : Challenge (ValidationRecordPB RestPB) ProblemPB} {tok : List UInt8}
    (h : isNonPending chall = false) (ht : DecodeString chall.Token = .ok tok) :
    authzChallengeStep C am chall = .ok { am with
      Challenges := am.Challenges ||| (1 <<< (challTypeToUint chall.type).getD 0)
      Token := tok } := by
  simp only [authzChallengeStep, h, Bool.false_eq_true, if_false, ht]
  rfl

/-- A turn at an attempted challenge also records its type and validation time, its validation
records as JSON the records' `json.Unmarshal` reads back, and its error, if any, as a non-empty
JSON that reads back to it. -/
theorem authzChallengeStep_attempted (hC : C.Lawful) (am : authzModel)
    {chall : Challenge (ValidationRecordPB RestPB) ProblemPB} {tok : List UInt8}
    {recs : List (ValidationRecord Rest)} (h : isNonPending chall = true)
    (hrecs : chall.Validationrecords.mapM (fun recordPB => PBToValidationRecord C
      (if chall.type = "http-01" then { recordPB with Hostname := [], Port := [] }
        else recordPB)) = .ok recs)
    (herr : ∀ e, chall.Error = some e → ∃ q, C.PBToProblemDetails e = .ok q)
    (ht : DecodeString chall.Token = .ok tok) :
    ∃ vr ve, authzChallengeStep C am chall = .ok { am with
        Challenges := am.Challenges ||| (1 <<< (challTypeToUint chall.type).getD 0)
        Attempted := some ((challTypeToUint chall.type).getD 0)
        AttemptedAt :=
          if isNilOrZero chall.Validated then none else chall.Validated.map Timestamp.AsTime
        ValidationRecord := vr
        ValidationError := ve
        Token := tok } ∧
      C.unmarshalRecords vr = .ok recs ∧ (chall.Error = none → ve = am.ValidationError) ∧
      ∀ e, chall.Error = some e →
        ve ≠ [] ∧ ∃ q, C.unmarshalProblem ve = .ok q ∧ C.ProblemDetailsToPB q = .ok e := by
  obtain ⟨vr, hvr, hun⟩ := hC.marshalRecords_ok recs
  cases he : chall.Error with
  | none =>
    refine ⟨vr, am.ValidationError, ?_, hun, fun _ => rfl, fun _ h => nomatch h⟩
    simp only [authzChallengeStep, h, if_true, hrecs, he, ht, bind, Except.bind, hvr]
    rfl
  | some e =>
    obtain ⟨q, hq⟩ := herr e he
    obtain ⟨b, hb, hne, hub⟩ := hC.marshalProblem_ok q
    refine ⟨vr, b, ?_, hun, (fun h => nomatch h), fun e' he' => ?_⟩
    · simp only [authzChallengeStep, h, if_true, hrecs, he, ht, bind, Except.bind, hvr, hq, hb]
      rfl
    · cases he'
      exact ⟨hne, q, hub, hC.ProblemDetailsToPB_PBToProblemDetails hq⟩

/-- The bitmap after the loop has set the bits of `types`, from `m`. -/
def orBits (m : UInt8) (types : List AcmeChallenge) : UInt8 :=
  types.foldl (fun m t => m ||| (1 <<< (challTypeToUint t).getD 0)) m

/-- Over pending challenges whose tokens encode `tok`, the loop sets their bits and stores
`tok`. -/
theorem foldlM_authzChallengeStep_pending {tok : List UInt8} :
    ∀ {cs : List (Challenge (ValidationRecordPB RestPB) ProblemPB)},
      (∀ c ∈ cs, isNonPending c = false ∧ c.Token = EncodeToString tok) → ∀ am,
      cs.foldlM (authzChallengeStep C) am = .ok { am with
        Challenges := orBits am.Challenges (cs.map (·.type))
        Token := if cs.isEmpty then am.Token else tok }
  | [], _, am => rfl
  | c :: cs, h, am => by
    obtain ⟨hc, ht⟩ := h c (List.mem_cons_self _ _)
    rw [List.foldlM_cons,
      authzChallengeStep_pending C hc (by rw [ht]; exact Base64.decode_encode tok 0)]
    show cs.foldlM _ _ = _
    rw [foldlM_authzChallengeStep_pending (fun x hx => h x (List.mem_cons_of_mem _ hx)), ite_self]
    rfl

theorem orBits_append (m : UInt8) (l₁ l₂ : List AcmeChallenge) :
    orBits m (l₁ ++ l₂) = orBits (orBits m l₁) l₂ :=
  List.foldl_append _ _ _ _

/-- Around one attempted challenge, among pending ones whose tokens all encode `tok`, the loop
sets every bit, stores `tok`, and records the attempted challenge's data. -/
theorem foldlM_authzChallengeStep_attempted (hC : C.Lawful) {tok : List UInt8}
    {pre post : List (Challenge (ValidationRecordPB RestPB) ProblemPB)}
    {c : Challenge (ValidationRecordPB RestPB) ProblemPB} {recs : List (ValidationRecord Rest)}
    (hp : ∀ x ∈ pre ++ post, isNonPending x = false ∧ x.Token = EncodeToString tok)
    (hc : isNonPending c = true) (hct : c.Token = EncodeToString tok)
    (hrecs : c.Validationrecords.mapM (fun recordPB => PBToValidationRecord C
      (if c.type = "http-01" then { recordPB with Hostname := [], Port := [] }
        else recordPB)) = .ok recs)
    (herr : ∀ e, c.Error = some e → ∃ q, C.PBToProblemDetails e = .ok q) (am : authzModel) :
    ∃ vr ve, (pre ++ c :: post).foldlM (authzChallengeStep C) am = .ok { am with
        Challenges := orBits am.Challenges ((pre ++ c :: post).map (·.type))
        Attempted := some ((challTypeToUint c.type).getD 0)
        AttemptedAt := if isNilOrZero c.Validated then none else c.Validated.map Timestamp.AsTime
        ValidationRecord := vr
        ValidationError := ve
        Token := tok } ∧
      C.unmarshalRecords vr = .ok recs ∧ (c.Error = none → ve = am.ValidationError) ∧
      ∀ e, c.Error = some e →
        ve ≠ [] ∧ ∃ q, C.unmarshalProblem ve = .ok q ∧ C.ProblemDetailsToPB q = .ok e := by
  have hpre := fun x hx => hp x (List.mem_append_left post hx)
  have hpost := fun x hx => hp x (List.mem_append_right pre hx)
  obtain ⟨vr, ve, hstep, hun, hnone, hsome⟩ := authzChallengeStep_attempted C hC
    { am with Challenges := orBits am.Challenges (pre.map (·.type))
              Token := if pre.isEmpty then am.Token else tok }
    hc hrecs herr (by rw [hct]; exact Base64.decode_encode tok 0)
  refine ⟨vr, ve, ?_, hun, hnone, hsome⟩
  rw [List.foldlM_append, foldlM_authzChallengeStep_pending C hpre]
  show List.foldlM (authzChallengeStep C) _ (c :: post) = _
  rw [List.foldlM_cons, hstep]
  show List.foldlM (authzChallengeStep C) _ post = _
  rw [foldlM_authzChallengeStep_pending C hpost, ite_self, List.map_append, List.map_cons,
    orBits_append]
  rfl

/-! ## Reading the row back -/

section Read

variable {Record Prob : Type}

/-- A row read by `modelToAuthzPB`, once its identifier type and challenges are known. -/
theorem modelToAuthzPB_eq
    {P : authzModel → Challenge Record Prob → Except GoError (Challenge Record Prob)}
    {am : authzModel} {t : IdentifierType} (ht : uintToIdentifierType am.IdentifierType = some t)
    {chs : List (Challenge Record Prob)}
    (hl : ((List.range 8).map UInt8.ofNat).foldlM (challengeAt P am) [] = .ok chs) :
    modelToAuthzPB P am = .ok
      { Id := toString am.ID.val
        Status := ((uintToStatus am.Status).map AcmeStatus.str).getD ""
        Identifier := ⟨t, am.IdentifierValue⟩
        RegistrationID := am.RegistrationID
        Expires := Timestamp.New am.Expires
        Challenges := chs
        CertificateProfileName := am.CertificateProfileName.getD "" } := by
  simp only [modelToAuthzPB, ht, hl]
  rfl

/-- After an attempt, the challenges of a row are the attempted one alone, filled in by `P`. -/
theorem foldlM_challengeAt_attempted
    (P : authzModel → Challenge Record Prob → Except GoError (Challenge Record Prob))
    {am : authzModel} {types : List AcmeChallenge} (hb : am.Challenges = challengesBitmap types)
    (hknown : ∀ t ∈ types, (challTypeToUint t).isSome) {t₀ : AcmeChallenge} {k : UInt8}
    (hk : challTypeToUint t₀ = some k) (hmem : t₀ ∈ types) (ha : am.Attempted = some k) :
    ((List.range 8).map UInt8.ofNat).foldlM (challengeAt P am) [] =
      (fun ch => [{ ch with Validated := am.AttemptedAt.map Timestamp.New }]) <$>
        P am (pendingChallenge (EncodeToString am.Token) t₀) := by
  have hk₀ : uintToChallType k = some t₀ := uintToChallType_challTypeToUint hk
  have hbit : ∀ {x : UInt8}, x ∈ (List.range 8).map UInt8.ofNat →
      (bitSet am.Challenges x = true ↔ ∃ c, uintToChallType x = some c ∧ c ∈ types) := by
    intro x hx
    have hp : x.toNat < 8 := by
      obtain ⟨i, hi, rfl⟩ := List.mem_map.1 hx
      rw [Base64.toNat_ofNat, Nat.mod_eq_of_lt (by simp at hi; omega)]
      simpa using hi
    rw [hb, bitSet_challengesBitmap types hp]
    refine exists_congr fun c => and_congr_right fun _ => or_iff_left ?_
    rintro ⟨-, t, ht, hn⟩
    simpa [hn] using hknown t ht
  have hcount : ((List.range 8).map UInt8.ofNat).count k = 1 := by
    unfold challTypeToUint at hk
    split_ifs at hk <;> cases hk <;> rfl
  have hkmem : k ∈ (List.range 8).map UInt8.ofNat := List.count_pos_iff.1 (by omega)
  rw [foldlM_eq_of_count_one hcount]
  · unfold challengeAt
    rw [if_pos ((hbit hkmem).2 ⟨t₀, hk₀, hmem⟩), ha]
    simp only [hk₀, if_true]
    rfl
  · intro x hx hxk acc
    unfold challengeAt
    split_ifs with hx'
    · obtain ⟨c, hc, -⟩ := (hbit hx).1 hx'
      rw [ha]
      dsimp only
      rw [hk₀, hc, if_neg]
      rintro (rfl : t₀ = c)
      exact hxk (Option.some.inj ((challTypeToUint_uintToChallType hc).symm.trans hk))
    · rfl

end Read

/-! ## Which authorizations the row keeps -/

/-- The URL of an `http-01` record gives back the hostname `h` and port `p` the row drops: it is
not empty and parses to a URL with hostname `h`, not empty, and either port `p`, which is `80`
or `443`, or no port and the scheme, `https` or `http`, whose default port is `p`. -/
def URLGivesHostPort (url h p : GoString) : Prop :=
  url ≠ [] ∧ ∃ u, C.Parse url = .ok u ∧ C.Hostname u = h ∧ h ≠ [] ∧
    (C.Port u = p ∧ (p = "80".toList ∨ p = "443".toList) ∨
      C.Port u = [] ∧ (C.Scheme u = "https".toList ∧ p = "443".toList ∨
        C.Scheme u = "http".toList ∧ p = "80".toList))

/-- What storing an attempted challenge needs for its data to read back: a validation time with
nanoseconds in `[0, 1e9)`, an error and records the `grpc` conversions accept, and, for
`http-01`, records whose URL gives back their hostname and port. -/
structure AttemptedStorable (c : Challenge (ValidationRecordPB RestPB) ProblemPB) : Prop where
  validated : ∀ ts, c.Validated = some ts → 0 ≤ ts.Nanos.val ∧ ts.Nanos.val < 1000000000
  error : ∀ e, c.Error = some e → ∃ q, C.PBToProblemDetails e = .ok q
  records : ∀ r ∈ c.Validationrecords, ∃ t, C.restFromPB r.rest = .ok t ∧
    (c.type = "http-01" → URLGivesHostPort C r.Url r.Hostname r.Port)

/-- The authorizations the row keeps: an id that is the decimal of a 64-bit integer, a `dns` or
`ip` identifier, a status with a code, an expiry with nanoseconds in range, and challenges of
distinct known types in bitmap order, all with one token, of which at most one is attempted
(`valid` or `invalid`) and storable, the others plain pending challenges. -/
structure Storable (a : Authorization (ValidationRecordPB RestPB) ProblemPB) : Prop where
  id : ∃ n : Int64, a.Id = toString n.val
  identifier : a.Identifier.type = TypeDNS ∨ a.Identifier.type = TypeIP
  status : ∃ s, s ≠ AcmeStatus.processing ∧ s ≠ .ready ∧ a.Status = s.str
  expires : 0 ≤ a.Expires.Nanos.val ∧ a.Expires.Nanos.val < 1000000000
  types : (a.Challenges.map (·.type)).Sublist ["http-01", "dns-01", "tls-alpn-01", "dns-account-01"]
  token : ∃ tok, ∀ c ∈ a.Challenges, c.Token = EncodeToString tok
  pending : ∀ c ∈ a.Challenges, isNonPending c = false → c = pendingChallenge c.Token c.type
  attempted : (a.Challenges.filter isNonPending).length ≤ 1
  attemptedStorable : ∀ c ∈ a.Challenges, isNonPending c = true → AttemptedStorable C c

section Read

variable {Record Prob : Type}

/-- The attempted challenge as the row gives it back: `invalid` when it has an error and `valid`
otherwise, and without a zero validation time. -/
def readChallenge (c : Challenge Record Prob) : Challenge Record Prob :=
  { c with
    Status := if c.Error.isSome then AcmeStatus.invalid.str else AcmeStatus.valid.str
    Validated := if isNilOrZero c.Validated then none else c.Validated }

/-- The challenges as the row gives them back: before any attempt all of them; after one, the
attempted challenge alone, as `readChallenge` gives it. -/
def readChallenges (cs : List (Challenge Record Prob)) : List (Challenge Record Prob) :=
  if cs.any isNonPending then (cs.filter isNonPending).map readChallenge else cs

end Read

/-! ## The read half -/

/-- A stripped record whose URL gives back `h` and `p` is rehydrated to them. -/
theorem rehydrateHostPort_stripped {url h p : GoString} {rest : Rest}
    (hu : URLGivesHostPort C url h p) :
    rehydrateHostPort C ⟨[], [], url, rest⟩ = .ok ⟨h, p, url, rest⟩ := by
  obtain ⟨hne, u, hP, rfl, hh, hport⟩ := hu
  simp only [rehydrateHostPort, hne, if_false, hP, if_true, hh, bind, Except.bind, pure,
    Except.pure]
  rcases hport with ⟨rfl, hp⟩ | ⟨hpo, ⟨hs, rfl⟩ | ⟨hs, rfl⟩⟩
  · by_cases hpo : C.Port u = [] <;> simp_all
  · simp [hpo, hs]
  · simp [hpo, hs]

/-- The records of a storable attempted challenge read back: the write converts them, and the
read converts the result back to them. -/
theorem records_roundtrip (hC : C.Lawful) {c : Challenge (ValidationRecordPB RestPB) ProblemPB}
    (hs : AttemptedStorable C c) :
    ∃ recs, c.Validationrecords.mapM (fun recordPB => PBToValidationRecord C
        (if c.type = "http-01" then { recordPB with Hostname := [], Port := [] }
          else recordPB)) = .ok recs ∧
      recs.mapM (fun r => do
        let r ← if c.type = "http-01" then rehydrateHostPort C r else pure r
        ValidationRecordToPB C r) = .ok c.Validationrecords := by
  refine mapM_roundtrip fun r hr => ?_
  obtain ⟨t, ht, hurl⟩ := hs.records r hr
  have hback : ValidationRecordToPB C ⟨r.Hostname, r.Port, r.Url, t⟩ = .ok r := by
    simp only [ValidationRecordToPB, hC.restToPB_restFromPB ht]
    rfl
  by_cases hh : c.type = "http-01"
  · refine ⟨⟨[], [], r.Url, t⟩, ?_, ?_⟩
    · simp only [hh, if_true, PBToValidationRecord, ht]
      rfl
    · simp only [hh, if_true, rehydrateHostPort_stripped C (hurl hh)]
      exact hback
  · refine ⟨⟨r.Hostname, r.Port, r.Url, t⟩, ?_, ?_⟩
    · simp only [hh, if_false, PBToValidationRecord, ht]
      rfl
    · simp only [hh, if_false]
      exact hback

/-- `populateAttemptedFields` on a challenge without error, from a row whose records read back to
`pbs` and whose stored error is empty exactly when `err` is none, and reads back to `err`
otherwise: the status `invalid` with `err`, or `valid`. -/
theorem populateAttemptedFields_eq {am : authzModel}
    (ch : Challenge (ValidationRecordPB RestPB) ProblemPB) {recs : List (ValidationRecord Rest)}
    {pbs : List (ValidationRecordPB RestPB)} {err : Option ProblemPB} (hch : ch.Error = none)
    (hrec : C.unmarshalRecords am.ValidationRecord = .ok recs)
    (hread : recs.mapM (fun r => do
      let r ← if ch.type = "http-01" then rehydrateHostPort C r else pure r
      ValidationRecordToPB C r) = .ok pbs)
    (hnone : err = none → am.ValidationError = [])
    (hsome : ∀ e, err = some e → am.ValidationError ≠ [] ∧
      ∃ q, C.unmarshalProblem am.ValidationError = .ok q ∧ C.ProblemDetailsToPB q = .ok e) :
    populateAttemptedFields C am ch = .ok { ch with
      Status := if err.isSome then AcmeStatus.invalid.str else AcmeStatus.valid.str
      Validationrecords := pbs
      Error := err } := by
  obtain ⟨type, st, tok, v, rs, e⟩ := ch
  cases hch
  cases err with
  | none =>
    simp only [populateAttemptedFields, hnone rfl, ne_eq, not_true_eq_false, if_false, hrec,
      Except.mapError, bind, Except.bind, pure, Except.pure]
    simp only [bind, Except.bind, pure, Except.pure] at hread
    simp only [hread]
    rfl
  | some e =>
    obtain ⟨hne, q, hq, he⟩ := hsome e rfl
    simp only [populateAttemptedFields, hne, ne_eq, not_false_eq_true, if_true, hq, he, hrec,
      Except.mapError, bind, Except.bind, pure, Except.pure]
    simp only [bind, Except.bind, pure, Except.pure] at hread
    simp only [hread]
    rfl

/-- A stored validation time reads back as the challenge's, once a zero time is dropped. -/
theorem validated_roundtrip {v : Option Timestamp}
    (h : ∀ ts, v = some ts → 0 ≤ ts.Nanos.val ∧ ts.Nanos.val < 1000000000) :
    (if isNilOrZero v then none else v.map Timestamp.AsTime).map Timestamp.New =
      if isNilOrZero v then none else v := by
  cases v with
  | none => rfl
  | some ts =>
    split
    · rfl
    · obtain ⟨h0, h1⟩ := h ts rfl
      rw [Option.map_some', Option.map_some', Timestamp.New_AsTime ts h0 h1]

theorem uintToIdentifierType_identifierTypeToUint_getD {t : IdentifierType}
    (h : t = TypeDNS ∨ t = TypeIP) :
    uintToIdentifierType ((identifierTypeToUint t).getD 0) = some t := by
  rcases h with rfl | rfl <;> decide

theorem uintToStatus_statusToUintOf {s : AcmeStatus} (h1 : s ≠ .processing) (h2 : s ≠ .ready) :
    uintToStatus (statusToUintOf s.str) = some s := by
  revert h1 h2
  cases s <;> decide

/-- The fields other than the challenges read back from every row the loop can leave. -/
theorem modelToAuthzPB_row
    {P : authzModel → Challenge (ValidationRecordPB RestPB) ProblemPB →
      Except GoError (Challenge (ValidationRecordPB RestPB) ProblemPB)}
    {a : Authorization (ValidationRecordPB RestPB) ProblemPB} (ha : Storable C a) {n : Int64}
    (hn : a.Id = toString n.val) (b : UInt8) (x : Option UInt8) (y : Option Time)
    (tok ve vr : List UInt8) {chs : List (Challenge (ValidationRecordPB RestPB) ProblemPB)}
    (hl : ((List.range 8).map UInt8.ofNat).foldlM (challengeAt P { authzPBToModel.row a with
      ID := n, Challenges := b, Attempted := x, AttemptedAt := y, Token := tok,
      ValidationError := ve, ValidationRecord := vr }) [] = .ok chs) :
    modelToAuthzPB P { authzPBToModel.row a with
      ID := n, Challenges := b, Attempted := x, AttemptedAt := y, Token := tok,
      ValidationError := ve, ValidationRecord := vr } = .ok { a with Challenges := chs } := by
  obtain ⟨s, hs1, hs2, hs⟩ := ha.status
  have hst : ((uintToStatus (statusToUintOf a.Status)).map AcmeStatus.str).getD "" = a.Status := by
    rw [hs, uintToStatus_statusToUintOf hs1 hs2]
    rfl
  have hprof : (if a.CertificateProfileName = "" then none
      else some a.CertificateProfileName).getD "" = a.CertificateProfileName := by
    split <;> simp_all
  rw [modelToAuthzPB_eq (uintToIdentifierType_identifierTypeToUint_getD ha.identifier) hl]
  simp only [authzPBToModel.row, hst, hprof, ← hn,
    Timestamp.New_AsTime a.Expires ha.expires.1 ha.expires.2]

/-- `filter (· ∈ l)` over a list without duplicates gives back its sublist `l`. -/
theorem filter_mem_eq_of_sublist {α : Type} [DecidableEq α] {l L : List α} (hL : L.Nodup)
    (h : l.Sublist L) : L.filter (· ∈ l) = l := by
  have h₁ : l.Sublist (L.filter (· ∈ l)) := by
    have := h.filter (fun x => decide (x ∈ l))
    rwa [List.filter_eq_self.2 fun a ha => decide_eq_true ha] at this
  refine (h₁.eq_of_length_le ?_).symm
  refine (List.subperm_of_subset (hL.filter _) fun x hx => ?_).length_le
  simpa using (List.mem_filter.1 hx).2

/-- A list with at most one member satisfying `p`, and at least one, is that member between two
lists with none. -/
theorem exists_split_of_filter_length_le_one {α : Type} {p : α → Bool} {l : List α}
    (h1 : (l.filter p).length ≤ 1) (h : l.any p) :
    ∃ pre c post, l = pre ++ c :: post ∧ p c ∧ ∀ x ∈ pre ++ post, p x = false := by
  obtain ⟨c, hc, hpc⟩ := List.any_eq_true.1 h
  obtain ⟨pre, post, rfl⟩ := List.append_of_mem hc
  refine ⟨pre, c, post, rfl, hpc, fun x hx => ?_⟩
  rw [List.filter_append, List.filter_cons_of_pos hpc, List.length_append, List.length_cons] at h1
  have hpre : pre.filter p = [] := List.length_eq_zero.1 (by omega)
  have hpost : post.filter p = [] := List.length_eq_zero.1 (by omega)
  rcases List.mem_append.1 hx with hx | hx
  · exact Bool.eq_false_iff.2 (List.filter_eq_nil_iff.1 hpre x hx)
  · exact Bool.eq_false_iff.2 (List.filter_eq_nil_iff.1 hpost x hx)

/-- With an id that is the decimal of some `n` and at most one attempted challenge, the row is
the loop over the challenges, from the starting row with id `n`. -/
theorem authzPBToModel_eq_foldlM {a : Authorization (ValidationRecordPB RestPB) ProblemPB}
    {n : Int64} (hn : a.Id = toString n.val) (hm : (a.Challenges.filter isNonPending).length ≤ 1) :
    authzPBToModel C a =
      a.Challenges.foldlM (authzChallengeStep C) { authzPBToModel.row a with ID := n } := by
  have hid : a.Id.toList = FormatInt n.val := by rw [hn]; rfl
  have hne : a.Id ≠ "" := fun h => FormatInt_ne_nil n.val (by rw [← hid, h]; rfl)
  have hatoi : Atoi a.Id.toList = some n.val := by
    have h1 := n.ge
    have h2 := n.lt
    rw [hid]
    exact Atoi_FormatInt n.val ⟨by omega, by omega⟩
  have hmul : hasMultipleNonPendingChallenges a.Challenges = false :=
    Bool.eq_false_iff.2 fun h => absurd ((hasMultipleNonPendingChallenges.loop_iff false _).1 h)
      (by rw [Bool.toNat_false]; omega)
  simp only [authzPBToModel, hne, if_false, hatoi, hmul, SInt.wrap_self]
  rfl

section Read

variable {Record Prob : Type}

/-- After one attempt, the challenges read back are the attempted one alone. -/
theorem readChallenges_split {pre post : List (Challenge Record Prob)} {c : Challenge Record Prob}
    (hp : ∀ x ∈ pre ++ post, isNonPending x = false) (hc : isNonPending c = true) :
    readChallenges (pre ++ c :: post) = [readChallenge c] := by
  have hnil : ∀ l : List (Challenge Record Prob), (∀ x ∈ l, x ∈ pre ++ post) →
      l.filter isNonPending = [] := fun l hl =>
    List.filter_eq_nil_iff.2 fun x hx => by simp [hp x (hl x hx)]
  rw [readChallenges, if_pos (List.any_eq_true.2 ⟨c, by simp, hc⟩), List.filter_append,
    List.filter_cons_of_pos hc, hnil pre fun x hx => List.mem_append_left _ hx,
    hnil post fun x hx => List.mem_append_right _ hx]
  rfl

/-- Pending challenges with the token `tok`, of distinct known types in bitmap order, are the
pending challenges with that token of the known types among theirs. -/
theorem map_pendingChallenge_filter {cs : List (Challenge Record Prob)} {tok : GoString}
    (htypes : (cs.map (·.type)).Sublist ["http-01", "dns-01", "tls-alpn-01", "dns-account-01"])
    (hp : ∀ c ∈ cs, c = pendingChallenge tok c.type) :
    (["http-01", "dns-01", "tls-alpn-01", "dns-account-01"].filter (· ∈ cs.map (·.type))).map
      (pendingChallenge tok) = cs := by
  rw [filter_mem_eq_of_sublist (by decide) htypes, List.map_map]
  exact (List.map_congr_left fun c hc => (hp c hc).symm).trans (List.map_id _)

theorem isNonPending_readChallenge (c : Challenge Record Prob) :
    isNonPending (readChallenge c) = true := by
  cases h : c.Error.isSome <;> simp [isNonPending, readChallenge, h, AcmeStatus.str]

theorem readChallenge_readChallenge (c : Challenge Record Prob) :
    readChallenge (readChallenge c) = readChallenge c := by
  cases h : isNilOrZero c.Validated <;> simp [readChallenge, h]

end Read

/-- A row written around one attempted challenge `c` reads back as `c` alone, `invalid` when it
has an error and `valid` otherwise, without a zero validation time. -/
theorem foldlM_challengeAt_written {am : authzModel} {types : List AcmeChallenge}
    (hb : am.Challenges = challengesBitmap types)
    (hknown : ∀ t ∈ types, (challTypeToUint t).isSome)
    {c : Challenge (ValidationRecordPB RestPB) ProblemPB} (hmem : c.type ∈ types)
    (ha : am.Attempted = some ((challTypeToUint c.type).getD 0))
    (hat : am.AttemptedAt =
      if isNilOrZero c.Validated then none else c.Validated.map Timestamp.AsTime)
    (hvalid : ∀ ts, c.Validated = some ts → 0 ≤ ts.Nanos.val ∧ ts.Nanos.val < 1000000000)
    (htok : c.Token = EncodeToString am.Token) {recs : List (ValidationRecord Rest)}
    (hun : C.unmarshalRecords am.ValidationRecord = .ok recs)
    (hread : recs.mapM (fun r => do
      let r ← if c.type = "http-01" then rehydrateHostPort C r else pure r
      ValidationRecordToPB C r) = .ok c.Validationrecords)
    (hnone : c.Error = none → am.ValidationError = [])
    (hsome : ∀ e, c.Error = some e → am.ValidationError ≠ [] ∧
      ∃ q, C.unmarshalProblem am.ValidationError = .ok q ∧ C.ProblemDetailsToPB q = .ok e) :
    ((List.range 8).map UInt8.ofNat).foldlM (challengeAt (populateAttemptedFields C) am) [] =
      .ok [readChallenge c] := by
  obtain ⟨k, hk⟩ := Option.isSome_iff_exists.1 (hknown c.type hmem)
  rw [foldlM_challengeAt_attempted _ hb hknown hk hmem (by rw [ha, hk]; rfl),
    populateAttemptedFields_eq C (pendingChallenge (EncodeToString am.Token) c.type) rfl hun hread
      (fun h => hnone h) hsome, hat, validated_roundtrip hvalid, ← htok]
  rfl

/-! ## The round trip -/

/-- A storable authorization is read back from its row, with its challenges as
`readChallenges` gives them. -/
theorem authzPBToModel_readBack (hC : C.Lawful)
    (a : Authorization (ValidationRecordPB RestPB) ProblemPB) (ha : Storable C a) :
    ∃ am, authzPBToModel C a = .ok am ∧
      modelToAuthzPB (populateAttemptedFields C) am =
        .ok { a with Challenges := readChallenges a.Challenges } := by
  obtain ⟨n, hn⟩ := ha.id
  obtain ⟨tok, htok⟩ := ha.token
  rw [authzPBToModel_eq_foldlM C hn ha.attempted]
  have hknown : ∀ t ∈ a.Challenges.map (·.type), (challTypeToUint t).isSome :=
    fun t ht => challTypeToUint_isSome (ha.types.subset ht)
  cases hany : a.Challenges.any isNonPending with
  | false =>
    have hp : ∀ c ∈ a.Challenges, isNonPending c = false ∧ c.Token = EncodeToString tok :=
      fun c hc => ⟨by simpa using List.any_eq_false.1 hany c hc, htok c hc⟩
    refine ⟨_, foldlM_authzChallengeStep_pending C hp _,
      modelToAuthzPB_row C ha hn _ _ _ _ _ _ ((challenges_of_bitmap_known _ rfl rfl hknown).trans ?_)⟩
    simp only [readChallenges, hany, Bool.false_eq_true, if_false]
    refine congrArg Except.ok (map_pendingChallenge_filter ha.types fun c hc => ?_)
    have hne : a.Challenges.isEmpty = false :=
      Bool.eq_false_iff.2 fun h => List.ne_nil_of_mem hc (List.isEmpty_iff.1 h)
    simp only [hne, Bool.false_eq_true, if_false, ← htok c hc]
    exact ha.pending c hc (hp c hc).1
  | true =>
    obtain ⟨pre, c, post, hsplit, hc, hp⟩ := exists_split_of_filter_length_le_one ha.attempted hany
    have hcmem : c ∈ pre ++ c :: post := List.mem_append_right pre (List.mem_cons_self c post)
    have hs := ha.attemptedStorable c (hsplit ▸ hcmem) hc
    obtain ⟨recs, hw, hr⟩ := records_roundtrip C hC hs
    rw [hsplit] at htok hknown ⊢
    obtain ⟨vr, ve, hfold, hun, hnone, hsome⟩ := foldlM_authzChallengeStep_attempted C hC
      (fun x hx => ⟨hp x hx,
        htok x (List.mem_append.2 ((List.mem_append.1 hx).imp id (List.mem_cons_of_mem c)))⟩)
      hc (htok c hcmem) hw hs.error { authzPBToModel.row a with ID := n }
    refine ⟨_, hfold, modelToAuthzPB_row C ha hn _ _ _ _ _ _ ?_⟩
    rw [readChallenges_split hp hc]
    exact foldlM_challengeAt_written C rfl hknown (List.mem_map_of_mem _ hcmem) rfl rfl
      hs.validated (htok c hcmem) hun hr hnone hsome

/-- **Reading back a stored authorization.**  Every storable authorization is written by
`authzPBToModel` as a row that `modelToAuthzPB`, with `populateAttemptedFields`, reads back as
the same authorization, with its challenges as `readChallenges` gives them: all of them before
an attempt, the attempted one alone after. -/
theorem modelToAuthzPB_authzPBToModel (hC : C.Lawful)
    (a : Authorization (ValidationRecordPB RestPB) ProblemPB) (ha : Storable C a) :
    ∃ am, authzPBToModel C a = .ok am ∧
      modelToAuthzPB (populateAttemptedFields C) am =
        .ok { a with Challenges := readChallenges a.Challenges } :=
  authzPBToModel_readBack C hC a ha

/-- Libraries that keep no resolved addresses and know one problem, for fixed cases. -/
def unitLib : StorageLib Empty Empty Unit Unit Unit :=
  ⟨Empty.elim, Empty.elim, fun _ => .ok (), fun _ => .ok (), fun _ => .ok [], fun _ => .ok [],
    fun _ => .ok [1], fun _ => .ok (), fun _ => .ok (), fun _ => [], fun _ => [], fun _ => []⟩

theorem unitLib_lawful : unitLib.Lawful :=
  ⟨fun {p} => p.elim, fun _ => rfl,
    fun rs => ⟨[], rfl, by cases rs with | nil => rfl | cons r _ => exact r.rest.elim⟩,
    fun _ => ⟨[1], rfl, List.cons_ne_nil _ _, rfl⟩⟩

/-- An `ip` authorization whose `dns-01` challenge failed and whose `http-01`
challenge is pending. -/
theorem modelToAuthzPB_authzPBToModel_invalid :
    let a : Authorization (ValidationRecordPB Empty) Unit :=
      ⟨"42", ⟨TypeIP, "10.0.0.1".toList⟩, 1, "pending", ⟨1700000000, 0⟩,
        [pendingChallenge (EncodeToString [1, 2, 3]) "http-01",
          ⟨"dns-01", "invalid", EncodeToString [1, 2, 3], some ⟨1700000000, 5⟩, [], some ()⟩], ""⟩
    ∃ am, authzPBToModel unitLib a = .ok am ∧
      modelToAuthzPB (populateAttemptedFields unitLib) am =
        .ok { a with Challenges := readChallenges a.Challenges } := by
  intro a
  have hmem : ∀ c ∈ a.Challenges, c = pendingChallenge (EncodeToString [1, 2, 3]) "http-01" ∨
      c = ⟨"dns-01", "invalid", EncodeToString [1, 2, 3], some ⟨1700000000, 5⟩, [], some ()⟩ := by
    simp [a]
  refine modelToAuthzPB_authzPBToModel unitLib unitLib_lawful a
    ⟨⟨42, rfl⟩, .inr rfl, ⟨.pending, by decide, by decide, rfl⟩, by decide, by decide,
      ⟨[1, 2, 3], fun c hc => by rcases hmem c hc with rfl | rfl <;> rfl⟩,
      fun c hc h => by rcases hmem c hc with rfl | rfl; exacts [rfl, absurd h (by decide)],
      by decide,
      fun c hc h => ?_⟩
  rcases hmem c hc with rfl | rfl
  · exact absurd h (by decide)
  · exact ⟨fun ts hts => by cases hts; decide, fun _ _ => ⟨(), rfl⟩, fun r hr => nomatch hr⟩

/-! ## Stability of the format -/

/-- The authorization a storable one reads back as is storable again, and its challenges read
back unchanged. -/
theorem Storable.readBack {a : Authorization (ValidationRecordPB RestPB) ProblemPB}
    (ha : Storable C a) :
    Storable C { a with Challenges := readChallenges a.Challenges } ∧
      readChallenges (readChallenges a.Challenges) = readChallenges a.Challenges := by
  cases hany : a.Challenges.any isNonPending with
  | false =>
    have hr : readChallenges a.Challenges = a.Challenges := by
      simp only [readChallenges, hany, Bool.false_eq_true, if_false]
    rw [hr]
    exact ⟨ha, hr⟩
  | true =>
    obtain ⟨pre, c, post, hsplit, hc, hp⟩ := exists_split_of_filter_length_le_one ha.attempted hany
    have hcmem : c ∈ a.Challenges := hsplit ▸ List.mem_append_right pre (List.mem_cons_self c post)
    have hs := ha.attemptedStorable c hcmem hc
    obtain ⟨tok, htok⟩ := ha.token
    have hread : readChallenges [readChallenge c] = [readChallenge (readChallenge c)] :=
      @readChallenges_split _ _ [] [] _ (fun _ h => nomatch h) (isNonPending_readChallenge c)
    have htype : c.type ∈ ["http-01", "dns-01", "tls-alpn-01", "dns-account-01"] :=
      ha.types.subset (List.mem_map_of_mem _ hcmem)
    rw [hsplit, readChallenges_split hp hc, hread, readChallenge_readChallenge]
    refine ⟨⟨ha.id, ha.identifier, ha.status, ha.expires, List.singleton_sublist.2 htype,
      ⟨tok, fun x hx => by rw [List.mem_singleton.1 hx]; exact htok c hcmem⟩,
      fun x hx h => absurd h (by rw [List.mem_singleton.1 hx, isNonPending_readChallenge]; decide),
      List.length_filter_le _ _, fun x hx _ => ?_⟩, rfl⟩
    rw [List.mem_singleton.1 hx]
    refine ⟨fun ts h => hs.validated ts ?_, hs.error, hs.records⟩
    simp only [readChallenge] at h
    split at h
    · cases h
    · exact h

/-- **One store and load cycle is enough.**  For every storable authorization, the
authorization its row reads back as is stored again as a row that reads back as itself: the
first cycle drops what the format does not keep, and later cycles lose nothing more. -/
theorem modelToAuthzPB_authzPBToModel_stable (hC : C.Lawful)
    (a : Authorization (ValidationRecordPB RestPB) ProblemPB) (ha : Storable C a) :
    ∃ am a' am', authzPBToModel C a = .ok am ∧
      modelToAuthzPB (populateAttemptedFields C) am = .ok a' ∧
      authzPBToModel C a' = .ok am' ∧ modelToAuthzPB (populateAttemptedFields C) am' = .ok a' := by
  obtain ⟨ha', hidem⟩ := ha.readBack C
  obtain ⟨am, h1, h2⟩ := authzPBToModel_readBack C hC a ha
  obtain ⟨am', h3, h4⟩ := authzPBToModel_readBack C hC _ ha'
  exact ⟨am, _, am', h1, h2, h3, h4.trans (by simp only [hidem])⟩

/-- A `dns` authorization with two pending challenges. -/
theorem modelToAuthzPB_authzPBToModel_stable_pending :
    let a : Authorization (ValidationRecordPB Empty) Unit :=
      ⟨"7", ⟨TypeDNS, "example.com".toList⟩, 1, "pending", ⟨1700000000, 0⟩,
        [pendingChallenge (EncodeToString [1, 2, 3]) "http-01",
          pendingChallenge (EncodeToString [1, 2, 3]) "dns-01"], ""⟩
    ∃ am a' am', authzPBToModel unitLib a = .ok am ∧
      modelToAuthzPB (populateAttemptedFields unitLib) am = .ok a' ∧
      authzPBToModel unitLib a' = .ok am' ∧
      modelToAuthzPB (populateAttemptedFields unitLib) am' = .ok a' := by
  intro a
  have hmem : ∀ c ∈ a.Challenges, c = pendingChallenge (EncodeToString [1, 2, 3]) "http-01" ∨
      c = pendingChallenge (EncodeToString [1, 2, 3]) "dns-01" := by
    simp [a]
  exact modelToAuthzPB_authzPBToModel_stable unitLib unitLib_lawful a
    ⟨⟨7, rfl⟩, .inl rfl, ⟨.pending, by decide, by decide, rfl⟩, by decide, by decide,
      ⟨[1, 2, 3], fun c hc => by rcases hmem c hc with rfl | rfl <;> rfl⟩,
      fun c hc _ => by rcases hmem c hc with rfl | rfl <;> rfl, by decide,
      fun c hc h => absurd h (by rcases hmem c hc with rfl | rfl <;> decide)⟩

/-! ## The row of a new authorization -/

/-- The bitmap of known types depends only on which types are listed. -/
theorem challengesBitmap_filter {types : List AcmeChallenge}
    (h : ∀ t ∈ types, t ∈ ["http-01", "dns-01", "tls-alpn-01", "dns-account-01"]) :
    challengesBitmap (["http-01", "dns-01", "tls-alpn-01", "dns-account-01"].filter (· ∈ types)) =
      challengesBitmap types := by
  refine UInt8.toNat.inj (Nat.eq_of_testBit_eq fun i => ?_)
  rw [testBit_challengesBitmap, testBit_challengesBitmap, Bool.eq_iff_iff, List.any_eq_true,
    List.any_eq_true]
  exact exists_congr fun t => and_congr_left fun _ => by
    rw [List.mem_filter, decide_eq_true_iff]
    exact ⟨And.right, fun ht => ⟨h t ht, ht⟩⟩

/-- **The two writers of a new authorization agree.**  For every request with a `dns` or `ip`
identifier, known challenge types and a token that encodes some bytes, and every row id `n`,
the authorization that the row of `newAuthzReqToModel` reads back as is stored by
`authzPBToModel`, the writer of the tests, as that same row; except that with no challenge type
the token is lost, as no challenge carries it. -/
theorem authzPBToModel_modelToAuthzPB_newAuthzReqToModel
    (P : authzModel → Challenge (ValidationRecordPB RestPB) ProblemPB →
      Except GoError (Challenge (ValidationRecordPB RestPB) ProblemPB))
    (req : NewAuthzRequest) (p : String) (n : Int64)
    (hident : req.Identifier.type = TypeDNS ∨ req.Identifier.type = TypeIP)
    (htypes : ∀ t ∈ req.ChallengeTypes,
      t ∈ ["http-01", "dns-01", "tls-alpn-01", "dns-account-01"])
    (htoken : ∃ b, req.Token = EncodeToString b) :
    ∃ am a, newAuthzReqToModel req p = .ok am ∧ modelToAuthzPB P { am with ID := n } = .ok a ∧
      authzPBToModel C a =
        .ok { am with ID := n, Token := if req.ChallengeTypes = [] then [] else am.Token } := by
  obtain ⟨b, hb⟩ := htoken
  have hdec : DecodeString req.Token = .ok b := by rw [hb]; exact Base64.decode_encode b 0
  refine ⟨_, _, by simp only [newAuthzReqToModel, hdec]; rfl, modelToAuthzPB_eq
    (uintToIdentifierType_identifierTypeToUint_getD hident)
    (challenges_of_bitmap_known P rfl rfl fun t h => challTypeToUint_isSome (htypes t h)), ?_⟩
  dsimp only
  have hcs : ∀ c ∈ ((["http-01", "dns-01", "tls-alpn-01", "dns-account-01"].filter
      (· ∈ req.ChallengeTypes)).map (pendingChallenge (EncodeToString b)) :
        List (Challenge (ValidationRecordPB RestPB) ProblemPB)),
      isNonPending c = false ∧ c.Token = EncodeToString b := by
    simp only [List.mem_map]
    rintro _ ⟨t, -, rfl⟩
    exact ⟨rfl, rfl⟩
  rw [authzPBToModel_eq_foldlM C rfl (by
      rw [List.filter_eq_nil_iff.2 fun c hc => by simp [(hcs c hc).1]]
      exact Nat.zero_le 1),
    foldlM_authzChallengeStep_pending C hcs]
  congr 1
  congr 1
  all_goals dsimp only [authzPBToModel.row]
  · by_cases hp : p = "" <;> simp [hp]
  · exact Timestamp.AsTime_New _
  · rw [List.map_map]
    exact (congrArg (orBits 0) (List.map_id' _)).trans (challengesBitmap_filter htypes)
  · by_cases h : req.ChallengeTypes = []
    · simp [h]
    rw [if_neg h, if_neg]
    obtain ⟨t, ts, ht⟩ := List.exists_cons_of_ne_nil h
    have hmem : t ∈ req.ChallengeTypes := ht ▸ List.mem_cons_self t ts
    rw [List.isEmpty_iff, List.map_eq_nil_iff, List.filter_eq_nil_iff]
    exact fun he => he t (htypes t hmem) (decide_eq_true hmem)

/-- A `dns` request for `dns-01` and `http-01`, stored again with row id `42`. -/
theorem authzPBToModel_modelToAuthzPB_newAuthzReqToModel_dns :
    let req : NewAuthzRequest :=
      ⟨⟨TypeDNS, "example.com".toList⟩, 1, ⟨1700000000, 0⟩, ["dns-01", "http-01"],
        EncodeToString [1, 2, 3]⟩
    ∃ am a, newAuthzReqToModel req "" = .ok am ∧
      modelToAuthzPB (fun _ c => .ok c) { am with ID := 42 } = .ok a ∧
      authzPBToModel unitLib a =
        .ok { am with ID := 42, Token := if req.ChallengeTypes = [] then [] else am.Token } := by
  intro req
  exact authzPBToModel_modelToAuthzPB_newAuthzReqToModel unitLib (fun _ c => .ok c) req "" 42
    (.inl rfl) (by decide) ⟨[1, 2, 3], rfl⟩

end Boulder
