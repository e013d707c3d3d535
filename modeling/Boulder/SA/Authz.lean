import Mathlib.Data.Nat.Bitwise
import Boulder.Base64
import Boulder.SA.Codes
import Boulder.Time

/-!
# Authorizations in storage (`sa/model.go`)

The storage authority keeps an authorization as one row, an `authzModel`: the identifier and
the status as `uint8` codes, the enabled challenge types as a bitmap, the token as the bytes it
decodes to.  This file models the two conversions around the row:

* `newAuthzReqToModel` — a new-authorization request into a row: the bitmap gets the bit
  `challTypeToUint[t]` of each requested type, and the token is `base64.RawURLEncoding`-decoded;
* `modelToAuthzPB` — a row into an `Authorization`: one challenge per set bit, in bit order,
  each with the re-encoded token; once a challenge has been attempted only that one is kept,
  filled in by `populateAttemptedFields` (a parameter: it unmarshals JSON).

Principal result: `modelToAuthzPB_newAuthzReqToModel` — for every request with a known
identifier type, known challenge types and a token that is an encoding, reading back the row
built from it gives the authorization the request describes, one pending challenge per distinct
requested type in bitmap order, each with the request's token.
-/

set_option autoImplicit false

namespace Boulder

/-! ## Messages and the row -/

/-- `sapb.NewAuthzRequest`. -/
structure NewAuthzRequest where
  Identifier : ACMEIdentifier
  RegistrationID : Int64
  Expires : Timestamp
  ChallengeTypes : List AcmeChallenge
  Token : GoString

/-- `corepb.Challenge`.  `Record` and `Problem` are the protobuf validation record and problem,
which only `populateAttemptedFields` fills in. -/
structure Challenge (Record Problem : Type) where
  type : AcmeChallenge
  Status : String
  Token : GoString
  Validated : Option Timestamp
  Validationrecords : List Record
  Error : Option Problem

/-- `corepb.Authorization`. -/
structure Authorization (Record Problem : Type) where
  Id : String
  Identifier : ACMEIdentifier
  RegistrationID : Int64
  Status : String
  Expires : Timestamp
  Challenges : List (Challenge Record Problem)
  CertificateProfileName : String

/-- `authzModel`: a row of the `authz2` table. -/
structure authzModel where
  ID : Int64
  IdentifierType : UInt8
  IdentifierValue : GoString
  RegistrationID : Int64
  CertificateProfileName : Option String
  Status : UInt8
  Expires : Time
  Challenges : UInt8
  Attempted : Option UInt8
  AttemptedAt : Option Time
  Token : List UInt8
  ValidationError : List UInt8
  ValidationRecord : List UInt8

/-! ## The conversions -/

/-- The loop of `newAuthzReqToModel` over the challenge types:
`am.Challenges |= 1 << challTypeToUint[challType]`.  Every shift count is below `8`, where
Lean's `<<<` (count taken mod 8) and Go's (`0` from 8 on) agree. -/
def challengesBitmap (types : List AcmeChallenge) : UInt8 :=
  types.foldl (fun m t => m ||| (1 <<< (challTypeToUint t).getD 0)) 0

/-- `newAuthzReqToModel`. -/
def newAuthzReqToModel (authz : NewAuthzRequest) (profile : String) :
    Except GoError authzModel :=
  let am : authzModel :=
    { ID := 0
      IdentifierType := (identifierTypeToUint authz.Identifier.type).getD 0
      IdentifierValue := authz.Identifier.value
      RegistrationID := authz.RegistrationID
      CertificateProfileName := if profile = "" then none else some profile
      Status := statusToUint .pending
      Expires := authz.Expires.AsTime
      Challenges := challengesBitmap authz.ChallengeTypes
      Attempted := none
      AttemptedAt := none
      Token := []
      ValidationError := []
      ValidationRecord := [] }
  match DecodeString authz.Token with
  | .error n => .error (.other (.text (CorruptInputError n)))
  | .ok token => .ok { am with Token := token }

section Read

variable {Record Problem : Type}

/-- `(bitmap>>pos)&1 == 1`: whether bit `pos` of a bitmap is set. -/
def bitSet (bitmap pos : UInt8) : Bool := (bitmap >>> pos) &&& 1 == 1

/-- One turn of the loop of `modelToAuthzPB` over the bitmap, at position `pos`, with the
challenges `acc` made so far. -/
def challengeAt
    (populateAttemptedFields : authzModel → Challenge Record Problem →
      Except GoError (Challenge Record Problem))
    (am : authzModel) (acc : List (Challenge Record Problem)) (pos : UInt8) :
    Except GoError (List (Challenge Record Problem)) :=
  if bitSet am.Challenges pos then
    let challType := (uintToChallType pos).getD ""
    let challenge : Challenge Record Problem :=
      { type := challType, Status := AcmeStatus.pending.str, Token := EncodeToString am.Token,
        Validated := none, Validationrecords := [], Error := none }
    match am.Attempted with
    | some attempted =>
      if (uintToChallType attempted).getD "" = challType then do
        let challenge ← populateAttemptedFields am challenge
        pure (acc ++ [{ challenge with Validated := am.AttemptedAt.map Timestamp.New }])
      else pure acc
    | none => pure (acc ++ [challenge])
  else pure acc

/-- `modelToAuthzPB`; the loop runs `pos` over `0, …, 7`. -/
def modelToAuthzPB
    (populateAttemptedFields : authzModel → Challenge Record Problem →
      Except GoError (Challenge Record Problem))
    (am : authzModel) : Except GoError (Authorization Record Problem) :=
  match uintToIdentifierType am.IdentifierType with
  | none => .error (.other (.sprintf "unrecognized identifier type encoding %d"
      [.text (toString am.IdentifierType.toNat)]))
  | some identType => do
    let challenges ← ((List.range 8).map UInt8.ofNat).foldlM
      (challengeAt populateAttemptedFields am) []
    pure
      { Id := toString am.ID.val
        Status := ((uintToStatus am.Status).map AcmeStatus.str).getD ""
        Identifier := ⟨identType, am.IdentifierValue⟩
        RegistrationID := am.RegistrationID
        Expires := Timestamp.New am.Expires
        Challenges := challenges
        CertificateProfileName := am.CertificateProfileName.getD "" }

end Read

/-! ## Bits of a `uint8` -/

namespace UInt8Bits

theorem toNat_lor (a b : UInt8) : (a ||| b).toNat = a.toNat ||| b.toNat := by
  show (a.toBitVec ||| b.toBitVec).toNat = _
  simp [UInt8.toNat]

theorem toNat_mod8 {k : UInt8} (hk : k.toNat < 8) : (k % 8).toNat = k.toNat := by
  rw [UInt8.toNat_mod]
  exact Nat.mod_eq_of_lt hk

theorem toNat_one_shiftLeft {k : UInt8} (hk : k.toNat < 8) :
    ((1 : UInt8) <<< k).toNat = 2 ^ k.toNat := by
  show ((1 : UInt8).toBitVec <<< (k % 8).toBitVec).toNat = _
  have h := toNat_mod8 hk
  have h2 : 2 ^ k.toNat < 2 ^ 8 := Nat.pow_lt_pow_right (by decide) hk
  simp only [UInt8.toNat] at h h2 ⊢
  rw [BitVec.shiftLeft_eq', BitVec.toNat_shiftLeft, h, show (UInt8.toBitVec 1).toNat = 1 from rfl,
    Nat.one_shiftLeft]
  exact Nat.mod_eq_of_lt h2

/-- Below `8`, the test of `modelToAuthzPB` reads bit `pos` of the bitmap. -/
theorem bitSet_eq_testBit (m : UInt8) {pos : UInt8} (hp : pos.toNat < 8) :
    bitSet m pos = m.toNat.testBit pos.toNat := by
  have h := toNat_mod8 hp
  have e : ((m >>> pos) &&& 1).toNat = (m.toNat >>> pos.toNat) % 2 := by
    show ((m.toBitVec >>> (pos % 8).toBitVec) &&& (1 : UInt8).toBitVec).toNat = _
    simp only [UInt8.toNat] at h ⊢
    rw [BitVec.toNat_and, BitVec.ushiftRight_eq', BitVec.toNat_ushiftRight, h]
    exact Nat.and_one_is_mod _
  have key : (m >>> pos) &&& 1 = 1 ↔ (m.toNat >>> pos.toNat) % 2 ≠ 0 := by
    have := Nat.mod_lt (m.toNat >>> pos.toNat) (by decide : 2 > 0)
    exact ⟨fun h1 => by rw [← e, h1]; decide, fun h1 => UInt8.toNat.inj (show _ = 1 by omega)⟩
  refine Bool.eq_iff_iff.2 ?_
  rw [bitSet, beq_iff_eq, key, Nat.testBit, Nat.land_comm, Nat.and_one_is_mod, bne_iff_ne]

end UInt8Bits

/-! ## The challenge bitmap -/

theorem challTypeToUint_getD_lt (t : AcmeChallenge) : ((challTypeToUint t).getD 0).toNat < 4 := by
  unfold challTypeToUint
  split_ifs <;> decide

theorem challTypeToUint_uintToChallType {c : UInt8} {t : AcmeChallenge}
    (h : uintToChallType c = some t) : challTypeToUint t = some c := by
  unfold uintToChallType at h
  split at h <;> cases h <;> rfl

/-- The four known challenge types have codes. -/
theorem challTypeToUint_isSome {t : AcmeChallenge}
    (h : t ∈ ["http-01", "dns-01", "tls-alpn-01", "dns-account-01"]) :
    (challTypeToUint t).isSome := by
  simp only [List.mem_cons, List.not_mem_nil, or_false] at h
  rcases h with rfl | rfl | rfl | rfl <;> rfl

/-- Bit `i` of the bitmap is set iff some requested type has code `i`. -/
theorem testBit_challengesBitmap (types : List AcmeChallenge) (i : Nat) :
    (challengesBitmap types).toNat.testBit i =
      types.any fun t => decide (((challTypeToUint t).getD 0).toNat = i) := by
  suffices ∀ m : UInt8,
      (types.foldl (fun m t => m ||| (1 <<< (challTypeToUint t).getD 0)) m).toNat.testBit i =
        (m.toNat.testBit i || types.any fun t => decide (((challTypeToUint t).getD 0).toNat = i)) by
    simpa [challengesBitmap] using this 0
  induction types with
  | nil => simp
  | cons t types ih =>
    intro m
    have hk := challTypeToUint_getD_lt t
    rw [List.foldl_cons, ih, UInt8Bits.toNat_lor, UInt8Bits.toNat_one_shiftLeft (by omega),
      Nat.testBit_or, Nat.testBit_two_pow, List.any_cons, Bool.or_assoc]

/-- Bit `pos` is set iff `pos` is the code of a type that was requested, or of `http-01` (code
`0`) when some requested type has no code. -/
theorem bitSet_challengesBitmap (types : List AcmeChallenge) {pos : UInt8} (hp : pos.toNat < 8) :
    bitSet (challengesBitmap types) pos = true ↔ ∃ c, uintToChallType pos = some c ∧
      (c ∈ types ∨ c = "http-01" ∧ ∃ t ∈ types, challTypeToUint t = none) := by
  rw [UInt8Bits.bitSet_eq_testBit _ hp, testBit_challengesBitmap, List.any_eq_true]
  constructor
  · rintro ⟨t, ht, he⟩
    rw [decide_eq_true_eq] at he
    cases hk : challTypeToUint t with
    | some k =>
      rw [hk, Option.getD_some] at he
      cases UInt8.toNat.inj he
      exact ⟨t, uintToChallType_challTypeToUint hk, .inl ht⟩
    | none =>
      rw [hk, Option.getD_none] at he
      cases UInt8.toNat.inj he
      exact ⟨"http-01", rfl, .inr ⟨rfl, t, ht, hk⟩⟩
  · rintro ⟨c, hc, hm | ⟨rfl, t, ht, hk⟩⟩
    · exact ⟨c, hm, by rw [challTypeToUint_uintToChallType hc]; simp⟩
    · cases (Option.some.inj (challTypeToUint_uintToChallType hc) : (0 : UInt8) = pos)
      exact ⟨t, ht, by rw [hk]; simp⟩

/-! ## Reading a row back -/

section Read

variable {Record Problem : Type}

/-- The pending challenge of type `t` with token `tok`. -/
def pendingChallenge (tok : GoString) (t : AcmeChallenge) : Challenge Record Problem :=
  { type := t, Status := "pending", Token := tok, Validated := none, Validationrecords := [],
    Error := none }

/-- A loop whose turns only append. -/
theorem foldlM_append {α β : Type} (g : α → Option β) :
    ∀ (l : List α) (acc : List β),
      l.foldlM (fun acc x => (pure (acc ++ (g x).toList) : Except GoError (List β))) acc =
        .ok (acc ++ l.filterMap g)
  | [], acc => by simp [List.foldlM]; rfl
  | x :: l, acc => by
    rw [List.foldlM_cons]
    show List.foldlM _ (acc ++ (g x).toList) l = _
    rw [foldlM_append g l]
    cases hg : g x <;> simp [List.filterMap_cons, hg]

/-- Before any attempt, each set bit gives the pending challenge of its type. -/
theorem challengeAt_unattempted
    (P : authzModel → Challenge Record Problem → Except GoError (Challenge Record Problem))
    {am : authzModel} (h : am.Attempted = none) :
    challengeAt P am = fun acc pos => pure (acc ++
      (if bitSet am.Challenges pos
        then some (pendingChallenge (EncodeToString am.Token) ((uintToChallType pos).getD ""))
        else none).toList) := by
  funext acc pos
  unfold challengeAt
  split
  · rw [h]; rfl
  · simp

/-- The known challenge types in bitmap order. -/
theorem filterMap_uintToChallType :
    ((List.range 8).map UInt8.ofNat).filterMap uintToChallType =
      ["http-01", "dns-01", "tls-alpn-01", "dns-account-01"] := rfl

/-- Before any attempt, the challenges of a row whose bitmap is that of `types` are the pending
challenges, in bitmap order, of the requested known types, and of `http-01` when some requested
type has no code. -/
theorem challenges_of_bitmap
    (P : authzModel → Challenge Record Problem → Except GoError (Challenge Record Problem))
    {am : authzModel} (ha : am.Attempted = none) {types : List AcmeChallenge}
    (hb : am.Challenges = challengesBitmap types) :
    ((List.range 8).map UInt8.ofNat).foldlM (challengeAt P am) [] =
      .ok ((["http-01", "dns-01", "tls-alpn-01", "dns-account-01"].filter fun c =>
          c ∈ types ∨ c = "http-01" ∧ ∃ t ∈ types, challTypeToUint t = none).map
        (pendingChallenge (EncodeToString am.Token))) := by
  rw [challengeAt_unattempted P ha, foldlM_append, List.nil_append, ← filterMap_uintToChallType,
    List.filter_filterMap, List.map_filterMap]
  congr 1
  refine List.filterMap_congr fun pos hpos => ?_
  have hp : pos.toNat < 8 := by
    obtain ⟨i, hi, rfl⟩ := List.mem_map.1 hpos
    rw [Base64.toNat_ofNat, Nat.mod_eq_of_lt (by simp at hi; omega)]
    simpa using hi
  have hbit := bitSet_challengesBitmap types hp
  rw [← hb] at hbit
  cases hc : uintToChallType pos with
  | none => simp [hc] at hbit; simp [hbit]
  | some c =>
    by_cases hm : c ∈ types ∨ c = "http-01" ∧ ∃ t ∈ types, challTypeToUint t = none <;>
      simp [hc, hm, Option.filter] at hbit <;> simp [hbit, hm, Option.filter]

/-- With only known types requested, the challenges are those of the requested types. -/
theorem challenges_of_bitmap_known
    (P : authzModel → Challenge Record Problem → Except GoError (Challenge Record Problem))
    {am : authzModel} (ha : am.Attempted = none) {types : List AcmeChallenge}
    (hb : am.Challenges = challengesBitmap types)
    (ht : ∀ t ∈ types, (challTypeToUint t).isSome) :
    ((List.range 8).map UInt8.ofNat).foldlM (challengeAt P am) [] =
      .ok ((["http-01", "dns-01", "tls-alpn-01", "dns-account-01"].filter (· ∈ types)).map
        (pendingChallenge (EncodeToString am.Token))) := by
  have hnone : ¬ ∃ t ∈ types, challTypeToUint t = none :=
    fun ⟨t, hm, h⟩ => by simpa [h] using ht t hm
  rw [challenges_of_bitmap P ha hb]
  simp only [hnone, and_false, or_false]

/-- **Reading back a new authorization.**  For every request whose identifier type is `dns`
or `ip`, whose challenge types are known and whose token is the encoding of some bytes, the row
`newAuthzReqToModel` builds, with any row id `n`, reads back as the authorization with id `n`,
status `pending`, the request's identifier, account and expiry (the same instant, and the same
timestamp when its nanoseconds are in range) and the profile `p`, with one pending challenge per
distinct requested type, in bitmap order, each carrying the request's token. -/
theorem modelToAuthzPB_newAuthzReqToModel
    (populateAttemptedFields : authzModel → Challenge Record Problem →
      Except GoError (Challenge Record Problem))
    (req : NewAuthzRequest) (p : String) (n : Int64)
    (hident : req.Identifier.type = TypeDNS ∨ req.Identifier.type = TypeIP)
    (htypes : ∀ t ∈ req.ChallengeTypes,
      t ∈ ["http-01", "dns-01", "tls-alpn-01", "dns-account-01"])
    (htoken : ∃ b, req.Token = EncodeToString b) :
    ∃ am, newAuthzReqToModel req p = .ok am ∧
      modelToAuthzPB populateAttemptedFields { am with ID := n } = .ok
        { Id := toString n.val
          Status := "pending"
          Identifier := req.Identifier
          RegistrationID := req.RegistrationID
          Expires := Timestamp.New req.Expires.AsTime
          Challenges := (["http-01", "dns-01", "tls-alpn-01", "dns-account-01"].filter
            (· ∈ req.ChallengeTypes)).map (pendingChallenge req.Token)
          CertificateProfileName := p } ∧
      (Timestamp.New req.Expires.AsTime).AsTime = req.Expires.AsTime ∧
      (0 ≤ req.Expires.Nanos.val → req.Expires.Nanos.val < 1000000000 →
        Timestamp.New req.Expires.AsTime = req.Expires) := by
  obtain ⟨b, hb⟩ := htoken
  have hdec : DecodeString req.Token = .ok b := hb ▸ Base64.decode_encode b 0
  have hid : uintToIdentifierType ((identifierTypeToUint req.Identifier.type).getD 0) =
      some req.Identifier.type := by
    obtain ⟨c, hc⟩ : ∃ c, identifierTypeToUint req.Identifier.type = some c := by
      rcases hident with h | h <;> simp [identifierTypeToUint, h, TypeDNS, TypeIP]
    rw [hc, Option.getD_some]
    exact uintToIdentifierType_identifierTypeToUint hc
  refine ⟨_, by simp only [newAuthzReqToModel, hdec]; rfl, ?_, Timestamp.AsTime_New _,
    Timestamp.New_AsTime _⟩
  simp only [modelToAuthzPB, hid]
  have hp : (if p = "" then none else some p).getD "" = p := by split <;> simp_all
  rw [challenges_of_bitmap_known populateAttemptedFields rfl rfl fun t h =>
    challTypeToUint_isSome (htypes t h)]
  simp only [hp, ← hb]
  rfl

/-- A `dns` request for `dns-01` (asked twice) and `http-01`, read back with row
id `42`. -/
theorem modelToAuthzPB_newAuthzReqToModel_dns :
    let req : NewAuthzRequest :=
      ⟨⟨TypeDNS, "example.com".toList⟩, 1, ⟨1700000000, 0⟩, ["dns-01", "http-01", "dns-01"],
        EncodeToString [1, 2, 3]⟩
    ∃ am, newAuthzReqToModel req "" = .ok am ∧
      modelToAuthzPB (fun _ c => .ok c) { am with ID := 42 } = .ok
        ({ Id := toString (42 : Int64).val
           Status := "pending"
           Identifier := req.Identifier
           RegistrationID := req.RegistrationID
           Expires := Timestamp.New req.Expires.AsTime
           Challenges := (["http-01", "dns-01", "tls-alpn-01", "dns-account-01"].filter
             (· ∈ req.ChallengeTypes)).map (pendingChallenge req.Token)
           CertificateProfileName := "" } : Authorization Unit Unit) ∧
      (Timestamp.New req.Expires.AsTime).AsTime = req.Expires.AsTime ∧
      (0 ≤ req.Expires.Nanos.val → req.Expires.Nanos.val < 1000000000 →
        Timestamp.New req.Expires.AsTime = req.Expires) := by
  intro req
  exact modelToAuthzPB_newAuthzReqToModel (fun _ c => .ok c) req "" 42 (.inl rfl) (by decide)
    ⟨[1, 2, 3], rfl⟩

/-- **A type without a code is stored as code `0`.**  For every request whose token decodes,
`newAuthzReqToModel` returns a row, and the row reads back, under any row id, with the identifier
type `ip` if the request's is `ip` and `dns` otherwise, and with the pending challenges of the
requested types that have a code, together with `http-01` when some requested type has none: the
lookups `identifierTypeToUint[t]` and `challTypeToUint[t]` of an absent key give `0`. -/
theorem newAuthzReqToModel_unknown_types
    (populateAttemptedFields : authzModel → Challenge Record Problem →
      Except GoError (Challenge Record Problem))
    (req : NewAuthzRequest) (p : String) (n : Int64) (b : List UInt8)
    (hdec : DecodeString req.Token = .ok b) :
    ∃ am, newAuthzReqToModel req p = .ok am ∧
      modelToAuthzPB populateAttemptedFields { am with ID := n } = .ok
        { Id := toString n.val
          Status := "pending"
          Identifier :=
            ⟨if req.Identifier.type = TypeIP then TypeIP else TypeDNS, req.Identifier.value⟩
          RegistrationID := req.RegistrationID
          Expires := Timestamp.New req.Expires.AsTime
          Challenges := (["http-01", "dns-01", "tls-alpn-01", "dns-account-01"].filter fun c =>
              c ∈ req.ChallengeTypes ∨
                c = "http-01" ∧ ∃ t ∈ req.ChallengeTypes, challTypeToUint t = none).map
            (pendingChallenge (EncodeToString b))
          CertificateProfileName := p } := by
  have hid : uintToIdentifierType ((identifierTypeToUint req.Identifier.type).getD 0) =
      some (if req.Identifier.type = TypeIP then TypeIP else TypeDNS) := by
    unfold identifierTypeToUint
    by_cases hd : req.Identifier.type = TypeDNS
    · simp [hd, TypeDNS_ne_TypeIP]; rfl
    · by_cases hi : req.Identifier.type = TypeIP <;> simp [hd, hi] <;> rfl
  refine ⟨_, by simp only [newAuthzReqToModel, hdec]; rfl, ?_⟩
  simp only [modelToAuthzPB, hid]
  have hp : (if p = "" then none else some p).getD "" = p := by split <;> simp_all
  rw [challenges_of_bitmap populateAttemptedFields rfl rfl]
  simp only [hp]
  rfl

/-- An `email` identifier and the challenge type `dns-persist-01`, which the
maps do not list, are stored as codes `0` and read back as `dns` and `http-01`. -/
theorem newAuthzReqToModel_unknown_types_email :
    DecodeString [] = .ok [] ∧
    ∃ am, newAuthzReqToModel
        ⟨⟨"email", "admin@example.com".toList⟩, 1, ⟨0, 0⟩, ["dns-persist-01"], []⟩ "" = .ok am ∧
      modelToAuthzPB (fun _ c => .ok c) { am with ID := 1 } = .ok
        ({ Id := "1"
           Status := "pending"
           Identifier := ⟨TypeDNS, "admin@example.com".toList⟩
           RegistrationID := 1
           Expires := Timestamp.New (Timestamp.AsTime ⟨0, 0⟩)
           Challenges := [pendingChallenge [] "http-01"]
           CertificateProfileName := "" } : Authorization Unit Unit) :=
  ⟨rfl, newAuthzReqToModel_unknown_types (fun _ c => .ok c)
    ⟨⟨"email", "admin@example.com".toList⟩, 1, ⟨0, 0⟩, ["dns-persist-01"], []⟩ "" 1 [] rfl⟩

end Read

end Boulder
