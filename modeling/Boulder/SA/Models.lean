import Boulder.Policy.Challenges
import Boulder.Time

/-!
# Identifier and override rows (`sa/model.go`)

* `identifierModel` — the `identifierType` code and `identifierValue` of a row;
  `newIdentifierModelFromPB` and `newPBFromIdentifierModel` convert one identifier through
  `identifierTypeToUint` and `uintToIdentifierType`, and `newIdentifierModelsFromPB` and
  `newPBFromIdentifierModels` convert a list in a loop that stops at the first error;
* `overrideModel` — a row of the rate-limit overrides: `overrideModelForPB` stores a
  `sapb.RateLimitOverride` with its period as `AsDuration` nanoseconds, and
  `newPBFromOverrideModel` reads a row back with its period as `durationpb.New`.

A `corepb.Identifier` has the fields of an `ACMEIdentifier` and is modelled by one; the
`sapb.Identifiers` message is its one field, a list.

Principal results: `newIdentifierModelsFromPB_iff` — a list of
identifiers is stored as a list of rows iff those rows read back as the identifiers;
`newIdentifierModelsFromPB_of_WillingToIssue` — every list the PA accepts is stored and reads
back; `overrideModelForPB_newPBFromOverrideModel` — every row survives being read and stored
again, whatever its period; `newPBFromOverrideModel_overrideModelForPB_iff` — an override
survives being stored and read back iff its period is set and `Normal`.
-/

set_option autoImplicit false

namespace Boulder

/-! ## Identifier rows -/

/-- `identifierModel`. -/
structure identifierModel where
  type : UInt8
  value : GoString
  deriving DecidableEq

/-- `newIdentifierModelFromPB`. -/
def newIdentifierModelFromPB (pb : ACMEIdentifier) : Except GoError identifierModel :=
  match identifierTypeToUint pb.type with
  | none => .error (.other (.sprintf "unsupported identifier type %q" [.text pb.type]))
  | some idType => .ok ⟨idType, pb.value⟩

/-- `newPBFromIdentifierModel`. -/
def newPBFromIdentifierModel (id : identifierModel) : Except GoError ACMEIdentifier :=
  match uintToIdentifierType id.type with
  | none => .error (.other (.sprintf "unsupported identifier type %d"
      [.text (toString id.type.toNat)]))
  | some idType => .ok ⟨idType, id.value⟩

/-- `newIdentifierModelsFromPB`: the loop appends each row and returns the first error. -/
def newIdentifierModelsFromPB (pbs : List ACMEIdentifier) :
    Except GoError (List identifierModel) :=
  pbs.foldlM (fun ids pb => (ids ++ [·]) <$> newIdentifierModelFromPB pb) []

/-- `newPBFromIdentifierModels`. -/
def newPBFromIdentifierModels (ids : List identifierModel) :
    Except GoError (List ACMEIdentifier) :=
  ids.foldlM (fun pbs id => (pbs ++ [·]) <$> newPBFromIdentifierModel id) []

/-- The row of an identifier whose type has a code. -/
def identifierRow (pb : ACMEIdentifier) : identifierModel :=
  ⟨(identifierTypeToUint pb.type).getD 0, pb.value⟩

theorem newIdentifierModelFromPB_eq_ok_iff (pb : ACMEIdentifier) (id : identifierModel) :
    newIdentifierModelFromPB pb = .ok id ↔ newPBFromIdentifierModel id = .ok pb := by
  unfold newIdentifierModelFromPB newPBFromIdentifierModel
  constructor
  · intro h
    cases hc : identifierTypeToUint pb.type with
    | none => simp [hc] at h
    | some c =>
      simp only [hc, Except.ok.injEq] at h
      subst h
      simp [uintToIdentifierType_identifierTypeToUint hc]
  · intro h
    cases hc : uintToIdentifierType id.type with
    | none => simp [hc] at h
    | some t =>
      simp only [hc, Except.ok.injEq] at h
      subst h
      simp [identifierTypeToUint_uintToIdentifierType hc]

/-- The conversion of a list, as `mapM`: the rows, or the error of the first identifier whose
type has no code. -/
theorem mapM_newIdentifierModelFromPB : ∀ pbs : List ACMEIdentifier,
    pbs.mapM newIdentifierModelFromPB =
      match pbs.find? fun pb => (identifierTypeToUint pb.type).isNone with
      | some pb => .error (.other (.sprintf "unsupported identifier type %q" [.text pb.type]))
      | none => .ok (pbs.map identifierRow)
  | [] => rfl
  | pb :: pbs => by
    rw [List.mapM_cons, List.find?_cons, mapM_newIdentifierModelFromPB pbs]
    unfold newIdentifierModelFromPB
    cases hc : identifierTypeToUint pb.type with
    | none => rfl
    | some c =>
      cases pbs.find? fun pb => (identifierTypeToUint pb.type).isNone with
      | some _ => rfl
      | none => simp [identifierRow, hc, bind, Except.bind, pure, Except.pure]

/-- **Identifier rows round-trip.**  A list of identifiers is stored as a list of rows iff
those rows read back as the identifiers: the two loops are inverse, on the lists of `dns` and
`ip` identifiers and the lists of rows of codes `0` and `1`. -/
theorem newIdentifierModelsFromPB_iff (pbs : List ACMEIdentifier) (ids : List identifierModel) :
    newIdentifierModelsFromPB pbs = .ok ids ↔ newPBFromIdentifierModels ids = .ok pbs := by
  rw [newIdentifierModelsFromPB, newPBFromIdentifierModels, foldlM_append_nil_eq_mapM,
    foldlM_append_nil_eq_mapM]
  exact mapM_eq_ok_iff_of_inverse newIdentifierModelFromPB_eq_ok_iff pbs ids

/-- The identifiers `WellFormedIdentifiers` accepts have a type code. -/
theorem identifierTypeToUint_of_wellFormedSubError {Addr Prefix : Type} (L : Lib Addr Prefix)
    {ident : ACMEIdentifier} (h : wellFormedSubError L ident = none) :
    (identifierTypeToUint ident.type).isSome := by
  unfold wellFormedSubError at h
  unfold identifierTypeToUint
  split_ifs at h ⊢ <;> simp_all

/-- **Every list the PA accepts is stored.**  For every PA and every list that `WillingToIssue`
accepts, `newIdentifierModelsFromPB` returns one row per identifier, with its type code and
value, and the rows read back as the list. -/
theorem newIdentifierModelsFromPB_of_WillingToIssue {Addr Prefix : Type} (L : Lib Addr Prefix)
    (pa : AuthorityImpl Prefix) (idents : List ACMEIdentifier)
    (h : WillingToIssue L pa idents = none) :
    newIdentifierModelsFromPB idents = .ok (idents.map identifierRow) ∧
      newPBFromIdentifierModels (idents.map identifierRow) = .ok idents := by
  have hs : idents.find? (fun pb => (identifierTypeToUint pb.type).isNone) = none :=
    List.find?_eq_none.2 fun ident hm => by
      simpa [Option.isSome_iff_ne_none, Option.isNone_iff_eq_none] using
        identifierTypeToUint_of_wellFormedSubError L (wellFormedSubError_of_WillingToIssue L h ident hm)
  have hok : idents.mapM newIdentifierModelFromPB = .ok (idents.map identifierRow) := by
    rw [mapM_newIdentifierModelFromPB, hs]
  rw [newIdentifierModelsFromPB, newPBFromIdentifierModels, foldlM_append_nil_eq_mapM,
    foldlM_append_nil_eq_mapM]
  exact ⟨hok, (mapM_eq_ok_iff_of_inverse newIdentifierModelFromPB_eq_ok_iff _ _).1 hok⟩

/-- One name, under a policy that blocks others. -/
theorem newIdentifierModelsFromPB_of_WillingToIssue_dns :
    let pa := loadPolicies comLib (New (fun _ => true) fun _ => true)
      [⟨["foo.other.com".toList], ["other2.com".toList], [], []⟩]
    let idents : List ACMEIdentifier := [⟨TypeDNS, "example.com".toList⟩]
    WillingToIssue comLib pa idents = none ∧
      newIdentifierModelsFromPB idents = .ok (idents.map identifierRow) ∧
      newPBFromIdentifierModels (idents.map identifierRow) = .ok idents := by
  intro pa idents
  exact ⟨rfl, newIdentifierModelsFromPB_of_WillingToIssue comLib pa idents rfl⟩

/-! ## Override rows -/

/-- `sapb.RateLimitOverride`; a `Period` that is not set is `none`. -/
structure RateLimitOverride where
  LimitEnum : Int64
  BucketKey : GoString
  Comment : GoString
  Period : Option Durationpb
  Count : Int64
  Burst : Int64

/-- `overrideModel`. -/
structure overrideModel where
  LimitEnum : Int64
  BucketKey : GoString
  Comment : GoString
  PeriodNS : Int64
  Count : Int64
  Burst : Int64
  UpdatedAt : Time
  Enabled : Bool

/-- `overrideModelForPB`.  The getters of a `Period` that is not set read `0` seconds and `0`
nanoseconds. -/
def overrideModelForPB (pb : RateLimitOverride) (updatedAt : Time) (enabled : Bool) :
    overrideModel :=
  { LimitEnum := pb.LimitEnum, BucketKey := pb.BucketKey, Comment := pb.Comment,
    PeriodNS := (pb.Period.getD ⟨0, 0⟩).AsDuration, Count := pb.Count, Burst := pb.Burst,
    UpdatedAt := updatedAt, Enabled := enabled }

/-- `newPBFromOverrideModel`. -/
def newPBFromOverrideModel (m : overrideModel) : RateLimitOverride :=
  { LimitEnum := m.LimitEnum, BucketKey := m.BucketKey, Comment := m.Comment,
    Period := some (Durationpb.New m.PeriodNS), Count := m.Count, Burst := m.Burst }

/-- **Every override row survives being read and stored again**, whatever its period: every
`int64` count of nanoseconds survives the round trip through `durationpb`. -/
theorem overrideModelForPB_newPBFromOverrideModel (m : overrideModel) :
    overrideModelForPB (newPBFromOverrideModel m) m.UpdatedAt m.Enabled = m := by
  simp [overrideModelForPB, newPBFromOverrideModel]

/-- **An override survives being stored and read back iff its period is set and normal.**  An
unset period reads back as `0s`; a period beyond `int64` nanoseconds reads back as the nearest
end of the range; one whose nanoseconds exceed a second or have the other sign than its seconds
reads back in normal form. -/
theorem newPBFromOverrideModel_overrideModelForPB_iff (pb : RateLimitOverride)
    (updatedAt : Time) (enabled : Bool) :
    newPBFromOverrideModel (overrideModelForPB pb updatedAt enabled) = pb ↔
      ∃ x, pb.Period = some x ∧ x.Normal := by
  obtain ⟨limitEnum, bucketKey, comment, period, count, burst⟩ := pb
  simp only [newPBFromOverrideModel, overrideModelForPB, RateLimitOverride.mk.injEq, true_and,
    and_true]
  cases period with
  | none => simp
  | some x => simp [Durationpb.New_AsDuration_iff]

end Boulder
