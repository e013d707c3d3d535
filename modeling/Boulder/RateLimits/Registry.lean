import Boulder.RateLimits.Limit

/-!
# The limit registry (`ratelimits`)

* `parseDefaultLimits` — rekeys the default limits by their `Name`, validating each before
  `precompute`;
* `parseOverrideLimits` — one limit per id of each override, keyed `name:id`, after
  `validateIdForName` and the rewriting of `CertificatesPerDomain` and `CertificatesPerFQDNSet`
  ids; it calls `precompute` *before* `ValidateLimit`;
* `newLimitRegistry`, `LoadOverridesByBucketKey` and `getLimit`.

A Go map that a loop ranges over is the list of its entries in the order of that run, so every
statement over all lists holds under every iteration order.  The `Name` enum, `validateIdForName`,
`coveringIPPrefix`, `netip`, `core.HashIdentifiers` and the `%s` rendering of a period are outside
the sources and are the parameters `RateLib`.

Principal results: `parseDefaultLimits_ne_panic` and `parseOverrideLimits_ne_panic` — the
defaults never make the registry panic when none is `nil`, and the overrides never do when no
entry has a zero count; `newLimitRegistry_nil_default` — a `nil` default of a known name that
the loop reaches makes it panic; `parseOverrideLimits_zero_count` — an override entry with a zero count that passes the
name and id checks makes `parseOverrideLimits` panic with a division by zero;
`getLimit_ready` — every limit that `getLimit` returns from a registry `newLimitRegistry` built
is `Ready`: positive burst, count and period, and the intervals `precompute` derives from them;
`parseOverrideLimits_keys` — every key the overrides map holds is an `OverrideKey`, the
`joinWithColon` of a known name's enum text and of an accepted id.  Both invariants of the
overrides follow from one step lemma each by `parseOverrideLimits_inv`.
-/

set_option autoImplicit false

namespace Boulder

open Strings

/-- The functions outside the sources that the registry calls. -/
structure RateLib (Name Addr Prefix : Type) where
  /-- `StringToName`. -/
  StringToName : GoString → Option Name
  /-- `LimitNames`, as `%v` renders it. -/
  LimitNames : Msg
  /-- `Name.String`. -/
  NameString : Name → String
  /-- `Name.EnumString`. -/
  EnumString : Name → GoString
  /-- `Name.isValid`. -/
  isValid : Name → Bool
  /-- `validateIdForName`. -/
  validateIdForName : Name → GoString → Option GoError
  /-- The names whose ids `parseOverrideLimits` rewrites. -/
  CertificatesPerDomain : Name
  CertificatesPerFQDNSet : Name
  /-- `netip.ParseAddr`. -/
  ParseAddr : GoString → Option Addr
  /-- `coveringIPPrefix`. -/
  coveringIPPrefix : Name → Addr → Except GoError Prefix
  /-- `netip.Prefix.String`. -/
  PrefixString : Prefix → GoString
  /-- `fmt.Sprintf("%x", core.HashIdentifiers(identifier.FromStringSlice(values)))`. -/
  HashIdentifiers : List GoString → GoString
  /-- `%s` of a `config.Duration`. -/
  DurationString : Duration → String

/-- `LimitConfig`. -/
structure LimitConfig where
  Burst : Int64
  Count : Int64
  Period : Duration

/-- `LimitConfigs`: the entries of the map, whose values are pointers; `none` is `nil`. -/
abbrev LimitConfigs := List (GoString × Option LimitConfig)

/-- An element of the `Ids` list of an `overrideYAML`. -/
structure overrideIdYAML where
  Id : GoString
  Comment : GoString

/-- `overrideYAML`. -/
structure overrideYAML where
  LimitConfig : LimitConfig
  Ids : List overrideIdYAML

/-- `overridesYAML`: a list of maps, each given by its entries. -/
abbrev overridesYAML := List (List (GoString × overrideYAML))

/-- `Limits`: the entries of the map, the latest write first. -/
abbrev Limits (Name : Type) := List (GoString × Limit Name)

variable {Name Addr Prefix : Type} (S : RateLib Name Addr Prefix)

/-- `m[k] = v`. -/
def Limits.set (m : Limits Name) (k : GoString) (v : Limit Name) : Limits Name :=
  (k, v) :: m.filter (·.1 ≠ k)

/-- `v, ok := m[k]`. -/
def Limits.get (m : Limits Name) (k : GoString) : Option (Limit Name) :=
  (m.find? (·.1 = k)).map (·.2)

/-- Every limit of a map is ready. -/
def Limits.Ready (m : Limits Name) : Prop := ∀ kv ∈ m, kv.2.Ready

theorem Limits.Ready.set {m : Limits Name} (hm : m.Ready) (k : GoString) {l : Limit Name}
    (hl : l.Ready) : (m.set k l).Ready := by
  intro kv hkv
  rcases List.mem_cons.1 hkv with rfl | h
  · exact hl
  · exact hm kv (List.mem_of_mem_filter h)

theorem Limits.Ready.get {m : Limits Name} (hm : m.Ready) {k : GoString} {l : Limit Name}
    (h : m.get k = some l) : l.Ready := by
  obtain ⟨kv, hkv, rfl⟩ := Option.map_eq_some'.1 h
  exact hm kv (List.mem_of_find?_eq_some hkv)

/-- A loop whose every step keeps an invariant keeps it. -/
theorem foldlM_inv {σ α : Type} {P : σ → Prop} {f : σ → α → Except Abort σ}
    (hf : ∀ s a s', P s → f s a = .ok s' → P s') :
    ∀ (l : List α) (s s' : σ), P s → l.foldlM f s = .ok s' → P s'
  | [], s, s', hs, h => by cases h; exact hs
  | a :: l, s, s', hs, h => by
    rw [List.foldlM_cons] at h
    cases hfa : f s a with
    | error e => rw [hfa] at h; cases h
    | ok s₁ => rw [hfa] at h; exact foldlM_inv hf l s₁ s' (hf s a s₁ hs hfa) h

/-- `joinWithColon`: the bucket key `"<limitEnum>:<id>"`.  Modelled from the spec: the function
is not among the sources. -/
def joinWithColon (a b : GoString) : GoString := a ++ ':' :: b

/-- A `%w` error: the format, the arguments, and the wrapped error's text. -/
def wrapError (format : String) (args : List Msg) (err : GoError) : Abort :=
  .error (.other (.sprintf format (args ++ [err.detail])))

/-! ## Defaults -/

/-- The body of the loop of `parseDefaultLimits`.  Reading `v.Burst` of a `nil` entry panics. -/
def parseDefaultLimit (parsed : Limits Name) :
    GoString × Option LimitConfig → Except Abort (Limits Name)
  | (k, v) =>
    match S.StringToName k with
    | none => .error (.error (.other (.sprintf
        "unrecognized name %q in default limit, must be one of %v" [.str k, S.LimitNames])))
    | some name =>
      match v with
      | none => .error errNilDereference
      | some v =>
        let lim : Limit Name := ⟨v.Burst, v.Count, v.Period, name, [], 0, 0, false⟩
        match ValidateLimit S.DurationString lim with
        | some err => .error (wrapError "parsing default limit %q: %w" [.str k] err)
        | none => lim.precompute.map fun lim => parsed.set (S.EnumString name) lim

/-- `parseDefaultLimits`. -/
def parseDefaultLimits (newDefaultLimits : LimitConfigs) : Except Abort (Limits Name) :=
  newDefaultLimits.foldlM (parseDefaultLimit S) []

/-- `parseDefaultLimits` validates a limit before `precompute`, so a default that is not `nil`
never panics. -/
theorem parseDefaultLimit_returns (parsed : Limits Name) :
    ∀ kv : GoString × Option LimitConfig, kv.2.isSome → Returns (parseDefaultLimit S parsed kv)
  | (k, some v), _ => by
    simp only [parseDefaultLimit]
    cases S.StringToName k with
    | none => trivial
    | some name =>
      simp only
      cases h : ValidateLimit S.DurationString ⟨v.Burst, v.Count, v.Period, name, [], 0, 0, false⟩
      · exact Returns_map _ (precompute_returns (Int.ne_of_gt (ValidateLimit_eq_none.1 h).2.1))
      · trivial

/-- **The defaults never make the registry panic** when none of them is `nil`. -/
theorem parseDefaultLimits_ne_panic (newDefaultLimits : LimitConfigs)
    (hnil : ∀ kv ∈ newDefaultLimits, kv.2.isSome) :
    Returns (parseDefaultLimits S newDefaultLimits) :=
  Returns_foldlM _ fun parsed kv hkv => parseDefaultLimit_returns S parsed kv (hnil kv hkv)

/-- A step of `parseDefaultLimits` stores a validated, precomputed limit. -/
theorem parseDefaultLimit_ready {parsed parsed' : Limits Name}
    (kv : GoString × Option LimitConfig) (hm : parsed.Ready)
    (h : parseDefaultLimit S parsed kv = .ok parsed') : parsed'.Ready := by
  obtain ⟨k, v⟩ := kv
  simp only [parseDefaultLimit] at h
  split at h
  · cases h
  · split at h
    · cases h
    · split at h
      · cases h
      · rename_i hv
        obtain ⟨lim, hp, rfl⟩ := except_map_eq_ok h
        exact hm.set _ (precompute_ready hv hp)

theorem parseDefaultLimits_ready {defaults : LimitConfigs} {m : Limits Name}
    (h : parseDefaultLimits S defaults = .ok m) : m.Ready :=
  foldlM_inv (fun _ kv _ hs => parseDefaultLimit_ready S kv hs) _ [] m
    (fun _ h => nomatch h) h

/-! ## Overrides -/

variable [DecidableEq Name]

/-- The `switch name` of `parseOverrideLimits`: an IP address id of a `CertificatesPerDomain`
override becomes its covering prefix, and the id of a `CertificatesPerFQDNSet` override the hash
of its comma-separated identifier values. -/
def overrideId (name : Name) (id : GoString) : Except Abort GoString :=
  if name = S.CertificatesPerDomain then
    match S.ParseAddr id with
    | none => .ok id
    | some ip =>
      match S.coveringIPPrefix name ip with
      | .error err => .error (wrapError "computing prefix for IP address %q: %w" [.str id] err)
      | .ok pfx => .ok (S.PrefixString pfx)
  else if name = S.CertificatesPerFQDNSet then .ok (S.HashIdentifiers (Split id ','))
  else .ok id

/-- The body of the loop over the ids of an override. -/
def parseOverrideEntry (k : GoString) (name : Name) (v : overrideYAML) (parsed : Limits Name)
    (entry : overrideIdYAML) : Except Abort (Limits Name) :=
  match S.validateIdForName name entry.Id with
  | some err => .error (wrapError "validating name %s and id %q for override limit %q: %w"
      [.text (S.NameString name), .str entry.Id, .str k] err)
  | none => do
    let id ← overrideId S name entry.Id
    let lim ← (⟨v.LimitConfig.Burst, v.LimitConfig.Count, v.LimitConfig.Period, name,
      entry.Comment, 0, 0, true⟩ : Limit Name).precompute
    match ValidateLimit S.DurationString lim with
    | some err => .error (wrapError "validating override limit %q: %w" [.str k] err)
    | none => .ok (parsed.set (joinWithColon (S.EnumString name) id) lim)

/-- The body of the loop over the entries of one map of `parseOverrideLimits`. -/
def parseOverride (parsed : Limits Name) : GoString × overrideYAML → Except Abort (Limits Name)
  | (k, v) =>
    match S.StringToName k with
    | none => .error (.error (.other (.sprintf
        "unrecognized name %q in override limit, must be one of %v" [.str k, S.LimitNames])))
    | some name => v.Ids.foldlM (parseOverrideEntry S k name v) parsed

/-- `parseOverrideLimits`. -/
def parseOverrideLimits (newOverridesYAML : overridesYAML) : Except Abort (Limits Name) :=
  newOverridesYAML.foldlM (fun parsed ov => ov.foldlM (parseOverride S) parsed) []

theorem overrideId_returns (name : Name) (id : GoString) : Returns (overrideId S name id) := by
  unfold overrideId
  split_ifs
  · split
    · trivial
    · split <;> trivial
  all_goals trivial

theorem parseOverrideEntry_returns (k : GoString) (name : Name) (v : overrideYAML)
    (hc : v.LimitConfig.Count.val ≠ 0) (parsed : Limits Name) (entry : overrideIdYAML) :
    Returns (parseOverrideEntry S k name v parsed entry) := by
  unfold parseOverrideEntry
  split
  · trivial
  · refine Returns_bind (overrideId_returns S name entry.Id) fun id _ =>
      Returns_bind (precompute_returns hc) fun lim _ => ?_
    split <;> trivial

/-- **The overrides make the registry panic only through a zero count.** -/
theorem parseOverrideLimits_ne_panic (newOverridesYAML : overridesYAML)
    (hc : ∀ ov ∈ newOverridesYAML, ∀ kv ∈ ov, kv.2.LimitConfig.Count.val ≠ 0) :
    Returns (parseOverrideLimits S newOverridesYAML) := by
  refine Returns_foldlM _ fun parsed ov hov => Returns_foldlM _ fun parsed kv hkv => ?_
  obtain ⟨k, v⟩ := kv
  simp only [parseOverride]
  cases S.StringToName k with
  | none => trivial
  | some name =>
    exact Returns_foldlM _ fun parsed entry _ =>
      parseOverrideEntry_returns S _ _ _ (hc ov hov _ hkv) parsed entry

/-- **`parseOverrideLimits` divides by a zero count.**  An override whose name is known and
whose first id passes `validateIdForName` and the id rewriting, with a zero (or absent) count,
makes `precompute` divide by zero before `ValidateLimit` could reject it: the call panics. -/
theorem parseOverrideLimits_zero_count (k : GoString) (v : overrideYAML)
    (kvs : List (GoString × overrideYAML)) (ovs : overridesYAML) (name : Name)
    (entry : overrideIdYAML) (ids : List overrideIdYAML) (id : GoString)
    (hk : S.StringToName k = some name) (hids : v.Ids = entry :: ids)
    (hv : S.validateIdForName name entry.Id = none) (hid : overrideId S name entry.Id = .ok id)
    (hc : v.LimitConfig.Count.val = 0) :
    parseOverrideLimits S (((k, v) :: kvs) :: ovs) = .error errDivideByZero := by
  have he : parseOverrideEntry S k name v [] entry = .error errDivideByZero := by
    simp only [parseOverrideEntry, hv, hid, precompute_eq, hc]
    rfl
  simp only [parseOverrideLimits, parseOverride, List.foldlM_cons, hk, hids, he]
  rfl

/-- One override of a known name with `count: 0` (or no `count` key) and one
id. -/
theorem parseOverrideLimits_zero_count_certificatesPerDomain :
    let S : RateLib Unit Empty Empty :=
      ⟨fun k => if k = "CertificatesPerDomain".toList then some () else none, .text "",
        fun _ => "", fun _ => [], fun _ => true, fun _ _ => none, (), (), fun _ => none,
        (fun _ a => nomatch a), (fun p => nomatch p), fun _ => [], fun _ => ""⟩
    parseOverrideLimits S [[("CertificatesPerDomain".toList,
        ⟨⟨1, 0, ⟨3600000000000⟩⟩, [⟨"example.com".toList, []⟩]⟩)]] =
      .error errDivideByZero :=
  parseOverrideLimits_zero_count _ _ _ [] [] () _ [] _ rfl rfl rfl rfl rfl

/-! ## The registry -/

/-- `limitRegistry`. -/
structure limitRegistry (Name : Type) where
  defaults : Limits Name
  overrides : Limits Name

/-- `newLimitRegistry`. -/
def newLimitRegistry (defaults : LimitConfigs) (overrides : overridesYAML) :
    Except Abort (limitRegistry Name) := do
  let regDefaults ← parseDefaultLimits S defaults
  let regOverrides ← parseOverrideLimits S overrides
  return ⟨regDefaults, regOverrides⟩

/-- `LoadOverridesByBucketKey`, from the result of `loadOverrides` (reading and decoding the
file are not modelled). -/
def LoadOverridesByBucketKey (loaded : Except GoError overridesYAML) :
    Except Abort (Limits Name) :=
  match loaded with
  | .error err => .error (.error err)
  | .ok ovs => parseOverrideLimits S ovs

/-- `errLimitDisabled`. -/
def errLimitDisabled : GoError := .other (.text "limit disabled")

/-- `getLimit`. -/
def limitRegistry.getLimit (l : limitRegistry Name) (name : Name) (bucketKey : GoString) :
    Except GoError (Limit Name) :=
  if !S.isValid name then
    .error (.other (.sprintf "specified name enum %q, is invalid" [.text (S.NameString name)]))
  else match (if bucketKey ≠ [] then l.overrides.get bucketKey else none) with
    | some ol => .ok ol
    | none =>
      match l.defaults.get (S.EnumString name) with
      | some dl => .ok dl
      | none => .error errLimitDisabled

/-- The registry is built without a panic when no default is `nil` and no override has a zero
count. -/
theorem newLimitRegistry_ne_panic (defaults : LimitConfigs) (overrides : overridesYAML)
    (hnil : ∀ kv ∈ defaults, kv.2.isSome)
    (hc : ∀ ov ∈ overrides, ∀ kv ∈ ov, kv.2.LimitConfig.Count.val ≠ 0) :
    Returns (newLimitRegistry S defaults overrides) :=
  Returns_bind (parseDefaultLimits_ne_panic S defaults hnil) fun _ _ =>
    Returns_bind (parseOverrideLimits_ne_panic S overrides hc) fun _ _ => trivial

/-- A default of 20 per hour and one override of `CertificatesPerDomain` with a count of 40. -/
theorem newLimitRegistry_ne_panic_certificatesPerDomain :
    let S : RateLib Unit Empty Empty :=
      ⟨fun k => if k = "CertificatesPerDomain".toList then some () else none, .text "",
        fun _ => "", fun _ => [], fun _ => true, fun _ _ => none, (), (), fun _ => none,
        (fun _ a => nomatch a), (fun p => nomatch p), fun _ => [], fun _ => ""⟩
    let defaults : LimitConfigs := [("CertificatesPerDomain".toList, some ⟨1, 20, ⟨3600000000000⟩⟩)]
    let overrides : overridesYAML := [[("CertificatesPerDomain".toList,
        ⟨⟨2, 40, ⟨3600000000000⟩⟩, [⟨"example.com".toList, []⟩]⟩)]]
    (∀ kv ∈ defaults, kv.2.isSome) ∧
      (∀ ov ∈ overrides, ∀ kv ∈ ov, kv.2.LimitConfig.Count.val ≠ 0) ∧
      Returns (newLimitRegistry S defaults overrides) := by
  intro S defaults overrides
  have hnil : ∀ kv ∈ defaults, kv.2.isSome := by simp [defaults]
  have hc : ∀ ov ∈ overrides, ∀ kv ∈ ov, kv.2.LimitConfig.Count.val ≠ 0 := by
    simp only [overrides, List.mem_singleton, forall_eq]
    decide
  exact ⟨hnil, hc, newLimitRegistry_ne_panic S defaults overrides hnil hc⟩

/-- A step of the loop over the ids of an override stores a limit only once `ValidateLimit`
has accepted it, after `precompute`. -/
theorem parseOverrideEntry_ready (k : GoString) (name : Name) (v : overrideYAML)
    {parsed parsed' : Limits Name} (entry : overrideIdYAML) (hm : parsed.Ready)
    (h : parseOverrideEntry S k name v parsed entry = .ok parsed') : parsed'.Ready := by
  unfold parseOverrideEntry at h
  split at h
  · cases h
  · obtain ⟨id, -, h⟩ := except_bind_eq_ok h
    obtain ⟨lim, hp, h⟩ := except_bind_eq_ok h
    split at h
    · cases h
    · rename_i hv
      cases h
      exact hm.set _ (precompute_ready (by rwa [ValidateLimit_precompute hp] at hv) hp)

/-- The loops of `parseOverrideLimits`, over the maps, their entries and the ids of each, write
only through `parseOverrideEntry`, with a name that `StringToName` knows: what every such step
keeps, the whole run keeps. -/
theorem parseOverrideLimits_inv {P : Limits Name → Prop} (h₀ : P [])
    (hstep : ∀ k name v parsed parsed' entry, S.StringToName k = some name → P parsed →
      parseOverrideEntry S k name v parsed entry = .ok parsed' → P parsed')
    {overrides : overridesYAML} {m : Limits Name} (h : parseOverrideLimits S overrides = .ok m) :
    P m := by
  refine foldlM_inv (fun s ov s' hs hov => ?_) _ [] m h₀ h
  refine foldlM_inv (fun s kv s' hs hkv => ?_) ov s s' hs hov
  obtain ⟨k, v⟩ := kv
  simp only [parseOverride] at hkv
  split at hkv
  · cases hkv
  · rename_i name hk
    exact foldlM_inv (fun s e s' hs he => hstep k name v s s' e hk hs he) _ s s' hs hkv

theorem parseOverrideLimits_ready {overrides : overridesYAML} {m : Limits Name}
    (h : parseOverrideLimits S overrides = .ok m) : m.Ready :=
  parseOverrideLimits_inv S (fun _ h => nomatch h)
    (fun k _ v _ _ e _ hs he => parseOverrideEntry_ready S k _ v e hs he) h

/-- The keys `parseOverrideLimits` writes: `joinWithColon` of the enum text of a name that
`StringToName` knows and of an id that `validateIdForName` accepted, as `overrideId` rewrites
it. -/
def OverrideKey (key : GoString) : Prop :=
  ∃ k name id₀ id, S.StringToName k = some name ∧ S.validateIdForName name id₀ = none ∧
    overrideId S name id₀ = .ok id ∧ key = joinWithColon (S.EnumString name) id

theorem parseOverrideEntry_keys (k : GoString) (name : Name) (v : overrideYAML)
    {parsed parsed' : Limits Name} (entry : overrideIdYAML) (hk : S.StringToName k = some name)
    (hm : ∀ kv ∈ parsed, OverrideKey S kv.1)
    (h : parseOverrideEntry S k name v parsed entry = .ok parsed') :
    ∀ kv ∈ parsed', OverrideKey S kv.1 := by
  unfold parseOverrideEntry at h
  split at h
  · cases h
  · rename_i hv
    obtain ⟨id, hid, h⟩ := except_bind_eq_ok h
    obtain ⟨lim, -, h⟩ := except_bind_eq_ok h
    split at h
    · cases h
    · cases h
      intro kv hkv
      rcases List.mem_cons.1 hkv with rfl | hkv
      · exact ⟨k, name, entry.Id, id, hk, hv, hid, rfl⟩
      · exact hm kv (List.mem_of_mem_filter hkv)

/-- Every key of the map `parseOverrideLimits` builds is an `OverrideKey`. -/
theorem parseOverrideLimits_keys {overrides : overridesYAML} {m : Limits Name}
    (h : parseOverrideLimits S overrides = .ok m) : ∀ kv ∈ m, OverrideKey S kv.1 :=
  parseOverrideLimits_inv S (P := fun m => ∀ kv ∈ m, OverrideKey S kv.1) (fun _ h => nomatch h)
    (fun k name v _ _ e hk hs he => parseOverrideEntry_keys S k name v e hk hs he) h

omit [DecidableEq Name] in
/-- A limit that `getLimit` returns is the override of the bucket key or the default of the
name. -/
theorem getLimit_eq_ok {reg : limitRegistry Name} {name : Name} {bucketKey : GoString}
    {l : Limit Name} (h : reg.getLimit S name bucketKey = .ok l) :
    reg.overrides.get bucketKey = some l ∨ reg.defaults.get (S.EnumString name) = some l := by
  unfold limitRegistry.getLimit at h
  split at h
  · cases h
  · split at h
    · rename_i hol
      cases h
      split at hol
      · exact .inl hol
      · cases hol
    · split at h
      · rename_i hdl
        cases h
        exact .inr hdl
      · cases h

/-- Both maps of a registry that `newLimitRegistry` builds hold only ready limits. -/
theorem newLimitRegistry_ready {defaults : LimitConfigs} {overrides : overridesYAML}
    {reg : limitRegistry Name} (h : newLimitRegistry S defaults overrides = .ok reg) :
    reg.defaults.Ready ∧ reg.overrides.Ready := by
  obtain ⟨d, hd, h⟩ := except_bind_eq_ok h
  obtain ⟨o, ho, h⟩ := except_bind_eq_ok h
  cases h
  exact ⟨parseDefaultLimits_ready S hd, parseOverrideLimits_ready S ho⟩

/-- **The registry hands out only ready limits.**  For every defaults map and overrides list from
which `newLimitRegistry` builds a registry, under every iteration order of the maps, every limit
that `getLimit` returns, for any name and bucket key, has a positive burst, count and period, the
emission interval `⌊Period / Count⌋` and the burst offset `emissionInterval * Burst` in `int64`:
the late `ValidateLimit` of the overrides still keeps every invalid override out. -/
theorem getLimit_ready (defaults : LimitConfigs) (overrides : overridesYAML)
    (reg : limitRegistry Name) (h : newLimitRegistry S defaults overrides = .ok reg)
    (name : Name) (bucketKey : GoString) (l : Limit Name)
    (hl : reg.getLimit S name bucketKey = .ok l) : l.Ready := by
  obtain ⟨hd, ho⟩ := newLimitRegistry_ready S h
  rcases getLimit_eq_ok S hl with hl | hl
  · exact ho.get hl
  · exact hd.get hl

/-- A default of 20 per hour and an override of 40 per hour for `example.com`;
`getLimit` on the override's bucket key returns it, with an interval of 90 s. -/
theorem getLimit_ready_override :
    let S : RateLib Unit Empty Empty :=
      ⟨fun k => if k = "CertificatesPerDomain".toList then some () else none, .text "",
        fun _ => "", fun _ => [], fun _ => true, fun _ _ => none, (), (), fun _ => none,
        (fun _ a => nomatch a), (fun p => nomatch p), fun _ => [], fun _ => ""⟩
    let defaults : LimitConfigs := [("CertificatesPerDomain".toList, some ⟨1, 20, ⟨3600000000000⟩⟩)]
    let overrides : overridesYAML := [[("CertificatesPerDomain".toList,
        ⟨⟨2, 40, ⟨3600000000000⟩⟩, [⟨"example.com".toList, []⟩]⟩)]]
    let l : Limit Unit := ⟨2, 40, ⟨3600000000000⟩, (), [], 90000000000, 180000000000, true⟩
    let reg : limitRegistry Unit :=
      ⟨[([], ⟨1, 20, ⟨3600000000000⟩, (), [], 180000000000, 180000000000, false⟩)],
        [(":example.com".toList, l)]⟩
    newLimitRegistry S defaults overrides = .ok reg ∧
      reg.getLimit S () ":example.com".toList = .ok l ∧ l.Ready := by
  intro S defaults overrides l reg
  have h : newLimitRegistry S defaults overrides = .ok reg := rfl
  have hl : reg.getLimit S () ":example.com".toList = .ok l := rfl
  exact ⟨h, hl, getLimit_ready S defaults overrides reg h () _ l hl⟩

end Boulder
