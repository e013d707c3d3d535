import Mathlib.Data.List.Sort
import Boulder.RateLimits.Registry

/-!
# Dumping the overrides (`ratelimits`)

`DumpOverrides` writes an overrides map as CSV: a header, then one row per entry, whose key
`parseOverrideNameEnumId` splits into the name enum and the id.  Before writing, `sort.Slice`
orders the rows with a comparison that decides field after field, by `!=` and then `<`: name
ascending, count and burst descending, then period, comment and id ascending.  The period is
compared as the text `Duration.String` gives it.  Creating the file and the CSV quoting are not
modelled: a run is the list of records it writes.

* `rowLess` — the comparison, one `lessBy` step per field;
* the sort — `List.mergeSort` on `!rowLess b a`.  `rowLess` is a strict total order on rows, so
  every permutation that leaves no row after a row it is less than, the contract of
  `sort.Slice`, is this one (`eq_mergeSort_of_sorted`).

Principal results: `DumpOverrides_sorted` — when every key parses, the data rows are the rows of
the entries, reordered so that no row comes after a row it is `rowLess` than;
`DumpOverrides_perm` — the records do not depend on the order in which the map is ranged over;
`parseOverrideNameEnumId_joinWithColon` — the bucket keys `"<limitEnum>:<id>"` round-trip;
`DumpOverrides_newLimitRegistry` — every key of the overrides a registry loads parses back, so
the dump of them succeeds.
-/

set_option autoImplicit false

namespace Boulder

open Strings

variable {Name Addr Prefix : Type} (S : RateLib Name Addr Prefix) (ofInt : Int → Name)

/-! ## The rows -/

/-- `parseOverrideNameEnumId`; `ofInt` is the conversion `Name(nameInt)`. -/
def parseOverrideNameEnumId (key : GoString) : Except GoError (Name × GoString) :=
  if ':' ∉ key then
    .error (.other (.sprintf "invalid override %q, must be formatted 'name:id'" [.str key]))
  else match SplitN2 key ':' with
    | [nameStr, id] =>
      match Atoi nameStr with
      | none => .error (.other (.sprintf
          "invalid name %q in override limit %q, must be an integer" [.str nameStr, .str key]))
      | some nameInt =>
        let name := ofInt nameInt
        if !S.isValid name then .error (.other (.sprintf
          "invalid name %q in override limit %q, must be one of %v"
          [.str nameStr, .str key, S.LimitNames]))
        else if id = [] then .error (.other (.sprintf
          "empty id in override %q, must be formatted 'name:id'" [.str key]))
        else .ok (name, id)
    | _ => .error (.other (.sprintf "invalid override %q, must be formatted 'name:id'" [.str key]))

/-- The `row` of `DumpOverrides`. -/
structure row where
  name : GoString
  id : GoString
  count : Int64
  burst : Int64
  period : GoString
  comment : GoString

/-- The record written for a row. -/
def row.record (r : row) : List GoString :=
  [r.name, r.id, FormatInt r.count.val, FormatInt r.burst.val, r.period, r.comment]

/-- The header record. -/
def dumpHeader : List GoString := ["name", "id", "count", "burst", "period", "comment"].map String.toList

/-- The body of the loop of `DumpOverrides`: the row of the entry `bucketKey: limit`. -/
def overrideRow (entry : GoString × Limit Name) : Except GoError row :=
  (fun (nameId : Name × GoString) =>
    ({ name := (S.NameString nameId.1).toList, id := nameId.2, count := entry.2.Count,
       burst := entry.2.Burst, period := entry.2.Period.String, comment := entry.2.Comment } :
      row)) <$> parseOverrideNameEnumId S ofInt entry.1

/-! ## The bucket keys -/

/-- `parseOverrideNameEnumId` accepts exactly the keys `nameStr:id` whose name part, the text
before the first `:`, is a 64-bit integer naming a valid limit, and whose id is not empty; the
id may hold further colons. -/
theorem parseOverrideNameEnumId_eq_ok_iff (key : GoString) (name : Name) (id : GoString) :
    parseOverrideNameEnumId S ofInt key = .ok (name, id) ↔
      ∃ nameStr k, key = nameStr ++ ':' :: id ∧ ':' ∉ nameStr ∧ Atoi nameStr = some k ∧
        ofInt k = name ∧ S.isValid name = true ∧ id ≠ [] := by
  constructor
  · intro h
    unfold parseOverrideNameEnumId at h
    split_ifs at h with hc
    rcases SplitN2_cases key ':' with ⟨hn, -⟩ | ⟨pre, rest, rfl, hpre, hs⟩
    · exact absurd hc hn
    rw [hs] at h
    cases ha : Atoi pre with
    | none => simp only [ha] at h; cases h
    | some k =>
      simp only [ha] at h
      split_ifs at h with hv hid
      cases h
      exact ⟨pre, k, rfl, hpre, ha, rfl, by simpa using hv, hid⟩
  · rintro ⟨nameStr, k, rfl, hn, ha, rfl, hv, hid⟩
    unfold parseOverrideNameEnumId
    rw [if_neg (by simp), SplitN2_append hn]
    simp [ha, hv, hid]

/-- **The bucket keys round-trip.**  The key `joinWithColon` builds from a name and an id, as
the registry stores its overrides, parses back to that name and id when the name's enum text is
`strconv` text of a 64-bit integer `k` with `Name(k)` the name, as `Name.EnumString` prints it,
and the id is not empty, colons included (an IPv6 prefix). -/
theorem parseOverrideNameEnumId_joinWithColon (name : Name) (k : Int) (id : GoString)
    (henum : S.EnumString name = FormatInt k)
    (hk : -9223372036854775808 ≤ k ∧ k ≤ 9223372036854775807) (hname : ofInt k = name)
    (hv : S.isValid name = true) (hid : id ≠ []) :
    parseOverrideNameEnumId S ofInt (joinWithColon (S.EnumString name) id) = .ok (name, id) :=
  (parseOverrideNameEnumId_eq_ok_iff S ofInt _ name id).2
    ⟨FormatInt k, k, by rw [henum]; rfl, colon_not_mem_FormatInt k, Atoi_FormatInt k hk, hname,
      hv, hid⟩

/-- Names are their enum integers, `3` among the valid ones, and the id is the
IPv6 prefix `2001:db8::/48`, whose colons stay in the id. -/
theorem parseOverrideNameEnumId_joinWithColon_ipv6 :
    let S : RateLib Int Empty Empty :=
      ⟨fun _ => none, .text "", fun _ => "", FormatInt, fun n => decide (0 < n ∧ n < 12),
        fun _ _ => none, 1, 2, fun _ => none, (fun _ a => nomatch a), (fun p => nomatch p),
        fun _ => [], fun _ => ""⟩
    S.EnumString 3 = FormatInt 3 ∧
      (-9223372036854775808 ≤ (3 : Int) ∧ (3 : Int) ≤ 9223372036854775807) ∧
      id 3 = (3 : Int) ∧ S.isValid 3 = true ∧ "2001:db8::/48".toList ≠ [] ∧
      parseOverrideNameEnumId S id (joinWithColon (S.EnumString 3) "2001:db8::/48".toList) =
        .ok (3, "2001:db8::/48".toList) :=
  ⟨rfl, by decide, rfl, by decide, by decide,
    parseOverrideNameEnumId_joinWithColon _ id 3 3 _ rfl (by decide) rfl (by decide)
      (by decide)⟩

/-- One step of the comparison of `DumpOverrides`: `if f(a) != f(b) { return lt(f(a), f(b)) }`,
and `next` after it. -/
def lessBy {β : Type} [DecidableEq β] (f : row → β) (lt : β → β → Bool)
    (next : row → row → Bool) (a b : row) : Bool :=
  if f a ≠ f b then lt (f a) (f b) else next a b

/-- The comparison `DumpOverrides` passes to `sort.Slice`: name ascending, count and burst
descending, period (as text), comment and id ascending. -/
def rowLess : row → row → Bool :=
  lessBy row.name Less <|
  lessBy (·.count.val) (fun x y => decide (x > y)) <|
  lessBy (·.burst.val) (fun x y => decide (x > y)) <|
  lessBy row.period Less <|
  lessBy row.comment Less <|
  fun a b => Less a.id b.id

/-- `DumpOverrides`: the records it writes, the header first. -/
def DumpOverrides (overrides : Limits Name) : Except GoError (List (List GoString)) := do
  let rows ← overrides.foldlM (fun rows entry => (rows ++ [·]) <$> overrideRow S ofInt entry) []
  let rows := rows.mergeSort fun a b => !rowLess b a
  pure (dumpHeader :: rows.map row.record)

/-! ## The comparison is a strict total order -/

/-- `lt` is a strict total order. -/
structure StrictTotal {β : Type} (lt : β → β → Bool) : Prop where
  irrefl : ∀ x, lt x x = false
  trans : ∀ {x y z}, lt x y → lt y z → lt x z
  total : ∀ {x y}, x ≠ y → lt x y ∨ lt y x

theorem Less_strictTotal : StrictTotal Less := ⟨Less_self, Less_trans, Less_total⟩

theorem gt_strictTotal : StrictTotal fun x y : Int => decide (x > y) :=
  ⟨fun x => by simp, fun h₁ h₂ => by simp at *; omega, fun h => by simp; omega⟩

section LessBy

variable {β : Type} [DecidableEq β] {f : row → β} {lt : β → β → Bool}
  {next : row → row → Bool}

/-- A step over a transitive comparison is transitive. -/
theorem lessBy_trans (hlt : StrictTotal lt) (hn : ∀ a b c, next a b → next b c → next a c) :
    ∀ a b c : row, lessBy f lt next a b → lessBy f lt next b c → lessBy f lt next a c := by
  intro a b c h₁ h₂
  unfold lessBy at *
  by_cases hab : f a = f b <;> by_cases hbc : f b = f c
  · rw [if_neg (by simp [hab, hbc])]
    rw [if_neg (by simp [hab])] at h₁; rw [if_neg (by simp [hbc])] at h₂
    exact hn a b c h₁ h₂
  · rw [hab, if_pos hbc]; rwa [if_pos hbc] at h₂
  · rw [← hbc, if_pos hab]; rwa [if_pos hab] at h₁
  · rw [if_pos hab] at h₁; rw [if_pos hbc] at h₂
    have hac : f a ≠ f c := fun e => by
      rw [e] at h₁; simpa [hlt.irrefl] using hlt.trans h₁ h₂
    rw [if_pos hac]
    exact hlt.trans h₁ h₂

/-- Rows that a step leaves unordered either way agree on its field, and `next` leaves them
unordered. -/
theorem lessBy_incomparable (hlt : StrictTotal lt) {a b : row}
    (h₁ : lessBy f lt next a b = false) (h₂ : lessBy f lt next b a = false) :
    f a = f b ∧ next a b = false ∧ next b a = false := by
  unfold lessBy at h₁ h₂
  by_cases hab : f a = f b
  · rw [if_neg (by simp [hab])] at h₁; rw [if_neg (by simp [hab])] at h₂
    exact ⟨hab, h₁, h₂⟩
  · rw [if_pos hab] at h₁; rw [if_pos (Ne.symm hab)] at h₂
    rcases hlt.total hab with h | h <;> simp_all

end LessBy

@[simp] theorem rowLess_self (a : row) : rowLess a a = false := by
  simp [rowLess, lessBy]

theorem rowLess_trans {a b c : row} : rowLess a b → rowLess b c → rowLess a c :=
  lessBy_trans Less_strictTotal (lessBy_trans gt_strictTotal (lessBy_trans gt_strictTotal
    (lessBy_trans Less_strictTotal (lessBy_trans Less_strictTotal
      fun a b c => @Less_trans a.id b.id c.id)))) a b c

/-- Two rows that `rowLess` leaves unordered are equal: the comparison reads every field. -/
theorem rowLess_antisymm {a b : row} (h₁ : rowLess a b = false) (h₂ : rowLess b a = false) :
    a = b := by
  obtain ⟨hn, h₁, h₂⟩ := lessBy_incomparable Less_strictTotal h₁ h₂
  obtain ⟨hc, h₁, h₂⟩ := lessBy_incomparable gt_strictTotal h₁ h₂
  obtain ⟨hb, h₁, h₂⟩ := lessBy_incomparable gt_strictTotal h₁ h₂
  obtain ⟨hp, h₁, h₂⟩ := lessBy_incomparable Less_strictTotal h₁ h₂
  obtain ⟨hm, h₁, h₂⟩ := lessBy_incomparable Less_strictTotal h₁ h₂
  have hi : a.id = b.id := by
    by_contra h
    rcases Less_total h with h | h <;> simp_all
  cases a; cases b
  simp only [row.mk.injEq]
  exact ⟨hn, hi, SInt.ext hc, SInt.ext hb, hp, hm⟩

theorem rowLess_asymm {a b : row} (h : rowLess a b) : rowLess b a = false := by
  cases h' : rowLess b a
  · rfl
  · simpa using rowLess_trans h h'

theorem rowLess_total {a b : row} (h : a ≠ b) : rowLess a b ∨ rowLess b a := by
  by_contra hc
  simp only [not_or, Bool.not_eq_true] at hc
  exact h (rowLess_antisymm hc.1 hc.2)

/-- A row less than `a` is less than any `b`, unless `b` is less than `a`. -/
theorem rowLess_or {a c : row} (h : rowLess c a) (b : row) : rowLess c b ∨ rowLess b a := by
  by_cases hab : a = b
  · exact .inl (hab ▸ h)
  · exact (rowLess_total hab).imp (rowLess_trans h) id

/-! ## The sort -/

/-- `mergeSort` leaves no row after a row it is `rowLess` than. -/
theorem sorted_mergeSort_rows (rows : List row) :
    (rows.mergeSort fun a b => !rowLess b a).Pairwise fun a b => rowLess b a = false := by
  have htrans : ∀ a b c : row, !rowLess b a → !rowLess c b → !rowLess c a := by
    intro a b c h₁ h₂
    rw [Bool.not_eq_true'] at h₁ h₂ ⊢
    cases hca : rowLess c a
    · rfl
    · rcases rowLess_or hca b with h | h <;> simp_all
  have htotal : ∀ a b : row, (!rowLess b a || !rowLess a b) = true := by
    intro a b
    cases h : rowLess a b
    · simp
    · simp [rowLess_asymm h]
  exact (List.sorted_mergeSort htrans htotal rows).imp fun h => (Bool.not_eq_true' _).mp h

/-- **Any sort gives this order.**  A permutation of the rows that leaves no row after a row it
is `rowLess` than, which is what `sort.Slice` guarantees, is `mergeSort`'s result. -/
theorem eq_mergeSort_of_sorted {rows sorted : List row} (hp : sorted.Perm rows)
    (hs : sorted.Pairwise fun a b => rowLess b a = false) :
    sorted = rows.mergeSort fun a b => !rowLess b a :=
  haveI : IsAntisymm row fun a b => rowLess b a = false :=
    ⟨fun _ _ hab hba => rowLess_antisymm hba hab⟩
  List.eq_of_perm_of_sorted (hp.trans (List.mergeSort_perm _ _).symm) hs
    (sorted_mergeSort_rows rows)

/-! ## What `DumpOverrides` writes -/

theorem DumpOverrides_eq {overrides : Limits Name} {rows : List row}
    (h : overrides.mapM (overrideRow S ofInt) = .ok rows) :
    DumpOverrides S ofInt overrides =
      .ok (dumpHeader :: (rows.mergeSort fun a b => !rowLess b a).map row.record) := by
  simp only [DumpOverrides, foldlM_append_nil_eq_mapM, h]
  rfl

theorem overrideRow_ok {entry : GoString × Limit Name} {name : Name} {id : GoString}
    (h : parseOverrideNameEnumId S ofInt entry.1 = .ok (name, id)) :
    ∃ r, overrideRow S ofInt entry = .ok r := by
  simp only [overrideRow, h]
  exact ⟨_, rfl⟩

/-- **The sort of `DumpOverrides`.**  For every overrides map whose keys all parse with
`parseOverrideNameEnumId`, under every iteration order, `DumpOverrides` writes the header and
then the rows of the entries, reordered so that no row comes after a row it is `rowLess` than:
name ascending, count and burst descending, period as `Duration.String` text, comment and id
ascending. -/
theorem DumpOverrides_sorted (overrides : Limits Name)
    (h : ∀ entry ∈ overrides, ∃ name id,
      parseOverrideNameEnumId S ofInt entry.1 = .ok (name, id)) :
    ∃ rows₀ rows : List row, overrides.mapM (overrideRow S ofInt) = .ok rows₀ ∧
      DumpOverrides S ofInt overrides = .ok (dumpHeader :: rows.map row.record) ∧
      rows.Perm rows₀ ∧ rows.Pairwise fun a b => rowLess b a = false := by
  obtain ⟨rows₀, h₀⟩ : ∃ rows₀, overrides.mapM (overrideRow S ofInt) = .ok rows₀ :=
    ⟨_, mapM_eq_ok_filterMap fun entry he =>
      let ⟨_, _, hp⟩ := h entry he; overrideRow_ok S ofInt hp⟩
  exact ⟨rows₀, _, h₀, DumpOverrides_eq S ofInt h₀, List.mergeSort_perm _ _,
    sorted_mergeSort_rows rows₀⟩

/-- Two overrides of one name with equal count and burst and periods of
10 s and 2 s.  The row of 10 s is written first, since the text `10s` is less than `2s`. -/
theorem DumpOverrides_sorted_period_text :
    let S : RateLib Unit Empty Empty :=
      ⟨fun _ => none, .text "", fun _ => "CertificatesPerDomain", fun _ => [], fun _ => true,
        fun _ _ => none, (), (), fun _ => none, (fun _ a => nomatch a), (fun p => nomatch p),
        fun _ => [], fun _ => ""⟩
    let overrides : Limits Unit :=
      [("1:a".toList, ⟨1, 1, ⟨10000000000⟩, (), [], 0, 0, true⟩),
       ("1:b".toList, ⟨1, 1, ⟨2000000000⟩, (), [], 0, 0, true⟩)]
    (∀ entry ∈ overrides, ∃ name id,
      parseOverrideNameEnumId S (fun _ => ()) entry.1 = .ok (name, id)) ∧
    (∃ rows₀ rows : List row, overrides.mapM (overrideRow S (fun _ => ())) = .ok rows₀ ∧
      DumpOverrides S (fun _ => ()) overrides = .ok (dumpHeader :: rows.map row.record) ∧
      rows.Perm rows₀ ∧ rows.Pairwise fun a b => rowLess b a = false) ∧
    DumpOverrides S (fun _ => ()) overrides = .ok
      (dumpHeader :: [["CertificatesPerDomain", "a", "1", "1", "10s", ""].map String.toList,
        ["CertificatesPerDomain", "b", "1", "1", "2s", ""].map String.toList]) := by
  intro S overrides
  have h : ∀ entry ∈ overrides, ∃ name id,
      parseOverrideNameEnumId S (fun _ => ()) entry.1 = .ok (name, id) := by
    intro entry he
    simp only [overrides, List.mem_cons, List.mem_singleton, List.not_mem_nil, or_false] at he
    rcases he with rfl | rfl <;> exact ⟨(), _, rfl⟩
  have h₀ : overrides.mapM (overrideRow S (fun _ => ())) = .ok
      [⟨"CertificatesPerDomain".toList, "a".toList, 1, 1, "10s".toList, []⟩,
       ⟨"CertificatesPerDomain".toList, "b".toList, 1, 1, "2s".toList, []⟩] := rfl
  refine ⟨h, DumpOverrides_sorted S (fun _ => ()) overrides h, ?_⟩
  rw [DumpOverrides_eq S _ h₀, ← eq_mergeSort_of_sorted (List.Perm.refl _) (by decide)]
  rfl

/-! ## The order of the map -/

/-- **The records do not depend on the iteration order.**  Two enumerations of an overrides
map whose keys all parse give the same records. -/
theorem DumpOverrides_perm {overrides overrides' : Limits Name} (hp : overrides.Perm overrides')
    (h : ∀ entry ∈ overrides, ∃ name id,
      parseOverrideNameEnumId S ofInt entry.1 = .ok (name, id)) :
    DumpOverrides S ofInt overrides = DumpOverrides S ofInt overrides' := by
  have hok : ∀ entry ∈ overrides, ∃ r, overrideRow S ofInt entry = .ok r := fun entry he =>
    let ⟨_, _, hn⟩ := h entry he; overrideRow_ok S ofInt hn
  rw [DumpOverrides_eq S ofInt (mapM_eq_ok_filterMap hok),
    DumpOverrides_eq S ofInt (mapM_eq_ok_filterMap fun entry he => hok entry (hp.mem_iff.2 he))]
  congr 3
  exact eq_mergeSort_of_sorted (((List.mergeSort_perm _ _).trans (hp.filterMap _)))
    (sorted_mergeSort_rows _)

/-- Two overrides of one name, ranged over in either order. -/
theorem DumpOverrides_perm_swap :
    let S : RateLib Unit Empty Empty :=
      ⟨fun _ => none, .text "", fun _ => "CertificatesPerDomain", fun _ => [], fun _ => true,
        fun _ _ => none, (), (), fun _ => none, (fun _ a => nomatch a), (fun p => nomatch p),
        fun _ => [], fun _ => ""⟩
    let a : GoString × Limit Unit := ("1:a".toList, ⟨1, 1, ⟨10000000000⟩, (), [], 0, 0, true⟩)
    let b : GoString × Limit Unit := ("1:b".toList, ⟨1, 1, ⟨2000000000⟩, (), [], 0, 0, true⟩)
    [a, b].Perm [b, a] ∧
      (∀ entry ∈ [a, b], ∃ name id,
        parseOverrideNameEnumId S (fun _ => ()) entry.1 = .ok (name, id)) ∧
      DumpOverrides S (fun _ => ()) [a, b] = DumpOverrides S (fun _ => ()) [b, a] := by
  intro S a b
  have h : ∀ entry ∈ [a, b], ∃ name id,
      parseOverrideNameEnumId S (fun _ => ()) entry.1 = .ok (name, id) := by
    intro entry he
    simp only [List.mem_cons, List.mem_singleton, List.not_mem_nil, or_false] at he
    rcases he with rfl | rfl <;> exact ⟨(), _, rfl⟩
  exact ⟨List.Perm.swap b a [], h, DumpOverrides_perm S _ (List.Perm.swap b a []) h⟩

/-! ## Dumping what the registry loads -/

/-- What the dump needs of the functions outside the sources, all true of Go's: `EnumString`
prints the 64-bit enum value `n` of a name (`strconv.Itoa(int(n))`), with `Name(n)` the name;
a name for which `validateIdForName` accepts some id is valid (`StringToName` also knows
`Unknown`, which is not valid, and `validateIdForName` rejects every id of it);
`validateIdForName` rejects the empty id; and the text of a prefix and the hash of identifiers
are not empty. -/
structure KeysLawful : Prop where
  enumString : ∀ k name, S.StringToName k = some name → ∃ n : Int,
    S.EnumString name = FormatInt n ∧ (-9223372036854775808 ≤ n ∧ n ≤ 9223372036854775807) ∧
      ofInt n = name
  isValid : ∀ name id, S.validateIdForName name id = none → S.isValid name = true
  emptyId : ∀ name, S.validateIdForName name [] ≠ none
  prefixString : ∀ pfx, S.PrefixString pfx ≠ []
  hashIdentifiers : ∀ values, S.HashIdentifiers values ≠ []

section Loaded

variable [DecidableEq Name] {S ofInt}

/-- `overrideId` keeps a non-empty id non-empty. -/
theorem overrideId_ne_nil (hlaw : KeysLawful S ofInt) {name : Name} {id₀ id : GoString}
    (h₀ : id₀ ≠ []) (h : overrideId S name id₀ = .ok id) : id ≠ [] := by
  unfold overrideId at h
  split_ifs at h
  · split at h
    · cases h; exact h₀
    · split at h
      · cases h
      · cases h; exact hlaw.prefixString _
  · cases h; exact hlaw.hashIdentifiers _
  · cases h; exact h₀

/-- Every key `parseOverrideLimits` writes parses back to the name and id it was built from. -/
theorem OverrideKey_parses (hlaw : KeysLawful S ofInt) {key : GoString}
    (hkey : OverrideKey S key) :
    ∃ name id, parseOverrideNameEnumId S ofInt key = .ok (name, id) ∧
      key = joinWithColon (S.EnumString name) id := by
  obtain ⟨k, name, id₀, id, hk, hv, hid, rfl⟩ := hkey
  obtain ⟨n, henum, hn, hname⟩ := hlaw.enumString k name hk
  have h₀ : id₀ ≠ [] := by rintro rfl; exact hlaw.emptyId name hv
  refine ⟨name, id, (parseOverrideNameEnumId_eq_ok_iff S ofInt _ name id).2 ?_, rfl⟩
  exact ⟨FormatInt n, n, by rw [henum]; rfl, colon_not_mem_FormatInt n, Atoi_FormatInt n hn,
    hname, hlaw.isValid name id₀ hv, overrideId_ne_nil hlaw h₀ hid⟩

/-- **The dump reads back every override the registry loads.**  Under `KeysLawful`, for all
defaults and overrides from which `newLimitRegistry` builds a registry, in every iteration order
of the maps, every key of its overrides map parses with `parseOverrideNameEnumId` into the name
and id that `joinWithColon` built it from, and `DumpOverrides` of the map succeeds. -/
theorem DumpOverrides_newLimitRegistry (hlaw : KeysLawful S ofInt) (defaults : LimitConfigs)
    (overrides : overridesYAML) (reg : limitRegistry Name)
    (h : newLimitRegistry S defaults overrides = .ok reg) :
    (∀ entry ∈ reg.overrides, ∃ name id,
      parseOverrideNameEnumId S ofInt entry.1 = .ok (name, id) ∧
        entry.1 = joinWithColon (S.EnumString name) id) ∧
    ∃ rows : List row,
      DumpOverrides S ofInt reg.overrides = .ok (dumpHeader :: rows.map row.record) := by
  obtain ⟨d, -, h⟩ := except_bind_eq_ok h
  obtain ⟨o, ho, h⟩ := except_bind_eq_ok h
  cases h
  have hkeys : ∀ entry ∈ o, ∃ name id,
      parseOverrideNameEnumId S ofInt entry.1 = .ok (name, id) ∧
        entry.1 = joinWithColon (S.EnumString name) id := fun entry he =>
    OverrideKey_parses hlaw (parseOverrideLimits_keys S ho entry he)
  refine ⟨hkeys, _, DumpOverrides_eq S ofInt (mapM_eq_ok_filterMap fun entry he => ?_)⟩
  obtain ⟨_, _, hp, -⟩ := hkeys entry he
  exact overrideRow_ok S ofInt hp

end Loaded

/-- Names are their enum integers: `Unknown` is 0 and not valid, `CertificatesPerDomain` is 5,
the valid ones are 1 to 9; one override of `CertificatesPerDomain` for the IPv6 prefix
`2001:db8::/48`. -/
theorem DumpOverrides_newLimitRegistry_ipv6 :
    let S : RateLib Int Empty Empty :=
      ⟨fun k => if k = "Unknown".toList then some 0
          else if k = "CertificatesPerDomain".toList then some 5 else none, .text "",
        fun n => if n = 5 then "CertificatesPerDomain" else "Unknown", FormatInt,
        fun n => decide (0 < n ∧ n < 10),
        fun n id => if ¬ (0 < n ∧ n < 10) then some (.other (.text "unknown limit enum"))
          else if id = [] then some (.other (.text "empty id")) else none, 5, 7,
        fun _ => none, (fun _ a => nomatch a), (fun p => nomatch p), fun _ => "h".toList,
        fun _ => ""⟩
    let overrides : overridesYAML := [[("CertificatesPerDomain".toList,
        ⟨⟨1, 20, ⟨3600000000000⟩⟩, [⟨"2001:db8::/48".toList, []⟩]⟩)]]
    KeysLawful S id ∧ ∃ reg, newLimitRegistry S [] overrides = .ok reg ∧
      (∀ entry ∈ reg.overrides, ∃ name id',
        parseOverrideNameEnumId S id entry.1 = .ok (name, id') ∧
          entry.1 = joinWithColon (S.EnumString name) id') ∧
      ∃ rows : List row,
        DumpOverrides S id reg.overrides = .ok (dumpHeader :: rows.map row.record) := by
  intro S overrides
  have hlaw : KeysLawful S id := by
    refine ⟨fun k name h => ?_, fun name id' h => ?_, fun name => ?_, (fun p => nomatch p),
      fun _ => List.cons_ne_nil _ _⟩
    · simp only [S] at h
      split_ifs at h <;> cases h <;> exact ⟨_, rfl, by decide, rfl⟩
    · simp only [S] at h
      split_ifs at h with h1
      exact decide_eq_true h1
    · simp only [S]
      split_ifs <;> simp
  obtain ⟨reg, h⟩ : ∃ reg, newLimitRegistry S [] overrides = .ok reg := ⟨_, rfl⟩
  exact ⟨hlaw, reg, h, DumpOverrides_newLimitRegistry hlaw [] overrides reg h⟩

end Boulder
