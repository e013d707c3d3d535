import Boulder.Core

/-!
# Identifier well-formedness (`policy/pa.go`)

Transcription of the syntax checks of the Policy Authority, in source order:

* `validNonWildcardDomain` — empty name, `*.` prefix, the byte filter `isDNSCharacter` (which
  admits upper case), length, IP syntax, trailing dot, label count; then, label by label,
  length, `dnsLabelCharacterRegexp`, hyphens at the ends and the R-LDH rule for `??--` labels;
  last the ICANN suffix.  Every check returns its own error;
* `ValidDomain` — the wildcard path: one `*`, only as the `*.` prefix, a base that is not an
  ICANN TLD and is a valid non-wildcard name;
* `ValidIP` — parse, canonical zone-free text, `iana.IsReservedAddr`;
* `combineSubErrors` and `WellFormedIdentifiers`.

The library calls (`netip`, `iana`, `idna`, `norm`) are not part of the repository: they are
the fields of `Lib`, a parameter of every definition.  `comLib` and `ipLib` are instances for
fixed cases; `ipLib` parses two IPv4 addresses, one of them reserved.

Principal results: `ValidDomain_bounds` — the lengths and label counts of an accepted name
(a wildcard carries two bytes and one label more than its base);
`WellFormedIdentifiers_eq_none_iff` — the validator accepts exactly the grammar
`WellFormed` (`NonWild` for names, canonical reserved-free text for addresses).
-/

set_option autoImplicit false

namespace Boulder

open Strings

/-- The library functions the policy code calls, with `netip.Addr` and `netip.Prefix`
abstract: `netip.ParseAddr`, `Addr.WithZone`, `Addr.String`, `Addr.Zone`,
`netip.ParsePrefix`, `Prefix.Contains`, `iana.ExtractSuffix`, `iana.IsReservedAddr`,
`idna.ToUnicode` and `norm.NFC.IsNormalString`.  A failed call is `none`. -/
structure Lib (Addr Prefix : Type) where
  ParseAddr : GoString → Option Addr
  WithZone : Addr → GoString → Addr
  AddrString : Addr → GoString
  Zone : Addr → GoString
  ParsePrefix : GoString → Option Prefix
  Contains : Prefix → Addr → Bool
  ExtractSuffix : GoString → Option GoString
  IsReservedAddr : Addr → Option GoError
  ToUnicode : GoString → Option GoString
  IsNormalString : GoString → Bool

/-- What `netip` guarantees about its text form: a zone-free address prints to a non-empty
text that parses back to it, removing an absent zone changes nothing, and a parse that
carries a zone never prints back, without it, to the text it came from. -/
structure Lib.Lawful {Addr Prefix : Type} (L : Lib Addr Prefix) : Prop where
  parse_string : ∀ a, L.Zone a = [] → L.ParseAddr (L.AddrString a) = some a
  string_ne_nil : ∀ a, L.AddrString a ≠ []
  withZone_self : ∀ a, L.Zone a = [] → L.WithZone a [] = a
  zone_of_parse : ∀ s a, L.ParseAddr s = some a → L.AddrString (L.WithZone a []) = s →
    L.Zone a = []

/-- An instance of the libraries for fixed cases: no text is an address or a prefix, and the
ICANN suffix of a name is `com` when it is `com` or ends in `.com`.  It agrees with `netip` and
`iana` on the names under `com` that the fixed cases use. -/
def comLib : Lib Empty Empty where
  ParseAddr _ := none
  WithZone a _ := a
  AddrString a := a.elim
  Zone a := a.elim
  ParsePrefix _ := none
  Contains a _ := a.elim
  ExtractSuffix s :=
    if HasSuffix s ['.', 'c', 'o', 'm'] || s == ['c', 'o', 'm'] then some ['c', 'o', 'm'] else none
  IsReservedAddr a := a.elim
  ToUnicode _ := none
  IsNormalString _ := true

theorem comLib_lawful : comLib.Lawful :=
  ⟨fun a => a.elim, fun a => a.elim, fun a => a.elim, fun _ a => a.elim⟩

/-- Two IPv4 addresses for fixed cases: `8.8.8.8`, public, and `10.0.0.1`, in the private block
`10.0.0.0/8` that `iana` reserves. -/
inductive ExampleAddr where
  | public8888
  | private10001
  deriving DecidableEq

/-- An instance of the libraries that parses the two `ExampleAddr` texts, zone-free, and
reserves `10.0.0.1`; it has no prefixes, and its suffixes are those of `comLib`. -/
def ipLib : Lib ExampleAddr Empty where
  ParseAddr s :=
    if s = "8.8.8.8".toList then some .public8888
    else if s = "10.0.0.1".toList then some .private10001 else none
  WithZone a _ := a
  AddrString
    | .public8888 => "8.8.8.8".toList
    | .private10001 => "10.0.0.1".toList
  Zone _ := []
  ParsePrefix _ := none
  Contains p _ := p.elim
  ExtractSuffix := comLib.ExtractSuffix
  IsReservedAddr
    | .public8888 => none
    | .private10001 => some (.other (.text "IP address is in a reserved address block"))
  ToUnicode _ := none
  IsNormalString _ := true

theorem ipLib_lawful : ipLib.Lawful where
  parse_string a _ := by cases a <;> decide
  string_ne_nil a := by cases a <;> decide
  withZone_self _ _ := rfl
  zone_of_parse _ _ _ _ := rfl

variable {Addr Prefix : Type} (L : Lib Addr Prefix)

/-! ## Constants and errors -/

/-- `maxLabels`. -/
def maxLabels : Nat := 10

/-- `maxLabelLength`. -/
def maxLabelLength : Nat := 63

/-- `maxDNSIdentifierLength`. -/
def maxDNSIdentifierLength : Nat := 253

/-- A `berrors.MalformedError` with a fixed detail. -/
def malformed (detail : String) : GoError := .boulder (MalformedError (.text detail))

/-- A `berrors.RejectedIdentifierError` with a fixed detail. -/
def rejected (detail : String) : GoError := .boulder (RejectedIdentifierError (.text detail))

def errNonPublic : GoError := malformed "Domain name does not end with a valid public suffix (TLD)"
def errICANNTLD : GoError := malformed "Domain name is an ICANN TLD"
def errPolicyForbidden : GoError :=
  rejected "The ACME server refuses to issue a certificate for this domain name, because it is forbidden by policy"
def errInvalidDNSCharacter : GoError := malformed "Domain name contains an invalid character"
def errNameTooLong : GoError := malformed "Domain name is longer than 253 bytes"
def errIPAddressInDNS : GoError := malformed "Identifier type is DNS but value is an IP address"
def errIPInvalid : GoError := malformed "IP address is invalid"
def errTooManyLabels : GoError := malformed "Domain name has more than 10 labels (parts)"
def errEmptyIdentifier : GoError := malformed "Identifier value (name) is empty"
def errNameEndsInDot : GoError := malformed "Domain name ends in a dot"
def errTooFewLabels : GoError := malformed "Domain name needs at least one dot"
def errLabelTooShort : GoError := malformed "Domain name can not have two dots in a row"
def errLabelTooLong : GoError :=
  malformed "Domain has a label (component between dots) longer than 63 bytes"
def errMalformedIDN : GoError := malformed "Domain name contains malformed punycode"
def errInvalidRLDH : GoError :=
  rejected "Domain name contains an invalid label in a reserved format (R-LDH: '??--')"
def errTooManyWildcards : GoError := malformed "Domain name has more than one wildcard"
def errMalformedWildcard : GoError :=
  malformed "Domain name contains an invalid wildcard. A wildcard is only permitted before the first dot in a domain name"
def errICANNTLDWildcard : GoError := malformed "Domain name is a wildcard for an ICANN TLD"
def errWildcardNotSupported : GoError := malformed "Wildcard domain names are not supported"
def errUnsupportedIdent : GoError := malformed "Invalid identifier type"

/-! ## Domain names -/

/-- `isDNSCharacter`. -/
def isDNSCharacter (ch : Char) : Bool :=
  ('a' ≤ ch && ch ≤ 'z') || ('A' ≤ ch && ch ≤ 'Z') || ('0' ≤ ch && ch ≤ '9') ||
    ch == '.' || ch == '-'

/-- A byte of the class `[a-z0-9-]`. -/
def isLabelCharacter (ch : Char) : Bool :=
  ('a' ≤ ch && ch ≤ 'z') || ('0' ≤ ch && ch ≤ '9') || ch == '-'

/-- `dnsLabelCharacterRegexp.MatchString`, for `^[a-z0-9-]+$`. -/
def dnsLabelCharacterRegexp (label : GoString) : Bool :=
  !label.isEmpty && label.all isLabelCharacter

/-- The body of the label loop of `validNonWildcardDomain`. -/
def validLabel (label : GoString) : Option GoError :=
  if label.length < 1 then some errLabelTooShort
  else if label.length > maxLabelLength then some errLabelTooLong
  else if !dnsLabelCharacterRegexp label then some errInvalidDNSCharacter
  else if label.head? = some '-' ∨ label.getLast? = some '-' then some errInvalidDNSCharacter
  else if label.length ≥ 4 ∧ (label.drop 2).take 2 = ['-', '-'] then
    if label.take 2 ≠ ['x', 'n'] then some errInvalidRLDH
    else match L.ToUnicode label with
      | none => some errMalformedIDN
      | some ulabel => if !L.IsNormalString ulabel then some errMalformedIDN else none
  else none

/-- `validNonWildcardDomain`. -/
def validNonWildcardDomain (domain : GoString) : Option GoError :=
  if domain = [] then some errEmptyIdentifier
  else if HasPrefix domain ['*', '.'] then some errWildcardNotSupported
  else if !domain.all isDNSCharacter then some errInvalidDNSCharacter
  else if domain.length > maxDNSIdentifierLength then some errNameTooLong
  else if (L.ParseAddr domain).isSome then some errIPAddressInDNS
  else if HasSuffix domain ['.'] then some errNameEndsInDot
  else if (Split domain '.').length > maxLabels then some errTooManyLabels
  else if (Split domain '.').length < 2 then some errTooFewLabels
  else match (Split domain '.').findSome? (validLabel L) with
    | some err => some err
    | none => match L.ExtractSuffix domain with
      | none => some errNonPublic
      | some icannTLD => if icannTLD = domain then some errICANNTLD else none

/-- `ValidDomain`. -/
def ValidDomain (domain : GoString) : Option GoError :=
  if Count domain '*' ≤ 0 then validNonWildcardDomain L domain
  else if Count domain '*' > 1 then some errTooManyWildcards
  else if !HasPrefix domain ['*', '.'] then some errMalformedWildcard
  else
    let baseDomain := TrimPrefix domain ['*', '.']
    match L.ExtractSuffix baseDomain with
    | none => some errNonPublic
    | some icannTLD =>
      if baseDomain = icannTLD then some errICANNTLDWildcard
      else validNonWildcardDomain L baseDomain

/-- `ValidIP`. -/
def ValidIP (ip : GoString) : Option GoError :=
  if ip = [] then some errEmptyIdentifier
  else match L.ParseAddr ip with
    | none => some errIPInvalid
    | some parsedIP =>
      if L.AddrString (L.WithZone parsedIP []) ≠ ip then some errIPInvalid
      else L.IsReservedAddr parsedIP

/-! ## Identifier lists -/

/-- `combineSubErrors`: no error, the single error re-wrapped, or a `RejectedIdentifier`
error carrying every sub-error. -/
def combineSubErrors : List SubBoulderError → Option BoulderError
  | [] => none
  | [s] => some (RejectedIdentifierError (.sprintf "Cannot issue for %q: %s"
      [.str s.1.value, s.2.detail]))
  | s :: rest => some ((BoulderError.mk .RejectedIdentifier
      (.sprintf "Cannot issue for %q: %s (and %d more problems. Refer to sub-problems for more information.)"
        [.str s.1.value, s.2.detail, .text (toString rest.length)]) []).WithSubErrors (s :: rest))

/-- The body of the loop of `WellFormedIdentifiers`: the sub-error of one identifier. -/
def wellFormedSubError (ident : ACMEIdentifier) : Option SubBoulderError :=
  if ident.type = TypeDNS then (ValidDomain L ident.value).map (subError ident)
  else if ident.type = TypeIP then (ValidIP L ident.value).map (subError ident)
  else some (subError ident errUnsupportedIdent)

/-- `WellFormedIdentifiers`. -/
def WellFormedIdentifiers (idents : List ACMEIdentifier) : Option BoulderError :=
  combineSubErrors (idents.filterMap (wellFormedSubError L))

/-! ## What the validators accept -/

theorem R_LDH_length {label : GoString} (h : (label.drop 2).take 2 = ['-', '-']) :
    4 ≤ label.length := by
  have := congrArg List.length h
  simp only [List.length_take, List.length_drop, List.length_cons, List.length_nil] at this
  omega

theorem validLabel_eq_none_iff (label : GoString) :
    validLabel L label = none ↔
      1 ≤ label.length ∧ label.length ≤ maxLabelLength ∧ dnsLabelCharacterRegexp label = true ∧
      label.head? ≠ some '-' ∧ label.getLast? ≠ some '-' ∧
      ((label.drop 2).take 2 = ['-', '-'] →
        label.take 2 = ['x', 'n'] ∧ ∃ u, L.ToUnicode label = some u ∧ L.IsNormalString u = true) := by
  unfold validLabel
  by_cases hr : (label.drop 2).take 2 = ['-', '-']
  · have h4 := R_LDH_length hr
    by_cases hx : label.take 2 = ['x', 'n']
    · cases hu : L.ToUnicode label <;>
        simp [hr, h4, hx, hu, not_or, and_assoc, Nat.one_le_iff_ne_zero]
    · simp [hr, hx, h4, not_or, Nat.one_le_iff_ne_zero]
  · simp [hr, not_or, and_assoc, Nat.one_le_iff_ne_zero]

/-- `validNonWildcardDomain` returns `nil` iff every one of its checks passes. -/
theorem validNonWildcardDomain_eq_none (d : GoString) :
    validNonWildcardDomain L d = none ↔
      d ≠ [] ∧ HasPrefix d ['*', '.'] = false ∧ d.all isDNSCharacter = true ∧
      d.length ≤ maxDNSIdentifierLength ∧ L.ParseAddr d = none ∧ HasSuffix d ['.'] = false ∧
      (Split d '.').length ≤ maxLabels ∧ 2 ≤ (Split d '.').length ∧
      (∀ l ∈ Split d '.', validLabel L l = none) ∧ ∃ s, L.ExtractSuffix d = some s ∧ s ≠ d := by
  unfold validNonWildcardDomain
  cases hf : (Split d '.').findSome? (validLabel L) with
  | some err =>
    have : ¬ ∀ l ∈ Split d '.', validLabel L l = none := by
      rw [← List.findSome?_eq_none_iff, hf]; simp
    simp [this]
  | none =>
    rw [List.findSome?_eq_none_iff] at hf
    cases he : L.ExtractSuffix d <;>
      simp [iff_true_intro hf, he, Option.isSome_iff_ne_none, not_lt]

/-- A byte of `[a-z0-9.-]`. -/
def isLowerDNSByte (ch : Char) : Bool :=
  ('a' ≤ ch && ch ≤ 'z') || ('0' ≤ ch && ch ≤ '9') || ch == '.' || ch == '-'

/-- `NonWild(x)`: the grammar of a non-wildcard name, clause by clause. -/
structure NonWild (x : GoString) : Prop where
  bytes : ∀ ch ∈ x, isLowerDNSByte ch = true
  length_le : x.length ≤ 253
  not_ip : L.ParseAddr x = none
  labels_ge : 2 ≤ (Split x '.').length
  labels_le : (Split x '.').length ≤ 10
  label_length : ∀ l ∈ Split x '.', 1 ≤ l.length ∧ l.length ≤ 63
  label_hyphen : ∀ l ∈ Split x '.', l.head? ≠ some '-' ∧ l.getLast? ≠ some '-'
  rldh : ∀ l ∈ Split x '.', (l.drop 2).take 2 = ['-', '-'] →
    l.take 2 = ['x', 'n'] ∧ ∃ u, L.ToUnicode l = some u ∧ L.IsNormalString u = true
  suffix : ∃ s, L.ExtractSuffix x = some s ∧ s ≠ x

theorem isLabelCharacter_iff (ch : Char) :
    isLabelCharacter ch = true ↔ isLowerDNSByte ch = true ∧ ch ≠ '.' := by
  by_cases h : ch = '.'
  · subst h; decide
  · simp [isLabelCharacter, isLowerDNSByte, h]

theorem isDNSCharacter_of_isLowerDNSByte {ch : Char} (h : isLowerDNSByte ch = true) :
    isDNSCharacter ch = true := by
  simp only [isLowerDNSByte, isDNSCharacter, Bool.or_eq_true] at h ⊢
  tauto

theorem dnsLabelCharacterRegexp_iff (l : GoString) :
    dnsLabelCharacterRegexp l = true ↔ l ≠ [] ∧ ∀ ch ∈ l, isLabelCharacter ch = true := by
  simp [dnsLabelCharacterRegexp]

/-- The byte filter admits upper case, but the per-label expression then rejects it: together
they accept exactly `NonWild`. -/
theorem validNonWildcardDomain_eq_none_iff (d : GoString) :
    validNonWildcardDomain L d = none ↔ NonWild L d := by
  simp only [validNonWildcardDomain_eq_none, validLabel_eq_none_iff, dnsLabelCharacterRegexp_iff]
  constructor
  · rintro ⟨-, -, -, hlen, hip, -, hle, hge, hlab, hs⟩
    have hch := (forall_mem_Split d).1 fun l hl => (hlab l hl).2.2.1.2
    refine ⟨fun ch hc => ?_, hlen, hip, hge, hle, fun l hl => ⟨(hlab l hl).1, (hlab l hl).2.1⟩,
      fun l hl => ⟨(hlab l hl).2.2.2.1, (hlab l hl).2.2.2.2.1⟩, fun l hl => (hlab l hl).2.2.2.2.2,
      hs⟩
    by_cases hd : ch = '.'
    · subst hd; rfl
    · exact ((isLabelCharacter_iff ch).1 (hch ch hc hd)).1
  · intro h
    have hch : ∀ l ∈ Split d '.', ∀ ch ∈ l, isLabelCharacter ch = true :=
      (forall_mem_Split d).2 fun ch hc hd => (isLabelCharacter_iff ch).2 ⟨h.bytes ch hc, hd⟩
    refine ⟨?_, ?_, List.all_eq_true.2 fun ch hc => isDNSCharacter_of_isLowerDNSByte (h.bytes ch hc),
      h.length_le, h.not_ip, ?_, h.labels_le, h.labels_ge, fun l hl => ⟨(h.label_length l hl).1,
      (h.label_length l hl).2, ⟨fun e => by simpa [e] using (h.label_length l hl).1, hch l hl⟩,
      (h.label_hyphen l hl).1, (h.label_hyphen l hl).2, h.rldh l hl⟩, h.suffix⟩
    · rintro rfl; simpa using h.labels_ge
    · cases hp : HasPrefix d ['*', '.']
      · rfl
      · obtain ⟨t, rfl⟩ := HasPrefix_iff.1 hp
        exact absurd (h.bytes '*' (by simp)) (by decide)
    · cases hs : HasSuffix d ['.']
      · rfl
      · simpa using (h.label_length [] (nil_mem_Split_of_HasSuffix hs)).1


theorem Count_star_dot {b : GoString} (hb : '*' ∉ b) : Count ('*' :: '.' :: b) '*' = 1 := by
  simp [Count, List.count_cons, List.count_eq_zero_of_not_mem hb]

/-- The cases of an accepted name: no `*` and a valid name, or `*.` and a valid base that is
not an ICANN suffix. -/
theorem ValidDomain_eq_none_iff (d : GoString) :
    ValidDomain L d = none ↔
      ('*' ∉ d ∧ validNonWildcardDomain L d = none) ∨
      ∃ b, d = '*' :: '.' :: b ∧ '*' ∉ b ∧ (∃ s, L.ExtractSuffix b = some s ∧ b ≠ s) ∧
        validNonWildcardDomain L b = none := by
  unfold ValidDomain
  by_cases h0 : Count d '*' ≤ 0
  · have hd : '*' ∉ d := Count_eq_zero.1 (by omega)
    rw [if_pos h0]
    constructor
    · exact fun h => .inl ⟨hd, h⟩
    · rintro (⟨-, h⟩ | ⟨b, rfl, -⟩)
      · exact h
      · simp at hd
  · rw [if_neg h0]
    by_cases hw : ∃ b, d = '*' :: '.' :: b ∧ '*' ∉ b
    · obtain ⟨b, rfl, hb⟩ := hw
      have hp : HasPrefix ('*' :: '.' :: b) ['*', '.'] = true := HasPrefix_append ['*', '.'] b
      have ht : TrimPrefix ('*' :: '.' :: b) ['*', '.'] = b := TrimPrefix_append ['*', '.'] b
      cases hs : L.ExtractSuffix b with
      | none => simp [Count_star_dot hb, hp, ht, hs]
      | some s =>
        by_cases hbs : b = s
        · subst hbs; simp [Count_star_dot hb, hp, ht, hs, hb]
        · simp [Count_star_dot hb, hp, ht, hs, hbs, hb]
    · have hne : ¬ ('*' ∉ d) := fun hd => h0 (by simp [Count, List.count_eq_zero_of_not_mem hd])
      have hrhs : ¬ (('*' ∉ d ∧ validNonWildcardDomain L d = none) ∨
          ∃ b, d = '*' :: '.' :: b ∧ '*' ∉ b ∧ (∃ s, L.ExtractSuffix b = some s ∧ b ≠ s) ∧
            validNonWildcardDomain L b = none) := by
        rintro (⟨hd, -⟩ | ⟨b, hdb, hb, -⟩)
        · exact hne hd
        · exact hw ⟨b, hdb, hb⟩
      simp only [hrhs, iff_false]
      split_ifs with h1 h2
      · simp
      · simp
      · exfalso
        obtain ⟨b, rfl⟩ := HasPrefix_iff.1 (by simpa using h2)
        have hc : Count ['*', '.'] '*' = 1 := rfl
        rw [Count_append, hc] at h1
        exact hw ⟨b, rfl, Count_eq_zero.1 (by omega)⟩

/-- **Length and label bounds.**  An accepted name without `*` has at most 253 bytes and 10
labels; an accepted wildcard `*.b` has a base `b` within those bounds, and so two bytes and one
label more than it. -/
theorem ValidDomain_bounds (d : GoString) (h : ValidDomain L d = none) :
    ('*' ∉ d ∧ d.length ≤ maxDNSIdentifierLength ∧ (Split d '.').length ≤ maxLabels) ∨
    ∃ b, d = '*' :: '.' :: b ∧ b.length ≤ maxDNSIdentifierLength ∧
      (Split b '.').length ≤ maxLabels ∧ d.length = b.length + 2 ∧
      (Split d '.').length = (Split b '.').length + 1 := by
  rcases (ValidDomain_eq_none_iff L d).1 h with ⟨hd, hv⟩ | ⟨b, rfl, -, -, hv⟩
  · have hc := (validNonWildcardDomain_eq_none L d).1 hv
    exact .inl ⟨hd, hc.2.2.2.1, hc.2.2.2.2.2.2.1⟩
  · have hc := (validNonWildcardDomain_eq_none L b).1 hv
    exact .inr ⟨b, rfl, hc.2.2.2.1, hc.2.2.2.2.2.2.1, rfl, by simp [Split_star_dot]⟩

/-- A wildcard of three labels, within the bounds. -/
theorem ValidDomain_bounds_wildcard :
    ValidDomain comLib "*.example.com".toList = none ∧
    (('*' ∉ "*.example.com".toList ∧ "*.example.com".toList.length ≤ maxDNSIdentifierLength ∧
        (Split "*.example.com".toList '.').length ≤ maxLabels) ∨
      ∃ b, "*.example.com".toList = '*' :: '.' :: b ∧ b.length ≤ maxDNSIdentifierLength ∧
        (Split b '.').length ≤ maxLabels ∧ "*.example.com".toList.length = b.length + 2 ∧
        (Split "*.example.com".toList '.').length = (Split b '.').length + 1) :=
  have h : ValidDomain comLib "*.example.com".toList = none := by
    simp only [← Option.isNone_iff_eq_none]; decide
  ⟨h, ValidDomain_bounds comLib _ h⟩

set_option maxRecDepth 20000 in
/-- A wildcard over a base of 253 bytes has 255 bytes, and one over a base of 10 labels has 11. -/
theorem ValidDomain_wildcard_over_limits :
    ValidDomain comLib ('*' :: '.' :: (List.replicate 63 'a' ++ '.' :: List.replicate 63 'a' ++
      '.' :: List.replicate 63 'a' ++ '.' :: List.replicate 57 'a' ++ ".com".toList)) = none ∧
    maxDNSIdentifierLength < ('*' :: '.' :: (List.replicate 63 'a' ++ '.' :: List.replicate 63 'a' ++
      '.' :: List.replicate 63 'a' ++ '.' :: List.replicate 57 'a' ++ ".com".toList)).length ∧
    ValidDomain comLib "*.a.b.c.d.e.f.g.h.i.com".toList = none ∧
    maxLabels < (Split "*.a.b.c.d.e.f.g.h.i.com".toList '.').length := by
  simp only [← Option.isNone_iff_eq_none]
  decide

/-! ## Identifier lists -/

/-- The well-formed DNS values: a name without `*` in `NonWild`, or `*.` followed by one. -/
def DNSWellFormed (d : GoString) : Prop :=
  ('*' ∉ d ∧ NonWild L d) ∨ ∃ b, d = '*' :: '.' :: b ∧ '*' ∉ b ∧ NonWild L b

/-- The well-formed identifiers: a `dns` value in `DNSWellFormed`, or an `ip` value that is the
text of a zone-free address that `iana.IsReservedAddr` accepts. -/
def WellFormed (ident : ACMEIdentifier) : Prop :=
  (ident.type = TypeDNS ∧ DNSWellFormed L ident.value) ∨
  (ident.type = TypeIP ∧
    ∃ a, L.Zone a = [] ∧ L.AddrString a = ident.value ∧ L.IsReservedAddr a = none)

theorem ValidDomain_eq_none_iff_DNSWellFormed (d : GoString) :
    ValidDomain L d = none ↔ DNSWellFormed L d := by
  simp only [ValidDomain_eq_none_iff, DNSWellFormed, validNonWildcardDomain_eq_none_iff]
  constructor
  · rintro (h | ⟨b, rfl, hb, -, h⟩)
    · exact .inl h
    · exact .inr ⟨b, rfl, hb, h⟩
  · rintro (h | ⟨b, rfl, hb, h⟩)
    · exact .inl h
    · obtain ⟨s, hs, hsb⟩ := h.suffix
      exact .inr ⟨b, rfl, hb, ⟨s, hs, Ne.symm hsb⟩, h⟩

theorem ValidIP_eq_none_iff (hL : L.Lawful) (ip : GoString) :
    ValidIP L ip = none ↔ ∃ a, L.Zone a = [] ∧ L.AddrString a = ip ∧ L.IsReservedAddr a = none := by
  unfold ValidIP
  constructor
  · intro h
    by_cases hip : ip = []
    · simp [hip] at h
    rw [if_neg hip] at h
    cases hp : L.ParseAddr ip with
    | none => simp [hp] at h
    | some a =>
      by_cases hs : L.AddrString (L.WithZone a []) = ip
      · have hz := hL.zone_of_parse ip a hp hs
        simp only [hp, hs, ne_eq, not_true_eq_false, if_false] at h
        exact ⟨a, hz, by rwa [hL.withZone_self a hz] at hs, h⟩
      · simp [hp, hs] at h
  · rintro ⟨a, hz, rfl, hr⟩
    simp [hL.string_ne_nil, hL.parse_string a hz, hL.withZone_self a hz, hr]

/-- An address that `ValidIP` accepts parses. -/
theorem ValidIP_parse {ip : GoString} (h : ValidIP L ip = none) : ∃ a, L.ParseAddr ip = some a := by
  unfold ValidIP at h
  cases hp : L.ParseAddr ip with
  | none => simp [hp] at h
  | some a => exact ⟨a, rfl⟩

theorem combineSubErrors_eq_none_iff (l : List SubBoulderError) :
    combineSubErrors l = none ↔ l = [] := by
  match l with
  | [] => simp [combineSubErrors]
  | [_] => simp [combineSubErrors]
  | _ :: _ :: _ => simp [combineSubErrors]

theorem wellFormedSubError_eq_none_iff (hL : L.Lawful) (ident : ACMEIdentifier) :
    wellFormedSubError L ident = none ↔ WellFormed L ident := by
  unfold wellFormedSubError WellFormed
  by_cases hd : ident.type = TypeDNS
  · simp [hd, TypeDNS_ne_TypeIP, ValidDomain_eq_none_iff_DNSWellFormed]
  · by_cases hi : ident.type = TypeIP
    · simp [hd, hi, TypeDNS_ne_TypeIP.symm, ValidIP_eq_none_iff L hL]
    · simp [hd, hi]

/-- **The validator accepts exactly the grammar.**  `WellFormedIdentifiers` returns `nil` iff
every identifier is well-formed. -/
theorem WellFormedIdentifiers_eq_none_iff (hL : L.Lawful) (idents : List ACMEIdentifier) :
    WellFormedIdentifiers L idents = none ↔ ∀ ident ∈ idents, WellFormed L ident := by
  simp [WellFormedIdentifiers, combineSubErrors_eq_none_iff, wellFormedSubError_eq_none_iff L hL]

/-- A wildcard name and an address, under libraries that parse the address. -/
theorem WellFormedIdentifiers_eq_none_iff_example :
    ipLib.Lawful ∧
    (WellFormedIdentifiers ipLib [⟨TypeDNS, "*.example.com".toList⟩, ⟨TypeIP, "8.8.8.8".toList⟩] =
        none ↔
      ∀ ident ∈ [⟨TypeDNS, "*.example.com".toList⟩, ⟨TypeIP, "8.8.8.8".toList⟩],
        WellFormed ipLib ident) :=
  ⟨ipLib_lawful, WellFormedIdentifiers_eq_none_iff ipLib ipLib_lawful _⟩

end Boulder
