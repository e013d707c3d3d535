import Boulder.Policy.Domain

/-!
# The `issuedNames` encoding (`sa/model.go`)

`addIssuedNames` stores, for each name of a certificate, its labels in reverse order, and for
each IP address its text.  Two functions compute those keys:

* `reverseFQDN` — `strings.Split` on `.`, the swap loop reversing the labels, `strings.Join`;
* `EncodeIssuedName` — for a string of either type: the text of the address when
  `netip.ParseAddr` accepts it, and `reverseFQDN` otherwise.

Principal results: `reverseFQDN_involutive_and_suffix_prefix` — for all strings, `reverseFQDN`
is its own inverse and turns "`d` is `p` or ends with `.p`" into "`reverseFQDN d` is
`reverseFQDN p` or starts with `reverseFQDN p + "."`"; `EncodeIssuedName_wellFormed` — on every
identifier the Policy Authority accepts, `EncodeIssuedName` is the encoding of its type.
-/

set_option autoImplicit false

namespace Boulder

open Strings

/-- `reverseFQDN`.  The loop swapping `labels[i]` and `labels[j]` while `i < j` reverses the
labels. -/
def reverseFQDN (fqdn : GoString) : GoString :=
  Join (Split fqdn '.').reverse '.'

variable {Addr Prefix : Type} (L : Lib Addr Prefix)

/-- `EncodeIssuedName`. -/
def EncodeIssuedName (name : GoString) : GoString :=
  match L.ParseAddr name with
  | some netIP => L.AddrString netIP
  | none => reverseFQDN name

/-! ## Reversing the labels -/

/-- The labels of `reverseFQDN d` are those of `d`, reversed. -/
theorem Split_reverseFQDN (d : GoString) : Split (reverseFQDN d) '.' = (Split d '.').reverse :=
  Split_Join (fun _ hl => not_mem_of_mem_Split (List.mem_reverse.1 hl))
    (by simp [Split_ne_nil])

theorem reverseFQDN_reverseFQDN (d : GoString) : reverseFQDN (reverseFQDN d) = d := by
  rw [reverseFQDN, Split_reverseFQDN, List.reverse_reverse, Join_Split]

example : reverseFQDN "www.example.com".toList = "com.example.www".toList := by decide

/-- A label-wise suffix match becomes a label-wise prefix match: `d` ends with `.p` iff
`reverseFQDN d` starts with `reverseFQDN p` and a dot. -/
theorem HasSuffix_iff_HasPrefix_reverseFQDN (d p : GoString) :
    HasSuffix d ('.' :: p) = true ↔ HasPrefix (reverseFQDN d) (reverseFQDN p ++ ['.']) = true := by
  have hpre : HasPrefix (reverseFQDN d) (reverseFQDN p ++ ['.']) = true ↔
      ∃ y, reverseFQDN d = reverseFQDN p ++ '.' :: y := by
    simp only [HasPrefix_iff, List.append_assoc, List.singleton_append]
  rw [HasSuffix_iff, hpre, exists_append_sep_iff, exists_sep_append_iff, Split_reverseFQDN,
    Split_reverseFQDN]
  constructor
  · rintro ⟨X, hX, h⟩
    exact ⟨X.reverse, by simpa using hX, by rw [h, List.reverse_append]⟩
  · rintro ⟨Y, hY, h⟩
    exact ⟨Y.reverse, by simpa using hY,
      by rw [List.reverse_eq_append_iff.1 h, List.reverse_reverse]⟩

/-- **`reverseFQDN` is decodable and turns suffix queries into prefix queries.**  For all
strings `d` and `p`, with empty labels and leading or trailing dots included: reversing twice
gives `d` back, and `d` is `p` or a label-wise subdomain of it (ends with `.p`) iff
`reverseFQDN d` is `reverseFQDN p` or starts with `reverseFQDN p + "."`. -/
theorem reverseFQDN_involutive_and_suffix_prefix (d p : GoString) :
    reverseFQDN (reverseFQDN d) = d ∧
      ((d = p ∨ HasSuffix d ('.' :: p) = true) ↔
        (reverseFQDN d = reverseFQDN p ∨
          HasPrefix (reverseFQDN d) (reverseFQDN p ++ ['.']) = true)) := by
  have hinj : reverseFQDN d = reverseFQDN p ↔ d = p :=
    ⟨fun h => by rw [← reverseFQDN_reverseFQDN d, h, reverseFQDN_reverseFQDN], congrArg _⟩
  exact ⟨reverseFQDN_reverseFQDN d, by rw [hinj, HasSuffix_iff_HasPrefix_reverseFQDN]⟩

/-! ## Identifiers of either type -/

/-- **`EncodeIssuedName` agrees with the encoding of each type.**  On every identifier that
`WellFormedIdentifiers` accepts, `EncodeIssuedName` of the value is the value itself for an IP
address and `reverseFQDN` of it for a DNS name, wildcards included.  It rests on `netip`'s text
form (`Lib.Lawful`) and on `netip.ParseAddr` rejecting every text that starts with `*` (its
first `.` sends it to the IPv4 parser, which admits only digits and dots). -/
theorem EncodeIssuedName_wellFormed (hL : L.Lawful) (hwild : ∀ s, L.ParseAddr ('*' :: s) = none)
    (ident : ACMEIdentifier) (h : wellFormedSubError L ident = none) :
    EncodeIssuedName L ident.value =
      if ident.type = TypeIP then ident.value else reverseFQDN ident.value := by
  rcases (wellFormedSubError_eq_none_iff L hL ident).1 h with ⟨hd, hw⟩ | ⟨hi, a, hz, ha, -⟩
  · have hp : L.ParseAddr ident.value = none := by
      rcases hw with ⟨-, hn⟩ | ⟨b, hb, -, -⟩
      · exact hn.not_ip
      · rw [hb]; exact hwild _
    rw [if_neg (hd ▸ TypeDNS_ne_TypeIP), EncodeIssuedName, hp]
  · rw [if_pos hi, EncodeIssuedName, ← ha, hL.parse_string a hz]

/-- The wildcard `*.example.com` under the libraries of `comLib`. -/
theorem EncodeIssuedName_wellFormed_wildcard :
    comLib.Lawful ∧ (∀ s, comLib.ParseAddr ('*' :: s) = none) ∧
      wellFormedSubError comLib ⟨TypeDNS, "*.example.com".toList⟩ = none ∧
      EncodeIssuedName comLib "*.example.com".toList =
        if TypeDNS = TypeIP then "*.example.com".toList
        else reverseFQDN "*.example.com".toList :=
  have h : wellFormedSubError comLib ⟨TypeDNS, "*.example.com".toList⟩ = none := by
    simp only [← Option.isNone_iff_eq_none]; decide
  ⟨comLib_lawful, fun _ => rfl, h,
    EncodeIssuedName_wellFormed comLib comLib_lawful (fun _ => rfl) _ h⟩

end Boulder
