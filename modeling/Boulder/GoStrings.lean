import Mathlib.Data.List.Basic

/-!
# Go strings as byte lists

A Go `string` is a sequence of bytes.  It is modelled as the list of its bytes, each byte as
the `Char` with that code, so that `len(s)` is `List.length`.  The calls of the `strings`
package made by `policy/pa.go` and `sa/model.go` all use a one-byte separator or a fixed
prefix, and are transcribed here:

* `strings.Count(s, "*")`, `strings.HasPrefix`, `strings.HasSuffix`, `strings.TrimPrefix`;
* `strings.Split(s, ".")` — `List.splitOn`: `Split("", ".") = [""]`, and a string with `n`
  dots splits into `n + 1` parts;
* `strings.Join(ls, ".")` — `List.intercalate`;
* `strings.SplitN(s, ".", 2)` — the text before the first dot and the rest, or `[s]`.

Principal results: `Join_drop_Split_iff` — the label-wise suffixes
`Join(Split(v, ".")[i:], ".")` of `v` are exactly `v` and the texts after each dot of `v`;
`Split_star_dot` — a wildcard `*.b` splits into `"*"` and the labels of `b`.
-/

set_option autoImplicit false

namespace Boulder

/-- A Go `string`: its bytes. -/
abbrev GoString := List Char

namespace Strings

/-- `strings.Count(s, string(c))` for a one-byte `c`. -/
def Count (s : GoString) (c : Char) : Nat := s.count c

/-- `strings.HasPrefix`. -/
def HasPrefix (s p : GoString) : Bool := p.isPrefixOf s

/-- `strings.HasSuffix`. -/
def HasSuffix (s p : GoString) : Bool := p.isSuffixOf s

/-- `strings.TrimPrefix`. -/
def TrimPrefix (s p : GoString) : GoString := if HasPrefix s p then s.drop p.length else s

/-- `strings.Split(s, string(c))`. -/
def Split (s : GoString) (c : Char) : List GoString := s.splitOn c

/-- `strings.Join(ls, string(c))`. -/
def Join (ls : List GoString) (c : Char) : GoString := [c].intercalate ls

/-- `strings.SplitN(s, string(c), 2)`. -/
def SplitN2 (s : GoString) (c : Char) : List GoString :=
  match s.dropWhile (· ≠ c) with
  | [] => [s]
  | _ :: rest => [s.takeWhile (· ≠ c), rest]

/-! ## Prefixes and counts -/

@[simp] theorem HasPrefix_append (p s : GoString) : HasPrefix (p ++ s) p = true := by
  simp [HasPrefix, List.isPrefixOf_iff_prefix]

theorem HasPrefix_iff {s p : GoString} : HasPrefix s p = true ↔ ∃ t, s = p ++ t := by
  rw [HasPrefix, List.isPrefixOf_iff_prefix]
  exact ⟨fun ⟨t, ht⟩ => ⟨t, ht.symm⟩, fun ⟨t, ht⟩ => ⟨t, ht.symm⟩⟩

@[simp] theorem TrimPrefix_append (p s : GoString) : TrimPrefix (p ++ s) p = s := by
  simp [TrimPrefix]

theorem HasSuffix_iff {s p : GoString} : HasSuffix s p = true ↔ ∃ t, s = t ++ p := by
  rw [HasSuffix, List.isSuffixOf_iff_suffix]
  exact ⟨fun ⟨t, ht⟩ => ⟨t, ht.symm⟩, fun ⟨t, ht⟩ => ⟨t, ht.symm⟩⟩

@[simp] theorem Count_append (s t : GoString) (c : Char) :
    Count (s ++ t) c = Count s c + Count t c := List.count_append _ _ _

theorem Count_eq_zero {s : GoString} {c : Char} : Count s c = 0 ↔ c ∉ s := List.count_eq_zero

/-! ## `Split` and `Join` -/

@[simp] theorem Split_nil (c : Char) : Split [] c = [[]] := rfl

theorem Split_cons_sep (c : Char) (s : GoString) : Split (c :: s) c = [] :: Split s c := by
  simp [Split, List.splitOn, List.splitOnP_cons]

theorem Split_cons_ne {a c : Char} (h : a ≠ c) (s : GoString) :
    Split (a :: s) c = (Split s c).modifyHead (a :: ·) := by
  simp [Split, List.splitOn, List.splitOnP_cons, h]

@[simp] theorem Split_ne_nil (s : GoString) (c : Char) : Split s c ≠ [] :=
  List.splitOnP_ne_nil _ _

@[simp] theorem Join_Split (s : GoString) (c : Char) : Join (Split s c) c = s :=
  List.intercalate_splitOn s c

/-- `Join` inverts `Split` on the non-empty lists of parts without a separator. -/
theorem Split_Join {ls : List GoString} {c : Char} (h : ∀ l ∈ ls, c ∉ l) (hne : ls ≠ []) :
    Split (Join ls c) c = ls :=
  List.splitOn_intercalate ls c h hne

@[simp] theorem Join_singleton (x : GoString) (c : Char) : Join [x] c = x := by
  simp [Join, List.intercalate]

theorem Join_cons_cons (x y : GoString) (ys : List GoString) (c : Char) :
    Join (x :: y :: ys) c = x ++ c :: Join (y :: ys) c := by
  simp [Join, List.intercalate, List.intersperse_cons_cons]

theorem Join_append {X Y : List GoString} (hX : X ≠ []) (hY : Y ≠ []) (c : Char) :
    Join (X ++ Y) c = Join X c ++ c :: Join Y c := by
  obtain ⟨y, ys, rfl⟩ := List.exists_cons_of_ne_nil hY
  induction X with
  | nil => exact absurd rfl hX
  | cons x X ih =>
    cases X with
    | nil => rw [Join_singleton]; exact Join_cons_cons x y ys c
    | cons x' X =>
      rw [List.cons_append, List.cons_append, Join_cons_cons, ← List.cons_append,
        ih (List.cons_ne_nil _ _), Join_cons_cons]
      simp only [List.cons_append, List.append_assoc]

theorem Split_append_sep (s t : GoString) (c : Char) :
    Split (s ++ c :: t) c = Split s c ++ Split t c := by
  induction s with
  | nil => simp [Split_cons_sep]
  | cons a s ih =>
    by_cases h : a = c
    · subst h; simp [Split_cons_sep, ih]
    · obtain ⟨l, ls, hl⟩ := List.exists_cons_of_ne_nil (Split_ne_nil s c)
      simp [Split_cons_ne h, ih, hl]

theorem Split_of_not_mem {s : GoString} {c : Char} (h : c ∉ s) : Split s c = [s] :=
  List.splitOnP_eq_single _ _ fun _ hx hxc => h (beq_iff_eq.1 hxc ▸ hx)

theorem Split_star_dot (b : GoString) : Split ('*' :: '.' :: b) '.' = ['*'] :: Split b '.' := by
  simpa [Split_of_not_mem] using Split_append_sep ['*'] b '.'

theorem length_drop_succ_modifyHead {α : Type} (f : α → α) (l : List α) (i : Nat) :
    (l.modifyHead f).drop (i + 1) = l.drop (i + 1) := by
  cases l <;> rfl

/-- Every byte of every part of `Split(s, c)` is a byte of `s` other than `c`, and back. -/
theorem forall_mem_Split {c : Char} {P : Char → Prop} (s : GoString) :
    (∀ l ∈ Split s c, ∀ ch ∈ l, P ch) ↔ ∀ ch ∈ s, ch ≠ c → P ch := by
  induction s with
  | nil => simp
  | cons a s ih =>
    by_cases h : a = c
    · subst h; simp [Split_cons_sep, ih]
    · obtain ⟨l, ls, hl⟩ := List.exists_cons_of_ne_nil (Split_ne_nil s c)
      rw [hl] at ih
      simp only [Split_cons_ne h, hl, List.modifyHead_cons, List.mem_cons, forall_eq_or_imp] at ih ⊢
      rw [and_assoc, ih]
      simp [h]

theorem not_mem_of_mem_Split {s l : GoString} {c : Char} (h : l ∈ Split s c) : c ∉ l :=
  fun hc => (forall_mem_Split (P := (· ≠ c)) s).2 (fun _ _ h => h) l h c hc rfl

theorem nil_mem_Split_of_HasSuffix {s : GoString} {c : Char} (h : HasSuffix s [c] = true) :
    [] ∈ Split s c := by
  obtain ⟨t, rfl⟩ := HasSuffix_iff.1 h
  simp [Split_append_sep]

/-- The suffixes after a dot: `Join(labels[i+1:])` for `i + 1 < len(labels)`. -/
theorem Join_drop_succ_Split_iff (s h : GoString) (c : Char) :
    (∃ i, i + 1 < (Split s c).length ∧ Join ((Split s c).drop (i + 1)) c = h) ↔
      ∃ x, s = x ++ c :: h := by
  induction s with
  | nil => simp
  | cons a s ih =>
    by_cases hac : a = c
    · subst hac
      simp only [Split_cons_sep, List.length_cons, List.drop_succ_cons, Nat.add_lt_add_iff_right]
      constructor
      · rintro ⟨i | i, hi, rfl⟩
        · exact ⟨[], by simp⟩
        · obtain ⟨x, hx⟩ := ih.1 ⟨i, hi, rfl⟩
          exact ⟨a :: x, congrArg (List.cons a) hx⟩
      · rintro ⟨_ | ⟨b, x⟩, hx⟩
        · simp only [List.nil_append, List.cons.injEq, true_and] at hx
          subst hx
          exact ⟨0, List.length_pos.2 (Split_ne_nil _ _), by simp⟩
        · simp only [List.cons_append, List.cons.injEq] at hx
          obtain ⟨i, hi, hj⟩ := ih.2 ⟨x, hx.2⟩
          exact ⟨i + 1, by omega, hj⟩
    · simp only [Split_cons_ne hac, List.length_modifyHead, length_drop_succ_modifyHead, ih]
      constructor
      · rintro ⟨x, rfl⟩; exact ⟨a :: x, rfl⟩
      · rintro ⟨_ | ⟨b, x⟩, hx⟩
        · exact absurd (List.cons.inj hx).1 hac
        · exact ⟨x, (List.cons.inj hx).2⟩

/-- **Label-wise suffixes.**  `Join(Split(s, ".")[i:], ".")`, for `i < len(Split(s, "."))`,
ranges exactly over `s` and the texts that follow a dot of `s`. -/
theorem Join_drop_Split_iff (s h : GoString) (c : Char) :
    (∃ i, i < (Split s c).length ∧ Join ((Split s c).drop i) c = h) ↔
      h = s ∨ ∃ x, s = x ++ c :: h := by
  rw [← Join_drop_succ_Split_iff]
  constructor
  · rintro ⟨_ | i, hi, rfl⟩
    · exact .inl (by simp)
    · exact .inr ⟨i, hi, rfl⟩
  · rintro (rfl | ⟨i, hi, rfl⟩)
    · exact ⟨0, List.length_pos.2 (Split_ne_nil _ _), by simp⟩
    · exact ⟨i + 1, hi, rfl⟩

/-! ## Texts around a separator -/

theorem eq_Join_of_Split_eq_append {s : GoString} {c : Char} {X Y : List GoString}
    (h : Split s c = X ++ Y) (hX : X ≠ []) (hY : Y ≠ []) : s = Join X c ++ c :: Join Y c := by
  rw [← Join_append hX hY, ← h, Join_Split]

/-- `s` ends with `c` followed by `t` iff the parts of `s` end with the parts of `t`, after at
least one part of its own. -/
theorem exists_append_sep_iff (s t : GoString) (c : Char) :
    (∃ x, s = x ++ c :: t) ↔ ∃ X ≠ [], Split s c = X ++ Split t c := by
  constructor
  · rintro ⟨x, rfl⟩
    exact ⟨Split x c, Split_ne_nil x c, Split_append_sep x t c⟩
  · rintro ⟨X, hX, h⟩
    exact ⟨Join X c, by rw [eq_Join_of_Split_eq_append h hX (Split_ne_nil t c), Join_Split]⟩

/-- `s` starts with `t` followed by `c` iff the parts of `s` start with the parts of `t`,
before at least one part of its own. -/
theorem exists_sep_append_iff (s t : GoString) (c : Char) :
    (∃ y, s = t ++ c :: y) ↔ ∃ Y ≠ [], Split s c = Split t c ++ Y := by
  constructor
  · rintro ⟨y, rfl⟩
    exact ⟨Split y c, Split_ne_nil y c, Split_append_sep t y c⟩
  · rintro ⟨Y, hY, h⟩
    exact ⟨Join Y c, by rw [eq_Join_of_Split_eq_append h (Split_ne_nil t c) hY, Join_Split]⟩

/-! ## `SplitN` -/

/-- A string splits at most once at its first separator. -/
theorem first_sep_unique {c : Char} :
    ∀ {p q r t : GoString}, c ∉ p → c ∉ q → p ++ c :: r = q ++ c :: t → p = q ∧ r = t
  | [], [], _, _, _, _, h => by simpa using h
  | [], b :: q, _, _, _, hq, h => absurd (List.cons.inj h).1 fun e => hq (e ▸ List.mem_cons_self _ _)
  | a :: p, [], _, _, hp, _, h => absurd (List.cons.inj h).1 fun e => hp (e ▸ List.mem_cons_self _ _)
  | a :: p, b :: q, _, _, hp, hq, h => by
    obtain ⟨rfl, h'⟩ := List.cons.inj h
    obtain ⟨rfl, rfl⟩ := first_sep_unique (fun m => hp (List.mem_cons_of_mem _ m))
      (fun m => hq (List.mem_cons_of_mem _ m)) h'
    exact ⟨rfl, rfl⟩

/-- `SplitN(s, c, 2)` is `[s]` when `s` has no `c`, and otherwise the text before the first `c`
and the text after it. -/
theorem SplitN2_cases (s : GoString) (c : Char) :
    (c ∉ s ∧ SplitN2 s c = [s]) ∨
      ∃ pre rest, s = pre ++ c :: rest ∧ c ∉ pre ∧ SplitN2 s c = [pre, rest] := by
  unfold SplitN2
  cases hd : s.dropWhile (fun x => decide (x ≠ c)) with
  | nil =>
    refine .inl ⟨fun hc => ?_, rfl⟩
    simpa using List.dropWhile_eq_nil_iff.1 hd c hc
  | cons x rest =>
    have hx : x = c := by
      have := List.head?_dropWhile_not (fun x => decide (x ≠ c)) s
      rw [hd] at this
      simpa using this
    subst hx
    refine .inr ⟨s.takeWhile _, rest, ?_, fun hc => by simpa using List.mem_takeWhile_imp hc, rfl⟩
    rw [← hd, List.takeWhile_append_dropWhile]

/-- The string the separator splits off first, whatever follows. -/
theorem SplitN2_append {pre : GoString} {c : Char} (h : c ∉ pre) (rest : GoString) :
    SplitN2 (pre ++ c :: rest) c = [pre, rest] := by
  rcases SplitN2_cases (pre ++ c :: rest) c with ⟨hn, -⟩ | ⟨p, r, he, hp, hs⟩
  · simp at hn
  · obtain ⟨rfl, rfl⟩ := first_sep_unique h hp he
    exact hs

/-! ## Comparison -/

/-- Go's `a < b` on strings: the first differing byte decides, and a proper prefix comes
first. -/
def Less : GoString → GoString → Bool
  | [], [] => false
  | [], _ :: _ => true
  | _ :: _, [] => false
  | a :: s, b :: t => if a = b then Less s t else decide (a < b)

theorem char_lt_or_gt_of_ne {a b : Char} (h : a ≠ b) : a < b ∨ b < a := by
  have hv : a.val.toBitVec.toNat ≠ b.val.toBitVec.toNat := fun e =>
    h (Char.ext (UInt32.eq_of_toBitVec_eq (BitVec.eq_of_toNat_eq e)))
  simp only [Char.lt_def, UInt32.lt_def, BitVec.lt_def]
  omega

@[simp] theorem Less_self : ∀ s : GoString, Less s s = false
  | [] => rfl
  | a :: s => by simp [Less, Less_self s]

theorem Less_trans : ∀ {s t u : GoString}, Less s t → Less t u → Less s u
  | [], _ :: _, _ :: _, _, _ => rfl
  | a :: s, b :: t, c :: u, h₁, h₂ => by
    simp only [Less] at h₁ h₂ ⊢
    by_cases hab : a = b <;> by_cases hbc : b = c
    · subst hab hbc; simp only [if_true] at *; exact Less_trans h₁ h₂
    · subst hab; simp_all
    · subst hbc; simp_all
    · simp only [hab, hbc, if_false, decide_eq_true_eq] at h₁ h₂
      have := Char.lt_trans h₁ h₂
      simp [Char.ne_of_lt this, this]
  | [], [], _, h, _ => nomatch h
  | _ :: _, [], _, h, _ => nomatch h
  | _, _ :: _, [], _, h => by cases ‹GoString› <;> simp [Less] at *

theorem Less_total : ∀ {s t : GoString}, s ≠ t → Less s t ∨ Less t s
  | [], [], h => absurd rfl h
  | [], _ :: _, _ => .inl rfl
  | _ :: _, [], _ => .inr rfl
  | a :: s, b :: t, h => by
    simp only [Less]
    by_cases hab : a = b
    · subst hab
      simpa using Less_total (fun e => h (congrArg (a :: ·) e))
    · rcases char_lt_or_gt_of_ne hab with hl | hl
      · simp [hab, hl]
      · simp [Ne.symm hab, hab, hl]

end Strings

/-! ## `strconv` -/

/-- `strconv.Atoi`: an optional sign and one or more decimal digits, in the range of a 64-bit
`int`; `none` for its error. -/
def Atoi (s : GoString) : Option Int :=
  let (neg, digits) : Bool × GoString :=
    match s with
    | '-' :: ds => (true, ds)
    | '+' :: ds => (false, ds)
    | ds => (false, ds)
  if digits = [] ∨ !digits.all Char.isDigit then none
  else
    let n : Nat := digits.foldl (fun n ch => 10 * n + (ch.toNat - '0'.toNat)) 0
    let v : Int := if neg then -n else n
    if -9223372036854775808 ≤ v ∧ v ≤ 9223372036854775807 then some v else none

example : Atoi "-42".toList = some (-42) ∧ Atoi "+7".toList = some 7 ∧ Atoi "4x".toList = none ∧
    Atoi "9223372036854775808".toList = none := by decide

/-- `strconv.FormatInt(i, 10)`. -/
def FormatInt (i : Int) : GoString := (toString i).toList

/-! ### Reading back a formatted integer -/

/-- The decimal digits `Nat.digitChar` gives: digit characters worth their value. -/
theorem digitChar_ten : ∀ d : Fin 10,
    (Nat.digitChar d).isDigit = true ∧ (Nat.digitChar d).toNat - '0'.toNat = d := by
  decide

/-- With enough fuel, `toDigitsCore 10` puts in front of `ds` a non-empty run of decimal digits
that the loop of `Atoi` reads back as `n`. -/
theorem toDigitsCore_ten : ∀ (fuel n : Nat) (ds : List Char), n < fuel →
    ∃ D, Nat.toDigitsCore 10 fuel n ds = D ++ ds ∧ D ≠ [] ∧ D.all Char.isDigit = true ∧
      D.foldl (fun n ch => 10 * n + (ch.toNat - '0'.toNat)) 0 = n
  | 0, n, _, h => absurd h (Nat.not_lt_zero n)
  | fuel + 1, n, ds, h => by
    obtain ⟨hdig, hval⟩ : (Nat.digitChar (n % 10)).isDigit = true ∧
        (Nat.digitChar (n % 10)).toNat - '0'.toNat = n % 10 :=
      digitChar_ten ⟨n % 10, Nat.mod_lt n (by decide)⟩
    have hstep : Nat.toDigitsCore 10 (fuel + 1) n ds =
        if n / 10 = 0 then Nat.digitChar (n % 10) :: ds
        else Nat.toDigitsCore 10 fuel (n / 10) (Nat.digitChar (n % 10) :: ds) := rfl
    rw [hstep]
    split_ifs with h0
    · exact ⟨[Nat.digitChar (n % 10)], rfl, List.cons_ne_nil _ _, by simpa using hdig,
        by simp only [List.foldl_cons, List.foldl_nil, hval]; omega⟩
    · obtain ⟨D, hD, hne, hall, hfold⟩ :=
        toDigitsCore_ten fuel (n / 10) (Nat.digitChar (n % 10) :: ds) (by omega)
      refine ⟨D ++ [Nat.digitChar (n % 10)], by simp [hD], by simp, by simp [hall, hdig], ?_⟩
      simp only [List.foldl_append, hfold, List.foldl_cons, List.foldl_nil, hval]
      omega

/-- `FormatInt n` is a `-` when `n` is negative, then the digits of `|n|`. -/
theorem FormatInt_eq_digits (n : Int) :
    ∃ D, FormatInt n = (if decide (n < 0) then ['-'] else []) ++ D ∧ D ≠ [] ∧
      D.all Char.isDigit = true ∧
      D.foldl (fun n ch => 10 * n + (ch.toNat - '0'.toNat)) 0 = n.natAbs := by
  cases n with
  | ofNat m =>
    obtain ⟨D, hD, hne, hall, hval⟩ := toDigitsCore_ten (m + 1) m [] (Nat.lt_succ_self m)
    refine ⟨D, ?_, hne, hall, hval⟩
    rw [decide_eq_false (show ¬Int.ofNat m < 0 from Int.not_lt.2 (Int.ofNat_nonneg m)),
      ← List.append_nil D, ← hD]
    rfl
  | negSucc m =>
    obtain ⟨D, hD, hne, hall, hval⟩ := toDigitsCore_ten (m + 2) (m + 1) [] (Nat.lt_succ_self _)
    refine ⟨D, ?_, hne, hall, hval⟩
    rw [decide_eq_true (Int.negSucc_lt_zero m), ← List.append_nil D, ← hD]
    rfl

/-- `Atoi` of a non-empty run of digits, unsigned or after a `-`: its value, when it fits. -/
theorem Atoi_digits {D : GoString} (hne : D ≠ []) (hall : D.all Char.isDigit = true)
    (neg : Bool) :
    Atoi ((if neg then ['-'] else []) ++ D) =
      let n : Nat := D.foldl (fun n ch => 10 * n + (ch.toNat - '0'.toNat)) 0
      let v : Int := if neg then -n else n
      if -9223372036854775808 ≤ v ∧ v ≤ 9223372036854775807 then some v else none := by
  obtain ⟨c, rest, rfl⟩ := List.exists_cons_of_ne_nil hne
  have hc : c.isDigit = true := (List.all_eq_true.1 hall) c (List.mem_cons_self _ _)
  cases neg
  · have hm : c ≠ '-' := by rintro rfl; exact absurd hc (by decide)
    have hp : c ≠ '+' := by rintro rfl; exact absurd hc (by decide)
    have hsign : Atoi.match_1 (fun _ => Bool × GoString) (c :: rest) (fun ds => (true, ds))
        (fun ds => (false, ds)) (fun ds => (false, ds)) = (false, c :: rest) := by
      split <;> simp_all
    simp only [Atoi, Bool.false_eq_true, if_false, List.nil_append, hsign]
    simp [hall]
  · simp [Atoi, hall]

/-- **`strconv.Atoi` reads back `strconv.FormatInt(n, 10)`** for every 64-bit `n`. -/
theorem Atoi_FormatInt (n : Int)
    (h : -9223372036854775808 ≤ n ∧ n ≤ 9223372036854775807) : Atoi (FormatInt n) = some n := by
  obtain ⟨D, hf, hne, hall, hval⟩ := FormatInt_eq_digits n
  have hv : (if decide (n < 0) = true then -(n.natAbs : Int) else n.natAbs) = n := by
    by_cases hn : n < 0
    · rw [if_pos (decide_eq_true hn)]; omega
    · rw [if_neg fun h => hn (of_decide_eq_true h)]; omega
  rw [hf, Atoi_digits hne hall]
  simp only [hval, hv]
  exact if_pos h

example : Atoi (FormatInt (-9223372036854775808)) = some (-9223372036854775808) ∧
    Atoi (FormatInt 9223372036854775808) = none := by decide

/-- A formatted integer has no `:`. -/
theorem colon_not_mem_FormatInt (n : Int) : ':' ∉ FormatInt n := by
  obtain ⟨D, hf, -, hall, -⟩ := FormatInt_eq_digits n
  rw [hf, List.mem_append]
  rintro (h | h)
  · split at h <;> simp at h
  · exact absurd (List.all_eq_true.1 hall _ h) (by decide)

/-- A formatted integer is not empty. -/
theorem FormatInt_ne_nil (n : Int) : FormatInt n ≠ [] := by
  obtain ⟨D, hf, hne, -⟩ := FormatInt_eq_digits n
  rw [hf]
  exact fun h => hne (List.append_eq_nil.1 h).2

end Boulder
