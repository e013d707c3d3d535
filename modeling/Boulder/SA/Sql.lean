import Boulder.GoStrings
import Boulder.Time

/-!
# The `WHERE` clauses the storage authority sends

What a `SELECT … WHERE e` means, for the fragment of SQL that `sa` builds its conditions from:
comparisons `col = ?`, `col >= ?`, `col <= ?`, lists `col IN (?, …, ?)`, the literals `TRUE`
and `FALSE`, `AND`, `OR` and parentheses.  This is the database's side of the interface, the
meaning the query builders are checked against:

* `tokenize` — words, the placeholder `?`, parentheses and commas; blanks separate words;
* `parseExpr` — SQL precedence: a condition is split at the `OR`s outside parentheses, each part
  at its `AND`s, and each piece is one comparison or a parenthesized condition;
* `Expr.eval` — three-valued logic, `none` standing for `NULL`, with the placeholders bound to
  the arguments in the order they occur in the text;
* `evalCond` — a condition with its arguments: its value, or `none` when the text is not a
  condition of the fragment or there is not exactly one argument per placeholder.

Texts compare by exact equality (`SqlValue.cmp`): the model assumes a binary collation on the
compared text columns.  Under MySQL's default collations `=` on texts ignores case and trailing
spaces, which this model does not.

Principal results: `tokenizeAux_append` — text glued at a delimiter tokenizes piecewise — and the
`splitTop` lemmas, which say where a condition is split.
-/

set_option autoImplicit false

namespace Boulder

namespace Sql

/-! ## Tokens -/

/-- A token. -/
inductive Tok where
  | word (w : String)
  | qmark
  | lparen
  | rparen
  | comma
  deriving DecidableEq, Repr

/-- The token of a punctuation character. -/
def punct : Char → Option Tok
  | '?' => some .qmark
  | '(' => some .lparen
  | ')' => some .rparen
  | ',' => some .comma
  | _ => none

/-- A blank between tokens. -/
def isBlank (c : Char) : Bool := c == ' ' || c == '\n' || c == '\t'

/-- A character that ends a word. -/
def isDelim (c : Char) : Bool := isBlank c || (punct c).isSome

/-- The word read so far, as tokens. -/
def flush : List Char → List Tok
  | [] => []
  | w => [.word (String.mk w)]

/-- The tokens of `cs`, after the word `w` read so far. -/
def tokenizeAux : List Char → List Char → List Tok
  | w, [] => flush w
  | w, c :: cs =>
    if isBlank c then flush w ++ tokenizeAux [] cs
    else match punct c with
      | some t => flush w ++ t :: tokenizeAux [] cs
      | none => tokenizeAux (w ++ [c]) cs

/-- The tokens of a statement. -/
def tokenize (s : String) : List Tok := tokenizeAux [] s.toList

/-! ## Conditions -/

/-- A condition of the fragment. -/
inductive Expr where
  | lit (b : Bool)
  | cmp (col op : String)
  | inList (col : String) (n : Nat)
  | and (a b : Expr)
  | or (a b : Expr)
  deriving DecidableEq, Repr

/-- The open parentheses after a token. -/
def depthStep (depth : Nat) : Tok → Nat
  | .lparen => depth + 1
  | .rparen => depth - 1
  | _ => depth

/-- The pieces of a token list between the tokens `sep` outside parentheses; `depth` counts the
open parentheses and `cur` is the current piece. -/
def splitTop (sep : Tok) : Nat → List Tok → List Tok → List (List Tok)
  | _, cur, [] => [cur]
  | depth, cur, t :: ts =>
    if t = sep ∧ depth = 0 then cur :: splitTop sep 0 [] ts
    else splitTop sep (depthStep depth t) (cur ++ [t]) ts

/-- The placeholders of `?, …, ?)`. -/
def parseQmarks : List Tok → Option Nat
  | [.qmark, .rparen] => some 1
  | .qmark :: .comma :: rest => (· + 1) <$> parseQmarks rest
  | _ => none

/-- One comparison, or a parenthesized condition, parsed by `sub`. -/
def parseAtom (sub : List Tok → Option Expr) : List Tok → Option Expr
  | [.word "FALSE"] => some (.lit false)
  | [.word "TRUE"] => some (.lit true)
  | [.word col, .word op, .qmark] =>
    if op = "=" ∨ op = ">=" ∨ op = "<=" then some (.cmp col op) else none
  | .word col :: .word "IN" :: .lparen :: rest => (.inList col) <$> parseQmarks rest
  | .lparen :: rest => if rest.getLast? = some .rparen then sub rest.dropLast else none
  | _ => none

/-- The pieces parsed by `p` and joined by `mk`, left to right. -/
def parseJoin (mk : Expr → Expr → Expr) (p : List Tok → Option Expr) :
    List (List Tok) → Option Expr
  | [] => none
  | t :: ts => do
    let e ← p t
    ts.foldlM (fun acc t => mk acc <$> p t) e

/-- A condition: its `OR`s bind weakest, then its `AND`s.  The fuel bounds the nesting of
parentheses. -/
def parseExpr : Nat → List Tok → Option Expr
  | 0, _ => none
  | fuel + 1, toks =>
    parseJoin .or
      (fun d => parseJoin .and (parseAtom (parseExpr fuel)) (splitTop (.word "AND") 0 [] d))
      (splitTop (.word "OR") 0 [] toks)

/-- The placeholders of a condition. -/
def Expr.arity : Expr → Nat
  | .lit _ => 0
  | .cmp _ _ => 1
  | .inList _ n => n
  | .and a b => a.arity + b.arity
  | .or a b => a.arity + b.arity

/-! ## Values -/

/-- A value a statement binds or a column holds. -/
inductive SqlValue where
  | int (i : Int)
  | text (s : GoString)
  | time (t : Time)

/-- `a op b` on two non-`NULL` values: `=`, `>=` and `<=` on integers and on times (by instant),
`=` on texts, as exact equality (a binary collation).  Other comparisons do not occur in the
statements modelled. -/
def SqlValue.cmp : String → SqlValue → SqlValue → Option Bool
  | "=", .int a, .int b => some (decide (a = b))
  | "=", .text a, .text b => some (decide (a = b))
  | "=", .time a, .time b => some (decide (a.toNanos = b.toNanos))
  | ">=", .int a, .int b => some (decide (b ≤ a))
  | ">=", .time a, .time b => some (decide (b.toNanos ≤ a.toNanos))
  | "<=", .int a, .int b => some (decide (a ≤ b))
  | "<=", .time a, .time b => some (decide (a.toNanos ≤ b.toNanos))
  | _, _, _ => none

@[simp] theorem SqlValue.cmp_int_eq (a b : Int) :
    SqlValue.cmp "=" (.int a) (.int b) = some (decide (a = b)) := rfl

@[simp] theorem SqlValue.cmp_text_eq (a b : GoString) :
    SqlValue.cmp "=" (.text a) (.text b) = some (decide (a = b)) := rfl

@[simp] theorem SqlValue.cmp_time_le (a b : Time) :
    SqlValue.cmp "<=" (.time a) (.time b) = some (decide (a.toNanos ≤ b.toNanos)) := rfl

/-- Three-valued `AND`. -/
def and3 : Option Bool → Option Bool → Option Bool
  | some false, _ => some false
  | _, some false => some false
  | some true, some true => some true
  | _, _ => none

/-- Three-valued `OR`. -/
def or3 : Option Bool → Option Bool → Option Bool
  | some true, _ => some true
  | _, some true => some true
  | some false, some false => some false
  | _, _ => none

/-- `x IN (vs)`: `TRUE` if `x` equals one of `vs`, `FALSE` if it differs from all of them. -/
def inList3 (x : Option SqlValue) (vs : List SqlValue) : Option Bool :=
  x.bind fun x => vs.foldl (fun acc v => or3 acc (x.cmp "=" v)) (some false)

/-- A row: the value of each column, `none` for `NULL`. -/
abbrev Row := String → Option SqlValue

/-- The value of a condition on a row, with its placeholders bound to `args` in textual order,
and the arguments left over.  `AND` and `OR` bind their left operand's placeholders first. -/
def Expr.eval (row : Row) : Expr → List SqlValue → Option Bool × List SqlValue
  | .lit b, args => (some b, args)
  | .cmp col op, args => ((row col).bind fun v => args.head?.bind (v.cmp op), args.tail)
  | .inList col n, args => (inList3 (row col) (args.take n), args.drop n)
  | .and a b, args =>
    let x := a.eval row args
    let y := b.eval row x.2
    (and3 x.1 y.1, y.2)
  | .or a b, args =>
    let x := a.eval row args
    let y := b.eval row x.2
    (or3 x.1 y.1, y.2)

/-- A condition's text with its arguments, on a row: its value, or `none` when the text is not a
condition of the fragment or the arguments are not one per placeholder. -/
def evalCond (toks : List Tok) (args : List SqlValue) (row : Row) : Option (Option Bool) := do
  let e ← parseExpr (toks.length + 1) toks
  if e.arity = args.length then some (e.eval row args).1 else none

/-- The tokens after the first `WHERE` of a statement with no placeholder before it. -/
def whereTokens : List Tok → Option (List Tok)
  | [] => none
  | t :: rest =>
    if t = .word "WHERE" then some rest else if t = .qmark then none else whereTokens rest

/-! ## Tokenizing glued text -/

theorem isDelim_cases {d : Char} (hd : isDelim d = true) :
    isBlank d = true ∨ isBlank d = false ∧ ∃ t, punct d = some t := by
  cases hbl : isBlank d
  · simpa [isDelim, hbl, Option.isSome_iff_exists] using hd
  · exact .inl rfl

/-- A delimiter ends the word before it. -/
theorem tokenizeAux_delim {d : Char} (hd : isDelim d = true) (w cs : List Char) :
    tokenizeAux w (d :: cs) = flush w ++ tokenizeAux [] [d] ++ tokenizeAux [] cs := by
  rcases isDelim_cases hd with hbl | ⟨hbl, t, ht⟩
  · simp [tokenizeAux, hbl, flush]
  · simp [tokenizeAux, hbl, ht, flush]

/-- Text glued before a delimiter tokenizes piecewise. -/
theorem tokenizeAux_append (b : List Char) (hb : ∀ c ∈ b.head?, isDelim c = true) :
    ∀ (w a : List Char), tokenizeAux w (a ++ b) = tokenizeAux w a ++ tokenizeAux [] b
  | w, [] => by
    cases b with
    | nil => simp [tokenizeAux, flush]
    | cons d bs =>
      have hd := hb d rfl
      rw [List.nil_append, tokenizeAux_delim hd, tokenizeAux_delim hd [] bs]
      simp [tokenizeAux, flush]
  | w, c :: a => by
    simp only [List.cons_append, tokenizeAux, List.append_eq]
    split
    · rw [tokenizeAux_append b hb [] a, List.append_assoc]
    · split
      · rw [tokenizeAux_append b hb [] a]; simp
      · exact tokenizeAux_append b hb _ a

/-- Text glued after a delimiter tokenizes piecewise. -/
theorem tokenize_append_of_last (s t : String)
    (hs : ∀ c ∈ s.toList.getLast?, isDelim c = true) :
    tokenize (s ++ t) = tokenize s ++ tokenize t := by
  show tokenizeAux [] (s.toList ++ t.toList) = tokenizeAux [] s.toList ++ tokenizeAux [] t.toList
  rcases List.eq_nil_or_concat s.toList with ha | ⟨a, d, ha⟩
  · rw [ha]; rfl
  have hd : isDelim d = true := hs d (by rw [ha]; simp)
  have hd' : ∀ c ∈ (d :: t.toList).head?, isDelim c = true := by simpa using hd
  rw [ha, List.concat_eq_append, List.append_assoc, List.singleton_append,
    tokenizeAux_append _ hd',
    tokenizeAux_append [d] (by simpa using hd), tokenizeAux_delim hd]
  simp [flush, tokenizeAux]

/-- Text glued before a delimiter tokenizes piecewise. -/
theorem tokenize_append_of_head (s t : String)
    (ht : ∀ c ∈ t.toList.head?, isDelim c = true) :
    tokenize (s ++ t) = tokenize s ++ tokenize t :=
  tokenizeAux_append t.toList ht [] s.toList

/-! ## Where a condition is split -/

/-- No `)` of `xs` closes a parenthesis not opened after depth `e`. -/
def NoUnderflow : Nat → List Tok → Prop
  | _, [] => True
  | e, t :: ts => (t = .rparen → 0 < e) ∧ NoUnderflow (depthStep e t) ts

/-- Balanced parentheses. -/
def Balanced (xs : List Tok) : Prop := NoUnderflow 0 xs ∧ xs.foldl depthStep 0 = 0

theorem splitTop_sep (sep : Tok) (cur ts : List Tok) :
    splitTop sep 0 cur (sep :: ts) = cur :: splitTop sep 0 [] ts := by
  simp [splitTop]

/-- A stretch with no separator joins the current piece. -/
theorem splitTop_append {sep : Tok} :
    ∀ {xs : List Tok} (d : Nat) (cur ys : List Tok), (∀ t ∈ xs, t ≠ sep) →
      splitTop sep d cur (xs ++ ys) = splitTop sep (xs.foldl depthStep d) (cur ++ xs) ys
  | [], _, _, _, _ => by simp
  | t :: xs, d, cur, ys, h => by
    rw [List.cons_append, splitTop, if_neg fun h' => h t (List.mem_cons_self _ _) h'.1,
      splitTop_append _ _ _ fun t' ht' => h t' (List.mem_cons_of_mem _ ht')]
    simp

theorem depthStep_add {e : Nat} {t : Tok} (h : t = .rparen → 0 < e) (d : Nat) :
    depthStep (d + e) t = d + depthStep e t := by
  cases t <;> simp [depthStep] at h ⊢ <;> omega

/-- A stretch inside parentheses joins the current piece, separators included. -/
theorem splitTop_append_nested (sep : Tok) :
    ∀ {xs : List Tok} {e : Nat} (d : Nat) (cur ys : List Tok), NoUnderflow e xs →
      splitTop sep (d + 1 + e) cur (xs ++ ys) =
        splitTop sep (d + 1 + xs.foldl depthStep e) (cur ++ xs) ys
  | [], _, _, _, _, _ => by simp
  | t :: xs, e, d, cur, ys, ⟨ht, hxs⟩ => by
    rw [List.cons_append, splitTop, if_neg (by omega), depthStep_add ht,
      splitTop_append_nested sep d _ _ hxs]
    simp

theorem NoUnderflow.append {e : Nat} :
    ∀ {xs ys : List Tok}, NoUnderflow e xs → NoUnderflow (xs.foldl depthStep e) ys →
      NoUnderflow e (xs ++ ys)
  | [], _, _, h => h
  | _ :: _, _, ⟨ht, hxs⟩, hys => ⟨ht, NoUnderflow.append hxs hys⟩

/-- A list without parentheses keeps the depth. -/
theorem noUnderflow_of_flat (e : Nat) :
    ∀ {xs : List Tok}, (∀ t ∈ xs, t ≠ .lparen ∧ t ≠ .rparen) →
      NoUnderflow e xs ∧ xs.foldl depthStep e = e
  | [], _ => ⟨trivial, rfl⟩
  | t :: xs, h => by
    obtain ⟨hl, hr⟩ := h t (List.mem_cons_self _ _)
    have hs : depthStep e t = e := by cases t <;> simp_all [depthStep]
    have ih := noUnderflow_of_flat e fun t' ht' => h t' (List.mem_cons_of_mem _ ht')
    exact ⟨⟨fun h' => absurd h' hr, by rw [hs]; exact ih.1⟩, by rw [List.foldl_cons, hs, ih.2]⟩

theorem Balanced.append {xs ys : List Tok} (hx : Balanced xs) (hy : Balanced ys) :
    Balanced (xs ++ ys) :=
  ⟨hx.1.append (by rw [hx.2]; exact hy.1), by rw [List.foldl_append, hx.2, hy.2]⟩

theorem Balanced.of_flat {xs : List Tok} (h : ∀ t ∈ xs, t ≠ .lparen ∧ t ≠ .rparen) :
    Balanced xs :=
  noUnderflow_of_flat 0 h

theorem NoUnderflow.shift {e : Nat} :
    ∀ {xs : List Tok} (d : Nat), NoUnderflow e xs →
      NoUnderflow (d + e) xs ∧ xs.foldl depthStep (d + e) = d + xs.foldl depthStep e
  | [], _, _ => ⟨trivial, rfl⟩
  | t :: xs, d, ⟨ht, hxs⟩ => by
    have ih := hxs.shift d
    refine ⟨⟨fun h => by have := ht h; omega, ?_⟩, ?_⟩
    · rw [depthStep_add ht]; exact ih.1
    · rw [List.foldl_cons, List.foldl_cons, depthStep_add ht]; exact ih.2

/-- A parenthesized balanced list is balanced. -/
theorem Balanced.paren {xs : List Tok} (h : Balanced xs) :
    Balanced (.lparen :: xs ++ [.rparen]) := by
  have hs := h.1.shift 1
  rw [h.2] at hs
  refine ⟨⟨(fun h => nomatch h), NoUnderflow.append hs.1 ⟨fun _ => by simp [depthStep, hs.2], trivial⟩⟩, ?_⟩
  rw [List.cons_append, List.foldl_cons, List.foldl_append]
  simp [depthStep, hs.2]

/-- A parenthesized balanced list is one atom: no separator in it splits. -/
theorem splitTop_paren {sep : Tok} (hl : sep ≠ .lparen) (hr : sep ≠ .rparen) {xs : List Tok}
    (h : Balanced xs) (cur ys : List Tok) :
    splitTop sep 0 cur (.lparen :: xs ++ .rparen :: ys) =
      splitTop sep 0 (cur ++ .lparen :: xs ++ [.rparen]) ys := by
  have h1 := splitTop_append_nested sep 0 (cur ++ [.lparen]) (.rparen :: ys) h.1
  rw [h.2] at h1
  rw [List.cons_append, splitTop, if_neg fun h' => hl h'.1.symm]
  simp only [depthStep, Nat.zero_add] at h1 ⊢
  rw [h1, splitTop, if_neg fun h' => hr h'.1.symm]
  simp [depthStep]

/-- A piece with no separator, then a separator at depth `0`. -/
theorem splitTop_piece {sep : Tok} (xs : List Tok) (h : ∀ t ∈ xs, t ≠ sep)
    (hd : xs.foldl depthStep 0 = 0) (cur ys : List Tok) :
    splitTop sep 0 cur (xs ++ sep :: ys) = (cur ++ xs) :: splitTop sep 0 [] ys := by
  rw [splitTop_append 0 cur _ h, hd, splitTop_sep]

/-- A last piece with no separator. -/
theorem splitTop_last {sep : Tok} {xs : List Tok} (h : ∀ t ∈ xs, t ≠ sep) (d : Nat)
    (cur : List Tok) : splitTop sep d cur xs = [cur ++ xs] := by
  simpa [splitTop] using splitTop_append d cur [] h

/-! ## Parsing joined pieces -/

theorem foldlM_map_some {α : Type} (mk : Expr → Expr → Expr) (p : α → Option Expr)
    (f : α → Expr) :
    ∀ (ts : List α) (e : Expr), (∀ x ∈ ts, p x = some (f x)) →
      ts.foldlM (fun acc t => mk acc <$> p t) e = some ((ts.map f).foldl mk e)
  | [], _, _ => rfl
  | t :: ts, e, h => by
    rw [List.foldlM_cons, h t (List.mem_cons_self _ _)]
    exact foldlM_map_some mk p f ts _ fun x hx => h x (List.mem_cons_of_mem _ hx)

/-- Pieces that each parse join left to right. -/
theorem parseJoin_map {α : Type} (mk : Expr → Expr → Expr) {p : List Tok → Option Expr}
    (g : α → List Tok) (f : α → Expr) {a : α} {as : List α}
    (h : ∀ x ∈ a :: as, p (g x) = some (f x)) :
    parseJoin mk p ((a :: as).map g) = some ((as.map f).foldl mk (f a)) := by
  rw [List.map_cons, parseJoin, h a (List.mem_cons_self _ _)]
  show List.foldlM _ (f a) (as.map g) = _
  rw [List.foldlM_map]
  exact foldlM_map_some mk (p ∘ g) f as _ fun x hx => h x (List.mem_cons_of_mem _ hx)

theorem parseJoin_singleton (mk : Expr → Expr → Expr) (p : List Tok → Option Expr)
    (t : List Tok) : parseJoin mk p [t] = p t := by
  simp [parseJoin, List.foldlM]

/-- A parenthesized condition is parsed by `sub`. -/
theorem parseAtom_paren (sub : List Tok → Option Expr) (xs : List Tok) :
    parseAtom sub (.lparen :: xs ++ [.rparen]) = sub xs := by
  have h : parseAtom sub (.lparen :: (xs ++ [.rparen])) =
      if (xs ++ [Tok.rparen]).getLast? = some .rparen then sub (xs ++ [Tok.rparen]).dropLast
      else none := rfl
  rw [List.cons_append, h, List.getLast?_append, if_pos (by simp), List.dropLast_concat]

theorem parseJoin_pair (mk : Expr → Expr → Expr) {p : List Tok → Option Expr} {A B : List Tok}
    {a b : Expr} (hA : p A = some a) (hB : p B = some b) :
    parseJoin mk p [A, B] = some (mk a b) := by
  simp [parseJoin, hA, hB, List.foldlM]

/-- Tokens glued after a statement's `WHERE` stay in its clause. -/
theorem whereTokens_append (rest : List Tok) :
    ∀ {xs ys : List Tok}, whereTokens xs = some ys → whereTokens (xs ++ rest) = some (ys ++ rest)
  | [], _, h => nomatch h
  | t :: xs, ys, h => by
    rw [List.cons_append]
    simp only [whereTokens] at h ⊢
    split_ifs at h ⊢ <;> first | exact whereTokens_append rest h | (cases h; rfl)

/-! ## Three-valued logic -/

@[simp]
theorem and3_some (a b : Bool) : and3 (some a) (some b) = some (a && b) := by
  cases a <;> cases b <;> rfl

@[simp]
theorem or3_some (a b : Bool) : or3 (some a) (some b) = some (a || b) := by
  cases a <;> cases b <;> rfl

theorem and3_eq_some_true {x y : Option Bool} : and3 x y = some true ↔ x = some true ∧ y = some true := by
  rcases x with _ | _ | _ <;> rcases y with _ | _ | _ <;> simp [and3]

theorem Expr.eval_and (row : Row) (a b : Expr) (args : List SqlValue) :
    (Expr.and a b).eval row args =
      (and3 (a.eval row args).1 (b.eval row (a.eval row args).2).1,
        (b.eval row (a.eval row args).2).2) := rfl

theorem Expr.eval_or (row : Row) (a b : Expr) (args : List SqlValue) :
    (Expr.or a b).eval row args =
      (or3 (a.eval row args).1 (b.eval row (a.eval row args).2).1,
        (b.eval row (a.eval row args).2).2) := rfl

/-- `x IN (vs)` over values that compare as what they hold. -/
theorem inList3_map {β : Type} [DecidableEq β] (mk : β → SqlValue)
    (hmk : ∀ a b, (mk a).cmp "=" (mk b) = some (decide (a = b))) (v : β) (vals : List β) :
    inList3 (some (mk v)) (vals.map mk) = some (decide (v ∈ vals)) := by
  suffices ∀ b, (vals.map mk).foldl (fun acc w => or3 acc ((mk v).cmp "=" w)) (some b) =
      some (b || decide (v ∈ vals)) by simpa using this false
  induction vals with
  | nil => simp
  | cons w vals ih =>
    intro b
    rw [List.map_cons, List.foldl_cons, hmk, or3_some, ih]
    simp [Bool.or_assoc, eq_comm]

/-- A value against texts: `TRUE` iff it is one of them. -/
theorem inList3_text (v : GoString) (vals : List GoString) :
    inList3 (some (.text v)) (vals.map .text) = some (decide (v ∈ vals)) :=
  (inList3_map _ SqlValue.cmp_text_eq v vals).trans (congrArg some (decide_eq_decide.2 Iff.rfl))

end Sql

end Boulder
