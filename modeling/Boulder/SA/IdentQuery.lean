import Boulder.SA.Authz
import Boulder.SA.Sql

/-!
# Selecting authorizations by identifier (`sa/model.go`)

`buildIdentifierQueryConditions` turns a list of identifiers into a `WHERE` condition with
placeholders and the arguments for them: the identifiers are grouped by type in a map, and each
type gives `identifierType = ? AND identifierValue IN (?,…,?)`, the conditions joined by `OR`.
`SelectAuthzsMatchingIssuance` puts the condition into its query after four comparisons of its
own and passes its five arguments before the identifiers'.  Go visits a map in an unspecified
order: `range` stands for that order, any permutation of the map's entries.

Principal result: `buildIdentifierQueryConditions_sound` — for every identifier list and every
iteration order, the condition has one placeholder per argument, is built from fixed fragments
and the group sizes only, and, read as SQL with its arguments bound in order, holds on a row
exactly when some identifier has the row's type code and value; and the query of
`SelectAuthzsMatchingIssuance` selects exactly the rows its comments describe.
-/

set_option autoImplicit false

namespace Boulder

open Sql

/-! ## The code -/

/-- `db.QuestionMarks(n)`: `n ≥ 1` placeholders separated by commas, the list of an `IN (…)`
with one placeholder per argument its callers bind.  The `db` package is not among the sources
and the spec does not mention it; what it does for `n = 0` is not modelled.  The value at `0` is
not the code's, and no principal result depends on it: each calls `QuestionMarks` only with
`n ≥ 1`. -/
def QuestionMarks : Nat → String
  | 0 => ""
  | 1 => "?"
  | n + 2 => "?," ++ QuestionMarks (n + 1)

/-- `strings.Join(elems, sep)`. -/
def Join : List String → String → String
  | [], _ => ""
  | [a], _ => a
  | a :: b :: rest, sep => a ++ sep ++ Join (b :: rest) sep

/-- `m[k] = append(m[k], v)` on a map kept as its entries. -/
def appendAt {K V : Type} [DecidableEq K] : List (K × List V) → K → V → List (K × List V)
  | [], k, v => [(k, [v])]
  | (k', vs) :: rest, k, v =>
    if k' = k then (k', vs ++ [v]) :: rest else (k', vs) :: appendAt rest k v

/-- The map `identsByType` of `buildIdentifierQueryConditions`, as its entries. -/
def identsByType (idents : List ACMEIdentifier) : List (IdentifierType × List GoString) :=
  idents.foldl (fun m id => appendAt m id.type id.value) []

/-- The condition of one identifier type with `n` values:
`fmt.Sprintf("identifierType = ? AND identifierValue IN (%s)", db.QuestionMarks(n))`. -/
def identCondition (n : Nat) : String :=
  "identifierType = ? AND identifierValue IN (" ++ QuestionMarks n ++ ")"

/-- The arguments of one identifier type: `identifierTypeToUint[idType]`, then its values. -/
def identTypeArgs (idType : IdentifierType) (idValues : List GoString) : List SqlValue :=
  .int ((identifierTypeToUint idType).getD 0).toNat :: idValues.map .text

/-- `buildIdentifierQueryConditions`.  The loop over the map appends one condition and the
arguments of one type per entry, in the order `range` gives. -/
def buildIdentifierQueryConditions
    (range : List (IdentifierType × List GoString) → List (IdentifierType × List GoString))
    (idents : List ACMEIdentifier) : String × List SqlValue :=
  if idents.length = 0 then ("FALSE", [])
  else
    let entries := range (identsByType idents)
    (Join (entries.map fun e => identCondition e.2.length) " OR ",
      (entries.map fun e => identTypeArgs e.1 e.2).flatten)

/-- `authzFields`. -/
def authzFields : String :=
  "id, identifierType, identifierValue, registrationID, certificateProfileName, status, expires, challenges, attempted, attemptedAt, token, validationError, validationRecord"

/-- The query of `SelectAuthzsMatchingIssuance` around its identifier conditions. -/
def matchingIssuanceQuery (identConditions : String) : String :=
  "SELECT " ++ authzFields ++ " FROM authz2 WHERE\n\t\t\tregistrationID = ? AND\n\t\t\tstatus IN (?, ?) AND\n\t\t\texpires >= ? AND\n\t\t\tattemptedAt <= ? AND\n\t\t\t(" ++
    identConditions ++ ")"

/-- The arguments of `SelectAuthzsMatchingIssuance` before the identifier arguments:
`regID`, the valid and deactivated codes, and `issued` less and plus a second. -/
def matchingIssuanceArgs (regID : Int64) (issued : Time) : List SqlValue :=
  [.int regID.val, .int (statusToUint .valid).toNat, .int (statusToUint .deactivated).toNat,
    .time (issued.Add (SInt.wrap (-1000000000))), .time (issued.Add 1000000000)]

/-- `db.Selector` as `SelectAuthzsMatchingIssuance` calls it: a query and its arguments give the
rows read, or an error. -/
abbrev Selector := String → List SqlValue → Except GoError (List authzModel)

section Select

variable {Record Problem : Type}

/-- `SelectAuthzsMatchingIssuance`. -/
def SelectAuthzsMatchingIssuance
    (populateAttemptedFields : authzModel → Challenge Record Problem →
      Except GoError (Challenge Record Problem))
    (s : Selector)
    (range : List (IdentifierType × List GoString) → List (IdentifierType × List GoString))
    (regID : Int64) (issued : Time) (idents : List ACMEIdentifier) :
    Except GoError (List (Authorization Record Problem)) := do
  let conds := buildIdentifierQueryConditions range idents
  let authzModels ← s (matchingIssuanceQuery conds.1) (matchingIssuanceArgs regID issued ++ conds.2)
  authzModels.mapM (modelToAuthzPB populateAttemptedFields)

end Select

/-! ## The database -/

/-- The row of the `authz2` table that holds a model, for the columns a condition compares. -/
def authzModel.row (am : authzModel) : Row := fun col =>
  match col with
  | "id" => some (.int am.ID.val)
  | "identifierType" => some (.int am.IdentifierType.toNat)
  | "identifierValue" => some (.text am.IdentifierValue)
  | "registrationID" => some (.int am.RegistrationID.val)
  | "status" => some (.int am.Status.toNat)
  | "expires" => some (.time am.Expires)
  | "challenges" => some (.int am.Challenges.toNat)
  | "attempted" => am.Attempted.map fun a => .int a.toNat
  | "attemptedAt" => am.AttemptedAt.map .time
  | _ => none

/-- The selector of a table: the rows on which the `WHERE` clause, with the arguments bound in
order, is `TRUE`.  A statement outside the fragment is a syntax error, and a wrong number of
arguments is `database/sql`'s error. -/
def tableSelector (table : List authzModel) : Selector := fun query args =>
  match (whereTokens (tokenize query)).bind fun toks => parseExpr (toks.length + 1) toks with
  | none => .error (.other (.text "You have an error in your SQL syntax"))
  | some e =>
    if e.arity = args.length then .ok (table.filter fun am => (e.eval am.row args).1 = some true)
    else .error (.other (.sprintf "sql: expected %d arguments, got %d"
      [.text (toString e.arity), .text (toString args.length)]))

/-- What `SelectAuthzsMatchingIssuance` is for, in the words of its comment: authorizations of
the account, valid or deactivated, not expired a second before the issuance, attempted by a
second after it, for one of the identifiers. -/
def MatchesIssuance (regID : Int64) (issued : Time) (idents : List ACMEIdentifier)
    (am : authzModel) : Bool :=
  decide (am.RegistrationID.val = regID.val) &&
  (am.Status == statusToUint .valid || am.Status == statusToUint .deactivated) &&
  decide ((issued.Add (SInt.wrap (-1000000000))).toNanos ≤ am.Expires.toNanos) &&
  am.AttemptedAt.any (fun t => decide (t.toNanos ≤ (issued.Add 1000000000).toNanos)) &&
  idents.any fun ident =>
    (identifierTypeToUint ident.type).getD 0 == am.IdentifierType &&
      ident.value == am.IdentifierValue

/-! ## The tokens of the condition -/

/-- The tokens of `QuestionMarks n`. -/
def qmarkToks : Nat → List Tok
  | 0 => []
  | 1 => [.qmark]
  | n + 2 => .qmark :: .comma :: qmarkToks (n + 1)

/-- The tokens of `identCondition n`. -/
def condToks (n : Nat) : List Tok :=
  [.word "identifierType", .word "=", .qmark, .word "AND", .word "identifierValue", .word "IN"] ++
    .lparen :: qmarkToks n ++ [.rparen]

/-- The tokens of the conditions of groups of sizes `ks`, joined by `OR`. -/
def orToks : List Nat → List Tok
  | [] => []
  | [k] => condToks k
  | k :: k' :: ks => condToks k ++ .word "OR" :: orToks (k' :: ks)

theorem tokenize_QuestionMarks : ∀ n, tokenize (QuestionMarks n) = qmarkToks n
  | 0 => rfl
  | 1 => rfl
  | n + 2 => by
    rw [QuestionMarks, tokenize_append_of_last "?," _ (by decide), tokenize_QuestionMarks (n + 1)]
    rfl

theorem getLast?_append_string (s t : String) (c : Char) (h : t.toList.getLast? = some c) :
    (s ++ t).toList.getLast? = some c := by
  show (s.toList ++ t.toList).getLast? = some c
  rw [List.getLast?_append, h]
  rfl

theorem tokenize_identCondition (n : Nat) : tokenize (identCondition n) = condToks n := by
  rw [identCondition, tokenize_append_of_head _ ")" (by decide),
    tokenize_append_of_last "identifierType = ? AND identifierValue IN (" _ (by decide),
    tokenize_QuestionMarks]
  rfl

theorem tokenize_Join : ∀ (ks : List Nat),
    tokenize (Join (ks.map identCondition) " OR ") = orToks ks
  | [] => rfl
  | [k] => tokenize_identCondition k
  | k :: k' :: ks => by
    simp only [List.map_cons, Join]
    rw [tokenize_append_of_last (identCondition k ++ " OR ") _
        (by rw [getLast?_append_string (identCondition k) " OR " ' ' rfl]; decide),
      tokenize_append_of_head _ " OR " (by decide), tokenize_identCondition, ← List.map_cons,
      tokenize_Join (k' :: ks), show tokenize " OR " = [.word "OR"] by decide, orToks,
      List.append_assoc, List.singleton_append]

theorem mem_qmarkToks : ∀ {n : Nat} {t : Tok}, t ∈ qmarkToks n → t = .qmark ∨ t = .comma
  | 0, _, h => nomatch h
  | 1, _, h => by simp_all [qmarkToks]
  | n + 2, t, h => by
    simp only [qmarkToks, List.mem_cons] at h
    rcases h with rfl | rfl | h
    · exact .inl rfl
    · exact .inr rfl
    · exact mem_qmarkToks h

/-- The only words of a condition are its fixed ones. -/
theorem mem_condToks {n : Nat} {t : Tok} (h : t ∈ condToks n) :
    t ∈ [.word "identifierType", .word "=", .word "AND", .word "identifierValue", .word "IN",
      .qmark, .comma, .lparen, .rparen] := by
  simp only [condToks, List.cons_append, List.nil_append, List.mem_cons, List.mem_append,
    List.mem_singleton, List.not_mem_nil, or_false] at h
  rcases h with h | h | h | h | h | h | h | h | h <;>
    first | (rcases mem_qmarkToks h with h | h <;> simp [h]) | simp [h]

theorem condToks_balanced (n : Nat) : Balanced (condToks n) := by
  rw [condToks, List.append_assoc]
  refine Balanced.append (Balanced.of_flat (by decide)) (Balanced.paren (Balanced.of_flat ?_))
  intro t ht
  rcases mem_qmarkToks ht with rfl | rfl <;> decide

theorem orToks_balanced : ∀ ks : List Nat, Balanced (orToks ks)
  | [] => ⟨trivial, rfl⟩
  | [k] => condToks_balanced k
  | k :: k' :: ks =>
    (condToks_balanced k).append
      ((Balanced.of_flat (by decide) : Balanced [Tok.word "OR"]).append (orToks_balanced (k' :: ks)))

/-! ## Parsing the condition -/

/-- The condition of one identifier type, parsed. -/
def identExpr (n : Nat) : Expr := .and (.cmp "identifierType" "=") (.inList "identifierValue" n)

/-- The condition of groups of sizes `ks`, parsed: `FALSE` for none. -/
def condExpr : List Nat → Expr
  | [] => .lit false
  | k :: ks => (ks.map identExpr).foldl .or (identExpr k)

theorem splitTop_orToks : ∀ {ks : List Nat}, ks ≠ [] →
    splitTop (.word "OR") 0 [] (orToks ks) = ks.map condToks
  | [k], _ => splitTop_last (fun t ht h => by have := mem_condToks ht; simp_all) 0 []
  | k :: k' :: ks, _ => by
    rw [orToks, splitTop_piece _ (fun t ht h => by have := mem_condToks ht; simp_all)
      (condToks_balanced k).2, splitTop_orToks (List.cons_ne_nil k' ks)]
    rfl

theorem parseQmarks_qmarkToks : ∀ {n : Nat}, 1 ≤ n →
    parseQmarks (qmarkToks n ++ [.rparen]) = some n
  | 1, _ => rfl
  | n + 2, _ => by
    show (· + 1) <$> parseQmarks (qmarkToks (n + 1) ++ [.rparen]) = _
    rw [parseQmarks_qmarkToks (by omega)]
    rfl

/-- One condition parses to its expression, `AND` binding its two comparisons. -/
theorem parse_condToks (sub : List Tok → Option Expr) {n : Nat} (hn : 1 ≤ n) :
    parseJoin .and (parseAtom sub) (splitTop (.word "AND") 0 [] (condToks n)) =
      some (identExpr n) := by
  have hrest : ∀ t ∈ [Tok.word "identifierValue", .word "IN"] ++ .lparen :: qmarkToks n ++
      [.rparen], t ≠ .word "AND" := by
    intro t ht h
    subst h
    simp only [List.cons_append, List.nil_append, List.mem_cons, List.mem_append,
      List.mem_singleton] at ht
    rcases ht with h | h | h | h | h <;> try simp at h
    rcases mem_qmarkToks h with h | h <;> simp at h
  rw [show condToks n = [.word "identifierType", .word "=", .qmark] ++ .word "AND" ::
      ([.word "identifierValue", .word "IN"] ++ .lparen :: qmarkToks n ++ [.rparen]) from rfl,
    splitTop_piece [.word "identifierType", .word "=", .qmark] (by decide) rfl,
    splitTop_last hrest]
  refine parseJoin_pair _ rfl ?_
  show (Expr.inList "identifierValue") <$> parseQmarks (qmarkToks n ++ [.rparen]) = _
  rw [parseQmarks_qmarkToks hn]
  rfl

/-- The joined conditions parse to their expression, `OR` binding weakest. -/
theorem parseExpr_orToks (fuel : Nat) {ks : List Nat} (hks : ks ≠ []) (h1 : ∀ k ∈ ks, 1 ≤ k) :
    parseExpr (fuel + 1) (orToks ks) = some (condExpr ks) := by
  obtain ⟨k, ks, rfl⟩ := List.exists_cons_of_ne_nil hks
  rw [parseExpr, splitTop_orToks hks, parseJoin_map .or condToks identExpr
    fun x hx => parse_condToks _ (h1 x hx)]
  rfl

/-- The tokens of the condition, for any iteration order. -/
theorem tokenize_buildIdentifierQueryConditions
    (range : List (IdentifierType × List GoString) → List (IdentifierType × List GoString))
    (idents : List ACMEIdentifier) :
    tokenize (buildIdentifierQueryConditions range idents).1 =
      if idents.length = 0 then [.word "FALSE"]
      else orToks ((range (identsByType idents)).map fun e => e.2.length) := by
  unfold buildIdentifierQueryConditions
  split
  · rfl
  · rw [← tokenize_Join, List.map_map]
    rfl

theorem balanced_tokenize_buildIdentifierQueryConditions
    (range : List (IdentifierType × List GoString) → List (IdentifierType × List GoString))
    (idents : List ACMEIdentifier) :
    Balanced (tokenize (buildIdentifierQueryConditions range idents).1) := by
  rw [tokenize_buildIdentifierQueryConditions]
  split
  · exact Balanced.of_flat (by decide)
  · exact orToks_balanced _

/-! ## Evaluating the condition -/

/-- The arguments of the entries `es`, in order. -/
def entryArgs (es : List (IdentifierType × List GoString)) : List SqlValue :=
  (es.map fun e => identTypeArgs e.1 e.2).flatten

/-- Whether an entry has the type code `t` and the value `v`. -/
def entryMatches (t : Int) (v : GoString) (e : IdentifierType × List GoString) : Bool :=
  decide ((((identifierTypeToUint e.1).getD 0).toNat : Int) = t) && decide (v ∈ e.2)

section Eval

variable {row : Row} {t : Int} {v : GoString}

theorem eval_identExpr (ht : row "identifierType" = some (.int t))
    (hv : row "identifierValue" = some (.text v)) (e : IdentifierType × List GoString)
    (rest : List SqlValue) :
    (identExpr e.2.length).eval row (identTypeArgs e.1 e.2 ++ rest) =
      (some (entryMatches t v e), rest) := by
  have htake : (e.2.map SqlValue.text ++ rest).take e.2.length = e.2.map .text :=
    List.take_left' (List.length_map _ _)
  have hdrop : (e.2.map SqlValue.text ++ rest).drop e.2.length = rest :=
    List.drop_left' (List.length_map _ _)
  simp only [identExpr, Expr.eval, identTypeArgs, List.cons_append, ht, hv, List.head?_cons,
    List.tail_cons, htake, hdrop, inList3_text, Option.some_bind]
  simp [entryMatches, and3_some, eq_comm]

/-- `OR`-ing the conditions of further entries onto a condition that consumes its arguments. -/
theorem eval_foldl_or (ht : row "identifierType" = some (.int t))
    (hv : row "identifierValue" = some (.text v)) :
    ∀ (es : List (IdentifierType × List GoString)) (c : Expr) (args : List SqlValue) (b : Bool),
      (∀ rest, c.eval row (args ++ rest) = (some b, rest)) → ∀ rest,
      ((es.map fun e => identExpr e.2.length).foldl .or c).eval row (args ++ entryArgs es ++ rest) =
        (some (b || es.any (entryMatches t v)), rest)
  | [], c, args, b, hc, rest => by simpa [entryArgs] using hc rest
  | e :: es, c, args, b, hc, rest => by
    have hc' : ∀ rest, (Expr.or c (identExpr e.2.length)).eval row
        ((args ++ identTypeArgs e.1 e.2) ++ rest) = (some (b || entryMatches t v e), rest) := by
      intro rest
      rw [Expr.eval_or, List.append_assoc, hc, eval_identExpr ht hv, or3_some]
    have := eval_foldl_or ht hv es _ _ _ hc' rest
    simp only [List.map_cons, List.foldl_cons, entryArgs, List.flatten_cons, List.any_cons,
      List.append_assoc, Bool.or_assoc] at this ⊢
    exact this

/-- The parsed condition of nonempty entries holds iff some entry matches. -/
theorem eval_condExpr (ht : row "identifierType" = some (.int t))
    (hv : row "identifierValue" = some (.text v)) (e : IdentifierType × List GoString)
    (es : List (IdentifierType × List GoString)) :
    (condExpr ((e :: es).map fun e => e.2.length)).eval row (entryArgs (e :: es)) =
      (some ((e :: es).any (entryMatches t v)), []) := by
  have h := eval_foldl_or ht hv es _ _ _ (eval_identExpr ht hv e) []
  simp only [List.append_nil, List.any_cons] at h
  simpa [condExpr, List.map_map, entryArgs, List.flatten_cons, List.append_assoc] using h

end Eval

theorem arity_identExpr (n : Nat) : (identExpr n).arity = n + 1 := by
  simp [identExpr, Expr.arity, Nat.add_comm]

theorem arity_foldl_or :
    ∀ (es : List (IdentifierType × List GoString)) (c : Expr),
      ((es.map fun e => identExpr e.2.length).foldl .or c).arity = c.arity + (entryArgs es).length
  | [], c => by simp [entryArgs]
  | e :: es, c => by
    rw [List.map_cons, List.foldl_cons, arity_foldl_or es]
    simp [Expr.arity, arity_identExpr, entryArgs, identTypeArgs]
    omega

/-- The parsed condition has one placeholder per argument. -/
theorem arity_condExpr (e : IdentifierType × List GoString)
    (es : List (IdentifierType × List GoString)) :
    (condExpr ((e :: es).map fun e => e.2.length)).arity = (entryArgs (e :: es)).length := by
  have h := arity_foldl_or es (identExpr e.2.length)
  simp only [condExpr, List.map_cons, List.map_map, Function.comp_def] at h ⊢
  rw [h]
  simp [arity_identExpr, entryArgs, identTypeArgs]
  omega

/-! ## The map of identifiers by type -/

section Map

variable {K V : Type} [DecidableEq K]

theorem appendAt_groups_ne_nil :
    ∀ {m : List (K × List V)} (k : K) (v : V), (∀ e ∈ m, e.2 ≠ []) →
      ∀ e ∈ appendAt m k v, e.2 ≠ []
  | [], k, v, _, e, he => by simp_all [appendAt]
  | (k', vs) :: rest, k, v, h, e, he => by
    unfold appendAt at he
    split at he
    · simp only [List.mem_cons] at he
      rcases he with rfl | he
      · simp
      · exact h e (List.mem_cons_of_mem _ he)
    · simp only [List.mem_cons] at he
      rcases he with rfl | he
      · exact h _ (List.mem_cons_self _ _)
      · exact appendAt_groups_ne_nil k v (fun e he => h e (List.mem_cons_of_mem _ he)) e he

/-- The pairs of an appended map are the old ones and the new one. -/
theorem exists_appendAt (P : K → V → Prop) :
    ∀ (m : List (K × List V)) (k : K) (v : V),
      (∃ e ∈ appendAt m k v, ∃ w ∈ e.2, P e.1 w) ↔ (∃ e ∈ m, ∃ w ∈ e.2, P e.1 w) ∨ P k v
  | [], k, v => by simp [appendAt]
  | (k', vs) :: rest, k, v => by
    unfold appendAt
    split
    · subst_vars
      simp only [List.mem_cons, List.mem_append, List.mem_singleton, or_and_right, exists_or,
        exists_eq_left, List.not_mem_nil, false_and, exists_false, or_false]
      exact or_right_comm
    · simp only [List.mem_cons, or_and_right, exists_or, exists_eq_left,
        exists_appendAt P rest k v]
      exact or_assoc.symm

end Map

theorem exists_foldl_appendAt (P : IdentifierType → GoString → Prop) :
    ∀ (idents : List ACMEIdentifier) (m : List (IdentifierType × List GoString)),
      (∃ e ∈ idents.foldl (fun m id => appendAt m id.type id.value) m, ∃ w ∈ e.2, P e.1 w) ↔
        (∃ e ∈ m, ∃ w ∈ e.2, P e.1 w) ∨ ∃ id ∈ idents, P id.type id.value
  | [], m => by simp
  | id :: idents, m => by
    rw [List.foldl_cons, exists_foldl_appendAt P idents, exists_appendAt]
    simp only [List.mem_cons, or_and_right, exists_or, exists_eq_left]
    exact or_assoc

/-- **The map holds the identifiers**: a type and a value are paired in `identsByType` iff some
identifier has them. -/
theorem exists_identsByType (P : IdentifierType → GoString → Prop) (idents : List ACMEIdentifier) :
    (∃ e ∈ identsByType idents, ∃ w ∈ e.2, P e.1 w) ↔ ∃ id ∈ idents, P id.type id.value := by
  rw [identsByType, exists_foldl_appendAt]
  simp

theorem identsByType_ne_nil {idents : List ACMEIdentifier} (h : idents ≠ []) :
    identsByType idents ≠ [] := by
  intro h'
  obtain ⟨id, hid⟩ := List.exists_mem_of_ne_nil idents h
  have := (exists_identsByType (fun k w => k = id.type ∧ w = id.value) idents).2 ⟨id, hid, rfl, rfl⟩
  simp [h'] at this

theorem groups_identsByType_ne_nil (idents : List ACMEIdentifier) :
    ∀ e ∈ identsByType idents, e.2 ≠ [] := by
  suffices ∀ m : List (IdentifierType × List GoString), (∀ e ∈ m, e.2 ≠ []) →
      ∀ e ∈ idents.foldl (fun m id => appendAt m id.type id.value) m, e.2 ≠ [] from
    this [] (by simp)
  induction idents with
  | nil => exact fun m h => h
  | cons id idents ih => exact fun m h => ih _ (appendAt_groups_ne_nil _ _ h)

/-! ## The condition and its arguments -/

theorem count_append_string (s t : String) (c : Char) :
    (s ++ t).toList.count c = s.toList.count c + t.toList.count c :=
  List.count_append c s.toList t.toList

theorem count_QuestionMarks : ∀ n, (QuestionMarks n).toList.count '?' = n
  | 0 => rfl
  | 1 => rfl
  | n + 2 => by
    rw [QuestionMarks, count_append_string, count_QuestionMarks (n + 1),
      show ("?," : String).toList.count '?' = 1 by decide]
    omega

theorem count_identCondition (n : Nat) : (identCondition n).toList.count '?' = n + 1 := by
  rw [identCondition, count_append_string, count_append_string, count_QuestionMarks,
    show ("identifierType = ? AND identifierValue IN (" : String).toList.count '?' = 1 by decide,
    show (")" : String).toList.count '?' = 0 by decide]
  omega

theorem count_Join {c : Char} {sep : String} (hsep : sep.toList.count c = 0) :
    ∀ l : List String, (Join l sep).toList.count c = (l.map fun s => s.toList.count c).sum
  | [] => rfl
  | [a] => by simp [Join]
  | a :: b :: rest => by
    rw [Join, count_append_string, count_append_string, hsep, count_Join hsep (b :: rest)]
    simp

/-- **One placeholder per argument**, for any iteration order. -/
theorem count_buildIdentifierQueryConditions
    (range : List (IdentifierType × List GoString) → List (IdentifierType × List GoString))
    (idents : List ACMEIdentifier) :
    (buildIdentifierQueryConditions range idents).1.toList.count '?' =
      (buildIdentifierQueryConditions range idents).2.length := by
  unfold buildIdentifierQueryConditions
  split
  · rfl
  · rw [count_Join (by decide), List.length_flatten, List.map_map, List.map_map]
    refine congrArg List.sum (List.map_congr_left fun e _ => ?_)
    rw [Function.comp_apply, Function.comp_apply, count_identCondition, identTypeArgs,
      List.length_cons, List.length_map]

/-- **The condition is built from fixed fragments**: it is `FALSE`, or the conditions of some
group sizes joined by `OR`; no identifier text enters it. -/
theorem buildIdentifierQueryConditions_fixed
    (range : List (IdentifierType × List GoString) → List (IdentifierType × List GoString))
    (idents : List ACMEIdentifier) :
    (buildIdentifierQueryConditions range idents).1 = "FALSE" ∨
      ∃ ks : List Nat, (buildIdentifierQueryConditions range idents).1 =
        Join (ks.map identCondition) " OR " := by
  unfold buildIdentifierQueryConditions
  split
  · exact .inl rfl
  · exact .inr ⟨(range (identsByType idents)).map fun e => e.2.length, by rw [List.map_map]; rfl⟩

section Perm

variable {range : List (IdentifierType × List GoString) → List (IdentifierType × List GoString)}
  {idents : List ACMEIdentifier}

/-- With the identifiers present, the entries visited are those of the map. -/
theorem entries_cons (hrange : (range (identsByType idents)).Perm (identsByType idents))
    (h : idents.length ≠ 0) : ∃ e es, range (identsByType idents) = e :: es := by
  cases hr : range (identsByType idents) with
  | nil =>
    rw [hr] at hrange
    exact absurd (List.Perm.nil_eq hrange).symm
      (identsByType_ne_nil fun h' => h (by simp [h']))
  | cons e es => exact ⟨e, es, rfl⟩

theorem any_entryMatches (hrange : (range (identsByType idents)).Perm (identsByType idents))
    (t : Int) (v : GoString) :
    (range (identsByType idents)).any (entryMatches t v) =
      decide (∃ ident ∈ idents,
        (((identifierTypeToUint ident.type).getD 0).toNat : Int) = t ∧ ident.value = v) := by
  refine Bool.eq_iff_iff.2 ?_
  rw [List.any_eq_true, decide_eq_true_iff,
    ← exists_identsByType (fun k w => (((identifierTypeToUint k).getD 0).toNat : Int) = t ∧ w = v)]
  simp only [hrange.mem_iff, entryMatches, Bool.and_eq_true, decide_eq_true_eq]
  constructor
  · rintro ⟨e, he, ht, hv⟩
    exact ⟨e, he, v, hv, ht, rfl⟩
  · rintro ⟨e, he, w, hw, ht, rfl⟩
    exact ⟨e, he, ht, hw⟩

/-- The condition of `buildIdentifierQueryConditions`, parsed. -/
def condOf (range : List (IdentifierType × List GoString) → List (IdentifierType × List GoString))
    (idents : List ACMEIdentifier) : Expr :=
  if idents.length = 0 then .lit false
  else condExpr ((range (identsByType idents)).map fun e => e.2.length)

theorem parseExpr_buildIdentifierQueryConditions
    (hrange : (range (identsByType idents)).Perm (identsByType idents)) (fuel : Nat) :
    parseExpr (fuel + 1) (tokenize (buildIdentifierQueryConditions range idents).1) =
      some (condOf range idents) := by
  rw [tokenize_buildIdentifierQueryConditions, condOf]
  split
  · rfl
  case isFalse h0 =>
    obtain ⟨e, es, hes⟩ := entries_cons hrange h0
    have h1 : ∀ k ∈ (e :: es).map fun e => e.2.length, 1 ≤ k := by
      simp only [List.mem_map]
      rintro k ⟨g, hg, rfl⟩
      exact List.length_pos.2 (groups_identsByType_ne_nil idents g (hrange.mem_iff.1 (hes ▸ hg)))
    rw [hes, parseExpr_orToks _ (by simp) h1]

theorem arity_condOf (hrange : (range (identsByType idents)).Perm (identsByType idents)) :
    (condOf range idents).arity = (buildIdentifierQueryConditions range idents).2.length := by
  unfold buildIdentifierQueryConditions condOf
  split
  · rfl
  case isFalse h0 =>
    obtain ⟨e, es, hes⟩ := entries_cons hrange h0
    simpa only [hes] using arity_condExpr e es

theorem eval_condOf (hrange : (range (identsByType idents)).Perm (identsByType idents))
    {row : Row} {t : Int} {v : GoString} (ht : row "identifierType" = some (.int t))
    (hv : row "identifierValue" = some (.text v)) :
    (condOf range idents).eval row (buildIdentifierQueryConditions range idents).2 =
      (some (decide (∃ ident ∈ idents,
        (((identifierTypeToUint ident.type).getD 0).toNat : Int) = t ∧ ident.value = v)), []) := by
  unfold buildIdentifierQueryConditions condOf
  split
  case isTrue h0 =>
    rw [List.length_eq_zero.1 h0]
    simp [Expr.eval]
  case isFalse h0 =>
    obtain ⟨e, es, hes⟩ := entries_cons hrange h0
    have hev := eval_condExpr ht hv e es
    simp only [entryArgs] at hev
    simp only [hes, hev, ← any_entryMatches hrange t v]

/-- **The condition selects the rows of the identifiers**: read as SQL, with its arguments bound
in order, on a row of type code `t` and value `v` it is `TRUE` iff some identifier has them, and
`FALSE` otherwise. -/
theorem evalCond_buildIdentifierQueryConditions
    (hrange : (range (identsByType idents)).Perm (identsByType idents)) {row : Row} {t : Int}
    {v : GoString} (ht : row "identifierType" = some (.int t))
    (hv : row "identifierValue" = some (.text v)) :
    evalCond (tokenize (buildIdentifierQueryConditions range idents).1)
        (buildIdentifierQueryConditions range idents).2 row =
      some (some (decide (∃ ident ∈ idents,
        (((identifierTypeToUint ident.type).getD 0).toNat : Int) = t ∧ ident.value = v))) := by
  rw [evalCond, parseExpr_buildIdentifierQueryConditions hrange]
  show (if _ then _ else _) = _
  rw [if_pos (arity_condOf hrange), eval_condOf hrange ht hv]

end Perm

/-! ## The query of `SelectAuthzsMatchingIssuance` -/

/-- The tokens of the query's `WHERE` clause before the identifier condition. -/
def whereHead : List Tok :=
  [.word "registrationID", .word "=", .qmark, .word "AND",
    .word "status", .word "IN", .lparen, .qmark, .comma, .qmark, .rparen, .word "AND",
    .word "expires", .word ">=", .qmark, .word "AND",
    .word "attemptedAt", .word "<=", .qmark, .word "AND"]

/-- The query's `WHERE` clause, parsed around the identifier condition `c`. -/
def whereExpr (c : Expr) : Expr :=
  .and (.and (.and (.and (.cmp "registrationID" "=") (.inList "status" 2))
    (.cmp "expires" ">=")) (.cmp "attemptedAt" "<=")) c

theorem whereTokens_matchingIssuanceQuery (cond : String) :
    whereTokens (tokenize (matchingIssuanceQuery cond)) =
      some (whereHead ++ (.lparen :: tokenize cond ++ [.rparen])) := by
  rw [matchingIssuanceQuery, tokenize_append_of_head _ ")" (by decide),
    tokenize_append_of_last _ cond (by decide),
    whereTokens_append _ (whereTokens_append _ (show whereTokens (tokenize ("SELECT " ++
      authzFields ++ " FROM authz2 WHERE\n\t\t\tregistrationID = ? AND\n\t\t\tstatus IN (?, ?) AND\n\t\t\texpires >= ? AND\n\t\t\tattemptedAt <= ? AND\n\t\t\t(")) =
        some (whereHead ++ [.lparen]) by decide)), show tokenize ")" = [.rparen] from rfl]
  simp

/-- The `WHERE` clause parses to its four comparisons and the parenthesized condition, joined by
`AND`. -/
theorem parseExpr_where {condT : List Tok} (h : Balanced condT) {c : Expr} (fuel : Nat)
    (hc : parseExpr (fuel + 1) condT = some c) :
    parseExpr (fuel + 2) (whereHead ++ (.lparen :: condT ++ [.rparen])) = some (whereExpr c) := by
  have hor : splitTop (.word "OR") 0 [] (whereHead ++ (.lparen :: condT ++ [.rparen])) =
      [whereHead ++ (.lparen :: condT ++ [.rparen])] := by
    rw [splitTop_append 0 [] _ (by decide), show whereHead.foldl depthStep 0 = 0 from rfl,
      splitTop_paren (by decide) (by decide) h]
    simp [splitTop]
  have hand : splitTop (.word "AND") 0 [] (whereHead ++ (.lparen :: condT ++ [.rparen])) =
      [[.word "registrationID", .word "=", .qmark],
        [.word "status", .word "IN", .lparen, .qmark, .comma, .qmark, .rparen],
        [.word "expires", .word ">=", .qmark], [.word "attemptedAt", .word "<=", .qmark],
        .lparen :: condT ++ [.rparen]] := by
    rw [show whereHead ++ (.lparen :: condT ++ [.rparen]) =
        [.word "registrationID", .word "=", .qmark] ++ .word "AND" ::
        ([.word "status", .word "IN", .lparen, .qmark, .comma, .qmark, .rparen] ++ .word "AND" ::
        ([.word "expires", .word ">=", .qmark] ++ .word "AND" ::
        ([.word "attemptedAt", .word "<=", .qmark] ++ .word "AND" ::
        (.lparen :: condT ++ [.rparen])))) from rfl,
      splitTop_piece [.word "registrationID", .word "=", .qmark] (by decide) rfl,
      splitTop_piece [.word "status", .word "IN", .lparen, .qmark, .comma, .qmark, .rparen]
        (by decide) rfl,
      splitTop_piece [.word "expires", .word ">=", .qmark] (by decide) rfl,
      splitTop_piece [.word "attemptedAt", .word "<=", .qmark] (by decide) rfl,
      splitTop_paren (by decide) (by decide) h]
    rfl
  rw [parseExpr, hor, parseJoin_singleton, hand]
  simp only [parseJoin, List.foldlM_cons, List.foldlM_nil, parseAtom_paren, hc]
  rfl

/-- The value of the `WHERE` clause on a row, comparison by comparison. -/
theorem eval_whereExpr (c : Expr) (am : authzModel) (regID : Int64) (issued : Time)
    (rest : List SqlValue) :
    ((whereExpr c).eval am.row (matchingIssuanceArgs regID issued ++ rest)).1 =
      and3 (and3 (and3 (and3 (some (decide (am.RegistrationID.val = regID.val)))
        (inList3 (some (.int am.Status.toNat))
          [.int (statusToUint .valid).toNat, .int (statusToUint .deactivated).toNat]))
        (some (decide ((issued.Add (SInt.wrap (-1000000000))).toNanos ≤ am.Expires.toNanos))))
        ((am.AttemptedAt.map SqlValue.time).bind fun w => w.cmp "<=" (.time (issued.Add 1000000000))))
        (c.eval am.row rest).1 := rfl

theorem toNat_eq_iff {a b : UInt8} : a.toNat = b.toNat ↔ a = b :=
  ⟨UInt8.toNat.inj, fun h => h ▸ rfl⟩

theorem inList3_status (s : UInt8) :
    inList3 (some (.int s.toNat))
        [.int (statusToUint .valid).toNat, .int (statusToUint .deactivated).toNat] =
      some (s == statusToUint .valid || s == statusToUint .deactivated) := by
  simp only [inList3, Option.some_bind, List.foldl_cons, List.foldl_nil]
  simp only [SqlValue.cmp_int_eq, or3_some, Bool.false_or, Nat.cast_inj, toNat_eq_iff,
    beq_eq_decide]
  congr

theorem attempted_eq_some_true (am : authzModel) (hi : Time) :
    ((am.AttemptedAt.map SqlValue.time).bind fun w => w.cmp "<=" (.time hi)) = some true ↔
      am.AttemptedAt.any (fun t => decide (t.toNanos ≤ hi.toNanos)) = true := by
  cases am.AttemptedAt <;> simp

theorem any_ident_eq (idents : List ACMEIdentifier) (am : authzModel) :
    decide (∃ ident ∈ idents, (((identifierTypeToUint ident.type).getD 0).toNat : Int) =
        am.IdentifierType.toNat ∧ ident.value = am.IdentifierValue) =
      idents.any fun ident =>
        (identifierTypeToUint ident.type).getD 0 == am.IdentifierType &&
          ident.value == am.IdentifierValue := by
  refine Bool.eq_iff_iff.2 ?_
  simp [toNat_eq_iff]

section Select

variable {Record Problem : Type}
  {range : List (IdentifierType × List GoString) → List (IdentifierType × List GoString)}
  {idents : List ACMEIdentifier}

/-- On every row, the `WHERE` clause of the query, with the arguments bound in order, is `TRUE`
iff the row is one the function is for. -/
theorem where_selects (hrange : (range (identsByType idents)).Perm (identsByType idents))
    (regID : Int64) (issued : Time) (am : authzModel) :
    decide (((whereExpr (condOf range idents)).eval am.row
        (matchingIssuanceArgs regID issued ++ (buildIdentifierQueryConditions range idents).2)).1 =
          some true) = MatchesIssuance regID issued idents am := by
  rw [eval_whereExpr, eval_condOf hrange rfl rfl, inList3_status, any_ident_eq]
  refine Bool.eq_iff_iff.2 ?_
  simp only [decide_eq_true_iff, and3_eq_some_true, attempted_eq_some_true, MatchesIssuance,
    Bool.and_eq_true, Option.some.injEq, decide_eq_true_eq]

/-- **`SelectAuthzsMatchingIssuance` reads the rows it is for.**  Over a table whose selector
evaluates the query as SQL, for every identifier list and every iteration order, the query binds
(one argument per placeholder) and the result is `modelToAuthzPB` of exactly the rows of the
account, valid or deactivated, expiring no earlier than a second before `issued`, attempted no
later than a second after it, for one of the identifiers. -/
theorem SelectAuthzsMatchingIssuance_tableSelector
    (hrange : (range (identsByType idents)).Perm (identsByType idents))
    (populateAttemptedFields : authzModel → Challenge Record Problem →
      Except GoError (Challenge Record Problem))
    (table : List authzModel) (regID : Int64) (issued : Time) :
    SelectAuthzsMatchingIssuance populateAttemptedFields (tableSelector table) range regID issued
        idents =
      (table.filter (MatchesIssuance regID issued idents)).mapM
        (modelToAuthzPB populateAttemptedFields) := by
  have hbal := balanced_tokenize_buildIdentifierQueryConditions range idents
  obtain ⟨fuel, hf⟩ : ∃ fuel, (whereHead ++ (Tok.lparen ::
      tokenize (buildIdentifierQueryConditions range idents).1 ++ [Tok.rparen])).length + 1 =
        fuel + 2 :=
    ⟨(tokenize (buildIdentifierQueryConditions range idents).1).length + 21, by simp [whereHead]⟩
  have hparse := parseExpr_where hbal fuel (parseExpr_buildIdentifierQueryConditions hrange fuel)
  have harity : (whereExpr (condOf range idents)).arity =
      (matchingIssuanceArgs regID issued ++ (buildIdentifierQueryConditions range idents).2).length := by
    simp [whereExpr, Expr.arity, arity_condOf hrange, matchingIssuanceArgs]
    omega
  simp only [SelectAuthzsMatchingIssuance, tableSelector, whereTokens_matchingIssuanceQuery,
    Option.some_bind, hf, hparse, if_pos harity]
  show List.mapM _ (List.filter _ table) = _
  rw [List.filter_congr fun am _ => where_selects hrange regID issued am]

end Select

/-- **The identifier conditions and the query around them.**  For every identifier list and
every order in which `range` visits the map of identifiers by type: the condition has exactly one
placeholder per argument; it is `FALSE` or the conditions of some group sizes joined by `OR`, so
no identifier text enters it, and it is `FALSE` for no identifiers; read as SQL, with `AND`
binding tighter than `OR` and the arguments bound in order, on a row of type code `t` and value
`v` it is `TRUE` iff some identifier has them and `FALSE` otherwise; and over any table,
`SelectAuthzsMatchingIssuance` binds its query (regID, the two status codes, the two times, then
the identifier arguments) and returns exactly the rows of `MatchesIssuance`. -/
theorem buildIdentifierQueryConditions_sound
    (range : List (IdentifierType × List GoString) → List (IdentifierType × List GoString))
    (idents : List ACMEIdentifier)
    (hrange : (range (identsByType idents)).Perm (identsByType idents)) :
    (buildIdentifierQueryConditions range idents).1.toList.count '?' =
        (buildIdentifierQueryConditions range idents).2.length ∧
      ((buildIdentifierQueryConditions range idents).1 = "FALSE" ∨
        ∃ ks : List Nat, (buildIdentifierQueryConditions range idents).1 =
          Join (ks.map identCondition) " OR ") ∧
      (idents = [] → (buildIdentifierQueryConditions range idents).1 = "FALSE") ∧
      (∀ (row : Row) (t : Int) (v : GoString), row "identifierType" = some (.int t) →
        row "identifierValue" = some (.text v) →
        evalCond (tokenize (buildIdentifierQueryConditions range idents).1)
            (buildIdentifierQueryConditions range idents).2 row =
          some (some (decide (∃ ident ∈ idents,
            (((identifierTypeToUint ident.type).getD 0).toNat : Int) = t ∧ ident.value = v)))) ∧
      ∀ {Record Problem : Type} (populateAttemptedFields : authzModel → Challenge Record Problem →
          Except GoError (Challenge Record Problem)) (table : List authzModel) (regID : Int64)
        (issued : Time),
        SelectAuthzsMatchingIssuance populateAttemptedFields (tableSelector table) range regID
            issued idents =
          (table.filter (MatchesIssuance regID issued idents)).mapM
            (modelToAuthzPB populateAttemptedFields) :=
  ⟨count_buildIdentifierQueryConditions range idents,
    buildIdentifierQueryConditions_fixed range idents,
    fun h => by simp [buildIdentifierQueryConditions, h],
    fun _ _ _ ht hv => evalCond_buildIdentifierQueryConditions hrange ht hv,
    fun P table regID issued => SelectAuthzsMatchingIssuance_tableSelector hrange P table regID issued⟩

/-- Two `dns` names and an address, with the map visited in reverse. -/
theorem buildIdentifierQueryConditions_sound_reversed :
    let range : List (IdentifierType × List GoString) → List (IdentifierType × List GoString) :=
      List.reverse
    let idents : List ACMEIdentifier :=
      [⟨TypeDNS, "a.example".toList⟩, ⟨TypeIP, "10.0.0.1".toList⟩, ⟨TypeDNS, "b.example".toList⟩]
    (range (identsByType idents)).Perm (identsByType idents) ∧
    (buildIdentifierQueryConditions range idents).1.toList.count '?' =
        (buildIdentifierQueryConditions range idents).2.length ∧
      ((buildIdentifierQueryConditions range idents).1 = "FALSE" ∨
        ∃ ks : List Nat, (buildIdentifierQueryConditions range idents).1 =
          Join (ks.map identCondition) " OR ") ∧
      (idents = [] → (buildIdentifierQueryConditions range idents).1 = "FALSE") ∧
      (∀ (row : Row) (t : Int) (v : GoString), row "identifierType" = some (.int t) →
        row "identifierValue" = some (.text v) →
        evalCond (tokenize (buildIdentifierQueryConditions range idents).1)
            (buildIdentifierQueryConditions range idents).2 row =
          some (some (decide (∃ ident ∈ idents,
            (((identifierTypeToUint ident.type).getD 0).toNat : Int) = t ∧ ident.value = v)))) ∧
      ∀ {Record Problem : Type} (populateAttemptedFields : authzModel → Challenge Record Problem →
          Except GoError (Challenge Record Problem)) (table : List authzModel) (regID : Int64)
        (issued : Time),
        SelectAuthzsMatchingIssuance populateAttemptedFields (tableSelector table) range regID
            issued idents =
          (table.filter (MatchesIssuance regID issued idents)).mapM
            (modelToAuthzPB populateAttemptedFields) :=
  ⟨List.reverse_perm _, buildIdentifierQueryConditions_sound List.reverse _ (List.reverse_perm _)⟩

end Boulder
