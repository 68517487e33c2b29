import SchemaGraph.Proofs.Numeral
import SchemaGraph.Proofs.Parsing
import SchemaGraph.Source.Constant

/-! The values of literal expressions: an integer literal with signs around it has the number that they leave
where that has 64 bits and is not the least such number, and a list has the list of the values in it. -/
namespace SchemaGraph.Source

variable {rest : List Char} {ts : List Token} {g : Grammar} {t : Token} {a : Expr}

/-- An integer literal with parentheses and signs around it. -/
inductive Signed where
  | literal (x : Numeral)
  | paren (e : Signed)
  | negated (e : Signed)

namespace Signed

def text : Signed → List Char
  | literal x => x.text
  | paren e => '(' :: (e.text ++ [')'])
  | negated e => '-' :: e.text

/-- The number that the signs leave. -/
def value : Signed → Int
  | literal x => x.value
  | paren e => e.value
  | negated e => -e.value

def isNegated : Signed → Bool
  | negated _ => true
  | _ => false

def tokens : Signed → List Token
  | literal x => [.literal (.int x.value (String.ofList x.suffix))]
  | paren e => [.group .paren e.tokens]
  | negated e => .punct '-' e.isNegated :: e.tokens

theorem tokens_ne_nil (e : Signed) : e.tokens ≠ [] := by
  cases e <;> exact List.cons_ne_nil _ _

def expr : Signed → Expr
  | literal x => .constant (.token (.int x.value (String.ofList x.suffix)))
  | paren e => .paren e.expr
  | negated e => .negated e.expr

theorem startsPunctuation_text (e : Signed) (rest : List Char) :
    startsPunctuation (e.text ++ rest) = e.isNegated := by
  cases e with
  | literal x =>
    obtain ⟨c, w, htext, hc⟩ := x.exists_figure
    rw [text, htext]
    have hpunct := hc.notPunctuation
    simp [startsPunctuation, -List.contains_eq_mem, hpunct, isNegated]
  | paren e => rfl
  | negated e => rfl

theorem head?_text (e : Signed) : e.text.head? ≠ some '\uFEFF' := by
  cases e with
  | literal x =>
    obtain ⟨c, w, htext, hc⟩ := x.exists_figure
    rw [text, htext, List.head?_cons]
    rintro ⟨⟩
    exact absurd hc.ascii (by decide)
  | paren e => simp [text]
  | negated e => simp [text]

theorem scans_text (e : Signed) {rest : List Char} {ts : List FlatToken} (hrest : Closed rest)
    (h : Scans rest ts) : Scans (e.text ++ rest) (Token.flatAll e.tokens ++ ts) := by
  induction e generalizing rest ts with
  | literal x => exact h.numeral x hrest
  | paren e ih =>
    have hopen : delimiter? '(' = some (.paren, true) := rfl
    have hclose : delimiter? ')' = some (.paren, false) := rfl
    have hclosed : Closed (')' :: rest) := by
      rintro c ⟨⟩
      rfl
    have hinner := ih hclosed (h.bracket hclose (by decide) (by decide))
    have houter := hinner.bracket hopen (by decide) (by decide)
    rw [text, tokens, Token.flatAll]
    simpa [Token.flat, Token.flatAll] using houter
  | negated e ih =>
    have hmark := (ih hrest h).mark (c := '-') (by decide)
    -- a sign is joint with what follows exactly if that starts with a sign
    rw [e.startsPunctuation_text] at hmark
    exact hmark

theorem parenExpr_apply {g : Grammar} {t : Token} {ts : List Token} {a : Expr}
    (h : g.expr true (t :: ts) = some (a, [])) :
    Grammar.parenExpr g [.group .paren (t :: ts)] = some (.paren a, []) := by
  simp only [Grammar.parenExpr, Parser.group, Parser.bind_apply, Parser.pure_apply, Parser.isEnd,
    Parser.ahead_apply, h, if_true, Option.bind_some, List.isEmpty_cons, List.isEmpty_nil,
    Bool.false_eq_true, if_false]

theorem operandWith_paren {g : Grammar} {t : Token} {ts : List Token} {a : Expr}
    (h : g.expr true (t :: ts) = some (a, [])) :
    Grammar.operandWith g true [.group .paren (t :: ts)] = some (.paren a, []) := by
  have hstep : Grammar.operandWith g true [.group .paren (t :: ts)] =
      (Grammar.parenExpr g [.group .paren (t :: ts)]).bind
        (fun r => (Grammar.trailers g r.1 r.2).bind (fun r => some (r.1, r.2))) := rfl
  rw [hstep, parenExpr_apply h]
  rfl

theorem operandWith_negated {g : Grammar} {joint : Bool} {ts : List Token} {a : Expr}
    (h : g.operand true ts = some (a, [])) :
    Grammar.operandWith g true (.punct '-' joint :: ts) = some (.negated a, []) := by
  have hstep : Grammar.operandWith g true (.punct '-' joint :: ts) =
      (g.operand true >>= fun a => pure (.negated a)) ts := rfl
  rw [hstep, Parser.bind_apply, h]
  rfl

theorem exprWith_of_operandWith {g : Grammar} {ts : List Token} {a : Expr}
    (h : Grammar.operandWith g true ts = some (a, [])) (ha : a ≠ .range) :
    Grammar.exprWith g true ts = some (a, []) := by
  have hstep : Grammar.operatorsWith g a true Strength.none [] = some (a, []) := by
    cases a with
    | range => exact absurd rfl ha
    | _ => rfl
  rw [Grammar.exprWith, Parser.bind_apply, h]
  exact hstep

/-- The tokens are read as the expression by every grammar that is as deep as they are many. -/
theorem operand_tokens (e : Signed) {n : Nat} (hn : Token.sizeAll e.tokens ≤ n) :
    (Grammar.level n).operand true e.tokens = some (e.expr, []) ∧
      (Grammar.level n).expr true e.tokens = some (e.expr, []) := by
  induction e generalizing n with
  | literal x =>
    obtain ⟨n, rfl⟩ := Nat.exists_eq_add_of_le' (show 1 ≤ n from hn)
    exact ⟨rfl, rfl⟩
  | paren e ih =>
    have hsize : Token.sizeAll e.paren.tokens = 1 + Token.sizeAll e.tokens := rfl
    obtain ⟨n, rfl⟩ := Nat.exists_eq_add_of_le' (show 1 ≤ n by omega)
    obtain ⟨t, ts, htokens⟩ := List.exists_cons_of_ne_nil e.tokens_ne_nil
    -- a group is a token of its own beside those in it, and takes one level of the grammar
    have hexpr := (ih (n := n) (by omega)).2
    rw [htokens] at hexpr
    rw [tokens, htokens]
    have hoperand := operandWith_paren hexpr
    exact ⟨hoperand, exprWith_of_operandWith hoperand Expr.noConfusion⟩
  | negated e ih =>
    have hsize : Token.sizeAll e.negated.tokens = 1 + Token.sizeAll e.tokens := rfl
    obtain ⟨n, rfl⟩ := Nat.exists_eq_add_of_le' (show 1 ≤ n by omega)
    have hexpr := (ih (n := n) (by omega)).1
    have hoperand : Grammar.operandWith _ true (.punct '-' e.isNegated :: e.tokens) = _ :=
      operandWith_negated hexpr
    exact ⟨hoperand, exprWith_of_operandWith hoperand Expr.noConfusion⟩

/-- The text is read as the expression. -/
theorem ofText?_text (e : Signed) : Expr.ofText? (String.ofList e.text) = some e.expr := by
  have htokens : tokens? (String.ofList e.text) = some e.tokens := by
    have hclosed : Closed [] := by rintro _ ⟨⟩
    have hscan := e.scans_text hclosed scans_nil
    rw [List.append_nil, List.append_nil] at hscan
    exact hscan.tokens? e.head?_text
  have hread := (e.operand_tokens (n := 4 * Token.sizeAll e.tokens + 16) (by omega)).2
  rw [Expr.ofText?, readAll?, htokens, Option.bind_eq_bind, Option.bind_some, Parser.complete,
    Grammar.forTokens, hread]

end Signed

/-! Values. -/

/-- The integers of 64 bits without the least. -/
def Balanced (i : Int) : Prop := -2 ^ 63 < i ∧ i < 2 ^ 63

instance (i : Int) : Decidable (Balanced i) := inferInstanceAs (Decidable (_ ∧ _))

theorem balanced_neg {i : Int} : Balanced (-i) ↔ Balanced i := by
  unfold Balanced
  omega

/-- The value of a literal with signs is the number that they leave, where that is balanced. -/
theorem Signed.json?_expr (e : Signed) :
    e.expr.json? = if Balanced e.value then some (.int e.value) else none := by
  induction e with
  | literal x =>
    -- the literal is checked before its sign is known, so the bound is the same on both sides
    have hiff : Balanced (x.value : Int) ↔ x.value < Nat.pow 2 63 := by
      rw [show Nat.pow 2 63 = 9223372036854775808 from rfl, Balanced]
      omega
    simp only [expr, value, Expr.json?, Constant.json?, hiff]
  | paren e ih => exact ih
  | negated e ih =>
    simp only [expr, value, Expr.json?, ih, balanced_neg]
    split <;> rfl

theorem negated?_int {j : Json} {i : Int} (h : negated? j = some (.int i)) : j = .int (-i) := by
  cases j with
  | int n =>
    have hn : -n = i := by simpa [negated?] using h
    rw [← hn, Int.neg_neg]
  | _ => simp [negated?] at h

/-- No value of an expression is the least integer of 64 bits, so its opposite has 64 bits too. -/
theorem Expr.balanced_of_json? : ∀ {e : Expr} {i : Int}, e.json? = some (.int i) → Balanced i
  | constant (.token (.int n _)), i, h => by
    rw [json?, Constant.json?] at h
    split at h
    case isTrue hn =>
      rw [show Nat.pow 2 63 = 9223372036854775808 from rfl] at hn
      cases h
      rw [Balanced]
      omega
    case isFalse => cases h
  | constant (.token (.float x _)), i, h => by
    rw [json?, Constant.json?] at h
    split at h <;> cases h
  | constant (.token (.str _)), i, h | constant (.token .other), i, h | constant (.bool _), i, h => by cases h
  | negated e, i, h => by
    obtain ⟨j, hj, hneg⟩ := Option.bind_eq_some_iff.mp h
    rw [negated?_int hneg] at hj
    exact balanced_neg.mp (balanced_of_json? hj)
  | paren e, i, h => balanced_of_json? (e := e) h
  | array items, i, h => by
    rw [json?, Option.map_eq_some_iff] at h
    obtain ⟨vs, -, ⟨⟩⟩ := h
  | range, i, h | comparison, i, h | blockLike, i, h | bracedCall, i, h | other, i, h => by cases h

theorem Expr.jsons?_eq_some {items : List Expr} {vs : List Json} :
    jsons? items = some vs ↔ items.map json? = vs.map some := by
  induction items generalizing vs with
  | nil => cases vs <;> simp [jsons?]
  | cons e es ih =>
    have hcons : jsons? (e :: es) = e.json?.bind (fun v => (jsons? es).bind (fun vs => some (v :: vs))) := rfl
    rw [hcons]
    cases vs with
    | nil => simp [Option.bind_eq_some_iff]
    | cons v vs => simp [Option.bind_eq_some_iff, ← ih]

/-- A list of expressions has the list of their values, and none where an element has none. -/
theorem Expr.json?_array {items : List Expr} {j : Json} :
    (array items).json? = some j ↔ ∃ vs, j = .arr vs ∧ items.map json? = vs.map some := by
  simp only [json?, Option.map_eq_some_iff, jsons?_eq_some]
  exact exists_congr (fun vs => ⟨fun h => ⟨h.2.symm, h.1⟩, fun h => ⟨h.2, h.1.symm⟩⟩)

theorem Expr.isSome_json?_array {items : List Expr} :
    (array items).json?.isSome = items.all (·.json?.isSome) := by
  rw [json?, Option.isSome_map]
  induction items with
  | nil => rfl
  | cons e es ih =>
    rw [List.all_cons, ← ih, jsons?]
    cases e.json? with
    | none => rfl
    | some v => cases jsons? es <;> rfl

namespace Signed

/-- An integer literal with any parentheses and signs around it is read as written, and its value is the
number that the signs leave if that lies strictly between `-2 ^ 63` and `2 ^ 63`; there is none otherwise. No
opposite that is taken on the way leaves the integers of 64 bits, in any expression. A list of expressions has
a value exactly if all of them have one, and then it is the list of their values. -/
theorem json?_text (e : Signed) (items : List Expr) :
    (Expr.ofText? (String.ofList e.text) = some e.expr ∧
      e.expr.json? = if Balanced e.value then some (.int e.value) else none) ∧
    (∀ (a : Expr) (i : Int), a.json? = some (.int i) → Balanced i) ∧
    (∀ j, (Expr.array items).json? = some j ↔
      ∃ vs, j = .arr vs ∧ items.map Expr.json? = vs.map some) ∧
    (Expr.array items).json?.isSome = items.all (·.json?.isSome) :=
  ⟨⟨e.ofText?_text, e.json?_expr⟩, fun _ _ => Expr.balanced_of_json?, fun _ => Expr.json?_array,
    Expr.isSome_json?_array⟩

example : (Expr.ofText? "-(-0x7F_FFi64)").bind Expr.json? = some (.int 32767) := by decide +kernel

/-- The least integer of 64 bits. -/
def least : Signed :=
  .negated (.literal
    { radix := .decimal
      digits := "9223372036854775808".toList
      suffix := []
      digits_all := by decide
      digits_any := by decide
      digits_head := by decide
      suffix_all := by decide
      suffix_head := by rintro _ ⟨⟩ })

/-- The least integer of 64 bits is an integer of 64 bits, but its text has no value: the literal has one bit
too many before its sign is known. -/
theorem not_json?_least :
    String.ofList least.text = "-9223372036854775808" ∧ least.value = -2 ^ 63 ∧
      (Expr.ofText? "-9223372036854775808").bind Expr.json? = none := by
  decide +kernel

end Signed

end SchemaGraph.Source
