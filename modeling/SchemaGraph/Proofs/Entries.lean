import SchemaGraph.Proofs.Parsing
import SchemaGraph.Source.Entries

/-! The entries of an attribute's list. A key is read up to its value, and of a complete value each reading
takes the same whatever follows, so that a comma after it is the end of the entry. -/
namespace SchemaGraph.Source

variable {α σ : Type} {v rest : List Token} {p : Parser α}

/-- Whether tokens can follow an entry: none, or a comma. -/
def EndsEntry (rest : List Token) : Prop := rest = [] ∨ ∃ joint more, rest = .punct ',' joint :: more

/-- Whether what stands after a key is complete: nothing, an expression after an equals sign that is read up
to the comma, or entries in parentheses. -/
inductive Complete (v : List Token) : Prop
  | bare (h : v = [])
  | value (e : Expr) (h : ∀ rest, EndsEntry rest → EntryValue.expr (v ++ rest) = some (e, rest))
  | list (content : List Token) (h : v = [.group .paren content])
    (hskip : ∀ fuel, Token.sizeAll v ≤ fuel → (EntryValue.skip fuel v).rest = some [])

/-- Whether a reading takes the same of a value whatever follows, and does not stop at a comma in it. -/
structure Settled (p : Parser α) (v : List Token) : Prop where
  append : ∀ rest, EndsEntry rest → p (v ++ rest) = (p v).map (fun r => (r.1, r.2 ++ rest))
  comma : ∀ r ∈ p v, Ahead.isPunct "," r.2 = false

theorem EndsEntry.nil : EndsEntry [] := .inl rfl

theorem exists_punct {p : String} {c : Char} {ts : List Token} (hp : p.toList = [c])
    (h : Ahead.isPunct p ts = true) : ∃ joint w, ts = .punct c joint :: w := by
  rw [Ahead.isPunct, hp] at h
  cases ts with
  | nil => cases h
  | cons t w =>
    cases t with
    | punct c' joint =>
      have hc : c = c' := by simpa [Ahead.isChars] using h
      exact ⟨joint, w, by rw [hc]⟩
    | _ => cases h

theorem expr_equals (joint : Bool) (w : List Token) :
    EntryValue.expr (.punct '=' joint :: w) =
      (Grammar.forTokens (.punct '=' joint :: w)).expr true w := rfl

/-- The tokens of a value that is an expression start with an equals sign. -/
theorem exists_equals {e : Expr}
    (h : ∀ rest, EndsEntry rest → EntryValue.expr (v ++ rest) = some (e, rest)) :
    ∃ joint w, v = .punct '=' joint :: w := by
  have hread := h [] .nil
  rw [List.append_nil] at hread
  refine @exists_punct "=" _ _ rfl (Bool.of_not_eq_false (fun hpunct => ?_))
  simp [EntryValue.expr, Parser.bind_apply, Parser.punct, hpunct] at hread

theorem exprWith_literal {g : Grammar} (l : Literal) (hrest : EndsEntry rest) :
    Grammar.exprWith g true (.literal l :: rest) = some (.constant (.token l), rest) := by
  rcases hrest with rfl | ⟨joint, more, rfl⟩
  · rfl
  · cases joint <;> rfl

theorem exprWith_true {g : Grammar} (hrest : EndsEntry rest) :
    Grammar.exprWith g true (.ident "true" :: rest) = some (.constant (.bool true), rest) := by
  rcases hrest with rfl | ⟨joint, more, rfl⟩
  · rfl
  · cases joint <;> rfl

theorem exprWith_false {g : Grammar} (hrest : EndsEntry rest) :
    Grammar.exprWith g true (.ident "false" :: rest) = some (.constant (.bool false), rest) := by
  rcases hrest with rfl | ⟨joint, more, rfl⟩
  · rfl
  · cases joint <;> rfl

/-- What an expression is read to after an equals sign. -/
theorem expr_of_exprWith {w : List Token} {e : Expr} (joint : Bool)
    (h : ∀ g, Grammar.exprWith g true w = some (e, rest)) :
    EntryValue.expr (.punct '=' joint :: w) = some (e, rest) := by
  obtain ⟨n, hn⟩ : ∃ n, 4 * Token.sizeAll (.punct '=' joint :: w) + 16 = n + 1 := ⟨_, rfl⟩
  rw [expr_equals, Grammar.forTokens, hn]
  exact h _

/-- No comma follows at once where a token is an expression by itself. -/
theorem isPunct_comma_eq_false {t : Token} {w : List Token} {joint : Bool} {e : Expr}
    (h : EntryValue.expr (.punct '=' joint :: t :: w) = some (e, []))
    (ht : ∀ rest, EndsEntry rest → ∃ e, ∀ g, Grammar.exprWith g true (t :: rest) = some (e, rest)) :
    Ahead.isPunct "," w = false := by
  refine Bool.eq_false_iff.mpr (fun hcomma => ?_)
  have hends : EndsEntry w := .inr (exists_punct rfl hcomma)
  obtain ⟨e', hread⟩ := ht w hends
  rw [expr_of_exprWith joint hread] at h
  obtain ⟨-, rfl⟩ := Prod.mk.inj (Option.some.inj h)
  cases hcomma

/-- A reading of the token after an equals sign is settled if it takes nothing but whole expressions. -/
theorem settled_token (q : Token → Option α) {e : Expr}
    (h : ∀ rest, EndsEntry rest → EntryValue.expr (v ++ rest) = some (e, rest))
    (hend : ∀ joint rest, EndsEntry rest → p (.punct '=' joint :: rest) = none)
    (htoken : ∀ joint t w, p (.punct '=' joint :: t :: w) = (q t).map (·, w))
    (hexpr : ∀ t, (q t).isSome → ∃ e, ∀ rest, EndsEntry rest →
      ∀ g, Grammar.exprWith g true (t :: rest) = some (e, rest)) : Settled p v := by
  have hread := h [] .nil
  obtain ⟨joint, w, rfl⟩ := exists_equals h
  cases w with
  | nil =>
    have hnone : p [.punct '=' joint] = none := hend joint [] .nil
    refine ⟨fun rest hrest => ?_, fun r hr => ?_⟩
    · rw [List.cons_append, List.nil_append, hend joint rest hrest, hnone]
      rfl
    · rw [hnone] at hr
      cases hr
  | cons t w =>
    refine ⟨fun rest hrest => ?_, fun r hr => ?_⟩
    · rw [List.cons_append, List.cons_append, htoken, htoken, Option.map_map]
      rfl
    · rw [htoken, Option.mem_def, Option.map_eq_some_iff] at hr
      obtain ⟨a, ha, rfl⟩ := hr
      -- a comma after the token would leave it as the whole value, with the comma unread
      obtain ⟨e', he'⟩ := hexpr t (by rw [ha]; rfl)
      rw [List.append_nil] at hread
      exact isPunct_comma_eq_false hread (fun rest hrest => ⟨e', he' rest hrest⟩)

/-- The literal of a token. -/
def Token.literal? : Token → Option Literal
  | .literal l => some l
  | _ => none

/-- The truth value that a token writes. -/
def Token.bool? : Token → Option Bool
  | .ident s => if s = "true" then some true else if s = "false" then some false else none
  | _ => none

/-- The text of a literal. -/
def Literal.text? : Literal → Option String
  | .str s => some s
  | _ => none

/-- The count of 64 bits that a literal writes. -/
def Literal.count? : Literal → Option Nat
  | .int n _ => if n < Nat.pow 2 64 then some n else none
  | _ => none

/-- The truth value of a constant. -/
def Constant.bool? : Constant → Option Bool
  | .bool b => some b
  | _ => none

/-- The reading of a literal after an equals sign is settled. -/
theorem settled_literal (q : Literal → Option α)
    (hp : ∀ ts, p ts = (Parser.punct "=" ts).bind (fun r =>
      match r.2 with
      | .literal l :: ts => (q l).map (·, ts)
      | _ => none)) (hv : Complete v) : Settled p v := by
  have hend : ∀ rest, EndsEntry rest → p rest = none := by
    rintro rest (rfl | ⟨joint, more, rfl⟩) <;> exact hp _
  cases hv with
  | bare h =>
    subst h
    refine ⟨fun rest hrest => ?_, fun r hr => ?_⟩
    · rw [List.nil_append, hend rest hrest, hend [] .nil]
      rfl
    · rw [hend [] .nil] at hr
      cases hr
  | list content h =>
    subst h
    have hgroup : ∀ rest, p (.group .paren content :: rest) = none := fun rest => hp _
    refine ⟨fun rest hrest => ?_, fun r hr => ?_⟩
    · rw [List.cons_append, List.nil_append, hgroup, hgroup]
      rfl
    · rw [hgroup] at hr
      cases hr
  | value e h =>
    refine settled_token (fun t => t.literal?.bind q) h ?_ ?_ ?_
    · rintro joint rest (rfl | ⟨joint', more, rfl⟩) <;> exact hp _
    · intro joint t w
      rw [hp]
      cases t <;> rfl
    · intro t ht
      cases t with
      | literal l => exact ⟨_, fun rest hrest g => exprWith_literal l hrest⟩
      | _ => cases ht

theorem settled_string (hv : Complete v) : Settled EntryValue.string v := by
  refine settled_literal Literal.text? (fun ts => ?_) hv
  rw [EntryValue.string, Parser.bind_apply]
  congr 1
  funext ⟨_, ts⟩
  cases ts with
  | nil => rfl
  | cons t ts =>
    cases t with
    | literal l => cases l <;> rfl
    | _ => rfl

theorem settled_count (hv : Complete v) : Settled EntryValue.count v := by
  refine settled_literal Literal.count? (fun ts => ?_) hv
  rw [EntryValue.count, Parser.bind_apply]
  congr 1
  funext ⟨_, ts⟩
  cases ts with
  | nil => rfl
  | cons t ts =>
    cases t with
    | literal l =>
      cases l with
      | int n suffix =>
        have hliteral : Parser.literal (.literal (.int n suffix) :: ts) = some (.int n suffix, ts) := rfl
        simp only [Parser.bind_apply, hliteral, Option.bind_some, Literal.count?]
        split <;> rfl
      | _ => rfl
    | _ => rfl

theorem flag_equals (joint : Bool) (w : List Token) :
    EntryValue.flag (.punct '=' joint :: w) =
      (Parser.constant w).bind (fun r => r.1.bool?.map (·, r.2)) := by
  have hopt : Parser.optPunct "=" (.punct '=' joint :: w) = some (true, w) := rfl
  rw [EntryValue.flag, Parser.bind_apply, hopt, Option.bind_some,
    if_neg (show ¬(!(true, w).1) = true from Bool.false_ne_true), Parser.bind_apply]
  congr 1
  funext ⟨c, ts⟩
  cases c <;> rfl

theorem settled_flag (hv : Complete v) : Settled EntryValue.flag v := by
  cases hv with
  | bare h =>
    subst h
    refine ⟨?_, ?_⟩
    · rintro rest (rfl | ⟨joint, more, rfl⟩) <;> rfl
    · rintro r ⟨⟩
      rfl
  | list content h =>
    subst h
    refine ⟨fun rest hrest => rfl, ?_⟩
    rintro r ⟨⟩
    rfl
  | value e h =>
    refine settled_token Token.bool? h ?_ ?_ ?_
    · rintro joint rest (rfl | ⟨joint', more, rfl⟩) <;> rfl
    · intro joint t w
      rw [flag_equals]
      cases t with
      | ident s =>
        by_cases htrue : s = "true"
        · subst htrue
          rfl
        · by_cases hfalse : s = "false"
          · subst hfalse
            rfl
          · simp [Parser.constant, Token.bool?, htrue, hfalse]
      | punct c joint =>
        -- the only constants that start with punctuation are negative numbers
        unfold Parser.constant
        split
        case h_1 heq | h_2 heq | h_3 heq => cases heq
        case h_4 | h_5 | h_6 => rfl
      | _ => rfl
    · intro t ht
      cases t with
      | ident s =>
        by_cases htrue : s = "true"
        · subst htrue
          exact ⟨_, fun rest hrest g => exprWith_true hrest⟩
        · by_cases hfalse : s = "false"
          · subst hfalse
            exact ⟨_, fun rest hrest g => exprWith_false hrest⟩
          · simp [Token.bool?, htrue, hfalse] at ht
      | _ => cases ht

theorem settled_expr (hv : Complete v) : Settled EntryValue.expr v := by
  cases hv with
  | bare h =>
    subst h
    refine ⟨?_, by rintro _ ⟨⟩⟩
    rintro rest (rfl | ⟨joint, more, rfl⟩) <;> rfl
  | value e h =>
    have hread := h [] .nil
    rw [List.append_nil] at hread
    refine ⟨fun rest hrest => by rw [h rest hrest, hread]; rfl, ?_⟩
    rw [hread]
    rintro _ ⟨⟩
    rfl
  | list content h =>
    subst h
    exact ⟨fun _ _ => rfl, by rintro _ ⟨⟩⟩

/-- What is made of a settled reading is settled. -/
theorem Settled.bind {β : Type} {q : Parser β} (h : Settled p v) (f : α → Option β)
    (hq : ∀ ts, q ts = (p ts).bind (fun r => (f r.1).map (·, r.2))) : Settled q v := by
  refine ⟨fun rest hrest => ?_, fun r hr => ?_⟩
  · rw [hq, hq, h.append rest hrest]
    cases p v with
    | none => rfl
    | some r => simp [Option.map_map, Function.comp_def]
  · rw [hq, Option.mem_def, Option.bind_eq_some_iff] at hr
    obtain ⟨r', hr', hr⟩ := hr
    obtain ⟨b, -, rfl⟩ := Option.map_eq_some_iff.mp hr
    exact h.comma r' hr'

/-- The number of a value that is one. -/
def numberOf? : Json → Option Binary64
  | .int n => some (.ofInt n)
  | .float x => some x
  | _ => none

theorem settled_number (hv : Complete v) : Settled EntryValue.number v := by
  refine (settled_expr hv).bind (fun e => e.json?.bind numberOf?) (fun ts => ?_)
  rw [EntryValue.number, Parser.bind_apply]
  congr 1
  funext ⟨e, ts⟩
  dsimp only
  cases e.json? with
  | none => rfl
  | some j => cases j <;> rfl

theorem settled_json (hv : Complete v) : Settled EntryValue.json v :=
  (settled_expr hv).bind (fun e => some e.json?) (fun _ => rfl)

/-- What is complete is passed over. -/
theorem rest_pass {s : σ} (hv : Complete v) (hrest : EndsEntry rest) :
    (EntryValue.pass s (v ++ rest)).rest = some rest := by
  change (EntryValue.skip (Token.sizeAll (v ++ rest)) (v ++ rest)).rest = some rest
  cases hv with
  | bare h =>
    subst h
    generalize Token.sizeAll ([] ++ rest) = fuel
    rcases hrest with rfl | ⟨joint, more, rfl⟩ <;> cases fuel <;> rfl
  | value e h =>
    have hread := h rest hrest
    obtain ⟨joint, w, rfl⟩ := exists_equals h
    have htake : ∀ fuel, EntryValue.skip fuel (.punct '=' joint :: w ++ rest) =
        .take EntryValue.expr (fun _ _ => ()) () (.punct '=' joint :: w ++ rest) := by
      intro fuel
      cases fuel <;> rfl
    rw [htake, Reading.take, hread]
  | list content h hskip =>
    subst h
    rw [List.singleton_append]
    -- the entries in the parentheses are passed over alike, whatever stands behind them
    obtain ⟨n, hn⟩ : ∃ n, Token.sizeAll (.group .paren content :: rest) = n + 1 :=
      ⟨Token.sizeAll content + Token.sizeAll rest, by rw [Token.sizeAll, Token.size]; omega⟩
    have hsize : Token.sizeAll [.group .paren content] ≤ n + 1 := by
      rw [← hn, Token.sizeAll, Token.sizeAll, Token.sizeAll]
      omega
    have hgroup : ∀ ts, (EntryValue.skip (n + 1) (.group .paren content :: ts)).rest =
        (Reading.entries (fun (_ : Unit) _ ts => EntryValue.skip n ts) content.length ()
          content).rest.map (fun _ => ts) := fun ts => rfl
    have hone := hskip (n + 1) hsize
    rw [hgroup, Option.map_eq_some_iff] at hone
    obtain ⟨left, hleft, -⟩ := hone
    rw [hn, hgroup, hleft]
    rfl

/-- The key of an entry: a path of words. -/
structure EntryKey where
  anchored : Bool
  first : String
  more : List String
deriving DecidableEq

namespace EntryKey

def tokens (k : EntryKey) : List Token :=
  (if k.anchored then [.punct ':' true, .punct ':' false] else []) ++
    Grammar.pathTokens (k.first :: k.more)

def path (k : EntryKey) : PathForm :=
  { anchored := k.anchored, segments := (k.first :: k.more).map (·, none) }

theorem exists_eq_succ (k : EntryKey) {ts : List Token} {fuel : Nat}
    (h : (k.tokens ++ ts).length ≤ fuel) : ∃ n, fuel = n + 1 ∧ ts.length ≤ n := by
  rw [tokens, List.length_append, List.length_append, Grammar.pathTokens, List.length_cons] at h
  exact ⟨fuel - 1, by omega, by omega⟩

/-- A key that is a name is that name alone. -/
theorem eq_of_ident? {k : EntryKey} {s : String} (h : k.path.ident? = some s) : k = ⟨false, s, []⟩ := by
  obtain ⟨anchored, first, more⟩ := k
  cases anchored with
  | true => cases h
  | false =>
    cases more with
    | nil =>
      cases h
      rfl
    | cons t more => cases h

/-- A key is read up to its end. -/
theorem key_tokens (k : EntryKey) {ts : List Token} (hts : Ahead.isPunct "::" ts = false) :
    Reading.key (k.tokens ++ ts) = some (k.path, ts) := by
  obtain ⟨anchored, first, more⟩ := k
  have hmore : Parser.ReadsWhile (Ahead.isPunct "::") (do Parser.punct "::"; Parser.anyIdent)
      (more.flatMap (fun s => [.punct ':' true, .punct ':' false, .ident s]) ++ ts) more ts := by
    induction more with
    | nil => exact .done hts
    | cons s more ih => exact .more rfl rfl (Nat.lt_add_of_pos_right (Nat.succ_pos 2)) ih
  have hanchor : Parser.optPunct "::" ((EntryKey.mk anchored first more).tokens ++ ts) =
      some (anchored, .ident first ::
        (more.flatMap (fun s => [.punct ':' true, .punct ':' false, .ident s]) ++ ts)) := by
    cases anchored <;> rfl
  have hfirst : ∀ ts, Parser.anyIdent (.ident first :: ts) = some (first, ts) := fun _ => rfl
  simp only [Reading.key, Parser.bind_apply, Parser.pure_apply, hanchor, hfirst, hmore.whileAhead,
    Option.bind_some, path]

end EntryKey

/-- An entry of an attribute's list: a key with a complete value. -/
structure Entry where
  key : EntryKey
  value : List Token
  complete : Complete value

/-- An entry with a literal after its key. -/
def Entry.ofLiteral (name : String) (l : Literal) : Entry where
  key := ⟨false, name, []⟩
  value := [.punct '=' false, .literal l]
  complete := .value (.constant (.token l))
    (fun _ hrest => expr_of_exprWith false (fun _ => exprWith_literal l hrest))

/-- Whether tokens are the entries of a list, with a comma after each that may be missing after the last. -/
inductive Lists : List Entry → List Token → Prop
  | nil : Lists [] []
  | last (e : Entry) : Lists [e] (e.key.tokens ++ e.value)
  | more {es : List Entry} {c : List Token} (e : Entry) (joint : Bool) (h : Lists es c) :
    Lists (e :: es) (e.key.tokens ++ (e.value ++ .punct ',' joint :: c))

/-- The tokens of entries, with a comma after each but the last. -/
def joined : List Entry → List Token
  | [] => []
  | [e] => e.key.tokens ++ e.value
  | e :: es => e.key.tokens ++ (e.value ++ .punct ',' false :: joined es)

theorem lists_joined (es : List Entry) : Lists es (joined es) := by
  induction es with
  | nil => exact .nil
  | cons e es ih =>
    cases es with
    | nil => exact .last e
    | cons e' es => exact .more e false ih

end SchemaGraph.Source
