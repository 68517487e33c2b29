import SchemaGraph.Source.Syntax

/-! The readings of tokens step by step: loops, lists with a separator, paths and the types that paths write. -/
namespace SchemaGraph.Source

variable {α β : Type} {f : List Token → Bool} {p : Parser α} {ts ts' rest : List Token} {s w : String}
  {ws : List String} {g : Grammar} {a b : α}

namespace Parser

theorem bind_apply (p : Parser α) (f : α → Parser β) (ts : List Token) :
    (p >>= f) ts = (p ts).bind (fun r => f r.1 r.2) := rfl

theorem pure_apply (a : α) (ts : List Token) : (pure a : Parser α) ts = some (a, ts) := rfl

theorem ahead_apply (f : List Token → Bool) (ts : List Token) : ahead f ts = some (f ts, ts) := rfl

theorem second_apply (f : List Token → Bool) (ts : List Token) :
    second f ts = some (f (ts.drop 1), ts) := rfl

theorem third_apply (f : List Token → Bool) (ts : List Token) :
    third f ts = some (f (ts.drop 2), ts) := rfl

theorem optPunct_apply (s : String) (ts : List Token) :
    optPunct s ts =
      if Ahead.isPunct s ts then some (true, ts.drop s.length) else some (false, ts) := rfl

/-- Steps that take tokens, up to one that gives nothing. -/
inductive Runs (step : α → Parser (Option α)) : α → List Token → α → List Token → Prop
  | done {a : α} {ts rest : List Token} (h : step a ts = some (none, rest)) : Runs step a ts a rest
  | more {a a' b : α} {ts ts' rest : List Token} (h : step a ts = some (some a', ts'))
    (hlt : ts'.length < ts.length) (hrest : Runs step a' ts' b rest) : Runs step a ts b rest

theorem Runs.iterate {step : α → Parser (Option α)} (h : Runs step a ts b rest) :
    iterate step a ts = some (b, rest) := by
  -- every step takes a token, so that a loop with more steps than tokens comes to its end
  have hrun : ∀ fuel, ts.length + 1 ≤ fuel → iterateFor step fuel a ts = some (b, rest) := by
    induction h with
    | done h =>
      intro fuel hfuel
      obtain ⟨fuel, rfl⟩ := Nat.exists_eq_add_of_le' (Nat.le_trans (Nat.le_add_left 1 _) hfuel)
      rw [iterateFor, bind_apply, h]
      rfl
    | more h hlt hrest ih =>
      intro fuel hfuel
      obtain ⟨fuel, rfl⟩ := Nat.exists_eq_add_of_le' (Nat.le_trans (Nat.le_add_left 1 _) hfuel)
      rw [iterateFor, bind_apply, h]
      exact ih fuel (by omega)
  exact hrun _ (Nat.le_succ _)

/-- Parts that are read as long as a condition holds. -/
inductive ReadsWhile (f : List Token → Bool) (p : Parser α) : List Token → List α → List Token → Prop
  | done {ts : List Token} (hf : f ts = false) : ReadsWhile f p ts [] ts
  | more {ts ts' rest : List Token} {a : α} {as : List α} (hf : f ts = true)
    (hp : p ts = some (a, ts')) (hlt : ts'.length < ts.length) (h : ReadsWhile f p ts' as rest) :
    ReadsWhile f p ts (a :: as) rest

theorem ReadsWhile.whileAhead {as : List α} (h : ReadsWhile f p ts as rest) :
    whileAhead f p ts = some (as, rest) := by
  -- the loop keeps its parts in reverse, so the induction is for all parts before these
  have hruns : ∀ acc, Runs (fun (acc : List α) => do
      if ← ahead f then return some ((← p) :: acc)
      return none) acc ts (as.reverse ++ acc) rest := by
    induction h with
    | done hf => exact fun acc => .done (by simp [bind_apply, pure_apply, ahead_apply, hf])
    | @more ts ts' rest a as hf hp hlt h ih =>
      intro acc
      have hstep := ih (a :: acc)
      rw [List.append_cons, ← List.reverse_cons] at hstep
      refine .more ?_ hlt hstep
      simp only [bind_apply, pure_apply, ahead_apply, hf, hp, Option.bind_some, if_true]
  rw [Parser.whileAhead, bind_apply, (hruns []).iterate, Option.bind_some, pure_apply,
    List.append_nil, List.reverse_reverse]

/-- Parts that are read with a separator between them. -/
inductive ReadsSeparated (sep : String) (stop : List Token → Bool) (p : Parser α) :
    List Token → List α → List Token → Prop
  | last {ts rest : List Token} {a : α} (hstop : stop ts = false) (hp : p ts = some (a, rest))
    (hlt : rest.length < ts.length) (hsep : Ahead.isPunct sep rest = false) :
    ReadsSeparated sep stop p ts [a] rest
  | more {ts ts' rest : List Token} {a : α} {as : List α} (hstop : stop ts = false)
    (hp : p ts = some (a, ts')) (hlt : ts'.length < ts.length) (hsep : Ahead.isPunct sep ts' = true)
    (h : ReadsSeparated sep stop p (ts'.drop sep.length) as rest) :
    ReadsSeparated sep stop p ts (a :: as) rest

theorem ReadsSeparated.separated {sep : String} {as : List α} (h : ReadsSeparated sep f p ts as rest) :
    separated sep f p ts = some (as, rest) := by
  have hruns : ∀ acc, Runs (fun ((acc, done) : List α × Bool) => do
      if done || (← ahead f) then return none
      let a ← p
      let more ← optPunct sep
      return some (a :: acc, !more)) (acc, false) ts (as.reverse ++ acc, true) rest := by
    induction h with
    | @last ts rest a hstop hp hlt hsep =>
      intro acc
      refine .more ?_ hlt (.done rfl)
      simp only [bind_apply, pure_apply, ahead_apply, optPunct_apply, hstop, hp, hsep,
        Option.bind_some, Bool.or_self, Bool.false_eq_true, if_false]
      rfl
    | @more ts ts' rest a as hstop hp hlt hsep h ih =>
      intro acc
      have hstep := ih (a :: acc)
      rw [List.append_cons, ← List.reverse_cons] at hstep
      refine .more ?_ ?_ hstep
      · simp only [bind_apply, pure_apply, ahead_apply, optPunct_apply, hstop, hp, hsep,
          Option.bind_some, Bool.or_self, Bool.false_eq_true, if_false, if_true]
        rfl
      · rw [List.length_drop]
        omega
  rw [Parser.separated, bind_apply, (hruns []).iterate, Option.bind_some]
  dsimp only
  rw [pure_apply, List.append_nil, List.reverse_reverse]

end Parser

namespace Ahead

theorem isWord_ident (hs : s ∉ keywords) (hw : w ∈ keywords) : isWord w (.ident s :: ts) = false := by
  rw [isWord, beq_eq_false_iff_ne]
  rintro rfl
  exact hs hw

theorem isOneOf_ident (hs : s ∉ keywords) (hws : ws ⊆ keywords) :
    isOneOf ws (.ident s :: ts) = false := by
  simpa [isOneOf] using fun h => hs (hws h)

theorem isIdent_ident (hs : s ∉ keywords) : isIdent (.ident s :: ts) = true := by
  simpa [isIdent] using hs

end Ahead

namespace Grammar
open Source.Parser

theorem segment_plain (hs : s ∉ keywords) (hangle : Ahead.isPunct "<" ts = false)
    (hturbo : (Ahead.isPunct "::" ts && Ahead.isPunct "<" (ts.drop 2)) = false) :
    segment g false (.ident s :: ts) = some ((s, .none), ts) := by
  have hwords : Ahead.isOneOf ["super", "self", "crate", "try"] (.ident s :: ts) = false :=
    Ahead.isOneOf_ident hs (by decide)
  have hself : Ahead.isWord "Self" (.ident s :: ts) = false := Ahead.isWord_ident hs (by decide)
  have hident : ident (.ident s :: ts) = some (s, ts) := by simp [ident, hs]
  simp only [segment, bind_apply, ahead_apply, third_apply, pure_apply, Option.bind_some, hwords, hself,
    hident, hangle, hturbo, Bool.false_eq_true, if_false, Bool.and_false, Bool.false_and, Bool.false_or]

theorem segment_angle {as : List TypeForm} (hs : s ∉ keywords)
    (hangle : angleArguments g (.punct '<' false :: ts) = some (as, rest)) :
    segment g false (.ident s :: .punct '<' false :: ts) = some ((s, some as), rest) := by
  have hwords : ∀ ts, Ahead.isOneOf ["super", "self", "crate", "try"] (.ident s :: ts) = false :=
    fun _ => Ahead.isOneOf_ident hs (by decide)
  have hself : ∀ ts, Ahead.isWord "Self" (.ident s :: ts) = false :=
    fun _ => Ahead.isWord_ident hs (by decide)
  have hident : ∀ ts, ident (.ident s :: ts) = some (s, ts) := by simp [ident, hs]
  have hopen : Ahead.isPunct "<" (.punct '<' false :: ts) = true := rfl
  have hle : Ahead.isPunct "<=" (.punct '<' false :: ts) = false := rfl
  have hcolons : optPunct "::" (.punct '<' false :: ts) = some (false, .punct '<' false :: ts) := rfl
  simp only [segment, bind_apply, ahead_apply, third_apply, pure_apply, Option.bind_some, hwords, hself,
    hident, hopen, hle, hcolons, hangle, Bool.false_eq_true, if_false, Bool.not_false, Bool.and_self,
    Bool.true_or, if_true]

/-- The tokens of a path. -/
def pathTokens : List String → List Token
  | [] => []
  | s :: ss => .ident s :: ss.flatMap (fun s => [.punct ':' true, .punct ':' false, .ident s])

/-- The segments of a path with the arguments of the last. -/
def pathSegments (args : Option (List TypeForm)) :
    List String → List (String × Option (List TypeForm))
  | [] => []
  | [s] => [(s, args)]
  | s :: ss => (s, .none) :: pathSegments args ss

/-- Whether an identifier and what follows it are read as the last segment of a path. -/
def EndsPath (g : Grammar) (ts : List Token) (args : Option (List TypeForm)) (rest : List Token) : Prop :=
  (∀ s, s ∉ keywords → segment g false (.ident s :: ts) = some ((s, args), rest)) ∧
    Ahead.isPunct "::" rest = false

theorem segment_more (hs : s ∉ keywords) (t : String) :
    segment g false (.ident s :: .punct ':' true :: .punct ':' false :: .ident t :: ts) =
      some ((s, .none), .punct ':' true :: .punct ':' false :: .ident t :: ts) :=
  segment_plain hs rfl rfl

theorem readsWhile_segments {ss : List String} {args : Option (List TypeForm)} (hs : s ∉ keywords)
    (hss : ∀ s ∈ ss, s ∉ keywords) (h : EndsPath g ts args rest) (hlt : rest.length ≤ ts.length) :
    ReadsWhile startsRest (do punct "::"; segment g false)
      (.punct ':' true :: .punct ':' false :: (pathTokens (s :: ss) ++ ts))
      (pathSegments args (s :: ss)) rest := by
  induction ss generalizing s with
  | nil =>
    have hend : startsRest rest = false := by
      rw [startsRest, h.2, Bool.false_and]
    refine .more rfl (h.1 s hs) ?_ (.done hend)
    simp [pathTokens]
    omega
  | cons t ss ih =>
    rw [List.forall_mem_cons] at hss
    refine .more rfl (segment_more hs t) ?_ (ih hss.1 hss.2)
    change (pathTokens (t :: ss) ++ ts).length + 2 < (pathTokens (t :: ss) ++ ts).length + 5
    omega

theorem path_tokens {ss : List String} {args : Option (List TypeForm)} (hne : ss ≠ [])
    (hss : ∀ s ∈ ss, s ∉ keywords) (h : EndsPath g ts args rest) (hlt : rest.length ≤ ts.length) :
    path g false (pathTokens ss ++ ts) =
      some ({ anchored := false, segments := pathSegments args ss }, rest) := by
  obtain ⟨s, ss, rfl⟩ := List.exists_cons_of_ne_nil hne
  rw [List.forall_mem_cons] at hss
  have hanchor : ∀ ts, optPunct "::" (.ident s :: ts) = some (false, .ident s :: ts) := fun _ => rfl
  cases ss with
  | nil =>
    have hend : startsRest rest = false := by
      rw [startsRest, h.2, Bool.false_and]
    have hdone : ReadsWhile startsRest (do punct "::"; segment g false) rest [] rest := .done hend
    simp only [pathTokens, List.flatMap_nil, List.singleton_append, path, bind_apply, pure_apply, hanchor,
      h.1 s hss.1, Option.bind_some, hdone.whileAhead]
    rfl
  | cons t ss =>
    rw [List.forall_mem_cons] at hss
    have hmore := (readsWhile_segments hss.2.1 hss.2.2 h hlt).whileAhead
    simp only [pathTokens, List.cons_append] at hmore
    simp only [pathTokens, List.flatMap_cons, List.cons_append, List.nil_append, path, bind_apply,
      pure_apply, hanchor, segment_more hss.1, Option.bind_some, hmore]
    rfl

/-- Whether tokens can follow a type that is an argument or stands by itself. -/
def Closes (rest : List Token) : Prop :=
  rest = [] ∨ ∃ c joint more, rest = .punct c joint :: more ∧ (c = ',' ∨ c = '>')

theorem Closes.isPunct_eq_false (h : Closes rest) {p : String}
    (hp : p.toList.head?.all (fun c => c ≠ ',' && c ≠ '>') = true) (hne : p ≠ "") :
    Ahead.isPunct p rest = false := by
  rw [Ahead.isPunct]
  cases hcs : p.toList with
  | nil => exact absurd (String.toList_eq_nil_iff.mp hcs) hne
  | cons d ds =>
    rw [hcs] at hp
    rcases h with rfl | ⟨c, joint, more, rfl, hc⟩
    · cases ds <;> rfl
    · have hdc : d ≠ c := by
        rintro rfl
        rcases hc with rfl | rfl <;> simp at hp
      cases ds <;> cases joint <;> simp [Ahead.isChars, hdc]

theorem endsPath_plain (h : Closes rest) : EndsPath g rest .none rest := by
  have hangle := h.isPunct_eq_false (p := "<") (by decide) (by decide)
  have hcolons := h.isPunct_eq_false (p := "::") (by decide) (by decide)
  refine ⟨fun s hs => segment_plain hs hangle ?_, hcolons⟩
  rw [hcolons, Bool.false_and]

theorem endsPath_angle {as : List TypeForm} (h : Closes rest)
    (hangle : angleArguments g (.punct '<' false :: ts) = some (as, rest)) :
    EndsPath g (.punct '<' false :: ts) (some as) rest :=
  ⟨fun _ hs => segment_angle hs hangle, h.isPunct_eq_false (p := "::") (by decide) (by decide)⟩

theorem typedPath_ident {q : PathForm} (h : path g false (.ident s :: ts) = some (q, rest)) :
    typedPath g false (.ident s :: ts) = some (some q, rest) := by
  have hangle : optPunct "<" (.ident s :: ts) = some (false, .ident s :: ts) := rfl
  simp only [typedPath, bind_apply, pure_apply, hangle, Option.bind_some, Bool.false_eq_true, if_false, h]

theorem typeWith_ident {q : PathForm} (hs : s ∉ keywords) (hrest : Closes rest)
    (h : path g false (.ident s :: ts) = some (q, rest)) :
    typeWith g true (.ident s :: ts) = some (q.toType, rest) := by
  have hfor : optForLifetimes g (.ident s :: ts) = some (false, .ident s :: ts) := by
    have hword : optWord "for" (.ident s :: ts) = some (false, .ident s :: ts) := by
      rw [optWord, Ahead.isWord_ident hs (by decide)]
      rfl
    simp only [optForLifetimes, bind_apply, hword, Option.bind_some]
    rfl
  have hfunction : Ahead.isOneOf functionWords (.ident s :: ts) = false :=
    Ahead.isOneOf_ident hs (by decide)
  have hstart : Ahead.isPathStart (.ident s :: ts) = true := by
    rw [Ahead.isPathStart, Ahead.isIdent_ident hs, Bool.true_or, Bool.true_or]
  have hcall := hrest.isPunct_eq_false (p := "!") (by decide) (by decide)
  have hplus := hrest.isPunct_eq_false (p := "+") (by decide) (by decide)
  simp only [typeWith, pathType, bind_apply, pure_apply, ahead_apply, hfor, hfunction, hstart,
    typedPath_ident h, hcall, hplus, Option.bind_some, Bool.false_eq_true, if_false, Bool.true_or, if_true,
    Bool.false_and, Bool.and_false, Bool.or_self]

/-- A path with the arguments of its last segment is read as a type. -/
theorem typeWith_pathTokens {ss : List String} {args : Option (List TypeForm)} (hne : ss ≠ [])
    (hss : ∀ s ∈ ss, s ∉ keywords) (h : EndsPath g ts args rest) (hlt : rest.length ≤ ts.length)
    (hrest : Closes rest) :
    typeWith g true (pathTokens ss ++ ts) = some (.path false (pathSegments args ss), rest) := by
  have hpath := path_tokens hne hss h hlt
  obtain ⟨s, ss, rfl⟩ := List.exists_cons_of_ne_nil hne
  exact typeWith_ident (hss s (List.mem_cons_self ..)) hrest hpath

theorem typeWith_unit :
    typeWith g true (.group .paren [] :: ts) = some (.unit, ts) := rfl

/-- Whether tokens start with an identifier or the unit type. -/
def StartsType (ts : List Token) : Prop :=
  (∃ s more, ts = .ident s :: more ∧ s ∉ keywords) ∨ ∃ more, ts = .group .paren [] :: more

theorem genericArgument_type {t : TypeForm} (hts : StartsType ts) (hrest : Closes rest)
    (h : g.type true ts = some (t, rest)) : genericArgument g ts = some (some t, rest) := by
  have hlifetime : Ahead.isLifetime ts = false := by
    rcases hts with ⟨s, more, rfl, -⟩ | ⟨more, rfl⟩ <;> rfl
  have hconst : startsConst ts = false := by
    rcases hts with ⟨s, more, rfl, hs⟩ | ⟨more, rfl⟩
    · have htrue : s ≠ "true" := fun h => hs (h ▸ by decide)
      have hfalse : s ≠ "false" := fun h => hs (h ▸ by decide)
      simp [startsConst, Ahead.isLiteral, Ahead.isGroup, htrue, hfalse]
    · rfl
  have hequals := hrest.isPunct_eq_false (p := "=") (by decide) (by decide)
  have hcolon := hrest.isPunct_eq_false (p := ":") (by decide) (by decide)
  simp only [genericArgument, bind_apply, ahead_apply, second_apply, hlifetime, hconst, h,
    Option.bind_some, Bool.false_and, Bool.false_eq_true, if_false]
  split
  · simp only [bind_apply, pure_apply, optPunct_apply, hequals, hcolon, Option.bind_some,
      Bool.false_eq_true, if_false]
  · rfl

end Grammar
end SchemaGraph.Source
