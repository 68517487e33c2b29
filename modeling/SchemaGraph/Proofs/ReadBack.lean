import SchemaGraph.Proofs.Anchors
import SchemaGraph.Proofs.Parsing
import SchemaGraph.Proofs.Scanning
import SchemaGraph.Source.TypeOf

/-! Types are read back from their texts. The text of a type has the type's tokens, the tokens are read as
the form in which the type is written, and that form stands for the type. -/
namespace SchemaGraph

open Source

/-- Whether a type consists of variables and classes whose names can be written in source. A class without
arguments that has the name of a variable cannot. -/
inductive TypeExpr.Writable (vars : List String) : TypeExpr → Prop
  | var {n : String} (hn : n ∈ vars) : Writable vars (.var n)
  | unit : Writable vars (.named "()" [])
  | path {ss : List String} {as : List TypeExpr} (hne : ss ≠ []) (hss : ∀ s ∈ ss, IsIdentifier s)
    (has : ∀ a ∈ as, Writable vars a) (hfree : as = [] → PathName.path ss ∉ vars) :
    Writable vars (.named (PathName.path ss) as)

namespace TypeExpr

mutual
/-- The tokens of a type's text; `joint` tells whether punctuation follows at once. -/
def tokens (joint : Bool) : TypeExpr → List Token
  | named n [] =>
    if n = "()" then [.group .paren []] else Grammar.pathTokens (PathName.segments n)
  | named n (a :: as) =>
    Grammar.pathTokens (PathName.segments n) ++ .punct '<' false :: tokens true a ++ argTokens joint as
  | var n => [.ident n]
  | _ => []

/-- The tokens from the end of the first argument on. -/
def argTokens (joint : Bool) : List TypeExpr → List Token
  | [] => [.punct '>' joint]
  | a :: as => .punct ',' false :: tokens true a ++ argTokens joint as
end

mutual
/-- A type as it is written. -/
def form : TypeExpr → TypeForm
  | named n [] =>
    if n = "()" then .unit else .path false (Grammar.pathSegments none (PathName.segments n))
  | named n (a :: as) =>
    .path false (Grammar.pathSegments (some (form a :: forms as)) (PathName.segments n))
  | var n => .path false [(n, none)]
  | _ => .other

/-- Arguments as they are written. -/
def forms : List TypeExpr → List TypeForm
  | [] => []
  | a :: as => form a :: forms as
end

variable {t : TypeExpr} {vars : List String} {rest : List Char} {fs : List FlatToken}

/-! The text has the tokens. -/

theorem segments_identifiers {ss : List String} (hne : ss ≠ []) (hss : ∀ s ∈ ss, IsIdentifier s) :
    PathName.segments (PathName.path ss) = ss := by
  refine PathName.segments_path hne (fun s hs hcolon => ?_)
  have := List.all_eq_true.mp (hss s hs).2.1 ':' hcolon
  exact absurd this (by decide)

theorem path_ne_unit {ss : List String} (hne : ss ≠ []) (hss : ∀ s ∈ ss, IsIdentifier s) :
    PathName.path ss ≠ "()" := by
  intro heq
  have hunit := segments_identifiers hne hss
  rw [heq, show PathName.segments "()" = ["()"] from rfl] at hunit
  exact absurd (hss "()" (hunit ▸ List.mem_singleton_self _)) (by decide)

theorem toList_path_cons (s t : String) (ss : List String) :
    (PathName.path (s :: t :: ss)).toList = s.toList ++ ':' :: ':' :: (PathName.path (t :: ss)).toList := by
  rw [PathName.path, PathName.path, String.toList_intercalate, String.toList_intercalate, List.map_cons,
    List.map_cons, List.intercalate_cons_cons, List.append_assoc]
  rfl

theorem opens_path {ss : List String} (hne : ss ≠ []) (hss : ∀ s ∈ ss, IsIdentifier s) (cs : List Char) :
    Opens ((PathName.path ss).toList ++ cs) := by
  obtain ⟨s, ss, rfl⟩ := List.exists_cons_of_ne_nil hne
  have hs := hss s (List.mem_cons_self ..)
  cases ss with
  | nil => exact hs.opens cs
  | cons t ss =>
    rw [toList_path_cons, List.append_assoc]
    exact hs.opens _

/-- What can follow the text of a type, as an argument or by itself. -/
def Follows (rest : List Char) : Prop := ∀ c ∈ rest.head?, c = '>' ∨ c = ','

theorem Follows.ends (h : Follows rest) : Ends rest := by
  intro c hc
  rcases h c hc with rfl | rfl <;> decide

theorem scans_path {ss : List String} (hne : ss ≠ []) (hss : ∀ s ∈ ss, IsIdentifier s)
    (hrest : Ends rest) (h : Scans rest fs) :
    Scans ((PathName.path ss).toList ++ rest) (Token.flatAll (Grammar.pathTokens ss) ++ fs) := by
  induction ss with
  | nil => exact absurd rfl hne
  | cons s ss ih =>
    rw [List.forall_mem_cons] at hss
    cases ss with
    | nil => exact h.identifier hss.1 hrest
    | cons t ss =>
      have hpath := ih (List.cons_ne_nil t ss) hss.2
      have hopens := opens_path (List.cons_ne_nil t ss) hss.2 rest
      have hinner := hpath.mark (c := ':') (by decide)
      rw [hopens.startsPunctuation] at hinner
      have houter := hinner.mark (c := ':') (by decide)
      rw [toList_path_cons, List.append_assoc]
      exact houter.identifier hss.1 (by
        rintro c ⟨⟩
        decide)

theorem opens_chars (hvars : ∀ n ∈ vars, IsIdentifier n) (ht : t.Writable vars) (cs : List Char) :
    Opens (t.chars ++ cs) := by
  cases ht with
  | var hn => exact (hvars _ hn).opens cs
  | unit => exact ⟨'(', ')' :: cs, rfl, .inr rfl⟩
  | @path ss as hne hss has hfree =>
    cases as with
    | nil => exact opens_path hne hss cs
    | cons a as =>
      rw [chars, List.append_assoc, List.append_assoc]
      exact opens_path hne hss _

/-- Whether the text of a type has the type's tokens. -/
def ScansAs (t : TypeExpr) : Prop :=
  ∀ rest fs, Follows rest → Scans rest fs →
    Scans (t.chars ++ rest) (Token.flatAll (t.tokens (startsPunctuation rest)) ++ fs)

theorem follows_charsArgs (as : List TypeExpr) (rest : List Char) :
    Follows (charsArgs as ++ rest) ∧ startsPunctuation (charsArgs as ++ rest) = true := by
  cases as with
  | nil =>
    refine ⟨?_, rfl⟩
    rintro c ⟨⟩
    exact .inl rfl
  | cons a as =>
    refine ⟨?_, rfl⟩
    rintro c ⟨⟩
    exact .inr rfl

/-- An argument has its tokens before the arguments after it. -/
theorem scans_argument {a : TypeExpr} {as : List TypeExpr} (ha : a.ScansAs)
    (h : Scans (charsArgs as ++ rest) fs) :
    Scans (a.chars ++ charsArgs as ++ rest) (Token.flatAll (a.tokens true) ++ fs) := by
  obtain ⟨hfollows, hpunct⟩ := follows_charsArgs as rest
  have hscan := ha _ _ hfollows h
  rwa [hpunct, ← List.append_assoc] at hscan

theorem scans_charsArgs {as : List TypeExpr} (has : ∀ a ∈ as, a.ScansAs)
    (hopens : ∀ a ∈ as, ∀ cs, Opens (a.chars ++ cs)) (h : Scans rest fs) :
    Scans (charsArgs as ++ rest) (Token.flatAll (argTokens (startsPunctuation rest) as) ++ fs) := by
  induction as with
  | nil => exact h.mark (c := '>') (by decide)
  | cons a as ih =>
    rw [List.forall_mem_cons] at has hopens
    have hscan := scans_argument has.1 (ih has.2 hopens.2)
    have hopen := hopens.1 (charsArgs as ++ rest)
    rw [← List.append_assoc] at hopen
    have hcomma := (hscan.blank hopen).mark (c := ',') (by decide)
    rw [argTokens, Token.flatAll_append, Token.flatAll, List.append_assoc, List.append_assoc]
    exact hcomma

/-- The text of a type that can be written has the type's tokens. -/
theorem scansAs_of_writable (hvars : ∀ n ∈ vars, IsIdentifier n) (ht : t.Writable vars) : t.ScansAs := by
  induction ht with
  | var hn =>
    intro rest fs hrest h
    exact h.identifier (hvars _ hn) hrest.ends
  | unit =>
    intro rest fs hrest h
    exact h.parens
  | @path ss as hne hss has hfree ih =>
    intro rest fs hrest h
    have hunit := path_ne_unit hne hss
    cases as with
    | nil =>
      rw [tokens, if_neg hunit, segments_identifiers hne hss]
      exact scans_path hne hss hrest.ends h
    | cons a as =>
      rw [List.forall_mem_cons] at has ih
      -- from the end to the front, as each token needs to know what it stands before
      have hargs := scans_charsArgs ih.2 (fun b hb => opens_chars hvars (has.2 b hb)) h
      have hscan := scans_argument ih.1 hargs
      have hopens := opens_chars hvars has.1 (charsArgs as ++ rest)
      rw [← List.append_assoc] at hopens
      have hangle := hscan.mark (c := '<') (by decide)
      rw [hopens.startsPunctuation] at hangle
      have hends : Ends ('<' :: (a.chars ++ charsArgs as ++ rest)) := by
        rintro c ⟨⟩
        decide
      have hpath := scans_path hne hss hends hangle
      rw [chars, tokens, segments_identifiers hne hss, Token.flatAll_append, Token.flatAll_append,
        Token.flatAll]
      simpa [Token.flat] using hpath

/-! The tokens are read as the form. -/

/-- Whether the tokens of a type are read as the type in every grammar that is deep enough. -/
def ReadsAs (t : TypeExpr) : Prop :=
  ∀ n joint rest, t.depth < n → Grammar.Closes rest →
    (Grammar.level n).type true (t.tokens joint ++ rest) = some (t.form, rest)

theorem startsType_tokens (hvars : ∀ n ∈ vars, IsIdentifier n) (ht : t.Writable vars) (joint : Bool)
    (ts : List Token) : Grammar.StartsType (t.tokens joint ++ ts) := by
  cases ht with
  | @var n hn => exact .inl ⟨n, ts, rfl, (hvars n hn).2.2⟩
  | unit => exact .inr ⟨ts, rfl⟩
  | @path ss as hne hss has hfree =>
    have hunit := path_ne_unit hne hss
    have hsegments := segments_identifiers hne hss
    obtain ⟨s, ss, rfl⟩ := List.exists_cons_of_ne_nil hne
    have hs := (hss s (List.mem_cons_self ..)).2.2
    cases as with
    | nil =>
      rw [tokens, if_neg hunit, hsegments]
      exact .inl ⟨s, _, rfl, hs⟩
    | cons a as =>
      rw [tokens, hsegments]
      exact .inl ⟨s, _, rfl, hs⟩

theorem forms_eq_map (as : List TypeExpr) : forms as = as.map form := by
  induction as with
  | nil => rfl
  | cons a as ih => rw [forms, ih, List.map_cons]

/-- Whether a type stands as an argument of a grammar. -/
def ReadsIn (g : Grammar) (a : TypeExpr) : Prop :=
  (∀ ts, Grammar.StartsType (a.tokens true ++ ts)) ∧
    ∀ rest, Grammar.Closes rest → g.type true (a.tokens true ++ rest) = some (a.form, rest)

theorem ReadsIn.isPunct_eq_false {g : Grammar} {a : TypeExpr} (ha : a.ReadsIn g)
    (ts : List Token) : Ahead.isPunct ">" (a.tokens true ++ ts) = false := by
  rcases ha.1 ts with ⟨s, more, heq, -⟩ | ⟨more, heq⟩ <;> rw [heq] <;> rfl

theorem ReadsIn.length_lt {g : Grammar} {a : TypeExpr} (ha : a.ReadsIn g) (ts : List Token) :
    ts.length < (a.tokens true ++ ts).length := by
  rw [List.length_append, Nat.lt_add_left_iff_pos, List.length_pos_iff]
  intro hnil
  rcases ha.1 [] with ⟨s, more, heq, -⟩ | ⟨more, heq⟩ <;> simp [hnil] at heq

/-- Arguments are read one by one up to the end of their list. -/
theorem readsSeparated_arguments {g : Grammar} {a : TypeExpr} {as : List TypeExpr}
    (ha : a.ReadsIn g) (has : ∀ b ∈ as, b.ReadsIn g) (joint : Bool) (rest : List Token) :
    Parser.ReadsSeparated "," (Ahead.isPunct ">") (Grammar.genericArgument g)
      (a.tokens true ++ argTokens joint as ++ rest) ((a :: as).map (some ·.form))
      (.punct '>' joint :: rest) := by
  -- on the arguments after the first, since there is no empty list in angle brackets
  induction as generalizing a with
  | nil =>
    have hcloses : Grammar.Closes (.punct '>' joint :: rest) := .inr ⟨'>', joint, rest, rfl, .inr rfl⟩
    have hread := Grammar.genericArgument_type (ha.1 _) hcloses (ha.2 _ hcloses)
    rw [argTokens, List.append_assoc, List.singleton_append]
    exact .last (ha.isPunct_eq_false _) hread (ha.length_lt _) rfl
  | cons b as ih =>
    rw [List.forall_mem_cons] at has
    have hmore := ih has.1 has.2
    have hsplit : a.tokens true ++ argTokens joint (b :: as) ++ rest =
        a.tokens true ++ .punct ',' false :: (b.tokens true ++ argTokens joint as ++ rest) := by
      simp [argTokens]
    rw [hsplit]
    have hcloses : Grammar.Closes
        (.punct ',' false :: (b.tokens true ++ argTokens joint as ++ rest)) :=
      .inr ⟨',', false, _, rfl, .inl rfl⟩
    have hread := Grammar.genericArgument_type (ha.1 _) hcloses (ha.2 _ hcloses)
    exact .more (ha.isPunct_eq_false _) hread (ha.length_lt _) rfl hmore

theorem angleArguments_tokens {g : Grammar} {a : TypeExpr} {as : List TypeExpr}
    (ha : a.ReadsIn g) (has : ∀ b ∈ as, b.ReadsIn g) (joint : Bool) (rest : List Token) :
    Grammar.angleArguments g (.punct '<' false :: (a.tokens true ++ argTokens joint as ++ rest)) =
      some (forms (a :: as), rest) := by
  have hargs := (readsSeparated_arguments ha has joint rest).separated
  have hopen : ∀ ts, Parser.punct "<" (.punct '<' false :: ts) = some ((), ts) := fun _ => rfl
  have hclose : ∀ ts, Parser.punct ">" (.punct '>' joint :: ts) = some ((), ts) := fun _ => rfl
  rw [Grammar.angleArguments]
  simp only [Parser.bind_apply, Parser.pure_apply, hopen, hargs, hclose, Option.bind_some]
  rw [forms_eq_map, List.filterMap_map]
  simp

/-- The tokens of a type that can be written are read as its form, by every grammar that is deeper than the
type. -/
theorem readsAs_of_writable (hvars : ∀ n ∈ vars, IsIdentifier n) (ht : t.Writable vars) : t.ReadsAs := by
  induction ht with
  | @var s hn =>
    intro n joint rest hdepth hrest
    obtain ⟨n, rfl⟩ := Nat.exists_eq_add_of_le' hdepth
    exact Grammar.typeWith_pathTokens (List.cons_ne_nil s []) (by simpa using (hvars s hn).2.2)
      (Grammar.endsPath_plain hrest) (Nat.le_refl _) hrest
  | unit =>
    intro n joint rest hdepth hrest
    obtain ⟨n, rfl⟩ := Nat.exists_eq_add_of_le' hdepth
    exact Grammar.typeWith_unit
  | @path ss as hne hss has hfree ih =>
    intro n joint rest hdepth hrest
    obtain ⟨n, rfl⟩ := Nat.exists_eq_add_of_le' (Nat.lt_of_le_of_lt (Nat.zero_le _) hdepth)
    have hunit := path_ne_unit hne hss
    have hsegments := segments_identifiers hne hss
    have hwords : ∀ s ∈ ss, s ∉ keywords := fun s hs => (hss s hs).2.2
    cases as with
    | nil =>
      rw [tokens, if_neg hunit, form, if_neg hunit, hsegments]
      exact Grammar.typeWith_pathTokens hne hwords (Grammar.endsPath_plain hrest) (Nat.le_refl _) hrest
    | cons a as =>
      -- the arguments are read by the grammar one level below
      have hdeep : ∀ b ∈ a :: as, b.ReadsIn (Grammar.level n) := by
        intro b hb
        have hlt := depth_lt_of_mem_args (n := PathName.path ss) hb
        exact ⟨startsType_tokens hvars (has b hb) true,
          fun rest hrest => ih b hb n true rest (by omega) hrest⟩
      rw [List.forall_mem_cons] at hdeep
      have hangle := angleArguments_tokens hdeep.1 hdeep.2 joint rest
      have hlength : rest.length ≤
          (Token.punct '<' false :: (a.tokens true ++ argTokens joint as ++ rest)).length := by
        rw [List.length_cons, List.length_append]
        omega
      have hread := Grammar.typeWith_pathTokens hne hwords (Grammar.endsPath_angle hrest hangle) hlength hrest
      have hsplit : (named (PathName.path ss) (a :: as)).tokens joint ++ rest =
          Grammar.pathTokens ss ++
            .punct '<' false :: (a.tokens true ++ argTokens joint as ++ rest) := by
        simp [tokens, hsegments]
      rw [hsplit, form, hsegments]
      exact hread

/-! The form stands for the type. -/

theorem map_fst_pathSegments (args : Option (List TypeForm)) (ss : List String) :
    (Grammar.pathSegments args ss).map Prod.fst = ss := by
  induction ss with
  | nil => rfl
  | cons s ss ih =>
    cases ss with
    | nil => rfl
    | cons t ss => exact congrArg (s :: ·) ih

theorem toTypeExprs_eq_map (ts : List TypeForm) :
    TypeForm.toTypeExprs vars ts = ts.map (TypeForm.toTypeExpr vars) := by
  induction ts with
  | nil => rfl
  | cons t ts ih => rw [TypeForm.toTypeExprs, ih, List.map_cons]

theorem lastArgs_pathSegments (args : Option (List TypeForm)) {ss : List String} (hne : ss ≠ []) :
    TypeForm.lastArgs vars (Grammar.pathSegments args ss) =
      (args.map (TypeForm.toTypeExprs vars)).getD [] := by
  induction ss with
  | nil => exact absurd rfl hne
  | cons s ss ih =>
    cases ss with
    | nil => cases args <;> rfl
    | cons t ss =>
      have hnames := map_fst_pathSegments args (t :: ss)
      have hlast := ih (List.cons_ne_nil t ss)
      change TypeForm.lastArgs vars ((s, none) :: Grammar.pathSegments args (t :: ss)) = _
      cases hmore : Grammar.pathSegments args (t :: ss) with
      | nil => simp [hmore] at hnames
      | cons p ps =>
        rw [← hlast, hmore, TypeForm.lastArgs]
        · rintro _ _ _ ⟨⟩
        · rintro _ _ ⟨⟩

/-- A path with arguments, or without the name of a variable, names a class. -/
theorem toTypeExpr_path {args : Option (List TypeForm)} {ss : List String} (hne : ss ≠ [])
    (hclass : args = none → PathName.path ss ∉ vars) :
    (TypeForm.path false (Grammar.pathSegments args ss)).toTypeExpr vars =
      named (PathName.path ss) ((args.map (TypeForm.toTypeExprs vars)).getD []) := by
  have hnames := map_fst_pathSegments args ss
  have hlast : TypeForm.lastArgs vars (Grammar.pathSegments args ss) = _ :=
    lastArgs_pathSegments args hne
  have hother : (∀ n, Grammar.pathSegments args ss = [(n, none)] → False) →
      (TypeForm.path false (Grammar.pathSegments args ss)).toTypeExpr vars =
        named (PathName.path ss) ((args.map (TypeForm.toTypeExprs vars)).getD []) := by
    intro hplain
    rw [TypeForm.toTypeExpr, hnames, hlast]
    · rfl
    · rintro n _ hsingle
      exact hplain n hsingle
  -- only a single name without arguments could stand for a variable
  by_cases hplain : ∃ n, Grammar.pathSegments args ss = [(n, none)]
  · obtain ⟨n, hsingle⟩ := hplain
    have hss : ss = [n] := by rw [← hnames, hsingle, List.map_singleton]
    subst hss
    cases args with
    | some as => exact absurd hsingle (by simp [Grammar.pathSegments])
    | none =>
      have hfree : n ∉ vars := hclass rfl
      simp [Grammar.pathSegments, TypeForm.toTypeExpr, PathName.path, hfree]
  · exact hother (fun n hsingle => hplain ⟨n, hsingle⟩)

/-- The form of a type that can be written stands for that type. -/
theorem toTypeExpr_form (ht : t.Writable vars) : t.form.toTypeExpr vars = t := by
  induction ht with
  | var hn => simp [form, TypeForm.toTypeExpr, hn]
  | unit => rfl
  | @path ss as hne hss has hfree ih =>
    have hunit := path_ne_unit hne hss
    have hsegments := segments_identifiers hne hss
    cases as with
    | nil =>
      rw [form, if_neg hunit, hsegments]
      exact toTypeExpr_path hne (fun _ => hfree rfl)
    | cons a as =>
      have hargs : TypeForm.toTypeExprs vars (forms (a :: as)) = a :: as := by
        rw [toTypeExprs_eq_map, forms_eq_map, List.map_map]
        exact (List.map_congr_left ih).trans (List.map_id' _)
      rw [form, hsegments]
      have hpath : (TypeForm.path false (Grammar.pathSegments (some (forms (a :: as))) ss)).toTypeExpr
          vars = _ := toTypeExpr_path hne (by rintro ⟨⟩)
      rwa [Option.map_some, Option.getD_some, hargs] at hpath

theorem depthArgs_le_sizeAll {as : List TypeExpr}
    (has : ∀ a ∈ as, ∀ joint, a.depth ≤ Token.sizeAll (a.tokens joint)) (joint : Bool) :
    depthArgs as ≤ Token.sizeAll (argTokens joint as) := by
  induction as with
  | nil => exact Nat.zero_le _
  | cons a as ih =>
    rw [List.forall_mem_cons] at has
    have ha := has.1 true
    have has := ih has.2
    rw [depthArgs, argTokens, Token.sizeAll_append, Token.sizeAll]
    omega

/-- Every list of arguments has a token that opens it. -/
theorem depth_le_sizeAll (ht : t.Writable vars) (joint : Bool) :
    t.depth ≤ Token.sizeAll (t.tokens joint) := by
  induction ht generalizing joint with
  | var hn => exact Nat.zero_le _
  | unit => exact Nat.zero_le _
  | @path ss as hne hss has hfree ih =>
    cases as with
    | nil => exact Nat.zero_le _
    | cons a as =>
      rw [List.forall_mem_cons] at ih
      have ha := ih.1 true
      have has := depthArgs_le_sizeAll ih.2 joint
      rw [depth, tokens, Token.sizeAll_append, Token.sizeAll_append, Token.sizeAll, Token.size.eq_2]
      · omega
      · rintro _ _ ⟨⟩

/-- A type that can be written is read back from its text: the variables of it as variables and the classes
as classes, with all their arguments. -/
theorem ofSource?_signature (hvars : ∀ n ∈ vars, IsIdentifier n) (ht : t.Writable vars) :
    ofSource? t.signature vars = some t := by
  have htokens : tokens? t.signature = some (t.tokens false) := by
    have hscan := scansAs_of_writable hvars ht [] [] (by rintro _ ⟨⟩) scans_nil
    have hopens := opens_chars hvars ht []
    rw [List.append_nil] at hscan hopens
    rw [List.append_nil] at hscan
    exact hscan.tokens? hopens.head?_ne
  have hform : TypeForm.ofText? t.signature = some t.form := by
    have hdepth := depth_le_sizeAll ht false
    have hread := readsAs_of_writable hvars ht (4 * Token.sizeAll (t.tokens false) + 16) false []
      (by omega) (.inl rfl)
    rw [List.append_nil] at hread
    rw [TypeForm.ofText?, readAll?, htokens, Option.bind_eq_bind, Option.bind_some, Parser.complete,
      Grammar.forTokens, hread]
  rw [ofSource?, hform, Option.map_some, toTypeExpr_form ht]

theorem ofSource?_signature_page :
    (∀ n ∈ ["T"], IsIdentifier n) ∧
    (named "Map" [named "std::string::String" [], named "Page" [var "T", named "()" []]]).Writable ["T"] ∧
    ofSource? "Map<std::string::String, Page<T, ()>>" ["T"] =
      some (named "Map" [named "std::string::String" [], named "Page" [var "T", named "()" []]]) := by
  have hvars : ∀ n ∈ ["T"], IsIdentifier n := by decide
  have hstring : (named "std::string::String" []).Writable ["T"] := by
    rw [show "std::string::String" = PathName.path ["std", "string", "String"] by decide +kernel]
    exact .path (by decide) (by decide) (by simp) (fun _ => by decide +kernel)
  have hpage : (named "Page" [var "T", named "()" []]).Writable ["T"] := by
    rw [show "Page" = PathName.path ["Page"] by decide +kernel]
    exact .path (by decide) (by decide)
      (by simpa using ⟨Writable.var (List.mem_singleton_self _), Writable.unit⟩) (by simp)
  have hmap :
      (named "Map" [named "std::string::String" [], named "Page" [var "T", named "()" []]]).Writable
        ["T"] := by
    rw [show "Map" = PathName.path ["Map"] by decide +kernel]
    exact .path (by decide) (by decide) (by simpa using ⟨hstring, hpage⟩) (by simp)
  have htext :
      (named "Map" [named "std::string::String" [], named "Page" [var "T", named "()" []]]).signature =
        "Map<std::string::String, Page<T, ()>>" := by decide +kernel
  exact ⟨hvars, hmap, htext ▸ ofSource?_signature hvars hmap⟩

end TypeExpr
end SchemaGraph
