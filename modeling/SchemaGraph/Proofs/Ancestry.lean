import Mathlib.Logic.Relation
import SchemaGraph.Proofs.Index
import SchemaGraph.Proofs.Inheritance

/-! The order in which a declaration and what it inherits are walked: depth first, every class once, after
its own supertypes. What is walked are the classes that supertypes lead to. -/
namespace SchemaGraph

open Relation (ReflTransGen)

namespace Index

/-- Whether a class is named among the supertypes of a declaration. -/
def Extends (i : Index) (d c : Declaration) : Prop :=
  ∃ n as, .named n as ∈ d.supertypes ∧ i.lookup n = some c ∧ c.isEnum = false

/-- Whether the supertypes of a class are named types, and those of all classes that it inherits from. -/
def Classed (i : Index) (d : Declaration) : Prop :=
  ∀ c, ReflTransGen i.Extends d c → ∀ t ∈ c.supertypes, t.baseName?.isSome = true

variable {i : Index} {d c : Declaration}

theorem Classed.of_extends (h : i.Classed d) (hc : i.Extends d c) : i.Classed c :=
  fun e he => h e (.head hc he)

/-- Declarations that are found are told apart by their names. -/
theorem Coherent.eq_of_name (hi : i.Coherent) {n m : String} (hd : i.lookup n = some d)
    (hc : i.lookup m = some c) (heq : d.name = c.name) : d = c := by
  have hname := hi.lookup_name hd
  rw [heq, hi.lookup_name hc] at hname
  exact (Option.some.inj hname).symm

/-- What a declared class inherits from is declared. -/
theorem exists_lookup_of_inherits {n : String} (hd : i.lookup n = some d)
    (h : ReflTransGen i.Extends d c) : ∃ m, i.lookup m = some c := by
  cases h with
  | refl => exact ⟨n, hd⟩
  | tail _ hc =>
    obtain ⟨m, -, -, hm, -⟩ := hc
    exact ⟨m, hm⟩

theorem classed_of_declarations
    (h : ∀ e ∈ i.declarations, ∀ t ∈ e.2.supertypes, t.baseName?.isSome = true) {n : String}
    (hd : i.lookup n = some d) : i.Classed d := by
  intro c hc
  obtain ⟨m, hm⟩ := exists_lookup_of_inherits hd hc
  obtain ⟨k, hk⟩ := mem_of_lookup hm
  exact h _ hk

end Index

/-- A way through a declaration and what it inherits. -/
structure Tour where
  /-- The declarations that have been entered. -/
  visited : List String
  /-- The declarations whose members have been walked, in order and in their scopes. -/
  stops : List (Scope × Declaration) := []

namespace Tour

def add (l : Tour) (scope : Scope) (d : Declaration) : Tour :=
  { l with stops := l.stops ++ [(scope, d)] }

/-- Adds what a supertype brings with `descend`, unless it has been entered before. -/
def addSupertype (i : Index) (descend : Declaration → Scope → Tour → Tour) (scope : Scope)
    (l : Tour) (supertype : TypeExpr) : Tour :=
  let r := scope.resolveDeep supertype
  match r.baseName?.bind i.lookup with
  | none => l
  | some parent =>
    if parent.isEnum || l.visited.contains parent.name then l
    else descend parent (.ofType r parent :: scope) { l with visited := parent.name :: l.visited }

/-- Adds what a declaration inherits, supertype by supertype, and then itself. -/
def addDeclaration (i : Index) : Nat → Declaration → Scope → Tour → Tour
  | 0 => fun d scope l => l.add scope d
  | fuel + 1 => fun d scope l =>
    (d.supertypes.foldl (addSupertype i (addDeclaration i fuel) scope) l).add scope d

variable {i : Index} {d c : Declaration} {l l' l'' : Tour} {scope : Scope}

/-- What a tour adds to another one: classes that a declaration inherits from, or itself, each for the first
time, and with each class all that it extends. -/
structure Adds (i : Index) (d : Declaration) (l l' : Tour) (new : List (Scope × Declaration)) :
    Prop where
  stops : l'.stops = l.stops ++ new
  visited : ∀ n, n ∈ l'.visited ↔ n ∈ l.visited ∨ n ∈ new.map (·.2.name)
  nodup : (new.map (·.2.name)).Nodup
  fresh : ∀ p ∈ new, p.2.name ∉ l.visited
  inherited : ∀ p ∈ new, ReflTransGen i.Extends d p.2
  closed : ∀ p ∈ new, ∀ c, i.Extends p.2 c → c.name ∈ l'.visited

theorem adds_nil (i : Index) (d : Declaration) (l : Tour) : Adds i d l l [] := by
  constructor <;> simp

theorem Adds.subset {new : List (Scope × Declaration)} (h : Adds i d l l' new) :
    l.visited ⊆ l'.visited := fun n hn => (h.visited n).mpr (.inl hn)

theorem Adds.trans {new more : List (Scope × Declaration)} (h : Adds i d l l' new)
    (h' : Adds i d l' l'' more) : Adds i d l l'' (new ++ more) := by
  constructor
  · rw [h'.stops, h.stops, List.append_assoc]
  · intro n
    rw [h'.visited, h.visited, List.map_append, List.mem_append, or_assoc]
  · rw [List.map_append, List.nodup_append]
    refine ⟨h.nodup, h'.nodup, fun n hn m hm heq => ?_⟩
    obtain ⟨p, hp, rfl⟩ := List.mem_map.mp hm
    exact h'.fresh p hp ((h.visited _).mpr (.inr (heq ▸ hn)))
  · rw [List.forall_mem_append]
    exact ⟨h.fresh, fun p hp hmem => h'.fresh p hp (h.subset hmem)⟩
  · exact List.forall_mem_append.mpr ⟨h.inherited, h'.inherited⟩
  · rw [List.forall_mem_append]
    exact ⟨fun p hp c hc => h'.subset (h.closed p hp c hc), h'.closed⟩

theorem Adds.of_extends {new : List (Scope × Declaration)} (h : Adds i c l l' new)
    (hc : i.Extends d c) : Adds i d l l' new :=
  { h with inherited := fun p hp => .head hc (h.inherited p hp) }

/-- Entering a declaration and adding it after what it inherits. -/
theorem Adds.enter {new : List (Scope × Declaration)} (hd : d.name ∉ l.visited)
    (h : Adds i d { l with visited := d.name :: l.visited } l' new)
    (hclosed : ∀ c, i.Extends d c → c.name ∈ l'.visited) (scope : Scope) :
    Adds i d l (l'.add scope d) (new ++ [(scope, d)]) := by
  constructor
  · rw [add, h.stops, List.append_assoc]
  · intro n
    rw [add, h.visited, List.map_append, List.mem_append, List.map_singleton,
      List.mem_singleton, List.mem_cons, or_assoc, or_comm, or_assoc]
  · rw [List.map_append, List.nodup_append]
    refine ⟨h.nodup, by simp, fun n hn m hm heq => ?_⟩
    obtain ⟨p, hp, rfl⟩ := List.mem_map.mp hn
    obtain rfl := List.mem_singleton.mp hm
    exact h.fresh p hp (heq ▸ List.mem_cons_self ..)
  · rw [List.forall_mem_append, List.forall_mem_singleton]
    exact ⟨fun p hp hmem => h.fresh p hp (List.mem_cons_of_mem _ hmem), hd⟩
  · rw [List.forall_mem_append, List.forall_mem_singleton]
    exact ⟨h.inherited, .refl⟩
  · rw [List.forall_mem_append, List.forall_mem_singleton]
    exact ⟨h.closed, hclosed⟩

/-- A named supertype is passed over, or a class that is entered for the first time. -/
theorem addSupertype_cases (i : Index) (descend : Declaration → Scope → Tour → Tour) (scope : Scope)
    (l : Tour) (n : String) (as : List TypeExpr) :
    (l.addSupertype i descend scope (.named n as) = l ∧
        ∀ c, i.lookup n = some c → c.isEnum = false → c.name ∈ l.visited) ∨
      ∃ c scope', i.lookup n = some c ∧ c.isEnum = false ∧ c.name ∉ l.visited ∧
        l.addSupertype i descend scope (.named n as) =
          descend c scope' { l with visited := c.name :: l.visited } := by
  have hname : (scope.resolveDeep (.named n as)).baseName?.bind i.lookup = i.lookup n := by
    rw [Scope.resolveDeep_named]
    rfl
  dsimp only [addSupertype]
  rw [hname]
  cases hl : i.lookup n with
  | none => exact .inl ⟨rfl, fun c hc => by cases hc⟩
  | some c =>
    dsimp only
    split
    · rename_i hskip
      refine .inl ⟨rfl, fun c' hc henum => ?_⟩
      cases hc
      simpa [henum] using hskip
    · rename_i hnew
      simp only [Bool.or_eq_true, List.contains_iff_mem, not_or, Bool.not_eq_true] at hnew
      exact .inr ⟨c, _, rfl, hnew.1, hnew.2, rfl⟩

/-- Adding the supertypes of a declaration brings the classes among them, with what these inherit. -/
theorem adds_supertypes {descend : Declaration → Scope → Tour → Tour} {fuel : Nat}
    (hdescend : ∀ (l : Tour) (c : Declaration) (scope : Scope), c.name ∉ l.visited →
      i.unvisited (c.name :: l.visited) ≤ fuel → i.Classed c →
        ∃ new, Adds i c l (descend c scope { l with visited := c.name :: l.visited })
          (new ++ [(scope, c)]))
    (hd : i.Classed d) {ts : List TypeExpr} (hts : ts ⊆ d.supertypes)
    (hl : i.unvisited l.visited ≤ fuel + 1) :
    ∃ new, Adds i d l (ts.foldl (addSupertype i descend scope) l) new ∧
      ∀ n as c, .named n as ∈ ts → i.lookup n = some c → c.isEnum = false →
        c.name ∈ (ts.foldl (addSupertype i descend scope) l).visited := by
  induction ts generalizing l with
  | nil => exact ⟨[], adds_nil i d l, fun n as c hmem => absurd hmem List.not_mem_nil⟩
  | cons t ts ih =>
    rw [List.cons_subset] at hts
    obtain ⟨n, as, rfl⟩ : ∃ n as, t = .named n as := by
      have hnamed := hd d .refl t hts.1
      cases t with
      | named n as => exact ⟨n, as, rfl⟩
      | _ => cases hnamed
    rw [List.foldl_cons]
    obtain ⟨new, hnew, hmem⟩ : ∃ new, Adds i d l (l.addSupertype i descend scope (.named n as)) new ∧
        ∀ c, i.lookup n = some c → c.isEnum = false →
          c.name ∈ (l.addSupertype i descend scope (.named n as)).visited := by
      rcases addSupertype_cases i descend scope l n as with
        ⟨heq, hskip⟩ | ⟨c, scope', hlookup, henum, hfresh, heq⟩
      · rw [heq]
        exact ⟨[], adds_nil i d l, hskip⟩
      · have hc : i.Extends d c := ⟨n, as, hts.1, hlookup, henum⟩
        have hlt := Index.unvisited_cons_lt hlookup hfresh
        obtain ⟨new, hnew⟩ := hdescend l c scope' hfresh (by omega) (hd.of_extends hc)
        rw [heq]
        refine ⟨_, hnew.of_extends hc, fun c' hc' _ => ?_⟩
        rw [hlookup] at hc'
        cases hc'
        exact (hnew.visited _).mpr (.inr (by simp))
    obtain ⟨more, hmore, hrest⟩ :=
      ih hts.2 (Nat.le_trans (Index.unvisited_le_of_subset hnew.subset) hl)
    refine ⟨_, hnew.trans hmore, fun m bs c hc hlookup henum => ?_⟩
    rcases List.mem_cons.mp hc with heq | hc
    · cases heq
      exact hmore.subset (hmem c hlookup henum)
    · exact hrest m bs c hc hlookup henum

/-- Adding a declaration that is entered for the first time adds the classes that it inherits from, and then
itself. -/
theorem adds_addDeclaration {fuel : Nat} (hnew : d.name ∉ l.visited)
    (hfuel : i.unvisited (d.name :: l.visited) ≤ fuel) (hd : i.Classed d) (scope : Scope) :
    ∃ new, Adds i d l
      (addDeclaration i fuel d scope { l with visited := d.name :: l.visited })
      (new ++ [(scope, d)]) := by
  induction fuel generalizing d l scope with
  | zero =>
    refine ⟨[], Adds.enter hnew (adds_nil i d _) (fun c hc => ?_) scope⟩
    -- Everything has been entered.
    obtain ⟨n, as, -, hl, -⟩ := hc
    by_contra hfresh
    have hlt := Index.unvisited_cons_lt hl hfresh
    exact Nat.not_lt_zero _ (Nat.lt_of_lt_of_le hlt hfuel)
  | succ fuel ih =>
    obtain ⟨new, hadds, hclosed⟩ :
        ∃ new, Adds i d { l with visited := d.name :: l.visited }
            (d.supertypes.foldl (addSupertype i (addDeclaration i fuel) scope)
              { l with visited := d.name :: l.visited }) new ∧ _ :=
      adds_supertypes (fun l c scope hc hle hd => ih hc hle hd scope) hd
        (List.Subset.refl d.supertypes) hfuel
    refine ⟨new, Adds.enter hnew hadds (fun c hc => ?_) scope⟩
    obtain ⟨n, as, hmem, hl, henum⟩ := hc
    exact hclosed n as c hmem hl henum

end Tour

/-- The declarations whose members are in the body of a type, in order and in their scopes; there are none in
that of an enumeration. -/
def Index.stops (i : Index) (t : TypeExpr) : List (Scope × Declaration) :=
  match t.baseName?.bind i.lookup with
  | none => []
  | some d =>
    if d.isEnum then []
    else (Tour.addDeclaration i i.size d [.ofType t d] { visited := [d.name] }).stops

/-- The body of a class has the members of all classes that it inherits from, of each once, and last its
own. -/
theorem Index.stops_of_class {i : Index} (hi : i.Coherent) {t : TypeExpr} {d : Declaration}
    (ht : t.baseName?.bind i.lookup = some d) (hd : d.isEnum = false) (hc : i.Classed d) :
    ∃ inherited, i.stops t = inherited ++ [([.ofType t d], d)] ∧
      ((i.stops t).map Prod.snd).Nodup ∧
      ∀ c, c ∈ (i.stops t).map Prod.snd ↔ ReflTransGen i.Extends d c := by
  obtain ⟨n, -, hn⟩ := Option.bind_eq_some_iff.mp ht
  obtain ⟨new, hnew⟩ := Tour.adds_addDeclaration (l := { visited := [] })
    List.not_mem_nil (Index.unvisited_le i _) hc [.ofType t d]
  have hstops : i.stops t = new ++ [([.ofType t d], d)] := by
    rw [Index.stops, ht]
    simp only [hd, Bool.false_eq_true, if_false]
    exact hnew.stops
  refine ⟨new, hstops, ?_, fun c => ?_⟩
  · have hnames : (((new ++ [([Frame.ofType t d], d)]).map Prod.snd).map Declaration.name).Nodup := by
      rw [List.map_map]
      exact hnew.nodup
    rw [hstops]
    exact List.Pairwise.of_map Declaration.name (fun _ _ hab heq => hab (congrArg _ heq)) hnames
  rw [hstops]
  constructor
  · rintro hmem
    obtain ⟨p, hp, rfl⟩ := List.mem_map.mp hmem
    exact hnew.inherited p hp
  · -- All that a stop extends is a stop too: it has been entered, and its name tells it apart.
    intro hreach
    induction hreach with
    | refl => simp
    | tail hfront hstep ih =>
      obtain ⟨p, hp, rfl⟩ := List.mem_map.mp ih
      have hvisited := hnew.closed p hp _ hstep
      rw [hnew.visited] at hvisited
      obtain ⟨q, hq, hname⟩ := List.mem_map.mp (hvisited.resolve_left List.not_mem_nil)
      obtain ⟨m, hm⟩ := Index.exists_lookup_of_inherits hn (hnew.inherited q hq)
      obtain ⟨_, _, -, hfound, -⟩ := hstep
      rw [← hi.eq_of_name hm hfound hname]
      exact List.mem_map_of_mem hq

end SchemaGraph
