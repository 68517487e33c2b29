import Mathlib.Data.List.Nodup
import SchemaGraph.Proofs.Entries
import SchemaGraph.Source.Annotation

/-! The order of the entries of an attribute. Each entry writes the part of its key and no other, and the
first that is not accepted ends the attribute, so that the order counts exactly as far as it decides which of
the entries are reached. -/
namespace SchemaGraph.Overrides

open Source

/-- A part of a layer, with the key that writes it, if one does. -/
structure Part where
  key : Option String
  Value : Type
  get : Overrides → Value

/-- The parts of a layer. -/
def parts : List Part :=
  [⟨some "rename", _, (·.rename)⟩, ⟨some "hidden", _, (·.hidden)⟩, ⟨some "required", _, (·.required)⟩,
   ⟨none, _, (·.type)⟩, ⟨some "format", _, (·.format)⟩, ⟨some "title", _, (·.title)⟩,
   ⟨some "description", _, (·.description)⟩, ⟨some "pattern", _, (·.pattern)⟩,
   ⟨some "example", _, (·.example?)⟩, ⟨some "default", _, (·.defaultValue)⟩,
   ⟨some "minimum", _, (·.minimum)⟩, ⟨some "maximum", _, (·.maximum)⟩,
   ⟨none, _, (·.exclusiveMinimum)⟩, ⟨none, _, (·.exclusiveMaximum)⟩,
   ⟨some "min_length", _, (·.minLength)⟩, ⟨some "max_length", _, (·.maxLength)⟩,
   ⟨some "min_items", _, (·.minItems)⟩, ⟨some "max_items", _, (·.maxItems)⟩,
   ⟨none, _, (·.allowableValues)⟩, ⟨some "nullable", _, (·.nullable)⟩,
   ⟨some "read_only", _, (·.readOnly)⟩, ⟨some "write_only", _, (·.writeOnly)⟩,
   ⟨some "deprecated", _, (·.deprecated)⟩]

/-- A layer has no other parts. -/
theorem eq_of_parts {o o' : Overrides} (h : ∀ p ∈ parts, p.get o = p.get o') : o = o' := by
  cases o
  cases o'
  simp only [parts, List.forall_mem_cons] at h
  simp [h]

/-- Whether a step writes the part of a key, whatever it was, and no other. -/
def WritesOnly (k : String) (f : Overrides → Overrides) : Prop :=
  ∀ p ∈ parts, ∀ o, p.get (f o) = if p.key = some k then p.get (f {}) else p.get o

/-- A key with the reading of its values and what they write. -/
structure Writer where
  key : String
  Value : Type
  read : Parser Value
  write : Value → Overrides → Overrides

/-- The keys of overrides. -/
def writers : List Writer :=
  [⟨"rename", _, EntryValue.string, fun v o => { o with rename := some v }⟩,
   ⟨"hidden", _, EntryValue.flag, fun v o => { o with hidden := v }⟩,
   ⟨"required", _, EntryValue.flag, fun v o => { o with required := some v }⟩,
   ⟨"format", _, EntryValue.string, fun v o => { o with format := some v }⟩,
   ⟨"title", _, EntryValue.string, fun v o => { o with title := some v }⟩,
   ⟨"description", _, EntryValue.string, fun v o => { o with description := some v }⟩,
   ⟨"pattern", _, EntryValue.string, fun v o => { o with pattern := some v }⟩,
   ⟨"example", _, EntryValue.json, fun v o => { o with example? := v }⟩,
   ⟨"default", _, EntryValue.json, fun v o => { o with defaultValue := v }⟩,
   ⟨"minimum", _, EntryValue.number, fun v o => { o with minimum := some v }⟩,
   ⟨"maximum", _, EntryValue.number, fun v o => { o with maximum := some v }⟩,
   ⟨"min_length", _, EntryValue.count, fun v o => { o with minLength := some v }⟩,
   ⟨"max_length", _, EntryValue.count, fun v o => { o with maxLength := some v }⟩,
   ⟨"min_items", _, EntryValue.count, fun v o => { o with minItems := some v }⟩,
   ⟨"max_items", _, EntryValue.count, fun v o => { o with maxItems := some v }⟩,
   ⟨"nullable", _, EntryValue.flag, fun v o => { o with nullable := some v }⟩,
   ⟨"read_only", _, EntryValue.flag, fun v o => { o with readOnly := some v }⟩,
   ⟨"write_only", _, EntryValue.flag, fun v o => { o with writeOnly := some v }⟩,
   ⟨"deprecated", _, EntryValue.flag, fun v o => { o with deprecated := some v }⟩]

theorem writers_settled : ∀ f ∈ writers, ∀ v, Complete v → Settled f.read v := by
  simp +contextual [writers, settled_string, settled_flag, settled_json, settled_number, settled_count]

theorem writers_writeOnly : ∀ f ∈ writers, ∀ a, WritesOnly f.key (f.write a) := by
  simp [writers, WritesOnly, parts]

/-- An entry of a key reads a value and writes it. -/
theorem attributeEntry_of_mem_writers {path : PathForm} (o : Overrides) (ts : List Token) :
    ∀ f ∈ writers, path.ident? = some f.key →
      attributeEntry o path ts = .take f.read (fun a _ => f.write a o) o ts := by
  simp +contextual [writers, attributeEntry]

/-- A name that is no key of overrides ends the attribute. -/
theorem attributeEntry_of_notMem_writers {path : PathForm} {k : String} (h : path.ident? = some k)
    (hk : k ∉ writers.map Writer.key) (o : Overrides) (ts : List Token) :
    attributeEntry o path ts = { state := o, rest := none } := by
  simp only [writers, List.map_cons, List.map_nil, List.mem_cons, List.not_mem_nil, or_false, not_or] at hk
  simp [attributeEntry, h, hk]

variable {e : Entry} {es es' : List Entry} {c c' rest : List Token} {o : Overrides}

/-- A layer after an entry. -/
def write (e : Entry) (o : Overrides) : Overrides := (attributeEntry o e.key.path e.value).state

/-- What an entry leaves of its value, if it can be read. -/
def left (e : Entry) : Option (List Token) := (attributeEntry {} e.key.path e.value).rest

/-- Whether an entry has a key and a value that are taken whole. -/
def accepts (e : Entry) : Bool := (left e).any List.isEmpty

/-- The entries of a list up to the first that is not accepted. -/
def reached : List Entry → List Entry
  | [] => []
  | e :: es => if accepts e then e :: reached es else [e]

/-- What a settled reading makes of an entry. -/
theorem take_append {α : Type} {p : Parser α} {v : List Token} (hp : Settled p v)
    (w : α → Overrides → Overrides) (o : Overrides) (hrest : EndsEntry rest) :
    Reading.take p w o (v ++ rest) =
      { state := ((p v).map (fun r => w r.1 o)).getD o, rest := ((p v).map Prod.snd).map (· ++ rest) } := by
  rw [Reading.take, hp.append rest hrest]
  cases p v <;> rfl

/-- Whether an entry is taken in one way: whatever follows and was written before, `w` is written and `l` left
of its value. A comma inside the value is never taken for its end. All parts are left alone, or the part of
the key is written and no other. -/
structure Takes (e : Entry) (w : Overrides → Overrides) (l : Option (List Token)) : Prop where
  append : ∀ o rest, EndsEntry rest →
    attributeEntry o e.key.path (e.value ++ rest) = { state := w o, rest := l.map (· ++ rest) }
  comma : ∀ ts ∈ l, Ahead.isPunct "," ts = false
  writes : w = id ∨ ∃ k, e.key.path.ident? = some k ∧ WritesOnly k w

theorem exists_takes (e : Entry) : ∃ w l, Takes e w l := by
  cases h : e.key.path.ident? with
  | none =>
    refine ⟨id, some [], fun o rest hrest => ?_, ?_, .inl rfl⟩
    · rw [attributeEntry, h]
      dsimp only
      rw [Option.map_some, List.nil_append, ← rest_pass (s := o) e.complete hrest]
      rfl
    · rintro ts ⟨⟩
      rfl
  | some k =>
    by_cases hk : k ∈ writers.map Writer.key
    · obtain ⟨f, hf, rfl⟩ := List.mem_map.mp hk
      have hsettled := writers_settled f hf e.value e.complete
      refine ⟨fun o => ((f.read e.value).map (fun r => f.write r.1 o)).getD o,
        (f.read e.value).map Prod.snd, fun o rest hrest => ?_, fun ts hts => ?_, ?_⟩
      · rw [attributeEntry_of_mem_writers o _ f hf h, take_append hsettled _ o hrest]
      · obtain ⟨r, hr, rfl⟩ := Option.map_eq_some_iff.mp hts
        exact hsettled.comma r hr
      · cases f.read e.value with
        | none => exact .inl rfl
        | some r => exact .inr ⟨f.key, h, writers_writeOnly f hf r.1⟩
    · refine ⟨id, none, fun o rest _ => ?_, ?_, .inl rfl⟩
      · rw [attributeEntry_of_notMem_writers h hk]
        rfl
      · rintro ts ⟨⟩

/-- Every entry is taken in one way. -/
theorem takes (e : Entry) : Takes e (write e) (left e) := by
  obtain ⟨w, l, h⟩ := exists_takes e
  have hself : ∀ o, attributeEntry o e.key.path e.value = { state := w o, rest := l } := by
    intro o
    have hnil := h.append o [] .nil
    rwa [List.append_nil, Option.map_congr (fun ts _ => List.append_nil ts), Option.map_id'] at hnil
  have hw : write e = w := funext (fun o => congrArg Reading.state (hself o))
  have hl : left e = l := congrArg Reading.rest (hself {})
  rwa [hw, hl]

theorem isPunct_colons (e : Entry) (hrest : EndsEntry rest) :
    Ahead.isPunct "::" (e.value ++ rest) = false := by
  cases e.complete with
  | bare h =>
    rw [h, List.nil_append]
    rcases hrest with rfl | ⟨joint, more, rfl⟩
    · rfl
    · cases joint <;> rfl
  | value a h =>
    obtain ⟨joint, w, hw⟩ := exists_equals h
    rw [hw]
    cases joint <;> rfl
  | list content h =>
    rw [h]
    rfl

theorem state_entries_nil (n : Nat) (o : Overrides) :
    (Reading.entries attributeEntry n o []).state = o := by
  cases n <;> rfl

/-- One entry of a list is read, and what follows it if it is accepted. -/
theorem entries_entry (e : Entry) (o : Overrides) (hrest : EndsEntry rest) (n : Nat) :
    (Reading.entries attributeEntry (n + 1) o (e.key.tokens ++ (e.value ++ rest))).state =
      if accepts e then (Reading.entries attributeEntry n (write e o) rest.tail).state else write e o := by
  have hkey := e.key.key_tokens (isPunct_colons e hrest)
  have hentry := (takes e).append o rest hrest
  rw [Reading.entries, hkey]
  dsimp only
  rw [hentry]
  cases hleft : left e with
  | none => simp [accepts, hleft]
  | some l =>
    cases l with
    | nil =>
      have haccepts : accepts e = true := by simp [accepts, hleft]
      rw [haccepts, if_pos rfl]
      rcases hrest with rfl | ⟨joint, more, rfl⟩
      · exact (state_entries_nil n _).symm
      · cases more with
        | nil => exact (state_entries_nil n _).symm
        | cons t more => rfl
    | cons t l =>
      have haccepts : accepts e = false := by simp [accepts, hleft]
      -- what is left of the value does not start with a comma, so the list is not read on
      have hcomma : Ahead.isPunct "," (t :: l ++ rest) = false := by
        have hleft := (takes e).comma (t :: l) hleft
        rw [← hleft]
        cases t <;> rfl
      have hstop : Parser.punct "," (t :: l ++ rest) = none := by
        rw [Parser.punct, hcomma]
        rfl
      rw [List.cons_append] at hstop
      simp [haccepts, hstop]

theorem reached_singleton (e : Entry) : reached [e] = [e] := by
  rw [reached]
  split <;> rfl

/-- A list of entries leaves what those write that are reached. -/
theorem state_entries (h : Lists es c) {fuel : Nat} (hfuel : c.length ≤ fuel) (o : Overrides) :
    (Reading.entries attributeEntry fuel o c).state = (reached es).foldl (fun o e => write e o) o := by
  induction h generalizing fuel o with
  | nil => exact state_entries_nil fuel o
  | last e =>
    obtain ⟨n, rfl, -⟩ := e.key.exists_eq_succ hfuel
    have hentry := entries_entry e o .nil n
    rw [List.append_nil] at hentry
    rw [hentry, List.tail_nil, state_entries_nil, ite_self, reached_singleton]
    rfl
  | @more es c e joint h ih =>
    obtain ⟨n, rfl, hlength⟩ := e.key.exists_eq_succ hfuel
    rw [List.length_append, List.length_cons] at hlength
    rw [entries_entry e o (.inr ⟨joint, c, rfl⟩) n, reached, List.tail_cons]
    split
    · rw [ih (by omega), List.foldl_cons]
    · rfl

/-! The order of entries. -/

/-- The layer that an attribute with these tokens in its list gives. -/
def ofTokens (c : List Token) : Overrides :=
  ofAttributes [{ path := { anchored := false, segments := [("schema", none)] }, body := .list c }]

variable {p : Part} {k : String}

theorem get_foldl_of_ne (hp : p ∈ parts) (h : ∀ e ∈ es, ∀ k, e.key.path.ident? = some k → p.key ≠ some k)
    (o : Overrides) : p.get (es.foldl (fun o e => write e o) o) = p.get o := by
  induction es generalizing o with
  | nil => rfl
  | cons e es ih =>
    rw [List.forall_mem_cons] at h
    rw [List.foldl_cons, ih h.2]
    rcases (takes e).writes with hid | ⟨k, hk, hw⟩
    · rw [hid, id]
    · rw [hw p hp, if_neg (h.1 k hk)]

/-- Entries with one name as their key have one key. -/
theorem key_eq {e' : Entry} (h : e.key.path.ident? = some k) (h' : e'.key.path.ident? = some k) :
    e'.key = e.key := by
  rw [EntryKey.eq_of_ident? h, EntryKey.eq_of_ident? h']

/-- The part of an entry's key has what the entry writes, where no other entry has the key. -/
theorem get_foldl_of_mem (hp : p ∈ parts) (hk : e.key.path.ident? = some k) (hpk : p.key = some k)
    (he : e ∈ es) (h : (es.map Entry.key).Nodup) :
    p.get (es.foldl (fun o e => write e o) {}) = p.get (write e {}) := by
  obtain ⟨before, after, rfl⟩ := List.append_of_mem he
  rw [List.map_append, List.map_cons, List.nodup_middle, List.nodup_cons, List.mem_append, not_or] at h
  -- no entry before or after it writes the part
  have hother : ∀ e' ∈ before ++ after, ∀ k', e'.key.path.ident? = some k' → p.key ≠ some k' := by
    intro e' he' k' hk' hpk'
    have hsame : k' = k := Option.some.inj (hpk'.symm.trans hpk)
    have hkey := key_eq hk (hsame ▸ hk')
    rcases List.mem_append.mp he' with hmem | hmem
    · exact h.1.1 (hkey ▸ List.mem_map_of_mem hmem)
    · exact h.1.2 (hkey ▸ List.mem_map_of_mem hmem)
  rw [List.foldl_append, List.foldl_cons,
    get_foldl_of_ne hp (fun e' he' => hother e' (List.mem_append_right _ he'))]
  rcases (takes e).writes with hid | ⟨k', hk', hw⟩
  · rw [hid, id, id, get_foldl_of_ne hp (fun e' he' => hother e' (List.mem_append_left _ he'))]
  · rw [hw p hp, if_pos (hpk.trans (hk.symm.trans hk'))]

theorem reached_sublist (es : List Entry) : (reached es).Sublist es := by
  induction es with
  | nil => exact .slnil
  | cons e es ih =>
    rw [reached]
    split
    · exact ih.cons_cons e
    · exact (List.nil_sublist es).cons_cons e

theorem reached_of_accepts (h : ∀ e ∈ es, accepts e = true) : reached es = es := by
  induction es with
  | nil => rfl
  | cons e es ih =>
    rw [List.forall_mem_cons] at h
    rw [reached, if_pos h.1, ih h.2]

/-- The layer that a list of entries gives. -/
def layer (es : List Entry) : Overrides := (reached es).foldl (fun o e => write e o) {}

theorem ofTokens_eq (h : Lists es c) : ofTokens c = layer es := state_entries h (Nat.le_refl _) {}

/-- What a layer has under the name of an entry. -/
theorem get_layer (hp : p ∈ parts) (hk : e.key.path.ident? = some k) (hpk : p.key = some k) (he : e ∈ es)
    (h : (es.map Entry.key).Nodup) :
    (e ∈ reached es → p.get (layer es) = p.get (write e {})) ∧
      (e ∉ reached es → p.get (layer es) = p.get {}) := by
  refine ⟨fun hmem => ?_, fun hmem => get_foldl_of_ne hp (fun e' he' k' hk' hpk' => ?_) {}⟩
  · exact get_foldl_of_mem hp hk hpk hmem (h.sublist ((reached_sublist es).map Entry.key))
  · have hsame : k' = k := Option.some.inj (hpk'.symm.trans hpk)
    have hkey := key_eq hk (hsame ▸ hk')
    have heq := List.inj_on_of_nodup_map h ((reached_sublist es).mem he') he hkey
    exact hmem (heq ▸ he')

/-- What changes a layer shows whether it was reached. -/
theorem mem_reached_of_layer_eq (hperm : es.Perm es') (hkeys : (es.map Entry.key).Nodup)
    (heq : layer es = layer es') (he : e ∈ es) (hne : write e {} ≠ {}) (hmem : e ∈ reached es) :
    e ∈ reached es' := by
  rcases (takes e).writes with hid | ⟨k, hk, hw⟩
  · exact absurd (congrFun hid {}) hne
  · by_contra hnot
    -- the part of its key would be that of an empty layer, and it writes no other
    refine hne (eq_of_parts (fun p hp => ?_))
    by_cases hpk : p.key = some k
    · rw [← (get_layer hp hk hpk he hkeys).1 hmem, heq]
      exact (get_layer hp hk hpk (hperm.mem_iff.mp he) ((hperm.map _).nodup_iff.mp hkeys)).2 hnot
    · rw [hw p hp, if_neg hpk]

/-- Lists of the same entries give one layer exactly if the same entries that change it are reached. -/
theorem layer_eq_iff (hperm : es.Perm es') (hkeys : (es.map Entry.key).Nodup) :
    layer es = layer es' ↔ ∀ e ∈ es, write e {} ≠ {} → (e ∈ reached es ↔ e ∈ reached es') := by
  have hkeys' := (hperm.map Entry.key).nodup_iff.mp hkeys
  constructor
  · intro heq e he hne
    exact ⟨mem_reached_of_layer_eq hperm hkeys heq he hne,
      mem_reached_of_layer_eq hperm.symm hkeys' heq.symm (hperm.mem_iff.mp he) hne⟩
  · intro h
    refine eq_of_parts (fun p hp => ?_)
    -- the part belongs to the key of one entry, or none of the entries writes it
    by_cases hnamed : ∃ e ∈ es, ∃ k, e.key.path.ident? = some k ∧ p.key = some k
    · obtain ⟨e, he, k, hk, hpk⟩ := hnamed
      have hget := get_layer hp hk hpk he hkeys
      have hget' := get_layer hp hk hpk (hperm.mem_iff.mp he) hkeys'
      by_cases hne : write e {} = {}
      · rw [hne] at hget hget'
        exact ((Classical.em _).elim hget.1 hget.2).trans ((Classical.em _).elim hget'.1 hget'.2).symm
      · by_cases hmem : e ∈ reached es
        · rw [hget.1 hmem, hget'.1 ((h e he hne).mp hmem)]
        · rw [hget.2 hmem, hget'.2 (fun hmem' => hmem ((h e he hne).mpr hmem'))]
    · have hnone : ∀ e ∈ es, ∀ k, e.key.path.ident? = some k → p.key ≠ some k :=
        fun e he k hk hpk => hnamed ⟨e, he, k, hk, hpk⟩
      rw [layer, layer, get_foldl_of_ne hp (fun e he => hnone e ((reached_sublist es).mem he)),
        get_foldl_of_ne hp (fun e he => hnone e (hperm.mem_iff.mpr ((reached_sublist es').mem he)))]

/-- The order of entries with different keys does not matter if all are accepted, and matters in general just
as far as it decides which of those that change a layer are reached: all up to the first that is not
accepted. -/
theorem ofTokens_perm (hc : Lists es c) (hc' : Lists es' c') (hperm : es.Perm es')
    (hkeys : (es.map Entry.key).Nodup) :
    (ofTokens c = ofTokens c' ↔ ∀ e ∈ es, write e {} ≠ {} → (e ∈ reached es ↔ e ∈ reached es')) ∧
      ((∀ e ∈ es, accepts e = true) → ofTokens c = ofTokens c') := by
  have hiff := layer_eq_iff hperm hkeys
  rw [ofTokens_eq hc, ofTokens_eq hc']
  refine ⟨hiff, fun h => hiff.mpr (fun e he _ => ?_)⟩
  rw [reached_of_accepts h, reached_of_accepts (fun e he => h e (hperm.mem_iff.mpr he))]
  exact hperm.mem_iff

theorem ofTokens_perm_email :
    ([Entry.ofLiteral "format" (.str "email"), .ofLiteral "max_length" (.int 9 "")].map Entry.key).Nodup ∧
    ofTokens (joined [.ofLiteral "format" (.str "email"), .ofLiteral "max_length" (.int 9 "")]) =
      ofTokens (joined [.ofLiteral "max_length" (.int 9 ""), .ofLiteral "format" (.str "email")]) := by
  have hkeys :
      ([Entry.ofLiteral "format" (.str "email"), .ofLiteral "max_length" (.int 9 "")].map Entry.key).Nodup := by
    decide
  exact ⟨hkeys, (ofTokens_perm (lists_joined _) (lists_joined _) (.swap ..) hkeys).2 (by decide +kernel)⟩

/-- An entry with an unknown key takes away what stands after it, and nothing that stands before it. -/
theorem ofTokens_unknown :
    ofTokens (joined [.ofLiteral "bogus" (.int 1 ""), .ofLiteral "format" (.str "email")]) = {} ∧
    ofTokens (joined [.ofLiteral "format" (.str "email"), .ofLiteral "bogus" (.int 1 "")]) =
      { format := some "email" } := by
  decide +kernel

end SchemaGraph.Overrides
