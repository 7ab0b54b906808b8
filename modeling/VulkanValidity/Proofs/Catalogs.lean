/-
  VulkanValidity.Proofs.Catalogs

  What an engine holds after it was made from a catalog and further rules were offered to it.

  A list of entries is `Usable` if every entry finds a predicate and no two have one name.  Loading is
  followed from the front: as long as the entries read so far are usable, the engine has one rule for
  each of them, and the first entry that spoils this is the one that the error is about
  (`ofEntries_cases`).

  An engine decides by the names of its rules which further rules it takes.  `IndexedEngine` is an engine
  that keeps these names in a set of its own, which is told of a name before it is known whether the rule
  will be taken.  One step of it is one step of the engine without the set (`offer_indexed`), so that the
  set is that of the names of the rules after any number of steps, failed ones among them.
-/

import Mathlib.Data.Finset.Insert
import Mathlib.Data.Finset.Dedup
import Mathlib.Data.List.Forall2
import Mathlib.Data.List.Induction
import VulkanValidity.Catalog

namespace VulkanValidity

/-! ## Tables of predicates -/

/-- What is found under a name is the first predicate of this name. -/
theorem PredicateTable.find?_eq_some {table : PredicateTable} {name : String} {predicate : Predicate} :
    table.find? name = some predicate ↔
      ∃ before after, table = before ++ (name, predicate) :: after ∧ name ∉ before.map Prod.fst := by
  induction table with
  | nil => simp [PredicateTable.find?]
  | cons p table ih =>
    obtain ⟨other, first⟩ := p
    rw [PredicateTable.find?, List.lookup_cons]
    by_cases heq : name = other
    · subst heq
      rw [beq_self_eq_true]
      show some first = some predicate ↔ _
      constructor
      · rintro ⟨⟩
        exact ⟨[], table, rfl, List.not_mem_nil⟩
      · rintro ⟨before, after, htable, hnot⟩
        cases before with
        | nil =>
          cases htable
          rfl
        | cons q before =>
          rw [List.cons_append, List.cons.injEq] at htable
          rw [← htable.1] at hnot
          exact absurd List.mem_cons_self hnot
    · rw [beq_eq_false_iff_ne.mpr heq]
      show PredicateTable.find? table name = some predicate ↔ _
      rw [ih]
      constructor
      · rintro ⟨before, after, rfl, hnot⟩
        refine ⟨(other, first) :: before, after, rfl, ?_⟩
        rw [List.map_cons, List.mem_cons]
        exact not_or.mpr ⟨heq, hnot⟩
      · rintro ⟨before, after, htable, hnot⟩
        cases before with
        | nil =>
          cases htable
          exact absurd rfl heq
        | cons q before =>
          rw [List.cons_append, List.cons.injEq] at htable
          exact ⟨before, after, htable.2, fun hmem => hnot (List.mem_cons_of_mem _ hmem)⟩

theorem PredicateTable.find?_eq_none {table : PredicateTable} {name : String} :
    table.find? name = none ↔ name ∉ table.map Prod.fst := by
  rw [PredicateTable.find?, List.lookup_eq_none_iff, List.mem_map]
  constructor
  · rintro h ⟨p, hp, rfl⟩
    exact absurd (h p hp) (by simp)
  · intro h p hp
    rw [bne_iff_ne]
    intro heq
    exact h ⟨p, hp, heq.symm⟩

/-! ## Loading -/

/-- Every entry has a predicate in the table, and no two have one name. -/
structure CatalogEntry.Usable (table : PredicateTable) (entries : List CatalogEntry) : Prop where
  known : ∀ entry ∈ entries, entry.rule ∈ table.map Prod.fst
  distinct : (entries.map CatalogEntry.rule).Nodup

/-- The rule is that of the entry, with the first predicate of its name in the table. -/
structure CatalogEntry.Gives (table : PredicateTable) (entry : CatalogEntry) (rule : Rule) : Prop where
  name : rule.name = entry.rule
  vuid : rule.vuid = entry.vuid
  kind : rule.kind = entry.kind
  severity : rule.severity = entry.severity
  checkpoint : rule.checkpoint = entry.checkpoint
  predicate : ∃ before after, table = before ++ (entry.rule, rule.predicate) :: after ∧
    entry.rule ∉ before.map Prod.fst

/-- The error is that of the first entry that cannot be used: it has no predicate, or else the name of
an entry before it. -/
def CatalogEntry.Spoiled (table : PredicateTable) (entries : List CatalogEntry)
    (cause : CatalogError) : Prop :=
  ∃ before entry after, entries = before ++ entry :: after ∧ Usable table before ∧
    ((entry.rule ∉ table.map Prod.fst ∧ cause = .unknownRule entry.rule) ∨
      (entry.rule ∈ table.map Prod.fst ∧ entry.rule ∈ before.map CatalogEntry.rule ∧
        cause = .notRegistered ⟨entry.rule⟩))

namespace CatalogEntry

variable {table : PredicateTable} {entries : List CatalogEntry} {cause : CatalogError}

theorem usable_nil : Usable table [] := ⟨by simp, List.nodup_nil⟩

theorem Usable.concat (h : Usable table entries) {entry : CatalogEntry}
    (hknown : entry.rule ∈ table.map Prod.fst) (hnew : entry.rule ∉ entries.map CatalogEntry.rule) :
    Usable table (entries ++ [entry]) := by
  refine ⟨?_, ?_⟩
  · intro other hother
    rcases List.mem_append.mp hother with hold | hlast
    · exact h.known other hold
    · rw [List.mem_singleton.mp hlast]
      exact hknown
  · rw [List.map_append, List.map_singleton, List.nodup_append]
    refine ⟨h.distinct, List.nodup_singleton _, ?_⟩
    intro name hname other hother heq
    rw [List.mem_singleton.mp hother] at heq
    exact hnew (heq ▸ hname)

theorem Spoiled.append (h : Spoiled table entries cause) (others : List CatalogEntry) :
    Spoiled table (entries ++ others) cause := by
  obtain ⟨before, entry, after, rfl, hbefore, hcause⟩ := h
  exact ⟨before, entry, after ++ others, by simp, hbefore, hcause⟩

theorem Spoiled.not_usable (h : Spoiled table entries cause) : ¬ Usable table entries := by
  rintro ⟨hknown, hdistinct⟩
  obtain ⟨before, entry, after, rfl, -, ⟨hunknown, -⟩ | ⟨-, htaken, -⟩⟩ := h
  · exact hunknown (hknown entry (List.mem_append_right _ List.mem_cons_self))
  · rw [List.map_append, List.map_cons, List.nodup_append] at hdistinct
    exact hdistinct.2.2 entry.rule htaken entry.rule List.mem_cons_self rfl

theorem gives_toRule {entry : CatalogEntry} {predicate : Predicate}
    (h : table.find? entry.rule = some predicate) : Gives table entry (entry.toRule predicate) :=
  ⟨rfl, rfl, rfl, rfl, rfl, PredicateTable.find?_eq_some.mp h⟩

theorem names_of_gives {rules : List Rule} (h : List.Forall₂ (Gives table) entries rules) :
    rules.map Rule.name = entries.map CatalogEntry.rule := by
  induction h with
  | nil => rfl
  | cons hgives _ ih => rw [List.map_cons, List.map_cons, ih, hgives.name]

end CatalogEntry

/-! ## Registering -/

namespace Engine

open CatalogEntry

variable {table : PredicateTable}

theorem register_eq_ok {engine : Engine} {rule : Rule} (h : rule.name ∉ engine.names) :
    engine.register rule = .ok ⟨engine.rules ++ [rule]⟩ := by
  rw [register, if_neg]
  rw [List.contains_iff_mem]
  exact h

theorem register_eq_error {engine : Engine} {rule : Rule} (h : rule.name ∈ engine.names) :
    engine.register rule = .error ⟨rule.name⟩ := by
  rw [register, if_pos]
  rw [List.contains_iff_mem]
  exact h

theorem ofEntries_concat (entries : List CatalogEntry) (entry : CatalogEntry) :
    ofEntries (entries ++ [entry]) table
      = (ofEntries entries table).bind fun engine => engine.registerEntry table entry := by
  show List.foldlM _ _ _ = _
  rw [List.foldlM_append]
  cases h : entries.foldlM (registerEntry table) {} with
  | error cause =>
    rw [ofEntries, h]
    rfl
  | ok engine =>
    rw [ofEntries, h]
    show List.foldlM _ engine [entry] = engine.registerEntry table entry
    rw [List.foldlM_cons]
    cases engine.registerEntry table entry <;> rfl

/-- Either the entries are usable and the engine has a rule for each of them, or one spoils them. -/
theorem ofEntries_cases (table : PredicateTable) (entries : List CatalogEntry) :
    (∃ engine, ofEntries entries table = .ok engine ∧ Usable table entries ∧
        List.Forall₂ (Gives table) entries engine.rules) ∨
      ∃ cause, ofEntries entries table = .error cause ∧ Spoiled table entries cause := by
  -- The induction follows the loading from the front, one entry at the end after the other.
  induction entries using List.reverseRecOn with
  | nil => exact Or.inl ⟨{}, rfl, usable_nil, List.Forall₂.nil⟩
  | append_singleton entries entry ih =>
    rw [ofEntries_concat]
    rcases ih with ⟨engine, hload, husable, hgives⟩ | ⟨cause, hload, hspoiled⟩
    · rw [hload]
      show (∃ made, engine.registerEntry table entry = .ok made ∧ _) ∨
        ∃ cause, engine.registerEntry table entry = .error cause ∧ _
      have hnames : engine.names = entries.map CatalogEntry.rule := names_of_gives hgives
      cases hfind : table.find? entry.rule with
      | none =>
        have hunknown := PredicateTable.find?_eq_none.mp hfind
        refine Or.inr ⟨.unknownRule entry.rule, ?_, ?_⟩
        · rw [registerEntry, hfind]
        · exact ⟨entries, entry, [], rfl, husable, Or.inl ⟨hunknown, rfl⟩⟩
      | some predicate =>
        have hknown : entry.rule ∈ table.map Prod.fst := by
          by_contra hnot
          rw [PredicateTable.find?_eq_none.mpr hnot] at hfind
          cases hfind
        by_cases htaken : entry.rule ∈ entries.map CatalogEntry.rule
        · have hregister : engine.register (entry.toRule predicate) = .error ⟨entry.rule⟩ :=
            register_eq_error (hnames ▸ htaken)
          refine Or.inr ⟨.notRegistered ⟨entry.rule⟩, ?_, ?_⟩
          · simp only [registerEntry, hfind, hregister]
          · exact ⟨entries, entry, [], rfl, husable, Or.inr ⟨hknown, htaken, rfl⟩⟩
        · have hregister : engine.register (entry.toRule predicate)
              = .ok ⟨engine.rules ++ [entry.toRule predicate]⟩ := register_eq_ok (hnames ▸ htaken)
          refine Or.inl ⟨⟨engine.rules ++ [entry.toRule predicate]⟩, ?_, ?_, ?_⟩
          · simp only [registerEntry, hfind, hregister]
          · exact husable.concat hknown htaken
          · exact List.rel_append hgives (.cons (gives_toRule hfind) .nil)
    · rw [hload]
      exact Or.inr ⟨cause, rfl, hspoiled.append [entry]⟩

/-! ## Further rules -/

/-- Offers one rule after the other to an engine of some kind, and collects the answers. -/
def offerEach {σ : Type} (offer : σ → Rule → Except DuplicateRule Unit × σ) (engine : σ)
    (rules : List Rule) : List (Except DuplicateRule Unit) × σ :=
  rules.foldl (fun p rule => (p.1 ++ [(offer p.2 rule).1], (offer p.2 rule).2)) ([], engine)

theorem offerEach_concat {σ : Type} (offer : σ → Rule → Except DuplicateRule Unit × σ) (engine : σ)
    (rules : List Rule) (rule : Rule) :
    offerEach offer engine (rules ++ [rule])
      = ((offerEach offer engine rules).1 ++ [(offer (offerEach offer engine rules).2 rule).1],
          (offer (offerEach offer engine rules).2 rule).2) := by
  rw [offerEach, List.foldl_append]
  rfl

/-- Offers a rule to the engine, which is as before if it does not take it. -/
def offer (engine : Engine) (rule : Rule) : Except DuplicateRule Unit × Engine :=
  match engine.register rule with
  | .ok engine => (.ok (), engine)
  | .error cause => (.error cause, engine)

/-- Offers one rule after the other, whatever becomes of them. -/
def offerAll (engine : Engine) (rules : List Rule) : List (Except DuplicateRule Unit) × Engine :=
  offerEach offer engine rules

/-- Whether the rule at a place of a list has a name that neither the engine nor the list before this
place has. -/
def isNew (engine : Engine) (rules : List Rule) (p : Rule × Nat) : Bool :=
  decide (p.1.name ∉ engine.names ∧ p.1.name ∉ (rules.take p.2).map Rule.name)

theorem offer_of_not_mem {engine : Engine} {rule : Rule} (h : rule.name ∉ engine.names) :
    engine.offer rule = (.ok (), ⟨engine.rules ++ [rule]⟩) := by
  rw [offer, register_eq_ok h]

theorem offer_of_mem {engine : Engine} {rule : Rule} (h : rule.name ∈ engine.names) :
    engine.offer rule = (.error ⟨rule.name⟩, engine) := by
  rw [offer, register_eq_error h]

theorem mem_names_offer {engine : Engine} {rule : Rule} {name : String} :
    name ∈ (engine.offer rule).2.names ↔ name ∈ engine.names ∨ name = rule.name := by
  by_cases h : rule.name ∈ engine.names
  · rw [offer_of_mem h]
    constructor
    · exact Or.inl
    · rintro (hold | rfl)
      · exact hold
      · exact h
  · rw [offer_of_not_mem h]
    show name ∈ (engine.rules ++ [rule]).map Rule.name ↔ _
    rw [List.map_append, List.mem_append, List.map_singleton, List.mem_singleton]
    rfl

theorem offerAll_concat (engine : Engine) (rules : List Rule) (rule : Rule) :
    engine.offerAll (rules ++ [rule])
      = ((engine.offerAll rules).1 ++ [((engine.offerAll rules).2.offer rule).1],
          ((engine.offerAll rules).2.offer rule).2) :=
  offerEach_concat offer engine rules rule

/-- After a list of rules was offered, all its names are taken, by whichever rules. -/
theorem mem_names_offerAll {engine : Engine} {rules : List Rule} {name : String} :
    name ∈ (engine.offerAll rules).2.names ↔ name ∈ engine.names ∨ name ∈ rules.map Rule.name := by
  induction rules using List.reverseRecOn with
  | nil => exact (or_iff_left List.not_mem_nil).symm
  | append_singleton rules rule ih =>
    rw [offerAll_concat, mem_names_offer, ih, List.map_append, List.mem_append, List.map_singleton,
      List.mem_singleton, or_assoc]

/-- A further rule at the end of a list makes no difference to which rules before it are new. -/
theorem isNew_concat {engine : Engine} {rules : List Rule} {rule : Rule} {p : Rule × Nat}
    (hp : p ∈ rules.zipIdx) : engine.isNew (rules ++ [rule]) p = engine.isNew rules p := by
  have hlt : p.2 < rules.length := List.snd_lt_of_mem_zipIdx hp
  rw [isNew, isNew, List.take_append_of_le_length (Nat.le_of_lt hlt)]

theorem isNew_last {engine : Engine} {rules : List Rule} {rule : Rule} :
    engine.isNew (rules ++ [rule]) (rule, rules.length)
      = decide (rule.name ∉ (engine.offerAll rules).2.names) := by
  rw [isNew, List.take_left]
  refine decide_eq_decide.mpr ?_
  rw [mem_names_offerAll, not_or]

theorem zipIdx_concat {α : Type} (l : List α) (a : α) :
    (l ++ [a]).zipIdx = l.zipIdx ++ [(a, l.length)] := by
  rw [List.zipIdx_append, List.zipIdx_singleton, Nat.zero_add]

/-- Of the rules that are offered the engine takes those that are new, in order. -/
theorem rules_offerAll (engine : Engine) (rules : List Rule) :
    (engine.offerAll rules).2.rules
      = engine.rules ++ (rules.zipIdx.filter (engine.isNew rules)).map Prod.fst := by
  induction rules using List.reverseRecOn with
  | nil => exact (List.append_nil _).symm
  | append_singleton rules rule ih =>
    have hbefore : rules.zipIdx.filter (engine.isNew (rules ++ [rule]))
        = rules.zipIdx.filter (engine.isNew rules) := List.filter_congr fun p hp => isNew_concat hp
    rw [offerAll_concat, zipIdx_concat, List.filter_append, hbefore, List.map_append,
      ← List.append_assoc, ← ih, List.filter_singleton, isNew_last]
    by_cases h : rule.name ∈ (engine.offerAll rules).2.names
    · rw [offer_of_mem h]
      simp [h]
    · rw [offer_of_not_mem h]
      simp [h]

/-- The answer to each rule is whether it was new; the error names it. -/
theorem outcomes_offerAll (engine : Engine) (rules : List Rule) :
    (engine.offerAll rules).1 = rules.zipIdx.map fun p =>
      if engine.isNew rules p then .ok () else .error ⟨p.1.name⟩ := by
  induction rules using List.reverseRecOn with
  | nil => rfl
  | append_singleton rules rule ih =>
    rw [offerAll_concat, zipIdx_concat, List.map_append, ih, List.map_singleton, isNew_last]
    refine congrArg₂ (· ++ ·) ?_ ?_
    · refine List.map_congr_left ?_
      intro p hp
      rw [isNew_concat hp]
    · by_cases h : rule.name ∈ (engine.offerAll rules).2.names
      · rw [offer_of_mem h]
        simp [h]
      · rw [offer_of_not_mem h]
        simp [h]

end Engine

/-! ## The set of names -/

/-- An engine that keeps the names of its rules in a set beside them. -/
structure IndexedEngine where
  rules : List Rule := []
  names : Finset String := ∅

namespace IndexedEngine

/-- Offers a rule to the engine.  The set is told of the name first, and its answer, whether it had this
name already, decides about the rule. -/
def offer (engine : IndexedEngine) (rule : Rule) : Except DuplicateRule Unit × IndexedEngine :=
  let known := decide (rule.name ∈ engine.names)
  let names := insert rule.name engine.names
  if known then (.error ⟨rule.name⟩, ⟨engine.rules, names⟩)
  else (.ok (), ⟨engine.rules ++ [rule], names⟩)

/-- Offers one rule after the other, whatever becomes of them. -/
def offerAll (engine : IndexedEngine) (rules : List Rule) :
    List (Except DuplicateRule Unit) × IndexedEngine :=
  Engine.offerEach offer engine rules

/-- Registers the rule of an entry, with its predicate from the table. -/
def registerEntry (table : PredicateTable) (engine : IndexedEngine) (entry : CatalogEntry) :
    Except CatalogError IndexedEngine :=
  match table.find? entry.rule with
  | none => .error (.unknownRule entry.rule)
  | some predicate =>
    match engine.offer (entry.toRule predicate) with
    | (.ok (), engine) => .ok engine
    | (.error cause, _) => .error (.notRegistered cause)

/-- The engine with the rules of a list of entries. -/
def ofEntries (entries : List CatalogEntry) (table : PredicateTable) :
    Except CatalogError IndexedEngine :=
  entries.foldlM (registerEntry table) {}

end IndexedEngine

namespace Engine

/-- The engine with the set of the names of its rules. -/
def indexed (engine : Engine) : IndexedEngine := ⟨engine.rules, engine.names.toFinset⟩

/-- A set that has the name of a rule already is left as it is. -/
theorem offer_indexed_of_mem {engine : Engine} {rule : Rule} (h : rule.name ∈ engine.names) :
    engine.indexed.offer rule = (.error ⟨rule.name⟩, engine.indexed) := by
  have hmem : rule.name ∈ engine.indexed.names := List.mem_toFinset.mpr h
  rw [IndexedEngine.offer, if_pos (decide_eq_true hmem), Finset.insert_eq_of_mem hmem]

theorem offer_indexed_of_not_mem {engine : Engine} {rule : Rule} (h : rule.name ∉ engine.names) :
    engine.indexed.offer rule = (.ok (), (Engine.mk (engine.rules ++ [rule])).indexed) := by
  have hnot : rule.name ∉ engine.indexed.names := fun hmem => h (List.mem_toFinset.mp hmem)
  have hnames : insert rule.name engine.indexed.names
      = (Engine.mk (engine.rules ++ [rule])).indexed.names := by
    ext name
    rw [Finset.mem_insert, indexed, indexed, List.mem_toFinset, List.mem_toFinset, names, names,
      List.map_append, List.mem_append, List.map_singleton, List.mem_singleton]
    exact or_comm
  rw [IndexedEngine.offer, decide_eq_false hnot, hnames]
  rfl

/-- With the set or without it, a rule is answered alike, and the set stays that of the names. -/
theorem offer_indexed (engine : Engine) (rule : Rule) :
    engine.indexed.offer rule = ((engine.offer rule).1, (engine.offer rule).2.indexed) := by
  by_cases h : rule.name ∈ engine.names
  · rw [offer_indexed_of_mem h, offer_of_mem h]
  · rw [offer_indexed_of_not_mem h, offer_of_not_mem h]

theorem offerAll_indexed (engine : Engine) (rules : List Rule) :
    engine.indexed.offerAll rules = ((engine.offerAll rules).1, (engine.offerAll rules).2.indexed) := by
  induction rules using List.reverseRecOn with
  | nil => rfl
  | append_singleton rules rule ih =>
    have hstep := offerEach_concat IndexedEngine.offer engine.indexed rules rule
    rw [← IndexedEngine.offerAll, ← IndexedEngine.offerAll, ih, offer_indexed] at hstep
    rw [hstep, offerAll_concat]

theorem registerEntry_indexed (table : PredicateTable) (engine : Engine) (entry : CatalogEntry) :
    engine.indexed.registerEntry table entry = (engine.registerEntry table entry).map indexed := by
  rw [IndexedEngine.registerEntry, registerEntry]
  cases table.find? entry.rule with
  | none => rfl
  | some predicate =>
    have hoffer := offer_indexed engine (entry.toRule predicate)
    rw [offer] at hoffer
    dsimp only
    rw [hoffer]
    cases engine.register (entry.toRule predicate) with
    | ok engine => rfl
    | error cause => rfl

theorem ofEntries_indexed (entries : List CatalogEntry) (table : PredicateTable) :
    IndexedEngine.ofEntries entries table = (ofEntries entries table).map indexed := by
  have hfold (engine : Engine) : entries.foldlM (IndexedEngine.registerEntry table) engine.indexed
      = (entries.foldlM (registerEntry table) engine).map indexed := by
    induction entries generalizing engine with
    | nil => rfl
    | cons entry entries ih =>
      rw [List.foldlM_cons, List.foldlM_cons, registerEntry_indexed]
      cases engine.registerEntry table entry with
      | error cause => rfl
      | ok engine => exact ih engine
  exact hfold {}

/-! ## Exactness -/

/-- Loading a catalog is exact.  Whichever reader finds the entries in the text, they alone decide; a text
that cannot be read is an error of its own.  Loading succeeds just if every entry has a predicate and no two
have one name.  Then there is one rule for each entry, in order, with what the entry says and the first
predicate of its name, and the set of names that is kept beside the rules is that of their names.  Otherwise
the error is that of the first entry that cannot be used.  Of any further rules that are offered those with
new names are appended, in order; the others are answered with an error and change nothing, neither the
rules nor the set. -/
theorem catalogs_exact (entries : List CatalogEntry) (table : PredicateTable) :
    (∀ (read? : String → Option (List CatalogEntry)) (source : String),
        (read? source = some entries → ofCatalog read? source table = ofEntries entries table) ∧
          (read? source = none → ofCatalog read? source table = .error .unreadable)) ∧
      ((∃ engine, ofEntries entries table = .ok engine) ↔
        (∀ entry ∈ entries, entry.rule ∈ table.map Prod.fst) ∧
          (entries.map CatalogEntry.rule).Nodup) ∧
      (∀ engine, ofEntries entries table = .ok engine →
        List.Forall₂ (CatalogEntry.Gives table) entries engine.rules ∧
          IndexedEngine.ofEntries entries table
            = .ok ⟨engine.rules, (engine.rules.map Rule.name).toFinset⟩) ∧
      (∀ cause, ofEntries entries table = .error cause →
        CatalogEntry.Spoiled table entries cause ∧
          IndexedEngine.ofEntries entries table = .error cause) ∧
      ∀ (engine : Engine) (rules : List Rule),
        (engine.offerAll rules).2.rules
            = engine.rules ++ (rules.zipIdx.filter (engine.isNew rules)).map Prod.fst ∧
          (engine.offerAll rules).1 = (rules.zipIdx.map fun p =>
            if engine.isNew rules p then .ok () else .error ⟨p.1.name⟩) ∧
          engine.indexed.offerAll rules
            = ((engine.offerAll rules).1, (engine.offerAll rules).2.indexed) ∧
          ∀ rule, rule.name ∈ engine.names →
            engine.offer rule = (.error ⟨rule.name⟩, engine) ∧
              engine.indexed.offer rule = (.error ⟨rule.name⟩, engine.indexed) := by
  refine ⟨?_, ?_, ?_, ?_, ?_⟩
  · intro read? source
    constructor <;> intro hread <;> rw [ofCatalog, hread]
  · rcases ofEntries_cases table entries with ⟨engine, hok, husable, -⟩ | ⟨cause, herror, hspoiled⟩
    · exact iff_of_true ⟨engine, hok⟩ ⟨husable.known, husable.distinct⟩
    -- The entry that is reported is unknown or a duplicate, so that the entries are not usable.
    · refine iff_of_false ?_ ?_
      · rintro ⟨engine, hok⟩
        rw [herror] at hok
        cases hok
      · rintro ⟨hknown, hdistinct⟩
        exact hspoiled.not_usable ⟨hknown, hdistinct⟩
  · intro engine hengine
    rw [ofEntries_indexed]
    rcases ofEntries_cases table entries with ⟨made, hok, -, hgives⟩ | ⟨cause, herror, -⟩
    · rw [hok] at hengine
      cases hengine
      rw [hok]
      exact ⟨hgives, rfl⟩
    · rw [herror] at hengine
      cases hengine
  · intro cause hcause
    rw [ofEntries_indexed]
    rcases ofEntries_cases table entries with ⟨made, hok, -, -⟩ | ⟨found, herror, hspoiled⟩
    · rw [hok] at hcause
      cases hcause
    · rw [herror] at hcause
      cases hcause
      rw [herror]
      exact ⟨hspoiled, rfl⟩
  · intro engine rules
    refine ⟨rules_offerAll engine rules, outcomes_offerAll engine rules,
      offerAll_indexed engine rules, ?_⟩
    intro rule htaken
    exact ⟨offer_of_mem htaken, offer_indexed_of_mem htaken⟩

/-- Two entries that can be loaded, and the same two with one of them once more, which cannot. -/
theorem load_two_entries :
    let table : PredicateTable := [("a", { check := fun _ => [] }), ("b", { check := fun _ => [] })]
    let a : CatalogEntry := ⟨"a", "VUID-a", .invalidParams, .error, none⟩
    let b : CatalogEntry := ⟨"b", "VUID-b", .invalidParams, .error, none⟩
    (∃ engine, ofEntries [b, a] table = .ok engine) ∧
      ¬ ∃ engine, ofEntries [b, a, b] table = .ok engine := by
  intro table a b
  refine ⟨(catalogs_exact [b, a] table).2.1.mpr ⟨by decide, by decide⟩, ?_⟩
  intro hload
  obtain ⟨-, hdistinct⟩ := (catalogs_exact [b, a, b] table).2.1.mp hload
  exact absurd hdistinct (by decide)

end Engine

end VulkanValidity
