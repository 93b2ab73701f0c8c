import GridPuzzle.Proofs.Catalog.Bundle
import GridPuzzle.Proofs.Selection
import GridPuzzle.Proofs.Text.Decimal

/-!
# Loading catalogs

A catalog directory is loaded if and only if all its bundles are well formed, no name occurs on both
sides, and every rule that is consumed is a placed one of the same catalog; nothing else is looked
at. The loaded catalog has a rule for every bundle and no other rules. Rules that are registered
later are put behind these, so what the loaded rules consume stays there.
-/

namespace GridPuzzle

open Fallible

/-! ## Registering -/

namespace Catalog

theorem ext_entries {catalog other : Catalog} (h : catalog.entries = other.entries) :
    catalog = other := by
  cases catalog
  cases other
  cases h
  rfl

/-- A rule is registered behind the others, if at all. -/
theorem register_eq_ok {catalog next : Catalog} {rule : Rule} :
    catalog.register rule = .ok next ↔ next.entries = catalog.entries ++ [rule] := by
  unfold register
  split
  next htaken =>
    refine ⟨fun h ↦ (by cases h), fun h ↦ ?_⟩
    have hdistinct := next.distinct
    rw [h, List.map_append, List.nodup_append] at hdistinct
    exact absurd rfl (hdistinct.2.2 _ htaken _ (List.mem_singleton_self _))
  next =>
    constructor
    · intro h
      rw [← Except.ok.inj h]
    · intro h
      exact congrArg _ (ext_entries h.symm)

/-- Rules that are built one after the other and registered at once. -/
theorem foldlM_register_eq_ok {α : Type} {build : α → Except Error Rule} {l : List α}
    {start final : Catalog} :
    l.foldlM (fun catalog a ↦ (build a).bind catalog.register) start = .ok final ↔
      ∃ rules, List.Forall₂ (fun a rule ↦ build a = .ok rule) l rules ∧
        final.entries = start.entries ++ rules := by
  induction l generalizing start with
  | nil =>
    simp only [List.foldlM_nil, pure_eq_ok, Except.ok.injEq, List.forall₂_nil_left_iff,
      exists_eq_left, List.append_nil]
    exact ⟨fun h ↦ by rw [h], fun h ↦ ext_entries h.symm⟩
  | cons a l ih =>
    rw [List.foldlM_cons, bind_eq_ok]
    constructor
    · rintro ⟨next, hnext, h⟩
      obtain ⟨rule, hrule, hregister⟩ := bind_eq_ok.1 hnext
      obtain ⟨rules, hrules, hentries⟩ := ih.1 h
      refine ⟨rule :: rules, .cons hrule hrules, ?_⟩
      rw [hentries, register_eq_ok.1 hregister, List.append_assoc, List.singleton_append]
    · rintro ⟨_, hall, hentries⟩
      obtain ⟨rule, rules, hrule, hrules, rfl⟩ := List.forall₂_cons_left_iff.1 hall
      have hdistinct : ((start.entries ++ [rule]).map Rule.id).Nodup := by
        have h := final.distinct
        rw [hentries, List.append_cons, List.map_append] at h
        exact (List.nodup_append.1 h).1
      refine ⟨⟨start.entries ++ [rule], hdistinct⟩, bind_eq_ok.2 ⟨rule, hrule, ?_⟩,
        ih.2 ⟨rules, hrules, ?_⟩⟩
      · exact register_eq_ok.2 rfl
      · rw [hentries, List.append_cons]

theorem hasPlacedRule_iff {catalog : Catalog} {id : String} : catalog.hasPlacedRule id = true ↔
    ∃ rule ∈ catalog.entries, rule.id = id ∧ rule.scope = .placed := by
  rw [hasPlacedRule, Option.any_eq_true]
  constructor
  · rintro ⟨rule, hfind, hscope⟩
    obtain ⟨hrule, hid⟩ := mem_of_find? hfind
    exact ⟨rule, hrule, hid, by simpa using hscope⟩
  · rintro ⟨rule, hrule, rfl, hscope⟩
    exact ⟨rule, find?_id hrule, by simpa using hscope⟩

theorem checkDependencies_eq_ok {catalog : Catalog} : catalog.checkDependencies = .ok () ↔
    ∀ rule ∈ catalog.entries, ∀ id ∈ rule.consumes, catalog.hasPlacedRule id = true := by
  rw [checkDependencies, forM_eq_ok]
  refine forall₂_congr fun rule _ ↦ ?_
  cases hfind : rule.consumes.find? (!catalog.hasPlacedRule ·) with
  | none => simpa using hfind
  | some id =>
    have hmissing := List.find?_some hfind
    simp only [reduceCtorEq, false_iff, not_forall]
    exact ⟨id, List.mem_of_find?_eq_some hfind, by simpa using hmissing⟩

theorem mem_ids {catalog : Catalog} {id : String} :
    id ∈ catalog.ids ↔ ∃ rule ∈ catalog.entries, rule.id = id := by
  rw [ids, mem_sortNames, List.mem_map]

/-- The catalog after a rule was registered in it, if its id was new. -/
def registering (catalog : Catalog) (rule : Rule) : Catalog :=
  match catalog.register rule with
  | .ok next => next
  | .error _ => catalog

theorem mem_registering {catalog : Catalog} {rule other : Rule} (h : rule ∈ catalog.entries) :
    rule ∈ (catalog.registering other).entries := by
  unfold registering
  split
  next hregister =>
    rw [register_eq_ok.1 hregister]
    exact List.mem_append_left _ h
  next => exact h

/-- No rule is lost when others are registered. -/
theorem mem_foldl_registering {catalog : Catalog} {rule : Rule} (h : rule ∈ catalog.entries)
    (added : List Rule) : rule ∈ (added.foldl registering catalog).entries := by
  induction added generalizing catalog with
  | nil => exact h
  | cons other added ih => exact ih (mem_registering h)

end Catalog

/-! ## Loadable directories -/

namespace CatalogTree

/-- The bundles of a side, loaded or not. -/
def side (tree : CatalogTree) : Scope → List Bundle
  | .wholeGrid => tree.wholeGrid
  | .placed => tree.placed

/-- No two entries of one directory have one name. -/
def IsDirectory (tree : CatalogTree) : Prop := ∀ scope, ((tree.side scope).map Bundle.name).Nodup

/-- A bundle of a side is to be loaded, since it is not a scaffold. -/
def Loads (tree : CatalogTree) (scope : Scope) (bundle : Bundle) : Prop :=
  bundle ∈ tree.side scope ∧ bundle.isScaffold = false

/-- All bundles that are to be loaded are well formed, none of them bears the name of one on the
other side, and what they consume is among those of placed rules. -/
structure IsLoadable (generators : GeneratorTable) (tree : CatalogTree) : Prop where
  wellFormed : ∀ scope bundle, tree.Loads scope bundle → bundle.IsWellFormed scope generators
  disjoint : ∀ bundle other, tree.Loads .wholeGrid bundle → tree.Loads .placed other →
    bundle.name ≠ other.name
  consumed : ∀ scope bundle id, tree.Loads scope bundle → bundle.Declares "consumes" id →
    ∃ other, tree.Loads .placed other ∧ other.name = id

variable {generators : GeneratorTable} {tree : CatalogTree} {catalog : Catalog}

theorem mem_loaded {scope : Scope} {bundle : Bundle} :
    bundle ∈ loaded (tree.side scope) ↔ tree.Loads scope bundle := by
  rw [loaded, List.mem_mergeSort, List.mem_filter, Loads, Bool.not_eq_true']

theorem nodup_loaded (h : tree.IsDirectory) (scope : Scope) :
    ((loaded (tree.side scope)).map Bundle.name).Nodup :=
  ((List.mergeSort_perm _ _).map _).nodup_iff.2 ((h scope).sublist (List.filter_sublist.map _))

/-- A catalog is loaded if its rules are those of the bundles, side by side, and nothing that they
consume is missing. -/
theorem load_eq_ok : load generators tree = .ok catalog ↔
    ∃ rules : Scope → List Rule,
      (∀ scope, List.Forall₂ (fun bundle rule ↦ bundle.toRule tree.root scope generators = .ok rule)
        (loaded (tree.side scope)) (rules scope)) ∧
      catalog.entries = rules .wholeGrid ++ rules .placed ∧
      catalog.checkDependencies = .ok () := by
  simp only [load, bind_eq_ok, loadSide, Catalog.foldlM_register_eq_ok, pure_eq_ok]
  constructor
  · rintro ⟨first, ⟨whole, hwhole, hfirst⟩, final, ⟨placed, hplaced, hfinal⟩, ⟨⟩, hcheck, h⟩
    obtain rfl := Except.ok.inj h
    refine ⟨fun scope ↦ match scope with | .wholeGrid => whole | .placed => placed, ?_, ?_, hcheck⟩
    · rintro (_ | _)
      · exact hwhole
      · exact hplaced
    · rw [hfinal, hfirst]
      rfl
  · rintro ⟨rules, hrules, hentries, hcheck⟩
    have hdistinct : ((rules .wholeGrid).map Rule.id).Nodup := by
      have h := catalog.distinct
      rw [hentries, List.map_append] at h
      exact (List.nodup_append.1 h).1
    exact ⟨⟨rules .wholeGrid, hdistinct⟩, ⟨_, hrules .wholeGrid, rfl⟩, catalog,
      ⟨_, hrules .placed, hentries⟩, (), hcheck, rfl⟩

/-- The rules of both sides are those of the bundles. -/
theorem mem_sides {root : String} {rules : Scope → List Rule}
    (hrules : ∀ scope, List.Forall₂
      (fun bundle rule ↦ bundle.toRule root scope generators = .ok rule)
      (loaded (tree.side scope)) (rules scope)) {rule : Rule} :
    rule ∈ rules .wholeGrid ++ rules .placed ↔ ∃ scope bundle, tree.Loads scope bundle ∧
      bundle.toRule root scope generators = .ok rule := by
  have hside (scope : Scope) : rule ∈ rules scope ↔
      ∃ bundle, tree.Loads scope bundle ∧ bundle.toRule root scope generators = .ok rule := by
    have hmade := mapM_eq_ok.2 (hrules scope)
    constructor
    · intro hrule
      obtain ⟨bundle, hbundle, heq⟩ := exists_mem_of_mapM_eq_ok hmade hrule
      exact ⟨bundle, mem_loaded.1 hbundle, heq⟩
    · rintro ⟨bundle, hbundle, heq⟩
      obtain ⟨made, hmem, hbuilt⟩ := forall_of_mapM_eq_ok hmade bundle (mem_loaded.2 hbundle)
      rwa [← Except.ok.inj (hbuilt.symm.trans heq)]
  rw [List.mem_append, hside, hside]
  constructor
  · rintro (⟨bundle, hmade⟩ | ⟨bundle, hmade⟩)
    · exact ⟨.wholeGrid, bundle, hmade⟩
    · exact ⟨.placed, bundle, hmade⟩
  · rintro ⟨_ | _, bundle, hmade⟩
    · exact .inl ⟨bundle, hmade⟩
    · exact .inr ⟨bundle, hmade⟩

/-- The rules of a loaded catalog are those of the bundles. -/
theorem mem_entries (h : load generators tree = .ok catalog) {rule : Rule} :
    rule ∈ catalog.entries ↔ ∃ scope bundle, tree.Loads scope bundle ∧
      bundle.toRule tree.root scope generators = .ok rule := by
  obtain ⟨rules, hrules, hentries, -⟩ := load_eq_ok.1 h
  rw [hentries, mem_sides hrules]

/-- Every bundle that is loaded has a rule in the catalog. -/
theorem exists_rule (h : load generators tree = .ok catalog) {scope : Scope} {bundle : Bundle}
    (hbundle : tree.Loads scope bundle) : ∃ rule ∈ catalog.entries,
      bundle.toRule tree.root scope generators = .ok rule := by
  obtain ⟨rules, hrules, -, -⟩ := load_eq_ok.1 h
  obtain ⟨rule, -, hmade⟩ :=
    forall_of_mapM_eq_ok (mapM_eq_ok.2 (hrules scope)) bundle (mem_loaded.2 hbundle)
  exact ⟨rule, (mem_entries h).2 ⟨scope, bundle, hbundle, hmade⟩, hmade⟩

theorem isLoadable_of_load (h : load generators tree = .ok catalog) :
    tree.IsLoadable generators := by
  obtain ⟨-, -, -, hcheck⟩ := load_eq_ok.1 h
  refine ⟨fun scope bundle hbundle ↦ ?_, fun bundle other hbundle hother heq ↦ ?_,
    fun scope bundle id hbundle hconsumes ↦ ?_⟩
  · obtain ⟨rule, -, hmade⟩ := exists_rule h hbundle
    exact (Bundle.toRule_eq_ok hmade).1
  · obtain ⟨rule, hrule, hmade⟩ := exists_rule h hbundle
    obtain ⟨second, hsecond, hmade'⟩ := exists_rule h hother
    obtain ⟨-, hid, hscope, -⟩ := Bundle.toRule_eq_ok hmade
    obtain ⟨-, hid', hscope', -⟩ := Bundle.toRule_eq_ok hmade'
    have hsame : rule = second := List.inj_on_of_nodup_map catalog.distinct hrule hsecond
      (by rw [hid, hid', heq])
    rw [hsame, hscope'] at hscope
    cases hscope
  · obtain ⟨rule, hrule, hmade⟩ := exists_rule h hbundle
    obtain ⟨-, -, -, -, hconsumed⟩ := Bundle.toRule_eq_ok hmade
    have hplaced := Catalog.checkDependencies_eq_ok.1 hcheck rule hrule id
      ((hconsumed id).2 hconsumes)
    obtain ⟨target, htarget, rfl, hscope⟩ := Catalog.hasPlacedRule_iff.1 hplaced
    obtain ⟨side, other, hother, hmade'⟩ := (mem_entries h).1 htarget
    obtain ⟨-, hid, hside, -⟩ := Bundle.toRule_eq_ok hmade'
    rw [← hside, hscope] at hother
    exact ⟨other, hother, hid.symm⟩

/-- The ids of the rules of a side are the names of its bundles. -/
theorem ids_eq_names {scope : Scope} {bundles : List Bundle} {rules : List Rule}
    (h : List.Forall₂ (fun bundle rule ↦ bundle.toRule tree.root scope generators = .ok rule)
      bundles rules) : rules.map Rule.id = bundles.map Bundle.name := by
  induction h with
  | nil => rfl
  | cons hmade _ ih => rw [List.map_cons, List.map_cons, ih, (Bundle.toRule_eq_ok hmade).2.1]

/-- Every loadable directory is loaded, if the descriptions in it can be written. -/
theorem exists_load (hdirectory : tree.IsDirectory) (h : tree.IsLoadable generators)
    (hdescription : ∀ scope bundle, tree.Loads scope bundle → ∀ entries,
      bundle.entries? = some entries → (Entries.get entries "description").isWritable = true) :
    ∃ catalog, load generators tree = .ok catalog := by
  have hrule {scope : Scope} {bundle : Bundle} (hbundle : tree.Loads scope bundle) :
      ∃ rule, bundle.toRule tree.root scope generators = .ok rule :=
    Bundle.exists_toRule tree.root (h.wellFormed scope bundle hbundle)
      (hdescription scope bundle hbundle)
  have hside (scope : Scope) : ∃ rules, List.Forall₂
      (fun bundle rule ↦ Bundle.toRule tree.root scope generators bundle = .ok rule)
      (loaded (tree.side scope)) rules := by
    obtain ⟨rules, hrules⟩ := exists_mapM_eq_ok (f := Bundle.toRule tree.root scope generators)
      fun bundle hbundle ↦ hrule (mem_loaded.1 hbundle)
    exact ⟨rules, mapM_eq_ok.1 hrules⟩
  choose rules hrules using hside
  have hdistinct : ((rules .wholeGrid ++ rules .placed).map Rule.id).Nodup := by
    rw [List.map_append, ids_eq_names (hrules .wholeGrid), ids_eq_names (hrules .placed)]
    refine List.nodup_append.2 ⟨nodup_loaded hdirectory .wholeGrid,
      nodup_loaded hdirectory .placed, fun name hname other hother ↦ ?_⟩
    obtain ⟨bundle, hbundle, rfl⟩ := List.mem_map.1 hname
    obtain ⟨second, hsecond, rfl⟩ := List.mem_map.1 hother
    exact h.disjoint bundle second ((@mem_loaded tree .wholeGrid bundle).1 hbundle)
      ((@mem_loaded tree .placed second).1 hsecond)
  refine ⟨⟨rules .wholeGrid ++ rules .placed, hdistinct⟩, load_eq_ok.2 ⟨rules, hrules, rfl, ?_⟩⟩
  refine Catalog.checkDependencies_eq_ok.2 fun rule hmem id hid ↦ Catalog.hasPlacedRule_iff.2 ?_
  obtain ⟨scope, bundle, hbundle, hmade⟩ := (mem_sides hrules).1 hmem
  obtain ⟨-, -, -, -, hconsumes⟩ := Bundle.toRule_eq_ok hmade
  obtain ⟨other, hother, rfl⟩ := h.consumed scope bundle id hbundle ((hconsumes id).1 hid)
  obtain ⟨target, hmade⟩ := hrule hother
  obtain ⟨-, hid, hscope, -⟩ := Bundle.toRule_eq_ok hmade
  exact ⟨target, (mem_sides hrules).2 ⟨.placed, other, hother, hmade⟩, hid, hscope⟩

theorem misconfigured_load
    (hreadable : ∀ scope bundle, tree.Loads scope bundle → bundle.IsReadable) :
    FaultsIn Bundle.Misconfigured (load generators tree) := by
  have hregister (catalog : Catalog) (rule : Rule) :
      FaultsIn Bundle.Misconfigured (catalog.register rule) := by
    unfold Catalog.register
    split
    · exact .error rfl
    · exact .ok _
  have hside (scope : Scope) (catalog : Catalog) :
      FaultsIn Bundle.Misconfigured
        (loadSide tree.root generators scope catalog (tree.side scope)) :=
    .foldlM (fun catalog bundle hbundle ↦
      (Bundle.misconfigured_toRule (hreadable scope bundle (mem_loaded.1 hbundle))).bind
        fun rule _ ↦ hregister catalog rule) catalog
  have hdependencies (catalog : Catalog) :
      FaultsIn Bundle.Misconfigured catalog.checkDependencies := by
    refine .forM fun rule _ ↦ ?_
    split
    · exact .error rfl
    · exact .ok _
  exact (hside .wholeGrid _).bind fun _ _ ↦ (hside .placed _).bind fun catalog _ ↦
    (hdependencies catalog).bind fun _ _ ↦ .ok _

/-- The rules that are loaded are those of the bundles. -/
theorem mem_ids_load (h : load generators tree = .ok catalog) {id : String} :
    id ∈ catalog.ids ↔ ∃ scope bundle, tree.Loads scope bundle ∧ bundle.name = id := by
  rw [Catalog.mem_ids]
  constructor
  · rintro ⟨rule, hrule, rfl⟩
    obtain ⟨scope, bundle, hbundle, hmade⟩ := (mem_entries h).1 hrule
    exact ⟨scope, bundle, hbundle, (Bundle.toRule_eq_ok hmade).2.1.symm⟩
  · rintro ⟨scope, bundle, hbundle, rfl⟩
    obtain ⟨rule, hrule, hmade⟩ := exists_rule h hbundle
    exact ⟨rule, hrule, (Bundle.toRule_eq_ok hmade).2.1⟩

theorem find?_load (h : load generators tree = .ok catalog) {scope : Scope} {bundle : Bundle}
    (hbundle : tree.Loads scope bundle) : ∃ rule, catalog.find? bundle.name = some rule ∧
      rule.scope = scope ∧ ∀ s, s ∈ rule.capabilities ↔ bundle.Declares "capabilities" s := by
  obtain ⟨rule, hrule, hmade⟩ := exists_rule h hbundle
  obtain ⟨-, hid, hscope, hcapabilities, -⟩ := Bundle.toRule_eq_ok hmade
  exact ⟨rule, hid ▸ Catalog.find?_id hrule, hscope, hcapabilities⟩

/-- What a loaded rule consumes is a placed rule, also when more rules are registered. -/
theorem hasPlacedRule_registering (h : load generators tree = .ok catalog) (added : List Rule)
    {rule : Rule} (hrule : rule ∈ catalog.entries) {id : String} (hid : id ∈ rule.consumes) :
    (added.foldl Catalog.registering catalog).hasPlacedRule id = true := by
  obtain ⟨-, -, -, hcheck⟩ := load_eq_ok.1 h
  obtain ⟨target, htarget, hplaced⟩ := Catalog.hasPlacedRule_iff.1
    (Catalog.checkDependencies_eq_ok.1 hcheck rule hrule id hid)
  exact Catalog.hasPlacedRule_iff.2
    ⟨target, Catalog.mem_foldl_registering htarget added, hplaced⟩

/-- A directory in which nothing that may be shown is too long to be written is loaded if and only
if it is there and loadable, and else the fault is a wrong configuration. What is loaded is a rule
for every bundle, with the scope of its side and the capabilities that are declared, and no other
rules; and whatever is registered later, the rules stay, and what they consume is still a placed
rule. -/
theorem load_exact (generators : GeneratorTable) (root : String) (tree? : Option CatalogTree)
    (hdirectory : ∀ tree, tree? = some tree → tree.IsDirectory)
    (hreadable : ∀ tree, tree? = some tree → ∀ scope bundle, tree.Loads scope bundle →
      bundle.IsReadable) :
    ((∃ catalog, load? generators root tree? = .ok catalog) ↔
      ∃ tree, tree? = some tree ∧ tree.IsLoadable generators) ∧
    (∀ e, load? generators root tree? = .error e → e.settled.category = .configuration) ∧
    ∀ tree catalog, tree? = some tree → load? generators root tree? = .ok catalog →
      (∀ id, id ∈ catalog.ids ↔ ∃ scope bundle, tree.Loads scope bundle ∧ bundle.name = id) ∧
      (∀ scope bundle, tree.Loads scope bundle → ∃ rule, catalog.find? bundle.name = some rule ∧
        rule.scope = scope ∧ ∀ s, s ∈ rule.capabilities ↔ bundle.Declares "capabilities" s) ∧
      ∀ added : List Rule, ∀ rule ∈ catalog.entries,
        (added.foldl Catalog.registering catalog).find? rule.id = some rule ∧
        ∀ id ∈ rule.consumes,
          (added.foldl Catalog.registering catalog).hasPlacedRule id = true := by
  cases tree? with
  | none =>
    refine ⟨?_, fun e he ↦ ?_, fun tree _ htree ↦ by cases htree⟩
    · simp [load?]
    · rw [load?] at he
      obtain rfl := Except.error.inj he
      rfl
  | some tree =>
    have hreadable := hreadable tree rfl
    simp only [load?, Option.some.injEq, exists_eq_left']
    refine ⟨⟨?_, ?_⟩, misconfigured_load hreadable, ?_⟩
    · rintro ⟨catalog, h⟩
      exact isLoadable_of_load h
    · intro h
      exact exists_load (hdirectory tree rfl) h fun scope bundle hbundle entries hentries ↦
        (hreadable scope bundle hbundle).wording entries hentries "description"
          (by simp [Bundle.shownKeys])
    rintro tree catalog rfl h
    refine ⟨fun id ↦ mem_ids_load h, fun scope bundle ↦ find?_load h, fun added rule hrule ↦ ?_⟩
    exact ⟨Catalog.find?_id (Catalog.mem_foldl_registering hrule added),
      fun id hid ↦ hasPlacedRule_registering h added hrule hid⟩

/-! ## Directories of fragments -/

/-- The metadata of a rule that is a fragment. -/
def fragmentFields (scope : Scope) (name : String) (consumes : List String) (description : Value) :
    List (String × Value) :=
  [("id", .text name), ("type", .text scope.name), ("name", .text name),
    ("capabilities", .texts ["fragment"]), ("consumes", .texts consumes),
    ("description", description)]

def fragmentBundle (scope : Scope) (name : String) (consumes : List String) (description : Value) :
    Bundle where
  name := name
  metadata := some (.ok (.record (fragmentFields scope name consumes description)))
  fragment := some ""

variable {scope : Scope} {name : String} {consumes : List String} {description : Value}

theorem declares_fragmentBundle {key s : String} (given : Value)
    (h : ((fragmentFields scope name consumes description).find? (·.1 == key)).map Prod.snd =
      some given) :
    (fragmentBundle scope name consumes description).Declares key s ↔ given.Lists s := by
  have hget : Entries.get ((fragmentFields scope name consumes description).map fun field ↦
      (.text field.1, field.2)) key = given := by
    rw [Entries.get_record, h]
    rfl
  rw [← hget]
  constructor
  · rintro ⟨entries, hentries, hlists⟩
    obtain rfl := Option.some.inj hentries
    exact hlists
  · exact fun hlists ↦ ⟨_, rfl, hlists⟩

theorem lists_texts {texts : List String} {s : String} :
    (Value.texts texts).Lists s ↔ s ∈ texts := by
  simp [Value.Lists, Value.texts, Value.list?, Value.opened]

theorem isWellFormed_fragmentBundle (hname : Text.isBlankText name = false) :
    (fragmentBundle scope name consumes description).IsWellFormed scope [] := by
  have hlist (texts : List String) : (Value.texts texts).IsTextList := .inr ⟨texts, rfl⟩
  refine ⟨⟨_, rfl, ?_⟩, fun capability ↦ ?_⟩
  · constructor
    · rw [Entries.get_record]
      rfl
    · rw [Entries.get_record]
      rfl
    · rw [Entries.get_record]
      exact ⟨name, rfl, hname⟩
    · simp only [Bundle.listKeys, List.forall_mem_cons, Entries.get_record]
      exact ⟨hlist _, .inl rfl, .inl rfl, hlist _, by simp⟩
    · rw [Entries.get_record]
      exact .inl rfl
  · rw [declares_fragmentBundle (.texts ["fragment"]) rfl, lists_texts]
    simp [Bundle.Provides, fragmentBundle]

theorem consumes_fragmentBundle {id : String} :
    (fragmentBundle scope name consumes description).Declares "consumes" id ↔ id ∈ consumes := by
  rw [declares_fragmentBundle (.texts consumes) rfl, lists_texts]

theorem isReadable_fragmentBundle (h : description.isWritable = true) :
    (fragmentBundle scope name consumes description).IsReadable := by
  refine ⟨fun fault hfault ↦ (by cases hfault), fun entries hentries ↦ ?_⟩
  obtain rfl := Option.some.inj hentries
  simp only [Bundle.shownKeys, List.forall_mem_cons, Entries.get_record]
  exact ⟨rfl, rfl, h, by simp⟩

/-- A rule of the whole grid that consumes a placed rule, beside a scaffold without metadata. -/
def dottedTree (description : Value) : CatalogTree where
  root := "catalog"
  wholeGrid := [{ name := "_template" }, fragmentBundle .wholeGrid "total" ["dot"] description]
  placed := [fragmentBundle .placed "dot" [] .null]

theorem loads_dottedTree {description : Value} {scope : Scope} {bundle : Bundle} :
    (dottedTree description).Loads scope bundle ↔
      scope = .wholeGrid ∧ bundle = fragmentBundle .wholeGrid "total" ["dot"] description ∨
        scope = .placed ∧ bundle = fragmentBundle .placed "dot" [] .null := by
  constructor
  · rintro ⟨hmem, hscaffold⟩
    cases scope with
    | wholeGrid =>
      obtain rfl | hmem := List.mem_cons.1 hmem
      · cases hscaffold
      · exact .inl ⟨rfl, List.mem_singleton.1 hmem⟩
    | placed => exact .inr ⟨rfl, List.mem_singleton.1 hmem⟩
  · rintro (⟨rfl, rfl⟩ | ⟨rfl, rfl⟩)
    · exact ⟨by simp [side, dottedTree], by simp [Bundle.isScaffold, fragmentBundle]⟩
    · exact ⟨by simp [side, dottedTree], by simp [Bundle.isScaffold, fragmentBundle]⟩

theorem isDirectory_dottedTree (description : Value) : (dottedTree description).IsDirectory := by
  rintro (_ | _)
  · simp [side, dottedTree, fragmentBundle]
  · simp [side, dottedTree, fragmentBundle]

theorem isLoadable_dottedTree (description : Value) : (dottedTree description).IsLoadable [] := by
  refine ⟨fun scope bundle hbundle ↦ ?_, fun bundle other hbundle hother ↦ ?_,
    fun scope bundle id hbundle hconsumes ↦ ?_⟩
  · obtain ⟨rfl, rfl⟩ | ⟨rfl, rfl⟩ := loads_dottedTree.1 hbundle
    · exact isWellFormed_fragmentBundle (by decide)
    · exact isWellFormed_fragmentBundle (by decide)
  · obtain ⟨-, rfl⟩ | ⟨hside, -⟩ := loads_dottedTree.1 hbundle
    · obtain ⟨hside, -⟩ | ⟨-, rfl⟩ := loads_dottedTree.1 hother
      · cases hside
      · simp [fragmentBundle]
    · cases hside
  · obtain ⟨rfl, rfl⟩ | ⟨rfl, rfl⟩ := loads_dottedTree.1 hbundle
    · obtain rfl := List.mem_singleton.1 (consumes_fragmentBundle.1 hconsumes)
      exact ⟨_, loads_dottedTree.2 (.inr ⟨rfl, rfl⟩), rfl⟩
    · simpa using consumes_fragmentBundle.1 hconsumes

/-- A catalog of two fragments is loaded, and what one of them consumes stays a placed rule. -/
theorem load_dottedTree :
    (dottedTree .null).IsDirectory ∧
    (∀ scope bundle, (dottedTree .null).Loads scope bundle → bundle.IsReadable) ∧
    ∃ catalog, load? [] "catalog" (some (dottedTree .null)) = .ok catalog ∧
      "total" ∈ catalog.ids ∧
      ∀ added : List Rule, ∀ rule ∈ catalog.entries, ∀ id ∈ rule.consumes,
        (added.foldl Catalog.registering catalog).hasPlacedRule id = true := by
  have hdirectory := isDirectory_dottedTree .null
  have hreadable (scope : Scope) (bundle : Bundle) (h : (dottedTree .null).Loads scope bundle) :
      bundle.IsReadable := by
    obtain ⟨rfl, rfl⟩ | ⟨rfl, rfl⟩ := loads_dottedTree.1 h
    · exact isReadable_fragmentBundle rfl
    · exact isReadable_fragmentBundle rfl
  obtain ⟨hload, -, hloaded⟩ := load_exact [] "catalog" (some (dottedTree .null))
    (fun tree htree ↦ Option.some.inj htree ▸ hdirectory)
    (fun tree htree ↦ Option.some.inj htree ▸ hreadable)
  obtain ⟨catalog, hcatalog⟩ := hload.2 ⟨_, rfl, isLoadable_dottedTree .null⟩
  obtain ⟨hids, -, hkept⟩ := hloaded _ catalog rfl hcatalog
  refine ⟨hdirectory, hreadable, catalog, hcatalog, (hids "total").2 ?_,
    fun added rule hrule ↦ (hkept added rule hrule).2⟩
  exact ⟨.wholeGrid, _, loads_dottedTree.2 (.inl ⟨rfl, rfl⟩), rfl⟩

/-- The same directory with a number for a description that is too long to be written. -/
theorem load_of_not_isWritable {n : Int} (hn : Text.isWritable n = false) :
    load [] (dottedTree (.int n)) = .error .wrongValue := by
  have hzero : n ≠ 0 := by
    rintro rfl
    rw [Text.isWritable_of_lt (by decide)] at hn
    cases hn
  obtain ⟨entries, make, hentries, hmade⟩ := Bundle.toRule_of_isWellFormed "catalog"
    (@isWellFormed_fragmentBundle .wholeGrid "total" ["dot"] (.int n) (by decide))
  obtain rfl := Option.some.inj hentries
  have hdescription : Bundle.readDescription ((fragmentFields .wholeGrid "total" ["dot"]
      (.int n)).map fun field ↦ (.text field.1, field.2)) = .error .wrongValue := by
    have hget : Entries.get ((fragmentFields .wholeGrid "total" ["dot"] (.int n)).map fun field ↦
        (.text field.1, field.2)) "description" = .int n := by
      rw [Entries.get_record]
      rfl
    simp [Bundle.readDescription, hget, Value.isTruthy, Value.opened, Value.isWritable, hn, hzero]
  rw [hdescription] at hmade
  have hloaded : loaded (dottedTree (.int n)).wholeGrid =
      [fragmentBundle .wholeGrid "total" ["dot"] (.int n)] := by
    simp [loaded, dottedTree, Bundle.isScaffold, fragmentBundle]
  have hside : loadSide "catalog" [] .wholeGrid .empty (dottedTree (.int n)).wholeGrid =
      .error .wrongValue := by
    rw [loadSide, hloaded, List.foldlM_cons, hmade]
    rfl
  rw [load, show (dottedTree (.int n)).root = "catalog" from rfl, hside, error_bind]

/-- The directory whose description is the least number of this kind is loadable, and it is not
loaded. -/
theorem load_overlongDescription :
    let tree := dottedTree (.int Text.leastUnwritable)
    tree.IsDirectory ∧ tree.IsLoadable [] ∧
      load? [] "catalog" (some tree) = .error .wrongValue := by
  have hlong : Text.isWritable Text.leastUnwritable = false := by
    rw [Text.isWritable, Int.natAbs_natCast]
    exact decide_eq_false (Nat.lt_irrefl _)
  exact ⟨isDirectory_dottedTree _, isLoadable_dottedTree _, load_of_not_isWritable hlong⟩

end CatalogTree

end GridPuzzle
