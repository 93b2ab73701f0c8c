import GridPuzzle.Catalog.Bundle
import GridPuzzle.Proofs.Ordered
import GridPuzzle.Proofs.Value

/-!
# Rules of bundles

A bundle is well formed if its metadata are a mapping that names the bundle and the side of the
catalog, hold lists of texts where such are due, and declare what is there and nothing else. From
these bundles, and from no others, a rule is made, if the description that they give can be written
down. Whatever is wrong with another bundle is reported as a wrong configuration.
-/

namespace GridPuzzle

open Fallible

/-! ## Well-formed bundles -/

namespace Value

/-- A value that counts as absent, or a list of texts. -/
def IsTextList (given : Value) : Prop :=
  given.isTruthy = false ∨ ∃ texts : List String, given.list? = some (texts.map text)

def Lists (given : Value) (s : String) : Prop :=
  ∃ items, given.list? = some items ∧ text s ∈ items

end Value

namespace Bundle

/-- The entries of the metadata, if they are a mapping. -/
def entries? (bundle : Bundle) : Option Entries :=
  match bundle.metadata with
  | some (.ok given) => given.entries?
  | _ => none

def Declares (bundle : Bundle) (key s : String) : Prop :=
  ∃ entries, bundle.entries? = some entries ∧ (Entries.get entries key).Lists s

/-- A capability is there: the fragment's file, or a generator under the name of the bundle. -/
def Provides (generators : GeneratorTable) (bundle : Bundle) (capability : String) : Prop :=
  capability = "fragment" ∧ bundle.fragment.isSome ∨
    capability = "generator" ∧ (generators.lookup bundle.name).isSome

/-- The keys of the metadata under which texts are listed. -/
def listKeys : List String := ["capabilities", "requiredVariables", "categories", "consumes"]

/-- The entries of a bundle on a side of a catalog. -/
structure IsDescribedBy (scope : Scope) (bundle : Bundle) (entries : Entries) : Prop where
  id : Entries.get entries "id" = .text bundle.name
  type : Entries.get entries "type" = .text scope.name
  name : ∃ s, Entries.get entries "name" = .text s ∧ Text.isBlankText s = false
  lists : ∀ key ∈ listKeys, (Entries.get entries key).IsTextList
  render : Entries.get entries "render" = .null ∨ (Entries.get entries "render").entries?.isSome

/-- The metadata are such entries, and they declare what is there. -/
structure IsWellFormed (scope : Scope) (generators : GeneratorTable) (bundle : Bundle) : Prop where
  metadata : ∃ entries, bundle.entries? = some entries ∧ bundle.IsDescribedBy scope entries
  declared : ∀ capability,
    bundle.Declares "capabilities" capability ↔ bundle.Provides generators capability

/-! ## Lists of texts -/

theorem mapM_text?_eq_some {items : List Value} {texts : List String} :
    items.mapM Value.text? = some texts ↔ items = texts.map .text := by
  induction items generalizing texts with
  | nil => cases texts <;> simp
  | cons item items ih =>
    simp only [List.mapM_cons, Option.bind_eq_bind, Option.bind_eq_some_iff, ih]
    constructor
    · rintro ⟨s, hs, rest, rfl, h⟩
      obtain rfl := Option.some.inj h
      cases item <;> cases hs
      rfl
    · intro h
      cases texts with
      | nil => cases h
      | cons s rest =>
        obtain ⟨rfl, rfl⟩ := List.cons.inj h
        exact ⟨s, rfl, rest, rfl, rfl⟩

theorem readTexts_eq_ok {path key : String} {entries : Entries} {texts : List String} :
    readTexts path key entries = .ok texts ↔
      (Entries.get entries key).list? = some (texts.map .text) ∨
        (Entries.get entries key).list? = none ∧ (Entries.get entries key).isTruthy = false ∧
          texts = [] := by
  unfold readTexts
  dsimp only
  cases hlist : (Entries.get entries key).list? with
  | none => cases (Entries.get entries key).isTruthy <;> simp [eq_comm]
  | some items =>
    simp only [Option.some.injEq, reduceCtorEq, false_and, or_false]
    rw [← mapM_text?_eq_some]
    cases items.mapM Value.text? <;> simp

theorem mem_of_readTexts {path key : String} {entries : Entries} {texts : List String}
    (h : readTexts path key entries = .ok texts) (s : String) :
    s ∈ texts ↔ (Entries.get entries key).Lists s := by
  obtain hlist | ⟨hlist, -, rfl⟩ := readTexts_eq_ok.1 h
  · simp [Value.Lists, hlist]
  · simp [Value.Lists, hlist]

theorem exists_readTexts {path key : String} {entries : Entries} :
    (∃ texts, readTexts path key entries = .ok texts) ↔ (Entries.get entries key).IsTextList := by
  simp only [readTexts_eq_ok]
  constructor
  · rintro ⟨texts, hlist | ⟨-, hfalsy, -⟩⟩
    · exact .inr ⟨texts, hlist⟩
    · exact .inl hfalsy
  · rintro (hfalsy | ⟨texts, hlist⟩)
    · cases hlist : (Entries.get entries key).list? with
      | none => exact ⟨[], .inr ⟨rfl, hfalsy, rfl⟩⟩
      | some items =>
        have hnil : items = [] := by simpa [Value.isTruthy_of_list? hlist] using hfalsy
        exact ⟨[], .inl (by rw [hnil]; rfl)⟩
    · exact ⟨texts, .inl hlist⟩

/-! ## Capabilities -/

theorem present_eq (bundle : Bundle) (generator : Option Generator) :
    bundle.present generator = knownCapabilities.filter fun capability ↦
      if capability = "fragment" then bundle.fragment.isSome else generator.isSome := by
  rw [present, knownCapabilities]
  cases bundle.fragment <;> cases generator <;> rfl

theorem mem_present {generators : GeneratorTable} {bundle : Bundle} {capability : String} :
    capability ∈ bundle.present (generators.lookup bundle.name) ↔
      bundle.Provides generators capability := by
  rw [present, Provides]
  cases bundle.fragment <;> cases generators.lookup bundle.name <;> simp

/-- Names with the members of the capabilities that are there come to these in order. -/
theorem sortedNames_eq_present {texts : List String} {bundle : Bundle}
    {generator : Option Generator} (h : ∀ s, s ∈ texts ↔ s ∈ bundle.present generator) :
    sortedNames texts = bundle.present generator := by
  have hknown : knownCapabilities.Pairwise fun s t ↦ Text.isAtMost s t = true ∧ s ≠ t := by decide
  have hanti : ∀ s ∈ knownCapabilities, ∀ t ∈ knownCapabilities,
      Text.isAtMost s t = true → Text.isAtMost t s = true → s = t := by decide
  refine eraseReps_eq (pairwise_sortNames texts) ?_ (fun s hs t ht ↦ ?_)
    fun s ↦ mem_sortNames.trans (h s)
  · rw [present_eq]
    exact hknown.filter _
  · rw [present_eq] at hs ht
    exact hanti s (List.mem_of_mem_filter hs) t (List.mem_of_mem_filter ht)

/-- The capabilities pass the check just if those are declared that are there. -/
theorem checkCapabilities_eq_ok {path : String} {bundle : Bundle} {generator : Option Generator}
    {entries : Entries} : checkCapabilities path bundle generator entries = .ok () ↔
      ∃ texts, readTexts path "capabilities" entries = .ok texts ∧
        ∀ s, s ∈ texts ↔ s ∈ bundle.present generator := by
  rw [checkCapabilities, bind_eq_ok]
  refine exists_congr fun texts ↦ and_congr_right fun _ ↦ ?_
  dsimp only
  constructor
  · intro h s
    split at h
    · simp at h
    · split at h
      · simp at h
      next heq => rw [← mem_sortedNames, not_not.1 heq]
  · intro h
    have hknown : ∀ s ∈ bundle.present generator, s ∈ knownCapabilities := by
      rw [present_eq]
      exact fun s ↦ List.mem_of_mem_filter
    simpa [sortedNames_eq_present h] using hknown

/-! ## The rule of a bundle -/

variable {root : String} {scope : Scope} {generators : GeneratorTable} {bundle : Bundle}

theorem readMetadata_eq_ok {entries : Entries} :
    bundle.readMetadata root scope = .ok entries ↔ bundle.entries? = some entries := by
  unfold readMetadata entries?
  rcases bundle.metadata with _ | _ | given
  · simp
  · simp
  · dsimp only
    cases given.entries? <;> simp

theorem readName_eq_ok {path s : String} {entries : Entries} :
    readName path entries = .ok s ↔
      Entries.get entries "name" = .text s ∧ Text.isBlankText s = false := by
  unfold readName
  split
  next t heq =>
    rw [heq]
    by_cases hblank : Text.isBlankText t = true
    · have hne : t = s → ¬Text.isBlankText s = false := by
        rintro rfl
        simp [hblank]
      simpa [hblank] using hne
    · have hblank := Bool.eq_false_iff.2 hblank
      simp only [hblank, Bool.false_eq_true, if_false, Except.ok.injEq, Value.text.injEq]
      constructor
      · rintro rfl
        exact ⟨rfl, hblank⟩
      · exact And.left
  next hnot => simpa using fun h ↦ absurd h (hnot s)

theorem exists_readRender {path : String} {entries : Entries} :
    (∃ render, readRender path entries = .ok render) ↔
      Entries.get entries "render" = .null ∨ (Entries.get entries "render").entries?.isSome := by
  unfold readRender
  dsimp only
  split
  next heq => simp [heq]
  next hnot =>
    split
    next h => simp [h]
    next h => simpa [h] using hnot

theorem readDescription_eq_error {entries : Entries} {e : Error}
    (h : readDescription entries = .error e) :
    e = .wrongValue ∧ (Entries.get entries "description").isWritable = false := by
  unfold readDescription at h
  dsimp only at h
  split at h
  · simp at h
  · split at h
    · simp at h
    next hnot => exact ⟨(Except.error.inj h).symm, Bool.eq_false_iff.2 hnot⟩

/-- The capabilities of a rule that is emitted as the bundle says are those that are there. -/
theorem capabilities_eq_present {rule : Rule} (hfragment : rule.fragment = bundle.fragment) :
    rule.capabilities = bundle.present rule.generator := by
  rw [Rule.capabilities, hfragment, present]

/-- What is known of a rule that is made from a bundle. -/
theorem toRule_eq_ok {rule : Rule} (h : bundle.toRule root scope generators = .ok rule) :
    bundle.IsWellFormed scope generators ∧ rule.id = bundle.name ∧ rule.scope = scope ∧
      (∀ s, s ∈ rule.capabilities ↔ bundle.Declares "capabilities" s) ∧
      ∀ s, s ∈ rule.consumes ↔ bundle.Declares "consumes" s := by
  obtain ⟨entries, hentries, h⟩ := bind_eq_ok.1 h
  have hentries := readMetadata_eq_ok.1 hentries
  have hdeclares {path key : String} {texts : List String}
      (htexts : readTexts path key entries = .ok texts) (s : String) :
      s ∈ texts ↔ bundle.Declares key s := by
    simp [mem_of_readTexts htexts, Declares, hentries]
  dsimp only at h
  split at h
  · simp at h
  next hid =>
    split at h
    · simp at h
    next htype =>
      obtain ⟨name, hname, h⟩ := bind_eq_ok.1 h
      obtain ⟨⟨⟩, hcapabilities, h⟩ := bind_eq_ok.1 h
      obtain ⟨render, hrender, h⟩ := bind_eq_ok.1 h
      obtain ⟨description, -, h⟩ := bind_eq_ok.1 h
      obtain ⟨kinds, hkinds, h⟩ := bind_eq_ok.1 h
      obtain ⟨categories, hcategories, h⟩ := bind_eq_ok.1 h
      obtain ⟨consumes, hconsumes, h⟩ := bind_eq_ok.1 h
      obtain rfl := Except.ok.inj h
      obtain ⟨capabilities, hread, hpresent⟩ := checkCapabilities_eq_ok.1 hcapabilities
      have hdescribed : bundle.IsDescribedBy scope entries := by
        refine ⟨Value.same_text_iff.1 (by simpa using hid),
          Value.same_text_iff.1 (by simpa using htype), ⟨name, readName_eq_ok.1 hname⟩, ?_,
          exists_readRender.1 ⟨render, hrender⟩⟩
        simp only [listKeys, List.forall_mem_cons]
        exact ⟨exists_readTexts.1 ⟨_, hread⟩, exists_readTexts.1 ⟨_, hkinds⟩,
          exists_readTexts.1 ⟨_, hcategories⟩, exists_readTexts.1 ⟨_, hconsumes⟩, by simp⟩
      refine ⟨⟨⟨entries, hentries, hdescribed⟩, fun s ↦ ?_⟩, rfl, rfl, fun s ↦ ?_,
        hdeclares hconsumes⟩
      · rw [← hdeclares hread, hpresent, mem_present]
      · rw [capabilities_eq_present rfl, ← hdeclares hread, hpresent]

/-- Of a well-formed bundle nothing but the description is left to be read. -/
theorem toRule_of_isWellFormed (root : String) (h : bundle.IsWellFormed scope generators) :
    ∃ entries, ∃ make : String → Rule, bundle.entries? = some entries ∧
      bundle.toRule root scope generators = (readDescription entries).map make := by
  obtain ⟨⟨entries, hentries, hdescribed⟩, hdeclared⟩ := h
  have htexts (key : String) (hkey : key ∈ listKeys) :
      ∃ texts, readTexts (bundle.metadataPath root scope) key entries = .ok texts :=
    exists_readTexts.2 (hdescribed.lists key hkey)
  obtain ⟨name, hname⟩ := hdescribed.name
  obtain ⟨render, hrender⟩ := (@exists_readRender (bundle.metadataPath root scope) entries).2
    hdescribed.render
  obtain ⟨capabilities, hcapabilities⟩ := htexts "capabilities" (by simp [listKeys])
  obtain ⟨kinds, hkinds⟩ := htexts "requiredVariables" (by simp [listKeys])
  obtain ⟨categories, hcategories⟩ := htexts "categories" (by simp [listKeys])
  obtain ⟨consumes, hconsumes⟩ := htexts "consumes" (by simp [listKeys])
  have hcheck : checkCapabilities (bundle.metadataPath root scope) bundle
      (generators.lookup bundle.name) entries = .ok () := by
    refine checkCapabilities_eq_ok.2 ⟨capabilities, hcapabilities, fun s ↦ ?_⟩
    rw [mem_of_readTexts hcapabilities, mem_present, ← hdeclared]
    simp [Declares, hentries]
  have hsame (s : String) : (Value.text s).same (.text s) = true := Value.same_text_iff.2 rfl
  let make (description : String) : Rule :=
    { id := bundle.name
      name, scope, description, requiredKinds := kinds, categories, consumes, render
      generator := generators.lookup bundle.name
      fragment := bundle.fragment
      requiresRegions := (Entries.get entries "requiresRegions").isTruthy }
  refine ⟨entries, make, hentries, ?_⟩
  unfold toRule
  rw [readMetadata_eq_ok.2 hentries]
  simp only [ok_bind, hdescribed.id, hdescribed.type, hsame, Bool.not_true, Bool.false_eq_true,
    if_false, readName_eq_ok.2 hname, hcheck, hrender, hkinds, hcategories, hconsumes]
  rfl

/-- A rule is made from every well-formed bundle with a description that can be written. -/
theorem exists_toRule (root : String) (h : bundle.IsWellFormed scope generators)
    (hdescription : ∀ entries, bundle.entries? = some entries →
      (Entries.get entries "description").isWritable = true) :
    ∃ rule, bundle.toRule root scope generators = .ok rule := by
  obtain ⟨entries, make, hentries, hmade⟩ := toRule_of_isWellFormed root h
  rw [hmade]
  cases hread : readDescription entries with
  | ok description => exact ⟨make description, rfl⟩
  | error e =>
    have hnot := (readDescription_eq_error hread).2
    simp [hdescription entries hentries] at hnot

/-! ## Faults of bundles -/

/-- The values that are shown when a rule is made: two of them if they are wrong, and the
description. -/
def shownKeys : List String := ["id", "type", "description"]

/-- What is wrong with the metadata, if anything, is their form or their contents, and nothing in
them that may be shown is too long to be written. -/
structure IsReadable (bundle : Bundle) : Prop where
  form : ∀ fault, bundle.metadata = some (.error fault) → fault = .malformed
  wording : ∀ entries, bundle.entries? = some entries →
    ∀ key ∈ shownKeys, (Entries.get entries key).isWritable = true

/-- A fault that is reported as a wrong configuration. -/
abbrev Misconfigured (e : Error) : Prop := e.settled.category = .configuration

theorem misconfigured_readMetadata (h : bundle.IsReadable) :
    FaultsIn Misconfigured (bundle.readMetadata root scope) := by
  unfold readMetadata
  split
  · exact .error rfl
  next fault hmetadata =>
    obtain rfl := h.form fault hmetadata
    exact .error rfl
  · split
    · exact .ok _
    · exact .error rfl

theorem misconfigured_readTexts (path key : String) (entries : Entries) :
    FaultsIn Misconfigured (readTexts path key entries) := by
  unfold readTexts
  dsimp only
  split
  · exact .ok _
  · exact .error rfl

theorem misconfigured_readName (path : String) (entries : Entries) :
    FaultsIn Misconfigured (readName path entries) := by
  unfold readName
  split
  · split
    · exact .error rfl
    · exact .ok _
  · exact .error rfl

theorem misconfigured_readRender (path : String) (entries : Entries) :
    FaultsIn Misconfigured (readRender path entries) := by
  unfold readRender
  dsimp only
  split
  · exact .ok _
  · split
    · exact .ok _
    · exact .error rfl

theorem misconfigured_checkCapabilities (path : String) (bundle : Bundle)
    (generator : Option Generator) (entries : Entries) :
    FaultsIn Misconfigured (checkCapabilities path bundle generator entries) := by
  refine (misconfigured_readTexts _ _ _).bind fun texts _ ↦ ?_
  dsimp only
  split
  · exact .error rfl
  · split
    · exact .error rfl
    · exact .ok _

theorem misconfigured_toRule (h : bundle.IsReadable) :
    FaultsIn Misconfigured (bundle.toRule root scope generators) := by
  refine (misconfigured_readMetadata h).bind fun entries hentries ↦ ?_
  have hwording := h.wording entries (readMetadata_eq_ok.1 hentries)
  have hid := hwording "id" (by simp [shownKeys])
  have htype := hwording "type" (by simp [shownKeys])
  have hdescription := hwording "description" (by simp [shownKeys])
  dsimp only
  split
  · exact .of_throw_bind (by simp [Misconfigured, Error.settled, Error.isWordable, hid,
      Error.category]) _
  · split
    · exact .of_throw_bind (by simp [Misconfigured, Error.settled, Error.isWordable, htype,
        Error.category]) _
    · refine (misconfigured_readName _ _).bind fun _ _ ↦ ?_
      refine (misconfigured_checkCapabilities _ _ _ _).bind fun _ _ ↦ ?_
      refine (misconfigured_readRender _ _).bind fun _ _ ↦ ?_
      refine FaultsIn.bind (fun e he ↦ ?_) fun _ _ ↦ ?_
      · have hnot := (readDescription_eq_error he).2
        simp [hdescription] at hnot
      · exact (misconfigured_readTexts _ _ _).bind fun _ _ ↦
          (misconfigured_readTexts _ _ _).bind fun _ _ ↦
            (misconfigured_readTexts _ _ _).bind fun _ _ ↦ .ok _

end Bundle

end GridPuzzle
