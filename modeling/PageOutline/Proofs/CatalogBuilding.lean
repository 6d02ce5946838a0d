import PageOutline.Recipe.Catalog
import PageOutline.Proofs.Canonical
import Mathlib.Data.List.Forall2

namespace PageOutline

variable {α β : Type}

/-- A fault, and the condition under which a file has it. -/
structure Check where
  fault : ConfigFault
  broken : Prop

/-- The first check that is broken tells of this fault. -/
def FirstBroken (checks : List Check) (fault : ConfigFault) : Prop :=
  ∃ before c after, checks = before ++ c :: after ∧ (∀ b ∈ before, ¬b.broken) ∧ c.broken ∧
    c.fault = fault

/-- A value with `P` where no check is broken, else the fault of the first one that is. -/
def Checked (checks : List Check) (P : α → Prop) : Except Failure α → Prop
  | .ok a => (∀ c ∈ checks, ¬c.broken) ∧ P a
  | .error failure => ∃ fault, FirstBroken checks fault ∧ failure = .config fault

namespace Checked

variable {checks later : List Check} {P : α → Prop} {Q : β → Prop}

theorem pure {a : α} (h : P a) : Checked [] P (Pure.pure a) := ⟨List.forall_mem_nil _, h⟩

theorem bind {x : Except Failure α} {f : α → Except Failure β} (hx : Checked checks P x)
    (hf : ∀ a, P a → Checked later Q (f a)) : Checked (checks ++ later) Q (x >>= f) := by
  cases x with
  | error failure =>
    obtain ⟨fault, ⟨before, c, after, rfl, hbefore, hc, hfault⟩, hfailure⟩ := hx
    exact ⟨fault, ⟨before, c, after ++ later, by simp, hbefore, hc, hfault⟩, hfailure⟩
  | ok a =>
    obtain ⟨hchecks, ha⟩ := hx
    have hlater := hf a ha
    change Checked (checks ++ later) Q (f a)
    cases hfa : f a with
    | error failure =>
      rw [hfa] at hlater
      obtain ⟨fault, ⟨before, c, after, rfl, hbefore, hc, hfault⟩, hfailure⟩ := hlater
      refine ⟨fault, ⟨checks ++ before, c, after, by simp, ?_, hc, hfault⟩, hfailure⟩
      rw [List.forall_mem_append]
      exact ⟨hchecks, hbefore⟩
    | ok b =>
      rw [hfa] at hlater
      refine ⟨?_, hlater.2⟩
      rw [List.forall_mem_append]
      exact ⟨hchecks, hlater.1⟩

theorem map {f : α → β} {x : Except Failure α} (h : Checked checks P x)
    (hf : ∀ a, P a → Q (f a)) : Checked checks Q (f <$> x) := by
  cases x with
  | error failure => exact h
  | ok a => exact ⟨h.1, hf a h.2⟩

theorem mapM {R : α → β → Prop} {checksOf : α → List Check} {f : α → Except Failure β}
    (hf : ∀ a, Checked (checksOf a) (R a) (f a)) (as : List α) :
    Checked (as.flatMap checksOf) (List.Forall₂ R as) (as.mapM f) := by
  induction as with
  | nil =>
    rw [List.mapM_nil]
    exact .pure .nil
  | cons a as ih =>
    rw [List.mapM_cons, List.flatMap_cons]
    refine (hf a).bind fun b hb ↦ ?_
    have hrest := ih.map (f := (b :: ·)) (Q := List.Forall₂ R (a :: as)) fun _ ↦ .cons hb
    rwa [map_eq_pure_bind] at hrest

theorem exists_ok_iff {x : Except Failure α} (h : Checked checks P x) :
    (∃ a, x = .ok a) ↔ ∀ c ∈ checks, ¬c.broken := by
  cases x with
  | error failure =>
    obtain ⟨fault, ⟨before, c, after, rfl, -, hc, -⟩, -⟩ := h
    refine ⟨?_, fun hall ↦ absurd hc (hall c (by simp))⟩
    rintro ⟨_, ⟨⟩⟩
  | ok a => exact ⟨fun _ ↦ h.1, fun _ ↦ ⟨a, rfl⟩⟩

end Checked

def reject (fault : ConfigFault) (bad : Bool) : Except Failure Unit :=
  if bad then throw (.config fault) else return ()

theorem checked_reject {fault : ConfigFault} {bad : Bool} {broken : Prop}
    (h : bad = true ↔ broken) :
    Checked [⟨fault, broken⟩] (fun _ ↦ True) (reject fault bad) := by
  unfold reject
  split
  · next hbad =>
    exact ⟨fault, ⟨[], _, [], rfl, List.forall_mem_nil _, h.1 hbad, rfl⟩, rfl⟩
  · next hbad =>
    refine ⟨?_, trivial⟩
    rw [List.forall_mem_singleton]
    exact fun hbroken ↦ hbad (h.2 hbroken)

namespace FunctionTable

variable {registered : List (String × α)} {start name : String} {builtin : String → α}

/-- A name that is registered, or that has an argument behind the start of the built-in ones. -/
def Resolvable (registered : List (String × α)) (start name : String) : Prop :=
  name ∈ registered.map Prod.fst ∨ ∃ rest, rest ≠ "" ∧ name = start ++ rest

inductive StandsFor (registered : List (String × α)) (start : String) (builtin : String → α)
    (name : String) : α → Prop
  | registered {f : α} (h : registered.lookup name = some f) :
      StandsFor registered start builtin name f
  | builtin {rest : String} (h : registered.lookup name = none) (hrest : rest ≠ "")
      (hname : name = start ++ rest) : StandsFor registered start builtin name (builtin rest)

theorem argument?_eq_some_iff {rest : String} :
    argument? start name = some rest ↔ rest ≠ "" ∧ name = start ++ rest := by
  unfold argument?
  constructor
  · intro h
    split at h
    · next hstart =>
      obtain ⟨cs, hcs⟩ := List.isPrefixOf_iff_prefix.1 hstart
      rw [← hcs, ← String.length_toList, List.drop_left] at h
      cases cs with
      | nil => cases h
      | cons c cs =>
        obtain rfl := Option.some.inj h
        refine ⟨by simp [← String.toList_inj], String.toList_injective ?_⟩
        rw [String.toList_append, String.toList_ofList, hcs]
    · cases h
  · rintro ⟨hrest, rfl⟩
    have hcons : rest.toList ≠ [] := by simpa using hrest
    rw [String.toList_append, if_pos (List.isPrefixOf_iff_prefix.2 (List.prefix_append ..)),
      ← String.length_toList, List.drop_left]
    split
    · next hnil => exact absurd hnil hcons
    · rw [String.ofList_toList]

theorem lookup_isSome_iff : (registered.lookup name).isSome ↔ name ∈ registered.map Prod.fst := by
  induction registered with
  | nil => simp
  | cons e registered ih =>
    obtain ⟨k, f⟩ := e
    rw [List.lookup_cons, List.map_cons, List.mem_cons]
    cases hk : name == k with
    | true => simpa using .inl (eq_of_beq hk)
    | false => simpa [ih] using fun hname : name = k ↦ absurd hname (ne_of_beq_false hk)

theorem resolve_checked (registered : List (String × α)) (start : String) (builtin : String → α)
    (kind : FunctionKind) (name : String) :
    Checked [⟨.unknownFunction kind name, ¬Resolvable registered start name⟩]
      (StandsFor registered start builtin name) (resolve registered start builtin kind name) := by
  unfold resolve Resolvable
  rw [← lookup_isSome_iff]
  cases hlookup : registered.lookup name with
  | some f =>
    refine ⟨?_, .registered hlookup⟩
    simp
  | none =>
    cases hargument : argument? start name with
    | some rest =>
      have hrest := argument?_eq_some_iff.1 hargument
      refine ⟨?_, .builtin hlookup hrest.1 hrest.2⟩
      rw [List.forall_mem_singleton, not_not]
      exact .inr ⟨rest, hrest⟩
    | none =>
      refine ⟨_, ⟨[], _, [], rfl, List.forall_mem_nil _, ?_, rfl⟩, rfl⟩
      rintro (⟨⟨⟩⟩ | ⟨rest, hrest⟩)
      rw [argument?_eq_some_iff.2 hrest] at hargument
      cases hargument

end FunctionTable

open FunctionTable

section Fields

variable (table : FunctionTable)

def TextSpec.checks : TextSpec → List Check
  | .extractor name =>
    [⟨.unknownFunction .textExtractor name, ¬Resolvable table.textExtractors "attr:" name⟩]
  | _ => []

def SpecFields.checks (f : SpecFields) : List Check :=
  [⟨.emptySelector, ∀ c ∈ f.selector.toList, Text.isBlank c⟩] ++
    ([⟨.zeroSeparator f.selector, f.separatorEvery = some 0⟩] ++
      (f.text.toList.flatMap (TextSpec.checks table) ++
        (f.computedAttributes.entries.flatMap (fun p ↦
            [⟨.unknownFunction .attributeComputer p.2,
              ¬Resolvable table.attributeComputers "attr:" p.2⟩]) ++
          f.metadata.toList.flatMap fun name ↦
            [⟨.unknownFunction .metadataGenerator name,
              ¬Resolvable table.metadataGenerators "text:" name⟩])))

/-- A recipe without a fault of its own. -/
structure SpecFields.Sound (f : SpecFields) : Prop where
  selector : ∃ c ∈ f.selector.toList, Text.isBlank c = false
  separator : f.separatorEvery ≠ some 0
  text : ∀ name, f.text = some (.extractor name) → Resolvable table.textExtractors "attr:" name
  computers : ∀ p ∈ f.computedAttributes.entries,
    Resolvable table.attributeComputers "attr:" p.2
  metadata : ∀ name, f.metadata = some name → Resolvable table.metadataGenerators "text:" name

theorem forall_not_broken_iff {as : List α} {fault : α → ConfigFault} {R : α → Prop} :
    (∀ c ∈ as.flatMap fun a ↦ [Check.mk (fault a) (¬R a)], ¬c.broken) ↔ ∀ a ∈ as, R a := by
  constructor
  · intro h a ha
    exact not_not.1 (h _ (List.mem_flatMap.2 ⟨a, ha, List.mem_singleton_self _⟩))
  · intro h c hc
    obtain ⟨a, ha, hc⟩ := List.mem_flatMap.1 hc
    obtain rfl := List.mem_singleton.1 hc
    exact not_not.2 (h a ha)

theorem SpecFields.sound_iff (f : SpecFields) :
    f.Sound table ↔ ∀ c ∈ f.checks table, ¬c.broken := by
  have hselector : (∃ c ∈ f.selector.toList, Text.isBlank c = false) ↔
      ¬∀ c ∈ f.selector.toList, Text.isBlank c := by
    simp
  have htext : (∀ c ∈ f.text.toList.flatMap (TextSpec.checks table), ¬c.broken) ↔
      ∀ name, f.text = some (.extractor name) →
        Resolvable table.textExtractors "attr:" name := by
    rcases f.text with _ | _ | _ | _ <;> simp [TextSpec.checks]
  rw [SpecFields.checks, List.forall_mem_append, List.forall_mem_append, List.forall_mem_append,
    List.forall_mem_append, htext, forall_not_broken_iff, forall_not_broken_iff,
    List.forall_mem_singleton, List.forall_mem_singleton, ← hselector]
  constructor
  · intro h
    exact ⟨h.selector, h.separator, h.text, h.computers,
      fun name hname ↦ h.metadata name (Option.mem_toList.1 hname)⟩
  · rintro ⟨hselector, hseparator, htext, hcomputers, hmetadata⟩
    exact ⟨hselector, hseparator, htext, hcomputers,
      fun name hname ↦ hmetadata name (Option.mem_toList.2 hname)⟩

inductive TextSpec.Gives : Option TextSpec → TextSource → Prop
  | none : Gives none .none
  | selector (s : String) : Gives (some (.selector s)) (.selector s)
  | extractor {name : String} {f : TextFunction}
      (h : StandsFor table.textExtractors "attr:" attributeText name f) :
      Gives (some (.extractor name)) (.extractor f)
  | own : Gives (some .own) .own

inductive NameSpec.Gives : Option NameSpec → NameMode → Prop
  | none : Gives none .none
  | literal (name : String) : Gives (some (.literal name)) (.literal name)
  | fromText : Gives (some .fromText) .fromText
  | fromPosition : Gives (some .fromPosition) .fromPosition

/-- The directive says what the fields say, with functions in the place of their names. -/
structure SpecFields.Gives (f : SpecFields) (d : Directive) : Prop where
  selector : d.selector = f.selector
  tagName : d.tagName = f.tagName
  text : TextSpec.Gives table f.text d.text
  textFormat : d.textFormat = f.textFormat
  attachText : d.attachText = f.addText
  name : NameSpec.Gives f.name d.name
  clickable : d.clickable = f.clickable
  clickSelector : d.clickSelector = f.clickSelector
  keepAttributes : d.keepAttributes = f.keepAttributes
  classOverride : d.classOverride = f.cssClass
  idOverride : d.idOverride = f.id
  computers : List.Forall₂ (fun p q ↦ q.1 = p.1 ∧
      StandsFor table.attributeComputers "attr:" attributeValue p.2 q.2)
    f.computedAttributes.entries d.computers.entries
  metadata : Option.Rel (StandsFor table.metadataGenerators "text:" textRecord) f.metadata
    d.metadata
  directChildOnly : d.directChildOnly = f.directChildOnly
  queryFromRoot : d.queryFromRoot = f.queryFromRoot
  separatorEvery : d.separatorEvery = f.separatorEvery
  emptyPlaceholder : d.emptyPlaceholder = f.emptyMessage

namespace SpecFields

def resolveText (f : SpecFields) : Except Failure TextSource :=
  match f.text with
  | none => pure .none
  | some t => t.build table

def resolveComputers (f : SpecFields) : Except Failure (List (String × AttributeFunction)) :=
  f.computedAttributes.entries.mapM fun p ↦ Prod.mk p.1 <$> table.attributeComputer p.2

def resolveMetadata (f : SpecFields) : Except Failure (Option MetadataFunction) :=
  match f.metadata with
  | none => pure none
  | some name => some <$> table.metadataGenerator name

def directive (f : SpecFields) (text : TextSource)
    (computers : List (String × AttributeFunction)) (metadata : Option MetadataFunction) :
    Directive where
  selector := f.selector
  tagName := f.tagName
  text
  textFormat := f.textFormat
  attachText := f.addText
  name := (f.name.map NameSpec.build).getD .none
  clickable := f.clickable
  clickSelector := f.clickSelector
  keepAttributes := f.keepAttributes
  classOverride := f.cssClass
  idOverride := f.id
  computers := .ofList computers
  metadata
  directChildOnly := f.directChildOnly
  queryFromRoot := f.queryFromRoot
  separatorEvery := f.separatorEvery
  emptyPlaceholder := f.emptyMessage

theorem build_eq (f : SpecFields) : f.build table = (do
    reject .emptySelector (Text.isAllBlank f.selector)
    reject (.zeroSeparator f.selector) (f.separatorEvery = some 0)
    let text ← f.resolveText table
    let computers ← f.resolveComputers table
    let metadata ← f.resolveMetadata table
    return f.directive text computers metadata) := by
  unfold build reject resolveText resolveComputers resolveMetadata
  by_cases hselector : Text.isAllBlank f.selector
  · rw [if_pos hselector, if_pos hselector]
    rfl
  rw [if_neg hselector, if_neg hselector]
  by_cases hseparator : f.separatorEvery = some 0
  · rw [if_pos hseparator, if_pos (decide_eq_true hseparator)]
    rfl
  rw [if_neg hseparator, if_neg (by simpa using hseparator)]
  cases f.text <;> cases f.metadata <;> rfl

theorem resolveText_checked (f : SpecFields) :
    Checked (f.text.toList.flatMap (TextSpec.checks table)) (TextSpec.Gives table f.text)
      (f.resolveText table) := by
  unfold resolveText
  rcases f.text with _ | s | name | _
  · exact .pure .none
  · exact .pure (.selector s)
  · exact (resolve_checked ..).map fun _ hf ↦ .extractor hf
  · exact .pure .own

theorem resolveComputers_checked (f : SpecFields) :
    Checked (f.computedAttributes.entries.flatMap fun p ↦
        [⟨.unknownFunction .attributeComputer p.2,
          ¬Resolvable table.attributeComputers "attr:" p.2⟩])
      (List.Forall₂ (fun p q ↦ q.1 = p.1 ∧
        StandsFor table.attributeComputers "attr:" attributeValue p.2 q.2)
          f.computedAttributes.entries) (f.resolveComputers table) :=
  .mapM (fun _ ↦ (resolve_checked ..).map fun _ hg ↦ ⟨rfl, hg⟩) _

theorem resolveMetadata_checked (f : SpecFields) :
    Checked (f.metadata.toList.flatMap fun name ↦
        [⟨.unknownFunction .metadataGenerator name,
          ¬Resolvable table.metadataGenerators "text:" name⟩])
      (Option.Rel (StandsFor table.metadataGenerators "text:" textRecord) f.metadata)
      (f.resolveMetadata table) := by
  unfold resolveMetadata
  cases f.metadata with
  | none => exact .pure .none
  | some name => exact (resolve_checked ..).map fun _ hg ↦ .some hg

theorem gives_name (f : SpecFields) :
    NameSpec.Gives f.name ((f.name.map NameSpec.build).getD .none) := by
  rcases f.name with _ | name | _ | _
  · exact .none
  · exact .literal name
  · exact .fromText
  · exact .fromPosition

theorem gives_directive {f : SpecFields} {text : TextSource}
    {computers : List (String × AttributeFunction)} {metadata : Option MetadataFunction}
    (htext : TextSpec.Gives table f.text text)
    (hcomputers : List.Forall₂ (fun p q ↦ q.1 = p.1 ∧
      StandsFor table.attributeComputers "attr:" attributeValue p.2 q.2)
        f.computedAttributes.entries computers)
    (hmetadata : Option.Rel (StandsFor table.metadataGenerators "text:" textRecord) f.metadata
      metadata) : f.Gives table (f.directive text computers metadata) where
  selector := rfl
  tagName := rfl
  text := htext
  textFormat := rfl
  attachText := rfl
  name := f.gives_name
  clickable := rfl
  clickSelector := rfl
  keepAttributes := rfl
  classOverride := rfl
  idOverride := rfl
  computers := by
    have hkeys : computers.map Prod.fst = f.computedAttributes.keys := by
      have hsame : List.Forall₂ (· = ·) f.computedAttributes.keys (computers.map Prod.fst) := by
        rw [OrderedMap.keys, List.forall₂_map_left_iff, List.forall₂_map_right_iff]
        exact hcomputers.imp fun _ _ h ↦ h.1.symm
      rw [List.forall₂_eq_eq_eq] at hsame
      exact hsame.symm
    have hentries : (OrderedMap.ofList computers).entries = computers :=
      OrderedMap.entries_ofList (hkeys ▸ f.computedAttributes.nodup)
    exact hentries.symm ▸ hcomputers
  metadata := hmetadata
  directChildOnly := rfl
  queryFromRoot := rfl
  separatorEvery := rfl
  emptyPlaceholder := rfl

theorem build_checked (f : SpecFields) :
    Checked (f.checks table) (f.Gives table) (f.build table) := by
  have hselector : Text.isAllBlank f.selector = true ↔
      ∀ c ∈ f.selector.toList, Text.isBlank c := List.all_eq_true
  rw [build_eq]
  refine (checked_reject hselector).bind fun _ _ ↦ ?_
  refine (checked_reject decide_eq_true_iff).bind fun _ _ ↦ ?_
  refine (f.resolveText_checked table).bind fun text htext ↦ ?_
  refine (f.resolveComputers_checked table).bind fun computers hcomputers ↦ ?_
  have hlast := (f.resolveMetadata_checked table).map
    fun _ hmetadata ↦ gives_directive table htext hcomputers hmetadata
  rwa [map_eq_pure_bind] at hlast

end SpecFields

end Fields

section Trees

variable (table : FunctionTable)

mutual

/-- The recipe has the shape of its description, and says the same at every node. -/
def RecipeSpec.Describes : RecipeSpec → Recipe → Prop
  | .node f ss, .node d rs => f.Gives table d ∧ DescribesAll ss rs

def DescribesAll : List RecipeSpec → List Recipe → Prop
  | [], [] => True
  | s :: ss, r :: rs => s.Describes r ∧ DescribesAll ss rs
  | [], _ :: _ | _ :: _, [] => False

end

mutual

theorem RecipeSpec.Describes.count {s : RecipeSpec} {r : Recipe} (h : s.Describes table r) :
    r.count = s.nodes.length := by
  match s, r with
  | .node f ss, .node d rs =>
    rw [Recipe.count, RecipeSpec.nodes, List.length_cons, DescribesAll.count h.2, Nat.add_comm]

theorem DescribesAll.count {ss : List RecipeSpec} {rs : List Recipe}
    (h : DescribesAll table ss rs) :
    Recipe.countAll rs = (RecipeSpec.nodesAll ss).length := by
  match ss, rs with
  | [], [] => rfl
  | s :: ss, r :: rs =>
    rw [Recipe.countAll, RecipeSpec.nodesAll, List.length_append, RecipeSpec.Describes.count h.1,
      DescribesAll.count h.2]

end

mutual

theorem RecipeSpec.build_checked (s : RecipeSpec) :
    Checked (s.nodes.flatMap (SpecFields.checks table)) (s.Describes table) (s.build table) := by
  match s with
  | .node f ss =>
    rw [RecipeSpec.nodes, List.flatMap_cons, RecipeSpec.build]
    refine (f.build_checked table).bind fun d hd ↦ ?_
    have hrest := (buildAll_checked ss).map (f := Recipe.node d)
      (Q := RecipeSpec.Describes table (.node f ss)) fun _ hrs ↦ ⟨hd, hrs⟩
    rwa [map_eq_pure_bind] at hrest

theorem buildAll_checked (ss : List RecipeSpec) :
    Checked ((RecipeSpec.nodesAll ss).flatMap (SpecFields.checks table)) (DescribesAll table ss)
      (buildAll table ss) := by
  match ss with
  | [] =>
    rw [buildAll]
    exact .pure trivial
  | s :: ss =>
    rw [RecipeSpec.nodesAll, List.flatMap_append, buildAll]
    refine s.build_checked.bind fun r hr ↦ ?_
    have hrest := (buildAll_checked ss).map (f := (r :: ·))
      (Q := DescribesAll table (s :: ss)) fun _ hrs ↦ ⟨hr, hrs⟩
    rwa [map_eq_pure_bind] at hrest

end

def CatalogFile.checks (file : CatalogFile) : List Check :=
  file.pages.flatMap fun page ↦ page.recipe.nodes.flatMap (SpecFields.checks table)

theorem CatalogFile.build_checked (file : CatalogFile) :
    Checked (file.checks table) (fun c ↦ List.Forall₂ (fun page entry ↦ entry.rule = page.rule ∧
      page.recipe.Describes table entry.recipe) file.pages c.entries) (file.build table) := by
  have hpage (page : PageSpec) : Checked (page.recipe.nodes.flatMap (SpecFields.checks table))
      (fun entry ↦ entry.rule = page.rule ∧ page.recipe.Describes table entry.recipe)
      (CatalogEntry.mk page.rule <$> page.recipe.build table) :=
    (page.recipe.build_checked table).map fun _ hr ↦ ⟨rfl, hr⟩
  have hpages := (Checked.mapM hpage file.pages).map (f := Catalog.mk)
    (Q := fun c ↦ List.Forall₂ (fun page entry ↦ entry.rule = page.rule ∧
      page.recipe.Describes table entry.recipe) file.pages c.entries) fun _ h ↦ h
  simp only [map_eq_pure_bind] at hpages
  exact hpages

/-- A file becomes a catalog where every recipe in it is sound, at every depth; the catalog then has
the pages of the file, with recipes of the same shape that say the same. Any other file fails with
the first of its faults. -/
theorem CatalogFile.build_wholly (file : CatalogFile) :
    ((∃ c, file.build table = .ok c) ↔
      ∀ page ∈ file.pages, ∀ f ∈ page.recipe.nodes, f.Sound table) ∧
    (∀ c, file.build table = .ok c →
      List.Forall₂ (fun page entry ↦ entry.rule = page.rule ∧
        page.recipe.Describes table entry.recipe ∧
          entry.recipe.count = page.recipe.nodes.length) file.pages c.entries) ∧
    ∀ failure, file.build table = .error failure →
      ∃ fault, FirstBroken (file.checks table) fault ∧ failure = .config fault := by
  have hchecked := file.build_checked table
  refine ⟨?_, fun c hc ↦ ?_, fun failure hfailure ↦ ?_⟩
  · rw [hchecked.exists_ok_iff, CatalogFile.checks]
    simp only [List.forall_mem_flatMap, SpecFields.sound_iff]
  · rw [hc] at hchecked
    exact hchecked.2.imp fun page entry h ↦ ⟨h.1, h.2, h.2.count⟩
  · rw [hfailure] at hchecked
    exact hchecked

end Trees

end PageOutline
