import PageOutline.Proofs.Accumulation
import PageOutline.Proofs.Attributes
import PageOutline.Proofs.Held

namespace PageOutline

open Text (asciiLower)

/-- The tags of clickable elements and of inputs have names of their own, whatever their case. -/
structure Settings.TagsApart (s : Settings) : Prop where
  clickable : ∀ name ∈ [s.inputAttribute, s.selectAttribute, s.metaNameAttribute,
    s.metaDataAttribute], asciiLower s.clickableAttribute ≠ asciiLower name
  input : ∀ name ∈ [s.selectAttribute, s.metaNameAttribute, s.metaDataAttribute],
    asciiLower s.inputAttribute ≠ asciiLower name

/-- No element carries the tag of a clickable element or of an input. -/
def Document.Untagged (settings : Settings) (d : Document) : Prop :=
  ∀ n ∈ d.nodes.toList, ∀ name ∈ [settings.clickableAttribute, settings.inputAttribute],
    asciiLower name ∉ n.content.attributes.keys

instance (settings : Settings) (d : Document) : Decidable (d.Untagged settings) :=
  inferInstanceAs (Decidable (∀ n ∈ d.nodes.toList, _))

/-- Every tag of a clickable element or an input on the document has its entry. -/
structure Registry.Resolves (settings : Settings) (r : Registry) (d : Document) : Prop where
  clickable : ∀ node name,
    (d.attributes node).get? (asciiLower settings.clickableAttribute) = some name →
      name ∈ r.clickables.keys
  input : ∀ node name,
    (d.attributes node).get? (asciiLower settings.inputAttribute) = some name →
      name ∈ r.inputs.keys

theorem NodeContent.get?_attributes_setAttribute {c : NodeContent} {name value key v : String}
    (h : (c.setAttribute name value).attributes.get? key = some v) :
    (key = asciiLower name ∧ v = value) ∨ c.attributes.get? key = some v := by
  cases c with
  | element tag attributes =>
    have hv := (OrderedMap.get?_insert attributes (asciiLower name) key value).symm.trans h
    by_cases hkey : key = asciiLower name
    · rw [if_pos hkey] at hv
      exact .inl ⟨hkey, (Option.some.inj hv).symm⟩
    · rw [if_neg hkey] at hv
      exact .inr hv
  | text s => exact .inr h

namespace Document

theorem get?_attributes_insertAttribute {d : Document} {node id : NodeId}
    {name value key v : String}
    (h : ((d.insertAttribute node name value).attributes id).get? key = some v) :
    (key = asciiLower name ∧ v = value) ∨ (d.attributes id).get? key = some v := by
  rw [attributes_eq, node?_insertAttribute] at h
  rw [attributes_eq]
  split at h
  · cases hn : d.node? id with
    | none => simp [hn] at h
    | some n =>
      rw [hn] at h
      exact NodeContent.get?_attributes_setAttribute h
  · exact .inr h

theorem get?_attributes_of_untagged {d : Document} {settings : Settings} {name : String}
    (h : d.Untagged settings)
    (hname : name ∈ [settings.clickableAttribute, settings.inputAttribute]) (node : NodeId) :
    (d.attributes node).get? (asciiLower name) = none := by
  rw [attributes_eq]
  cases hn : d.node? node with
  | none => rfl
  | some n =>
    have hmem : n ∈ d.nodes.toList := Array.mem_toList_iff.2 (Array.mem_of_getElem? hn)
    exact OrderedMap.get?_eq_none_iff.2 (h n hmem name hname)

end Document

namespace Registry

variable {settings : Settings} {r : Registry} {d : Document}

theorem Resolves.addClickable (h : r.Resolves settings d) (name : String) (recipe : Recipe) :
    (r.addClickable name recipe).Resolves settings d where
  clickable node key hk := OrderedMap.mem_keys_insert.2 (.inr (h.clickable node key hk))
  input := h.input

theorem Resolves.addInput (h : r.Resolves settings d) (name : String) (recipe : Recipe) :
    (r.addInput name recipe).Resolves settings d where
  clickable := h.clickable
  input node key hk := OrderedMap.mem_keys_insert.2 (.inr (h.input node key hk))

theorem Resolves.insertAttribute (h : r.Resolves settings d) (node : NodeId) {name value : String}
    (hc : asciiLower settings.clickableAttribute = asciiLower name → value ∈ r.clickables.keys)
    (hi : asciiLower settings.inputAttribute = asciiLower name → value ∈ r.inputs.keys) :
    r.Resolves settings (d.insertAttribute node name value) where
  clickable id v hv := by
    rcases Document.get?_attributes_insertAttribute hv with ⟨hk, rfl⟩ | hv
    · exact hc hk
    · exact h.clickable id v hv
  input id v hv := by
    rcases Document.get?_attributes_insertAttribute hv with ⟨hk, rfl⟩ | hv
    · exact hi hk
    · exact h.input id v hv

theorem Resolves.overlay (h : r.Resolves settings d) (p : Registry) :
    (r.overlay p).Resolves settings d where
  clickable node key hk := OrderedMap.mem_keys_overlay.2 (.inl (h.clickable node key hk))
  input node key hk := OrderedMap.mem_keys_overlay.2 (.inl (h.input node key hk))

theorem resolves_of_untagged (r : Registry) (h : d.Untagged settings) : r.Resolves settings d where
  clickable node key hk := by
    rw [Document.get?_attributes_of_untagged h (by simp)] at hk
    cases hk
  input node key hk := by
    rw [Document.get?_attributes_of_untagged h (by simp)] at hk
    cases hk

theorem resolves_keptByTags (ha : settings.TagsApart) (recipe : Recipe) :
    Pass.KeptByTags (fun d r ↦ r.Resolves settings d) settings recipe where
  click _ _ name _ h := h.addClickable name recipe
  clickTag _ _ node name h := h.insertAttribute node
    (fun _ ↦ OrderedMap.mem_keys_insert.2 (.inl rfl))
    (fun hi ↦ absurd hi.symm (ha.clickable _ (by simp)))
  input _ _ name _ h := h.addInput name recipe
  inputTag _ _ node name h := h.insertAttribute node
    (fun hc ↦ absurd hc (ha.clickable _ (by simp)))
    (fun _ ↦ OrderedMap.mem_keys_insert.2 (.inl rfl))
  mark name hname _ _ node _ h := h.insertAttribute node
    (fun hc ↦ absurd hc (ha.clickable name (List.mem_cons_of_mem _ hname)))
    (fun hi ↦ absurd hi (ha.input name hname))

/-- Every name in a registry is a text with characters, and its recipe is one of `recipes`. -/
structure NamedFrom (recipes : List Recipe) (r : Registry) : Prop where
  clickables : ∀ entry ∈ r.clickables.entries, entry.1 ≠ "" ∧ entry.2 ∈ recipes
  inputs : ∀ entry ∈ r.inputs.entries, entry.1 ≠ "" ∧ entry.2 ∈ recipes

theorem namedFrom_empty (recipes : List Recipe) : (∅ : Registry).NamedFrom recipes :=
  ⟨fun _ h ↦ (List.not_mem_nil h).elim, fun _ h ↦ (List.not_mem_nil h).elim⟩

theorem namedFrom_keptByTags {recipes : List Recipe} {recipe : Recipe} (h : recipe ∈ recipes)
    (settings : Settings) :
    Pass.KeptByTags (fun _ r ↦ r.NamedFrom recipes) settings recipe where
  click _ _ _ hn hr := ⟨OrderedMap.forall_mem_insert hr.clickables ⟨hn, h⟩, hr.inputs⟩
  clickTag _ _ _ _ hr := hr
  input _ _ _ hn hr := ⟨hr.clickables, OrderedMap.forall_mem_insert hr.inputs ⟨hn, h⟩⟩
  inputTag _ _ _ _ hr := hr
  mark _ _ _ _ _ _ hr := hr

end Registry

namespace Engine

open HeldPage

section OnePage

variable {σ : Type} [HeldPage σ]

theorem processPage_resolves (e : Engine) (ha : e.settings.TagsApart) (page : σ) (path : String)
    (h : e.registry.Resolves e.settings (document page)) :
    (e.processPage page path).2.1.registry.Resolves e.settings
      (document (e.processPage page path).2.2) :=
  e.processPage_kept (I := fun d r ↦ r.Resolves e.settings d)
    (Registry.resolves_keptByTags ha) page path h

theorem registered_namedFrom (e : Engine) (page : σ) (path : String) :
    (∃ recipe, (e.catalog.select path page).1 = .ok recipe ∧
      (e.registered page path).NamedFrom recipe.nodes) ∨ e.registered page path = ∅ := by
  unfold registered
  rw [processPage_apply, pass_eq, Pass.bind_apply, Pass.onPage_apply]
  cases hs : e.clearRegistry.catalog.select path page with
  | mk result page' =>
    cases result with
    | error failure => exact .inr rfl
    | ok recipe =>
      refine .inl ⟨recipe, congrArg Prod.fst hs, ?_⟩
      have hrespects (r : Recipe) (hr : r ∈ recipe.nodes) :=
        (Registry.namedFrom_keptByTags hr e.settings).respects (σ := σ)
      have hfollow := follow_parallel hrespects ⟨page', ∅⟩ ⟨page', ∅⟩
        ⟨rfl, Registry.namedFrom_empty _⟩
      exact hfollow.2.2

end OnePage

variable {ι : Type} [DecidableEq ι] {σ : ι → Type} [∀ i, HeldPage (σ i)]

theorem processPage_resolves_all (e : Engine) (ha : e.settings.TagsApart) (pages : ∀ i, σ i)
    (h : ∀ i, e.registry.Resolves e.settings (document (pages i))) (i : ι) (path : String) (j : ι) :
    (e.processPage (pages i) path).2.1.registry.Resolves e.settings
      (document (Function.update pages i (e.processPage (pages i) path).2.2 j)) := by
  by_cases hj : j = i
  · subst hj
    rw [Function.update_self]
    exact e.processPage_resolves ha (pages j) path (h j)
  · rw [Function.update_of_ne hj, processPage_eq]
    exact (h j).overlay _

theorem passes_resolve_all (e : Engine) (ha : e.settings.TagsApart) (pages : ∀ i, σ i)
    (h : ∀ i, e.registry.Resolves e.settings (document (pages i))) (runs : List (ι × String)) :
    ∀ j, (e.passes pages runs).1.registry.Resolves e.settings
      (document ((e.passes pages runs).2 j)) := by
  induction runs generalizing e pages with
  | nil => exact h
  | cons run rest ih =>
    obtain ⟨i, path⟩ := run
    exact ih (e.processPage (pages i) path).2.1 ha _ (e.processPage_resolves_all ha pages h i path)

/-- Over passes in any order on any pages, every tag of an interactive element has its entry after
each pass. What the next pass adds to the registry are nodes of its recipe, under names with
characters. -/
theorem passes_resolve (e : Engine) (ha : e.settings.TagsApart) (pages : ∀ i, σ i)
    (h : ∀ i, e.registry.Resolves e.settings (document (pages i))) (runs : List (ι × String)) :
    let f := (e.passes pages runs).1
    let pages := (e.passes pages runs).2
    (∀ i, f.registry.Resolves e.settings (document (pages i))) ∧
    ∀ i path,
      (f.processPage (pages i) path).2.1.registry =
        f.registry.overlay (f.registered (pages i) path) ∧
      ((∃ recipe, (f.catalog.select path (pages i)).1 = .ok recipe ∧
        (f.registered (pages i) path).NamedFrom recipe.nodes) ∨
          f.registered (pages i) path = ∅) := by
  refine ⟨e.passes_resolve_all ha pages h runs, fun i path ↦ ⟨?_, ?_⟩⟩
  · rw [processPage_eq]
  · exact registered_namedFrom _ _ _

def searchForm : Engine :=
  .ofCatalog ⟨[⟨.path "/" false, .node (.ofSelector "form")
    [.node { Directive.ofSelector "a" with clickable := true, name := .literal "reset" } [],
      .node { Directive.ofSelector "input" with name := .literal "query" } []]⟩]⟩

def searchPages (locked : Bool) : Guarded :=
  { Guarded.ofDocument (((Document.new "html").appendElement 0 "a").appendElement 0 "input") with
    locked := if locked then [2] else [] }

def searchRuns : Engine × (Bool → Guarded) :=
  searchForm.passes searchPages [(true, "/"), (false, "/"), (true, "/")]

theorem passes_resolve_searchRuns :
    searchForm.settings.TagsApart ∧
    (∀ locked, searchForm.registry.Resolves searchForm.settings (document (searchPages locked))) ∧
    (∀ locked,
      searchRuns.1.registry.Resolves searchForm.settings (document (searchRuns.2 locked))) ∧
    (searchRuns.1.registry.clickables.keys, searchRuns.1.registry.inputs.keys) =
      (["reset"], ["query"]) := by
  have ha : searchForm.settings.TagsApart := ⟨by decide, by decide⟩
  have h (locked : Bool) :
      searchForm.registry.Resolves searchForm.settings (document (searchPages locked)) :=
    Registry.resolves_of_untagged ∅ (by cases locked <;> decide)
  have hruns := searchForm.passes_resolve (σ := fun _ ↦ Guarded) ha searchPages h
    [(true, "/"), (false, "/"), (true, "/")]
  refine ⟨ha, h, ?_, by decide +kernel⟩
  unfold searchRuns
  with_reducible_and_instances exact hruns.1

end Engine

end PageOutline
