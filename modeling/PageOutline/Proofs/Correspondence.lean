import PageOutline.Proofs.Accumulation

namespace PageOutline

namespace OrderedMap

variable {α β : Type} {C : α → β → Prop}

structure Alike (C : α → β → Prop) (m : OrderedMap α) (n : OrderedMap β) : Prop where
  keys : m.keys = n.keys
  get? : ∀ k, Option.Rel C (m.get? k) (n.get? k)

theorem Alike.empty : Alike C ∅ ∅ := ⟨rfl, fun _ ↦ .none⟩

theorem Alike.insert {m : OrderedMap α} {n : OrderedMap β} (h : m.Alike C n) {a : α} {b : β}
    (hab : C a b) (key : String) : (m.insert key a).Alike C (n.insert key b) := by
  refine ⟨by rw [keys_insert, keys_insert, h.keys], fun k ↦ ?_⟩
  rw [get?_insert, get?_insert]
  split
  · exact .some hab
  · exact h.get? k

theorem Alike.overlay {C : α → α → Prop} {p q : OrderedMap α} (h : p.Alike C q)
    (m : OrderedMap α) :
    (m.overlay p).Alike (fun a b ↦ a = b ∨ C a b) (m.overlay q) := by
  refine ⟨by rw [keys_overlay, keys_overlay, h.keys], fun k ↦ ?_⟩
  rw [get?_overlay, get?_overlay]
  have hk := h.get? k
  generalize p.get? k = a at hk ⊢
  generalize q.get? k = b at hk ⊢
  cases hk with
  | some hab => exact .some (.inr hab)
  | none =>
    cases m.get? k with
    | none => exact .none
    | some a => exact .some (.inl rfl)

end OrderedMap

namespace Registry

variable {C : Recipe → Recipe → Prop}

structure Alike (C : Recipe → Recipe → Prop) (r r' : Registry) : Prop where
  clickables : r.clickables.Alike C r'.clickables
  inputs : r.inputs.Alike C r'.inputs

theorem Alike.empty : Alike C ∅ ∅ := ⟨.empty, .empty⟩

theorem Alike.addClickable {r r' : Registry} (h : r.Alike C r') {recipe recipe' : Recipe}
    (hC : C recipe recipe') (name : String) :
    (r.addClickable name recipe).Alike C (r'.addClickable name recipe') :=
  ⟨h.clickables.insert hC name, h.inputs⟩

theorem Alike.addInput {r r' : Registry} (h : r.Alike C r') {recipe recipe' : Recipe}
    (hC : C recipe recipe') (name : String) :
    (r.addInput name recipe).Alike C (r'.addInput name recipe') :=
  ⟨h.clickables, h.inputs.insert hC name⟩

theorem Alike.overlay {p q : Registry} (h : p.Alike C q) (r : Registry) :
    (r.overlay p).Alike (fun a b ↦ a = b ∨ C a b) (r.overlay q) :=
  ⟨h.clickables.overlay r.clickables, h.inputs.overlay r.inputs⟩

end Registry

namespace Recipe

variable {P Q : Recipe → Recipe → Prop}

mutual

theorem Paired.length {r r' : Recipe} (h : Paired P r r') : r.nodes.length = r'.nodes.length := by
  match r, r' with
  | .node d rs, .node d' rs' =>
    rw [nodes, nodes, List.length_cons, List.length_cons, PairedAll.length h.2]

theorem PairedAll.length {rs rs' : List Recipe} (h : PairedAll P rs rs') :
    (nodesAll rs).length = (nodesAll rs').length := by
  match rs, rs' with
  | [], [] => rfl
  | r :: rs, r' :: rs' =>
    rw [nodesAll, nodesAll, List.length_append, List.length_append, Paired.length h.1,
      PairedAll.length h.2]

end

mutual

theorem Paired.imp {r r' : Recipe} (h : Paired P r r')
    (himp : ∀ a b, P a b → (a, b) ∈ r.nodes.zip r'.nodes → Q a b) : Paired Q r r' := by
  match r, r' with
  | .node d rs, .node d' rs' =>
    rw [nodes, nodes, List.zip_cons_cons] at himp
    exact ⟨himp _ _ h.1 List.mem_cons_self,
      PairedAll.imp h.2 fun a b hab hmem ↦ himp a b hab (List.mem_cons_of_mem _ hmem)⟩

theorem PairedAll.imp {rs rs' : List Recipe} (h : PairedAll P rs rs')
    (himp : ∀ a b, P a b → (a, b) ∈ (nodesAll rs).zip (nodesAll rs') → Q a b) :
    PairedAll Q rs rs' := by
  match rs, rs' with
  | [], [] => trivial
  | r :: rs, r' :: rs' =>
    rw [nodesAll, nodesAll, List.zip_append (Paired.length h.1)] at himp
    exact ⟨Paired.imp h.1 fun a b hab hmem ↦ himp a b hab (List.mem_append_left _ hmem),
      PairedAll.imp h.2 fun a b hab hmem ↦ himp a b hab (List.mem_append_right _ hmem)⟩

end

end Recipe

mutual

def Recipe.mapDirectives (f : Directive → Directive) : Recipe → Recipe
  | .node d rs => .node (f d) (mapDirectivesAll f rs)

def mapDirectivesAll (f : Directive → Directive) : List Recipe → List Recipe
  | [] => []
  | r :: rs => r.mapDirectives f :: mapDirectivesAll f rs

end

def Catalog.mapDirectives (f : Directive → Directive) (c : Catalog) : Catalog :=
  ⟨c.entries.map fun e ↦ { e with recipe := e.recipe.mapDirectives f }⟩

namespace Recipe

mutual

theorem paired_mapDirectives (f : Directive → Directive) (r : Recipe) :
    Paired (fun a b ↦ b.directive = f a.directive) r (r.mapDirectives f) := by
  match r with
  | .node d rs => exact ⟨rfl, pairedAll_mapDirectives f rs⟩

theorem pairedAll_mapDirectives (f : Directive → Directive) (rs : List Recipe) :
    PairedAll (fun a b ↦ b.directive = f a.directive) rs (mapDirectivesAll f rs) := by
  match rs with
  | [] => trivial
  | r :: rs => exact ⟨paired_mapDirectives f r, pairedAll_mapDirectives f rs⟩

end

mutual

theorem paired_of_mapDirectives {f : Directive → Directive} {r r' : Recipe}
    (h : r.mapDirectives f = r'.mapDirectives f) :
    Paired (fun a b ↦ f a.directive = f b.directive) r r' := by
  match r, r' with
  | .node d rs, .node d' rs' =>
    rw [mapDirectives, mapDirectives, Recipe.node.injEq] at h
    exact ⟨h.1, pairedAll_of_mapDirectives h.2⟩

theorem pairedAll_of_mapDirectives {f : Directive → Directive} {rs rs' : List Recipe}
    (h : mapDirectivesAll f rs = mapDirectivesAll f rs') :
    PairedAll (fun a b ↦ f a.directive = f b.directive) rs rs' := by
  match rs, rs' with
  | [], [] => trivial
  | [], _ :: _ => cases h
  | _ :: _, [] => cases h
  | r :: rs, r' :: rs' =>
    rw [mapDirectivesAll, mapDirectivesAll, List.cons.injEq] at h
    exact ⟨paired_of_mapDirectives h.1, pairedAll_of_mapDirectives h.2⟩

end

end Recipe

theorem Catalog.forall₂_of_mapDirectives {f : Directive → Directive} {c c' : Catalog}
    (h : c.mapDirectives f = c'.mapDirectives f) :
    List.Forall₂ (fun entry entry' ↦ entry.rule = entry'.rule ∧
      Recipe.Paired (fun a b ↦ f a.directive = f b.directive) entry.recipe entry'.recipe)
      c.entries c'.entries := by
  have hentries := congrArg Catalog.entries h
  simp only [mapDirectives] at hentries
  rw [← List.forall₂_eq_eq_eq, List.forall₂_map_left_iff, List.forall₂_map_right_iff] at hentries
  refine hentries.imp fun entry entry' hsame ↦ ?_
  rw [CatalogEntry.mk.injEq] at hsame
  exact ⟨hsame.1, Recipe.paired_of_mapDirectives hsame.2⟩

/-- The recipes stand at the same place in the two catalogs: in entries of the same number, and in
their trees at nodes of the same number. -/
def Catalog.Corresponds (c c' : Catalog) (r r' : Recipe) : Prop :=
  ∃ e e', (e, e') ∈ c.entries.zip c'.entries ∧ (r, r') ∈ e.recipe.nodes.zip e'.recipe.nodes

namespace Pass

open LivePage

variable {σ : Type} {I : σ → Prop} {C : Recipe → Recipe → Prop}

structure SamePage (I : σ → Prop) (C : Recipe → Recipe → Prop) (s t : Session σ) : Prop where
  page : s.page = t.page
  known : I s.page
  registry : s.registry.Alike C t.registry

theorem onPage_samePage {α : Type} {x : Access σ α} (h : ∀ page, I page → I (x page).2) :
    Parallel (SamePage I C) (onPage x) (onPage x) := by
  intro s t hs
  simp only [onPage_apply, ← hs.page]
  exact ⟨trivial, rfl, h _ hs.known, hs.registry⟩

theorem register_samePage {f f' : Registry → Registry}
    (h : ∀ r r', Registry.Alike C r r' → (f r).Alike C (f' r')) :
    Parallel (SamePage I C) (register f) (register f') :=
  fun _ _ hs ↦ ⟨rfl, hs.page, hs.known, h _ _ hs.registry⟩

variable [LivePage σ] {settings settings' : Settings} {recipe recipe' : Recipe}

theorem tagClickable_samePage (hC : C recipe recipe')
    (hname : settings.clickableAttribute = settings'.clickableAttribute) (name : String)
    (node : NodeId)
    (h : ∀ page, I page → I (setAttribute node settings.clickableAttribute name page).2) :
    Parallel (SamePage I C) (tagClickable settings recipe name node)
      (tagClickable settings' recipe' name node) := by
  unfold tagClickable
  rw [← hname]
  exact (onPage_samePage h).bind fun _ ↦ register_samePage fun _ _ hr ↦ hr.addClickable hC name

theorem tagInput_samePage (hC : C recipe recipe')
    (hname : settings.inputAttribute = settings'.inputAttribute) (name : String) (node : NodeId)
    (h : ∀ page, I page → I (setAttribute node settings.inputAttribute name page).2) :
    Parallel (SamePage I C) (tagInput settings recipe name node)
      (tagInput settings' recipe' name node) := by
  unfold tagInput
  rw [← hname]
  exact (onPage_samePage h).bind fun _ ↦ register_samePage fun _ _ hr ↦ hr.addInput hC name

end Pass

namespace Engine

open Pass

variable {σ : Type} [LivePage σ]

/-- Passes of two engines on one page end with related outlines or fail alike, leave the same page,
and register the same names in the same order, for recipes at the same place of their catalogs. -/
structure PassesAlike (O : Outline → Outline → Prop) (e f : Engine) (page : σ) (path : String) :
    Prop where
  outcome : Outcome O (e.processPage page path).1 (f.processPage page path).1
  pages : (e.processPage page path).2.2 = (f.processPage page path).2.2
  registered : (e.registered page path).Alike (e.catalog.Corresponds f.catalog)
    (f.registered page path)
  registry : (e.processPage page path).2.1.registry.Alike
    (fun r r' ↦ r = r' ∨ e.catalog.Corresponds f.catalog r r')
    (f.processPage page path).2.1.registry

theorem passesAlike_of_related {O : Outline → Outline → Prop} {e f : Engine}
    (hregistry : e.registry = f.registry) {I : σ → Prop} {page : σ} (hI : I page) {path : String}
    (h : Related (SamePage I (e.catalog.Corresponds f.catalog)) O
      (pass e.catalog e.settings path) (pass f.catalog f.settings path)) :
    PassesAlike O e f page path := by
  obtain ⟨houtcome, hsessions⟩ := h ⟨page, ∅⟩ ⟨page, ∅⟩ ⟨rfl, hI, .empty⟩
  have hregistered : (e.registered page path).Alike (e.catalog.Corresponds f.catalog)
      (f.registered page path) := hsessions.registry
  refine ⟨?_, ?_, hregistered, ?_⟩
  · rw [e.processPage_eq, f.processPage_eq]
    exact houtcome
  · rw [e.processPage_eq, f.processPage_eq]
    exact hsessions.page
  · rw [e.processPage_eq, f.processPage_eq, ← hregistry]
    exact hregistered.overlay e.registry

theorem passesAlike_of_inStep {O : Outline → Outline → Prop} (hO : Outline.Congruence O)
    {e f : Engine} (hregistry : e.registry = f.registry) {I : σ → Prop} {page : σ} (hI : I page)
    (hasks : ∀ (q : Question) page, I page → I (LivePage.answer q page).2)
    {P : Recipe → Recipe → Prop}
    (hentries : List.Forall₂ (fun entry entry' ↦ entry.rule = entry'.rule ∧
      Recipe.Paired P entry.recipe entry'.recipe) e.catalog.entries f.catalog.entries)
    (hstep : ∀ a b, P a b → e.catalog.Corresponds f.catalog a b →
      InStep (SamePage I (e.catalog.Corresponds f.catalog)) O e.settings f.settings (fun _ ↦ True)
        a b) (path : String) : PassesAlike O e f page path := by
  -- Related entries become entries at one place, so that nodes can be placed in both catalogs.
  obtain ⟨hlength, hzip⟩ := List.forall₂_iff_zip.1 hentries
  have hplaces : List.Forall₂ (fun entry entry' ↦
      (entry, entry') ∈ e.catalog.entries.zip f.catalog.entries) e.catalog.entries
      f.catalog.entries := List.forall₂_iff_zip.2 ⟨hlength, fun h ↦ h⟩
  have hpaired (entry entry' : CatalogEntry)
      (hmem : (entry, entry') ∈ e.catalog.entries.zip f.catalog.entries) :
      Recipe.Paired (InStep (SamePage I (e.catalog.Corresponds f.catalog)) O e.settings f.settings
        fun _ ↦ True) entry.recipe entry'.recipe :=
    (hzip hmem).2.imp fun a b hab hnode ↦ hstep a b hab ⟨entry, entry', hmem, hnode⟩
  refine passesAlike_of_related hregistry hI (pass_related hO hplaces ?_ hpaired path)
  exact fun entry entry' hmem ↦ ⟨(hzip hmem).1, fun q _ ↦ onPage_samePage (hasks q)⟩

end Engine

end PageOutline
