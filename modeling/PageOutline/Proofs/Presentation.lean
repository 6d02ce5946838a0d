import PageOutline.Proofs.Correspondence
import PageOutline.Proofs.Infallible

namespace PageOutline

/-- The directive without what it says about the look of an outline. -/
def Directive.plain (d : Directive) : Directive :=
  { d with
    tagName := none
    attachText := false
    keepAttributes := []
    classOverride := none
    idOverride := none
    computers := ∅
    separatorEvery := none
    emptyPlaceholder := none }

def Settings.plain (s : Settings) : Settings := { s with preservedAttributes := [] }

theorem Settings.exists_of_plain {s s' : Settings} (h : s.plain = s'.plain) :
    ∃ preserved, s' = { s with preservedAttributes := preserved } := by
  refine ⟨s'.preservedAttributes, ?_⟩
  change s' = { s.plain with preservedAttributes := s'.preservedAttributes }
  rw [h]
  rfl

theorem Outline.Congruence.trivial : Outline.Congruence fun _ _ ↦ True :=
  ⟨fun _ ↦ True.intro, fun _ _ _ ↦ True.intro, fun _ _ ↦ True.intro⟩

theorem Directive.sameRoute_of_plain {d d' : Directive} (h : d.plain = d'.plain) :
    d.SameRoute d' := by
  have hsame {α : Type} (f : Directive → α) : f d.plain = f d'.plain := congrArg f h
  exact ⟨hsame selector, hsame directChildOnly, hsame queryFromRoot, hsame name, hsame clickable,
    hsame clickSelector⟩

namespace Pass

open LivePage
open Text (asciiLower)

section Plain

variable {σ : Type} [LivePage σ] {d d' : Directive}

theorem resolveText_plain (h : d.plain = d'.plain) (node : NodeId) :
    (resolveText d node : Pass σ String) = resolveText d' node := by
  have hplain (d : Directive) : (resolveText d node : Pass σ String) = resolveText d.plain node :=
    rfl
  rw [hplain, h, ← hplain]

theorem attachMetadata_plain (settings : Settings) (preserved : List String)
    (h : d.plain = d'.plain) (node : NodeId) :
    (attachMetadata settings d node : Pass σ Unit) =
      attachMetadata { settings with preservedAttributes := preserved } d' node := by
  have hplain (d : Directive) :
      (attachMetadata settings d node : Pass σ Unit) = attachMetadata settings d.plain node := rfl
  rw [hplain, h]
  rfl

end Plain

variable {d : Document} {settings settings' : Settings} {C : Recipe → Recipe → Prop}

theorem composeAttributes_apply {s : Session Document} {node : NodeId}
    (h : (s.page.node? node).isSome) (settings : Settings) (directive : Directive)
    (output : Outline) :
    ∃ output', composeAttributes settings directive node output s = (.ok output', s) := by
  have hends : Ends (fun t ↦ t = s) (fun _ ↦ False) _
      (composeAttributes settings directive node output) :=
    composeAttributes_ends (fun t ht ↦ ht ▸ h) settings directive output
  obtain ⟨output', t, hresult, -, rfl⟩ := hends.exists_ok rfl
  exact ⟨output', hresult⟩

theorem setAttribute_tagged {name : String} (hname : asciiLower name ∈ settings.tagNames)
    (node : NodeId) (value : String) (e : Document) (he : d.Tagged settings.tagNames e) :
    d.Tagged settings.tagNames (setAttribute node name value e).2 := by
  simp only [setAttribute]
  cases h : e.setAttribute node name value with
  | error failure => exact he
  | ok e' =>
    obtain rfl := Document.setAttribute_ok h
    exact he.trans (e.tagged_insertAttribute hname node value)

theorem isElement_of_tag {s : Session Document} {node : NodeId} {liveTag : String}
    (h : (onPage (tag node) s).1 = .ok liveTag) : s.page.isElement node :=
  (Document.exists_reply_iff (.tag node)).1 ⟨liveTag, h⟩

theorem inStep_plain (hs : settings.plain = settings'.plain) {recipe recipe' : Recipe}
    (h : recipe.directive.plain = recipe'.directive.plain) (hC : C recipe recipe') :
    InStep (SamePage (fun e ↦ d.Tagged settings.tagNames e) C) (fun _ _ ↦ True) settings settings'
      (fun _ ↦ True) recipe recipe' := by
  obtain ⟨preserved, rfl⟩ := Settings.exists_of_plain hs
  have hask (q : Question) : Parallel (SamePage (fun e ↦ d.Tagged settings.tagNames e) C)
      (onPage (answer q)) (onPage (answer q)) := onPage_samePage fun _ he ↦ he
  have hanswer {α : Type} (default : α) (i : Inquiry α) :
      Parallel (SamePage (fun e ↦ d.Tagged settings.tagNames e) C) (answerOr default i)
        (answerOr default i) := .answerOr default (.inquiry hask i)
  have hset (name : String) (hname : name ∈ [settings.clickableAttribute, settings.inputAttribute,
      settings.selectAttribute, settings.metaNameAttribute, settings.metaDataAttribute])
      (node : NodeId) (value : String) (e : Document) (he : d.Tagged settings.tagNames e) :
      d.Tagged settings.tagNames (setAttribute node name value e).2 :=
    setAttribute_tagged (List.mem_map_of_mem hname) node value e he
  exact {
    route := Directive.sameRoute_of_plain h
    label := rfl
    optionTag := rfl
    asks := fun q _ ↦ hask q
    ids := fun _ _ _ _ _ _ ↦ trivial
    text := fun node ↦ by
      rw [← resolveText_plain h]
      exact resolveText_parallel (fun _ _ _ ↦ hask _) (fun _ ↦ hask _)
        (fun _ _ _ ↦ hanswer "" _) node
    metadata := fun node ↦ by
      rw [← attachMetadata_plain settings preserved h]
      refine attachMetadata_parallel (fun _ _ _ ↦ hanswer none _) (fun name hname node value ↦ ?_)
        node
      refine onPage_samePage (hset name ?_ node value)
      exact List.mem_cons_of_mem _ (List.mem_cons_of_mem _ (List.mem_cons_of_mem _ hname))
    click := fun name node _ ↦ tagClickable_samePage hC rfl name node (hset _ (by simp) node name)
    input := fun name node _ ↦ tagInput_samePage hC rfl name node (hset _ (by simp) node name)
    select := fun name node ↦ onPage_samePage (hset _ (by simp) node name)
    head := fun _ _ _ ↦ trivial
    compose := fun node output output' ⟨s, _, liveTag, hs, htag⟩ _ u v huv ↦ by
      have helement : u.page.isElement node := by
        rw [huv.known.isElement, ← hs.known.isElement]
        exact isElement_of_tag htag
      have hknown := Document.node?_of_isElement helement
      obtain ⟨o, ho⟩ := composeAttributes_apply hknown settings recipe.directive output
      obtain ⟨o', ho'⟩ := composeAttributes_apply (huv.page ▸ hknown)
        { settings with preservedAttributes := preserved } recipe'.directive output'
      rw [ho, ho']
      exact ⟨trivial, huv⟩
    separators := fun _ _ _ _ ↦ trivial
    finish := fun _ _ _ ↦ trivial }

end Pass

namespace Engine

open Pass

/-- What recipes and settings say about the look of an outline does not change what a pass tags and
registers: passes over a document end alike or fail alike, leave the same document, and register the
same names in the same order, for recipes at the same place. -/
theorem processPage_plain {e f : Engine}
    (hcatalog : e.catalog.mapDirectives Directive.plain = f.catalog.mapDirectives Directive.plain)
    (hsettings : e.settings.plain = f.settings.plain) (hregistry : e.registry = f.registry)
    (d : Document) (path : String) : PassesAlike (fun _ _ ↦ True) e f d path :=
  passesAlike_of_inStep .trivial hregistry (Document.Tagged.refl d) (fun _ _ he ↦ he)
    (Catalog.forall₂_of_mapDirectives hcatalog)
    (fun _ _ hplain hplace ↦ inStep_plain hsettings hplain hplace) path

def link : Directive :=
  { Directive.ofSelector "a" with text := .own, name := .fromText, clickable := true }

def links : Engine := .ofCatalog ⟨[⟨.path "/" false, .node (.ofSelector "nav") [.node link []]⟩]⟩

def styledLinks : Engine :=
  (ofCatalog ⟨[⟨.path "/" false, .node { Directive.ofSelector "nav" with separatorEvery := some 2 }
    [.node { link with attachText := true, keepAttributes := ["href"] } []]⟩]⟩).withSettings
    { preservedAttributes := [] }

def linksPage : Document :=
  let nav := (Document.new "body").appendElement 0 "nav"
  let link := (nav.appendElement 1 "a").insertAttribute 2 "href" "/tea"
  link.appendText 2 "Tea"

theorem processPage_plain_linksPage :
    links.catalog.mapDirectives Directive.plain =
      styledLinks.catalog.mapDirectives Directive.plain ∧
    links.settings.plain = styledLinks.settings.plain ∧ links.registry = styledLinks.registry ∧
    (links.processPage linksPage "/").2.2 = (styledLinks.processPage linksPage "/").2.2 ∧
    (links.processPage linksPage "/").2.1.registry.clickables.keys = ["tea"] := by
  have hcatalog : links.catalog.mapDirectives Directive.plain =
      styledLinks.catalog.mapDirectives Directive.plain := rfl
  have halike := processPage_plain (e := links) (f := styledLinks) hcatalog rfl rfl linksPage "/"
  exact ⟨hcatalog, rfl, rfl, halike.pages, by decide +kernel⟩

end Engine

end PageOutline
