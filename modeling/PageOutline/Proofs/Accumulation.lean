import PageOutline.Proofs.Lockstep
import PageOutline.Proofs.Registrations
import Mathlib.Logic.Function.Basic

namespace PageOutline

namespace Registry

def overlay (lower upper : Registry) : Registry :=
  ⟨lower.clickables.overlay upper.clickables, lower.inputs.overlay upper.inputs⟩

theorem overlay_empty (r : Registry) : r.overlay ∅ = r := by
  change Registry.mk (r.clickables.overlay ∅) (r.inputs.overlay ∅) = r
  rw [OrderedMap.overlay_empty, OrderedMap.overlay_empty]

theorem overlay_overlay_self (r p : Registry) : (r.overlay p).overlay p = r.overlay p := by
  simp only [overlay, OrderedMap.overlay_assoc, OrderedMap.overlay_self]

theorem overlay_addClickable (r p : Registry) (name : String) (recipe : Recipe) :
    (r.overlay p).addClickable name recipe = r.overlay (p.addClickable name recipe) := by
  simp only [overlay, addClickable, OrderedMap.overlay_insert]

theorem overlay_addInput (r p : Registry) (name : String) (recipe : Recipe) :
    (r.overlay p).addInput name recipe = r.overlay (p.addInput name recipe) := by
  simp only [overlay, addInput, OrderedMap.overlay_insert]

theorem clickables_foldl_overlay (r : Registry) (layers : List Registry) :
    (layers.foldl overlay r).clickables =
      (layers.map clickables).foldl OrderedMap.overlay r.clickables := by
  induction layers generalizing r with
  | nil => rfl
  | cons p layers ih => exact ih (r.overlay p)

theorem inputs_foldl_overlay (r : Registry) (layers : List Registry) :
    (layers.foldl overlay r).inputs =
      (layers.map inputs).foldl OrderedMap.overlay r.inputs := by
  induction layers generalizing r with
  | nil => rfl
  | cons p layers ih => exact ih (r.overlay p)

end Registry

namespace Pass

open LivePage

variable {σ : Type} {r : Registry}

/-- Two sessions on one page, where the registry of the first is that of the second over `r`. -/
def Over (r : Registry) (s t : Session σ) : Prop :=
  s.page = t.page ∧ s.registry = r.overlay t.registry

theorem onPage_over {α : Type} (x : Access σ α) : Parallel (Over r) (onPage x) (onPage x) := by
  intro s t h
  simp only [onPage_apply, h.1]
  exact ⟨trivial, rfl, h.2⟩

theorem register_over {f : Registry → Registry} (hf : ∀ p, f (r.overlay p) = r.overlay (f p)) :
    Parallel (Over (σ := σ) r) (register f) (register f) := by
  intro s t h
  refine ⟨rfl, h.1, ?_⟩
  change f s.registry = r.overlay (f t.registry)
  rw [h.2, hf]

variable [LivePage σ]

theorem respects_over (settings : Settings) (recipe : Recipe) :
    Respects (Over (σ := σ) r) settings (fun _ ↦ True) recipe where
  asks _ _ := onPage_over _
  ids _ _ _ _ _ _ := trivial
  text _ _ _ := .answerOr "" (onPage_over _)
  metadata _ _ _ := .answerOr none (onPage_over _)
  computers _ _ _ := .answerOr none (onPage_over _)
  click name _ _ := (onPage_over _).bind fun _ ↦
    register_over fun p ↦ r.overlay_addClickable p name recipe
  input name _ _ := (onPage_over _).bind fun _ ↦
    register_over fun p ↦ r.overlay_addInput p name recipe
  mark _ _ _ _ := onPage_over _

end Pass

namespace Engine

section OnePage

variable {σ : Type} [LivePage σ]

theorem pass_over (r : Registry) (catalog : Catalog) (settings : Settings) (path : String) :
    Pass.Parallel (Pass.Over r) (pass catalog settings path : Pass σ Outline)
      (pass catalog settings path) :=
  pass_parallel (fun _ _ _ _ ↦ Pass.onPage_over _)
    (fun _ _ _ _ ↦ Pass.respects_over settings _) path

/-- What a pass registers: the registry that it leaves when it starts with an empty one. -/
def registered (e : Engine) (page : σ) (path : String) : Registry :=
  (e.clearRegistry.processPage page path).2.1.registry

theorem processPage_apply (e : Engine) (page : σ) (path : String) :
    e.processPage page path = ((pass e.catalog e.settings path ⟨page, e.registry⟩).1,
      { e with registry := (pass e.catalog e.settings path ⟨page, e.registry⟩).2.registry },
      (pass e.catalog e.settings path ⟨page, e.registry⟩).2.page) := rfl

theorem processPage_eq (e : Engine) (page : σ) (path : String) :
    e.processPage page path = ((e.clearRegistry.processPage page path).1,
      { e with registry := e.registry.overlay (e.registered page path) },
      (e.clearRegistry.processPage page path).2.2) := by
  have hover : Pass.Over e.registry ⟨page, e.registry⟩ ⟨page, ∅⟩ :=
    ⟨rfl, e.registry.overlay_empty.symm⟩
  obtain ⟨hresult, hpage, hregistry⟩ := pass_over e.registry e.catalog e.settings path _ _ hover
  rw [processPage_apply, hresult, hpage, hregistry]
  rfl

theorem processPage_of_runs {e : Engine} {page next : σ} {path : String} {log : List Registration}
    {result : Except Failure Outline}
    (h : Pass.Runs (pass e.catalog e.settings path) page log result next) :
    e.processPage page path =
      (result, { e with registry := log.foldl Registry.record e.registry }, next) := by
  rw [processPage_apply, h.apply e.registry]

theorem registered_of_runs {e : Engine} {page next : σ} {path : String} {log : List Registration}
    {result : Except Failure Outline}
    (h : Pass.Runs (pass e.catalog e.settings path) page log result next) :
    e.registered page path = log.foldl Registry.record ∅ := by
  have hclear := processPage_of_runs (e := e.clearRegistry) h
  rw [registered, hclear]
  rfl

end OnePage

section Sequences

variable {ι : Type} [DecidableEq ι] {σ : ι → Type} [∀ i, LivePage (σ i)]

def passes (e : Engine) (pages : ∀ i, σ i) : List (ι × String) → Engine × (∀ i, σ i)
  | [] => (e, pages)
  | (i, path) :: rest =>
    let (_, e, page) := e.processPage (pages i) path
    e.passes (Function.update pages i page) rest

def registrations (e : Engine) (pages : ∀ i, σ i) : List (ι × String) → List Registry
  | [] => []
  | (i, path) :: rest =>
    let (_, _, page) := e.clearRegistry.processPage (pages i) path
    e.registered (pages i) path :: e.registrations (Function.update pages i page) rest

theorem registrations_withRegistry (e : Engine) (r : Registry) (pages : ∀ i, σ i)
    (runs : List (ι × String)) :
    { e with registry := r }.registrations pages runs = e.registrations pages runs := by
  induction runs generalizing pages with
  | nil => rfl
  | cons run rest ih => exact congrArg _ (ih _)

theorem passes_registry (e : Engine) (pages : ∀ i, σ i) (runs : List (ι × String)) :
    (e.passes pages runs).1.registry =
      (e.registrations pages runs).foldl Registry.overlay e.registry := by
  induction runs generalizing e pages with
  | nil => rfl
  | cons run rest ih =>
    obtain ⟨i, path⟩ := run
    simp only [passes, registrations, List.foldl_cons]
    rw [processPage_eq, ih]
    exact congrArg _ (e.registrations_withRegistry _ _ rest)

/-- Runs of passes in order, with the registrations of all of them. -/
inductive PassesRun (e : Engine) :
    (∀ i, σ i) → List (ι × String) → List Registration → (∀ i, σ i) → Prop
  | nil (pages : ∀ i, σ i) : PassesRun e pages [] [] pages
  | cons {pages final : ∀ i, σ i} {i : ι} {path : String} {rest : List (ι × String)}
    {log later : List Registration} {result : Except Failure Outline} {page : σ i}
    (first : Pass.Runs (pass e.catalog e.settings path) (pages i) log result page)
    (others : PassesRun e (Function.update pages i page) rest later final) :
    PassesRun e pages ((i, path) :: rest) (log ++ later) final

theorem PassesRun.passes_eq {e : Engine} {pages final : ∀ i, σ i} {runs : List (ι × String)}
    {log : List Registration} (h : e.PassesRun pages runs log final) (r : Registry) :
    { e with registry := r }.passes pages runs =
      ({ e with registry := log.foldl Registry.record r }, final) := by
  induction h generalizing r with
  | nil pages => rfl
  | @cons pages final i path rest log later result page first others ih =>
    have hfirst := processPage_of_runs (e := { e with registry := r }) first
    rw [passes, hfirst, List.foldl_append]
    exact ih _

theorem exists_passesRun (e : Engine) (pages : ∀ i, σ i) (runs : List (ι × String)) :
    ∃ log final, e.PassesRun pages runs log final := by
  induction runs generalizing pages with
  | nil => exact ⟨_, _, .nil pages⟩
  | cons run rest ih =>
    obtain ⟨i, path⟩ := run
    obtain ⟨log, result, page, hfirst⟩ := recorded_pass e.catalog e.settings path (pages i)
    obtain ⟨later, final, hothers⟩ := ih (Function.update pages i page)
    exact ⟨_, _, .cons hfirst hothers⟩

end Sequences

/-- A pass ends alike whatever the registry holds, and what it registers lies over that. It has a
run, and the registrations of the run, recorded one after another, make the final registry, as do
those of a sequence of passes. So no entry is lost, names keep the order in which they first came,
and a look-up finds the recipe of the last registration of the name. -/
theorem processPage_accumulates (e : Engine) :
    (∀ {σ : Type} [LivePage σ] (page : σ) (path : String),
      let added := e.registered page path
      let final := (e.processPage page path).2.1.registry
      e.processPage page path = ((e.clearRegistry.processPage page path).1,
        { e with registry := e.registry.overlay added },
        (e.clearRegistry.processPage page path).2.2) ∧
      final.clickables.keys = e.registry.clickables.keys ++
        added.clickables.keys.filter (· ∉ e.registry.clickables.keys) ∧
      final.inputs.keys = e.registry.inputs.keys ++
        added.inputs.keys.filter (· ∉ e.registry.inputs.keys) ∧
      (∀ name,
        final.clickables.get? name =
          (added.clickables.get? name).or (e.registry.clickables.get? name) ∧
        final.inputs.get? name = (added.inputs.get? name).or (e.registry.inputs.get? name)) ∧
      (∃ log result next, Pass.Runs (pass e.catalog e.settings path) page log result next) ∧
      ∀ log result next, Pass.Runs (pass e.catalog e.settings path) page log result next →
        added = log.foldl Registry.record ∅ ∧
        e.processPage page path =
          (result, { e with registry := log.foldl Registry.record e.registry }, next) ∧
        final.Extends e.registry log) ∧
    ∀ {ι : Type} [DecidableEq ι] {σ : ι → Type} [∀ i, LivePage (σ i)] (pages : ∀ i, σ i)
      (runs : List (ι × String)),
      let layers := e.registrations pages runs
      let final := (e.passes pages runs).1.registry
      final = layers.foldl Registry.overlay e.registry ∧
      final.clickables.keys =
        (e.registry.clickables.keys ++ layers.flatMap (·.clickables.keys)).eraseDups ∧
      final.inputs.keys =
        (e.registry.inputs.keys ++ layers.flatMap (·.inputs.keys)).eraseDups ∧
      (∀ name,
        final.clickables.get? name = (layers.reverse.findSome? (·.clickables.get? name)).or
          (e.registry.clickables.get? name) ∧
        final.inputs.get? name = (layers.reverse.findSome? (·.inputs.get? name)).or
          (e.registry.inputs.get? name)) ∧
      (∃ log after, e.PassesRun pages runs log after) ∧
      ∀ log after, e.PassesRun pages runs log after →
        e.passes pages runs = ({ e with registry := log.foldl Registry.record e.registry }, after) ∧
        final.Extends e.registry log := by
  refine ⟨fun page path ↦ ?_, fun pages runs ↦ ?_⟩
  · have hpass := e.processPage_eq page path
    refine ⟨hpass, ?_, ?_, fun name ↦ ⟨?_, ?_⟩, ?_, fun log result next hruns ↦ ?_⟩
    · rw [hpass]
      exact OrderedMap.keys_overlay _ _
    · rw [hpass]
      exact OrderedMap.keys_overlay _ _
    · rw [hpass]
      exact OrderedMap.get?_overlay _ _ name
    · rw [hpass]
      exact OrderedMap.get?_overlay _ _ name
    · exact recorded_pass e.catalog e.settings path page
    · have hlog := processPage_of_runs hruns
      refine ⟨registered_of_runs hruns, hlog, ?_⟩
      rw [hlog]
      exact e.registry.extends_foldl_record log
  · have hfinal := e.passes_registry pages runs
    have hclickables := (congrArg Registry.clickables hfinal).trans
      (Registry.clickables_foldl_overlay _ _)
    have hinputs := (congrArg Registry.inputs hfinal).trans (Registry.inputs_foldl_overlay _ _)
    refine ⟨hfinal, ?_, ?_, fun name ↦ ⟨?_, ?_⟩, ?_, fun log after hruns ↦ ?_⟩
    · rw [hclickables, OrderedMap.keys_foldl_overlay, List.flatMap_map]
    · rw [hinputs, OrderedMap.keys_foldl_overlay, List.flatMap_map]
    · rw [hclickables, OrderedMap.get?_foldl_overlay, ← List.map_reverse, List.findSome?_map]
      rfl
    · rw [hinputs, OrderedMap.get?_foldl_overlay, ← List.map_reverse, List.findSome?_map]
      rfl
    · exact e.exists_passesRun pages runs
    · have hlog := hruns.passes_eq e.registry
      refine ⟨hlog, ?_⟩
      rw [hlog]
      exact e.registry.extends_foldl_record log

def sharing (selector name : String) : Recipe :=
  .node { Directive.ofSelector selector with name := .literal name, clickable := true } []

/-- Two recipes of one pass share a name, and a pass for another path gives it to a third. -/
def twins : Engine := .ofCatalog
  ⟨[⟨.path "/" false, .node (.ofSelector "p") [sharing "b" "x", sharing "i" "x", sharing "u" "y"]⟩,
    ⟨.path "/next" false, .node (.ofSelector "p") [sharing "u" "x"]⟩]⟩

def twinsPage : Document :=
  let page := (Document.new "p").appendElement 0 "b"
  (page.appendElement 0 "i").appendElement 0 "u"

theorem processPage_accumulates_twinsPage :
    (∃ log result next,
      Pass.Runs (pass twins.catalog twins.settings "/") twinsPage log result next ∧
      ((log.filterMap (·.clickable?)).map Prod.fst).eraseDups = ["x", "y"] ∧
      (lastRecipe? (log.filterMap (·.clickable?)) "x").map (·.selector) = some "i") ∧
    ∃ log after, twins.PassesRun (fun _ : Unit ↦ twinsPage) [((), "/"), ((), "/next")] log after ∧
      ((log.filterMap (·.clickable?)).map Prod.fst).eraseDups = ["x", "y"] ∧
      (lastRecipe? (log.filterMap (·.clickable?)) "x").map (·.selector) = some "u" := by
  obtain ⟨hpass, hpasses⟩ := processPage_accumulates twins
  constructor
  · obtain ⟨-, -, -, -, ⟨log, result, next, hruns⟩, hlog⟩ := hpass twinsPage "/"
    obtain ⟨-, -, hextends⟩ := hlog log result next hruns
    refine ⟨log, result, next, hruns, hextends.eraseDups_clickable.trans ?_, ?_⟩
    · decide +kernel
    · rw [hextends.lastRecipe?_clickable]
      decide +kernel
  · obtain ⟨-, -, -, -, ⟨log, after, hruns⟩, hlog⟩ :=
      hpasses (fun _ : Unit ↦ twinsPage) [((), "/"), ((), "/next")]
    obtain ⟨-, hextends⟩ := hlog log after hruns
    refine ⟨log, after, hruns, hextends.eraseDups_clickable.trans ?_, ?_⟩
    · decide +kernel
    · rw [hextends.lastRecipe?_clickable]
      decide +kernel

end Engine

end PageOutline
