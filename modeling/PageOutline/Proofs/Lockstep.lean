import PageOutline.Proofs.InStep

namespace PageOutline

open LivePage

namespace Pass

variable {σ τ : Type} [LivePage σ] [LivePage τ]

/-- A relation between sessions that every step of a recipe at one node keeps. The tag of an
interactive element and the entry of its name count as one step. -/
structure Respects (S : Session σ → Session τ → Prop) (settings : Settings) (ids : String → Prop)
    (recipe : Recipe) : Prop where
  asks : ∀ q, recipe.directive.Asks settings ids q →
    Parallel S (onPage (answer q)) (onPage (answer q))
  ids : ∀ node id s t, S s t → (onPage (attr node "id") s).1 = .ok (some id) → ids id
  text : ∀ f, recipe.directive.text = .extractor f → ∀ node,
    Parallel S (answerOr "" (f node)) (answerOr "" (f node))
  metadata : ∀ f, recipe.directive.metadata = some f → ∀ node,
    Parallel S (answerOr none (f node)) (answerOr none (f node))
  computers : ∀ p ∈ recipe.directive.computers.entries, ∀ node,
    Parallel S (answerOr none (p.2 node)) (answerOr none (p.2 node))
  click : ∀ name node, name ≠ "" →
    Parallel S (tagClickable settings recipe name node) (tagClickable settings recipe name node)
  input : ∀ name node, name ≠ "" →
    Parallel S (tagInput settings recipe name node) (tagInput settings recipe name node)
  mark : ∀ name ∈ [settings.selectAttribute, settings.metaNameAttribute,
      settings.metaDataAttribute], ∀ node value,
    Parallel S (onPage (setAttribute node name value)) (onPage (setAttribute node name value))

section Stages

variable {S : Session σ → Session τ → Prop}

theorem resolveText_parallel {d : Directive}
    (hquery : ∀ selector, d.text = .selector selector → ∀ context,
      Parallel S (onPage (answer (.query context selector false)))
        (onPage (answer (.query context selector false))))
    (htext : ∀ node, Parallel S (onPage (answer (.text node))) (onPage (answer (.text node))))
    (hextractor : ∀ f, d.text = .extractor f → ∀ node,
      Parallel S (answerOr "" (f node)) (answerOr "" (f node))) (node : NodeId) :
    Parallel S (resolveText d node) (resolveText d node) := by
  unfold resolveText
  cases ht : d.text with
  | none => exact .pure_bind "" (.pure _)
  | selector selector =>
    refine (Parallel.queryFirst (hquery selector ht node)).bind fun target ↦ ?_
    cases target with
    | none => exact .pure_bind "" (.pure _)
    | some target => exact (htext target).bind fun _ ↦ .pure _
  | extractor f => exact (hextractor f ht node).bind fun _ ↦ .pure _
  | own => exact (htext node).bind fun _ ↦ .pure _

theorem attachMetadata_parallel {settings : Settings} {d : Directive}
    (hmetadata : ∀ f, d.metadata = some f → ∀ node,
      Parallel S (answerOr none (f node)) (answerOr none (f node)))
    (hmark : ∀ name ∈ [settings.metaNameAttribute, settings.metaDataAttribute], ∀ node value,
      Parallel S (onPage (setAttribute node name value)) (onPage (setAttribute node name value)))
    (node : NodeId) :
    Parallel S (attachMetadata settings d node) (attachMetadata settings d node) := by
  unfold attachMetadata
  cases hm : d.metadata with
  | none => exact .pure ()
  | some f =>
    refine (hmetadata f hm node).bind fun record ↦ ?_
    cases record with
    | none => exact .pure ()
    | some record =>
      exact (hmark _ (by simp) node _).bind fun _ ↦ hmark _ (by simp) node _

theorem copyAttributes_parallel {node : NodeId} {names : List String}
    (h : ∀ name ∈ names, Parallel S (onPage (attr node name)) (onPage (attr node name)))
    (output : Outline) :
    Parallel S (copyAttributes node names output) (copyAttributes node names output) := by
  induction names generalizing output with
  | nil => exact .pure output
  | cons name names ih =>
    rw [List.forall_mem_cons] at h
    exact h.1.bind fun kept ↦ ih h.2 _

theorem computeAttributes_parallel {node : NodeId} {computers : List (String × AttributeFunction)}
    (h : ∀ p ∈ computers, Parallel S (answerOr none (p.2 node)) (answerOr none (p.2 node)))
    (output : Outline) :
    Parallel S (computeAttributes node computers output)
      (computeAttributes node computers output) := by
  induction computers generalizing output with
  | nil => exact .pure output
  | cons p computers ih =>
    rw [List.forall_mem_cons] at h
    exact h.1.bind fun computed ↦ ih h.2 _

theorem composeAttributes_parallel {settings : Settings} {d : Directive} {node : NodeId}
    (hattr : ∀ name ∈ settings.preservedAttributes ++ d.keepAttributes,
      Parallel S (onPage (attr node name)) (onPage (attr node name)))
    (hcomputers : ∀ p ∈ d.computers.entries,
      Parallel S (answerOr none (p.2 node)) (answerOr none (p.2 node))) (output : Outline) :
    Parallel S (composeAttributes settings d node output)
      (composeAttributes settings d node output) :=
  (copyAttributes_parallel hattr output).bind fun _ ↦ computeAttributes_parallel hcomputers _

end Stages

namespace Respects

variable {S : Session σ → Session τ → Prop} {settings : Settings} {ids : String → Prop}
  {recipe : Recipe} (h : Respects S settings ids recipe)

include h

protected theorem composeAttributes (node : NodeId) (output : Outline) :
    Parallel S (composeAttributes settings recipe.directive node output)
      (composeAttributes settings recipe.directive node output) := by
  refine composeAttributes_parallel (fun name hname ↦ h.asks (.attr node name) ?_)
    (fun p hp ↦ h.computers p hp node) output
  change name ∈ ["type", "id", "value", "aria-selected"] ++ settings.preservedAttributes ++
    recipe.directive.keepAttributes
  rw [List.append_assoc]
  exact List.mem_append_right _ hname

theorem inStep : InStep S Eq settings settings ids recipe recipe where
  route := ⟨rfl, rfl, rfl, rfl, rfl, rfl⟩
  label := rfl
  optionTag := rfl
  asks := h.asks
  ids := h.ids
  text := resolveText_parallel
    (fun selector ht context ↦ h.asks (.query context selector false) (.inr (.inl ht)))
    (fun node ↦ h.asks (.text node) trivial) h.text
  metadata := attachMetadata_parallel h.metadata
    fun name hname ↦ h.mark name (List.mem_cons_of_mem _ hname)
  click := h.click
  input := h.input
  select name node := h.mark _ (by simp) node name
  head _ _ _ := rfl
  compose node output _ _ ho := ho ▸ (h.composeAttributes node output).related
  separators _ _ _ ho := ho ▸ rfl
  finish _ _ ho := ho ▸ rfl

end Respects

end Pass

namespace Engine

open Pass

variable {σ τ : Type} [LivePage σ] [LivePage τ] {S : Session σ → Session τ → Prop}

theorem follow_parallel {settings : Settings} {ids : String → Prop} {recipe : Recipe}
    (h : ∀ r ∈ recipe.nodes, Respects S settings ids r) :
    Parallel S (follow settings recipe) (follow settings recipe) :=
  (follow_related .eq (Recipe.paired_self recipe fun r hr ↦ (h r hr).inStep)).parallel

/-- A relation between sessions that is respected by the rules of a catalog and by every node of its
recipes is kept by the passes of the catalog, which then end alike. -/
theorem pass_parallel {catalog : Catalog} {settings : Settings} {ids : String → Prop}
    (hrules : ∀ e ∈ catalog.entries, ∀ q, e.rule.Asks q →
      Parallel S (onPage (answer q)) (onPage (answer q)))
    (hrecipes : ∀ e ∈ catalog.entries, ∀ r ∈ e.recipe.nodes, Respects S settings ids r)
    (path : String) : Parallel S (pass catalog settings path) (pass catalog settings path) := by
  have hentries : List.Forall₂ (fun e e' ↦ e ∈ catalog.entries ∧ e = e') catalog.entries
      catalog.entries := List.forall₂_same.2 fun e he ↦ ⟨he, rfl⟩
  have hself : ∀ e e', (e ∈ catalog.entries ∧ e = e') →
      Recipe.Paired (InStep S Eq settings settings ids) e.recipe e'.recipe := by
    rintro e _ ⟨he, rfl⟩
    exact Recipe.paired_self e.recipe fun r hr ↦ (hrecipes e he r hr).inStep
  refine (pass_related .eq hentries ?_ hself path).parallel
  rintro e _ ⟨he, rfl⟩
  exact ⟨rfl, hrules e he⟩

end Engine

end PageOutline
