import PageOutline.Proofs.Correspondence

namespace PageOutline

def OrderedMap.mapValues {α β : Type} (f : α → β) (m : OrderedMap α) : OrderedMap β where
  entries := m.entries.map fun e ↦ (e.1, f e.2)
  nodup := by
    rw [List.map_map]
    exact m.nodup

/-- The inquiry with an answer in the place of its failures. -/
def Inquiry.recover {α : Type} (default : α) : Inquiry α → Inquiry α
  | .done a => .done a
  | .fail _ => .done default
  | .ask q next => .ask q fun answer ↦ (next answer).recover default

def TextSource.total : TextSource → TextSource
  | .extractor f => .extractor fun node ↦ (f node).recover ""
  | .none => .none
  | .selector s => .selector s
  | .own => .own

/-- The directive with functions that tell nothing where they would fail. -/
def Directive.total (d : Directive) : Directive :=
  { d with
    text := d.text.total
    computers := d.computers.mapValues fun f node ↦ (f node).recover none
    metadata := d.metadata.map fun f node ↦ (f node).recover none }

namespace Inquiry

variable {σ α : Type} [LivePage σ]

theorem run_recover (default : α) (i : Inquiry α) (page : σ) :
    (i.recover default).run page =
      (.ok ((i.run page).1.toOption.getD default), (i.run page).2) := by
  induction i generalizing page with
  | done a => rfl
  | fail failure => rfl
  | ask q next ih => rw [recover, run_ask, run_ask, ih]

end Inquiry

namespace Pass

variable {σ : Type} [LivePage σ]

theorem answerOr_recover {α : Type} (default : α) (i : Inquiry α) :
    (answerOr default (i.recover default) : Pass σ α) = answerOr default i := by
  funext s
  rw [answerOr_eq, answerOr_eq, Inquiry.run_recover]
  rfl

theorem resolveText_total (d : Directive) (node : NodeId) :
    (resolveText d.total node : Pass σ String) = resolveText d node := by
  unfold resolveText Directive.total
  cases d.text with
  | extractor f => simp only [TextSource.total, answerOr_recover]
  | none => rfl
  | selector s => rfl
  | own => rfl

theorem attachMetadata_total (settings : Settings) (d : Directive) (node : NodeId) :
    (attachMetadata settings d.total node : Pass σ Unit) = attachMetadata settings d node := by
  unfold attachMetadata Directive.total
  cases d.metadata with
  | none => rfl
  | some f => simp only [Option.map_some, answerOr_recover]

theorem computeAttributes_total (node : NodeId) (computers : List (String × AttributeFunction))
    (output : Outline) :
    (computeAttributes node
      (computers.map fun e ↦ (e.1, fun node ↦ (e.2 node).recover none)) output : Pass σ Outline) =
      computeAttributes node computers output := by
  induction computers generalizing output with
  | nil => rfl
  | cons e computers ih =>
    rw [List.map_cons, computeAttributes, computeAttributes, answerOr_recover]
    exact bind_congr fun computed ↦ ih _

theorem composeAttributes_total (settings : Settings) (d : Directive) (node : NodeId)
    (output : Outline) :
    (composeAttributes settings d.total node output : Pass σ Outline) =
      composeAttributes settings d node output :=
  bind_congr fun _ ↦ computeAttributes_total node d.computers.entries _

theorem inStep_total {C : Recipe → Recipe → Prop} {d : Directive} {rs rs' : List Recipe}
    (hC : C (.node d rs) (.node d.total rs')) (settings : Settings) :
    InStep (SamePage (σ := σ) (fun _ ↦ True) C) Eq settings settings (fun _ ↦ True) (.node d rs)
      (.node d.total rs') := by
  have hpage {α : Type} (x : Access σ α) :
      Parallel (SamePage (fun _ ↦ True) C) (onPage x) (onPage x) :=
    onPage_samePage fun _ _ ↦ trivial
  have hanswer {α : Type} (default : α) (i : Inquiry α) :
      Parallel (SamePage (σ := σ) (fun _ ↦ True) C) (answerOr default i) (answerOr default i) :=
    .answerOr default (hpage _)
  exact {
    route := ⟨rfl, rfl, rfl, rfl, rfl, rfl⟩
    label := rfl
    optionTag := rfl
    asks := fun _ _ ↦ hpage _
    ids := fun _ _ _ _ _ _ ↦ trivial
    text := fun node ↦ by
      change Parallel _ (resolveText d node) (resolveText d.total node)
      rw [resolveText_total]
      exact resolveText_parallel (fun _ _ _ ↦ hpage _) (fun _ ↦ hpage _)
        (fun _ _ _ ↦ hanswer "" _) node
    metadata := fun node ↦ by
      change Parallel _ (attachMetadata settings d node) (attachMetadata settings d.total node)
      rw [attachMetadata_total]
      exact attachMetadata_parallel (fun _ _ _ ↦ hanswer none _) (fun _ _ _ _ ↦ hpage _) node
    click := fun name node _ ↦ tagClickable_samePage hC rfl name node fun _ _ ↦ trivial
    input := fun name node _ ↦ tagInput_samePage hC rfl name node fun _ _ ↦ trivial
    select := fun _ _ ↦ hpage _
    head := fun _ _ _ ↦ rfl
    compose := fun node output output' _ ho ↦ by
      change Related _ Eq (composeAttributes settings d node output)
        (composeAttributes settings d.total node output')
      rw [composeAttributes_total, ← ho]
      exact (composeAttributes_parallel (fun _ _ ↦ hpage _) (fun _ _ ↦ hanswer none _)
        output).related
    separators := fun _ _ _ ho ↦ ho ▸ rfl
    finish := fun _ _ ho ↦ ho ▸ rfl }

end Pass

namespace Engine

open Pass

/-- Failures of functions are soft: passes of a catalog and of the same one with functions that tell
nothing where they would fail end with the same outline or the same failure, leave the same page and
register the same names in the same order, for recipes at the same place. -/
theorem processPage_total {σ : Type} [LivePage σ] (e : Engine) (page : σ) (path : String) :
    PassesAlike Eq e { e with catalog := e.catalog.mapDirectives Directive.total } page path := by
  set total := e.catalog.mapDirectives Directive.total with htotal
  have hentries : List.Forall₂ (fun entry entry' ↦ entry.rule = entry'.rule ∧ Recipe.Paired
      (fun a b ↦ b.directive = a.directive.total) entry.recipe entry'.recipe)
      e.catalog.entries total.entries := by
    rw [htotal, Catalog.mapDirectives, List.forall₂_map_right_iff, List.forall₂_same]
    exact fun entry _ ↦ ⟨rfl, entry.recipe.paired_mapDirectives Directive.total⟩
  refine passesAlike_of_inStep .eq (e := e) (f := { e with catalog := total })
    (I := fun _ ↦ True) rfl trivial (fun _ _ _ ↦ trivial) hentries ?_ path
  rintro ⟨d, rs⟩ ⟨d', rs'⟩ hd hC
  obtain rfl : d' = d.total := hd
  exact inStep_total hC e.settings

end Engine

end PageOutline
