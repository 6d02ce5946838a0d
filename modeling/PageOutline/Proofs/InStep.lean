import PageOutline.Proofs.Stages
import Mathlib.Data.List.Forall2

namespace PageOutline

open LivePage

/-- The questions that a walk asks at a node, apart from those of the recipe's functions. `ids` are
the ids of the controls whose options it looks for. -/
def Directive.Asks (settings : Settings) (ids : String → Prop) (d : Directive) : Question → Prop
  | .root | .tag _ | .text _ | .parent _ | .value _ | .checked _ => True
  | .attr _ name =>
    name ∈ ["type", "id", "value", "aria-selected"] ++ settings.preservedAttributes ++
      d.keepAttributes
  | .query _ selector _ =>
    selector = d.selector ∨ d.text = .selector selector ∨ d.clickSelector = some selector ∨
      selector = settings.dropdownLabelSelector ∨
        ∃ id, ids id ∧ selector = Pass.optionSelector settings id
  | .box _ | .viewport | .markup _ | .document => False

structure Directive.SameRoute (d d' : Directive) : Prop where
  selector : d.selector = d'.selector
  directChildOnly : d.directChildOnly = d'.directChildOnly
  queryFromRoot : d.queryFromRoot = d'.queryFromRoot
  name : d.name = d'.name
  clickable : d.clickable = d'.clickable
  clickSelector : d.clickSelector = d'.clickSelector

/-- A relation between outlines that stays where both are given the same attribute, or related
children. -/
structure Outline.Congruence (O : Outline → Outline → Prop) : Prop where
  refl : ∀ o, O o o
  setAttribute : ∀ {o o'}, O o o' → ∀ name value,
    O (o.setAttribute name value) (o'.setAttribute name value)
  push : ∀ {o o' child child'}, O o o' → O child child' → O (o.push child) (o'.push child')

theorem Outline.Congruence.eq : Outline.Congruence Eq where
  refl _ := rfl
  setAttribute h _ _ := h ▸ rfl
  push h h' := h ▸ h' ▸ rfl

theorem Outline.Congruence.setAttribute? {O : Outline → Outline → Prop} (hO : Congruence O)
    {o o' : Outline} (h : O o o') (name : String) (value : Option String) :
    O ((value.map (o.setAttribute name)).getD o) ((value.map (o'.setAttribute name)).getD o') := by
  cases value with
  | none => exact h
  | some value => exact hO.setAttribute h name value

namespace Recipe

mutual

def Paired (P : Recipe → Recipe → Prop) : Recipe → Recipe → Prop
  | .node d rs, .node d' rs' => P (.node d rs) (.node d' rs') ∧ PairedAll P rs rs'

def PairedAll (P : Recipe → Recipe → Prop) : List Recipe → List Recipe → Prop
  | [], [] => True
  | r :: rs, r' :: rs' => Paired P r r' ∧ PairedAll P rs rs'
  | [], _ :: _ | _ :: _, [] => False

end

theorem Paired.head {P : Recipe → Recipe → Prop} {r r' : Recipe} (h : Paired P r r') : P r r' := by
  cases r
  cases r'
  exact h.1

mutual

theorem paired_self {P : Recipe → Recipe → Prop} (r : Recipe) (h : ∀ x ∈ r.nodes, P x x) :
    Paired P r r := by
  match r with
  | .node d rs =>
    rw [nodes, List.forall_mem_cons] at h
    exact ⟨h.1, pairedAll_self rs h.2⟩

theorem pairedAll_self {P : Recipe → Recipe → Prop} (rs : List Recipe)
    (h : ∀ x ∈ nodesAll rs, P x x) : PairedAll P rs rs := by
  match rs with
  | [] => trivial
  | r :: rs =>
    rw [nodesAll, List.forall_mem_append] at h
    exact ⟨paired_self r h.1, pairedAll_self rs h.2⟩

end

theorem self_mem_nodes (recipe : Recipe) : recipe ∈ recipe.nodes := by
  cases recipe with
  | node d children => exact List.mem_cons_self

end Recipe

namespace Pass

variable {σ τ : Type} [LivePage σ] [LivePage τ]

/-- Two recipes that click and tag alike at one node, in a way that respects a relation between
sessions. The tag of an interactive element and the entry of its name count as one step. -/
structure TagsInStep (S : Session σ → Session τ → Prop) (settings settings' : Settings)
    (ids : String → Prop) (recipe recipe' : Recipe) : Prop where
  route : recipe.directive.SameRoute recipe'.directive
  label : settings.dropdownLabelSelector = settings'.dropdownLabelSelector
  optionTag : settings.dropdownOptionTag = settings'.dropdownOptionTag
  asks : ∀ q, recipe.directive.Asks settings ids q →
    Parallel S (onPage (answer q)) (onPage (answer q))
  ids : ∀ node id s t, S s t → (onPage (attr node "id") s).1 = .ok (some id) → ids id
  click : ∀ name node, name ≠ "" →
    Parallel S (tagClickable settings recipe name node) (tagClickable settings' recipe' name node)
  input : ∀ name node, name ≠ "" →
    Parallel S (tagInput settings recipe name node) (tagInput settings' recipe' name node)
  select : ∀ name node, Parallel S (onPage (setAttribute node settings.selectAttribute name))
    (onPage (setAttribute node settings'.selectAttribute name))

structure InStep (S : Session σ → Session τ → Prop) (O : Outline → Outline → Prop)
    (settings settings' : Settings) (ids : String → Prop) (recipe recipe' : Recipe) : Prop
    extends TagsInStep S settings settings' ids recipe recipe' where
  text : ∀ node,
    Parallel S (resolveText recipe.directive node) (resolveText recipe'.directive node)
  metadata : ∀ node, Parallel S (attachMetadata settings recipe.directive node)
    (attachMetadata settings' recipe'.directive node)
  head : ∀ liveTag text name,
    O (recipe.directive.head liveTag text name) (recipe'.directive.head liveTag text name)
  /-- Attributes are asked for at nodes that have told their tag. -/
  compose : ∀ node output output',
    (∃ s t liveTag, S s t ∧ (onPage (tag node) s).1 = .ok liveTag) → O output output' →
      Related S O (composeAttributes settings recipe.directive node output)
        (composeAttributes settings' recipe'.directive node output')
  separators : ∀ output output' index, O output output' →
    O (pushSeparators output (separatorsAfter recipe.directive.separatorEvery index))
      (pushSeparators output' (separatorsAfter recipe'.directive.separatorEvery index))
  finish : ∀ output output', O output output' →
    O (finish recipe.directive output) (finish recipe'.directive output')

theorem ne_empty_of_usable {n : Naming} {name : String} (h : n.usable? = some name) :
    name ≠ "" := by
  have := (Option.filter_eq_some_iff.1 h).2
  simpa using this

theorem append_dot_ne_empty (name text : String) : name ++ "." ++ text ≠ "" := by
  intro h
  have := congrArg String.length h
  simp at this

theorem labelName_ne_empty (name : String) : labelName name ≠ "" := by
  unfold labelName joinName
  split
  · decide
  · exact append_dot_ne_empty _ _

section Steps

variable {S : Session σ → Session τ → Prop} {O : Outline → Outline → Prop}
  {settings settings' : Settings} {ids : String → Prop} {recipe recipe' : Recipe}

namespace TagsInStep

variable (h : TagsInStep S settings settings' ids recipe recipe') (hO : Outline.Congruence O)

include h

protected theorem queryFirst {context : NodeId} {selector : String}
    (hs : recipe.directive.Asks settings ids (.query context selector false)) :
    Parallel S (onPage (LivePage.queryFirst context selector))
      (onPage (LivePage.queryFirst context selector)) :=
  .queryFirst (h.asks _ hs)

protected theorem tagIfClickable {name : Option String} (hn : ∀ s ∈ name, s ≠ "")
    (node : NodeId) :
    Parallel S (tagIfClickable settings recipe name node)
      (tagIfClickable settings' recipe' name node) := by
  unfold Pass.tagIfClickable
  rw [← h.route.clickable, ← h.route.selector]
  cases recipe.directive.clickable with
  | false => exact .pure ()
  | true =>
    cases name with
    | none => exact .throw _
    | some name =>
      have hname : name ≠ "" := hn name rfl
      simp only [if_true, Pass.tagClickTarget]
      rw [← h.route.clickSelector]
      cases hc : recipe.directive.clickSelector with
      | none => exact .pure_bind (some node) (h.click name node hname)
      | some selector =>
        refine (h.queryFirst (.inr (.inr (.inl hc)))).bind fun target ↦ ?_
        cases target with
        | none => exact .pure ()
        | some target => exact h.click name target hname

protected theorem findMatches (node : NodeId) :
    Parallel S (findMatches recipe node) (findMatches recipe' node) := by
  have hquery (context : NodeId) := h.asks
    (.query context recipe.directive.selector recipe.directive.directChildOnly) (.inl rfl)
  unfold Pass.findMatches
  rw [← h.route.queryFromRoot, ← h.route.selector, ← h.route.directChildOnly]
  cases recipe.directive.queryFromRoot with
  | false => exact .pure_bind node (hquery node)
  | true => exact (h.asks .root trivial).bind hquery

include hO

protected theorem describeInput {name : Option String} (hn : ∀ s ∈ name, s ≠ "") (node : NodeId)
    {output output' : Outline} (ho : O output output') :
    Related S O (describeInput settings recipe name node output)
      (describeInput settings' recipe' name node output') := by
  refine (h.asks (.attr node "type") (by simp [Directive.Asks])).bind_related fun type ↦ ?_
  dsimp only
  split
  · refine (h.asks (.value node) trivial).bind_related fun value ↦ ?_
    have hvalue := hO.setAttribute? ho "value" value
    cases name with
    | none => exact .pure hvalue
    | some name => exact (h.input name node (hn name rfl)).bind_related fun _ ↦ .pure hvalue
  · split
    · refine (h.asks (.checked node) trivial).bind_related fun checked ↦ ?_
      have hchecked := hO.setAttribute ho "checked" (toString checked)
      cases name with
      | none => exact .pure hchecked
      | some name => exact (h.click name node (hn name rfl)).bind_related fun _ ↦ .pure hchecked
    · split
      · exact (h.asks (.checked node) trivial).bind_related fun checked ↦
          .pure (hO.setAttribute ho "checked" (toString checked))
      · exact .pure ho

protected theorem expandLabel (name : String) (node : NodeId) {output output' : Outline}
    (ho : O output output') :
    Related S O (expandLabel settings recipe name node output)
      (expandLabel settings' recipe' name node output') := by
  unfold Pass.expandLabel
  rw [← h.label]
  refine (h.asks (.parent node) trivial).bind_related fun parent ↦ ?_
  cases parent with
  | none => exact .pure ho
  | some parent =>
    refine (h.queryFirst (.inr (.inr (.inr (.inl rfl))))).bind_related fun label ↦ ?_
    cases label with
    | none => exact .pure ho
    | some label =>
      refine (h.asks (.tag label) trivial).bind_related fun _ ↦ ?_
      refine (h.asks (.text label) trivial).bind_related fun _ ↦ ?_
      exact (h.click _ label (labelName_ne_empty name)).bind_related fun _ ↦
        .pure (hO.push ho (hO.refl _))

protected theorem expandOption (name : String) (node : NodeId) {output output' : Outline}
    (ho : O output output') :
    Related S O (expandOption settings recipe name node output)
      (expandOption settings' recipe' name node output') := by
  refine (h.asks (.text node) trivial).bind_related fun _ ↦ ?_
  refine (h.asks (.attr node "value") (by simp [Directive.Asks])).bind_related fun _ ↦ ?_
  refine (h.asks (.attr node "aria-selected") (by simp [Directive.Asks])).bind_related fun _ ↦ ?_
  exact (h.click _ node (append_dot_ne_empty _ _)).bind_related fun _ ↦
    .pure (hO.push ho (hO.refl _))

protected theorem expandOptions (name : String) (control : NodeId) (nodes : List NodeId)
    {output output' : Outline} (ho : O output output') :
    Related S O (expandOptions settings recipe name control nodes output)
      (expandOptions settings' recipe' name control nodes output') := by
  induction nodes generalizing output output' with
  | nil => exact .pure ho
  | cons node nodes ih =>
    unfold Pass.expandOptions
    split
    · exact ih ho
    · exact (h.expandOption hO name node ho).bind fun _ _ ho' ↦ ih ho'

protected theorem expandDropdown (name : String) (node : NodeId) {output output' : Outline}
    (ho : O output output') :
    Related S O (expandDropdown settings recipe name node output)
      (expandDropdown settings' recipe' name node output') := by
  refine (h.select name node).bind_related fun _ ↦ ?_
  refine (h.expandLabel hO name node ho).bind fun output output' ho ↦ ?_
  have hid := h.asks (.attr node "id") (by simp [Directive.Asks])
  refine hid.bind_related_of_answer fun found ⟨s, t, hs, hf⟩ ↦ ?_
  cases hi : found.filter fun id ↦ !id.isEmpty with
  | none => exact .pure ho
  | some id =>
    obtain ⟨rfl, -⟩ := Option.filter_eq_some_iff.1 hi
    have hselector : optionSelector settings' id = optionSelector settings id := by
      rw [optionSelector, optionSelector, h.optionTag]
    have hquery (context : NodeId) := h.asks (.query context (optionSelector settings id) false)
      (.inr (.inr (.inr (.inr ⟨id, h.ids node id s t hs hf, rfl⟩))))
    dsimp only
    rw [hselector]
    exact ((h.asks .root trivial).access_bind hquery).bind_related fun options ↦
      h.expandOptions hO name node options ho

protected theorem describeControl (liveTag : String) {name : Option String}
    (hn : ∀ s ∈ name, s ≠ "") (node : NodeId) {output output' : Outline} (ho : O output output') :
    Related S O (describeControl settings recipe liveTag name node output)
      (describeControl settings' recipe' liveTag name node output') := by
  unfold Pass.describeControl
  split
  · exact h.describeInput hO hn node ho
  · split
    · cases name with
      | none => exact .pure ho
      | some name => exact h.expandDropdown hO name node ho
    · exact .pure ho

end TagsInStep

protected theorem InStep.enter (h : InStep S O settings settings' ids recipe recipe')
    (hO : Outline.Congruence O) (node : NodeId) (parent : String) (index : Nat) :
    Related S (fun a b ↦ O a.1 b.1 ∧ a.2 = b.2) (enter settings recipe node parent index)
      (enter settings' recipe' node parent index) := by
  rw [enter_eq, enter_eq, ← h.route.name]
  refine (h.asks (.tag node) trivial).bind_related_of_answer fun liveTag ⟨s, t, hs, htag⟩ ↦ ?_
  refine (h.text node).bind_related fun text ↦ ?_
  refine (h.metadata node).bind_related fun _ ↦ ?_
  generalize hu : (recipe.directive.name.resolve parent text index).usable? = name
  have hn : ∀ s ∈ name, s ≠ "" := fun s hs ↦ ne_empty_of_usable (hu.trans hs)
  refine (h.tagIfClickable hn node).bind_related fun _ ↦ ?_
  have hcompose := h.compose node _ _ ⟨s, t, liveTag, hs, htag⟩ (h.head liveTag text name)
  refine hcompose.bind fun output output' ho ↦ ?_
  exact (h.describeControl hO liveTag hn node ho).bind fun _ _ ho' ↦ .pure ⟨ho', rfl⟩

end Steps

variable {S : Session σ → Session τ → Prop} {O : Outline → Outline → Prop}
  {settings settings' : Settings} {ids : String → Prop}

omit [LivePage σ] [LivePage τ] in
theorem addMatches_related (hO : Outline.Congruence O) {f : NodeId → Nat → Pass σ Outline}
    {g : NodeId → Nat → Pass τ Outline}
    (hfg : ∀ node index, Related S O (f node index) (g node index)) {every every' : Option Nat}
    (hseparators : ∀ output output' index, O output output' →
      O (pushSeparators output (separatorsAfter every index))
        (pushSeparators output' (separatorsAfter every' index)))
    (nodes : List NodeId) (index : Nat) {output output' : Outline} (ho : O output output') :
    Related S O (addMatches f every nodes index output)
      (addMatches g every' nodes index output') := by
  induction nodes generalizing index output output' with
  | nil => exact .pure ho
  | cons node nodes ih =>
    refine (hfg node index).bind fun child child' hchild ↦ ?_
    exact ih _ (hseparators _ _ index (hO.push ho hchild))

mutual

theorem process_related (hO : Outline.Congruence O) (recipe recipe' : Recipe)
    (h : Recipe.Paired (InStep S O settings settings' ids) recipe recipe') (node : NodeId)
    (parent : String) (index : Nat) :
    Related S O (process settings recipe node parent index)
      (process settings' recipe' node parent index) := by
  match recipe, recipe' with
  | .node d children, .node d' children' =>
    obtain ⟨hnode, hchildren⟩ := h
    unfold process
    refine (hnode.enter hO node parent index).bind fun (output, childPrefix) (output', _) ho ↦ ?_
    obtain ⟨ho, rfl⟩ := ho
    refine (processChildren_related hO children children' hchildren hnode.separators node
      childPrefix ho).bind fun _ _ ho' ↦ ?_
    exact .pure (hnode.finish _ _ ho')

theorem processChildren_related (hO : Outline.Congruence O) (recipes recipes' : List Recipe)
    (h : Recipe.PairedAll (InStep S O settings settings' ids) recipes recipes')
    {every every' : Option Nat}
    (hseparators : ∀ output output' index, O output output' →
      O (pushSeparators output (separatorsAfter every index))
        (pushSeparators output' (separatorsAfter every' index)))
    (node : NodeId) (childPrefix : String) {output output' : Outline} (ho : O output output') :
    Related S O (processChildren settings every node childPrefix recipes output)
      (processChildren settings' every' node childPrefix recipes' output') := by
  match recipes, recipes' with
  | [], [] => exact .pure ho
  | recipe :: recipes, recipe' :: recipes' =>
    obtain ⟨hrecipe, hrecipes⟩ := h
    rw [processChildren_cons, processChildren_cons]
    refine (hrecipe.head.findMatches node).bind_related fun found ↦ ?_
    have hmatches := addMatches_related hO
      (fun child i ↦ process_related hO recipe recipe' hrecipe child childPrefix i) hseparators
      found 0 ho
    refine hmatches.bind fun _ _ ho' ↦ ?_
    exact processChildren_related hO recipes recipes' hrecipes hseparators node childPrefix ho'

end

end Pass

namespace Catalog

open Pass

variable {σ τ : Type} [LivePage σ] [LivePage τ] {S : Session σ → Session τ → Prop}

theorem selectAmong_related {E : CatalogEntry → CatalogEntry → Prop} {location : String}
    (hrule : ∀ e e', E e e' →
      Parallel S (onPage (e.rule.holds location)) (onPage (e'.rule.holds location)))
    {entries entries' : List CatalogEntry} (h : List.Forall₂ E entries entries') :
    Related S (fun r r' ↦ ∃ e e', E e e' ∧ e.recipe = r ∧ e'.recipe = r')
      (onPage (selectAmong location entries)) (onPage (selectAmong location entries')) := by
  induction h with
  | nil => exact .throw _
  | @cons e e' es es' he _ ih =>
    rw [selectAmong, selectAmong, onPage_bind, onPage_bind]
    refine (hrule e e' he).attempt.bind_related fun result ↦ ?_
    match result with
    | .ok true => exact .pure ⟨e, e', he, rfl, rfl⟩
    | .ok false => exact ih
    | .error _ => exact ih

end Catalog

namespace PageRule

open Pass

variable {σ τ : Type} [LivePage σ] [LivePage τ] {S : Session σ → Session τ → Prop}

def Asks (rule : PageRule) : Question → Prop
  | .root | .text _ => True
  | .query _ selector _ => ∃ contains, rule = .text selector contains
  | _ => False

theorem holds_parallel (rule : PageRule) (location : String)
    (h : ∀ q, rule.Asks q → Parallel S (onPage (answer q)) (onPage (answer q))) :
    Parallel S (onPage (rule.holds location)) (onPage (rule.holds location)) := by
  cases rule with
  | path expected allowRef => exact .pure _
  | text selector contains =>
    refine (h .root trivial).access_bind fun root ↦ ?_
    refine (Parallel.queryFirst (h _ ⟨contains, rfl⟩)).access_bind fun found ↦ ?_
    cases found with
    | none => exact .pure false
    | some found =>
      cases contains with
      | none => exact .pure true
      | some needle => exact (h (.text found) trivial).access_bind fun _ ↦ .pure _

end PageRule

namespace Engine

open Pass

variable {σ τ : Type} [LivePage σ] [LivePage τ] {S : Session σ → Session τ → Prop}
  {O : Outline → Outline → Prop} {settings settings' : Settings} {ids : String → Prop}

theorem follow_related (hO : Outline.Congruence O) {recipe recipe' : Recipe}
    (h : Recipe.Paired (InStep S O settings settings' ids) recipe recipe') :
    Related S O (follow settings recipe) (follow settings' recipe') := by
  have hselector : recipe'.selector = recipe.selector := h.head.route.selector.symm
  unfold follow
  rw [hselector]
  refine (h.head.asks .root trivial).bind_related fun root ↦ ?_
  exact (h.head.queryFirst (.inl rfl)).bind_related fun start ↦
    process_related hO recipe recipe' h _ "" 0

/-- Passes of catalogs with the same rules, whose recipes are in step, end with related outlines or
fail alike, and leave related sessions. -/
theorem pass_related (hO : Outline.Congruence O) {catalog catalog' : Catalog}
    {E : CatalogEntry → CatalogEntry → Prop}
    (h : List.Forall₂ E catalog.entries catalog'.entries)
    (hrule : ∀ e e', E e e' → e.rule = e'.rule ∧
      ∀ q, e.rule.Asks q → Parallel S (onPage (answer q)) (onPage (answer q)))
    (hrecipe : ∀ e e', E e e' →
      Recipe.Paired (InStep S O settings settings' ids) e.recipe e'.recipe) (path : String) :
    Related S O (pass catalog settings path) (pass catalog' settings' path) := by
  have hholds (e e' : CatalogEntry) (he : E e e') :
      Parallel S (onPage (e.rule.holds (normalizePath path)))
        (onPage (e'.rule.holds (normalizePath path))) := by
    obtain ⟨hsame, hasks⟩ := hrule e e' he
    rw [← hsame]
    exact e.rule.holds_parallel _ hasks
  rw [pass_eq, pass_eq]
  refine (Catalog.selectAmong_related hholds h).bind ?_
  rintro _ _ ⟨e, e', he, rfl, rfl⟩
  exact follow_related hO (hrecipe e e' he)

end Engine

end PageOutline
