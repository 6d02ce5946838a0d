import PageOutline.Proofs.PageSelection
import PageOutline.Proofs.Stages
import Mathlib.Logic.Relation

namespace PageOutline

theorem Recipe.sizeOf_lt_of_mem_children {r recipe : Recipe} (h : r ∈ recipe.children) :
    sizeOf r < sizeOf recipe := by
  cases recipe with
  | node d children =>
    have hlt : sizeOf r < sizeOf children := List.sizeOf_lt_of_mem h
    rw [Recipe.node.sizeOf_spec]
    omega

namespace Pass

variable {σ : Type}

theorem addMatches_append (step : NodeId → Nat → Pass σ Outline) (every : Option Nat)
    (earlier later : List NodeId) (index : Nat) (output : Outline) :
    addMatches step every (earlier ++ later) index output =
      addMatches step every earlier index output >>= fun output ↦
        addMatches step every later (index + earlier.length) output := by
  induction earlier generalizing index output with
  | nil => rfl
  | cons node earlier ih =>
    rw [List.cons_append, addMatches, addMatches, bind_assoc]
    refine bind_congr fun child ↦ ?_
    rw [ih, List.length_cons, Nat.add_assoc, Nat.add_comm 1]

theorem addMatches_eq_error {step : NodeId → Nat → Pass σ Outline} {every : Option Nat}
    {nodes : List NodeId} {index : Nat} {output : Outline} {s : Session σ} {failure : Failure} :
    (addMatches step every nodes index output s).1 = .error failure ↔
      ∃ earlier child later output' t, nodes = earlier ++ child :: later ∧
        addMatches step every earlier index output s = (.ok output', t) ∧
          (step child (index + earlier.length) t).1 = .error failure := by
  constructor
  · intro h
    induction nodes generalizing index output s with
    | nil => cases h
    | cons node nodes ih =>
      rw [addMatches, bind_eq_error] at h
      rcases h with h | ⟨child, t, hstep, h⟩
      · exact ⟨[], node, nodes, output, s, rfl, rfl, h⟩
      · obtain ⟨earlier, later, rest, output', u, rfl, hearlier, hlater⟩ := ih h
        refine ⟨node :: earlier, later, rest, output', u, rfl, ?_, ?_⟩
        · rw [addMatches, bind_of_ok hstep, hearlier]
        · rwa [List.length_cons, Nat.add_comm _ 1, ← Nat.add_assoc]
  · rintro ⟨earlier, child, later, output', t, rfl, hearlier, hchild⟩
    rw [addMatches_append, bind_of_ok hearlier, addMatches, bind_eq_error]
    exact .inl hchild

variable [LivePage σ] {settings : Settings}

theorem process_eq (settings : Settings) (recipe : Recipe) (node : NodeId) (parent : String)
    (index : Nat) : (process settings recipe node parent index : Pass σ Outline) =
      (do
        let (output, childPrefix) ← enter settings recipe node parent index
        let output ← processChildren settings recipe.directive.separatorEvery node childPrefix
          recipe.children output
        return finish recipe.directive output) := by
  cases recipe
  rw [process]
  rfl

theorem processChildren_append (every : Option Nat) (node : NodeId) (childPrefix : String)
    (before after : List Recipe) (output : Outline) :
    (processChildren settings every node childPrefix (before ++ after) output : Pass σ Outline) =
      processChildren settings every node childPrefix before output >>= fun output ↦
        processChildren settings every node childPrefix after output := by
  induction before generalizing output with
  | nil =>
    rw [List.nil_append, processChildren_nil, pure_bind]
  | cons recipe before ih =>
    simp only [List.cons_append, processChildren_cons, bind_assoc, ih]

theorem processChildren_eq_error {every : Option Nat} {node : NodeId} {childPrefix : String}
    {recipes : List Recipe} {output : Outline} {s : Session σ} {failure : Failure} :
    (processChildren settings every node childPrefix recipes output s).1 = .error failure ↔
      ∃ before recipe after output' t, recipes = before ++ recipe :: after ∧
        processChildren settings every node childPrefix before output s = (.ok output', t) ∧
          ((findMatches recipe node t).1 = .error failure ∨
            ∃ found u, findMatches recipe node t = (.ok found, u) ∧
              (addMatches (fun child i ↦ process settings recipe child childPrefix i) every found 0
                output' u).1 = .error failure) := by
  constructor
  · intro h
    induction recipes generalizing output s with
    | nil =>
      rw [processChildren_nil] at h
      cases h
    | cons recipe recipes ih =>
      have hnil : processChildren settings every node childPrefix [] output s = (.ok output, s) :=
        congrFun (processChildren_nil ..) s
      rw [processChildren_cons, bind_eq_error] at h
      rcases h with h | ⟨found, t, hfound, h⟩
      · exact ⟨[], recipe, recipes, output, s, rfl, hnil, .inl h⟩
      rw [bind_eq_error] at h
      rcases h with h | ⟨output', u, hadd, h⟩
      · exact ⟨[], recipe, recipes, output, s, rfl, hnil, .inr ⟨found, t, hfound, h⟩⟩
      · obtain ⟨before, later, after, output'', v, rfl, hbefore, hlater⟩ := ih h
        refine ⟨recipe :: before, later, after, output'', v, rfl, ?_, hlater⟩
        rw [processChildren_cons, bind_of_ok hfound, bind_of_ok hadd, hbefore]
  · rintro ⟨before, recipe, after, output', t, rfl, hbefore, h⟩
    rw [processChildren_append, bind_of_ok hbefore, processChildren_cons, bind_eq_error]
    rcases h with h | ⟨found, u, hfound, h⟩
    · exact .inl h
    · exact .inr ⟨found, u, hfound, bind_eq_error.2 (.inl h)⟩

/-- A node that a walk comes to with a recipe: below a parent's name, at a place among the matches,
and in the session that what went before has left. -/
structure Stop (σ : Type) where
  session : Session σ
  recipe : Recipe
  node : NodeId
  parent : String
  index : Nat

namespace Stop

def enter (settings : Settings) (w : Stop σ) : Except Failure (Outline × String) × Session σ :=
  Pass.enter settings w.recipe w.node w.parent w.index w.session

def process (settings : Settings) (w : Stop σ) : Except Failure Outline × Session σ :=
  Pass.process settings w.recipe w.node w.parent w.index w.session

/-- The walk turns to a child recipe: it has entered the node and walked the recipes before. -/
inductive TurnsTo (settings : Settings) (v : Stop σ) :
    Recipe → String → Outline → Session σ → Prop
  | intro {before after : List Recipe} {recipe : Recipe} {head output : Outline}
      {childPrefix : String} {s t : Session σ}
      (children : v.recipe.children = before ++ recipe :: after)
      (entered : v.enter settings = (.ok (head, childPrefix), s))
      (walked : processChildren settings v.recipe.directive.separatorEvery v.node childPrefix before
        head s = (.ok output, t)) : TurnsTo settings v recipe childPrefix output t

/-- The walk comes from a node to a match of a child recipe: it has walked the matches before. -/
inductive Next (settings : Settings) (v : Stop σ) : Stop σ → Prop
  | intro {recipe : Recipe} {childPrefix : String} {output output' : Outline} {s t u : Session σ}
      {earlier later : List NodeId} {child : NodeId}
      (turned : v.TurnsTo settings recipe childPrefix output s)
      (found : findMatches recipe v.node s = (.ok (earlier ++ child :: later), t))
      (walked : addMatches (fun child i ↦ Pass.process settings recipe child childPrefix i)
        v.recipe.directive.separatorEvery earlier 0 output t = (.ok output', u)) :
      Next settings v ⟨u, recipe, child, childPrefix, earlier.length⟩

/-- The walk cannot go on at a node itself. -/
inductive Breaks (settings : Settings) (v : Stop σ) (failure : Failure) : Prop
  | enter (h : (v.enter settings).1 = .error failure)
  | find {recipe : Recipe} {childPrefix : String} {output : Outline} {s : Session σ}
      (turned : v.TurnsTo settings recipe childPrefix output s)
      (h : (findMatches recipe v.node s).1 = .error failure)

/-- The walk comes to a stop on its way from another one. -/
abbrev Reaches (settings : Settings) : Stop σ → Stop σ → Prop :=
  Relation.ReflTransGen (Next settings)

theorem TurnsTo.mem {v : Stop σ} {recipe : Recipe} {childPrefix : String} {output : Outline}
    {s : Session σ} (h : v.TurnsTo settings recipe childPrefix output s) :
    recipe ∈ v.recipe.children := by
  obtain ⟨hchildren, -, -⟩ := h
  rw [hchildren]
  exact List.mem_append_right _ List.mem_cons_self

theorem Next.mem {v w : Stop σ} (h : Next settings v w) : w.recipe ∈ v.recipe.children := by
  obtain ⟨hturned, -, -⟩ := h
  exact hturned.mem

theorem process_eq_error_iff {v : Stop σ} {failure : Failure} :
    (v.process settings).1 = .error failure ↔
      (v.enter settings).1 = .error failure ∨ ∃ head childPrefix s,
        v.enter settings = (.ok (head, childPrefix), s) ∧
          (processChildren settings v.recipe.directive.separatorEvery v.node childPrefix
            v.recipe.children head s).1 = .error failure := by
  unfold Stop.process Stop.enter
  rw [process_eq, bind_eq_error]
  refine or_congr_right ⟨?_, ?_⟩
  · rintro ⟨⟨head, childPrefix⟩, s, hentered, h⟩
    rcases bind_eq_error.1 h with h | ⟨_, _, -, ⟨⟩⟩
    exact ⟨head, childPrefix, s, hentered, h⟩
  · rintro ⟨head, childPrefix, s, hentered, h⟩
    exact ⟨(head, childPrefix), s, hentered, bind_eq_error.2 (.inl h)⟩

theorem process_eq_error {v : Stop σ} {failure : Failure} :
    (v.process settings).1 = .error failure ↔
      v.Breaks settings failure ∨
        ∃ w, Next settings v w ∧ (w.process settings).1 = .error failure := by
  rw [process_eq_error_iff]
  constructor
  · rintro (h | ⟨head, childPrefix, s, hentered, h⟩)
    · exact .inl (.enter h)
    obtain ⟨before, recipe, after, output, t, hchildren, hwalked, h⟩ := processChildren_eq_error.1 h
    have hturned : v.TurnsTo settings recipe childPrefix output t := ⟨hchildren, hentered, hwalked⟩
    rcases h with h | ⟨found, u, hfound, h⟩
    · exact .inl (.find hturned h)
    obtain ⟨earlier, child, later, output', w, rfl, hearlier, hchild⟩ := addMatches_eq_error.1 h
    rw [Nat.zero_add] at hchild
    exact .inr ⟨_, ⟨hturned, hfound, hearlier⟩, hchild⟩
  · rintro ((h | ⟨hturned, h⟩) |
      ⟨_, @⟨recipe, childPrefix, _, output, _, _, u, earlier, later, child, hturned, hfound,
        hearlier⟩, hchild⟩)
    · exact .inl h
    · obtain ⟨hchildren, hentered, hwalked⟩ := hturned
      have hfails := processChildren_eq_error.2 ⟨_, _, _, _, _, hchildren, hwalked, .inl h⟩
      exact .inr ⟨_, _, _, hentered, hfails⟩
    · obtain ⟨hchildren, hentered, hwalked⟩ := hturned
      have hplace : (Pass.process settings recipe child childPrefix (0 + earlier.length) u).1 =
          .error failure := by
        rwa [Nat.zero_add]
      have hmatches := addMatches_eq_error.2
        ⟨earlier, child, later, output, u, rfl, hearlier, hplace⟩
      have hfails := processChildren_eq_error.2
        ⟨_, _, _, _, _, hchildren, hwalked, .inr ⟨_, _, hfound, hmatches⟩⟩
      exact .inr ⟨_, _, _, hentered, hfails⟩

section Preserves

variable {R : Session σ → Session σ → Prop} (hrefl : ∀ s, R s s)
  (htrans : ∀ {s t u}, R s t → R t u → R s u)

include htrans

omit [LivePage σ] in
theorem bind_preserves {α β : Type} {x : Pass σ α} {f : α → Pass σ β} {s : Session σ}
    (hx : R s (x s).2) (hf : ∀ a t, x s = (.ok a, t) → R t (f a t).2) :
    R s ((x >>= f) s).2 := by
  rw [bind_apply]
  rcases hxs : x s with ⟨_ | a, t⟩ <;> rw [hxs] at hx
  · exact hx
  · exact htrans hx (hf a t hxs)

include hrefl

omit [LivePage σ] in
theorem addMatches_preserves {step : NodeId → Nat → Pass σ Outline} {every : Option Nat}
    {nodes : List NodeId} {index : Nat} {output : Outline} {s : Session σ}
    (h : ∀ earlier child later output' t, nodes = earlier ++ child :: later →
      addMatches step every earlier index output s = (.ok output', t) →
        R t (step child (index + earlier.length) t).2) :
    R s (addMatches step every nodes index output s).2 := by
  induction nodes generalizing index output s with
  | nil => exact hrefl s
  | cons node nodes ih =>
    refine bind_preserves (R := R) htrans (h [] node nodes output s rfl rfl) fun child t hstep ↦ ?_
    refine ih fun earlier next later output' u hnodes hwalked ↦ ?_
    have hplace := h (node :: earlier) next later output' u (by rw [hnodes, List.cons_append])
    rw [addMatches, bind_of_ok hstep] at hplace
    have hlater := hplace hwalked
    rwa [List.length_cons, Nat.add_comm earlier.length, ← Nat.add_assoc] at hlater

theorem processChildren_preserves {every : Option Nat} {node : NodeId} {childPrefix : String}
    {recipes : List Recipe} {output : Outline} {s : Session σ}
    (hfind : ∀ recipe s, R s (findMatches recipe node s).2)
    (h : ∀ before recipe after output' t found u, recipes = before ++ recipe :: after →
      processChildren settings every node childPrefix before output s = (.ok output', t) →
        findMatches recipe node t = (.ok found, u) →
          R u (addMatches (fun child i ↦ Pass.process settings recipe child childPrefix i) every
            found 0 output' u).2) :
    R s (processChildren settings every node childPrefix recipes output s).2 := by
  induction recipes generalizing output s with
  | nil =>
    rw [processChildren_nil]
    exact hrefl s
  | cons recipe recipes ih =>
    have hnil : processChildren settings every node childPrefix [] output s = (.ok output, s) :=
      congrFun (processChildren_nil ..) s
    rw [processChildren_cons]
    refine bind_preserves (R := R) htrans (hfind recipe s) fun found t hf ↦ ?_
    refine bind_preserves (R := R) htrans (h [] recipe recipes output s found t rfl hnil hf)
      fun output' u ha ↦ ?_
    refine ih fun before next after output'' v found' w hrecipes hwalked ↦ ?_
    refine h (recipe :: before) next after output'' v found' w
      (by rw [hrecipes, List.cons_append]) ?_
    rw [processChildren_cons, bind_of_ok hf, bind_of_ok ha, hwalked]

/-- What a walk does is what it does where it enters its stops and looks for matches there. -/
theorem process_preserves (hfind : ∀ recipe node s, R s (findMatches recipe node s).2) {v : Stop σ}
    (henter : ∀ w, Reaches settings v w → R w.session (w.enter settings).2) :
    R v.session (v.process settings).2 := by
  -- The next stop has a session and a node of its own. What gets smaller is the recipe.
  induction hsize : sizeOf v.recipe using Nat.strongRecOn generalizing v with
  | ind n ih =>
  have hnext (w : Stop σ) (hw : Next settings v w) : R w.session (w.process settings).2 :=
    ih _ (hsize ▸ Recipe.sizeOf_lt_of_mem_children hw.mem)
      (fun x hx ↦ henter x (.head hw hx)) rfl
  unfold Stop.process
  rw [process_eq]
  refine bind_preserves (R := R) htrans (henter v .refl) fun (head, childPrefix) s hentered ↦ ?_
  refine bind_preserves (R := R) htrans ?_ fun output t _ ↦ hrefl t
  refine processChildren_preserves hrefl htrans (fun recipe s ↦ hfind recipe v.node s) ?_
  intro before recipe after output t found u hrecipes hwalked hfound
  refine addMatches_preserves hrefl htrans ?_
  rintro earlier child later output' w rfl hearlier
  rw [Nat.zero_add]
  exact hnext _ ⟨⟨hrecipes, hentered, hwalked⟩, hfound, hearlier⟩

end Preserves

/-- A walk fails exactly where it comes to a stop at which it cannot go on. -/
theorem process_eq_error_iff_reaches {v : Stop σ} {failure : Failure} :
    (v.process settings).1 = .error failure ↔
      ∃ w, Reaches settings v w ∧ w.Breaks settings failure := by
  constructor
  · intro h
    -- The next stop has a session and a node of its own. What gets smaller is the recipe.
    induction hsize : sizeOf v.recipe using Nat.strongRecOn generalizing v with
    | ind n ih =>
      rcases process_eq_error.1 h with h | ⟨w, hnext, h⟩
      · exact ⟨v, .refl, h⟩
      · have hlt := Recipe.sizeOf_lt_of_mem_children hnext.mem
        obtain ⟨x, hreaches, hbreaks⟩ := ih _ (hsize ▸ hlt) h rfl
        exact ⟨x, .head hnext hreaches, hbreaks⟩
  · rintro ⟨w, hreaches, hbreaks⟩
    induction hreaches using Relation.ReflTransGen.head_induction_on with
    | refl => exact process_eq_error.2 (.inl hbreaks)
    | head hnext _ ih => exact process_eq_error.2 (.inr ⟨_, hnext, ih⟩)

end Stop

end Pass

namespace Catalog

open Pass

variable {σ : Type} [LivePage σ]

theorem selectAmong_eq_error {location : String} {entries : List CatalogEntry} {s : Session σ}
    {failure : Failure} (h : (onPage (selectAmong location entries) s).1 = .error failure) :
    failure = .noMatchingRecipe location := by
  have hpage : selectAmong location entries s.page =
      (.error failure, (selectAmong location entries s.page).2) := Prod.ext h rfl
  exact (selectAmong_eq_error_iff.1 hpage).2

theorem exists_entry_of_select {c : Catalog} {path : String} {page : σ} {recipe : Recipe}
    (h : (c.select path page).1 = .ok recipe) : ∃ entry ∈ c.entries, entry.recipe = recipe := by
  have hpage : c.select path page = (.ok recipe, (c.select path page).2) := Prod.ext h rfl
  obtain ⟨before, entry, later, -, hentries, -, -, hrecipe⟩ := selectAmong_eq_ok_iff.1 hpage
  refine ⟨entry, ?_, hrecipe⟩
  rw [hentries]
  exact List.mem_append_right before List.mem_cons_self

end Catalog

namespace Engine

open Pass LivePage

variable {σ : Type} [LivePage σ] {e : Engine} {page : σ} {path : String}

/-- Where a pass starts to walk. -/
inductive Starts (e : Engine) (page : σ) (path : String) : Stop σ → Prop
  | intro {recipe : Recipe} {root : NodeId} {found : Option NodeId} {s t u : Session σ}
      (selected : onPage (e.catalog.select path) ⟨page, e.registry⟩ = (.ok recipe, s))
      (rooted : onPage LivePage.root s = (.ok root, t))
      (matched : onPage (queryFirst root recipe.selector) t = (.ok found, u)) :
      Starts e page path ⟨u, recipe, found.getD root, "", 0⟩

/-- A pass comes to a stop. -/
def Visits (e : Engine) (page : σ) (path : String) (w : Stop σ) : Prop :=
  ∃ v, e.Starts page path v ∧ Stop.Reaches e.settings v w

theorem Starts.unique {v w : Stop σ} (hv : e.Starts page path v) (hw : e.Starts page path w) :
    v = w := by
  obtain ⟨hselected, hrooted, hmatched⟩ := hv
  obtain ⟨hselected', hrooted', hmatched'⟩ := hw
  cases hselected.symm.trans hselected'
  cases hrooted.symm.trans hrooted'
  cases hmatched.symm.trans hmatched'
  rfl

theorem visits_iff {v w : Stop σ} (h : e.Starts page path v) :
    e.Visits page path w ↔ Stop.Reaches e.settings v w := by
  refine ⟨?_, fun hw ↦ ⟨v, h, hw⟩⟩
  rintro ⟨v', hv', hw⟩
  rwa [h.unique hv']

theorem Starts.registry {v : Stop σ} (h : e.Starts page path v) :
    v.session.registry = e.registry := by
  obtain ⟨hselected, hrooted, hmatched⟩ := h
  have hregistry := (registry_of_onPage hmatched).trans (registry_of_onPage hrooted)
  exact hregistry.trans (registry_of_onPage hselected)

theorem Starts.selected {v : Stop σ} (h : e.Starts page path v) :
    (e.catalog.select path page).1 = .ok v.recipe := by
  obtain ⟨hselected, -, -⟩ := h
  exact congrArg Prod.fst hselected

theorem Starts.processPage {v : Stop σ} (h : e.Starts page path v) :
    e.processPage page path = ((v.process e.settings).1,
      { e with registry := (v.process e.settings).2.registry },
      (v.process e.settings).2.page) := by
  obtain @⟨recipe, root, found, _, _, u, hselected, hrooted, hmatched⟩ := h
  have hpass : pass e.catalog e.settings path ⟨page, e.registry⟩ =
      process e.settings recipe (found.getD root) "" 0 u := by
    rw [pass_eq, bind_of_ok hselected]
    unfold follow
    rw [bind_of_ok hrooted, bind_of_ok hmatched]
  unfold Engine.processPage
  rw [hpass]
  rfl

theorem exists_starts_of_ok {outline : Outline} (h : (e.processPage page path).1 = .ok outline) :
    ∃ v, e.Starts page path v := by
  unfold Engine.processPage at h
  rcases hpass : pass e.catalog e.settings path ⟨page, e.registry⟩ with ⟨failure | o, t⟩
  · rw [hpass] at h
    cases h
  · rw [pass_eq, bind_eq_ok] at hpass
    obtain ⟨recipe, s, hselected, hpass⟩ := hpass
    obtain ⟨root, u, hrooted, hpass⟩ := bind_eq_ok.1 hpass
    obtain ⟨found, v, hmatched, -⟩ := bind_eq_ok.1 hpass
    exact ⟨_, hselected, hrooted, hmatched⟩

end Engine

end PageOutline
