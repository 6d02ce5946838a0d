import PageOutline.Proofs.Overlay
import PageOutline.Proofs.Stages

namespace PageOutline

/-- One call that enters a name in the registry. -/
inductive Registration where
  | clickable (name : String) (recipe : Recipe)
  | input (name : String) (recipe : Recipe)

namespace Registration

def clickable? : Registration → Option (String × Recipe)
  | clickable name recipe => some (name, recipe)
  | input _ _ => none

def input? : Registration → Option (String × Recipe)
  | clickable _ _ => none
  | input name recipe => some (name, recipe)

end Registration

/-- The recipe that comes last for a name. -/
def lastRecipe? (calls : List (String × Recipe)) (name : String) : Option Recipe :=
  (calls.findRev? (·.1 == name)).map Prod.snd

namespace Registry

def record (r : Registry) : Registration → Registry
  | .clickable name recipe => r.addClickable name recipe
  | .input name recipe => r.addInput name recipe

/-- What a log of registrations makes of a registry: names stand in the order in which they first
came, and each has the recipe of its last registration. -/
structure Extends (final r : Registry) (log : List Registration) : Prop where
  clickableNames : final.clickables.keys =
    (r.clickables.keys ++ (log.filterMap (·.clickable?)).map Prod.fst).eraseDups
  inputNames : final.inputs.keys =
    (r.inputs.keys ++ (log.filterMap (·.input?)).map Prod.fst).eraseDups
  clickable : ∀ name, final.clickables.get? name =
    (lastRecipe? (log.filterMap (·.clickable?)) name).or (r.clickables.get? name)
  input : ∀ name, final.inputs.get? name =
    (lastRecipe? (log.filterMap (·.input?)) name).or (r.inputs.get? name)

theorem clickables_foldl_record (r : Registry) (log : List Registration) :
    (log.foldl record r).clickables =
      (log.filterMap (·.clickable?)).foldl (fun m e ↦ m.insert e.1 e.2) r.clickables := by
  induction log generalizing r with
  | nil => rfl
  | cons call log ih => cases call <;> exact ih _

theorem inputs_foldl_record (r : Registry) (log : List Registration) :
    (log.foldl record r).inputs =
      (log.filterMap (·.input?)).foldl (fun m e ↦ m.insert e.1 e.2) r.inputs := by
  induction log generalizing r with
  | nil => rfl
  | cons call log ih => cases call <;> exact ih _

theorem extends_foldl_record (r : Registry) (log : List Registration) :
    (log.foldl record r).Extends r log where
  clickableNames := by rw [clickables_foldl_record, OrderedMap.keys_foldl_insert]
  inputNames := by rw [inputs_foldl_record, OrderedMap.keys_foldl_insert]
  clickable name := by rw [clickables_foldl_record, OrderedMap.get?_foldl_insert, lastRecipe?]
  input name := by rw [inputs_foldl_record, OrderedMap.get?_foldl_insert, lastRecipe?]

theorem Extends.eraseDups_clickable {final : Registry} {log : List Registration}
    (h : final.Extends ∅ log) :
    ((log.filterMap (·.clickable?)).map Prod.fst).eraseDups = final.clickables.keys :=
  h.clickableNames.symm

theorem Extends.lastRecipe?_clickable {final : Registry} {log : List Registration}
    (h : final.Extends ∅ log) (name : String) :
    lastRecipe? (log.filterMap (·.clickable?)) name = final.clickables.get? name := by
  have hempty : (∅ : Registry).clickables.get? name = none := rfl
  rw [h.clickable, hempty, Option.or_none]

end Registry

namespace Pass

open LivePage

variable {σ α β : Type}

/-- A run of a computation from a page, step by step: the registrations that it calls for, in order,
its result, and the page that it leaves. The registry has no part in it. -/
inductive Runs {σ : Type} :
    {α : Type} → Pass σ α → σ → List Registration → Except Failure α → σ → Prop
  | onPage {α : Type} (x : Access σ α) (page : σ) : Runs (onPage x) page [] (x page).1 (x page).2
  | register (call : Registration) (page : σ) :
    Runs (register (·.record call)) page [call] (.ok ()) page
  | bindOk {α β : Type} {x : Pass σ α} {f : α → Pass σ β} {page next final : σ}
    {log later : List Registration} {a : α} {result : Except Failure β}
    (first : Runs x page log (.ok a) next) (rest : Runs (f a) next later result final) :
    Runs (x >>= f) page (log ++ later) result final
  | bindError {α β : Type} {x : Pass σ α} {f : α → Pass σ β} {page next : σ}
    {log : List Registration} {failure : Failure}
    (first : Runs x page log (.error failure) next) :
    Runs (x >>= f) page log (.error failure) next

/-- Where a step tags a node, the name is registered if the page takes the tag. -/
theorem Runs.tag (x : Access σ Unit) (call : Registration) (page : σ) :
    Runs (Pass.onPage x >>= fun _ ↦ Pass.register (·.record call)) page
      (if (x page).1.isOk then [call] else []) (x page).1 (x page).2 := by
  have hfirst := Runs.onPage x page
  cases hx : (x page).1 with
  | error failure =>
    rw [hx] at hfirst
    exact .bindError hfirst
  | ok _ =>
    rw [hx] at hfirst
    exact .bindOk hfirst (.register call _)

/-- Whatever the registry holds at first, a run leaves it with its log recorded. -/
theorem Runs.apply {x : Pass σ α} {page next : σ} {log : List Registration}
    {result : Except Failure α} (h : Runs x page log result next) (r : Registry) :
    x ⟨page, r⟩ = (result, ⟨next, log.foldl Registry.record r⟩) := by
  induction h generalizing r with
  | onPage x page => rfl
  | register call page => rfl
  | bindOk _ _ ihFirst ihRest => rw [bind_of_ok (ihFirst r), ihRest, List.foldl_append]
  | bindError _ ih => rw [bind_apply, ih]

/-- From every page there is a run. -/
def Recorded (x : Pass σ α) : Prop := ∀ page, ∃ log result next, Runs x page log result next

namespace Recorded

theorem onPage (x : Access σ α) : Recorded (onPage x) := fun page ↦ ⟨_, _, _, .onPage x page⟩

theorem tag (x : Access σ Unit) (call : Registration) :
    Recorded (Pass.onPage x >>= fun _ ↦ register (·.record call)) :=
  fun page ↦ ⟨_, _, _, .tag x call page⟩

theorem pure (a : α) : Recorded (Pure.pure a : Pass σ α) := onPage (Pure.pure a)

theorem throw (failure : Failure) : Recorded (MonadExcept.throw failure : Pass σ α) :=
  onPage (MonadExcept.throw failure)

theorem bind {x : Pass σ α} {f : α → Pass σ β} (hx : Recorded x) (hf : ∀ a, Recorded (f a)) :
    Recorded (x >>= f) := by
  intro page
  obtain ⟨log, result, next, hrun⟩ := hx page
  cases result with
  | error failure => exact ⟨_, _, _, .bindError hrun⟩
  | ok a =>
    obtain ⟨later, result, final, hrest⟩ := hf a next
    exact ⟨_, _, _, .bindOk hrun hrest⟩

theorem pure_bind (a : α) {f : α → Pass σ β} (h : Recorded (f a)) :
    Recorded (Pure.pure a >>= f) := h

end Recorded

section Stages

variable [LivePage σ] (settings : Settings) (recipe : Recipe) (node : NodeId) (output : Outline)

theorem recorded_answerOr (default : α) (i : Inquiry α) :
    Recorded (answerOr (σ := σ) default i) := by
  refine (Recorded.onPage _).bind fun result ↦ ?_
  cases result with
  | error _ => exact .pure default
  | ok a => exact .pure a

theorem recorded_resolveText (d : Directive) : Recorded (resolveText (σ := σ) d node) := by
  unfold resolveText
  cases d.text with
  | none => exact .pure _
  | selector selector =>
    refine (Recorded.onPage _).bind fun target ↦ ?_
    cases target with
    | none => exact .pure _
    | some target => exact (Recorded.onPage _).bind fun _ ↦ .pure _
  | extractor f => exact (recorded_answerOr "" _).bind fun _ ↦ .pure _
  | own => exact (Recorded.onPage _).bind fun _ ↦ .pure _

theorem recorded_attachMetadata (d : Directive) :
    Recorded (attachMetadata (σ := σ) settings d node) := by
  unfold attachMetadata
  cases d.metadata with
  | none => exact .pure ()
  | some f =>
    refine (recorded_answerOr none _).bind fun record ↦ ?_
    cases record with
    | none => exact .pure ()
    | some record => exact (Recorded.onPage _).bind fun _ ↦ .onPage _

theorem recorded_tagClickable (name : String) :
    Recorded (tagClickable (σ := σ) settings recipe name node) :=
  .tag _ (.clickable name recipe)

theorem recorded_tagInput (name : String) :
    Recorded (tagInput (σ := σ) settings recipe name node) :=
  .tag _ (.input name recipe)

theorem recorded_tagIfClickable (name : Option String) :
    Recorded (tagIfClickable (σ := σ) settings recipe name node) := by
  unfold tagIfClickable tagClickTarget
  cases recipe.directive.clickable with
  | false => exact .pure ()
  | true =>
    cases name with
    | none => exact .throw _
    | some name =>
      cases recipe.directive.clickSelector with
      | none => exact recorded_tagClickable settings recipe node name
      | some selector =>
        refine (Recorded.onPage _).bind fun target ↦ ?_
        cases target with
        | none => exact .pure ()
        | some target => exact recorded_tagClickable settings recipe target name

theorem recorded_copyAttributes (names : List String) :
    Recorded (copyAttributes (σ := σ) node names output) := by
  induction names generalizing output with
  | nil => exact .pure output
  | cons name names ih => exact (Recorded.onPage _).bind fun _ ↦ ih _

theorem recorded_computeAttributes (computers : List (String × AttributeFunction)) :
    Recorded (computeAttributes (σ := σ) node computers output) := by
  induction computers generalizing output with
  | nil => exact .pure output
  | cons p computers ih => exact (recorded_answerOr none _).bind fun _ ↦ ih _

theorem recorded_composeAttributes (d : Directive) :
    Recorded (composeAttributes (σ := σ) settings d node output) :=
  (recorded_copyAttributes node output _).bind fun _ ↦ recorded_computeAttributes node _ _

theorem recorded_describeInput (name : Option String) :
    Recorded (describeInput (σ := σ) settings recipe name node output) := by
  refine (Recorded.onPage _).bind fun type ↦ ?_
  dsimp only
  split
  · refine (Recorded.onPage _).bind fun value ↦ ?_
    cases name with
    | none => exact .pure _
    | some name => exact (recorded_tagInput settings recipe node name).bind fun _ ↦ .pure _
  · split
    · refine (Recorded.onPage _).bind fun checked ↦ ?_
      cases name with
      | none => exact .pure _
      | some name => exact (recorded_tagClickable settings recipe node name).bind fun _ ↦ .pure _
    · split
      · exact (Recorded.onPage _).bind fun _ ↦ .pure _
      · exact .pure output

theorem recorded_expandLabel (name : String) :
    Recorded (expandLabel (σ := σ) settings recipe name node output) := by
  unfold expandLabel
  refine (Recorded.onPage _).bind fun parent ↦ ?_
  cases parent with
  | none => exact .pure output
  | some parent =>
    refine (Recorded.onPage _).bind fun label ↦ ?_
    cases label with
    | none => exact .pure output
    | some label =>
      refine (Recorded.onPage _).bind fun _ ↦ (Recorded.onPage _).bind fun _ ↦ ?_
      exact (recorded_tagClickable settings recipe label _).bind fun _ ↦ .pure _

theorem recorded_expandOption (name : String) :
    Recorded (expandOption (σ := σ) settings recipe name node output) := by
  refine (Recorded.onPage _).bind fun _ ↦ (Recorded.onPage _).bind fun _ ↦ ?_
  refine (Recorded.onPage _).bind fun _ ↦ ?_
  exact (recorded_tagClickable settings recipe node _).bind fun _ ↦ .pure _

theorem recorded_expandOptions (name : String) (control : NodeId) (nodes : List NodeId) :
    Recorded (expandOptions (σ := σ) settings recipe name control nodes output) := by
  induction nodes generalizing output with
  | nil => exact .pure output
  | cons node nodes ih =>
    unfold expandOptions
    split
    · exact ih output
    · exact (recorded_expandOption settings recipe node output name).bind fun _ ↦ ih _

theorem recorded_expandDropdown (name : String) :
    Recorded (expandDropdown (σ := σ) settings recipe name node output) := by
  refine (Recorded.onPage _).bind fun _ ↦ ?_
  refine (recorded_expandLabel settings recipe node output name).bind fun output ↦ ?_
  refine (Recorded.onPage _).bind fun found ↦ ?_
  cases found.filter fun id ↦ !id.isEmpty with
  | none => exact .pure output
  | some id =>
    exact (Recorded.onPage _).bind fun options ↦
      recorded_expandOptions settings recipe output name node options

theorem recorded_describeControl (liveTag : String) (name : Option String) :
    Recorded (describeControl (σ := σ) settings recipe liveTag name node output) := by
  unfold describeControl
  split
  · exact recorded_describeInput settings recipe node output name
  · split
    · cases name with
      | none => exact .pure output
      | some name => exact recorded_expandDropdown settings recipe node output name
    · exact .pure output

theorem recorded_enter (parent : String) (index : Nat) :
    Recorded (enter (σ := σ) settings recipe node parent index) := by
  rw [enter_eq]
  refine (Recorded.onPage _).bind fun liveTag ↦ ?_
  refine (recorded_resolveText node _).bind fun text ↦ ?_
  refine (recorded_attachMetadata settings node _).bind fun _ ↦ ?_
  refine (recorded_tagIfClickable settings recipe node _).bind fun _ ↦ ?_
  refine (recorded_composeAttributes settings node _ _).bind fun output ↦ ?_
  exact (recorded_describeControl settings recipe node output liveTag _).bind fun _ ↦ .pure _

theorem recorded_findMatches : Recorded (findMatches (σ := σ) recipe node) := by
  unfold findMatches
  cases recipe.directive.queryFromRoot with
  | false => exact .onPage _
  | true => exact (Recorded.onPage _).bind fun _ ↦ .onPage _

omit [LivePage σ] in
theorem recorded_addMatches {step : NodeId → Nat → Pass σ Outline}
    (hstep : ∀ node index, Recorded (step node index)) (every : Option Nat) (nodes : List NodeId)
    (index : Nat) : Recorded (addMatches step every nodes index output) := by
  induction nodes generalizing index output with
  | nil => exact .pure output
  | cons node nodes ih => exact (hstep node index).bind fun _ ↦ ih _ _

end Stages

variable [LivePage σ]

mutual

theorem recorded_process (settings : Settings) (recipe : Recipe) (node : NodeId) (parent : String)
    (index : Nat) : Recorded (process (σ := σ) settings recipe node parent index) := by
  match recipe with
  | .node d children =>
    unfold process
    refine (recorded_enter settings _ node parent index).bind fun (output, childPrefix) ↦ ?_
    exact (recorded_processChildren settings d.separatorEvery node childPrefix children output).bind
      fun _ ↦ .pure _

theorem recorded_processChildren (settings : Settings) (every : Option Nat) (node : NodeId)
    (childPrefix : String) (recipes : List Recipe) (output : Outline) :
    Recorded (processChildren (σ := σ) settings every node childPrefix recipes output) := by
  match recipes with
  | [] =>
    rw [processChildren_nil]
    exact .pure output
  | recipe :: recipes =>
    rw [processChildren_cons]
    refine (recorded_findMatches recipe node).bind fun found ↦ ?_
    have hmatches := recorded_addMatches output
      (fun child index ↦ recorded_process settings recipe child childPrefix index) every found 0
    exact hmatches.bind fun output ↦
      recorded_processChildren settings every node childPrefix recipes output

end

end Pass

namespace Engine

open Pass

variable {σ : Type} [LivePage σ]

theorem recorded_pass (catalog : Catalog) (settings : Settings) (path : String) :
    Recorded (pass (σ := σ) catalog settings path) := by
  rw [pass_eq]
  refine (Recorded.onPage _).bind fun recipe ↦ ?_
  refine (Recorded.onPage _).bind fun root ↦ (Recorded.onPage _).bind fun start ↦ ?_
  exact recorded_process settings recipe _ "" 0

end Engine

end PageOutline
