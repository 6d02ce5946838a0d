import PageOutline.Page.Guarded
import PageOutline.Proofs.Lockstep

namespace PageOutline

def Settings.tagNames (s : Settings) : List String :=
  [s.clickableAttribute, s.inputAttribute, s.selectAttribute, s.metaNameAttribute,
    s.metaDataAttribute].map Text.asciiLower

/-- A page over a document. It may answer as it likes and refuse any tag. -/
class HeldPage (σ : Type) extends LivePage σ where
  document : σ → Document
  document_answer : ∀ (q : Question) (page : σ), document (answer q page).2 = document page
  document_setAttribute : ∀ (node : NodeId) (name value : String) (page : σ),
    document (setAttribute node name value page).2 = document page ∨
      (setAttribute node name value page).1 = .ok () ∧
        document (setAttribute node name value page).2 =
          (document page).insertAttribute node name value

theorem Document.setAttribute_ok {d e : Document} {node : NodeId} {name value : String}
    (h : d.setAttribute node name value = .ok e) : e = d.insertAttribute node name value := by
  unfold setAttribute at h
  split at h
  · cases h
  · cases h
  · exact (Except.ok.inj h).symm

instance : HeldPage Document where
  document d := d
  document_answer _ _ := rfl
  document_setAttribute node name value d := by
    simp only [LivePage.setAttribute]
    cases h : d.setAttribute node name value with
    | error failure => exact .inl rfl
    | ok e => exact .inr ⟨rfl, Document.setAttribute_ok h⟩

theorem Inquiry.run_document {α : Type} (i : Inquiry α) (d : Document) : (i.run d).2 = d := by
  induction i with
  | done a => rfl
  | fail failure => rfl
  | ask q next ih =>
    rw [run_ask]
    exact ih _

theorem Pass.answerOr_apply {α : Type} (default : α) (i : Inquiry α) (s : Session Document) :
    answerOr default i s = (.ok ((i.run s.page).1.toOption.getD default), s) := by
  rw [answerOr_eq, Inquiry.run_document]

instance : HeldPage Guarded where
  document g := g.document
  document_answer _ _ := rfl
  document_setAttribute node name value g := by
    simp only [LivePage.setAttribute]
    cases h : g.setAttribute node name value with
    | error failure => exact .inl rfl
    | ok g' =>
      refine .inr ⟨rfl, ?_⟩
      unfold Guarded.setAttribute at h
      split at h
      · cases h
      · cases hd : g.document.setAttribute node name value with
        | error failure =>
          rw [hd] at h
          cases h
        | ok d =>
          rw [hd] at h
          cases h
          exact Document.setAttribute_ok hd

namespace Pass

open LivePage HeldPage

variable {σ : Type} [HeldPage σ] {I : Document → Registry → Prop}

def Kept (I : Document → Registry → Prop) (s t : Session σ) : Prop :=
  s = t ∧ I (document s.page) s.registry

theorem kept_of_invariant {α : Type} {x : Pass σ α}
    (h : ∀ s, I (document s.page) s.registry → I (document (x s).2.page) (x s).2.registry) :
    Parallel (Kept I) x x := by
  rintro s _ ⟨rfl, hs⟩
  exact ⟨rfl, rfl, h s hs⟩

theorem ask_kept (q : Question) :
    Parallel (Kept (σ := σ) I) (onPage (answer q)) (onPage (answer q)) :=
  kept_of_invariant fun s hs ↦ by rwa [onPage_apply, document_answer]

theorem mark_kept {node : NodeId} {name value : String}
    (h : ∀ d r, I d r → I (d.insertAttribute node name value) r) :
    Parallel (Kept (σ := σ) I) (onPage (setAttribute node name value))
      (onPage (setAttribute node name value)) :=
  kept_of_invariant fun s hs ↦ by
    rw [onPage_apply]
    rcases document_setAttribute node name value s.page with hd | ⟨-, hd⟩
    · rwa [hd]
    · rw [hd]
      exact h _ _ hs

theorem tag_kept {node : NodeId} {name value : String} {f : Registry → Registry}
    (hentry : ∀ d r, I d r → I d (f r))
    (htag : ∀ d r, I d (f r) → I (d.insertAttribute node name value) (f r)) :
    Parallel (Kept (σ := σ) I) (onPage (setAttribute node name value) >>= fun _ ↦ register f)
      (onPage (setAttribute node name value) >>= fun _ ↦ register f) :=
  kept_of_invariant fun s hs ↦ by
    rw [bind_apply, onPage_apply]
    rcases document_setAttribute node name value s.page with hd | ⟨hr, hd⟩
    · cases (setAttribute node name value s.page).1 with
      | error failure => simpa only [hd] using hs
      | ok _ =>
        change I (document (setAttribute node name value s.page).2) (f s.registry)
        rw [hd]
        exact hentry _ _ hs
    · rw [hr]
      change I (document (setAttribute node name value s.page).2) (f s.registry)
      rw [hd]
      exact htag _ _ (hentry _ _ hs)

/-- A property of the document and the registry that the tags of a recipe keep. A tag of an
interactive element is set after its entry here, as the entry is what the tag is to resolve to. -/
structure KeptByTags (I : Document → Registry → Prop) (settings : Settings) (recipe : Recipe) :
    Prop where
  click : ∀ d (r : Registry) name, name ≠ "" → I d r → I d (r.addClickable name recipe)
  clickTag : ∀ (d : Document) (r : Registry) node name, I d (r.addClickable name recipe) →
    I (d.insertAttribute node settings.clickableAttribute name) (r.addClickable name recipe)
  input : ∀ d (r : Registry) name, name ≠ "" → I d r → I d (r.addInput name recipe)
  inputTag : ∀ (d : Document) (r : Registry) node name, I d (r.addInput name recipe) →
    I (d.insertAttribute node settings.inputAttribute name) (r.addInput name recipe)
  mark : ∀ name ∈ [settings.selectAttribute, settings.metaNameAttribute,
    settings.metaDataAttribute], ∀ (d : Document) r node value,
      I d r → I (d.insertAttribute node name value) r

theorem KeptByTags.respects {settings : Settings} {recipe : Recipe}
    (h : KeptByTags I settings recipe) :
    Respects (Kept (σ := σ) I) settings (fun _ ↦ True) recipe where
  asks q _ := ask_kept q
  ids _ _ _ _ _ _ := trivial
  text f _ node := .answerOr "" (.inquiry ask_kept (f node))
  metadata f _ node := .answerOr none (.inquiry ask_kept (f node))
  computers p _ node := .answerOr none (.inquiry ask_kept (p.2 node))
  click name node hn :=
    tag_kept (fun d r ↦ h.click d r name hn) (fun d r ↦ h.clickTag d r node name)
  input name node hn :=
    tag_kept (fun d r ↦ h.input d r name hn) (fun d r ↦ h.inputTag d r node name)
  mark name hname node value := mark_kept fun d r ↦ h.mark name hname d r node value

end Pass

namespace Engine

open HeldPage

variable {σ : Type} [HeldPage σ] {I : Document → Registry → Prop}

/-- A property that tags keep holds after a pass where it held before, however the pass ends. -/
theorem processPage_kept (e : Engine) (h : ∀ recipe, Pass.KeptByTags I e.settings recipe)
    (page : σ) (path : String) (hI : I (document page) e.registry) :
    I (document (e.processPage page path).2.2) (e.processPage page path).2.1.registry :=
  (pass_parallel (S := Pass.Kept I) (fun _ _ q _ ↦ Pass.ask_kept q)
    (fun _ _ r _ ↦ (h r).respects) path _ _ ⟨rfl, hI⟩).2.2

end Engine

end PageOutline
