import PageOutline.Proofs.Answers
import PageOutline.Proofs.Quoting
import PageOutline.Proofs.Stages

namespace PageOutline

open LivePage
open Css (Selector)
open Text (asciiLower)

namespace Pass

section Ends

variable {σ α β : Type} {I : Session σ → Prop} {E : Failure → Prop} {P : α → Prop} {Q : β → Prop}

/-- An answer in `P`, or a failure in `E`. -/
def Ending (E : Failure → Prop) (P : α → Prop) : Except Failure α → Prop
  | .ok a => P a
  | .error failure => E failure

/-- From sessions in `I` a computation answers in `P` or fails in `E`, and stays in `I`. -/
def Ends (I : Session σ → Prop) (E : Failure → Prop) (P : α → Prop) (x : Pass σ α) : Prop :=
  ∀ s, I s → Ending E P (x s).1 ∧ I (x s).2

namespace Ends

theorem pure {a : α} (h : P a) : Ends I E P (Pure.pure a) := fun _ hs ↦ ⟨h, hs⟩

theorem throw {failure : Failure} (h : E failure) : Ends I E P (MonadExcept.throw failure) :=
  fun _ hs ↦ ⟨h, hs⟩

theorem bind {x : Pass σ α} {f : α → Pass σ β} (hx : Ends I E P x)
    (hf : ∀ a, P a → Ends I E Q (f a)) : Ends I E Q (x >>= f) := by
  intro s hs
  obtain ⟨hresult, ht⟩ := hx s hs
  rw [bind_apply]
  rcases hxs : x s with ⟨_ | a, t⟩
  · rw [hxs] at hresult ht
    exact ⟨hresult, ht⟩
  · rw [hxs] at hresult ht
    exact hf a hresult t ht

theorem mono {P' : α → Prop} {x : Pass σ α} (hx : Ends I E P x) (h : ∀ a, P a → P' a) :
    Ends I E P' x := by
  intro s hs
  obtain ⟨hresult, ht⟩ := hx s hs
  refine ⟨?_, ht⟩
  rcases hxs : (x s).1 with failure | a
  · rwa [hxs] at hresult
  · rw [hxs] at hresult
    exact h a hresult

theorem of_ok {x : Pass σ α} (hx : Ends I E P x) {s t : Session σ} {a : α} (hs : I s)
    (h : x s = (.ok a, t)) : P a ∧ I t := by
  have hend := hx s hs
  rw [h] at hend
  exact hend

theorem exists_ok {x : Pass σ α} (hx : Ends I (fun _ ↦ False) P x) {s : Session σ} (hs : I s) :
    ∃ a t, x s = (.ok a, t) ∧ P a ∧ I t := by
  obtain ⟨hresult, ht⟩ := hx s hs
  rcases hxs : x s with ⟨failure | a, t⟩
  · rw [hxs] at hresult
    exact hresult.elim
  · rw [hxs] at hresult ht
    exact ⟨a, t, rfl, hresult, ht⟩

end Ends

end Ends

section Document

variable {I : Session Document → Prop} {E : Failure → Prop}

theorem onPage_answer (q : Question) (s : Session Document) :
    onPage (answer q) s = (s.page.reply q, s) := rfl

theorem ask_ends (q : Question) (h : ∀ s, I s → s.page.Answers q) :
    Ends I E (fun a ↦ ∃ s, I s ∧ s.page.reply q = .ok a) (onPage (answer q)) := by
  intro s hs
  obtain ⟨a, ha⟩ := (Document.exists_reply_iff q).2 (h s hs)
  rw [onPage_answer, ha]
  exact ⟨⟨s, hs, ha⟩, hs⟩

theorem answerOr_ends {α : Type} (default : α) (i : Inquiry α) :
    Ends I E (fun _ ↦ True) (answerOr default i) := by
  intro s hs
  rw [answerOr_apply]
  exact ⟨trivial, hs⟩

theorem copyAttributes_ends {node : NodeId} (h : ∀ s, I s → (s.page.node? node).isSome)
    (names : List String) (output : Outline) :
    Ends I E (fun _ ↦ True) (copyAttributes node names output) := by
  induction names generalizing output with
  | nil => exact .pure trivial
  | cons name names ih => exact (ask_ends (.attr node name) h).bind fun kept _ ↦ ih _

theorem computeAttributes_ends (node : NodeId) (computers : List (String × AttributeFunction))
    (output : Outline) : Ends I E (fun _ ↦ True) (computeAttributes node computers output) := by
  induction computers generalizing output with
  | nil => exact .pure trivial
  | cons computer computers ih => exact (answerOr_ends none _).bind fun computed _ ↦ ih _

theorem composeAttributes_ends {node : NodeId} (h : ∀ s, I s → (s.page.node? node).isSome)
    (settings : Settings) (d : Directive) (output : Outline) :
    Ends I E (fun _ ↦ True) (composeAttributes settings d node output) :=
  (copyAttributes_ends h _ output).bind fun _ _ ↦ computeAttributes_ends node _ _

end Document

end Pass

structure Directive.Readable (d : Directive) : Prop where
  selector : Selector.Readable d.selector
  text : ∀ selector, d.text = .selector selector → Selector.Readable selector
  click : ∀ selector ∈ d.clickSelector, Selector.Readable selector

/-- The selectors for the parts of a dropdown can be read, whatever the ids of controls. -/
structure Settings.Readable (s : Settings) : Prop where
  label : Selector.Readable s.dropdownLabelSelector
  option : Css.IsWord s.dropdownOptionTag

theorem Settings.Readable.optionSelector {settings : Settings} (h : settings.Readable)
    (id : String) : Selector.Readable (Pass.optionSelector settings id) := by
  unfold Selector.Readable Pass.optionSelector
  rw [Css.parse?_prefixSelector h.option]
  rfl

namespace Pass

/-- Sessions with a document that differs from another one in tags only. -/
def Retags (d : Document) (settings : Settings) (s : Session Document) : Prop :=
  d.Tagged settings.tagNames s.page

variable {d : Document} {settings : Settings} {recipe : Recipe} {node : NodeId}
  {E : Failure → Prop}

theorem ask_retags (q : Question) (h : d.Answers q) :
    Ends (Retags d settings) E (fun a ↦ ∃ e, d.Tagged settings.tagNames e ∧ e.reply q = .ok a)
      (onPage (answer q)) :=
  (ask_ends q fun _ hs ↦ (hs.answers q).2 h).mono fun _ ⟨s, hs, ha⟩ ↦ ⟨s.page, hs, ha⟩

theorem root_retags (hd : d.Linked) :
    Ends (Retags d settings) E (fun root ↦ (d.node? root).isSome) (onPage root) := by
  refine (ask_retags .root trivial).mono ?_
  rintro root ⟨e, -, hreply⟩
  obtain rfl := Except.ok.inj hreply
  exact Document.node?_of_isElement hd.root

theorem query_retags {selector : String} {direct : Bool} (hs : Selector.Readable selector)
    (hnode : (d.node? node).isSome) :
    Ends (Retags d settings) E (fun found ↦ ∀ x ∈ found, d.isElement x)
      (onPage (query node selector direct)) := by
  refine (ask_retags (.query node selector direct) ⟨hs, hnode⟩).mono ?_
  rintro found ⟨e, he, hfound⟩ x hx
  rw [← he.isElement]
  exact Document.isElement_of_query hfound x hx

theorem queryFirst_retags {selector : String} (hs : Selector.Readable selector)
    (hnode : (d.node? node).isSome) :
    Ends (Retags d settings) E (fun found ↦ ∀ x ∈ found, d.isElement x)
      (onPage (queryFirst node selector)) := by
  unfold queryFirst
  rw [onPage_bind]
  exact (query_retags hs hnode).bind fun found hfound ↦
    .pure fun x hx ↦ hfound x (List.mem_of_mem_head? hx)

theorem mark_retags {name : String} (hname : asciiLower name ∈ settings.tagNames)
    (hnode : d.isElement node) (value : String) :
    Ends (Retags d settings) E (fun _ ↦ True) (onPage (setAttribute node name value)) := by
  intro s hs
  have htag : s.page.setAttribute node name value =
      .ok (s.page.insertAttribute node name value) :=
    Document.setAttribute_of_isElement ((hs.isElement node).trans hnode) name value
  simp only [onPage_apply, setAttribute, htag]
  exact ⟨trivial, hs.trans (s.page.tagged_insertAttribute hname node value)⟩

theorem register_retags (f : Registry → Registry) :
    Ends (Retags d settings) E (fun _ ↦ True) (register f) := fun _ hs ↦ ⟨trivial, hs⟩

theorem tagClickable_retags (name : String) (hnode : d.isElement node) :
    Ends (Retags d settings) E (fun _ ↦ True) (tagClickable settings recipe name node) :=
  (mark_retags (by simp [Settings.tagNames]) hnode name).bind fun _ _ ↦ register_retags _

theorem tagInput_retags (name : String) (hnode : d.isElement node) :
    Ends (Retags d settings) E (fun _ ↦ True) (tagInput settings recipe name node) :=
  (mark_retags (by simp [Settings.tagNames]) hnode name).bind fun _ _ ↦ register_retags _

theorem attachMetadata_retags (directive : Directive) (hnode : d.isElement node) :
    Ends (Retags d settings) E (fun _ ↦ True) (attachMetadata settings directive node) := by
  unfold attachMetadata
  cases directive.metadata with
  | none => exact .pure trivial
  | some f =>
    refine (answerOr_ends none (f node)).bind fun record _ ↦ ?_
    cases record with
    | none => exact .pure trivial
    | some record =>
      exact (mark_retags (by simp [Settings.tagNames]) hnode _).bind fun _ _ ↦
        mark_retags (by simp [Settings.tagNames]) hnode _

theorem resolveText_retags {directive : Directive} (hr : directive.Readable)
    (hnode : d.isElement node) :
    Ends (Retags d settings) E (fun _ ↦ True) (resolveText directive node) := by
  have hknown := Document.node?_of_isElement hnode
  unfold resolveText
  cases ht : directive.text with
  | none => exact .pure trivial
  | selector selector =>
    refine (queryFirst_retags (hr.text selector ht) hknown).bind fun target htarget ↦ ?_
    cases target with
    | none => exact .pure trivial
    | some target =>
      have helement : d.isElement target := htarget target rfl
      exact (ask_retags (.text target) (Document.node?_of_isElement helement)).bind
        fun _ _ ↦ .pure trivial
  | extractor f => exact (answerOr_ends "" (f node)).bind fun _ _ ↦ .pure trivial
  | own => exact (ask_retags (.text node) hknown).bind fun _ _ ↦ .pure trivial

theorem tagClickTarget_retags (hr : recipe.directive.Readable) (name : String)
    (hnode : d.isElement node) :
    Ends (Retags d settings) E (fun _ ↦ True) (tagClickTarget settings recipe name node) := by
  unfold tagClickTarget
  cases hc : recipe.directive.clickSelector with
  | none => exact tagClickable_retags name hnode
  | some selector =>
    have hknown := Document.node?_of_isElement hnode
    refine (queryFirst_retags (hr.click selector hc) hknown).bind fun target htarget ↦ ?_
    cases target with
    | none => exact .pure trivial
    | some target => exact tagClickable_retags name (htarget target rfl)

theorem describeInput_retags (name : Option String) (hnode : d.isElement node)
    (output : Outline) :
    Ends (Retags d settings) E (fun _ ↦ True)
      (describeInput settings recipe name node output) := by
  have hknown := Document.node?_of_isElement hnode
  refine (ask_retags (.attr node "type") hknown).bind fun type _ ↦ ?_
  dsimp only
  split
  · refine (ask_retags (.value node) hknown).bind fun value _ ↦ ?_
    cases name with
    | none => exact .pure trivial
    | some name => exact (tagInput_retags name hnode).bind fun _ _ ↦ .pure trivial
  · split
    · refine (ask_retags (.checked node) hknown).bind fun checked _ ↦ ?_
      cases name with
      | none => exact .pure trivial
      | some name => exact (tagClickable_retags name hnode).bind fun _ _ ↦ .pure trivial
    · split
      · exact (ask_retags (.checked node) hknown).bind fun checked _ ↦ .pure trivial
      · exact .pure trivial

theorem expandLabel_retags (hd : d.Linked) (hs : settings.Readable) (name : String)
    (hnode : d.isElement node) (output : Outline) :
    Ends (Retags d settings) E (fun _ ↦ True) (expandLabel settings recipe name node output) := by
  have hknown := Document.node?_of_isElement hnode
  unfold expandLabel
  refine (ask_retags (.parent node) hknown).bind fun parent hparent ↦ ?_
  cases parent with
  | none => exact .pure trivial
  | some parent =>
    obtain ⟨e, he, hreply⟩ := hparent
    have habove : (d.node? parent).isSome := by
      rw [← he.isSome_node?]
      exact (he.linked hd).node?_of_known hreply
    refine (queryFirst_retags hs.label habove).bind fun label hlabel ↦ ?_
    cases label with
    | none => exact .pure trivial
    | some label =>
      have helement : d.isElement label := hlabel label rfl
      refine (ask_retags (.tag label) helement).bind fun _ _ ↦ ?_
      refine (ask_retags (.text label) (Document.node?_of_isElement helement)).bind fun _ _ ↦ ?_
      exact (tagClickable_retags _ helement).bind fun _ _ ↦ .pure trivial

theorem expandOption_retags (name : String) (hnode : d.isElement node) (output : Outline) :
    Ends (Retags d settings) E (fun _ ↦ True) (expandOption settings recipe name node output) := by
  have hknown := Document.node?_of_isElement hnode
  refine (ask_retags (.text node) hknown).bind fun _ _ ↦ ?_
  refine (ask_retags (.attr node "value") hknown).bind fun _ _ ↦ ?_
  refine (ask_retags (.attr node "aria-selected") hknown).bind fun _ _ ↦ ?_
  exact (tagClickable_retags _ hnode).bind fun _ _ ↦ .pure trivial

theorem expandOptions_retags (name : String) (control : NodeId) {nodes : List NodeId}
    (hnodes : ∀ x ∈ nodes, d.isElement x) (output : Outline) :
    Ends (Retags d settings) E (fun _ ↦ True)
      (expandOptions settings recipe name control nodes output) := by
  induction nodes generalizing output with
  | nil => exact .pure trivial
  | cons node nodes ih =>
    rw [List.forall_mem_cons] at hnodes
    rw [expandOptions]
    split
    · exact ih hnodes.2 output
    · exact (expandOption_retags name hnodes.1 output).bind fun output _ ↦ ih hnodes.2 output

theorem expandDropdown_retags (hd : d.Linked) (hs : settings.Readable) (name : String)
    (hnode : d.isElement node) (output : Outline) :
    Ends (Retags d settings) E (fun _ ↦ True)
      (expandDropdown settings recipe name node output) := by
  have hknown := Document.node?_of_isElement hnode
  refine (mark_retags (by simp [Settings.tagNames]) hnode name).bind fun _ _ ↦ ?_
  refine (expandLabel_retags hd hs name hnode output).bind fun output _ ↦ ?_
  refine (ask_retags (.attr node "id") hknown).bind fun id _ ↦ ?_
  split
  · exact .pure trivial
  · next id _ =>
    rw [onPage_bind]
    refine Ends.bind ?_ fun options hoptions ↦ expandOptions_retags name node hoptions output
    exact (root_retags hd).bind fun root hroot ↦ query_retags (hs.optionSelector id) hroot

theorem describeControl_retags (hd : d.Linked) (hs : settings.Readable) (liveTag : String)
    (name : Option String) (hnode : d.isElement node) (output : Outline) :
    Ends (Retags d settings) E (fun _ ↦ True)
      (describeControl settings recipe liveTag name node output) := by
  unfold describeControl
  split
  · exact describeInput_retags name hnode output
  · split
    · cases name with
      | none => exact .pure trivial
      | some name => exact expandDropdown_retags hd hs name hnode output
    · exact .pure trivial

theorem findMatches_retags (hd : d.Linked) (hr : recipe.directive.Readable)
    (hnode : d.isElement node) :
    Ends (Retags d settings) E (fun found ↦ ∀ x ∈ found, d.isElement x)
      (findMatches recipe node) := by
  unfold findMatches
  split
  · exact (root_retags hd).bind fun root hroot ↦ query_retags hr.selector hroot
  · exact query_retags hr.selector (Document.node?_of_isElement hnode)

end Pass

end PageOutline
