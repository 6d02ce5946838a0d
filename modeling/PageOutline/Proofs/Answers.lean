import PageOutline.Proofs.Building
import PageOutline.Proofs.Frame

namespace PageOutline

namespace Css.Selector

def Readable (selector : String) : Prop := (parse? selector).isSome

instance (selector : String) : Decidable (Readable selector) :=
  inferInstanceAs (Decidable ((parse? selector).isSome = true))

end Css.Selector

open Css (Selector)

theorem NodeContent.Tagged.isElement {names : List String} {c c' : NodeContent}
    (h : c.Tagged names c') : c'.isElement = c.isElement := by
  cases h <;> rfl

namespace Document

variable {d e : Document} {names : List String}

theorem isElement_of_mem_elements (depth : Nat) (id : NodeId) :
    ∀ x ∈ (d.treeTo depth id).elements, d.isElement x := by
  induction depth generalizing id with
  | zero =>
    intro x hx
    cases hx
  | succ depth ih =>
    intro x hx
    unfold treeTo at hx
    split at hx
    · next tag attributes _ children _ hn =>
      rw [Tree.elements, Tree.elementsAll_eq_flatMap, List.mem_cons] at hx
      rcases hx with rfl | hx
      · rw [isElement_eq, hn]
        rfl
      · obtain ⟨t, ht, hx⟩ := List.mem_flatMap.1 hx
        obtain ⟨child, -, rfl⟩ := List.mem_map.1 ht
        exact ih child x hx
    · cases hx
    · cases hx

theorem isElement_of_mem_candidates {context x : NodeId} {direct : Bool}
    (h : x ∈ d.candidates context direct) : d.isElement x := by
  unfold candidates at h
  split at h
  · exact (List.mem_filter.1 h).2
  · obtain ⟨child, -, hx⟩ := List.mem_flatMap.1 h
    exact isElement_of_mem_elements d.size child x hx

def Answers (d : Document) : Question → Prop
  | .root | .viewport | .document => True
  | .query context selector _ => Selector.Readable selector ∧ (d.node? context).isSome
  | .tag id => d.isElement id
  | .text id | .attr id _ | .parent id | .box id | .value id | .checked id | .markup id =>
    (d.node? id).isSome

theorem exists_known_iff {α : Type} {id : NodeId} {f : NodeEntry → α} :
    (∃ a, d.known id f = .ok a) ↔ (d.node? id).isSome := by
  unfold known
  cases d.node? id <;> simp

theorem exists_reply_iff (q : Question) : (∃ a, d.reply q = .ok a) ↔ d.Answers q := by
  cases q with
  | root => exact ⟨fun _ ↦ trivial, fun _ ↦ ⟨_, rfl⟩⟩
  | viewport => exact ⟨fun _ ↦ trivial, fun _ ↦ ⟨_, rfl⟩⟩
  | document => exact ⟨fun _ ↦ trivial, fun _ ↦ ⟨_, rfl⟩⟩
  | query context selector direct =>
    simp only [reply, query, Answers, Selector.Readable]
    cases Selector.parse? selector with
    | none => simp
    | some parsed => cases d.node? context <;> simp
  | tag id =>
    simp only [reply, Answers, isElement, tag?]
    rcases d.node? id with _ | ⟨_ | _, _, _, _⟩ <;> simp
  | checked id =>
    have hknown : (∃ a, d.attributeOf id "checked" = .ok a) ↔ (d.node? id).isSome :=
      exists_known_iff
    rw [Answers, ← hknown, reply]
    cases d.attributeOf id "checked" <;> simp
  | text id => exact exists_known_iff
  | attr id name => exact exists_known_iff
  | parent id => exact exists_known_iff
  | box id => exact exists_known_iff
  | value id => exact exists_known_iff
  | markup id => exact exists_known_iff

theorem query_of_parse {selector : String} {parsed : Selector} {context : NodeId}
    (hparsed : Selector.parse? selector = some parsed) (hcontext : (d.node? context).isSome)
    (direct : Bool) :
    d.query context selector direct =
      .ok ((d.candidates context direct).filter (d.isMatch parsed context)) := by
  obtain ⟨n, hn⟩ := Option.isSome_iff_exists.1 hcontext
  rw [query, hparsed, hn]

theorem isMatch_single (c : Css.Complex) (context id : NodeId) :
    d.isMatch ⟨[c]⟩ context id = c.matches d.view context id id :=
  Bool.or_false _

theorem mem_candidates_of_query {context : NodeId} {selector : String} {direct : Bool}
    {found : List NodeId} (h : d.query context selector direct = .ok found) :
    ∀ x ∈ found, x ∈ d.candidates context direct := by
  unfold query at h
  split at h
  · cases h
  · split at h
    · cases h
    · obtain rfl := Except.ok.inj h
      exact fun x hx ↦ (List.mem_filter.1 hx).1

theorem isElement_of_query {context : NodeId} {selector : String} {direct : Bool}
    {found : List NodeId} (h : d.query context selector direct = .ok found) :
    ∀ x ∈ found, d.isElement x :=
  fun x hx ↦ isElement_of_mem_candidates (mem_candidates_of_query h x hx)

theorem Linked.node?_of_known (hd : d.Linked) {id above : NodeId}
    (h : d.known id NodeEntry.parent = .ok (some above)) : (d.node? above).isSome := by
  refine hd.parent id above ?_
  unfold known at h
  unfold parent?
  split at h
  · next n hn =>
    rw [hn]
    exact Except.ok.inj h
  · cases h

theorem setAttribute_of_isElement {node : NodeId} (h : d.isElement node) (name value : String) :
    d.setAttribute node name value = .ok (d.insertAttribute node name value) := by
  rw [isElement_eq] at h
  unfold setAttribute
  rcases hn : d.node? node with _ | ⟨⟨tag, attributes⟩ | s, _, _, _⟩
  · rw [hn] at h
    cases h
  · rfl
  · rw [hn] at h
    cases h

namespace Tagged

variable (h : d.Tagged names e)

include h

theorem isSome_node? (id : NodeId) : (e.node? id).isSome = (d.node? id).isSome := by
  rw [Bool.eq_iff_iff, Document.isSome_node?, Document.isSome_node?, h.size]

theorem node?_eq_none {id : NodeId} (hm : d.node? id = none) : e.node? id = none := by
  have hsome := h.isSome_node? id
  rwa [hm, Option.isSome_none, Option.isSome_eq_false_iff, Option.isNone_iff_eq_none] at hsome

theorem isElement (id : NodeId) : e.isElement id = d.isElement id := by
  rw [isElement_eq, isElement_eq]
  rcases hm : d.node? id with _ | m
  · rw [h.node?_eq_none hm]
  · obtain ⟨n, hn, hcontent, -, -, -⟩ := h.node id m hm
    rw [hn, Option.any_some, Option.any_some]
    exact hcontent.isElement

theorem parent? (id : NodeId) : e.parent? id = d.parent? id := by
  unfold Document.parent?
  rcases hm : d.node? id with _ | m
  · rw [h.node?_eq_none hm]
  · obtain ⟨n, hn, -, hparent, -, -⟩ := h.node id m hm
    rw [hn]
    exact hparent

theorem linked (hd : d.Linked) : e.Linked := hd.of_same h.isSome_node? h.isElement h.parent?

theorem answers (q : Question) : e.Answers q ↔ d.Answers q := by
  cases q <;> simp only [Answers, h.isSome_node?, h.isElement]

end Tagged

end Document

end PageOutline
