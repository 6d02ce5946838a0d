import PageOutline.Proofs.Arena
import Mathlib.Data.List.Flatten

namespace PageOutline.Document

open Relation (ReflTransGen TransGen)

variable {d e : Document}

/-- The second node is an element and a child of the first. -/
def HasChild (d : Document) (p c : NodeId) : Prop := c ∈ d.childIds p ∧ d.isElement c

theorem Tagged.childIds {names : List String} (h : d.Tagged names e) (id : NodeId) :
    e.childIds id = d.childIds id := by
  unfold Document.childIds
  cases hm : d.node? id with
  | none => rw [h.node?_eq_none hm]
  | some m =>
    obtain ⟨n, hn, hmn⟩ := h.node id m hm
    rw [hn]
    exact hmn.children

theorem Tagged.hasChild {names : List String} (h : d.Tagged names e) :
    e.HasChild = d.HasChild := by
  funext p c
  rw [HasChild, HasChild, h.childIds, h.isElement]

theorem elements_treeTo_of_isElement {id : NodeId} (h : d.isElement id) (depth : Nat) :
    (d.treeTo (depth + 1) id).elements =
      id :: (d.childIds id).flatMap fun c ↦ (d.treeTo depth c).elements := by
  rw [isElement_eq] at h
  unfold childIds
  rw [treeTo]
  rcases hn : d.node? id with _ | ⟨⟨tag, attributes⟩ | s, parent, children, box⟩
  · rw [hn] at h
    cases h
  · rw [Tree.elements, Tree.elementsAll_eq_flatMap, List.flatMap_map]
  · rw [hn] at h
    cases h

theorem elements_treeTo_of_not_isElement {id : NodeId} (h : ¬d.isElement id) (depth : Nat) :
    (d.treeTo depth id).elements = [] := by
  rw [isElement_eq] at h
  cases depth with
  | zero => rfl
  | succ depth =>
    rw [treeTo]
    rcases hn : d.node? id with _ | ⟨⟨tag, attributes⟩ | s, parent, children, box⟩
    · rfl
    · rw [hn] at h
      exact absurd rfl h
    · rfl

theorem isElement_above_of_mem_elements {depth id x : Nat} (h : x ∈ (d.treeTo depth id).elements) :
    d.isElement id := by
  by_contra hnot
  rw [elements_treeTo_of_not_isElement hnot] at h
  cases h

theorem reaches_of_mem_elements {depth id x : Nat} (h : x ∈ (d.treeTo depth id).elements) :
    ReflTransGen d.HasChild id x := by
  induction depth generalizing id with
  | zero => cases h
  | succ depth ih =>
    rw [elements_treeTo_of_isElement (isElement_above_of_mem_elements h), List.mem_cons] at h
    rcases h with rfl | h
    · exact .refl
    · obtain ⟨child, hchild, hx⟩ := List.mem_flatMap.1 h
      exact .head ⟨hchild, isElement_above_of_mem_elements hx⟩ (ih hx)

theorem reaches_of_mem_candidates {context x : Nat} {direct : Bool}
    (h : x ∈ d.candidates context direct) : ReflTransGen d.HasChild context x := by
  unfold candidates at h
  split at h
  · obtain ⟨hchild, helement⟩ := List.mem_filter.1 h
    exact .single ⟨hchild, helement⟩
  · obtain ⟨child, hchild, hx⟩ := List.mem_flatMap.1 h
    exact .head ⟨hchild, isElement_above_of_mem_elements hx⟩ (reaches_of_mem_elements hx)

theorem elements_treeTo_sublist (depth id : Nat) :
    (d.treeTo depth id).elements.Sublist (d.visitsTo depth id) := by
  induction depth generalizing id with
  | zero => exact List.Sublist.refl _
  | succ depth ih =>
    by_cases helement : d.isElement id
    · rw [elements_treeTo_of_isElement helement, visitsTo]
      exact (List.Sublist.flatMap_right _ fun c _ ↦ ih c).cons_cons id
    · rw [elements_treeTo_of_not_isElement helement]
      exact List.nil_sublist _

namespace Arboreal

variable (h : d.Arboreal)

include h

theorem elements_tree {id : Nat} (helement : d.isElement id) :
    (d.tree id).elements = id :: d.descendants id := by
  have hpos : 0 < d.size := h.root_lt_size
  obtain ⟨n, hn⟩ := Nat.exists_eq_add_of_lt hpos
  unfold descendants tree
  rw [hn, Nat.zero_add, elements_treeTo_of_isElement helement]
  refine congrArg (id :: ·) (List.flatMap_congr fun c hc ↦ ?_)
  have hlt := h.lt_of_mem_childIds hc
  have hsame : d.treeTo (n + 1) c = d.treeTo n c := h.treeTo_add 1 (by omega)
  rw [hsame]

theorem mem_elements_of_reaches {id x : Nat} (hx : ReflTransGen d.HasChild id x)
    (helement : d.isElement id) : x ∈ (d.tree id).elements := by
  induction hx using ReflTransGen.head_induction_on with
  | refl =>
    rw [h.elements_tree helement]
    exact List.mem_cons_self
  | head hstep _ ih =>
    rw [h.elements_tree helement, List.mem_cons]
    exact .inr (List.mem_flatMap.2 ⟨_, hstep.1, ih hstep.2⟩)

theorem mem_descendants {id x : Nat} : x ∈ d.descendants id ↔ TransGen d.HasChild id x := by
  rw [TransGen.head'_iff]
  constructor
  · intro hx
    obtain ⟨child, hchild, hx⟩ := List.mem_flatMap.1 hx
    exact ⟨child, ⟨hchild, isElement_above_of_mem_elements hx⟩, reaches_of_mem_elements hx⟩
  · rintro ⟨child, ⟨hchild, helement⟩, hx⟩
    exact List.mem_flatMap.2 ⟨child, hchild, h.mem_elements_of_reaches hx helement⟩

theorem mem_descendants_root {x : Nat} (hx : ReflTransGen d.HasChild Document.root x)
    (hne : x ≠ Document.root) : x ∈ d.descendants Document.root := by
  rw [h.mem_descendants]
  exact (Relation.reflTransGen_iff_eq_or_transGen.1 hx).resolve_left hne

theorem lt_of_transGen {id x : Nat} (hx : TransGen d.HasChild id x) : id < x := by
  induction hx with
  | single hchild => exact (h.lt_of_mem_childIds hchild.1).1
  | tail _ hchild ih => exact ih.trans (h.lt_of_mem_childIds hchild.1).1

theorem notMem_descendants (id : Nat) : id ∉ d.descendants id := fun hmem ↦
  Nat.lt_irrefl id (h.lt_of_transGen (h.mem_descendants.1 hmem))

theorem nodup_descendants (id : Nat) : (d.descendants id).Nodup := by
  have hsub : (d.descendants id).Sublist ((d.childIds id).flatMap (d.visitsTo d.size)) :=
    List.Sublist.flatMap_right _ fun c _ ↦ elements_treeTo_sublist d.size c
  have hnodup := h.nodup_visitsTo (d.size + 1) id
  rw [visitsTo, List.nodup_cons] at hnodup
  exact hnodup.2.sublist hsub

end Arboreal

end PageOutline.Document
