import PageOutline.Proofs.ReadingOrder

namespace PageOutline

namespace OutlineNode

mutual

theorem findAllByName_eq (name : String) (found : List Outline) (n : OutlineNode) :
    n.findAllByName name found = found ++ n.elements.filter fun o ↦ o.name? = some name := by
  match n with
  | .separator => exact (List.append_nil found).symm
  | .element tag attributes text children =>
    rw [findAllByName, elements, findAllByNameAmong_eq name _ children, List.filter_cons]
    by_cases h : attributes.get? "name" = some name <;> simp [Outline.name?, h]

theorem findAllByNameAmong_eq (name : String) (found : List Outline) (ns : List OutlineNode) :
    findAllByNameAmong name found ns =
      found ++ (elementsAll ns).filter fun o ↦ o.name? = some name := by
  match ns with
  | [] => exact (List.append_nil found).symm
  | n :: ns =>
    rw [findAllByNameAmong, elementsAll, findAllByNameAmong_eq name _ ns,
      findAllByName_eq name found n, List.filter_append, List.append_assoc]

end

end OutlineNode

/-- The element that a path leads to, by positions among the child elements. -/
def Outline.at? : List Nat → Outline → Option Outline
  | [], o => some o
  | k :: path, o => o.childElements[k]?.bind (at? path)

namespace OutlineNode

mutual

/-- The elements of a tree with their paths, in preorder. -/
def places : OutlineNode → List (List Nat × Outline)
  | .element tag attributes text children =>
    ([], ⟨tag, attributes, text, children⟩) :: placesAll 0 children
  | .separator => []

def placesAll (k : Nat) : List OutlineNode → List (List Nat × Outline)
  | [] => []
  | n :: ns =>
    n.places.map (fun x ↦ (k :: x.1, x.2)) ++ placesAll (if n.isSeparator then k else k + 1) ns

end

theorem placesAll_separator (k : Nat) (ns : List OutlineNode) :
    placesAll k (.separator :: ns) = placesAll k ns := rfl

theorem placesAll_element {n : OutlineNode} {o : Outline} (hn : n.outline? = some o) (k : Nat)
    (ns : List OutlineNode) : placesAll k (n :: ns) =
      n.places.map (fun x ↦ (k :: x.1, x.2)) ++ placesAll (k + 1) ns := by
  cases n with
  | element => rfl
  | separator => cases hn

mutual

theorem elements_eq_places (n : OutlineNode) : n.elements = n.places.map Prod.snd := by
  match n with
  | .separator => rfl
  | .element tag attributes text children =>
    rw [elements, places, List.map_cons, elementsAll_eq_placesAll children 0]

theorem elementsAll_eq_placesAll (ns : List OutlineNode) (k : Nat) :
    elementsAll ns = (placesAll k ns).map Prod.snd := by
  match ns with
  | [] => rfl
  | n :: ns =>
    rw [elementsAll, placesAll, List.map_append, List.map_map, elements_eq_places n,
      elementsAll_eq_placesAll ns]
    rfl

end

mutual

theorem mem_places (n : OutlineNode) {o : Outline} (hn : n.outline? = some o) (path : List Nat)
    (e : Outline) : (path, e) ∈ n.places ↔ o.at? path = some e := by
  match n, path with
  | .element tag attributes text children, [] =>
    obtain rfl := Option.some.inj hn
    rw [places, List.mem_cons, mem_placesAll children 0, Outline.at?]
    simp [eq_comm]
  | .element tag attributes text children, i :: rest =>
    obtain rfl := Option.some.inj hn
    rw [places, List.mem_cons, mem_placesAll children 0, Outline.at?, Option.bind_eq_some_iff]
    simp [Outline.childElements]

theorem mem_placesAll (ns : List OutlineNode) (k : Nat) (path : List Nat) (e : Outline) :
    (path, e) ∈ placesAll k ns ↔ ∃ i rest o, path = (k + i) :: rest ∧
      (ns.filterMap outline?)[i]? = some o ∧ o.at? rest = some e := by
  match ns with
  | [] => simp [placesAll]
  | n :: ns =>
    cases hn : n.outline? with
    | none =>
      obtain rfl : n = .separator := by
        cases n with
        | element => cases hn
        | separator => rfl
      rw [placesAll_separator, mem_placesAll ns k, List.filterMap_cons_none hn]
    | some o =>
      rw [placesAll_element hn, List.mem_append, mem_placesAll ns (k + 1),
        List.filterMap_cons_some hn]
      constructor
      · rintro (h | ⟨i, rest, o', rfl, ho', he⟩)
        · obtain ⟨⟨rest, e⟩, hx, he⟩ := List.mem_map.1 h
          cases he
          exact ⟨0, rest, o, rfl, rfl, (mem_places n hn rest e).1 hx⟩
        · exact ⟨i + 1, rest, o', by rw [Nat.add_assoc, Nat.add_comm 1], ho', he⟩
      · rintro ⟨_ | i, rest, o', rfl, ho', he⟩
        · obtain rfl := Option.some.inj ho'
          exact .inl (List.mem_map.2 ⟨(rest, e), (mem_places n hn rest e).2 he, rfl⟩)
        · exact .inr ⟨i, rest, o', by rw [Nat.add_assoc, Nat.add_comm 1], ho', he⟩

end

mutual

theorem pairwise_places (n : OutlineNode) : n.places.Pairwise fun x y ↦ x.1 < y.1 := by
  match n with
  | .separator => exact .nil
  | .element tag attributes text children =>
    rw [places, List.pairwise_cons]
    refine ⟨fun x hx ↦ ?_, pairwise_placesAll children 0⟩
    obtain ⟨i, rest, -, hpath, -⟩ := (mem_placesAll children 0 x.1 x.2).1 hx
    rw [hpath]
    exact List.nil_lt_cons ..

theorem pairwise_placesAll (ns : List OutlineNode) (k : Nat) :
    (placesAll k ns).Pairwise fun x y ↦ x.1 < y.1 := by
  match ns with
  | [] => exact .nil
  | .separator :: ns => exact pairwise_placesAll ns k
  | .element tag attributes text children :: ns =>
    have hinner := pairwise_places (.element tag attributes text children)
    rw [placesAll_element rfl, List.pairwise_append, List.pairwise_map]
    refine ⟨hinner.imp fun h ↦ List.cons_lt_cons_iff.2 (.inr ⟨rfl, h⟩),
      pairwise_placesAll ns (k + 1), fun x hx y hy ↦ ?_⟩
    obtain ⟨inner, -, rfl⟩ := List.mem_map.1 hx
    obtain ⟨i, rest, -, hpath, -⟩ := (mem_placesAll ns (k + 1) y.1 y.2).1 hy
    rw [hpath]
    exact List.cons_lt_cons_iff.2 (.inl (by omega))

end

mutual

def withoutSeparators : OutlineNode → OutlineNode
  | .element tag attributes text children =>
    .element tag attributes text (withoutSeparatorsAll children)
  | .separator => .separator

def withoutSeparatorsAll : List OutlineNode → List OutlineNode
  | [] => []
  | n :: ns =>
    if n.isSeparator then withoutSeparatorsAll ns
    else n.withoutSeparators :: withoutSeparatorsAll ns

end

end OutlineNode

def Outline.withoutSeparators (o : Outline) : Outline :=
  { o with children := OutlineNode.withoutSeparatorsAll o.children }

namespace OutlineNode

theorem isSeparator_withoutSeparators (n : OutlineNode) :
    n.withoutSeparators.isSeparator = n.isSeparator := by
  cases n <;> rfl

theorem countP_withoutSeparatorsAll (ns : List OutlineNode) :
    (withoutSeparatorsAll ns).countP isSeparator = 0 := by
  induction ns with
  | nil => rfl
  | cons n ns ih =>
    rw [withoutSeparatorsAll]
    split
    · exact ih
    · next hn => rw [List.countP_cons_of_neg (by rwa [isSeparator_withoutSeparators]), ih]

mutual

theorem elements_withoutSeparators (n : OutlineNode) :
    n.withoutSeparators.elements = n.elements.map Outline.withoutSeparators := by
  match n with
  | .separator => rfl
  | .element tag attributes text children =>
    rw [withoutSeparators, elements, elements, List.map_cons,
      elementsAll_withoutSeparatorsAll children]
    rfl

theorem elementsAll_withoutSeparatorsAll (ns : List OutlineNode) :
    elementsAll (withoutSeparatorsAll ns) = (elementsAll ns).map Outline.withoutSeparators := by
  match ns with
  | [] => rfl
  | .separator :: ns => exact elementsAll_withoutSeparatorsAll ns
  | .element tag attributes text children :: ns =>
    have hinner := elements_withoutSeparators (.element tag attributes text children)
    change elementsAll (withoutSeparators _ :: withoutSeparatorsAll ns) = _
    rw [elementsAll, elementsAll, hinner, elementsAll_withoutSeparatorsAll ns, List.map_append]

end

end OutlineNode

namespace Outline

/-- The elements with a name and the paths to them, in preorder. -/
def placesNamed (o : Outline) (name : String) : List (List Nat × Outline) :=
  o.toNode.places.filter fun x ↦ x.2.name? = some name

variable (o : Outline) (name : String)

theorem mem_placesNamed (path : List Nat) (e : Outline) :
    (path, e) ∈ o.placesNamed name ↔ o.at? path = some e ∧ e.name? = some name := by
  rw [placesNamed, List.mem_filter, OutlineNode.mem_places o.toNode rfl, decide_eq_true_eq]

theorem filter_elements :
    o.toNode.elements.filter (fun e ↦ e.name? = some name) = (o.placesNamed name).map Prod.snd := by
  rw [OutlineNode.elements_eq_places, List.filter_map]
  rfl

theorem elements_withoutSeparators :
    o.withoutSeparators.toNode.elements = o.toNode.elements.map withoutSeparators :=
  OutlineNode.elements_withoutSeparators o.toNode

theorem filter_elements_withoutSeparators :
    o.withoutSeparators.toNode.elements.filter (fun e ↦ e.name? = some name) =
      (o.placesNamed name).map fun x ↦ x.2.withoutSeparators := by
  have hmap := congrArg (List.map withoutSeparators) (o.filter_elements name)
  rw [List.map_map] at hmap
  rw [elements_withoutSeparators, List.filter_map]
  exact hmap

theorem findAllByName_eq_filter (found : List Outline) :
    o.findAllByName name found =
      found ++ o.toNode.elements.filter fun e ↦ e.name? = some name :=
  OutlineNode.findAllByName_eq name found o.toNode

theorem findByName_eq_head? :
    o.findByName name = (o.toNode.elements.filter fun e ↦ e.name? = some name).head? := by
  rw [List.head?_filter]
  exact OutlineNode.findByName_eq name o.toNode

/-- The searches come to the elements with the name, to each of them once and in preorder, and to the
same ones where all separators are taken out. -/
theorem findAllByName_inPreorder :
    ∃ hits : List (List Nat × Outline),
      hits.Pairwise (fun x y ↦ x.1 < y.1) ∧
      (∀ path e, (path, e) ∈ hits ↔ o.at? path = some e ∧ e.name? = some name) ∧
      (∀ found, o.findAllByName name found = found ++ hits.map Prod.snd) ∧
      o.findByName name = (hits.map Prod.snd).head? ∧
      (o.findByName name = none ↔ ∀ path e, o.at? path = some e → e.name? ≠ some name) ∧
      (∀ found, o.withoutSeparators.findAllByName name found =
        found ++ hits.map fun x ↦ x.2.withoutSeparators) ∧
      o.withoutSeparators.findByName name = (hits.map fun x ↦ x.2.withoutSeparators).head? ∧
      ∀ e ∈ o.withoutSeparators.toNode.elements, e.separatorCount = 0 := by
  have hmem := o.mem_placesNamed name
  have hfirst : o.findByName name = ((o.placesNamed name).map Prod.snd).head? := by
    rw [findByName_eq_head?, filter_elements]
  refine ⟨o.placesNamed name, (OutlineNode.pairwise_places o.toNode).filter _, hmem, fun found ↦ ?_,
    hfirst, ?_, fun found ↦ ?_, ?_, fun e he ↦ ?_⟩
  · rw [findAllByName_eq_filter, filter_elements]
  · rw [hfirst, List.head?_eq_none_iff, List.map_eq_nil_iff, List.eq_nil_iff_forall_not_mem]
    constructor
    · intro hnone path e hat hname
      exact hnone (path, e) ((hmem path e).2 ⟨hat, hname⟩)
    · intro hnone x hx
      obtain ⟨hat, hname⟩ := (hmem x.1 x.2).1 hx
      exact hnone x.1 x.2 hat hname
  · rw [findAllByName_eq_filter, filter_elements_withoutSeparators]
  · rw [findByName_eq_head?, filter_elements_withoutSeparators]
  · rw [elements_withoutSeparators] at he
    obtain ⟨e, -, rfl⟩ := List.mem_map.1 he
    exact OutlineNode.countP_withoutSeparatorsAll e.children

def cartItem : Outline := (ofTag "li").setAttribute "name" "item"

def nestedCart : Outline :=
  (((ofTag "ul").pushSeparator.push (cartItem.push cartItem)).pushSeparator).push cartItem

theorem findAllByName_inPreorder_nestedCart :
    nestedCart.at? [0, 0] = some cartItem ∧ cartItem.name? = some "item" ∧
    ∃ hits : List (List Nat × Outline),
      hits.Pairwise (fun x y ↦ x.1 < y.1) ∧ ([0, 0], cartItem) ∈ hits ∧
      (∀ found, nestedCart.findAllByName "item" found = found ++ hits.map Prod.snd) ∧
      nestedCart.findByName "item" ≠ none ∧
      cartItem ∈ nestedCart.withoutSeparators.toNode.elements ∧ cartItem.separatorCount = 0 := by
  have hat : nestedCart.at? [0, 0] = some cartItem := rfl
  have hname : cartItem.name? = some "item" := by decide
  have helement : cartItem ∈ nestedCart.withoutSeparators.toNode.elements :=
    .tail _ (.tail _ (.head _))
  obtain ⟨hits, hsorted, hmem, hall, -, hnone, -, -, hcount⟩ :=
    findAllByName_inPreorder nestedCart "item"
  refine ⟨hat, hname, hits, hsorted, (hmem [0, 0] cartItem).2 ⟨hat, hname⟩, hall, fun h ↦ ?_,
    helement, hcount cartItem helement⟩
  exact hnone.1 h [0, 0] cartItem hat hname

end Outline

end PageOutline
