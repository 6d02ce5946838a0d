import Mathlib.Data.List.Sort
import PageOutline.Page.Rendered
import PageOutline.Proofs.Canonical
import PageOutline.Proofs.Numbering
import PageOutline.Proofs.ParsedDocument

namespace PageOutline

open Text (asciiLower)

section Attributes

variable {pairs : List (String × String)}

theorem mergedAttributes_of_lowered (h : ∀ e ∈ pairs, IsLowered e.1) :
    mergedAttributes pairs = (OrderedMap.ofList pairs).entries := by
  have hstored : pairs.map (fun e ↦ (asciiLower e.1, e.2)) = pairs := by
    conv_rhs => rw [← List.map_id pairs]
    exact List.map_congr_left fun e he ↦ congrArg (·, e.2) (asciiLower_of_isLowered (h e he))
  rw [OrderedMap.entries_ofList_eq, mergedAttributes, hstored]

theorem OrderedMap.lowered_ofList (h : ∀ e ∈ pairs, IsLowered e.1) :
    (ofList pairs).lowered = ofList (mergedAttributes pairs) := by
  have hentries : ∀ e ∈ (ofList pairs).entries, IsLowered e.1 := fun e he ↦
    h e (mem_of_mem_ofList he)
  ext1
  rw [entries_lowered, mergedAttributes_of_lowered hentries, mergedAttributes_of_lowered h]

theorem OrderedMap.entries_ofList_mergedAttributes (pairs : List (String × String)) :
    (ofList (mergedAttributes pairs)).entries = mergedAttributes pairs := by
  rw [mergedAttributes, ← entries_ofList_eq, ofList_entries]

end Attributes

namespace Html.Node

variable {n c : Node} {k : Nat} {path : List Nat}

def isHidden : Node → Bool
  | .element _ name _ _ => hiddenTags.contains name
  | .text _ | .comment _ | .doctype _ => false

def children : Node → List Node
  | .element _ _ _ children => children
  | .text _ | .comment _ | .doctype _ => []

/-- The node that a path leads to, where neither it nor a node on the way is hidden. -/
def at? : List Nat → Node → Option Node
  | [], n => some n
  | k :: path, n => (n.children[k]?.filter (!·.isHidden)).bind (at? path)

def content? : Node → Option NodeContent
  | .element _ name attributes _ => some (.element name (.ofList (mergedAttributes attributes)))
  | .text s => some (.text s)
  | .comment _ | .doctype _ => none

def shown? (n : Node) (path : List Nat) : Option NodeContent := (n.at? path).bind content?

theorem shown?_nil (n : Node) : n.shown? [] = n.content? := rfl

theorem at?_cons (hk : n.children[k]? = some c) (hc : c.isHidden = false) (path : List Nat) :
    n.at? (k :: path) = c.at? path := by
  rw [at?, hk, Option.filter_some, hc]
  rfl

theorem shown?_cons (hk : n.children[k]? = some c) (hc : c.isHidden = false) (path : List Nat) :
    n.shown? (k :: path) = c.shown? path := by
  rw [shown?, at?_cons hk hc, shown?]

theorem shown?_cons_of_isHidden (hk : n.children[k]? = some c) (hc : c.isHidden)
    (path : List Nat) : n.shown? (k :: path) = none := by
  rw [shown?, at?, hk, Option.filter_some, hc]
  rfl

theorem shown?_cons_of_none (hk : n.children[k]? = none) (path : List Nat) :
    n.shown? (k :: path) = none := by
  rw [shown?, at?, hk]
  rfl

theorem isHidden_at? (hn : n.isHidden = false) (h : n.at? path = some c) : c.isHidden = false := by
  induction path generalizing n with
  | nil =>
    cases h
    exact hn
  | cons k path ih =>
    obtain ⟨m, hm, hrest⟩ := Option.bind_eq_some_iff.1 h
    obtain ⟨-, hshown⟩ := Option.filter_eq_some_iff.1 hm
    exact ih (by simpa using hshown) hrest

mutual

/-- The paths to what is shown of a node, in preorder. -/
def places : Node → List (List Nat)
  | .element _ _ _ children => [] :: placesAll 0 children
  | .text _ => [[]]
  | .comment _ | .doctype _ => []

def placesAll (k : Nat) : List Node → List (List Nat)
  | [] => []
  | n :: ns => (if n.isHidden then [] else n.places.map (k :: ·)) ++ placesAll (k + 1) ns

end

theorem exists_of_mem_placesAll {ns : List Node} (h : path ∈ placesAll k ns) :
    ∃ i rest, path = i :: rest ∧ k ≤ i := by
  induction ns generalizing k with
  | nil => cases h
  | cons n ns ih =>
    rw [placesAll] at h
    rcases List.mem_append.1 h with h | h
    · split at h
      · cases h
      · obtain ⟨rest, -, rfl⟩ := List.mem_map.1 h
        exact ⟨k, rest, rfl, le_rfl⟩
    · obtain ⟨i, rest, rfl, hi⟩ := ih h
      exact ⟨i, rest, rfl, by omega⟩

theorem drop_eq_cons {α : Type} {l rest : List α} {a : α} (h : l.drop k = a :: rest) :
    l[k]? = some a ∧ l.drop (k + 1) = rest := by
  constructor
  · rw [← List.head?_drop, h]
    rfl
  · rw [← List.tail_drop, h]
    rfl

mutual

theorem mem_places (n : Node) (path : List Nat) : path ∈ n.places ↔ (n.shown? path).isSome := by
  match n, path with
  | .element vocabulary name attributes children, [] =>
    exact iff_of_true (List.mem_cons_self ..) rfl
  | .element vocabulary name attributes children, i :: rest =>
    have hchildren : (element vocabulary name attributes children).children.drop 0 = children :=
      List.drop_zero
    rw [places, List.mem_cons, cons_mem_placesAll children hchildren]
    simp
  | .text s, [] => exact iff_of_true (List.mem_singleton_self _) rfl
  | .text s, i :: rest =>
    rw [shown?_cons_of_none rfl]
    simp [places]
  | .comment s, [] => exact iff_of_false List.not_mem_nil (by simp [shown?_nil, content?])
  | .comment s, i :: rest =>
    rw [shown?_cons_of_none rfl]
    simp [places]
  | .doctype d, [] => exact iff_of_false List.not_mem_nil (by simp [shown?_nil, content?])
  | .doctype d, i :: rest =>
    rw [shown?_cons_of_none rfl]
    simp [places]

theorem cons_mem_placesAll (ns : List Node) {host : Node} {k : Nat}
    (hns : host.children.drop k = ns) (i : Nat) (rest : List Nat) :
    i :: rest ∈ placesAll k ns ↔ k ≤ i ∧ (host.shown? (i :: rest)).isSome := by
  match ns with
  | [] =>
    rw [placesAll]
    refine iff_of_false List.not_mem_nil fun ⟨hi, h⟩ ↦ ?_
    have hlength : host.children.length ≤ k := List.drop_eq_nil_iff.1 hns
    rw [shown?_cons_of_none (List.getElem?_eq_none (hlength.trans hi))] at h
    cases h
  | n :: ns =>
    obtain ⟨hn, hlater⟩ := drop_eq_cons hns
    have hhead : i :: rest ∈ (if n.isHidden then [] else n.places.map (k :: ·)) ↔
        i = k ∧ (host.shown? (i :: rest)).isSome := by
      split
      · next hidden =>
        refine iff_of_false List.not_mem_nil ?_
        rintro ⟨rfl, h⟩
        rw [shown?_cons_of_isHidden hn hidden] at h
        cases h
      · next hshown =>
        have hshown : n.isHidden = false := Bool.not_eq_true _ ▸ hshown
        rw [List.mem_map]
        constructor
        · rintro ⟨rest, hrest, he⟩
          cases he
          exact ⟨rfl, by rwa [shown?_cons hn hshown, ← mem_places]⟩
        · rintro ⟨rfl, h⟩
          rw [shown?_cons hn hshown, ← mem_places] at h
          exact ⟨rest, h, rfl⟩
    rw [placesAll, List.mem_append, hhead, cons_mem_placesAll ns hlater, ← or_and_right]
    refine and_congr_left fun _ ↦ ?_
    omega

end

mutual

theorem pairwise_places (n : Node) : n.places.Pairwise (· < ·) := by
  match n with
  | .element vocabulary name attributes children =>
    rw [places, List.pairwise_cons]
    refine ⟨fun path hpath ↦ ?_, pairwise_placesAll children 0⟩
    obtain ⟨i, rest, rfl, -⟩ := exists_of_mem_placesAll hpath
    exact List.nil_lt_cons ..
  | .text s => exact List.pairwise_singleton ..
  | .comment s => exact List.Pairwise.nil
  | .doctype d => exact List.Pairwise.nil

theorem pairwise_placesAll (ns : List Node) (k : Nat) : (placesAll k ns).Pairwise (· < ·) := by
  match ns with
  | [] => exact List.Pairwise.nil
  | n :: ns =>
    rw [placesAll, List.pairwise_append]
    refine ⟨?_, pairwise_placesAll ns (k + 1), ?_⟩
    · split
      · exact List.Pairwise.nil
      · rw [List.pairwise_map]
        exact (pairwise_places n).imp fun h ↦ List.cons_lt_cons_iff.2 (.inr ⟨rfl, h⟩)
    · intro p hp q hq
      split at hp
      · cases hp
      · obtain ⟨rest, -, rfl⟩ := List.mem_map.1 hp
        obtain ⟨i, rest', rfl, hi⟩ := exists_of_mem_placesAll hq
        exact List.cons_lt_cons_iff.2 (.inl (by omega))

end

def snapshot? : Node → Option SnapshotNode
  | .element _ name attributes children =>
    some (.element name (.ofList attributes) (renderedAll children) none)
  | .text s => some (.text s)
  | .comment _ | .doctype _ => none

theorem rendered_eq (n : Node) : n.rendered = if n.isHidden then none else n.snapshot? := by
  cases n <;> rfl

end Html.Node

namespace SnapshotNode

theorem entriesAll_append (ms ns : List SnapshotNode) (parent : Option NodeId) (start : NodeId) :
    entriesAll parent start (ms ++ ns) =
      entriesAll parent start ms ++ entriesAll parent (start + sizeAll ms) ns := by
  induction ms generalizing start with
  | nil => rfl
  | cons m ms ih =>
    rw [List.cons_append, entriesAll, ih, entriesAll, sizeAll, List.append_assoc, Nat.add_assoc]

theorem entriesAll_singleton (n : SnapshotNode) (parent : Option NodeId) (start : NodeId) :
    entriesAll parent start [n] = n.entries parent start := List.append_nil _

end SnapshotNode

open Html (Node)
open Html.Node (places placesAll)

/-- The entry of the node at a path: `N` numbers the paths, and `parent` is what stands above all of
them. -/
structure NodeEntry.Tells (e : NodeEntry) (n : Node) (N : List Nat → NodeId → Prop)
    (parent : Option NodeId) (path : List Nat) : Prop where
  content : n.shown? path = some e.content
  box : e.box = none
  parent_nil : path = [] → e.parent = parent
  parent_concat : ∀ above k, path = above ++ [k] → ∃ j, N above j ∧ e.parent = some j

namespace NodeEntry.Tells

variable {e : NodeEntry} {n c : Node} {N : List Nat → NodeId → Prop} {parent : Option NodeId}
  {p k : Nat} {path : List Nat}

theorem below (hk : n.children[k]? = some c) (hc : c.isHidden = false) (hp : N [] p)
    (h : e.Tells c (fun path ↦ N (k :: path)) (some p) path) : e.Tells n N parent (k :: path) where
  content := by rw [Node.shown?_cons hk hc, h.content]
  box := h.box
  parent_nil hnil := by cases hnil
  parent_concat above i hpath := by
    cases above with
    | nil =>
      cases hpath
      exact ⟨p, hp, h.parent_nil rfl⟩
    | cons j above =>
      cases hpath
      exact h.parent_concat above i rfl

end NodeEntry.Tells

def NodeEntry.IsAt (e : NodeEntry) (page : Node) (path : List Nat) : Prop :=
  e.Tells page (fun path j ↦ page.places[j]? = some path) none path

open SnapshotNode (entriesAll sizeAll)

mutual

theorem forall₂_entries (n : Node) (hn : n.Lowered) {N : List Nat → NodeId → Prop}
    (parent : Option NodeId) (start : Nat)
    (hN : ∀ i path, n.places[i]? = some path → N path (start + i)) :
    List.Forall₂ (fun e path ↦ NodeEntry.Tells e n N parent path)
      (entriesAll parent start n.snapshot?.toList) n.places := by
  match n, hn with
  | .element vocabulary name attributes children, .element hname hattributes hchildren =>
    have hdrop : (Node.element vocabulary name attributes children).children.drop 0 = children :=
      List.drop_zero
    have hlater (i : Nat) (path : List Nat) (hpath : (placesAll 0 children)[i]? = some path) :
        N path (start + 1 + i) := by
      rw [Nat.add_assoc, Nat.add_comm 1]
      exact hN (i + 1) path hpath
    have hbelow := forall₂_entriesAll children hdrop hchildren (hN 0 [] rfl) parent (start + 1)
      hlater
    rw [Node.snapshot?, Option.toList_some, SnapshotNode.entriesAll_singleton,
      SnapshotNode.entries, places]
    refine .cons ⟨?_, rfl, fun _ ↦ rfl, ?_⟩ hbelow
    · rw [Node.shown?_nil, Node.content?, asciiLower_of_isLowered hname,
        OrderedMap.lowered_ofList hattributes]
    · intro above k hpath
      simp at hpath
  | .text s, _ =>
    refine .cons ⟨rfl, rfl, fun _ ↦ rfl, ?_⟩ .nil
    intro above k hpath
    simp at hpath
  | .comment s, _ => exact .nil
  | .doctype d, _ => exact .nil

theorem forall₂_entriesAll (ns : List Node) {host : Node} {k : Nat}
    (hns : host.children.drop k = ns) (hlowered : ∀ n ∈ ns, n.Lowered)
    {N : List Nat → NodeId → Prop} {p : Nat} (hp : N [] p) (parent : Option NodeId) (start : Nat)
    (hN : ∀ i path, (placesAll k ns)[i]? = some path → N path (start + i)) :
    List.Forall₂ (fun e path ↦ NodeEntry.Tells e host N parent path)
      (entriesAll (some p) start (renderedAll ns)) (placesAll k ns) := by
  match ns with
  | [] => exact .nil
  | n :: ns =>
    obtain ⟨hchild, hlater⟩ := Node.drop_eq_cons hns
    rw [List.forall_mem_cons] at hlowered
    rw [placesAll] at hN
    have hhead : List.Forall₂ (fun e path ↦ NodeEntry.Tells e host N parent path)
        (entriesAll (some p) start n.rendered.toList)
        (if n.isHidden then [] else n.places.map (k :: ·)) := by
      rw [Node.rendered_eq]
      cases hidden : n.isHidden with
      | true => exact .nil
      | false =>
        have hnumbers (i : Nat) (path : List Nat) (hpath : n.places[i]? = some path) :
            N (k :: path) (start + i) := by
          apply hN
          have hi := (List.getElem?_eq_some_iff.1 hpath).1
          rw [hidden, List.getElem?_append_left (by simpa using hi)]
          simp [hpath]
        have hnode := forall₂_entries n hlowered.1 (N := fun path ↦ N (k :: path)) (some p) start
          hnumbers
        exact List.forall₂_map_right_iff.2 (hnode.imp fun _ _ h ↦ h.below hchild hidden hp)
    have hlength := hhead.length_eq
    rw [SnapshotNode.length_entriesAll] at hlength
    have hbehind (i : Nat) (path : List Nat) (hpath : (placesAll (k + 1) ns)[i]? = some path) :
        N path (start + sizeAll n.rendered.toList + i) := by
      rw [Nat.add_assoc]
      apply hN
      rw [hlength, List.getElem?_append_right (Nat.le_add_right ..), Nat.add_sub_cancel_left]
      exact hpath
    have htail := forall₂_entriesAll ns hlater hlowered.2 hp parent _ hbehind
    rw [renderedAll, SnapshotNode.entriesAll_append, placesAll]
    exact List.rel_append hhead htail

end

def NodeContent.text? : NodeContent → Option String
  | .text s => some s
  | .element _ _ => none

namespace SnapshotNode

mutual

theorem texts_eq_join (n : SnapshotNode) (parent : Option NodeId) (start : NodeId) :
    n.texts = String.join ((n.entries parent start).filterMap (·.content.text?)) := by
  match n with
  | .text s => exact (String.join_cons.trans (String.append_empty)).symm
  | .element tag attributes children box => exact textsAll_eq_join children (some start) (start + 1)

theorem textsAll_eq_join (ns : List SnapshotNode) (parent : Option NodeId) (start : NodeId) :
    textsAll ns = String.join ((entriesAll parent start ns).filterMap (·.content.text?)) := by
  match ns with
  | [] => rfl
  | n :: ns =>
    rw [textsAll, entriesAll, List.filterMap_append, String.join_append,
      texts_eq_join n parent start, textsAll_eq_join ns parent (start + n.size)]

end

end SnapshotNode

namespace Document

variable {d e : Document} {page page' : Node} {paths paths' : List (List Nat)}

/-- The nodes of a document are what is shown of a page: `paths` lists where, in the order of the
numbers. -/
structure Prunes (d : Document) (page : Node) (paths : List (List Nat)) : Prop where
  ordered : paths.Pairwise (· < ·)
  mem : ∀ path, path ∈ paths ↔ (page.shown? path).isSome
  contents : (d.nodes.toList.map fun n ↦ some n.content) = paths.map page.shown?
  boxless : ∀ n ∈ d.nodes, n.box = none
  parent : ∀ i j, d.parent? i = some j ↔
    ∃ path k, paths[i]? = some (path ++ [k]) ∧ paths[j]? = some path
  children : ∀ i j, i ∈ d.childIds j ↔ d.parent? i = some j
  sorted : ∀ j, (d.childIds j).Pairwise (· < ·)

section Places

variable {i j : Nat} {path : List Nat}
  (h : List.Forall₂ (fun n path ↦ NodeEntry.IsAt n page path) d.nodes.toList page.places)

include h

theorem exists_place {n : NodeEntry} (hn : d.node? i = some n) :
    ∃ path, page.places[i]? = some path ∧ n.IsAt page path := by
  rw [node?, ← Array.getElem?_toList] at hn
  obtain ⟨hi, rfl⟩ := List.getElem?_eq_some_iff.1 hn
  have hi' : i < page.places.length := h.length_eq ▸ hi
  exact ⟨_, List.getElem?_eq_getElem hi', h.get hi hi'⟩

theorem exists_node (hpath : page.places[i]? = some path) :
    ∃ n, d.node? i = some n ∧ n.IsAt page path := by
  obtain ⟨hi', rfl⟩ := List.getElem?_eq_some_iff.1 hpath
  have hi : i < d.nodes.toList.length := h.length_eq ▸ hi'
  refine ⟨_, ?_, h.get hi hi'⟩
  rw [node?, ← Array.getElem?_toList, List.getElem?_eq_getElem hi]
  rfl

theorem parent?_eq_some_iff : d.parent? i = some j ↔
    ∃ path k, page.places[i]? = some (path ++ [k]) ∧ page.places[j]? = some path := by
  constructor
  · intro hparent
    obtain ⟨n, hn, hj⟩ := Option.bind_eq_some_iff.1 hparent
    obtain ⟨path, hpath, hat⟩ := exists_place h hn
    rcases List.eq_nil_or_concat' path with rfl | ⟨above, k, rfl⟩
    · rw [hat.parent_nil rfl] at hj
      cases hj
    · obtain ⟨j', hj', he⟩ := hat.parent_concat above k rfl
      obtain rfl : j' = j := Option.some_inj.1 (he.symm.trans hj)
      exact ⟨above, k, hpath, hj'⟩
  · rintro ⟨above, k, hi, hj⟩
    obtain ⟨n, hn, hat⟩ := exists_node h hi
    obtain ⟨j', hj', he⟩ := hat.parent_concat above k rfl
    have hlt := (List.getElem?_eq_some_iff.1 hj').1
    obtain rfl : j' = j :=
      (List.getElem?_inj hlt page.pairwise_places.nodup).1 (hj'.trans hj.symm)
    rw [parent?, hn]
    exact he

theorem prunes_of_forall₂ (hd : d.Arboreal) : d.Prunes page page.places where
  ordered := page.pairwise_places
  mem := page.mem_places
  contents := by
    rw [← List.forall₂_eq_eq_eq, List.forall₂_map_left_iff, List.forall₂_map_right_iff]
    exact h.imp fun _ _ h ↦ h.content.symm
  boxless n hn := by
    obtain ⟨i, hi, rfl⟩ := Array.mem_iff_getElem.1 hn
    obtain ⟨path, -, hat⟩ := exists_place h (i := i) (Array.getElem?_eq_getElem hi)
    exact hat.box
  parent i j := parent?_eq_some_iff h
  children i j := hd.mem_childIds
  sorted := hd.sorted

end Places

theorem nodes_eq_of_contents
    (hcontents : (e.nodes.toList.map fun n ↦ some n.content) =
      d.nodes.toList.map fun n ↦ some n.content)
    (hparent : ∀ i, e.parent? i = d.parent? i) (hchildren : ∀ i, e.childIds i = d.childIds i)
    (he : ∀ n ∈ e.nodes, n.box = none) (hd : ∀ n ∈ d.nodes, n.box = none) :
    e.nodes = d.nodes := by
  have hsize : e.nodes.size = d.nodes.size := by
    simpa using congrArg List.length hcontents
  refine Array.ext hsize fun i hi hi' ↦ ?_
  have hn : e.node? i = some e.nodes[i] := Array.getElem?_eq_getElem hi
  have hn' : d.node? i = some d.nodes[i] := Array.getElem?_eq_getElem hi'
  have hcontent : e.nodes[i].content = d.nodes[i].content := by
    have hat := congrArg (·[i]?) hcontents
    simpa [hi, hi'] using hat
  have hup : e.nodes[i].parent = d.nodes[i].parent := by
    have hat := hparent i
    rwa [parent?, parent?, hn, hn'] at hat
  have hdown : e.nodes[i].children = d.nodes[i].children := by
    have hat := hchildren i
    rwa [childIds, childIds, hn, hn'] at hat
  have hbox : e.nodes[i].box = d.nodes[i].box :=
    (he _ (Array.getElem_mem hi)).trans (hd _ (Array.getElem_mem hi')).symm
  calc e.nodes[i] = ⟨e.nodes[i].content, e.nodes[i].parent, e.nodes[i].children,
        e.nodes[i].box⟩ := rfl
    _ = d.nodes[i] := by rw [hcontent, hup, hdown, hbox]

namespace Prunes

theorem node (h : d.Prunes page paths) {i : Nat} {n : NodeEntry} (hn : d.node? i = some n) :
    ∃ path, paths[i]? = some path ∧ page.shown? path = some n.content := by
  have hcontents := congrArg (·[i]?) h.contents
  rw [List.getElem?_map, List.getElem?_map, Array.getElem?_toList] at hcontents
  rw [node?] at hn
  rw [hn] at hcontents
  obtain ⟨path, hpath, hshown⟩ := Option.map_eq_some_iff.1 hcontents.symm
  exact ⟨path, hpath, hshown⟩

theorem root (h : d.Prunes page paths) {content : NodeContent}
    (hpage : page.content? = some content) : ∃ n, d.node? root = some n ∧ n.content = content := by
  have hmem : [] ∈ paths := (h.mem []).2 (Option.isSome_of_eq_some hpage)
  obtain ⟨rest, rfl⟩ : ∃ rest, paths = [] :: rest := by
    cases paths with
    | nil => cases hmem
    | cons path rest =>
      rcases List.mem_cons.1 hmem with rfl | hrest
      · exact ⟨rest, rfl⟩
      · exact absurd ((List.pairwise_cons.1 h.ordered).1 [] hrest) (List.not_lt_nil path)
  have hfirst := congrArg (·[0]?) h.contents
  rw [List.getElem?_map, Array.getElem?_toList] at hfirst
  obtain ⟨n, hn, hcontent⟩ := Option.map_eq_some_iff.1 hfirst
  rw [Html.Node.shown?_nil, hpage] at hcontent
  exact ⟨n, hn, Option.some_inj.1 hcontent⟩

theorem notMem_hiddenTags (h : d.Prunes page paths) (hpage : page.isHidden = false) {id : NodeId}
    {tag : String} (htag : d.tag? id = some tag) : tag ∉ hiddenTags := by
  obtain ⟨attributes, parent, children, box, hn⟩ : ∃ attributes parent children box,
      d.node? id = some ⟨.element tag attributes, parent, children, box⟩ := by
    unfold tag? at htag
    split at htag
    · next hn =>
      cases htag
      exact ⟨_, _, _, _, hn⟩
    · cases htag
  obtain ⟨path, -, hshown⟩ := h.node hn
  obtain ⟨c, hc, hcontent⟩ := Option.bind_eq_some_iff.1 hshown
  have hidden := Html.Node.isHidden_at? hpage hc
  cases c with
  | element vocabulary name attributes' children' =>
    cases hcontent
    simpa [Html.Node.isHidden] using hidden
  | text s => cases hcontent
  | comment s => cases hcontent
  | doctype doctype => cases hcontent

theorem filterMap_text? (h : d.Prunes page paths) :
    d.nodes.toList.filterMap (·.content.text?) =
      paths.filterMap fun path ↦ (page.shown? path).bind NodeContent.text? := by
  have hmapped := congrArg (List.filterMap (·.bind NodeContent.text?)) h.contents
  rwa [List.filterMap_map, List.filterMap_map] at hmapped

theorem nodes_eq (h : d.Prunes page paths) (h' : e.Prunes page' paths')
    (hshown : page'.shown? = page.shown?) : e.nodes = d.nodes := by
  obtain rfl : paths' = paths := by
    refine h'.ordered.eq_of_mem_iff h.ordered fun path ↦ ?_
    rw [h.mem, h'.mem, hshown]
  have hparent (i : Nat) : e.parent? i = d.parent? i := by
    ext j
    rw [h.parent, h'.parent]
  have hchildren (j : Nat) : e.childIds j = d.childIds j := by
    refine (h'.sorted j).eq_of_mem_iff (h.sorted j) fun i ↦ ?_
    rw [h.children, h'.children, hparent]
  refine nodes_eq_of_contents ?_ hparent hchildren h'.boxless h.boxless
  rw [h.contents, h'.contents, hshown]

end Prunes

theorem viewport_insertAttributes (d : Document) (node : NodeId) (pairs : List (String × String)) :
    (d.insertAttributes node pairs).viewport = d.viewport :=
  List.foldlRecOn (motive := fun e : Document ↦ e.viewport = d.viewport) pairs _ rfl
    fun _ he _ _ ↦ he

theorem viewport_importNodes (d : Document) (p : NodeId) (ns : List SnapshotNode) :
    (d.importNodes p ns).viewport = d.viewport := by
  match ns with
  | [] => rw [importNodes]
  | .text s :: rest =>
    rw [importNodes, viewport_importNodes]
    rfl
  | .element tag attributes children box :: rest =>
    rw [importNodes, viewport_importNodes, viewport_importNodes, setBox?]
    dsimp only
    rw [viewport_insertAttributes]
    rfl

theorem viewport_ofHtml (text : String) : (ofHtml text).viewport = .defaultViewport := by
  rw [ofHtml, ofSnapshot, viewport_importNodes, setBox?]
  dsimp only
  rw [viewport_insertAttributes]
  rfl

theorem renderedRoot_append {before : List Node} (h : ∀ n ∈ before, n.isElement = false)
    (vocabulary : Html.Vocabulary) (name : String) (attributes : List (String × String))
    (children after : List Node) :
    renderedRoot (before ++ .element vocabulary name attributes children :: after) =
      ⟨name, .ofList attributes, renderedAll children, none⟩ := by
  induction before with
  | nil => rfl
  | cons n before ih =>
    rw [List.forall_mem_cons] at h
    cases n with
    | element vocabulary name attributes children => cases h.1
    | text s => exact ih h.2
    | comment s => exact ih h.2
    | doctype doctype => exact ih h.2

theorem exists_prunes (text : String) : ∃ attributes children,
    (Html.parse text).find? Node.isElement = some (.element .html "html" attributes children) ∧
      (ofHtml text).Prunes (.element .html "html" attributes children)
        (places (.element .html "html" attributes children)) := by
  obtain ⟨before, attributes, children, after, hparse, hbefore, hlowered⟩ :=
    Html.exists_html_parse text
  refine ⟨attributes, children, ?_, ?_⟩
  · rw [hparse, List.find?_append, List.find?_eq_none.2 fun n hn ↦ by simp [hbefore n hn]]
    rfl
  · have hentries := forall₂_entries _ hlowered
      (N := fun path j ↦ (places (.element .html "html" attributes children))[j]? = some path)
      none root fun i path hpath ↦ by rwa [root, Nat.zero_add]
    rw [Node.snapshot?, Option.toList_some, SnapshotNode.entriesAll_singleton] at hentries
    refine prunes_of_forall₂ ?_ (arboreal_keptByBuilding.reached (.ofHtml text))
    rw [ofHtml, toList_ofSnapshot, hparse, renderedRoot_append hbefore]
    exact hentries

/-- The document of a text has the nodes of the parsed page that are neither hidden nor below
something hidden, in preorder and as they hang there; nothing else of the page tells in it. -/
theorem ofHtml_prunes (text : String) : ∃ attributes children paths,
    let page := Node.element .html "html" attributes children
    (Html.parse text).find? Node.isElement = some page ∧
      (ofHtml text).Prunes page paths ∧
      (ofHtml text).tag? root = some "html" ∧
      ((ofHtml text).attributes root).entries = mergedAttributes attributes ∧
      (∀ id tag, (ofHtml text).tag? id = some tag → tag ∉ hiddenTags) ∧
      (ofHtml text).textContent root = String.join
        (paths.filterMap fun path ↦ (page.shown? path).bind NodeContent.text?) ∧
      ∀ text' page', (Html.parse text').find? Node.isElement = some page' →
        page'.shown? = page.shown? → ofHtml text' = ofHtml text := by
  obtain ⟨attributes, children, hfind, hprunes⟩ := exists_prunes text
  obtain ⟨⟨content, parent, below, box⟩, hroot, hcontent⟩ := hprunes.root rfl
  cases hcontent
  refine ⟨attributes, children, _, hfind, hprunes, ?_, ?_, ?_, ?_, ?_⟩
  · rw [tag?, hroot]
  · rw [Document.attributes, hroot]
    exact OrderedMap.entries_ofList_mergedAttributes attributes
  · intro id tag htag
    have hpage : Node.isHidden (.element .html "html" attributes children) = false := by
      have hhtml : hiddenTags.contains "html" = false := by
        decide
      exact hhtml
    exact hprunes.notMem_hiddenTags hpage htag
  · rw [ofHtml, (ofSnapshot_agrees _).2.2.2.1, SnapshotNode.texts_eq_join _ none root,
      ← toList_ofSnapshot]
    exact congrArg String.join hprunes.filterMap_text?
  · intro text' page' hfind' hshown
    obtain ⟨attributes', children', hfound, hprunes'⟩ := exists_prunes text'
    cases hfound.symm.trans hfind'
    have hnodes := hprunes.nodes_eq hprunes' hshown
    have hviewport := (viewport_ofHtml text').trans (viewport_ofHtml text).symm
    calc ofHtml text' = ⟨(ofHtml text').nodes, (ofHtml text').viewport⟩ := rfl
      _ = ofHtml text := by rw [hnodes, hviewport]

end Document

end PageOutline
