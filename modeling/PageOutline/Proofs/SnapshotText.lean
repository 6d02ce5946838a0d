import PageOutline.Proofs.Import
import PageOutline.Proofs.JsonFields
import PageOutline.Proofs.JsonNesting

namespace PageOutline

open Json

namespace Snapshot

def written (tag : String) (attributes : OrderedMap String) (children : List Json) :
    List (String × Option Json) :=
  [("tag_name", some (.string tag)),
    ("attributes", some (.ofMap attributes)),
    ("children", if children.isEmpty then none else some (.array children)),
    ("bounding_box", none)]

end Snapshot

namespace SnapshotNode

open Snapshot (written)

theorem toJsonAll_eq_map (ns : List SnapshotNode) : toJsonAll ns = ns.map toJson := by
  induction ns with
  | nil => rfl
  | cons n ns ih => rw [toJsonAll, ih, List.map_cons]

theorem boxlessAll_iff {ns : List SnapshotNode} : boxlessAll ns ↔ ∀ n ∈ ns, n.boxless := by
  induction ns with
  | nil => simp [boxlessAll]
  | cons n ns ih => rw [boxlessAll, Bool.and_eq_true, ih, List.forall_mem_cons]

theorem toJson_eq_given (tag : String) (attributes : OrderedMap String)
    (children : List SnapshotNode) :
    (element tag attributes children none).toJson =
      .object (given (written tag attributes (children.map toJson))) := by
  rw [toJson, toJsonAll_eq_map]
  cases children <;> simp [written, given]

theorem boxless_element {tag : String} {attributes : OrderedMap String}
    {children : List SnapshotNode} {box : Option Box}
    (h : (element tag attributes children box).boxless) :
    box = none ∧ ∀ n ∈ children, n.boxless := by
  rw [boxless, Bool.and_eq_true, Option.isNone_iff_eq_none, boxlessAll_iff] at h
  exact h

end SnapshotNode

namespace Snapshot

variable {tag : String} {attributes : OrderedMap String} {children : List SnapshotNode}

theorem ofFields_given {child : Json → Except JsonFault SnapshotNode}
    (hchildren : ∀ n ∈ children, child n.toJson = .ok n) (surplus : JsonFault) :
    ofFields child surplus
        (.object (given (written tag attributes (children.map SnapshotNode.toJson)))) =
      .ok ⟨tag, attributes, children, none⟩ := by
  have hnodup : ((written tag attributes (children.map SnapshotNode.toJson)).map
      Prod.fst).Nodup := show fieldNames.Nodup by decide
  have hfields : fieldsOf ⟨fieldNames, false, surplus⟩
      (.object (given (written tag attributes (children.map SnapshotNode.toJson)))) = .ok _ :=
    fieldsOf_given (fun f hf ↦ List.mem_map_of_mem hf) hnodup
  rw [ofFields, hfields]
  simp only [field, lookup_given hnodup, fieldOr_given hnodup, bind, Except.bind]
  simp only [written, List.lookup_cons, String.reduceBEq, Option.join_some, Option.elim_some,
    asString, asMap_ofMap, elim_items hchildren]
  rfl

theorem lookup_reading {items : List Json} {m : String × Json}
    (hm : m ∈ given (written tag attributes items)) :
    [("tag_name", Reading.whole), ("attributes", .whole), ("children", .whole),
      ("bounding_box", Box.reading)].lookup m.1 = some .whole := by
  have hm := mem_given.1 hm
  simp only [written, List.mem_cons, Prod.mk.injEq, List.not_mem_nil, or_false, reduceCtorEq,
    and_false] at hm
  rcases hm with ⟨hname, -⟩ | ⟨hname, -⟩ | ⟨hname, -⟩ <;> rw [hname] <;> rfl

end Snapshot

namespace SnapshotNode

open Snapshot (written)

theorem depth_of_mem_children {levels : Nat} {tag : String} {attributes : OrderedMap String}
    {children : List SnapshotNode}
    (h : (element tag attributes children none).toJson.depth ≤ levels + 1) :
    ∀ n ∈ children, n.toJson.depth ≤ levels := by
  intro n hn
  rw [toJson_eq_given, depth_object_le_iff] at h
  have hitem : n.toJson ∈ children.map toJson := List.mem_map_of_mem hn
  have hmember : ("children", array (children.map toJson)) ∈
      given (written tag attributes (children.map toJson)) := by
    simp [mem_given, written, List.ne_nil_of_mem hn]
  exact depth_array_le_iff.1 (Nat.le_succ_of_le (h _ hmember)) _ hitem

theorem ofJson_toJson {levels : Nat} {n : SnapshotNode} (hbox : n.boxless)
    (h : n.toJson.depth ≤ levels) : ofJson levels n.toJson = .ok n := by
  match n, levels with
  | .text s, 0 => rfl
  | .text s, levels + 1 => rfl
  | .element tag attributes children box, 0 =>
    rw [toJson, depth] at h
    omega
  | .element tag attributes children box, levels + 1 =>
    obtain ⟨rfl, hboxes⟩ := boxless_element hbox
    have hbelow := depth_of_mem_children h
    have hchildren : ∀ n ∈ children, ofJson levels n.toJson = .ok n :=
      fun n hn ↦ ofJson_toJson (hboxes n hn) (hbelow n hn)
    rw [toJson_eq_given, ofJson, Snapshot.ofFields_given hchildren]
    · rfl
    · exact fun _ ↦ Json.noConfusion

theorem isExact_toJson {n : SnapshotNode} (hbox : n.boxless) : n.toJson.isExact := by
  match n with
  | .text s => rfl
  | .element tag attributes children box =>
    obtain ⟨rfl, hboxes⟩ := boxless_element hbox
    have hbelow : (array (children.map toJson)).isExact := by
      rw [isExact_array, List.forall_mem_map]
      exact fun n hn ↦ isExact_toJson (hboxes n hn)
    have hstring : (Json.string tag).isExact := rfl
    have hwritten : ∀ w ∈ written tag attributes (children.map toJson), w.2.all isExact := by
      cases children <;> simp_all [written, Option.all_eq_true, isExact_ofMap]
    rw [toJson_eq_given, isExact_object]
    exact fun m hm ↦ hwritten _ (mem_given.1 hm)

end SnapshotNode

namespace Snapshot

theorem ofJson_toJson {s : Snapshot} (hbox : s.toNode.boxless) (h : s.toJson.depth ≤ maxDepth) :
    ofJson s.toJson = .ok s := by
  obtain ⟨tag, attributes, children, box⟩ := s
  obtain ⟨rfl, hboxes⟩ := SnapshotNode.boxless_element hbox
  have hbelow : ∀ n ∈ children, n.toJson.depth ≤ 126 := SnapshotNode.depth_of_mem_children h
  rw [toJson, toNode, SnapshotNode.toJson_eq_given]
  exact ofFields_given
    (fun n hn ↦ SnapshotNode.ofJson_toJson (hboxes n hn) (Nat.le_succ_of_le (hbelow n hn)))
    .malformed

/-- A snapshot without boxes is read back from its text as it was. -/
theorem parse_chars_toJson {s : Snapshot} (hbox : s.toNode.boxless) (h : s.toJson.depth ≤ maxDepth)
    (style : Style) : parse (String.ofList (s.toJson.chars style 0)) = .ok s := by
  have hfits := fits_of_depth_le h (SnapshotNode.isExact_toJson hbox)
  have hread := ofJson_toJson hbox h
  obtain ⟨tag, attributes, children, box⟩ := s
  obtain ⟨rfl, -⟩ := SnapshotNode.boxless_element hbox
  rw [toJson, toNode, SnapshotNode.toJson_eq_given] at hfits hread ⊢
  have htext := parse_members hfits (fun m hm ↦ lookup_reading hm) style
  unfold parse reading
  rw [htext]
  exact hread

def menuSnapshot : Snapshot where
  tag := "UL"
  attributes := .ofList [("tag_name", "li"), ("id", "\"")]
  children :=
    [.text "", .text "a", .text "\x7b\"tag_name\":\"li\"\x7d",
      .element "li" ∅ [.text "é\n", .element "children" ∅ [] none, .text ""] none, .text "b"]
  box := none

theorem parse_chars_toJson_menuSnapshot :
    menuSnapshot.toNode.boxless ∧ menuSnapshot.toJson.depth ≤ maxDepth ∧
      parse (String.ofList (menuSnapshot.toJson.chars .compact 0)) = .ok menuSnapshot := by
  have hbox : menuSnapshot.toNode.boxless := by decide
  have hdepth : menuSnapshot.toJson.depth ≤ maxDepth := by decide
  exact ⟨hbox, hdepth, parse_chars_toJson hbox hdepth .compact⟩

end Snapshot

end PageOutline
