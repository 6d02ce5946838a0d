import PageOutline.Outline.Json
import PageOutline.Proofs.JsonFields
import PageOutline.Proofs.JsonNesting

namespace PageOutline

open Json

def Outline.written (tag : String) (attributes : OrderedMap String) (text : Option String)
    (children : List Json) : List (String × Option Json) :=
  [("tag_name", some (.string tag)),
    ("attributes", some (.ofMap attributes)),
    ("text", text.map .string),
    ("children", if children.isEmpty then none else some (.array children))]

theorem outlineMembers_eq_given (front : List (String × Json)) (tag : String)
    (attributes : OrderedMap String) (text : Option String) (children : List Json) :
    outlineMembers front tag attributes text children =
      front ++ given (Outline.written tag attributes text children) := by
  cases text <;> cases children <;> simp [outlineMembers, Outline.written, given]

namespace OutlineNode

theorem toJsonAll_eq_map (ns : List OutlineNode) : toJsonAll ns = ns.map toJson := by
  induction ns with
  | nil => rfl
  | cons n ns ih => rw [toJsonAll, ih, List.map_cons]

end OutlineNode

namespace Outline

variable {tag : String} {attributes : OrderedMap String} {text : Option String}

theorem ofFields_given {child : Json → Except JsonFault OutlineNode}
    {children : List OutlineNode} (hchildren : ∀ n ∈ children, child n.toJson = .ok n)
    (surplus : JsonFault) :
    ofFields child surplus
        (.object (given (written tag attributes text (OutlineNode.toJsonAll children)))) =
      .ok ⟨tag, attributes, text, children⟩ := by
  have hnodup : ((written tag attributes text (OutlineNode.toJsonAll children)).map
      Prod.fst).Nodup := show fieldNames.Nodup by decide
  have hfields : fieldsOf ⟨fieldNames, false, surplus⟩
      (.object (given (written tag attributes text (OutlineNode.toJsonAll children)))) = .ok _ :=
    fieldsOf_given (fun f hf ↦ List.mem_map_of_mem hf) hnodup
  have hbelow : (if (OutlineNode.toJsonAll children).isEmpty then none
      else some (Json.array (OutlineNode.toJsonAll children))).elim (.ok []) (asList child) =
        .ok children := by
    rw [OutlineNode.toJsonAll_eq_map]
    exact elim_items hchildren
  rw [ofFields, hfields]
  simp only [field, lookup_given hnodup, fieldOr_given hnodup, bind, Except.bind]
  simp only [written, List.lookup_cons, String.reduceBEq, Option.join_some, Option.elim_some,
    elim_map_string, asString, asMap_ofMap, hbelow]
  rfl

theorem mem_fieldNames {children : List Json} {m : String × Json}
    (hm : m ∈ given (written tag attributes text children)) : m.1 ∈ fieldNames :=
  List.mem_map_of_mem (f := Prod.fst) (mem_given.1 hm)

theorem depth_of_mem_children {levels : Nat} {front : List (String × Json)}
    {children : List OutlineNode}
    (h : (object (outlineMembers front tag attributes text
      (OutlineNode.toJsonAll children))).depth ≤ levels + 1) :
    ∀ n ∈ children, n.toJson.depth ≤ levels := by
  intro n hn
  rw [depth_object_le_iff, outlineMembers_eq_given, OutlineNode.toJsonAll_eq_map] at h
  have hitem : n.toJson ∈ children.map OutlineNode.toJson := List.mem_map_of_mem hn
  have hmember : ("children", array (children.map OutlineNode.toJson)) ∈
      given (written tag attributes text (children.map OutlineNode.toJson)) := by
    simp [mem_given, written, List.ne_nil_of_mem hn]
  have hlist := h _ (List.mem_append_right front hmember)
  exact depth_array_le_iff.1 (Nat.le_succ_of_le hlist) _ hitem

theorem isExact_given {children : List Json} (h : ∀ v ∈ children, v.isExact) :
    ∀ m ∈ given (written tag attributes text children), m.2.isExact := by
  intro m hm
  have hchildren := isExact_array.2 h
  have hstring (s : String) : (Json.string s).isExact := rfl
  have hwritten : ∀ w ∈ written tag attributes text children, w.2.all isExact := by
    cases children <;>
      simp [written, Option.all_eq_true, hstring, isExact_ofMap, hchildren]
  exact hwritten _ (mem_given.1 hm)

end Outline

namespace OutlineNode

theorem splitKind_element (numbered : Bool) (tag : String) (attributes : OrderedMap String)
    (text : Option String) (children : List Json) :
    splitKind numbered (.object (outlineMembers [("kind", .string "element")] tag attributes text
      children)) =
      .ok (true, .object (given (Outline.written tag attributes text children))) := by
  have hnames : ∀ m ∈ given (Outline.written tag attributes text children), m.1 ≠ "kind" := by
    intro m hm hkind
    have hfield := Outline.mem_fieldNames hm
    rw [hkind] at hfield
    exact absurd hfield (by decide)
  have hkind : (given (Outline.written tag attributes text children)).filter (·.1 == "kind") = [] :=
    List.filter_eq_nil_iff.2 fun m hm ↦ by simpa using hnames m hm
  have hrest : (given (Outline.written tag attributes text children)).filter (·.1 != "kind") =
      given (Outline.written tag attributes text children) :=
    List.filter_eq_self.2 fun m hm ↦ by simpa using hnames m hm
  rw [outlineMembers_eq_given, List.singleton_append, splitKind]
  simp only [List.filter_cons, beq_self_eq_true, bne_self_eq_false, if_true, Bool.false_eq_true,
    if_false, hkind, hrest]
  rfl

theorem ofJson_toJson {levels : Nat} {n : OutlineNode} (h : n.toJson.depth ≤ levels)
    (numbered : Bool) : ofJson numbered levels n.toJson = .ok n := by
  match n, levels with
  | .separator, 0 => exact absurd h (by decide)
  | .element tag attributes text children, 0 =>
    rw [toJson, depth] at h
    omega
  | .separator, levels + 1 => rfl
  | .element tag attributes text children, levels + 1 =>
    have hbelow := Outline.depth_of_mem_children h
    have hfields : Outline.ofFields (ofJson true levels) .misshapen (.object (given
        (Outline.written tag attributes text (toJsonAll children)))) =
          .ok ⟨tag, attributes, text, children⟩ :=
      Outline.ofFields_given (fun n hn ↦ ofJson_toJson (hbelow n hn) true) .misshapen
    rw [toJson, ofJson, splitKind_element]
    simp only [bind, Except.bind, hfields, if_true]
    rfl

theorem isExact_toJson (n : OutlineNode) : n.toJson.isExact := by
  match n with
  | .separator => rfl
  | .element tag attributes text children =>
    have hbelow : ∀ v ∈ toJsonAll children, v.isExact := by
      rw [toJsonAll_eq_map, List.forall_mem_map]
      exact fun n _ ↦ isExact_toJson n
    rw [toJson, isExact_object, outlineMembers_eq_given, List.singleton_append,
      List.forall_mem_cons]
    exact ⟨rfl, Outline.isExact_given hbelow⟩

end OutlineNode

namespace Outline

theorem isExact_toJson (o : Outline) : o.toJson.isExact := by
  have hbelow : ∀ v ∈ OutlineNode.toJsonAll o.children, v.isExact := by
    rw [OutlineNode.toJsonAll_eq_map, List.forall_mem_map]
    exact fun n _ ↦ n.isExact_toJson
  rw [toJson, outlineMembers_eq_given, isExact_object]
  exact isExact_given hbelow

theorem ofJson_toJson {o : Outline} (h : o.toJson.depth ≤ maxDepth) : ofJson o.toJson = .ok o := by
  have hbelow : ∀ n ∈ o.children, OutlineNode.ofJson false maxDepth n.toJson = .ok n := by
    intro n hn
    exact OutlineNode.ofJson_toJson (Nat.le_succ_of_le (depth_of_mem_children h n hn)) false
  rw [toJson, outlineMembers_eq_given]
  exact ofFields_given hbelow .malformed

/-- An outline is read back from its text as it was. -/
theorem parse_toText {o : Outline} (h : o.toJson.depth ≤ maxDepth) : parse o.toText = .ok o := by
  have hmembers := outlineMembers_eq_given [] o.tag o.attributes o.text
    (OutlineNode.toJsonAll o.children)
  have hwhole : ∀ name ∈ fieldNames,
      (fieldNames.map fun name ↦ (name, Reading.whole)).lookup name = some .whole := by
    simp [fieldNames, List.lookup_cons]
  have hknown : ∀ m ∈ outlineMembers [] o.tag o.attributes o.text
      (OutlineNode.toJsonAll o.children),
      (fieldNames.map fun name ↦ (name, Reading.whole)).lookup m.1 = some .whole := by
    rw [hmembers]
    exact fun m hm ↦ hwhole m.1 (mem_fieldNames hm)
  have htext : Json.parse o.toText reading = .ok o.toJson :=
    parse_members (fits_of_depth_le h o.isExact_toJson) hknown .pretty
  simp only [parse, htext, bind, Except.bind]
  exact ofJson_toJson h

def cartOutline : Outline where
  tag := "ul"
  attributes := .ofList [("name", "cart"), ("kind", "separator")]
  text := some ""
  children :=
    [.separator, .element "li" ∅ none [],
      .element "li" (.ofList [("b", "\""), ("a", "é\n")]) (some "Kettle")
        [.element "kind" ∅ (some "") [], .separator], .separator, .separator]

theorem parse_toText_cartOutline :
    cartOutline.toJson.depth ≤ maxDepth ∧ parse cartOutline.toText = .ok cartOutline := by
  have hdepth : cartOutline.toJson.depth ≤ maxDepth := by decide
  exact ⟨hdepth, parse_toText hdepth⟩

end Outline

end PageOutline
