import PageOutline.Pass.Visible
import PageOutline.Proofs.DocumentOrder

namespace PageOutline

open Relation (TransGen)
open Text (asciiLower)

theorem OrderedMap.insert_insert {α : Type} (m : OrderedMap α) (key : String) (value : α) :
    (m.insert key value).insert key value = m.insert key value := by
  apply ext_get?
  · rw [keys_insert, if_pos (mem_keys_insert.2 (.inl rfl))]
  · intro k
    by_cases hk : k = key <;> simp [hk]

theorem Css.parse?_interactiveSelector :
    Selector.parse? interactiveSelector = some ⟨[.compound [.localName "a"],
      .compound [.localName "button"], .compound [.attr "onclick" .present],
      .compound [.localName "input", .attr "type" (.compare .equal "button" true)],
      .compound [.localName "input", .attr "type" (.compare .equal "submit" true)]]⟩ := by
  have htokens : tokens interactiveSelector = [.ident "a", .comma, .blank, .ident "button", .comma,
      .blank, .squareOpen, .ident "onclick", .squareClose, .comma, .blank, .ident "input",
      .squareOpen, .ident "type", .delim '=', .string "button", .squareClose, .comma, .blank,
      .ident "input", .squareOpen, .ident "type", .delim '=', .string "submit", .squareClose] := by
    decide +kernel
  unfold Selector.parse? components
  rw [htokens]
  rfl

theorem Css.Comparison.holds_equal_ignoringCase {value wanted : String} :
    equal.holds true value wanted ↔ asciiLower value = asciiLower wanted := by
  simp [holds, comparedChars, asciiLower, ← String.toList_inj]

namespace Document

variable {d : Document}

def IsInteractive (d : Document) (id : NodeId) : Prop :=
  d.tag? id = some "a" ∨ d.tag? id = some "button" ∨
    (∃ script, (d.attributes id).get? "onclick" = some script) ∨
    d.tag? id = some "input" ∧ ∃ type, (d.attributes id).get? "type" = some type ∧
      (asciiLower type = "button" ∨ asciiLower type = "submit")

/-- An interactive element below the root with a box that lies within the viewport. -/
def ShowsInteractive (d : Document) (id : NodeId) : Prop :=
  TransGen d.HasChild root id ∧ d.IsInteractive id ∧
    ∃ n box, d.node? id = some n ∧ n.box = some box ∧ d.viewport.contains box

theorem localName_view_eq {id : NodeId} {tag : String} (htag : tag ≠ "") :
    d.view.localName id = tag ↔ d.tag? id = some tag := by
  change (d.tag? id).getD "" = tag ↔ _
  cases d.tag? id with
  | none => simpa using htag.symm
  | some t => simp

theorem isMatch_interactive (context id : NodeId) {parsed : Css.Selector}
    (hparsed : Css.Selector.parse? interactiveSelector = some parsed) :
    d.isMatch parsed context id ↔ d.IsInteractive id := by
  rw [Css.parse?_interactiveSelector] at hparsed
  obtain rfl := Option.some.inj hparsed
  have hpresent : (d.view.attr id "onclick").any Css.AttributeTest.present.holds ↔
      ∃ script, (d.attributes id).get? "onclick" = some script := by
    rw [Option.any_eq_true]
    exact ⟨fun ⟨script, h, _⟩ ↦ ⟨script, h⟩, fun ⟨script, h⟩ ↦ ⟨script, h, rfl⟩⟩
  have htype (wanted : String) (hwanted : asciiLower wanted = wanted) :
      (d.view.attr id "type").any (Css.AttributeTest.compare .equal wanted true).holds ↔
        ∃ type, (d.attributes id).get? "type" = some type ∧ asciiLower type = wanted := by
    rw [Option.any_eq_true]
    simp only [Css.AttributeTest.holds, Css.Comparison.holds_equal_ignoringCase, hwanted]
    rfl
  have ha : d.view.localName id = "a" ↔ d.tag? id = some "a" := localName_view_eq (by decide)
  have hbutton : d.view.localName id = "button" ↔ d.tag? id = some "button" :=
    localName_view_eq (by decide)
  have hinput : d.view.localName id = "input" ↔ d.tag? id = some "input" :=
    localName_view_eq (by decide)
  simp only [isMatch, Css.Selector.matches, Css.anyMatches, Css.Complex.matches, Css.allMatch,
    Css.Simple.matches, Bool.and_true, Bool.or_false, Bool.or_eq_true, Bool.and_eq_true,
    beq_iff_eq, hpresent, htype "button" (by decide), htype "submit" (by decide), ha, hbutton,
    hinput, IsInteractive, and_or_left, exists_or]

theorem foldl_insertAttribute (ids : List NodeId) (name value : String) (d : Document) :
    ids.foldl (fun d id ↦ d.insertAttribute id name value) d =
      d.mapAttributes fun id m ↦ if id ∈ ids then m.insert (asciiLower name) value else m := by
  induction ids generalizing d with
  | nil =>
    refine ext_node? rfl fun id ↦ ?_
    simp [node?_mapAttributes, NodeEntry.mapAttributes_id]
  | cons x ids ih =>
    rw [List.foldl_cons, ih, insertAttribute_eq, mapAttributes_mapAttributes]
    congr 1
    funext id m
    by_cases hx : x = id
    · by_cases hid : id ∈ ids <;> simp [hx, hid, OrderedMap.insert_insert]
    · simp [hx, Ne.symm hx]

theorem isVisible_iff {id : NodeId} : d.isVisible d.viewport id ↔
    ∃ n box, d.node? id = some n ∧ n.box = some box ∧ d.viewport.contains box := by
  unfold isVisible
  rw [Option.any_eq_true]
  constructor
  · rintro ⟨box, hbox, hin⟩
    obtain ⟨n, hn, hbox⟩ := Option.bind_eq_some_iff.1 hbox
    exact ⟨n, box, hn, hbox, hin⟩
  · rintro ⟨n, box, hn, hbox, hin⟩
    exact ⟨box, Option.bind_eq_some_iff.2 ⟨n, hn, hbox⟩, hin⟩

theorem exists_markVisible (h : d.Arboreal) (settings : Settings) :
    ∃ ids : List NodeId, (∀ id, id ∈ ids ↔ d.ShowsInteractive id) ∧
      PageOutline.markVisible settings d = (.ok ((d.mapAttributes fun id m ↦ if id ∈ ids then
        m.insert (asciiLower settings.visibleAttribute) "true" else m).markup root), d) := by
  obtain ⟨parsed, hparsed⟩ := Option.isSome_iff_exists.1
    (Option.isSome_of_eq_some Css.parse?_interactiveSelector)
  have hquery := query_of_parse hparsed (node?_of_isElement h.root) false
  let ids := ((d.candidates root false).filter (d.isMatch parsed root)).filter
    (d.isVisible d.viewport)
  refine ⟨ids, fun id ↦ ?_, ?_⟩
  · have hbelow : id ∈ d.candidates root false ↔ TransGen d.HasChild root id := h.mem_descendants
    rw [List.mem_filter, List.mem_filter, hbelow, isMatch_interactive root id hparsed,
      isVisible_iff, ShowsInteractive, and_assoc]
  · have hcopy : d.markVisible d.viewport settings.visibleAttribute = .ok (ids.foldl
        (fun d id ↦ d.insertAttribute id settings.visibleAttribute "true") d) := by
      rw [Document.markVisible, hquery]
      rfl
    have hviewport : (LivePage.answer .viewport : Access Document Box) d = (.ok d.viewport, d) :=
      rfl
    have hdocument : (LivePage.answer .document : Access Document Document) d = (.ok d, d) := rfl
    have hlift : (liftM (d.markVisible d.viewport settings.visibleAttribute) :
        Access Document Document) d = (.ok (ids.foldl
          (fun d id ↦ d.insertAttribute id settings.visibleAttribute "true") d), d) := by
      rw [hcopy]
      rfl
    rw [PageOutline.markVisible, Access.bind_of_ok hviewport, Access.bind_of_ok hdocument,
      Access.bind_of_ok hlift, foldl_insertAttribute]
    rfl

theorem attributes_mapAttributes (d : Document)
    (f : NodeId → OrderedMap String → OrderedMap String) (id : NodeId) :
    (d.mapAttributes f).attributes id = f id (d.attributes id) ∨
      (d.mapAttributes f).attributes id = d.attributes id := by
  rw [attributes_eq, attributes_eq, node?_mapAttributes]
  rcases d.node? id with _ | ⟨_ | _, _, _, _⟩
  · exact .inr rfl
  · exact .inl rfl
  · exact .inr rfl

end Document

open Document

variable {d : Document}

/-- The page is written as it is, but for the mark on each interactive element below the root whose
box lies within the viewport. The page itself is left alone. -/
theorem markVisible_marks (h : d.Reached) (settings : Settings) :
    ∃ marked : Document, markVisible settings d = (.ok (marked.markup root), d) ∧
      marked.viewport = d.viewport ∧
      (∀ id, d.ShowsInteractive id → marked.node? id = (d.node? id).map fun n ↦
        { n with content := n.content.setAttribute settings.visibleAttribute "true" }) ∧
      (∀ id, ¬d.ShowsInteractive id → marked.node? id = d.node? id) ∧
      ∀ id, marked.tag? id = d.tag? id ∧ marked.textContent id = d.textContent id ∧
        marked.parent? id = d.parent? id ∧ marked.childIds id = d.childIds id ∧
        (∀ key, key ≠ asciiLower settings.visibleAttribute →
          (marked.attributes id).get? key = (d.attributes id).get? key) ∧
        ((marked.attributes id).keys = (d.attributes id).keys ∨
          (marked.attributes id).keys =
            (d.attributes id).keys ++ [asciiLower settings.visibleAttribute]) := by
  obtain ⟨ids, hids, hanswer⟩ := exists_markVisible (arboreal_keptByBuilding.reached h) settings
  refine ⟨_, hanswer, rfl, fun id hid ↦ ?_, fun id hid ↦ ?_, fun id ↦ ⟨tag?_mapAttributes ..,
    textContent_mapAttributes .., parent?_mapAttributes .., childIds_mapAttributes .., ?_⟩⟩
  · rw [node?_mapAttributes]
    simp only [(hids id).2 hid, if_true, NodeContent.setAttribute_eq]
    rfl
  · rw [node?_mapAttributes]
    simp only [mt (hids id).1 hid, if_false, NodeEntry.mapAttributes_id, Option.map_id']
  · rcases attributes_mapAttributes d _ id with heq | heq
    · rw [heq]
      split
      · refine ⟨fun key hkey ↦ by simp [hkey], ?_⟩
        rw [OrderedMap.keys_insert]
        split
        · exact .inl rfl
        · exact .inr rfl
      · exact ⟨fun key _ ↦ rfl, .inl rfl⟩
    · rw [heq]
      exact ⟨fun key _ ↦ rfl, .inl rfl⟩

def scrolledPage : Document :=
  ((((((new "body").appendElement root "a").appendElement root "input").insertAttribute 2 "type"
    "Submit").insertAttribute 2 "data-visible" "false").setBox 1 ⟨10, 10, 50, 20⟩).setBox 2
      ⟨10, 900, 50, 20⟩

theorem markVisible_marks_scrolledPage :
    scrolledPage.Reached ∧ ∃ marked : Document,
      markVisible {} scrolledPage = (.ok (marked.markup root), scrolledPage) ∧
      (marked.attributes 1).get? "data-visible" = some "true" ∧
      (marked.attributes 2).get? "data-visible" = some "false" ∧
      (marked.attributes 2).keys = ["type", "data-visible"] := by
  have h : scrolledPage.Reached := by
    refine .setBox (.setBox (.insertAttribute (.insertAttribute (.appendElement (.appendElement
      (.new "body") ?_ "a") ?_ "input") 2 _ _) 2 _ _) 1 _) 2 _ <;> decide
  obtain ⟨marked, hanswer, -, hshown, hhidden, hkept⟩ := markVisible_marks h {}
  have hlink : scrolledPage.ShowsInteractive 1 :=
    ⟨.single ⟨by decide, by decide⟩, .inl (by decide), _, ⟨10, 10, 50, 20⟩, rfl, rfl, by decide⟩
  have hbutton : ¬scrolledPage.ShowsInteractive 2 := by
    intro hshows
    have hvisible : scrolledPage.isVisible scrolledPage.viewport 2 := isVisible_iff.2 hshows.2.2
    revert hvisible
    decide +kernel
  refine ⟨h, marked, hanswer, ?_, ?_, ?_⟩
  · rw [attributes_eq, hshown 1 hlink]
    decide +kernel
  · rw [attributes_eq, hhidden 2 hbutton]
    decide +kernel
  · rw [attributes_eq, hhidden 2 hbutton]
    decide +kernel

end PageOutline
