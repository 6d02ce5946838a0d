import PageOutline.Proofs.JsonFields
import PageOutline.Proofs.JsonNesting
import PageOutline.Recipe.Spec

namespace PageOutline

open Json

section Parts

theorem PageRule.ofJson_toJson (rule : PageRule) : ofJson rule.toJson = .ok rule := by
  cases rule with
  | path path allowRef => rfl
  | text selector contains => cases contains <;> rfl

theorem TextSpec.ofJson_toJson (t : TextSpec) : ofJson t.toJson = .ok t := by
  cases t <;> rfl

theorem NameSpec.ofJson_toJson (n : NameSpec) : ofJson n.toJson = .ok n := by
  cases n <;> rfl

theorem TextSpec.toJson_ne_null (t : TextSpec) : t.toJson ≠ .null := by
  cases t <;> exact Json.noConfusion

theorem NameSpec.toJson_ne_null (n : NameSpec) : n.toJson ≠ .null := by
  cases n <;> exact Json.noConfusion

end Parts

theorem Settings.ofJson_toJson (s : Settings) : ofJson s.toJson = .ok s := by
  have hfields : fieldsOf ⟨fieldNames, true, .malformed⟩ s.toJson = .ok _ :=
    fieldsOf_members (by simp [fieldNames]) (show fieldNames.Nodup by decide)
  rw [ofJson, hfields]
  simp only [fieldOr, List.lookup_cons, String.reduceBEq, asString, asList_ofStrings, bind,
    Except.bind]
  rfl

namespace RecipeSpec

def written (f : SpecFields) (children : List Json) : List (String × Option Json) :=
  [("selector", some (.string f.selector)),
    ("tag_name", f.tagName.map .string),
    ("text", f.text.map TextSpec.toJson),
    ("text_format", f.textFormat.map .string),
    ("add_text", some (.bool f.addText)),
    ("name", f.name.map NameSpec.toJson),
    ("clickable", some (.bool f.clickable)),
    ("click_selector", f.clickSelector.map .string),
    ("keep_attributes", some (.ofStrings f.keepAttributes)),
    ("class", f.cssClass.map .string),
    ("id", f.id.map .string),
    ("computed_attributes", some (.ofMap f.computedAttributes)),
    ("metadata", f.metadata.map .string),
    ("children", some (.array children)),
    ("direct_child_only", some (.bool f.directChildOnly)),
    ("query_from_root", some (.bool f.queryFromRoot)),
    ("separator_every", f.separatorEvery.map .ofNat),
    ("empty_message", f.emptyMessage.map .string)]

theorem members_eq_given (f : SpecFields) (children : List Json) :
    members f children = given (written f children) := by
  simp only [members, member?, written, given_cons, given_nil, List.append_assoc, List.append_nil]
  rfl

theorem toJsonAll_eq_map (ss : List RecipeSpec) : toJsonAll ss = ss.map toJson := by
  induction ss with
  | nil => rfl
  | cons s ss ih => rw [toJsonAll, ih, List.map_cons]

theorem depth_of_mem_children {levels : Nat} {f : SpecFields} {ss : List RecipeSpec}
    (h : (node f ss).toJson.depth ≤ levels + 1) : ∀ s ∈ ss, s.toJson.depth ≤ levels := by
  intro s hs
  rw [toJson, depth_object_le_iff, members_eq_given] at h
  have hlist := h ("children", array (toJsonAll ss)) (by simp [mem_given, written])
  have hitems := depth_array_le_iff.1 (Nat.le_succ_of_le hlist)
  rw [toJsonAll_eq_map] at hitems
  exact hitems _ (List.mem_map_of_mem hs)

theorem ofJson_toJson {levels : Nat} {s : RecipeSpec} (h : s.toJson.depth ≤ levels) :
    ofJson levels s.toJson = .ok s := by
  match s, levels with
  | .node f ss, 0 =>
    rw [toJson, depth] at h
    omega
  | .node f ss, levels + 1 =>
    have hchildren : asList (ofJson levels) (.array (toJsonAll ss)) = .ok ss := by
      rw [toJsonAll_eq_map]
      exact mapM_map_eq_ok fun s hs ↦ ofJson_toJson (depth_of_mem_children h s hs)
    have hnodup : ((written f (toJsonAll ss)).map Prod.fst).Nodup :=
      show fieldNames.Nodup by decide
    have hfields : fieldsOf ⟨fieldNames, true, .malformed⟩
        (.object (given (written f (toJsonAll ss)))) = .ok _ :=
      fieldsOf_given (fun f hf ↦ List.mem_map_of_mem hf) hnodup
    have htext (o : Option TextSpec) :
        (o.map TextSpec.toJson).elim (.ok none) (asOption TextSpec.ofJson) = .ok o :=
      elim_map_asOption o fun t ↦ ⟨t.toJson_ne_null, t.ofJson_toJson⟩
    have hname (o : Option NameSpec) :
        (o.map NameSpec.toJson).elim (.ok none) (asOption NameSpec.ofJson) = .ok o :=
      elim_map_asOption o fun n ↦ ⟨n.toJson_ne_null, n.ofJson_toJson⟩
    rw [toJson, members_eq_given, ofJson, hfields]
    -- each field is found under its name among those that were written
    simp only [fieldOr_given hnodup, bind, Except.bind]
    simp only [written, List.lookup_cons, String.reduceBEq, Option.join_some, Option.elim_some]
    simp only [elim_map_string, elim_map_ofNat, htext, hname, hchildren, asList_ofStrings,
      asMap_ofMap, asString, asBool]
    rfl

theorem nodesAll_eq_flatMap (ss : List RecipeSpec) : nodesAll ss = ss.flatMap nodes := by
  induction ss with
  | nil => rfl
  | cons s ss ih => rw [nodesAll, ih, List.flatMap_cons]

theorem isExact_toJson {s : RecipeSpec}
    (h : ∀ f ∈ s.nodes, ∀ n, f.separatorEvery = some n → n < Parser.integerBound) :
    s.toJson.isExact := by
  match s with
  | .node f ss =>
    rw [nodes, List.forall_mem_cons, nodesAll_eq_flatMap] at h
    have hchildren : (array (toJsonAll ss)).isExact := by
      rw [isExact_array, toJsonAll_eq_map, List.forall_mem_map]
      intro s hs
      exact isExact_toJson fun f hf ↦ h.2 f (List.mem_flatMap_of_mem hs hf)
    have htext (t : TextSpec) : t.toJson.isExact := by
      cases t <;> rfl
    have hname (n : NameSpec) : n.toJson.isExact := by
      cases n <;> rfl
    have hstring (s : String) : (Json.string s).isExact := rfl
    have hbool (b : Bool) : (Json.bool b).isExact := rfl
    have hinterval : ∀ n, f.separatorEvery = some n → (ofNat n).isExact :=
      fun n hn ↦ isExact_ofNat (h.1 n hn)
    have hwritten : ∀ w ∈ written f (toJsonAll ss), w.2.all isExact := by
      simp +contextual [written, Option.all_eq_true, hstring, hbool, htext, hname, hchildren,
        hinterval, isExact_ofStrings, isExact_ofMap]
    rw [toJson, members_eq_given, isExact_object]
    intro m hm
    exact hwritten _ (mem_given.1 hm)

end RecipeSpec

theorem PageSpec.ofJson_toJson {p : PageSpec} (h : p.recipe.toJson.depth ≤ maxDepth) :
    ofJson p.toJson = .ok p := by
  have hfields : fieldsOf ⟨["match", "recipe"], true, .malformed⟩ p.toJson = .ok _ :=
    fieldsOf_members (by simp) (by simp)
  rw [ofJson, hfields]
  simp only [field, List.lookup_cons, String.reduceBEq, p.rule.ofJson_toJson,
    RecipeSpec.ofJson_toJson h, bind, Except.bind]
  rfl

theorem Settings.isExact_toJson (s : Settings) : s.toJson.isExact := by
  have hstring (s : String) : (Json.string s).isExact := rfl
  simp [toJson, isExact_object, hstring, isExact_ofStrings]

theorem PageRule.isExact_toJson (rule : PageRule) : rule.toJson.isExact := by
  cases rule with
  | path path allowRef => rfl
  | text selector contains => cases contains <;> rfl

namespace CatalogFile

/-- The intervals of separators that a text can hold. -/
def IsCounted (c : CatalogFile) : Prop :=
  ∀ p ∈ c.pages, ∀ f ∈ p.recipe.nodes, ∀ n, f.separatorEvery = some n → n < 2 ^ 64

theorem depth_of_mem_pages {c : CatalogFile} (h : c.toJson.depth ≤ maxDepth) :
    ∀ p ∈ c.pages, p.recipe.toJson.depth ≤ maxDepth := by
  intro p hp
  have hlist := depth_object_le_iff.1 h ("pages", array (c.pages.map PageSpec.toJson)) (by simp)
  have hpage := depth_array_le_iff.1 hlist p.toJson (List.mem_map_of_mem hp)
  have hrecipe := depth_object_le_iff.1 hpage ("recipe", p.recipe.toJson) (by simp)
  exact hrecipe.trans (by decide)

theorem isExact_toJson {c : CatalogFile} (h : c.IsCounted) : c.toJson.isExact := by
  have hpages : (array (c.pages.map PageSpec.toJson)).isExact := by
    rw [isExact_array, List.forall_mem_map]
    intro p hp
    have hrecipe : p.recipe.toJson.isExact := RecipeSpec.isExact_toJson (h p hp)
    simp [PageSpec.toJson, isExact_object, p.rule.isExact_toJson, hrecipe]
  simp [toJson, isExact_object, c.settings.isExact_toJson, hpages]

theorem ofJson_toJson {c : CatalogFile} (h : c.toJson.depth ≤ maxDepth) :
    ofJson c.toJson = .ok c := by
  have hpages : asList PageSpec.ofJson (.array (c.pages.map PageSpec.toJson)) = .ok c.pages :=
    mapM_map_eq_ok fun p hp ↦ PageSpec.ofJson_toJson (depth_of_mem_pages h p hp)
  have hfields : fieldsOf ⟨["config", "pages"], true, .malformed⟩ c.toJson = .ok _ :=
    fieldsOf_members (by simp) (by simp)
  rw [ofJson, hfields]
  simp only [fieldOr, List.lookup_cons, String.reduceBEq, c.settings.ofJson_toJson, hpages, bind,
    Except.bind]
  rfl

/-- A catalog file is read back from its text as it was. -/
theorem parse_toJson {c : CatalogFile} (hdepth : c.toJson.depth ≤ maxDepth) (hc : c.IsCounted) :
    parse c.toJson.compress = .ok c ∧ parse c.toJson.pretty = .ok c := by
  have hfits := fits_of_depth_le hdepth (isExact_toJson hc)
  have hread := ofJson_toJson hdepth
  simp only [parse, parse_compress hfits, parse_pretty hfits]
  exact ⟨hread, hread⟩

def shopCatalog : CatalogFile where
  settings := { dropdownOptionTag := "li", preservedAttributes := [] }
  pages :=
    [⟨.path "/cart \"1\"" true,
      .node { selector := "body", name := some (.literal "cart\n"),
              separatorEvery := some 18446744073709551615 }
        [.node { selector := ".item", text := some (.selector ".title"), name := some .fromText,
                 clickable := true,
                 computedAttributes := .ofList [("data-sku", "attr:sku"), ("data-b", "attr:a")] }
          [.node { text := some (.extractor "text"), name := some .fromPosition } []]]⟩,
      ⟨.text "#search" (some "é"), .node { text := some .own, emptyMessage := some "" } []⟩,
      ⟨.text "h1" none, .node {} []⟩]

theorem parse_toJson_shopCatalog :
    shopCatalog.toJson.depth ≤ maxDepth ∧ shopCatalog.IsCounted ∧
      parse shopCatalog.toJson.compress = .ok shopCatalog ∧
      parse shopCatalog.toJson.pretty = .ok shopCatalog := by
  have hdepth : shopCatalog.toJson.depth ≤ maxDepth := by decide
  have hc : shopCatalog.IsCounted := by
    simp [IsCounted, shopCatalog, RecipeSpec.nodes, RecipeSpec.nodesAll]
  exact ⟨hdepth, hc, parse_toJson hdepth hc⟩

end CatalogFile

end PageOutline
