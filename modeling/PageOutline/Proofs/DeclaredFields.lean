import PageOutline.Proofs.JsonFields
import PageOutline.Proofs.JsonReading
import PageOutline.Recipe.Spec

namespace PageOutline

open Json

section Decoding

variable {α : Type} {fields : List (String × Json)} {name : String} {v : Json}

theorem of_fieldOr_eq_ok {absent a : α} {f : Json → Except JsonFault α}
    (h : fieldOr fields name absent f = .ok a) (hv : fields.lookup name = some v) :
    f v = .ok a := by
  rwa [fieldOr, hv] at h

theorem of_field_eq_ok {a : α} {f : Json → Except JsonFault α}
    (h : field fields name f = .ok a) (hv : fields.lookup name = some v) : f v = .ok a := by
  rwa [field, hv] at h

theorem exists_of_mapM_eq_ok {items : List Json} {as : List α} {f : Json → Except JsonFault α}
    (h : items.mapM f = .ok as) : ∀ i ∈ items, ∃ a, f i = .ok a := by
  induction items generalizing as with
  | nil => exact fun i hi ↦ absurd hi List.not_mem_nil
  | cons i items ih =>
    rw [List.mapM_cons] at h
    obtain ⟨a, ha, h⟩ := bind_eq_ok.1 h
    obtain ⟨later, hlater, -⟩ := bind_eq_ok.1 h
    exact List.forall_mem_cons.2 ⟨⟨a, ha⟩, ih hlater⟩

theorem of_asList_eq_ok {as : List α} {f : Json → Except JsonFault α} (h : asList f v = .ok as) :
    ∃ items, v = .array items ∧ ∀ i ∈ items, ∃ a, f i = .ok a := by
  cases v with
  | array items => exact ⟨items, rfl, exists_of_mapM_eq_ok h⟩
  | _ => cases h

theorem lookup_of_mem (hnodup : (fields.map Prod.fst).Nodup) (h : (name, v) ∈ fields) :
    fields.lookup name = some v := by
  induction fields with
  | nil => cases h
  | cons f fields ih =>
    rw [List.map_cons, List.nodup_cons] at hnodup
    rcases List.mem_cons.1 h with rfl | h
    · exact List.lookup_cons_self
    · have hne : name ≠ f.1 := by
        rintro rfl
        exact hnodup.1 (List.mem_map.2 ⟨_, h, rfl⟩)
      rw [List.lookup_cons, beq_false_of_ne hne]
      exact ih hnodup.2 h

theorem lookup_zip {names : List String} {items : List Json} (hnodup : names.Nodup) {i : Nat}
    (hname : names[i]? = some name) (hitem : items[i]? = some v) :
    (names.zip items).lookup name = some v := by
  induction names generalizing items i with
  | nil => cases hname
  | cons n names ih =>
    rw [List.nodup_cons] at hnodup
    cases items with
    | nil => cases hitem
    | cons item items =>
      rw [List.zip_cons_cons]
      cases i with
      | zero =>
        cases hname
        cases hitem
        exact List.lookup_cons_self
      | succ i =>
        have hne : name ≠ n := by
          rintro rfl
          exact hnodup.1 (List.mem_of_getElem? hname)
        rw [List.lookup_cons, beq_false_of_ne hne]
        exact ih hnodup.2 hname hitem

end Decoding

inductive CatalogRecord where
  | catalog
  | settings
  | page
  | recipe

inductive CatalogPart where
  | one (r : CatalogRecord)
  | many (r : CatalogRecord)

namespace CatalogRecord

def fieldNames : CatalogRecord → List String
  | .catalog => ["config", "pages"]
  | .settings => Settings.fieldNames
  | .page => ["match", "recipe"]
  | .recipe => RecipeSpec.fieldNames

def parts : CatalogRecord → List (String × CatalogPart)
  | .catalog => [("config", .one .settings), ("pages", .many .page)]
  | .settings => []
  | .page => [("recipe", .one .recipe)]
  | .recipe => [("children", .many .recipe)]

theorem nodup_fieldNames (r : CatalogRecord) : r.fieldNames.Nodup := by
  cases r <;> decide

def IsRead (v : Json) : CatalogRecord → Prop
  | .catalog => ∃ c, CatalogFile.ofJson v = .ok c
  | .settings => ∃ s, Settings.ofJson v = .ok s
  | .page => ∃ p, PageSpec.ofJson v = .ok p
  | .recipe => ∃ levels s, RecipeSpec.ofJson levels v = .ok s

end CatalogRecord

def CatalogPart.IsRead (v : Json) : CatalogPart → Prop
  | .one r => r.IsRead v
  | .many r => ∃ items, v = .array items ∧ ∀ i ∈ items, r.IsRead i

theorem CatalogRecord.IsRead.fields {r : CatalogRecord} {v : Json} (h : r.IsRead v) :
    ∃ found, v.fieldsOf ⟨r.fieldNames, true, .malformed⟩ = .ok found ∧
      ∀ name p x, (name, p) ∈ r.parts → found.lookup name = some x → p.IsRead x := by
  cases r with
  | catalog =>
    obtain ⟨c, h⟩ := h
    rw [CatalogFile.ofJson] at h
    obtain ⟨found, hfound, h⟩ := bind_eq_ok.1 h
    obtain ⟨settings, hsettings, h⟩ := bind_eq_ok.1 h
    obtain ⟨pages, hpages, -⟩ := bind_eq_ok.1 h
    refine ⟨found, hfound, ?_⟩
    intro name p x hp hx
    simp only [parts, List.mem_cons, List.not_mem_nil, Prod.mk.injEq, or_false] at hp
    obtain ⟨rfl, rfl⟩ | ⟨rfl, rfl⟩ := hp
    · exact ⟨settings, of_fieldOr_eq_ok hsettings hx⟩
    · exact of_asList_eq_ok (of_fieldOr_eq_ok hpages hx)
  | settings =>
    obtain ⟨s, h⟩ := h
    rw [Settings.ofJson] at h
    obtain ⟨found, hfound, -⟩ := bind_eq_ok.1 h
    exact ⟨found, hfound, nofun⟩
  | page =>
    obtain ⟨s, h⟩ := h
    rw [PageSpec.ofJson] at h
    obtain ⟨found, hfound, h⟩ := bind_eq_ok.1 h
    obtain ⟨rule, -, h⟩ := bind_eq_ok.1 h
    obtain ⟨recipe, hrecipe, -⟩ := bind_eq_ok.1 h
    refine ⟨found, hfound, ?_⟩
    intro name p x hp hx
    rw [parts, List.mem_singleton, Prod.mk.injEq] at hp
    obtain ⟨rfl, rfl⟩ := hp
    exact ⟨maxDepth, recipe, of_field_eq_ok hrecipe hx⟩
  | recipe =>
    obtain ⟨levels, s, h⟩ := h
    cases levels with
    | zero => cases h
    | succ levels =>
      simp only [RecipeSpec.ofJson, bind_eq_ok] at h
      obtain ⟨found, hfound, h⟩ := h
      -- the other fields come before the children
      iterate 17 obtain ⟨_, -, h⟩ := h
      obtain ⟨children, hchildren, -⟩ := h
      refine ⟨found, hfound, ?_⟩
      intro name p x hp hx
      rw [parts, List.mem_singleton, Prod.mk.injEq] at hp
      obtain ⟨rfl, rfl⟩ := hp
      obtain ⟨items, hitems, hread⟩ := of_asList_eq_ok (of_fieldOr_eq_ok hchildren hx)
      exact ⟨items, hitems, fun i hi ↦ ⟨levels, hread i hi⟩⟩

/-- `Place p q put`: in what `put` gives of a value, and what stands for `p`, the value stands for
`q`. -/
inductive Place : CatalogPart → CatalogPart → (Written → Written) → Prop
  | self (p : CatalogPart) : Place p p id
  /-- A field by its name. -/
  | member {r : CatalogRecord} (name : String) {p q : CatalogPart} {put : Written → Written}
      (hp : (name, p) ∈ r.parts) (h : Place p q put) (blank : Blank) (ms ns : List Member)
      (k : Padded (List Letter)) (hk : Letter.text? k.inner = some name) (b a : Blank) :
      Place (.one r) q fun w ↦ .object blank (ms ++ (k, ⟨b, put w, a⟩) :: ns)
  /-- A field by its position among the declared ones. -/
  | position {r : CatalogRecord} (name : String) {p q : CatalogPart} {put : Written → Written}
      (hp : (name, p) ∈ r.parts) (h : Place p q put) (blank : Blank) (ps qs : List (Padded Written))
      (hname : r.fieldNames[ps.length]? = some name) (b a : Blank) :
      Place (.one r) q fun w ↦ .array blank (ps ++ ⟨b, put w, a⟩ :: qs)
  /-- One of many. -/
  | item {r : CatalogRecord} {q : CatalogPart} {put : Written → Written}
      (h : Place (.one r) q put) (blank : Blank) (ps qs : List (Padded Written)) (b a : Blank) :
      Place (.many r) q fun w ↦ .array blank (ps ++ ⟨b, put w, a⟩ :: qs)

/-- Whether all names of an object are declared, and none comes twice. -/
def CatalogRecord.Declares (r : CatalogRecord) (ms : List Member) : Prop :=
  (∀ name ∈ Written.names ms, name ∈ r.fieldNames.map some) ∧ (Written.names ms).Nodup

theorem Place.isRead {p q : CatalogPart} {put : Written → Written} (h : Place p q put)
    {w : Written} {v : Json} (hv : (put w).value? = some v) (hread : p.IsRead v) :
    ∃ x, w.value? = some x ∧ q.IsRead x := by
  induction h generalizing v with
  | self => exact ⟨v, hv, hread⟩
  | member name hp _ blank ms ns k hk b a ih =>
    obtain ⟨found, hfound, hparts⟩ := hread.fields
    obtain ⟨members, hmembers, rfl⟩ := Option.map_eq_some_iff.1 hv
    obtain ⟨rfl, -, hnodup⟩ := (fieldsOf_object_eq_ok_iff rfl).1 hfound
    obtain ⟨name, x, hname, hx, hmem⟩ := Written.mem_of_memberValues? hmembers _
      (List.mem_append_right ms List.mem_cons_self)
    obtain rfl := Option.some.inj (hk.symm.trans hname)
    exact ih hx (hparts _ _ _ hp (lookup_of_mem hnodup hmem))
  | @position r name p q put hp _ blank ps qs hname b a ih =>
    obtain ⟨found, hfound, hparts⟩ := hread.fields
    obtain ⟨items, hitems, rfl⟩ := Option.map_eq_some_iff.1 hv
    obtain ⟨x, hx, hitem⟩ := Written.getElem?_of_itemValues? hitems
    rw [fieldsOf] at hfound
    split_ifs at hfound
    cases hfound
    exact ih hx (hparts _ _ _ hp (lookup_zip r.nodup_fieldNames hname hitem))
  | item _ blank ps qs b a ih =>
    obtain ⟨items, rfl, hall⟩ := hread
    obtain ⟨found, hitems, hsame⟩ := Option.map_eq_some_iff.1 hv
    cases hsame
    obtain ⟨x, hx, hitem⟩ := Written.getElem?_of_itemValues? hitems
    exact ih hx (hall x (List.mem_of_getElem? hitem))

theorem CatalogRecord.IsRead.declares {r : CatalogRecord} {blank : Blank} {ms : List Member}
    {v : Json} (hv : (Written.object blank ms).value? = some v) (h : r.IsRead v) : r.Declares ms := by
  obtain ⟨found, hfound, -⟩ := h.fields
  obtain ⟨members, hmembers, rfl⟩ := Option.map_eq_some_iff.1 hv
  obtain ⟨rfl, hnames, hnodup⟩ := (fieldsOf_object_eq_ok_iff rfl).1 hfound
  rw [Declares, Written.names_of_memberValues? hmembers]
  refine ⟨?_, hnodup.map (Option.some_injective _)⟩
  intro name hname
  rw [List.map_map, List.mem_map] at hname
  obtain ⟨m, hm, rfl⟩ := hname
  exact List.mem_map_of_mem (hnames m hm)

theorem CatalogFile.declares_of_parse {t : Padded Written} {c : CatalogFile}
    (h : parse t.text = .ok c) {r : CatalogRecord} {put : Written → Written}
    (hput : Place (.one .catalog) (.one r) put) {blank : Blank} {ms : List Member}
    (ht : t.inner = put (.object blank ms)) : r.Declares ms := by
  obtain ⟨v, hv, hc⟩ := bind_eq_ok.1 h
  have hvalue := value?_of_parse hv
  rw [ht] at hvalue
  obtain ⟨x, hx, hread⟩ := hput.isRead hvalue ⟨c, hc⟩
  exact hread.declares hx

theorem CatalogRecord.not_declares {r : CatalogRecord} {ms ns : List Member} {m : Member}
    (hm : m.name? ∉ r.fieldNames.map some ∨ m.name? ∈ Written.names (ms ++ ns)) :
    ¬r.Declares (ms ++ m :: ns) := by
  intro h
  rw [Declares, Written.names, List.map_append, List.map_cons, List.nodup_middle,
    List.nodup_cons] at h
  rcases hm with hm | hm
  · exact hm (h.1 _ (by simp))
  · rw [Written.names, List.map_append] at hm
    exact h.2.1 hm

/-- All records of a catalog file that is read have declared names only, none of them twice. With
one more member, whose name is unknown or comes again, nothing is read. -/
theorem CatalogFile.parse_declared {text : String} {c : CatalogFile} (h : parse text = .ok c) :
    (∃ t : Padded Written, t.text = text) ∧
      ∀ (t : Padded Written) (r : CatalogRecord) (put : Written → Written) (blank : Blank)
        (ms : List Member),
        t.text = text → Place (.one .catalog) (.one r) put → t.inner = put (.object blank ms) →
          r.Declares ms ∧
          ∀ before m after, ms = before ++ after →
            m.name? ∉ r.fieldNames.map some ∨ m.name? ∈ Written.names ms →
            ∃ fault, parse (Padded.text { t with
              inner := put (.object blank (before ++ m :: after)) }) = .error fault := by
  refine ⟨?written, fun t r put blank ms htext hput ht ↦ ⟨?declared, ?rejected⟩⟩
  case written =>
    obtain ⟨v, hv, -⟩ := bind_eq_ok.1 h
    exact exists_text_of_parse hv
  case declared =>
    rw [← htext] at h
    exact declares_of_parse h hput ht
  case rejected =>
    rintro before m after rfl hm
    cases hparse : parse (Padded.text { t with
      inner := put (.object blank (before ++ m :: after)) }) with
    | error fault => exact ⟨fault, rfl⟩
    | ok d => exact absurd (declares_of_parse hparse hput rfl) (CatalogRecord.not_declares hm)

section Nested

def Json.Padded.bare {α : Type} (a : α) : Padded α := ⟨.empty, a, .empty⟩

def Json.Letter.ofPlain (s : String) : List Letter :=
  s.toList.filterMap fun c ↦
    if h : c ≠ '"' ∧ c ≠ '\\' ∧ 0x20 ≤ c.toNat then some (.plain c h) else none

def Json.Member.ofPlain (name : String) (w : Written) : Member :=
  (.bare (Letter.ofPlain name), .bare w)

def nestedFile (ms : List Member) : Written :=
  let rule := Written.object .empty [Member.ofPlain "path" (.string (Letter.ofPlain "/"))]
  let recipe := Written.object .empty
    [Member.ofPlain "children" (.array .empty [.bare (.object .empty ms)])]
  let page := Written.object .empty [Member.ofPlain "match" rule, Member.ofPlain "recipe" recipe]
  .object .empty [Member.ofPlain "pages" (.array .empty [.bare page])]

theorem place_nestedFile : ∃ put, Place (.one .catalog) (.one .recipe) put ∧
    ∀ ms, nestedFile ms = put (.object .empty ms) := by
  have hchild : Place (.many .recipe) (.one .recipe) _ :=
    .item (.self _) .empty [] [] .empty .empty
  have hrecipe : Place (.one .recipe) (.one .recipe) _ :=
    .member "children" List.mem_cons_self hchild .empty [] []
      (.bare (Letter.ofPlain "children")) rfl .empty .empty
  have hpage : Place (.one .page) (.one .recipe) _ :=
    .member "recipe" List.mem_cons_self hrecipe .empty
      [Member.ofPlain "match" (.object .empty
        [Member.ofPlain "path" (.string (Letter.ofPlain "/"))])] []
      (.bare (Letter.ofPlain "recipe")) rfl .empty .empty
  have hpages : Place (.many .page) (.one .recipe) _ :=
    .item hpage .empty [] [] .empty .empty
  have hfile : Place (.one .catalog) (.one .recipe) _ :=
    .member "pages" (List.mem_cons_of_mem _ List.mem_cons_self) hpages .empty [] []
      (.bare (Letter.ofPlain "pages")) rfl .empty .empty
  exact ⟨_, hfile, fun ms ↦ rfl⟩

def escapedChildren : Member :=
  (.bare (.code '0' '0' '6' '3' rfl :: Letter.ofPlain "hildren"), .bare .null)

theorem CatalogFile.parse_declared_nestedFile :
    (∃ c, parse (Padded.bare (nestedFile [Member.ofPlain "children" (.array .empty [])])).text =
        .ok c) ∧
      ∃ fault, parse (Padded.bare (nestedFile
        [escapedChildren, Member.ofPlain "children" (.array .empty [])])).text = .error fault := by
  obtain ⟨put, hput, hfile⟩ := place_nestedFile
  have hread : ∃ c, parse (Padded.bare
      (nestedFile [Member.ofPlain "children" (.array .empty [])])).text = .ok c := ⟨_, rfl⟩
  refine ⟨hread, ?_⟩
  obtain ⟨c, hc⟩ := hread
  obtain ⟨-, hrejected⟩ := (parse_declared hc).2 _ _ put .empty _ rfl hput (hfile _)
  have hfault := hrejected [] escapedChildren _ rfl (.inr (by decide))
  rwa [List.nil_append, ← hfile] at hfault

end Nested

end PageOutline
