import PageOutline.Proofs.DocumentElement

namespace PageOutline.Html

open Draft (Place)

def Formatting.Lowered : Formatting → Prop
  | .mark => True
  | .element _ tag => tag.Lowered

def Draft.Knows (d : Draft) (e : OpenElement) : Prop :=
  d.kind? e.id = some (some (e.vocabulary, e.name))

theorem sublist_of_outside? {target shield : OpenElement → Bool} {stack outside : List OpenElement}
    (h : outside? target shield stack = some outside) : outside.Sublist stack := by
  induction stack with
  | nil => cases h
  | cons e stack ih =>
    rw [outside?] at h
    split at h
    · cases h
      exact List.sublist_cons_self ..
    · split at h
      · cases h
      · exact (ih h).cons e

theorem lowered_of_element? {f : Formatting} (hf : f.Lowered) {e : Nat × Tag}
    (he : f.element? = some e) : e.2.Lowered := by
  cases f with
  | mark => cases he
  | element id tag =>
    cases he
    exact hf

theorem sublist_dropThird (tag : Tag) (seen : Nat) (fs : List Formatting) :
    (Formatting.dropThird tag seen fs).Sublist fs := by
  induction fs generalizing seen with
  | nil => exact .slnil
  | cons f fs ih =>
    cases f with
    | mark => exact .refl _
    | element id t =>
      rw [Formatting.dropThird]
      split
      · split
        · exact List.sublist_cons_self ..
        · exact (ih _).cons_cons _
      · exact (ih _).cons_cons _

namespace Builder

/-- The document element `h` is the first element of the document. It may be open outside of all
others only, and so is never moved. -/
structure Sound (h : Nat) (b : Builder) : Prop where
  document : b.draft.kind? Draft.document = some none
  element : b.draft.kind? h = some (some (.html, "html"))
  leads : b.draft.Leads h
  lowered : b.draft.Lowered
  known : ∀ e ∈ b.stack, b.draft.Knows e
  lowest : b.stack.Pairwise fun e _ ↦ e.id ≠ h
  head : ∀ e ∈ b.head, b.draft.Knows e ∧ e.id ≠ h
  formatting : ∀ f ∈ b.formatting, f.Lowered

namespace Sound

variable {b c : Builder} {h : Nat} {tag : Tag}

section Parts

variable (hb : b.Sound h)

include hb

theorem size_ne : b.draft.size ≠ h := by
  rintro rfl
  have hnone : b.draft.kind? b.draft.size = none := by
    rw [Draft.kind?, Draft.size, Array.getElem?_eq_none (Nat.le_refl _)]
    rfl
  cases hnone.symm.trans hb.element

theorem ne_of_isHtml {e : OpenElement} (he : b.draft.Knows e) {name : String}
    (hname : e.isHtml name) (hne : name ≠ "html") : e.id ≠ h := by
  intro hid
  rw [OpenElement.isHtml, Bool.and_eq_true, beq_iff_eq, beq_iff_eq] at hname
  have hkind := he.symm.trans (hid ▸ hb.element)
  rw [hname.1, hname.2] at hkind
  exact hne (by simpa using hkind)

theorem withDraft {d : Draft} (hd : b.draft.Keeps h d) : { b with draft := d }.Sound h where
  document := hd.kind _ _ hb.document
  element := hd.kind _ _ hb.element
  leads := hd.leads hb.leads
  lowered := hd.lowered hb.lowered
  known e he := hd.kind _ _ (hb.known e he)
  lowest := hb.lowest
  head e he := ⟨hd.kind _ _ (hb.head e he).1, (hb.head e he).2⟩
  formatting := hb.formatting

theorem withOpen {above outer : List OpenElement}
    (habove : ∀ e ∈ above, b.draft.Knows e ∧ e.id ≠ h) (houter : outer.Sublist b.stack) :
    { b with stack := above ++ outer }.Sound h := by
  refine { hb with known := ?_, lowest := ?_ }
  · exact List.forall_mem_append.2
      ⟨fun e he ↦ (habove e he).1, fun e he ↦ hb.known e (houter.subset he)⟩
  · exact List.pairwise_append.2
      ⟨List.pairwise_of_forall_mem_list fun e he _ _ ↦ (habove e he).2,
        hb.lowest.sublist houter, fun e he _ _ ↦ (habove e he).2⟩

theorem withStack {stack : List OpenElement} (hs : stack.Sublist b.stack) :
    { b with stack }.Sound h :=
  hb.withOpen (List.forall_mem_nil _) hs

theorem withFormatting {formatting : List Formatting} (hf : ∀ f ∈ formatting, f.Lowered) :
    { b with formatting }.Sound h :=
  { hb with formatting := hf }

theorem goTo (stage : Stage) : (b.goTo stage).Sound h := { hb with }

theorem forbidFrameset : b.forbidFrameset.Sound h := { hb with }

theorem resetStage : b.resetStage.Sound h := { hb with }

theorem pushMark : b.pushMark.Sound h :=
  hb.withFormatting (List.forall_mem_cons.2 ⟨trivial, hb.formatting⟩)

theorem clearToMark : b.clearToMark.Sound h := by
  apply hb.withFormatting
  intro f hf
  exact hb.formatting f ((List.dropWhile_sublist _).subset (List.mem_of_mem_tail hf))

end Parts

section Closing

variable (hb : b.Sound h)

include hb

theorem pop : b.pop.Sound h := hb.withStack (List.tail_sublist _)

theorem popIf (name : String) : (b.popIf name).Sound h := by
  unfold Builder.popIf
  split
  · exact hb.pop
  · exact hb

theorem close? {target shield : OpenElement → Bool} (hc : b.close? target shield = some c) :
    c.Sound h := by
  obtain ⟨stack, hstack, rfl⟩ := Option.map_eq_some_iff.1 hc
  exact hb.withStack (sublist_of_outside? hstack)

theorem close (target shield : OpenElement → Bool) : (b.close target shield).Sound h := by
  unfold Builder.close
  cases hc : b.close? target shield with
  | none => exact hb
  | some c => exact hb.close? hc

theorem closeThrough (name : String) : (b.closeThrough name).Sound h := hb.close ..

theorem closeParagraph : b.closeParagraph.Sound h := hb.close ..

theorem closeTo (outer : OpenElement → Bool) : (b.closeTo outer).Sound h :=
  hb.withStack (List.dropWhile_sublist _)

theorem closeImplied (kept : String) : (b.closeImplied kept).Sound h :=
  hb.withStack (List.dropWhile_sublist _)

theorem removeOpen (id : Nat) : (b.removeOpen id).Sound h := hb.withStack List.filter_sublist

theorem endOther (name : String) : (b.endOther name).Sound h := hb.close ..

end Closing

section Adding

theorem fits_fosterPlace (hb : b.Sound h) {stack : List OpenElement}
    (hs : ∀ e ∈ stack, b.draft.Knows e) : b.draft.Fits h (fosterPlace b.draft stack) := by
  induction stack with
  | nil => trivial
  | cons e stack ih =>
    rw [List.forall_mem_cons] at hs
    rw [fosterPlace]
    split
    · trivial
    · split
      · next htable =>
        split
        · exact ⟨hb.ne_of_isHtml hs.1 htable (by decide), _, hs.1⟩
        · trivial
      · split
        · trivial
        · exact ih hs.2

variable (hb : b.Sound h)

include hb

theorem fits_placeIn (target : OpenElement) : b.draft.Fits h (b.placeIn target) := by
  unfold placeIn
  split
  · exact hb.fits_fosterPlace hb.known
  · trivial

theorem fits_place : b.draft.Fits h b.place := by
  unfold place
  split
  · trivial
  · exact hb.fits_placeIn _

theorem insert {content : DraftContent} (hc : content.Lowered) : (b.insert content).Sound h :=
  hb.withDraft (Draft.keeps_add hb.fits_place hc)

theorem insertInto (parent : Nat) {content : DraftContent} (hc : content.Lowered) :
    (b.insertInto parent content).Sound h := by
  have hfits : b.draft.Fits h (.last parent) := trivial
  exact hb.withDraft (Draft.keeps_add hfits hc)

theorem insertChar (c : Char) : (b.insertChar c).Sound h :=
  hb.withDraft (Draft.keeps_addChar hb.fits_place c)

theorem insertComment (s : String) : (b.insertComment s).Sound h := hb.insert trivial

theorem insertClosed (vocabulary : Vocabulary) (ht : tag.Lowered) :
    (b.insertClosed vocabulary tag).Sound h :=
  hb.insert ht

theorem insertVoid (ht : tag.Lowered) : (b.insertVoid tag).Sound h := hb.insertClosed .html ht

theorem insertOpen (vocabulary : Vocabulary) (ht : tag.Lowered) :
    (b.insertOpen vocabulary tag).Sound h := by
  have hnew : (b.insertClosed vocabulary tag).draft.Knows ⟨b.draft.size, vocabulary, tag.name⟩ :=
    Draft.kind?_add_size hb.fits_place _
  exact (hb.insertClosed vocabulary ht).withOpen (List.forall_mem_singleton.2 ⟨hnew, hb.size_ne⟩)
    (.refl _)

theorem openHtml (ht : tag.Lowered) : (b.openHtml tag).Sound h := hb.insertOpen .html ht

theorem openNamed {name : String} (hname : IsLowered name) : (b.openNamed name).Sound h :=
  hb.openHtml (Tag.lowered_ofName hname)

theorem openText (ht : tag.Lowered) (reading : Reading) : (b.openText tag reading).Sound h :=
  { hb.openHtml ht with }

theorem mergeHtml (ht : tag.Lowered) : (b.mergeHtml tag).Sound h := by
  unfold Builder.mergeHtml
  split
  · split
    · exact hb
    · exact hb.withDraft (Draft.keeps_addMissing _ _ ht.2)
  · exact hb

end Adding

section FormattingElements

variable (hb : b.Sound h)

include hb

theorem openFormatting (ht : tag.Lowered) : (b.openFormatting tag).Sound h := by
  have hopened := hb.openHtml ht
  exact hopened.withFormatting (List.forall_mem_cons.2 ⟨ht, hopened.formatting⟩)

theorem reopenFormatting : b.reopenFormatting.Sound h := by
  unfold Builder.reopenFormatting
  have hkept : ∀ f ∈ b.formatting.drop (b.formatting.takeWhile fun f ↦ !b.isOpenOrMark f).length,
      f.Lowered := fun f hf ↦ hb.formatting f (List.mem_of_mem_drop hf)
  have hclosed : ∀ e ∈ (b.formatting.takeWhile fun f ↦ !b.isOpenOrMark f).reverse.filterMap
      Formatting.element?, e.2.Lowered := by
    intro e he
    obtain ⟨f, hf, hfe⟩ := List.mem_filterMap.1 he
    have hf := List.takeWhile_subset _ (List.mem_reverse.1 hf)
    exact lowered_of_element? (hb.formatting f hf) hfe
  exact List.foldlRecOn _ _ (hb.withFormatting hkept) fun b hb e he ↦
    hb.openFormatting (hclosed e he)

theorem startFormatting (ht : tag.Lowered) : (b.startFormatting tag).Sound h := by
  have hkept : ∀ f ∈ Formatting.dropThird tag 0 b.formatting, f.Lowered := fun f hf ↦
    hb.formatting f ((sublist_dropThird tag 0 _).subset hf)
  exact (hb.withFormatting hkept).openFormatting ht

theorem forgetFormatting (id : Nat) : (b.forgetFormatting id).Sound h :=
  hb.withFormatting fun f hf ↦ hb.formatting f (List.mem_of_mem_filter hf)

theorem lowered_of_formattingNamed? {name : String} {id : Nat}
    (hf : b.formattingNamed? name = some (id, tag)) : tag.Lowered := by
  obtain ⟨f, hmem, hfe⟩ := List.mem_filterMap.1 (List.mem_of_find?_eq_some hf)
  exact lowered_of_element? (hb.formatting f (List.takeWhile_subset _ hmem)) hfe

end FormattingElements

end Sound

section Adoption

variable {b : Builder} {h : Nat} {tag : Tag} {stack : List OpenElement} {c : Carried}

structure Carried.Sound (h : Nat) (stack : List OpenElement) (c : Carried) : Prop where
  builder : c.builder.Sound h
  stack_eq : c.builder.stack = stack
  last : c.last ≠ h
  kept : ∀ e ∈ c.kept, c.builder.draft.Knows e ∧ e.id ≠ h

theorem Carried.Sound.carry (hc : c.Sound h stack) (block count : Nat) (e : OpenElement) :
    (Builder.carry block count e c).Sound h stack := by
  unfold Builder.carry
  dsimp only
  split
  · next id tag hfind =>
    have ht : tag.Lowered := hc.builder.formatting _ (List.mem_of_find?_eq_some hfind)
    split
    · exact { hc with builder := hc.builder.forgetFormatting e.id }
    · have hcreated : c.builder.draft.Keeps h
          (c.builder.draft.create (.element .html tag.name tag.attributes)) := Draft.keeps_create ht
      have hnew := Draft.kind?_create_size (d := c.builder.draft)
        (.element .html tag.name tag.attributes)
      have hhung := (Draft.keeps_detach (c.builder.draft.create
        (.element .html tag.name tag.attributes)) hc.last).trans
          (Draft.keeps_append _ c.builder.draft.size c.last)
      have hmoved := hcreated.trans hhung
      have hne := hc.builder.size_ne
      refine ⟨(hc.builder.withDraft hmoved).withFormatting ?_, hc.stack_eq, hne, ?_⟩
      · intro f hf
        obtain ⟨g, hg, rfl⟩ := List.mem_map.1 hf
        split
        · exact ht
        · exact hc.builder.formatting g hg
      · refine List.forall_mem_cons.2 ⟨⟨?_, hne⟩, fun e he ↦ ?_⟩
        · exact hhung.kind _ _ hnew
        · exact ⟨hmoved.kind _ _ (hc.kept e he).1, (hc.kept e he).2⟩
  · exact hc

theorem Carried.Sound.carryAll (hc : c.Sound h stack) (block count : Nat)
    (between : List OpenElement) : (Builder.carryAll block count between c).Sound h stack := by
  induction between generalizing count c with
  | nil => exact hc
  | cons e between ih => exact ih (hc.carry block count e) (count + 1)

theorem mem_insertBehind {id : Nat} {entry f : Formatting} {fs : List Formatting}
    (hf : f ∈ insertBehind id entry fs) : f = entry ∨ f ∈ fs := by
  induction fs with
  | nil => exact .inl (List.mem_singleton.1 hf)
  | cons g fs ih =>
    rw [insertBehind] at hf
    split at hf
    · simpa using hf
    · rcases List.mem_cons.1 hf with rfl | hf
      · exact .inr List.mem_cons_self
      · exact (ih hf).imp_right (List.mem_cons_of_mem _)

theorem mem_of_splitAtBlock {inner inside between : List OpenElement} {block : OpenElement}
    (hs : splitAtBlock inner = some (inside, block, between)) :
    block ∈ inner ∧ ∀ e ∈ inside, e ∈ inner := by
  unfold splitAtBlock at hs
  split at hs
  · cases hs
  · next block inside hsplit =>
    cases hs
    have hsub : (block :: inside).Sublist inner.reverse :=
      hsplit ▸ List.dropWhile_sublist _
    refine ⟨List.mem_reverse.1 (hsub.subset List.mem_cons_self), fun e he ↦ ?_⟩
    exact List.mem_reverse.1 (hsub.subset (List.mem_cons_of_mem _ (List.mem_reverse.1 he)))

namespace Sound

theorem tradePlaces (hb : b.Sound h) (ht : tag.Lowered) (id : Nat) {inside : List OpenElement}
    (hinside : ∀ e ∈ inside, e ∈ b.stack ∧ e.id ≠ h) {block : OpenElement}
    (hblock : block ∈ b.stack ∧ block.id ≠ h) (between : List OpenElement)
    {ancestor : OpenElement} {outer : List OpenElement}
    (houter : (ancestor :: outer).Sublist b.stack) :
    (b.tradePlaces id tag inside block between ancestor outer).Sound h := by
  have hstart : Carried.Sound h b.stack ⟨b, block.id, [], none⟩ :=
    ⟨hb, rfl, hblock.2, List.forall_mem_nil _⟩
  have hc := hstart.carryAll block.id 1 between
  unfold Builder.tradePlaces
  generalize carryAll block.id 1 between ⟨b, block.id, [], none⟩ = c at hc
  have hdetached := Draft.keeps_detach c.builder.draft hc.last
  have htaken := hc.builder.withDraft hdetached
  have hplaced := Draft.keeps_put (htaken.fits_placeIn ancestor) c.last
  dsimp only at hplaced ⊢
  set placed := Draft.put _ c.last (c.builder.draft.detach c.last)
  have hcreated : placed.Keeps h (placed.create (.element .html tag.name tag.attributes)) :=
    Draft.keeps_create ht
  have hdocument : block.id ≠ Draft.document := by
    intro hid
    cases (hb.known block hblock.1).symm.trans (hid ▸ hb.document)
  have hhung := (Draft.keeps_moveChildren (h := h) (placed.create
    (.element .html tag.name tag.attributes)) hdocument placed.size).trans
      (Draft.keeps_append _ block.id placed.size)
  have hmoved := hplaced.trans (hcreated.trans hhung)
  have hresult := htaken.withDraft hmoved
  have hnew := hhung.kind _ _ (Draft.kind?_create_size (d := placed)
    (.element .html tag.name tag.attributes))
  have hne : placed.size ≠ h := (htaken.withDraft hplaced).size_ne
  set moved := Draft.append _ block.id placed.size
  have hstays : ∀ e ∈ b.stack, moved.Knows e := fun e he ↦ hresult.known e (hc.stack_eq ▸ he)
  have hkept : ∀ e ∈ c.kept, moved.Knows e ∧ e.id ≠ h :=
    fun e he ↦ ⟨(hdetached.trans hmoved).kind _ _ (hc.kept e he).1, (hc.kept e he).2⟩
  have habove : ∀ e ∈ inside ++ ⟨placed.size, .html, tag.name⟩ :: block :: c.kept.reverse,
      moved.Knows e ∧ e.id ≠ h := by
    simp only [List.mem_append, List.mem_cons, List.mem_reverse]
    rintro e (he | rfl | rfl | he)
    · exact ⟨hstays e (hinside e he).1, (hinside e he).2⟩
    · exact ⟨hnew, hne⟩
    · exact ⟨hstays _ hblock.1, hblock.2⟩
    · exact hkept e he
  refine (hresult.withOpen habove (hc.stack_eq.symm ▸ houter)).withFormatting fun f hf ↦ ?_
  split at hf
  · obtain ⟨g, hg, rfl⟩ := List.mem_map.1 hf
    split
    · exact ht
    · exact hresult.formatting g hg
  · rcases mem_insertBehind (List.mem_of_mem_filter hf) with rfl | hf
    · exact ht
    · exact hresult.formatting f hf

theorem adopt (name : String) (rounds : Nat) (hb : b.Sound h) :
    (Builder.adopt name rounds b).Sound h := by
  induction rounds generalizing b with
  | zero => exact hb
  | succ rounds ih =>
    rw [Builder.adopt]
    split
    · exact hb.endOther name
    · next id tag hnamed =>
      have ht := hb.lowered_of_formattingNamed? hnamed
      split
      · exact hb.forgetFormatting id
      · next e outer hdrop =>
        have hstack : b.stack = b.stack.takeWhile (·.id != id) ++ e :: outer := by
          rw [← hdrop, List.takeWhile_append_dropWhile]
        have hinner : ∀ x ∈ b.stack.takeWhile (·.id != id), x ∈ b.stack ∧ x.id ≠ h := by
          intro x hx
          have hlowest := hb.lowest
          rw [hstack, List.pairwise_append] at hlowest
          exact ⟨List.takeWhile_subset _ hx, hlowest.2.2 x hx e List.mem_cons_self⟩
        have houter : outer.Sublist b.stack :=
          (List.sublist_cons_self e outer).trans (hdrop ▸ List.dropWhile_sublist _)
        split
        · exact hb
        · split
          · exact (hb.withStack houter).forgetFormatting id
          · exact hb
          · next inside block between ancestor outer hsplit =>
            obtain ⟨hblock, hinside⟩ := mem_of_splitAtBlock hsplit
            exact ih (hb.tradePlaces ht id (fun e he ↦ hinner e (hinside e he)) (hinner _ hblock)
              between houter)

theorem endFormatting (hb : b.Sound h) (name : String) : (b.endFormatting name).Sound h := by
  unfold Builder.endFormatting
  split
  · split
    · exact hb.pop
    · exact hb.adopt name 8
  · exact hb

theorem endOpenLink (hb : b.Sound h) : b.endOpenLink.Sound h := by
  unfold Builder.endOpenLink
  split
  · exact ((hb.endFormatting "a").forgetFormatting _).removeOpen _
  · exact hb

end Sound

end Adoption

end Builder

end PageOutline.Html
