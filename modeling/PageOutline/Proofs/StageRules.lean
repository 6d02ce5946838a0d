import PageOutline.Proofs.BuilderSteps

namespace PageOutline.Html

def Token.Lowered : Token → Prop
  | .startTag tag => tag.Lowered
  | .char _ | .endTag _ | .comment _ | .doctype _ | .finish => True

namespace Outcome

variable {P Q : Builder → Prop} {o o' : Outcome}

def All (P : Builder → Prop) : Outcome → Prop
  | .done b | .again b => P b

theorem All.ite {c : Prop} [Decidable c] (ho : o.All P) (ho' : o'.All P) :
    (if c then o else o').All P := by
  split
  · exact ho
  · exact ho'

theorem All.imp (ho : o.All P) (hPQ : ∀ b, P b → Q b) : o.All Q := by
  cases o with
  | done b => exact hPQ b ho
  | again b => exact hPQ b ho

end Outcome

theorem isLowered_foreignName {name : String} (h : IsLowered name) :
    IsLowered (Builder.foreignName name) := by
  have hdrop (n : Nat) : IsLowered (String.ofList (name.toList.drop n)) := by
    intro c hc
    rw [String.toList_ofList] at hc
    exact h c (List.mem_of_mem_drop hc)
  unfold Builder.foreignName
  split
  · exact hdrop 6
  · split
    · exact hdrop 4
    · exact h

namespace Builder.Sound

variable {b : Builder} {h : Nat} {tag : Tag} {t : Token}

theorem ite {c : Prop} [Decidable c] {b' : Builder} (hb : b.Sound h) (hb' : b'.Sound h) :
    (if c then b else b').Sound h := by
  split
  · exact hb
  · exact hb'

section Head

variable (hb : b.Sound h)

include hb

theorem startInHead (ht : tag.Lowered) : (b.startInHead tag).Sound h :=
  .ite (hb.insertVoid ht) <| .ite (hb.openText ht _) <| .ite (hb.openText ht _) <|
    .ite { (hb.openHtml ht).pushMark with } (hb.openText ht _)

theorem endTemplate : b.endTemplate.Sound h :=
  .ite { (hb.closeThrough "template").clearToMark with } hb

theorem openHead (ht : tag.Lowered) : (b.openHead tag).Sound h := by
  have hopened := hb.openHtml ht
  refine { hopened with head := ?_ }
  rintro e ⟨⟩
  exact ⟨hopened.known _ List.mem_cons_self, hb.size_ne⟩

theorem startBehindHead (ht : tag.Lowered) : (b.startBehindHead tag).Sound h := by
  unfold Builder.startBehindHead
  split
  · next head hhead =>
    obtain ⟨hknown, hne⟩ := hb.head head hhead
    have hpushed : { b with stack := head :: b.stack }.Sound h :=
      hb.withOpen (List.forall_mem_singleton.2 ⟨hknown, hne⟩) (.refl _)
    exact (hpushed.startInHead ht).removeOpen head.id
  · exact hb

theorem beforeHead (ht : t.Lowered) : (b.beforeHead t).All (Sound h) := by
  have henter : (b.openHead (.ofName "head")).Sound h :=
    hb.openHead (Tag.lowered_ofName (by decide))
  cases t with
  | char c => exact .ite hb henter
  | comment s => exact hb.insertComment s
  | startTag tag => exact .ite (hb.mergeHtml ht) (.ite (hb.openHead ht) henter)
  | endTag name => exact .ite henter hb
  | doctype d => exact hb
  | finish => exact henter

theorem inHead (ht : t.Lowered) : (b.inHead t).All (Sound h) := by
  have hleave : (b.pop.goTo .afterHead).Sound h := hb.pop.goTo _
  cases t with
  | char c => exact .ite (hb.insertChar c) hleave
  | comment s => exact hb.insertComment s
  | startTag tag =>
    exact .ite (hb.mergeHtml ht) <| .ite (hb.startInHead ht) <| .ite hb hleave
  | endTag name => exact .ite hleave <| .ite hleave <| .ite hb.endTemplate hb
  | doctype d => exact hb
  | finish => exact hleave

theorem afterHead (ht : t.Lowered) : (b.afterHead t).All (Sound h) := by
  have henter : ((b.openNamed "body").goTo .inBody).Sound h := (hb.openNamed (by decide)).goTo _
  cases t with
  | char c => exact .ite (hb.insertChar c) henter
  | comment s => exact hb.insertComment s
  | startTag tag =>
    exact .ite (hb.mergeHtml ht) <| .ite ((hb.openHtml ht).forbidFrameset.goTo _) <|
      .ite ((hb.openHtml ht).goTo _) <| .ite (hb.startBehindHead ht) <| .ite hb henter
  | endTag name => exact .ite hb.endTemplate <| .ite henter hb
  | doctype d => exact hb
  | finish => exact henter

end Head

section Body

variable (hb : b.Sound h)

include hb

theorem mergeBody (ht : tag.Lowered) : (b.mergeBody tag).Sound h := by
  unfold Builder.mergeBody
  split
  · exact .ite hb (hb.withDraft (Draft.keeps_addMissing _ _ ht.2)).forbidFrameset
  · exact hb

theorem body?_ne {body : OpenElement} (hbody : b.body? = some body) : body.id ≠ h := by
  unfold Builder.body? at hbody
  split at hbody
  · next last e rest hreverse =>
    split at hbody
    · cases hbody
      have hlowest := hb.lowest
      rw [← List.reverse_reverse b.stack, hreverse, List.pairwise_reverse,
        List.pairwise_cons] at hlowest
      exact hlowest.1 body List.mem_cons_self
    · cases hbody
  · cases hbody

theorem replaceBody (ht : tag.Lowered) : (b.replaceBody tag).Sound h := by
  unfold Builder.replaceBody
  split
  · next body hbody =>
    have htaken := hb.withDraft (Draft.keeps_detach b.draft (hb.body?_ne hbody))
    exact .ite (((htaken.withStack (List.drop_sublist _ _)).openHtml ht).goTo _) hb
  · exact hb

theorem startForm (ht : tag.Lowered) : (b.startForm tag).Sound h :=
  .ite (hb.closeParagraph.openHtml ht) <| .ite hb { hb.closeParagraph.openHtml ht with }

theorem startItem (ht : tag.Lowered) : (b.startItem tag).Sound h :=
  (hb.forbidFrameset.close _ _).closeParagraph.openHtml ht

theorem startHeading (ht : tag.Lowered) : (b.startHeading tag).Sound h :=
  (Sound.ite hb.closeParagraph.pop hb.closeParagraph).openHtml ht

theorem startSelect (ht : tag.Lowered) : (b.startSelect tag).Sound h :=
  (hb.reopenFormatting.openHtml ht).forbidFrameset.goTo _

theorem startRuby (ht : tag.Lowered) (kept : String) : (b.startRuby tag kept).Sound h :=
  (Sound.ite (hb.closeImplied kept) hb).openHtml ht

theorem startForeign (vocabulary : Vocabulary) (ht : tag.Lowered) :
    (b.startForeign vocabulary tag).Sound h := by
  have hadjusted : Tag.Lowered { tag with
      attributes := tag.attributes.map fun e ↦ (foreignName e.1, e.2) } := by
    refine ⟨ht.1, fun a ha ↦ ?_⟩
    obtain ⟨e, he, rfl⟩ := List.mem_map.1 ha
    exact isLowered_foreignName (ht.2 e he)
  exact ite (hb.insertClosed vocabulary hadjusted) (hb.insertOpen vocabulary hadjusted)

theorem startInBody (ht : tag.Lowered) : (b.startInBody tag).Sound h := by
  have hclosed := hb.closeParagraph
  have hreopened := hb.reopenFormatting
  have hname : IsLowered "img" := by decide
  have himg : Tag.Lowered { tag with name := "img" } := ⟨hname, ht.2⟩
  unfold Builder.startInBody
  apply ite (hb.mergeHtml ht)
  apply ite (hb.startInHead ht)
  apply ite (hb.mergeBody ht)
  apply ite (hb.replaceBody ht)
  apply ite (hclosed.openHtml ht)
  apply ite (hb.startHeading ht)
  apply ite
  · exact { hclosed.openHtml ht with }
  apply ite (hb.startForm ht)
  apply ite (hb.startItem ht)
  apply ite
  · exact { hclosed.openHtml ht with }
  apply ite ((hb.close _ _).reopenFormatting.openHtml ht).forbidFrameset
  apply ite (hb.endOpenLink.reopenFormatting.startFormatting ht)
  apply ite (hreopened.startFormatting ht)
  apply ite ((ite (hreopened.endFormatting _).reopenFormatting hreopened).startFormatting ht)
  apply ite (hreopened.openHtml ht).pushMark.forbidFrameset
  apply ite (((ite hb hclosed).openHtml ht).forbidFrameset.goTo _)
  apply ite (ite (hreopened.insertVoid ht) (hreopened.insertVoid ht).forbidFrameset)
  apply ite (hb.insertVoid ht)
  apply ite (hclosed.insertVoid ht).forbidFrameset
  apply ite (hreopened.insertVoid himg).forbidFrameset
  apply ite
  · exact { hb.openText ht (.text tag.name) with }
  apply ite (hclosed.reopenFormatting.forbidFrameset.openText ht _)
  apply ite (hb.forbidFrameset.openText ht _)
  apply ite (hb.openText ht _)
  apply ite (hb.startSelect ht)
  apply ite ((hb.popIf "option").reopenFormatting.openHtml ht)
  apply ite (hb.startRuby ht "")
  apply ite (hb.startRuby ht "rtc")
  apply ite (hreopened.startForeign .math ht)
  apply ite (hreopened.startForeign .svg ht)
  exact ite hb (hreopened.openHtml ht)

theorem endForm : b.endForm.Sound h := by
  unfold Builder.endForm
  apply ite (hb.close _ _)
  split
  · exact hb
  · next id _ =>
    have hended : { b with form := none }.Sound h := { hb with }
    exact ite ((hended.closeImplied "").removeOpen id) hended

theorem endParagraph : b.endParagraph.Sound h := by
  unfold Builder.endParagraph
  cases hc : b.close? (·.isHtml "p") OpenElement.shieldsInButton with
  | none => exact hb.insertVoid (Tag.lowered_ofName (by decide))
  | some c => exact hb.close? hc

theorem endInBody (name : String) : (b.endInBody name).Sound h := by
  have hbr : Tag.Lowered (.ofName "br") := Tag.lowered_ofName (by decide)
  unfold Builder.endInBody
  apply ite hb.endTemplate
  apply ite (hb.close _ _)
  apply ite hb.endForm
  apply ite hb.endParagraph
  apply ite (hb.close _ _)
  apply ite (hb.close _ _)
  apply ite (hb.close _ _)
  apply ite (hb.endFormatting name)
  apply ite
  · cases hc : b.close? (·.isHtml name) OpenElement.shields with
    | none => exact hb
    | some c => exact (hb.close? hc).clearToMark
  · exact ite (hb.reopenFormatting.insertVoid hbr).forbidFrameset (hb.endOther name)

theorem charInBody (c : Char) : (b.charInBody c).Sound h := by
  apply ite hb
  exact (ite hb.reopenFormatting hb.reopenFormatting.forbidFrameset).insertChar c

theorem finishTemplate : b.finishTemplate.All (Sound h) :=
  .ite { (hb.closeThrough "template").clearToMark with } hb

theorem inBody (ht : t.Lowered) : (b.inBody t).All (Sound h) := by
  cases t with
  | char c => exact hb.charInBody c
  | comment s => exact hb.insertComment s
  | doctype d => exact hb
  | startTag tag => exact hb.startInBody ht
  | endTag name =>
    refine .ite (ite (hb.goTo _) hb) ?_
    exact .ite (.ite (hb.goTo _) hb) (hb.endInBody name)
  | finish => exact .ite hb hb.finishTemplate

theorem inText (t : Token) : (b.inText t).All (Sound h) := by
  cases t with
  | char c => exact hb.insertChar c
  | finish => exact hb.pop.goTo _
  | endTag name => exact hb.pop.goTo _
  | comment s => exact hb
  | doctype d => exact hb
  | startTag tag => exact hb

end Body

section Tables

variable (hb : b.Sound h)

include hb

theorem fosterInBody (ht : t.Lowered) : (foster t b).All (Sound h) := by
  have hfostered : { b with fostering := true }.Sound h := { hb with }
  have hplaced := hfostered.inBody ht
  unfold foster
  cases hresult : Builder.inBody t { b with fostering := true } with
  | done c =>
    rw [hresult] at hplaced
    exact { hplaced with }
  | again c =>
    rw [hresult] at hplaced
    exact { hplaced with }

theorem charInTable (c : Char) : (Builder.charInTable c b).All (Sound h) := by
  refine .ite ?_ ?_
  · exact { hb with }
  · exact hb.fosterInBody (t := .char c) trivial

theorem openTablePart (context : OpenElement → Bool) (ht : tag.Lowered) (stage : Stage) :
    (b.openTablePart context tag stage).Sound h :=
  ((hb.closeTo context).openHtml ht).goTo stage

theorem startInTable (ht : tag.Lowered) : (Builder.startInTable tag b).All (Sound h) := by
  have hcolgroup : Tag.Lowered (.ofName "colgroup") := Tag.lowered_ofName (by decide)
  have htbody : Tag.Lowered (.ofName "tbody") := Tag.lowered_ofName (by decide)
  refine .ite (((hb.closeTo _).pushMark.openHtml ht).goTo _) ?_
  refine .ite (hb.openTablePart _ ht _) ?_
  refine .ite (hb.openTablePart _ hcolgroup _) ?_
  refine .ite (hb.openTablePart _ ht _) ?_
  refine .ite (hb.openTablePart _ htbody _) ?_
  refine .ite ?_ ?_
  · split
    · next c hc => exact (hb.close? hc).resetStage
    · exact hb
  refine .ite (hb.startInHead ht) ?_
  refine .ite (hb.insertVoid ht) ?_
  refine .ite ?_ ?_
  · refine .ite hb ?_
    exact { hb.insertVoid ht with }
  · exact hb.fosterInBody (t := .startTag tag) ht

theorem inTable (ht : t.Lowered) : (Builder.inTable t b).All (Sound h) := by
  cases t with
  | char c => exact hb.charInTable c
  | comment s => exact hb.insertComment s
  | doctype d => exact hb
  | startTag tag => exact hb.startInTable ht
  | endTag name =>
    refine .ite ?_ ?_
    · split
      · next c hc => exact (hb.close? hc).resetStage
      · exact hb
    refine .ite hb ?_
    refine .ite hb.endTemplate ?_
    exact hb.fosterInBody ht
  | finish => exact hb.inBody ht

theorem writeTableText : b.writeTableText.Sound h := by
  have hcleared : { b with tableText := [] }.Sound h := { hb with }
  have hfostered : { b with tableText := [], fostering := true }.Sound h := { hb with }
  have hwritten : (b.tableText.reverse.foldl Builder.charInBody
      { b with tableText := [], fostering := true }).Sound h :=
    List.foldlRecOn _ _ hfostered fun b hb c _ ↦ hb.charInBody c
  unfold Builder.writeTableText
  apply ite
  · exact List.foldlRecOn _ _ hcleared fun b hb c _ ↦ hb.insertChar c
  · exact { hwritten with }

theorem inTableText (t : Token) : (Builder.inTableText t b).All (Sound h) := by
  have hwritten : (b.writeTableText.goTo b.stageBehind).Sound h := hb.writeTableText.goTo _
  cases t with
  | char c =>
    apply ite hb
    exact { hb with }
  | startTag tag => exact hwritten
  | endTag name => exact hwritten
  | comment s => exact hwritten
  | doctype d => exact hwritten
  | finish => exact hwritten

theorem leaveClosed (target : OpenElement → Bool) (stage : Stage) {outcome : Builder → Outcome}
    (houtcome : ∀ {c : Builder}, c.Sound h → (outcome c).All (Sound h)) :
    Outcome.All (Sound h) (match b.close? target OpenElement.shieldsInTable with
      | some c => outcome (c.clearToMark.goTo stage)
      | none => .done b) := by
  cases hc : b.close? target OpenElement.shieldsInTable with
  | none => exact hb
  | some c => exact houtcome ((hb.close? hc).clearToMark.goTo _)

theorem inCaption (ht : t.Lowered) : (Builder.inCaption t b).All (Sound h) := by
  cases t with
  | startTag tag => exact .ite (hb.leaveClosed _ _ id) (hb.inBody ht)
  | endTag name =>
    refine .ite (hb.leaveClosed _ _ id) ?_
    refine .ite (hb.leaveClosed _ _ id) ?_
    exact .ite hb (hb.inBody ht)
  | char c => exact hb.inBody ht
  | comment s => exact hb.inBody ht
  | doctype d => exact hb.inBody ht
  | finish => exact hb.inBody ht

theorem inColumnGroup (ht : t.Lowered) : (Builder.inColumnGroup t b).All (Sound h) := by
  have hclosed : (b.pop.goTo .inTable).Sound h := hb.pop.goTo _
  cases t with
  | char c => exact .ite (hb.insertChar c) (.ite hclosed hb)
  | comment s => exact hb.insertComment s
  | doctype d => exact hb
  | startTag tag =>
    refine .ite (hb.mergeHtml ht) ?_
    refine .ite (hb.insertVoid ht) ?_
    exact .ite (hb.startInHead ht) (.ite hclosed hb)
  | endTag name =>
    refine .ite (.ite hclosed hb) ?_
    refine .ite hb ?_
    exact .ite hb.endTemplate (.ite hclosed hb)
  | finish => exact hb.inBody ht

theorem inTableBody (ht : t.Lowered) : (Builder.inTableBody t b).All (Sound h) := by
  have htr : Tag.Lowered (.ofName "tr") := Tag.lowered_ofName (by decide)
  have hclosed : ((b.closeTo isBodyContext).pop.goTo .inTable).Sound h :=
    (hb.closeTo _).pop.goTo _
  cases t with
  | startTag tag =>
    refine .ite (hb.openTablePart _ ht _) ?_
    refine .ite (hb.openTablePart _ htr _) ?_
    exact .ite (.ite hclosed hb) (hb.inTable ht)
  | endTag name =>
    refine .ite (Sound.ite hclosed hb) ?_
    refine .ite (.ite hclosed hb) ?_
    exact .ite hb (hb.inTable ht)
  | char c => exact hb.inTable ht
  | comment s => exact hb.inTable ht
  | doctype d => exact hb.inTable ht
  | finish => exact hb.inTable ht

theorem inRow (ht : t.Lowered) : (Builder.inRow t b).All (Sound h) := by
  have hclosed : ((b.closeTo isRowContext).pop.goTo .inTableBody).Sound h :=
    (hb.closeTo _).pop.goTo _
  cases t with
  | startTag tag =>
    refine .ite (hb.openTablePart _ ht _).pushMark ?_
    exact .ite (.ite hclosed hb) (hb.inTable ht)
  | endTag name =>
    refine .ite (Sound.ite hclosed hb) ?_
    refine .ite (.ite hclosed hb) ?_
    refine .ite (.ite (.ite hclosed hb) hb) ?_
    exact .ite hb (hb.inTable ht)
  | char c => exact hb.inTable ht
  | comment s => exact hb.inTable ht
  | doctype d => exact hb.inTable ht
  | finish => exact hb.inTable ht

theorem inCell (ht : t.Lowered) : (Builder.inCell t b).All (Sound h) := by
  cases t with
  | startTag tag => exact .ite (hb.leaveClosed _ _ id) (hb.inBody ht)
  | endTag name =>
    refine .ite (hb.leaveClosed _ _ id) ?_
    refine .ite (.ite (hb.leaveClosed _ _ id) hb) ?_
    exact .ite hb (hb.inBody ht)
  | char c => exact hb.inBody ht
  | comment s => exact hb.inBody ht
  | doctype d => exact hb.inBody ht
  | finish => exact hb.inBody ht

theorem leaveSelect {c : Builder} (hc : b.leaveSelect = some c) : c.Sound h := by
  obtain ⟨closed, hclosed, rfl⟩ := Option.map_eq_some_iff.1 hc
  exact (hb.close? hclosed).resetStage

theorem getD_leaveSelect : (b.leaveSelect.getD b).Sound h := by
  cases hc : b.leaveSelect with
  | none => exact hb
  | some c => exact hb.leaveSelect hc

theorem endGroup : b.endGroup.Sound h := by
  unfold Builder.endGroup
  apply popIf
  split
  · exact ite hb.pop hb
  · exact hb

theorem inSelect (ht : t.Lowered) : (Builder.inSelect t b).All (Sound h) := by
  cases t with
  | char c => exact ite hb (hb.insertChar c)
  | comment s => exact hb.insertComment s
  | doctype d => exact hb
  | startTag tag =>
    have hoption := hb.popIf "option"
    refine .ite (hb.mergeHtml ht) ?_
    refine .ite (hoption.openHtml ht) ?_
    refine .ite ((hoption.popIf _).openHtml ht) ?_
    refine .ite ((hoption.popIf _).insertVoid ht) ?_
    refine .ite hb.getD_leaveSelect ?_
    refine .ite ?_ ?_
    · split
      · next c hc => exact hb.leaveSelect hc
      · exact hb
    · exact .ite (hb.startInHead ht) hb
  | endTag name =>
    refine .ite hb.endGroup ?_
    refine .ite (hb.popIf _) ?_
    refine .ite hb.getD_leaveSelect ?_
    exact .ite hb.endTemplate hb
  | finish => exact hb.inBody ht

theorem inSelectInTable (ht : t.Lowered) : (Builder.inSelectInTable t b).All (Sound h) := by
  have hleft : (b.closeThrough "select").resetStage.Sound h := (hb.closeThrough _).resetStage
  cases t with
  | startTag tag => exact .ite hleft (hb.inSelect ht)
  | endTag name => exact .ite (.ite hleft hb) (hb.inSelect ht)
  | char c => exact hb.inSelect ht
  | comment s => exact hb.inSelect ht
  | doctype d => exact hb.inSelect ht
  | finish => exact hb.inSelect ht

end Tables

section Endings

variable (hb : b.Sound h)

include hb

theorem enterTemplateStage (stage : Stage) : (b.enterTemplateStage stage).All (Sound h) :=
  { hb with }

theorem inTemplate (ht : t.Lowered) : (Builder.inTemplate t b).All (Sound h) := by
  cases t with
  | char c => exact hb.inBody ht
  | comment s => exact hb.inBody ht
  | doctype d => exact hb
  | startTag tag =>
    refine .ite (hb.startInHead ht) ?_
    refine .ite (hb.enterTemplateStage _) ?_
    refine .ite (hb.enterTemplateStage _) ?_
    refine .ite (hb.enterTemplateStage _) ?_
    exact .ite (hb.enterTemplateStage _) (hb.enterTemplateStage _)
  | endTag name => exact ite hb.endTemplate hb
  | finish => exact hb.finishTemplate

theorem commentAfterBody (s : String) : (Builder.afterBody (.comment s) b).All (Sound h) := by
  unfold Builder.afterBody
  cases b.stack.getLast? with
  | none => exact hb
  | some e => exact hb.insertInto _ trivial

theorem afterBody (ht : t.Lowered) : (Builder.afterBody t b).All (Sound h) := by
  cases t with
  | char c => exact .ite (hb.charInBody c) (hb.goTo _)
  | comment s => exact hb.commentAfterBody s
  | doctype d => exact hb
  | startTag tag => exact .ite (hb.mergeHtml ht) (hb.goTo _)
  | endTag name => exact .ite (hb.goTo _) (hb.goTo _)
  | finish => exact hb

theorem inFrameset (ht : t.Lowered) : (Builder.inFrameset t b).All (Sound h) := by
  cases t with
  | char c => exact ite (hb.insertChar c) hb
  | comment s => exact hb.insertComment s
  | doctype d => exact hb
  | startTag tag =>
    apply ite (hb.mergeHtml ht)
    apply ite (hb.openHtml ht)
    apply ite (hb.insertVoid ht)
    exact ite (hb.startInHead ht) hb
  | endTag name => exact .ite (ite hb.pop (hb.pop.goTo _)) hb
  | finish => exact hb

theorem afterFrameset (ht : t.Lowered) : (Builder.afterFrameset t b).All (Sound h) := by
  cases t with
  | char c => exact ite (hb.insertChar c) hb
  | comment s => exact hb.insertComment s
  | doctype d => exact hb
  | startTag tag => exact ite (hb.mergeHtml ht) (ite (hb.startInHead ht) hb)
  | endTag name => exact ite (hb.goTo _) hb
  | finish => exact hb

theorem afterAfterBody (ht : t.Lowered) : (Builder.afterAfterBody t b).All (Sound h) := by
  cases t with
  | char c => exact .ite (hb.charInBody c) (hb.goTo _)
  | comment s => exact hb.insertInto _ trivial
  | doctype d => exact hb
  | startTag tag => exact .ite (hb.mergeHtml ht) (hb.goTo _)
  | endTag name => exact hb.goTo _
  | finish => exact hb

theorem afterAfterFrameset (ht : t.Lowered) : (Builder.afterAfterFrameset t b).All (Sound h) := by
  cases t with
  | char c => exact ite (hb.charInBody c) hb
  | comment s => exact hb.insertInto _ trivial
  | doctype d => exact hb
  | startTag tag => exact ite (hb.mergeHtml ht) (ite (hb.startInHead ht) hb)
  | endTag name => exact hb
  | finish => exact hb

theorem initial (t : Token) : (Builder.initial t b).All (Sound h) := by
  have hentered : { b with oldModel := true, stage := .beforeHtml }.Sound h := { hb with }
  cases t with
  | char c => exact .ite hb hentered
  | comment s => exact hb.insertInto _ trivial
  | doctype d =>
    have hcontent : DraftContent.Lowered (.doctype d) := trivial
    exact { hb.insertInto Draft.document hcontent with }
  | startTag tag => exact hentered
  | endTag name => exact hentered
  | finish => exact hentered

theorem beforeHtml (ht : t.Lowered) : (Builder.beforeHtml t b).All (Sound h) := by
  have hentered : ((b.openNamed "html").goTo .beforeHead).Sound h :=
    (hb.openNamed (by decide)).goTo _
  cases t with
  | char c => exact .ite hb hentered
  | comment s => exact hb.insertInto _ trivial
  | startTag tag => exact .ite ((hb.openHtml ht).goTo _) hentered
  | endTag name => exact .ite hentered hb
  | doctype d => exact hb
  | finish => exact hentered

end Endings

section Loop

theorem step (ht : t.Lowered) (hb : b.Sound h) : (Builder.step t b).All (Sound h) := by
  unfold Builder.step
  cases b.stage with
  | initial => exact hb.initial t
  | beforeHtml => exact hb.beforeHtml ht
  | beforeHead => exact hb.beforeHead ht
  | inHead => exact hb.inHead ht
  | afterHead => exact hb.afterHead ht
  | inBody => exact hb.inBody ht
  | inText => exact hb.inText t
  | inTable => exact hb.inTable ht
  | inTableText => exact hb.inTableText t
  | inCaption => exact hb.inCaption ht
  | inColumnGroup => exact hb.inColumnGroup ht
  | inTableBody => exact hb.inTableBody ht
  | inRow => exact hb.inRow ht
  | inCell => exact hb.inCell ht
  | inSelect => exact hb.inSelect ht
  | inSelectInTable => exact hb.inSelectInTable ht
  | inTemplate => exact hb.inTemplate ht
  | afterBody => exact hb.afterBody ht
  | inFrameset => exact hb.inFrameset ht
  | afterFrameset => exact hb.afterFrameset ht
  | afterAfterBody => exact hb.afterAfterBody ht
  | afterAfterFrameset => exact hb.afterAfterFrameset ht

theorem breakOut (ht : t.Lowered) (hb : b.Sound h) : (Builder.breakOut t b).All (Sound h) :=
  (hb.closeTo _).step ht

theorem endForeign (hb : b.Sound h) (name : String) (isFirst : Bool) {below : List OpenElement}
    (hbelow : below.Sublist b.stack) : (b.endForeign name isFirst below).All (Sound h) := by
  induction below generalizing isFirst with
  | nil => exact hb
  | cons e below ih =>
    have hless := (List.sublist_cons_self e below).trans hbelow
    cases below with
    | nil => exact hb
    | cons f es =>
      refine .ite (hb.step (t := .endTag name) trivial) ?_
      exact .ite (hb.withStack hless) (ih false hless)

theorem inForeign (ht : t.Lowered) (hb : b.Sound h) : (Builder.inForeign t b).All (Sound h) := by
  cases t with
  | char c => exact (ite hb hb.forbidFrameset).insertChar (shown c)
  | comment s => exact hb.insertComment s
  | doctype d => exact hb
  | startTag tag =>
    refine .ite (hb.breakOut (t := .startTag tag) ht) ?_
    split
    · next e _ _ => exact hb.startForeign e.vocabulary ht
    · exact hb
  | endTag name =>
    exact .ite (hb.breakOut (t := .endTag name) ht) (hb.endForeign name true (.refl _))
  | finish => exact hb

end Loop

end Builder.Sound

end PageOutline.Html
