import PageOutline.Css.Parser
import PageOutline.Proofs.Blocks

namespace PageOutline.Css.Parser

variable {α β : Type}

/-- What a reader gives, and the components that it leaves. -/
def readFrom (x : Scan α) (cs : List Component) : Option α × List Component := x.run.run cs

theorem readFrom_get_bind (f : List Component → Scan α) (cs : List Component) :
    readFrom (get >>= f) cs = readFrom (f cs) cs := rfl

theorem readFrom_set_bind (cs' : List Component) (f : PUnit → Scan α) (cs : List Component) :
    readFrom (set cs' >>= f) cs = readFrom (f ⟨⟩) cs' := rfl

theorem readFrom_bind_of_some {x : Scan α} {cs cs' : List Component} {a : α}
    (h : readFrom x cs = (some a, cs')) (f : α → Scan β) :
    readFrom (x >>= f) cs = readFrom (f a) cs' := by
  unfold readFrom at h ⊢
  rw [OptionT.run_bind, Option.elimM, StateT.run_bind, h]
  rfl

theorem readFrom_bind_of_none {x : Scan α} {cs cs' : List Component}
    (h : readFrom x cs = (none, cs')) (f : α → Scan β) :
    readFrom (x >>= f) cs = (none, cs') := by
  unfold readFrom at h ⊢
  rw [OptionT.run_bind, Option.elimM, StateT.run_bind, h]
  rfl

theorem readFrom_bind_congr {x y : Scan α} {cs : List Component}
    (h : readFrom x cs = readFrom y cs) (f : α → Scan β) :
    readFrom (x >>= f) cs = readFrom (y >>= f) cs := by
  rcases hy : readFrom y cs with ⟨_ | a, cs'⟩
  · rw [readFrom_bind_of_none hy, readFrom_bind_of_none (h.trans hy)]
  · rw [readFrom_bind_of_some hy, readFrom_bind_of_some (h.trans hy)]

theorem readFrom_inside (inner : List Component) (x : Scan α) (cs : List Component) :
    readFrom (inside inner x) cs =
      (if (Nth.skipBlank (readFrom x inner).2).isEmpty then (readFrom x inner).1 else none,
        cs) := by
  have hobserving : readFrom (inside.observing x) inner =
      (some (readFrom x inner).1, (readFrom x inner).2) := rfl
  have hexhausted (rest : List Component) :
      readFrom exhausted rest = (some (Nth.skipBlank rest).isEmpty, rest) := rfl
  unfold inside
  rw [readFrom_get_bind, readFrom_set_bind, readFrom_bind_of_some hobserving,
    readFrom_bind_of_some (hexhausted _), readFrom_set_bind]
  cases (readFrom x inner).1 with
  | none => exact Prod.ext (ite_self none).symm rfl
  | some a =>
    dsimp only
    split <;> rfl

def Forward (x : Scan α) : Prop := ∀ cs, (readFrom x cs).2 <:+ cs

theorem forward_pure (a : α) : Forward (pure a) := fun _ ↦ List.suffix_refl _

theorem forward_failure : Forward (failure : Scan α) := fun _ ↦ List.suffix_refl _

theorem forward_get : Forward (get : Scan (List Component)) := fun _ ↦ List.suffix_refl _

theorem Forward.bind {x : Scan α} {f : α → Scan β} (hx : Forward x) (hf : ∀ a, Forward (f a)) :
    Forward (x >>= f) := by
  intro cs
  have hfirst := hx cs
  rcases hread : readFrom x cs with ⟨_ | a, cs'⟩
  · rw [hread] at hfirst
    rwa [readFrom_bind_of_none hread]
  · rw [hread] at hfirst
    rw [readFrom_bind_of_some hread]
    exact (hf a cs').trans hfirst

theorem skipBlank_suffix (cs : List Component) : Nth.skipBlank cs <:+ cs := by
  fun_induction Nth.skipBlank cs with
  | case1 cs ih => exact ih.trans (List.suffix_cons _ _)
  | case2 cs => exact List.suffix_refl _

theorem forward_skipBlanks : Forward skipBlanks := skipBlank_suffix

theorem forward_next : Forward next := by
  intro cs
  cases cs with
  | nil => exact List.suffix_refl _
  | cons c cs => exact List.suffix_cons c cs

theorem forward_combinator (fuel : Nat) (afterBlank : Bool) :
    Forward (combinator fuel afterBlank) := by
  induction fuel generalizing afterBlank with
  | zero => exact forward_failure
  | succ fuel ih =>
    intro cs
    unfold combinator
    rw [readFrom_get_bind]
    split
    · exact List.suffix_refl _
    · exact (ih true _).trans (List.suffix_cons _ _)
    · exact List.suffix_cons _ _
    · exact List.suffix_cons _ _
    · exact List.suffix_cons _ _
    · split <;> exact List.suffix_refl _

theorem forward_combinator? : Forward combinator? := fun cs ↦
  forward_combinator (cs.length + 1) false cs

theorem forward_afterBar (inAttribute : Bool) : Forward (afterBar inAttribute) := by
  refine forward_next.bind fun c ↦ ?_
  split
  · split
    · exact forward_failure
    · exact forward_pure _
  · exact forward_pure _
  · exact forward_failure

theorem Forward.suffix_set_bind {f : PUnit → Scan α} (hf : Forward (f ⟨⟩)) {cs cs' : List Component}
    (h : cs' <:+ cs) : (readFrom (set cs' >>= f) cs).2 <:+ cs :=
  (hf cs').trans h

theorem suffix_cons_cons (c c' : Component) (cs : List Component) : cs <:+ c :: c' :: cs :=
  (List.suffix_cons c' cs).trans (List.suffix_cons c _)

theorem forward_typeSelector : Forward typeSelector := by
  have hbar {k : Option String → Scan (Option Simple)} (hk : ∀ name, Forward (k name))
      {cs cs' : List Component} (h : cs' <:+ cs) :
      (readFrom (do
        set cs'
        if cs'.isEmpty then return none
        k (← afterBar false)) cs).2 <:+ cs := by
    refine Forward.suffix_set_bind ?_ h
    split
    · exact forward_pure _
    · exact (forward_afterBar false).bind hk
  intro cs
  unfold typeSelector
  rw [readFrom_get_bind]
  split
  · exact suffix_cons_cons ..
  · exact List.suffix_cons ..
  · refine hbar (fun name ↦ ?_) (suffix_cons_cons ..)
    split <;> exact forward_pure _
  · refine hbar (fun name ↦ ?_) (List.suffix_cons ..)
    split <;> exact forward_pure _
  · exact List.suffix_cons ..
  · exact List.suffix_refl _

theorem forward_inside (inner : List Component) (x : Scan α) : Forward (inside inner x) :=
  fun cs ↦ ⟨[], congrArg Prod.snd (readFrom_inside inner x cs)⟩

theorem forward_simple (complex : Place → Bool → Scan Complex) (place : Place) :
    Forward (simple complex place) := by
  intro cs
  unfold simple
  rw [readFrom_get_bind]
  split
  · exact List.suffix_cons ..
  · refine Forward.suffix_set_bind (forward_next.bind fun c ↦ ?_) (List.suffix_cons ..)
    split
    · exact forward_pure _
    · exact forward_failure
  · refine Forward.suffix_set_bind ((forward_inside _ _).bind fun s ↦ ?_) (List.suffix_cons ..)
    exact forward_pure _
  · refine Forward.suffix_set_bind (forward_next.bind fun c ↦ ?_) (List.suffix_cons ..)
    split
    · split
      · exact forward_pure _
      · exact forward_failure
    · exact (forward_inside _ _).bind fun s ↦ forward_pure _
    · have hdiscard : Forward (discard next) := forward_next.bind fun _ ↦ forward_pure _
      exact hdiscard.bind fun _ ↦ forward_failure
    · exact forward_failure
  · exact List.suffix_refl _

section Readers

variable {one : Scan (Option Simple)} (hone : Forward one)

include hone

theorem forward_simples (fuel : Nat) : Forward (simples one fuel) := by
  induction fuel with
  | zero => exact forward_pure []
  | succ fuel ih =>
    refine hone.bind fun s ↦ ?_
    split
    · exact ih.bind fun ss ↦ forward_pure _
    · exact forward_pure []

theorem forward_compound : Forward (compound one) := by
  refine forward_skipBlanks.bind fun _ ↦ forward_typeSelector.bind fun type ↦ ?_
  refine forward_get.bind fun cs ↦ (forward_simples hone (cs.length + 1)).bind fun others ↦ ?_
  split
  · exact forward_failure
  · exact forward_pure _

end Readers

/-- The readers read the same from components that are made of no more than `n` blocks. -/
def SameUpTo (n : Nat) (x y : Scan α) : Prop :=
  ∀ cs, blocksAll cs ≤ n → readFrom x cs = readFrom y cs

theorem SameUpTo.refl (n : Nat) (x : Scan α) : SameUpTo n x x := fun _ _ ↦ rfl

theorem SameUpTo.bind {n : Nat} {x y : Scan α} {f g : α → Scan β} (h : SameUpTo n x y)
    (hx : Forward x) (hfg : ∀ a, SameUpTo n (f a) (g a)) : SameUpTo n (x >>= f) (y >>= g) := by
  intro cs hcs
  have hafter := hx cs
  have hsame := h cs hcs
  rcases hread : readFrom x cs with ⟨_ | a, cs'⟩
  · rw [readFrom_bind_of_none hread, readFrom_bind_of_none (hsame.symm.trans hread)]
  · rw [hread] at hafter
    rw [readFrom_bind_of_some hread, readFrom_bind_of_some (hsame.symm.trans hread)]
    exact hfg a cs' ((blocksAll_le_of_sublist hafter.sublist).trans hcs)

theorem SameUpTo.bind_left {n : Nat} {x y : Scan α} (h : SameUpTo n x y) (f : α → Scan β) :
    SameUpTo n (x >>= f) (y >>= f) := fun cs hcs ↦ readFrom_bind_congr (h cs hcs) f

theorem sublist_of_mem_splitCommas {cs piece : List Component} (h : piece ∈ splitCommas cs) :
    piece.Sublist cs := by
  fun_induction splitCommas cs generalizing piece with
  | case1 => exact (List.mem_singleton.1 h).symm ▸ List.Sublist.refl _
  | case2 cs ih =>
    rcases List.mem_cons.1 h with rfl | h
    · exact List.nil_sublist _
    · exact (ih h).cons _
  | case3 c cs _ hnone ih =>
    rw [List.mem_singleton.1 h]
    exact (List.nil_sublist cs).cons_cons c
  | case4 c cs _ first pieces hpieces ih =>
    rw [hpieces, List.forall_mem_cons] at ih
    rcases List.mem_cons.1 h with rfl | h
    · exact ih.1.cons_cons c
    · exact (ih.2 _ h).cons c

theorem member_congr {n : Nat} {x y : Scan Complex} (h : SameUpTo n x y) (form : ListForm)
    {piece : List Component} (hpiece : blocksAll piece ≤ n) :
    member x form piece = member y form piece := by
  have hread : x.run.run piece = y.run.run piece := h piece hpiece
  unfold member
  rw [hread]

theorem members_congr {n : Nat} {x y : Scan Complex} (h : SameUpTo n x y) (form : ListForm) :
    SameUpTo n (members x form) (members y form) := by
  intro cs hcs
  have hmember : ∀ piece ∈ splitCommas cs, member x form piece = member y form piece := by
    intro piece hpiece
    have hle := blocksAll_le_of_sublist (sublist_of_mem_splitCommas hpiece)
    exact member_congr h form (hle.trans hcs)
  have hpieces : (splitCommas cs).mapM (member x form) = (splitCommas cs).mapM (member y form) := by
    generalize splitCommas cs = pieces at hmember
    induction pieces with
    | nil => rfl
    | cons piece pieces ih =>
      rw [List.forall_mem_cons] at hmember
      rw [List.mapM_cons, List.mapM_cons, hmember.1, ih hmember.2]
  unfold members
  rw [readFrom_get_bind, readFrom_get_bind]
  dsimp only
  rw [hpieces]

section Levels

variable {n : Nat} {x y : Place → Bool → Scan Complex}

theorem SameUpTo.functionalPseudoClass
    (h : ∀ place relative, SameUpTo n (x place relative) (y place relative)) (place : Place)
    (name : String) :
    SameUpTo n (functionalPseudoClass x place name) (functionalPseudoClass y place name) := by
  unfold Parser.functionalPseudoClass
  dsimp only
  split
  · exact .refl n _
  split_ifs
  · exact (members_congr (h _ _) _).bind_left _
  · exact (members_congr (h _ _) _).bind_left _
  · exact .refl n _
  · exact (members_congr (h _ _) _).bind_left _
  · have hdiscard (place : Place) :
        SameUpTo n (discard (x place false)) (discard (y place false)) :=
      (h place false).bind_left fun _ ↦ (pure () : Scan Unit)
    exact (hdiscard _).bind_left _
  · exact .refl n _

theorem SameUpTo.simple
    (h : ∀ k < n, ∀ place relative, SameUpTo k (x place relative) (y place relative))
    (place : Place) : SameUpTo n (simple x place) (simple y place) := by
  intro cs hcs
  unfold Parser.simple
  rw [readFrom_get_bind, readFrom_get_bind]
  split
  · rfl
  · rfl
  · rfl
  · next rest =>
    rw [readFrom_set_bind, readFrom_set_bind]
    rcases rest with _ | ⟨c, rest⟩
    · have hnext : readFrom next [] = (none, []) := rfl
      rw [readFrom_bind_of_none hnext, readFrom_bind_of_none hnext]
    have hnext : readFrom next (c :: rest) = (some c, rest) := rfl
    rw [readFrom_bind_of_some hnext, readFrom_bind_of_some hnext]
    split
    · rfl
    · next name inner =>
      have hinner : blocksAll inner < n := by
        simp only [blocksAll, Component.blocks] at hcs
        omega
      have hsame := SameUpTo.functionalPseudoClass (h _ hinner) place name inner le_rfl
      refine readFrom_bind_congr ?_ _
      rw [readFrom_inside, readFrom_inside, hsame]
    · rfl
    · rfl
  · rfl

end Levels

section Steps

variable {n : Nat} {one one' : Scan (Option Simple)} (h : SameUpTo n one one')
  (hone : Forward one)

include h hone

theorem SameUpTo.simples (fuel : Nat) : SameUpTo n (simples one fuel) (simples one' fuel) := by
  induction fuel with
  | zero => exact .refl n _
  | succ fuel ih =>
    refine h.bind hone fun s ↦ ?_
    split
    · exact ih.bind_left _
    · exact .refl n _

theorem SameUpTo.compound : SameUpTo n (compound one) (compound one') := by
  refine (SameUpTo.refl n _).bind forward_skipBlanks fun _ ↦ ?_
  refine (SameUpTo.refl n _).bind forward_typeSelector fun type ↦ ?_
  refine (SameUpTo.refl n _).bind forward_get fun cs ↦ ?_
  exact (h.simples hone (cs.length + 1)).bind_left _

theorem SameUpTo.steps (place : Place) (fuel : Nat) (left : Complex) :
    SameUpTo n (steps place one fuel left) (steps place one' fuel left) := by
  induction fuel generalizing left with
  | zero => exact .refl n _
  | succ fuel ih =>
    refine (SameUpTo.refl n _).bind forward_combinator? fun c ↦ ?_
    split
    · exact .refl n _
    · next c =>
      have hnext : SameUpTo n
          (do Parser.steps place one fuel (.step left c (← Parser.compound one)))
          (do Parser.steps place one' fuel (.step left c (← Parser.compound one'))) :=
        (h.compound hone).bind (forward_compound hone) fun parts ↦ ih _
      split
      · exact (SameUpTo.refl n failure).bind forward_failure fun _ ↦ hnext
      · exact hnext

end Steps

/-- Levels that no block needs change nothing. -/
theorem sameUpTo_complex {n levels levels' : Nat} (h : n < levels) (h' : n < levels')
    (place : Place) (relative : Bool) :
    SameUpTo n (complex levels place relative) (complex levels' place relative) := by
  induction levels generalizing n levels' place relative with
  | zero => cases h
  | succ levels ih =>
    cases levels' with
    | zero => cases h'
    | succ levels' =>
      have hone : SameUpTo n (simple (complex levels) place) (simple (complex levels') place) :=
        .simple (fun k hk place relative ↦ ih (by omega) (by omega) place relative) place
      have hforward := forward_simple (complex levels) place
      have hcompound := hone.compound hforward
      have hsteps (first : Complex) :
          SameUpTo n (do steps place (simple (complex levels) place) ((← get).length + 1) first)
            (do steps place (simple (complex levels') place) ((← get).length + 1) first) :=
        (SameUpTo.refl n _).bind forward_get fun cs ↦ hone.steps hforward place _ first
      refine (SameUpTo.refl n _).bind forward_skipBlanks fun _ ↦ ?_
      cases relative with
      | true =>
        refine (SameUpTo.refl n _).bind forward_combinator? fun c ↦ ?_
        exact hcompound.bind (forward_compound hforward) fun parts ↦ hsteps _
      | false => exact hcompound.bind (forward_compound hforward) fun parts ↦ hsteps _

end PageOutline.Css.Parser
