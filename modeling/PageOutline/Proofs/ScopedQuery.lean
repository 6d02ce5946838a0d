import PageOutline.Proofs.DocumentOrder
import PageOutline.Proofs.Quoting
import PageOutline.Proofs.SelectorLevels

namespace PageOutline

namespace Css

open Component (leaf)
open Lexer

namespace Parser

theorem member_eq_some_iff {x : Scan Complex} {relative : Bool} {piece : List Component}
    {found : Option Complex} :
    member x ⟨false, relative⟩ piece = some found ↔ ∃ c rest, found = some c ∧
      readFrom x piece = (some c, rest) ∧ (Nth.skipBlank rest).isEmpty := by
  have hmember : member x ⟨false, relative⟩ piece =
      match readFrom x piece with
      | (some c, rest) => if (Nth.skipBlank rest).isEmpty then some (some c) else none
      | (none, _) => none := rfl
  rw [hmember]
  rcases readFrom x piece with ⟨_ | c, rest⟩
  · simp
  dsimp only
  split
  · next hrest =>
    constructor
    · intro heq
      exact ⟨c, rest, (Option.some.inj heq).symm, rfl, hrest⟩
    · rintro ⟨c', rest', rfl, heq, -⟩
      rw [Option.some.inj (Prod.mk.inj heq).1]
  · next hrest =>
    constructor
    · intro heq
      cases heq
    · rintro ⟨c', rest', -, heq, hend⟩
      rw [← (Prod.mk.inj heq).2] at hend
      exact absurd hend hrest

theorem length_filterMap_of_mapM {x : Scan Complex} {relative : Bool}
    {pieces : List (List Component)} {found : List (Option Complex)}
    (h : pieces.mapM (member x ⟨false, relative⟩) = some found) :
    (found.filterMap id).length = pieces.length := by
  induction pieces generalizing found with
  | nil =>
    obtain rfl := Option.some.inj h
    rfl
  | cons piece pieces ih =>
    rw [List.mapM_cons] at h
    obtain ⟨m, hm, h⟩ := Option.bind_eq_some_iff.1 h
    obtain ⟨ms, hms, h⟩ := Option.bind_eq_some_iff.1 h
    obtain rfl := Option.some.inj h
    obtain ⟨c, -, rfl, -, -⟩ := member_eq_some_iff.1 hm
    exact congrArg (· + 1) (ih hms)

theorem splitCommas_ne_nil (cs : List Component) : splitCommas cs ≠ [] := by
  fun_cases splitCommas cs <;> exact List.cons_ne_nil _ _

theorem splitCommas_of_notMem {cs : List Component} (h : leaf .comma ∉ cs) :
    splitCommas cs = [cs] := by
  induction cs with
  | nil => rfl
  | cons c cs ih =>
    rw [List.mem_cons, not_or] at h
    rw [splitCommas, ih h.2]
    exact fun hc ↦ h.1 hc.symm

theorem notMem_of_splitCommas {cs piece : List Component} (h : splitCommas cs = [piece]) :
    leaf .comma ∉ cs := by
  fun_induction splitCommas cs generalizing piece with
  | case1 => exact List.not_mem_nil
  | case2 cs => exact absurd (List.cons.inj h).2 (splitCommas_ne_nil cs)
  | case3 c cs _ hnone => exact absurd hnone (splitCommas_ne_nil cs)
  | case4 c cs hc first pieces hpieces ih =>
    obtain rfl := (List.cons.inj h).2
    rw [List.mem_cons, not_or]
    exact ⟨fun heq ↦ hc heq.symm, ih hpieces⟩

theorem readFrom_members (x : Scan Complex) (form : ListForm) (cs : List Component) :
    readFrom (members x form) cs =
      (((splitCommas cs).mapM (member x form)).map (·.filterMap id), []) := by
  unfold members
  rw [readFrom_get_bind]
  dsimp only
  rw [readFrom_set_bind]
  split
  · next found heq =>
    rw [heq]
    rfl
  · next heq =>
    rw [heq]
    rfl

theorem parse?_eq_some_iff {s : String} {c : Complex} :
    Selector.parse? s = some ⟨[c]⟩ ↔ leaf .comma ∉ components s ∧
      ∃ rest, readFrom (complex (s.length + 1) ⟨false, false⟩ false) (components s) =
        (some c, rest) ∧ (Nth.skipBlank rest).isEmpty := by
  have hparse : Selector.parse? s =
      (readFrom (members (complex (s.length + 1) ⟨false, false⟩ false) ⟨false, false⟩)
        (components s)).1.map Selector.mk := by
    unfold Selector.parse? readFrom
    dsimp only
    split <;> next heq => rw [heq]; rfl
  rw [hparse, readFrom_members]
  dsimp only
  set x := complex (s.length + 1) ⟨false, false⟩ false
  have hsingle (piece : List Component) :
      (Option.map (·.filterMap id) ([piece].mapM (member x ⟨false, false⟩))).map Selector.mk =
        some ⟨[c]⟩ ↔ member x ⟨false, false⟩ piece = some (some c) := by
    rw [List.mapM_cons]
    rcases hm : member x ⟨false, false⟩ piece with _ | _ | c'
    · simp
    · obtain ⟨c', -, hnone, -⟩ := member_eq_some_iff.1 hm
      cases hnone
    · simp
  constructor
  · intro h
    obtain ⟨alternatives, hall, heq⟩ := Option.map_eq_some_iff.1 h
    obtain rfl : alternatives = [c] := Selector.mk.inj heq
    obtain ⟨found, hfound, hone⟩ := Option.map_eq_some_iff.1 hall
    have hlength := length_filterMap_of_mapM hfound
    rw [hone] at hlength
    obtain ⟨piece, hpiece⟩ := List.length_eq_one_iff.1 hlength.symm
    have hcomma := notMem_of_splitCommas hpiece
    rw [splitCommas_of_notMem hcomma, hsingle, member_eq_some_iff] at h
    obtain ⟨c', rest, heq, hread⟩ := h
    obtain rfl := Option.some.inj heq
    exact ⟨hcomma, rest, hread⟩
  · rintro ⟨hcomma, rest, hread⟩
    rw [splitCommas_of_notMem hcomma, hsingle, member_eq_some_iff]
    exact ⟨c, rest, rfl, hread⟩

theorem exists_readFrom_combinator? (cs : List Component) :
    ∃ c rest, readFrom combinator? cs = (some c, rest) := ⟨_, _, rfl⟩

theorem steps_cases {place : Place} {one : Scan (Option Simple)} {fuel : Nat}
    {left found : Complex} {cs rest : List Component}
    (h : readFrom (steps place one fuel left) cs = (some found, rest)) :
    (found = left ∧ (fuel = 0 ∨ readFrom combinator? cs = (some none, rest))) ∨
      ∃ left combinator parts, found = .step left combinator parts := by
  induction fuel generalizing left cs with
  | zero => exact .inl ⟨(Option.some.inj (Prod.mk.inj h).1).symm, .inl rfl⟩
  | succ fuel ih =>
    rw [steps] at h
    obtain ⟨_ | next, cs', hcombinator⟩ := exists_readFrom_combinator? cs
    · rw [readFrom_bind_of_some hcombinator] at h
      obtain ⟨hleft, rfl⟩ := Prod.mk.inj h
      exact .inl ⟨(Option.some.inj hleft).symm, .inr hcombinator⟩
    · rw [readFrom_bind_of_some hcombinator] at h
      dsimp only at h
      split at h
      · cases h
      rcases hcompound : readFrom (compound one) cs' with ⟨_ | more, cs''⟩
      · rw [readFrom_bind_of_none hcompound] at h
        cases h
      · rw [readFrom_bind_of_some hcompound] at h
        rcases ih h with ⟨rfl, -⟩ | hstep
        · exact .inr ⟨_, _, _, rfl⟩
        · exact .inr hstep

theorem readFrom_steps_end {place : Place} (one : Scan (Option Simple)) {fuel : Nat}
    (left : Complex) {cs rest : List Component} (h : readFrom combinator? cs = (some none, rest)) :
    readFrom (steps place one (fuel + 1) left) cs = (some left, rest) := by
  rw [steps, readFrom_bind_of_some h]
  rfl

theorem skipBlank_skipBlank (cs : List Component) :
    Nth.skipBlank (Nth.skipBlank cs) = Nth.skipBlank cs := by
  fun_induction Nth.skipBlank cs with
  | case1 cs ih => exact ih
  | case2 cs hne => exact Nth.skipBlank.eq_2 cs hne

theorem readFrom_compound_of_skipBlank (one : Scan (Option Simple)) {cs cs' : List Component}
    (h : Nth.skipBlank cs = Nth.skipBlank cs') :
    readFrom (compound one) cs = readFrom (compound one) cs' := by
  have hskip (cs : List Component) : readFrom skipBlanks cs = (some (), Nth.skipBlank cs) := rfl
  unfold compound
  rw [readFrom_bind_of_some (hskip cs), readFrom_bind_of_some (hskip cs'), h]

theorem readFrom_complex_eq_compound_iff {levels : Nat} {place : Place} {parts : List Simple}
    {cs rest : List Component} :
    readFrom (complex (levels + 1) place false) cs = (some (.compound parts), rest) ↔
      ∃ after, readFrom (compound (simple (complex levels) place)) cs = (some parts, after) ∧
        readFrom combinator? after = (some none, rest) := by
  have hcomplex : readFrom (complex (levels + 1) place false) cs =
      readFrom (compound (simple (complex levels) place) >>= fun parts ↦ get >>= fun cs ↦
        steps place (simple (complex levels) place) (cs.length + 1) (.compound parts))
        (Nth.skipBlank cs) := rfl
  rw [hcomplex, ← readFrom_compound_of_skipBlank _ (skipBlank_skipBlank cs)]
  rcases hcompound : readFrom (compound (simple (complex levels) place)) (Nth.skipBlank cs) with
    ⟨_ | found, after⟩
  · rw [readFrom_bind_of_none hcompound]
    simp
  rw [readFrom_bind_of_some hcompound, readFrom_get_bind]
  constructor
  · intro h
    rcases steps_cases h with ⟨hfound, hfuel | hcombinator⟩ | ⟨_, _, _, hstep⟩
    · cases hfuel
    · rw [Complex.compound.injEq] at hfound
      exact ⟨after, by rw [hfound], hcombinator⟩
    · cases hstep
  · rintro ⟨after', heq, hcombinator⟩
    obtain ⟨hfound, rfl⟩ := Prod.mk.inj heq
    rw [readFrom_steps_end _ _ hcombinator, Option.some.inj hfound]

theorem readFrom_combinator?_child (tail : List Component) :
    readFrom combinator? (leaf .blank :: leaf (.delim '>') :: tail) =
      (some (some .child), tail) := rfl

theorem readFrom_complex_scopeChild {levels : Nat} {insideHas : Bool} {parts : List Simple}
    {tail after rest : List Component}
    (hcompound : readFrom (compound (simple (complex levels) ⟨insideHas, false⟩)) tail =
      (some parts, after))
    (hcombinator : readFrom combinator? after = (some none, rest)) :
    readFrom (complex (levels + 1) ⟨insideHas, false⟩ false)
      (leaf .colon :: leaf (.ident "scope") :: leaf .blank :: leaf (.delim '>') :: tail) =
      (some (.step (.compound [.scope]) .child parts), rest) := by
  have hfirst : readFrom (complex (levels + 1) ⟨insideHas, false⟩ false)
      (leaf .colon :: leaf (.ident "scope") :: leaf .blank :: leaf (.delim '>') :: tail) =
      readFrom (steps ⟨insideHas, false⟩ (simple (complex levels) ⟨insideHas, false⟩)
        (tail.length + 3) (.compound [.scope])) (leaf .blank :: leaf (.delim '>') :: tail) := rfl
  rw [hfirst, steps, readFrom_bind_of_some (readFrom_combinator?_child tail)]
  dsimp only
  rw [if_neg Bool.false_ne_true, readFrom_bind_of_some hcompound]
  exact readFrom_steps_end _ _ hcombinator

end Parser

theorem components_scopeChild (s : String) :
    components (":scope > " ++ s) = leaf .colon :: leaf (.ident "scope") :: leaf .blank ::
      leaf (.delim '>') :: nest (tokensOf (' ' :: s.toList)) := by
  have htext : (":scope > " ++ s).toList =
      ':' :: ("scope".toList ++ ' ' :: '>' :: ' ' :: s.toList) := by
    simp
  have htokens : tokensOf (':' :: ("scope".toList ++ ' ' :: '>' :: ' ' :: s.toList)) =
      .colon :: .ident "scope" :: .blank :: .delim '>' :: tokensOf (' ' :: s.toList) := by
    have hname : IsName "scope" := by decide
    have hcolon (cs : List Char) : tokensOf (':' :: cs) = .colon :: tokensOf cs :=
      tokensOf_cons ':' cs
    have hchild (cs : List Char) : tokensOf ('>' :: cs) = .delim '>' :: tokensOf cs :=
      tokensOf_cons '>' cs
    rw [hcolon, tokensOf_name hname rfl, tokensOf_blank]
    exact congrArg (fun ts ↦ .colon :: .ident "scope" :: .blank :: ts) (hchild _)
  unfold components
  rw [tokens_eq, htext, htokens]
  rw [nest_cons, nest_cons, nest_cons, nest_cons] <;> rfl

theorem comma_mem_skipBlank {cs : List Component} :
    leaf .comma ∈ Nth.skipBlank cs ↔ leaf .comma ∈ cs := by
  fun_induction Nth.skipBlank cs with
  | case1 cs ih => simp [ih]
  | case2 cs => rfl

/-- A text that is one compound selector asks for a child of the scope behind `:scope >`. -/
theorem parse?_scopeChild {s : String} {parts : List Simple}
    (h : Selector.parse? s = some ⟨[.compound parts]⟩) :
    Selector.parse? (":scope > " ++ s) =
      some ⟨[.step (.compound [.scope]) .child parts]⟩ := by
  obtain ⟨hcomma, rest, hread, hend⟩ := Parser.parse?_eq_some_iff.1 h
  obtain ⟨after, hcompound, hcombinator⟩ := Parser.readFrom_complex_eq_compound_iff.1 hread
  have hblank : Nth.skipBlank (nest (tokensOf (' ' :: s.toList))) = Nth.skipBlank (components s) :=
    skipBlank_components_blank s.toList
  have hlength : (":scope > " ++ s).length = s.length + 9 := by
    rw [String.length_append, Nat.add_comm]
    rfl
  -- the longer text has more levels than it needs
  have hsame : Parser.SameUpTo s.length (Parser.simple (Parser.complex s.length) ⟨false, false⟩)
      (Parser.simple (Parser.complex (s.length + 9)) ⟨false, false⟩) :=
    .simple (fun k hk place relative ↦
      Parser.sameUpTo_complex hk (Nat.lt_add_right 9 hk) place relative) _
  have hlevels := hsame.compound (Parser.forward_simple _ _) _ (blocksAll_components_le s)
  rw [hcompound, ← Parser.readFrom_compound_of_skipBlank _ hblank] at hlevels
  rw [Parser.parse?_eq_some_iff, components_scopeChild, hlength]
  refine ⟨?_, rest, Parser.readFrom_complex_scopeChild hlevels.symm hcombinator, hend⟩
  rw [← comma_mem_skipBlank, ← hblank, comma_mem_skipBlank] at hcomma
  simpa using hcomma

end Css

namespace Document

variable {d : Document}

theorem any_leftOf_child {context : NodeId} (hcontext : d.isElement context) (x : NodeId) :
    (d.view.leftOf .child x).any (· == context) = decide (d.parent? x = some context) := by
  have hpos : 0 < d.size := Nat.zero_lt_of_lt (isSome_node?.1 (node?_of_isElement hcontext))
  obtain ⟨n, hn⟩ := Nat.exists_eq_add_of_lt hpos
  have hancestors : d.view.leftOf .child x = (d.ancestorsTo (n + 1) x).take 1 := by
    rw [← Nat.zero_add n, ← hn]
    rfl
  rw [hancestors, ancestorsTo]
  cases hparent : d.parent? x with
  | none => rfl
  | some p =>
    dsimp only
    split
    · rw [List.take_succ_cons, List.take_zero, List.any_cons, List.any_nil, Bool.or_false,
        Bool.eq_iff_iff, beq_iff_eq, decide_eq_true_eq, Option.some.injEq]
    · next hnot =>
      have hne : p ≠ context := by
        rintro rfl
        exact hnot hcontext
      simp [hne]

theorem isMatch_scopeChild {context : NodeId} (hcontext : d.isElement context)
    (parts : List Css.Simple) (x : NodeId) :
    d.isMatch ⟨[.step (.compound [.scope]) .child parts]⟩ context x =
      (d.isMatch ⟨[.compound parts]⟩ context x && decide (d.parent? x = some context)) := by
  have hscope (y : NodeId) : Css.Complex.matches d.view context x (.compound [.scope]) y =
      (y == context) := Bool.and_true _
  rw [isMatch_single, isMatch_single, Css.Complex.matches, Css.Complex.matches,
    ← any_leftOf_child hcontext]
  simp only [hscope]

/-- Asked of the children of an element, a compound selector finds what it finds behind `:scope >`
among all elements below. -/
theorem query_scopeChild (h : d.Reached) {context : NodeId} (hcontext : d.isElement context)
    {selector : String} {parts : List Css.Simple}
    (hparsed : Css.Selector.parse? selector = some ⟨[.compound parts]⟩) :
    ∃ found, d.query context (":scope > " ++ selector) false = .ok found ∧
      d.query context selector true = .ok found := by
  have hd := arboreal_keptByBuilding.reached h
  have hnode := node?_of_isElement hcontext
  have hfilter : (d.candidates context false).filter
        (d.isMatch ⟨[.step (.compound [.scope]) .child parts]⟩ context) =
      (d.candidates context true).filter (d.isMatch ⟨[.compound parts]⟩ context) := by
    calc (d.descendants context).filter
          (d.isMatch ⟨[.step (.compound [.scope]) .child parts]⟩ context)
        = (d.descendants context).filter fun x ↦
            d.isMatch ⟨[.compound parts]⟩ context x && decide (d.parent? x = some context) :=
          List.filter_congr fun x _ ↦ isMatch_scopeChild hcontext parts x
      _ = ((d.descendants context).filter fun x ↦ d.parent? x = some context).filter
            (d.isMatch ⟨[.compound parts]⟩ context) := List.filter_filter.symm
      _ = ((d.childIds context).filter d.isElement).filter
            (d.isMatch ⟨[.compound parts]⟩ context) := by rw [hd.filter_parent_descendants]
  refine ⟨_, query_of_parse (Css.parse?_scopeChild hparsed) hnode false, ?_⟩
  rw [query_of_parse hparsed hnode, hfilter]

def nestedList : Document :=
  (((new "ul").appendElement root "li").appendElement 1 "li").appendElement root "li"

theorem query_scopeChild_nestedList :
    nestedList.Reached ∧ nestedList.isElement root ∧
    Css.Selector.parse? "/**/ li:not(:scope, :has(> li" =
      some ⟨[.compound [.localName "li", .noneOf [.compound [.scope],
        .compound [.has [.step .anchor .child [.localName "li"]]]]]]⟩ ∧
    ∃ found : List NodeId,
      nestedList.query root (":scope > " ++ "/**/ li:not(:scope, :has(> li") false = .ok found ∧
      nestedList.query root "/**/ li:not(:scope, :has(> li" true = .ok found ∧ found = [3] := by
  have h : nestedList.Reached := by
    refine .appendElement (.appendElement (.appendElement (.new "ul") ?_ "li") ?_ "li") ?_ "li" <;>
      decide
  have helement : nestedList.isElement root := by decide
  have htokens : Css.tokens "/**/ li:not(:scope, :has(> li" =
      [.blank, .ident "li", .colon, .function "not", .colon, .ident "scope", .comma, .blank,
        .colon, .function "has", .delim '>', .blank, .ident "li"] := by
    decide +kernel
  have hparsed : Css.Selector.parse? "/**/ li:not(:scope, :has(> li" =
      some ⟨[.compound [.localName "li", .noneOf [.compound [.scope],
        .compound [.has [.step .anchor .child [.localName "li"]]]]]]⟩ := by
    unfold Css.Selector.parse? Css.components
    rw [htokens]
    rfl
  obtain ⟨found, hscoped, hdirect⟩ := query_scopeChild h helement hparsed
  have hanswer : found = [3] := by
    rw [query_of_parse hparsed (node?_of_isElement helement)] at hdirect
    rw [← Except.ok.inj hdirect]
    decide +kernel
  exact ⟨h, helement, hparsed, found, hscoped, hdirect, hanswer⟩

end Document

end PageOutline
