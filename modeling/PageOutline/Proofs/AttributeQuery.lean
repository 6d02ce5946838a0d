import PageOutline.Proofs.DocumentOrder
import PageOutline.Proofs.Quoting
import PageOutline.Proofs.Scanning

namespace PageOutline

open Relation (TransGen)

namespace Css

open Lexer

theorem isName_of_html {s : String} (h : Html.IsName s) : IsName s := by
  obtain ⟨c, cs, hs, hc⟩ := h.exists_cons
  refine IsIdentifier.isName ⟨c, cs, hs, Html.isAlpha_of_isLower hc, fun d hd ↦ ?_⟩
  have hname : Html.isNameChar d := h.2 d (hs ▸ List.mem_cons_of_mem c hd)
  simp only [Html.isNameChar, Bool.or_eq_true] at hname
  rcases hname with (hletter | hdigit) | hdash
  · simp [Char.isAlphanum, Html.isAlpha_of_isLower hletter]
  · simp [Char.isAlphanum, hdigit]
  · simpa using Or.inr hdash

namespace Comparison

variable {value wanted : String}

theorem holds_equal : equal.holds false value wanted ↔ value = wanted := by
  simp [holds, comparedChars, String.toList_inj]

theorem holds_startsWith :
    startsWith.holds false value wanted ↔ wanted ≠ "" ∧ ∃ rest, value = wanted ++ rest := by
  have hchars : wanted.toList <+: value.toList ↔ ∃ rest, value = wanted ++ rest := by
    constructor
    · rintro ⟨rest, hrest⟩
      refine ⟨String.ofList rest, ?_⟩
      rw [← String.toList_inj, String.toList_append, String.toList_ofList, hrest]
    · rintro ⟨rest, rfl⟩
      exact ⟨rest.toList, String.toList_append.symm⟩
  simp [holds, comparedChars, hchars]

end Comparison

end Css

namespace Document

variable {d : Document}

theorem Arboreal.reaches_iff_isElement (h : d.Arboreal)
    (htexts : ∀ t : Nat, ¬d.isElement t → d.childIds t = []) (x : Nat) :
    TransGen d.HasChild Document.root x ↔ d.isElement x ∧ x ≠ Document.root := by
  constructor
  · intro hx
    obtain ⟨p, -, hp⟩ := TransGen.tail'_iff.1 hx
    exact ⟨hp.2, Nat.ne_of_gt (h.lt_of_transGen hx)⟩
  · -- a node comes after its parent, so the parent is reached already
    induction x using Nat.strong_induction_on with
    | _ x ih =>
      rintro ⟨helement, hne⟩
      obtain ⟨p, hp⟩ := h.exists_parent x (isSome_node?.1 (node?_of_isElement helement)) hne
      have hchild : x ∈ d.childIds p := h.mem_childIds.2 hp
      have habove : d.isElement p := by
        by_contra hnot
        rw [htexts p hnot] at hchild
        cases hchild
      by_cases hroot : p = Document.root
      · subst hroot
        exact .single ⟨hchild, helement⟩
      · exact .tail (ih p (h.parent_lt hp) ⟨habove, hroot⟩) ⟨hchild, helement⟩

theorem query_comparison {name : String} (hname : Html.IsName name)
    (hcase : name ∉ Css.Parser.caselessAttributes) (how : Css.Comparison) (s : String)
    {context : NodeId} (hcontext : (d.node? context).isSome) (direct : Bool) :
    d.query context ("[" ++ name ++ how.symbol ++ Css.quote s ++ "]") direct =
      .ok ((d.candidates context direct).filter fun x ↦
        ((d.attributes x).get? name).any (how.holds false · (Css.asRead s))) := by
  have hlowered : Text.asciiLower name = name := asciiLower_of_isLowered hname.isLowered
  have hexact : Css.Parser.caselessAttributes.contains name = false := by simpa using hcase
  have hparsed := Css.parse?_comparisonSelector (Css.isName_of_html hname) how s
  rw [hlowered, hexact] at hparsed
  rw [query_of_parse hparsed hcontext]
  refine congrArg Except.ok (List.filter_congr fun x _ ↦ ?_)
  rw [isMatch_single]
  exact Bool.and_true _

theorem Reached.mem_query_comparison (h : d.Reached) {name : String} (hname : Html.IsName name)
    (hcase : name ∉ Css.Parser.caselessAttributes) (how : Css.Comparison) (s : String) :
    ∃ found, d.query root ("[" ++ name ++ how.symbol ++ Css.quote s ++ "]") false = .ok found ∧
      ∀ x : Nat, x ∈ found ↔ TransGen d.HasChild root x ∧
        ∃ value, (d.attributes x).get? name = some value ∧
          how.holds false value (Css.asRead s) := by
  have hd := arboreal_keptByBuilding.reached h
  refine ⟨_, query_comparison hname hcase how s (node?_of_isElement hd.root) false, fun x ↦ ?_⟩
  have hcandidates : x ∈ d.candidates root false ↔ TransGen d.HasChild root x := hd.mem_descendants
  rw [List.mem_filter, hcandidates, Option.any_eq_true]

/-- A query for a quoted text finds the elements below the root that have the text for the value of
the attribute, and a query for its beginning those whose value starts with it. Below the root are
the elements that it reaches over elements. -/
theorem query_quoted (h : d.Reached) {name : String} (hname : Html.IsName name)
    (hcase : name ∉ Css.Parser.caselessAttributes) (s : String) :
    Css.Selector.Readable ("[" ++ name ++ "=" ++ Css.quote s ++ "]") ∧
    Css.Selector.Readable ("[" ++ name ++ "^=" ++ Css.quote s ++ "]") ∧
    (∃ found, d.query root ("[" ++ name ++ "=" ++ Css.quote s ++ "]") false = .ok found ∧
      ∀ x : Nat, x ∈ found ↔ TransGen d.HasChild root x ∧
        (d.attributes x).get? name = some (Css.asRead s)) ∧
    (∃ found, d.query root ("[" ++ name ++ "^=" ++ Css.quote s ++ "]") false = .ok found ∧
      ∀ x : Nat, x ∈ found ↔ s ≠ "" ∧ TransGen d.HasChild root x ∧
        ∃ rest, (d.attributes x).get? name = some (Css.asRead s ++ rest)) ∧
    ((∀ t : Nat, ¬d.isElement t → d.childIds t = []) →
      ∀ x : Nat, TransGen d.HasChild root x ↔ d.isElement x ∧ x ≠ root) := by
  have hreadable (how : Css.Comparison) :
      Css.Selector.Readable ("[" ++ name ++ how.symbol ++ Css.quote s ++ "]") := by
    rw [Css.Selector.Readable, Css.parse?_comparisonSelector (Css.isName_of_html hname)]
    rfl
  obtain ⟨equal, hequal, hmem⟩ := h.mem_query_comparison hname hcase .equal s
  obtain ⟨starting, hstarting, hmem'⟩ := h.mem_query_comparison hname hcase .startsWith s
  refine ⟨hreadable .equal, hreadable .startsWith, ⟨equal, hequal, fun x ↦ ?_⟩,
    ⟨starting, hstarting, fun x ↦ ?_⟩,
    (arboreal_keptByBuilding.reached h).reaches_iff_isElement⟩
  · rw [hmem]
    simp only [Css.Comparison.holds_equal, exists_eq_right]
  · rw [hmem']
    simp only [Css.Comparison.holds_startsWith, ne_eq, Css.asRead_eq_empty]
    constructor
    · rintro ⟨hbelow, value, hvalue, hne, rest, rfl⟩
      exact ⟨hne, hbelow, rest, hvalue⟩
    · rintro ⟨hne, hbelow, rest, hvalue⟩
      exact ⟨hbelow, _, hvalue, hne, rest, rfl⟩

def bracketPage : Document :=
  ((new "ul").appendElement root "li").insertAttribute 1 "data-k" "\"], \uFFFD"

theorem query_quoted_bracketPage :
    bracketPage.Reached ∧ Html.IsName "data-k" ∧ "data-k" ∉ Css.Parser.caselessAttributes ∧
    (∃ found : List NodeId,
      bracketPage.query root ("[" ++ "data-k" ++ "=" ++ Css.quote "\"], \x00" ++ "]") false =
        .ok found ∧ 1 ∈ found) ∧
    ∃ found : List NodeId,
      bracketPage.query root ("[" ++ "data-k" ++ "^=" ++ Css.quote "\"], \x00" ++ "]") false =
        .ok found ∧ 1 ∈ found := by
  have h : bracketPage.Reached :=
    ((Reached.new "ul").appendElement (by decide) "li").insertAttribute 1 "data-k" _
  have hname : Html.IsName "data-k" := by decide
  have hcase : "data-k" ∉ Css.Parser.caselessAttributes := by decide
  have hchild : bracketPage.HasChild root 1 := ⟨by decide, by decide⟩
  obtain ⟨-, -, ⟨equal, hequal, hmem⟩, ⟨starting, hstarting, hmem'⟩, -⟩ :=
    query_quoted h hname hcase "\"], \x00"
  exact ⟨h, hname, hcase, ⟨equal, hequal, (hmem 1).2 ⟨.single hchild, by decide⟩⟩,
    starting, hstarting, (hmem' 1).2 ⟨by decide, .single hchild, "", by decide⟩⟩

def buriedPage : Document :=
  (((new "p").appendText root "x").appendElement 1 "b").insertAttribute 2 "id" "k"

/-- Not every element that stands below the root at any depth is found. -/
theorem not_forall_below_mem_query_quoted :
    ¬∀ d : Document, d.Reached → ∀ name, Html.IsName name →
      name ∉ Css.Parser.caselessAttributes → ∀ s, ∃ found,
      d.query root ("[" ++ name ++ "=" ++ Css.quote s ++ "]") false = .ok found ∧
        ∀ x : Nat, x ∈ found ↔
          (TransGen (fun p c ↦ c ∈ d.childIds p) root x ∧ d.isElement x) ∧
            (d.attributes x).get? name = some (Css.asRead s) := by
  intro hall
  have h : buriedPage.Reached := by
    refine .insertAttribute (.appendElement (.appendText (.new "p") ?_ "x") ?_ "b") 2 "id" "k" <;>
      decide
  obtain ⟨found, hquery, hmem⟩ := hall buriedPage h "id" (by decide) (by decide) "k"
  have hbelow : TransGen (fun p c ↦ c ∈ buriedPage.childIds p) root 2 :=
    .tail (.single (by decide : (1 : Nat) ∈ buriedPage.childIds root)) (by decide)
  have hfound : (2 : Nat) ∈ found := (hmem 2).2 ⟨⟨hbelow, by decide⟩, by decide⟩
  have hanswer : (buriedPage.query root ("[" ++ "id" ++ "=" ++ Css.quote "k" ++ "]")
      false).toOption = some [] := by
    decide +kernel
  rw [hquery] at hanswer
  rw [Option.some.inj hanswer] at hfound
  cases hfound

end Document

end PageOutline
