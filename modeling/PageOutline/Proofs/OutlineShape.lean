import PageOutline.Proofs.DropdownParts

namespace PageOutline

open LivePage

def Outline.SameBody (o o' : Outline) : Prop := ∃ attributes, o' = { o with attributes }

namespace Outline.SameBody

variable {o o' o'' : Outline}

theorem refl (o : Outline) : o.SameBody o := ⟨_, rfl⟩

theorem trans (h : o.SameBody o') (h' : o'.SameBody o'') : o.SameBody o'' := by
  obtain ⟨attributes, rfl⟩ := h
  obtain ⟨more, rfl⟩ := h'
  exact ⟨more, rfl⟩

theorem setAttribute (o : Outline) (name value : String) : o.SameBody (o.setAttribute name value) :=
  ⟨_, rfl⟩

theorem setOptional (o : Outline) (name : String) (value : Option String) :
    o.SameBody ((value.map (o.setAttribute name)).getD o) := by
  cases value with
  | none => exact refl o
  | some value => exact setAttribute o name value

theorem children (h : o.SameBody o') : o'.children = o.children := by
  obtain ⟨attributes, rfl⟩ := h
  rfl

theorem text (h : o.SameBody o') : o'.text = o.text := by
  obtain ⟨attributes, rfl⟩ := h
  rfl

end Outline.SameBody

namespace Directive

variable (d : Directive) (liveTag text : String) (name : Option String)

theorem head_children : (d.head liveTag text name).children = [] := by
  unfold head
  cases name <;> cases d.attachText && !text.isEmpty <;> rfl

theorem head_text :
    (d.head liveTag text name).text = if d.attachText ∧ text ≠ "" then some text else none := by
  unfold head
  by_cases h : d.attachText ∧ text ≠ ""
  · have hattached : (d.attachText && !text.isEmpty) = true := by simpa using h
    rw [if_pos h, hattached]
    cases name <;> rfl
  · have hattached : (d.attachText && !text.isEmpty) = false := by simpa using h
    rw [if_neg h, hattached]
    cases name <;> rfl

end Directive

namespace Pass

section Stages

variable {σ : Type} [LivePage σ] {settings : Settings} {recipe : Recipe} {node : NodeId}
  {name : String} {output output' : Outline} {s t : Session σ}

theorem copyAttributes_sameBody {names : List String}
    (h : copyAttributes node names output s = (.ok output', t)) : output.SameBody output' := by
  induction names generalizing output s with
  | nil =>
    cases h
    exact .refl _
  | cons name names ih =>
    obtain ⟨kept, u, -, h⟩ := bind_eq_ok.1 h
    exact (Outline.SameBody.setOptional output name _).trans (ih h)

theorem computeAttributes_sameBody {computers : List (String × AttributeFunction)}
    (h : computeAttributes node computers output s = (.ok output', t)) :
    output.SameBody output' := by
  induction computers generalizing output s with
  | nil =>
    cases h
    exact .refl _
  | cons computer computers ih =>
    obtain ⟨computed, u, -, h⟩ := bind_eq_ok.1 h
    exact (Outline.SameBody.setOptional output computer.1 computed).trans (ih h)

theorem composeAttributes_sameBody {d : Directive}
    (h : composeAttributes settings d node output s = (.ok output', t)) :
    output.SameBody output' := by
  obtain ⟨copied, u, hcopied, h⟩ := bind_eq_ok.1 h
  have hclass := Outline.SameBody.setOptional copied "class" d.classOverride
  exact (((copyAttributes_sameBody hcopied).trans hclass).trans
    (.setOptional _ "id" d.idOverride)).trans (computeAttributes_sameBody h)

theorem describeInput_cases {name : Option String}
    (h : describeInput settings recipe name node output s = (.ok output', t)) :
    output' = output ∨
      ∃ key ∈ ["value", "checked"], ∃ value, output' = output.setAttribute key value := by
  obtain ⟨type, u, -, h⟩ := bind_eq_ok.1 h
  dsimp only at h
  split at h
  · obtain ⟨value, v, -, h⟩ := bind_eq_ok.1 h
    have hvalue : output' = (value.map (output.setAttribute "value")).getD output := by
      cases name with
      | none =>
        cases h
        rfl
      | some name =>
        obtain ⟨_, w, -, ⟨⟩⟩ := bind_eq_ok.1 h
        rfl
    cases value with
    | none => exact .inl hvalue
    | some value => exact .inr ⟨"value", by simp, value, hvalue⟩
  · split at h
    · obtain ⟨checked, v, -, h⟩ := bind_eq_ok.1 h
      refine .inr ⟨"checked", by simp, toString checked, ?_⟩
      cases name with
      | none =>
        cases h
        rfl
      | some name =>
        obtain ⟨_, w, -, ⟨⟩⟩ := bind_eq_ok.1 h
        rfl
    · split at h
      · obtain ⟨checked, v, -, ⟨⟩⟩ := bind_eq_ok.1 h
        exact .inr ⟨"checked", by simp, toString checked, rfl⟩
      · cases h
        exact .inl rfl

theorem describeInput_sameBody {name : Option String}
    (h : describeInput settings recipe name node output s = (.ok output', t)) :
    output.SameBody output' := by
  rcases describeInput_cases h with rfl | ⟨key, -, value, rfl⟩
  · exact .refl _
  · exact .setAttribute output key value

theorem expandLabel_pushAll
    (h : expandLabel settings recipe name node output s = (.ok output', t)) :
    ∃ entries, output' = output.pushAll entries := by
  obtain ⟨parent, u, -, h⟩ := bind_eq_ok.1 h
  cases parent with
  | none =>
    cases h
    exact ⟨[], (Outline.pushAll_nil _).symm⟩
  | some parent =>
    obtain ⟨label, v, -, h⟩ := bind_eq_ok.1 h
    cases label with
    | none =>
      cases h
      exact ⟨[], (Outline.pushAll_nil _).symm⟩
    | some label =>
      obtain ⟨live, w, -, h⟩ := bind_eq_ok.1 h
      obtain ⟨shown, x, -, h⟩ := bind_eq_ok.1 h
      obtain ⟨_, y, -, ⟨⟩⟩ := bind_eq_ok.1 h
      exact ⟨[_], rfl⟩

theorem expandOption_pushAll
    (h : expandOption settings recipe name node output s = (.ok output', t)) :
    ∃ entries, output' = output.pushAll entries := by
  obtain ⟨text, u, -, h⟩ := bind_eq_ok.1 h
  obtain ⟨value, v, -, h⟩ := bind_eq_ok.1 h
  obtain ⟨selected, w, -, h⟩ := bind_eq_ok.1 h
  obtain ⟨_, x, -, ⟨⟩⟩ := bind_eq_ok.1 h
  exact ⟨[_], rfl⟩

theorem expandOptions_pushAll {control : NodeId} {nodes : List NodeId}
    (h : expandOptions settings recipe name control nodes output s = (.ok output', t)) :
    ∃ entries, output' = output.pushAll entries := by
  induction nodes generalizing output s with
  | nil =>
    cases h
    exact ⟨[], (Outline.pushAll_nil _).symm⟩
  | cons x nodes ih =>
    rw [expandOptions] at h
    split at h
    · exact ih h
    · obtain ⟨grown, u, hgrown, h⟩ := bind_eq_ok.1 h
      obtain ⟨entries, rfl⟩ := expandOption_pushAll hgrown
      obtain ⟨more, rfl⟩ := ih h
      exact ⟨entries ++ more, Outline.pushAll_pushAll ..⟩

theorem expandDropdown_pushAll
    (h : expandDropdown settings recipe name node output s = (.ok output', t)) :
    ∃ entries, output' = output.pushAll entries := by
  obtain ⟨_, u, -, h⟩ := bind_eq_ok.1 h
  obtain ⟨labelled, v, hlabel, h⟩ := bind_eq_ok.1 h
  obtain ⟨entries, rfl⟩ := expandLabel_pushAll hlabel
  obtain ⟨id, w, -, h⟩ := bind_eq_ok.1 h
  generalize id.filter (fun id ↦ !id.isEmpty) = usable at h
  cases usable with
  | none =>
    cases h
    exact ⟨entries, rfl⟩
  | some id =>
    obtain ⟨options, x, -, h⟩ := bind_eq_ok.1 h
    obtain ⟨more, rfl⟩ := expandOptions_pushAll h
    exact ⟨entries ++ more, Outline.pushAll_pushAll ..⟩

end Stages

section Separators

/-- What is made of a match, with the separators behind it. -/
def block (every : Option Nat) (index : Nat) (child : Outline) : List OutlineNode :=
  match every with
  | none => [child.toNode]
  | some n =>
    if 0 < n ∧ n ∣ index then [child.toNode, .separator, .separator]
    else [child.toNode, .separator]

def blocks (every : Option Nat) (index : Nat) (made : List (NodeId × Outline)) :
    List OutlineNode :=
  (made.zipIdx index).flatMap fun m ↦ block every m.2 m.1.2

theorem blocks_cons (every : Option Nat) (index : Nat) (node : NodeId) (child : Outline)
    (made : List (NodeId × Outline)) :
    blocks every index ((node, child) :: made) =
      block every index child ++ blocks every (index + 1) made := by
  rw [blocks, List.zipIdx_cons, List.flatMap_cons, blocks]

theorem pushSeparators_push (every : Option Nat) (index : Nat) (output child : Outline) :
    pushSeparators (output.push child) (separatorsAfter every index) =
      output.pushNodes (block every index child) := by
  rcases every with _ | _ | n
  · rfl
  · simp [separatorsAfter, pushSeparators, block, Outline.push, Outline.pushSeparator,
      Outline.pushNode, Outline.pushNodes]
  · by_cases hn : n + 1 ∣ index
    · simp [separatorsAfter, Nat.dvd_iff_mod_eq_zero.1 hn, pushSeparators, block, hn, Outline.push,
        Outline.pushSeparator, Outline.pushNode, Outline.pushNodes]
    · simp [separatorsAfter, mt Nat.dvd_iff_mod_eq_zero.2 hn, pushSeparators, block, hn,
        Outline.push, Outline.pushSeparator, Outline.pushNode, Outline.pushNodes]

theorem add_pred_div_succ {n : Nat} (hn : 0 < n) (index : Nat) :
    (index + 1 + n - 1) / n = (index + n - 1) / n + if n ∣ index then 1 else 0 := by
  obtain ⟨n, rfl⟩ := Nat.exists_eq_succ_of_ne_zero hn.ne'
  have hdvd : n + 1 ∣ index + n + 1 ↔ n + 1 ∣ index := by
    rw [Nat.add_assoc]
    exact (Nat.dvd_add_left (dvd_refl _))
  calc (index + 1 + (n + 1) - 1) / (n + 1) = (index + n + 1) / (n + 1) := by
        congr 1
        omega
    _ = (index + n) / (n + 1) + if n + 1 ∣ index then 1 else 0 := by
        rw [Nat.succ_div]
        simp only [hdvd]

theorem add_pred_div_of_pos {m n : Nat} (hm : 0 < m) (hn : 0 < n) :
    (m + n - 1) / n = (m - 1) / n + 1 := by
  rw [← Nat.add_div_right _ hn]
  congr 1
  omega

theorem countP_blocks_none (index : Nat) (made : List (NodeId × Outline)) :
    (blocks none index made).countP OutlineNode.isSeparator = 0 := by
  induction made generalizing index with
  | nil => rfl
  | cons m made ih =>
    rw [blocks_cons, List.countP_append, ih]
    rfl

theorem countP_blocks_zero (index : Nat) (made : List (NodeId × Outline)) :
    (blocks (some 0) index made).countP OutlineNode.isSeparator = made.length := by
  induction made generalizing index with
  | nil => rfl
  | cons m made ih =>
    rw [blocks_cons, List.countP_append, ih, List.length_cons, Nat.add_comm]
    rfl

/-- Each match is followed by one separator, and at every multiple of `n` by one more. -/
theorem countP_blocks {n : Nat} (hn : 0 < n) (index : Nat) (made : List (NodeId × Outline)) :
    (blocks (some n) index made).countP OutlineNode.isSeparator + (index + n - 1) / n =
      made.length + (index + made.length + n - 1) / n := by
  induction made generalizing index with
  | nil => simp [blocks]
  | cons m made ih =>
    have hlater := ih (index + 1)
    have hblock : (block (some n) index m.2).countP OutlineNode.isSeparator =
        1 + if n ∣ index then 1 else 0 := by
      by_cases hindex : n ∣ index
      · rw [block, if_pos ⟨hn, hindex⟩, if_pos hindex]
        rfl
      · rw [block, if_neg fun h ↦ hindex h.2, if_neg hindex]
        rfl
    rw [add_pred_div_succ hn, Nat.add_assoc index 1, Nat.add_comm 1] at hlater
    rw [blocks_cons, List.countP_append, hblock, List.length_cons]
    omega

theorem countP_blocks_start {n : Nat} (hn : 0 < n) (made : List (NodeId × Outline)) :
    (blocks (some n) 0 made).countP OutlineNode.isSeparator =
      made.length + (made.length + n - 1) / n := by
  have hzero : (0 + n - 1) / n = 0 := Nat.div_eq_of_lt (by omega)
  have hstart := countP_blocks hn 0 made
  rwa [hzero, Nat.zero_add, Nat.add_zero] at hstart

end Separators

section Runs

variable (settings : Settings)

/-- The nodes are processed with a recipe one after the other, the first of them at the given
place. -/
inductive MadeOfMatches (recipe : Recipe) (childPrefix : String) :
    Nat → Session Document → List (NodeId × Outline) → Session Document → Prop
  | nil {index : Nat} {s : Session Document} : MadeOfMatches recipe childPrefix index s [] s
  | cons {index : Nat} {s t u : Session Document} {node : NodeId} {child : Outline}
      {made : List (NodeId × Outline)}
      (processed : process settings recipe node childPrefix index s = (.ok child, t))
      (later : MadeOfMatches recipe childPrefix (index + 1) t made u) :
      MadeOfMatches recipe childPrefix index s ((node, child) :: made) u

/-- Child recipes are turned to one after the other, and each has all its matches processed, which
a query below the node or below the root returns. -/
inductive MadeOfRecipes (node : NodeId) (childPrefix : String) :
    List Recipe → Session Document → List (List (NodeId × Outline)) → Session Document → Prop
  | nil {s : Session Document} : MadeOfRecipes node childPrefix [] s [] s
  | cons {recipe : Recipe} {recipes : List Recipe} {s t u : Session Document}
      {made : List (NodeId × Outline)} {groups : List (List (NodeId × Outline))}
      (found : s.page.query (if recipe.directive.queryFromRoot then Document.root else node)
        recipe.directive.selector recipe.directive.directChildOnly = .ok (made.map Prod.fst))
      (walked : MadeOfMatches settings recipe childPrefix 0 s made t)
      (later : MadeOfRecipes node childPrefix recipes t groups u) :
      MadeOfRecipes node childPrefix (recipe :: recipes) s (made :: groups) u

variable {settings} {node : NodeId} {childPrefix : String} {output output' : Outline}
  {every : Option Nat} {s t : Session Document}

theorem addMatches_eq_ok {recipe : Recipe} {nodes : List NodeId} {index : Nat} :
    addMatches (fun child i ↦ process settings recipe child childPrefix i) every nodes index output
        s = (.ok output', t) ↔
      ∃ made, made.map Prod.fst = nodes ∧ MadeOfMatches settings recipe childPrefix index s made t ∧
        output' = output.pushNodes (blocks every index made) := by
  induction nodes generalizing index output s with
  | nil =>
    constructor
    · rintro ⟨⟩
      exact ⟨[], rfl, .nil, (Outline.pushNodes_nil _).symm⟩
    · rintro ⟨made, hmade, hrun, rfl⟩
      obtain rfl := List.map_eq_nil_iff.1 hmade
      cases hrun
      exact congrArg (fun o ↦ (Except.ok o, _)) output.pushNodes_nil.symm
  | cons x nodes ih =>
    rw [addMatches, bind_eq_ok]
    constructor
    · rintro ⟨child, u, hchild, h⟩
      obtain ⟨made, rfl, hrun, rfl⟩ := ih.1 h
      refine ⟨(x, child) :: made, rfl, .cons hchild hrun, ?_⟩
      rw [pushSeparators_push, blocks_cons, Outline.pushNodes_pushNodes]
    · rintro ⟨made, hmade, hrun, rfl⟩
      cases hrun with
      | nil => cases hmade
      | cons processed later =>
        obtain ⟨rfl, hnodes⟩ := List.cons.inj hmade
        refine ⟨_, _, processed, ih.2 ⟨_, hnodes, later, ?_⟩⟩
        rw [pushSeparators_push, blocks_cons, Outline.pushNodes_pushNodes]

theorem processChildren_eq_ok {recipes : List Recipe} :
    processChildren settings every node childPrefix recipes output s = (.ok output', t) ↔
      ∃ groups, MadeOfRecipes settings node childPrefix recipes s groups t ∧
        output' = output.pushNodes (groups.flatMap (blocks every 0)) := by
  induction recipes generalizing output s with
  | nil =>
    rw [processChildren_nil]
    constructor
    · rintro ⟨⟩
      exact ⟨[], .nil, (Outline.pushNodes_nil _).symm⟩
    · rintro ⟨groups, hrun, rfl⟩
      cases hrun
      exact congrArg (fun o ↦ (Except.ok o, _)) output.pushNodes_nil.symm
  | cons recipe recipes ih =>
    rw [processChildren_cons, bind_eq_ok]
    constructor
    · rintro ⟨found, u, hfound, h⟩
      rw [findMatches_apply, Prod.mk.injEq] at hfound
      obtain ⟨hfound, rfl⟩ := hfound
      obtain ⟨grown, v, hgrown, h⟩ := bind_eq_ok.1 h
      obtain ⟨made, rfl, walked, rfl⟩ := addMatches_eq_ok.1 hgrown
      obtain ⟨groups, later, rfl⟩ := ih.1 h
      refine ⟨made :: groups, .cons hfound walked later, ?_⟩
      rw [List.flatMap_cons, Outline.pushNodes_pushNodes]
    · rintro ⟨groups, hrun, rfl⟩
      cases hrun with
      | cons found walked later =>
        refine ⟨_, _, ?_, bind_eq_ok.2
          ⟨_, _, addMatches_eq_ok.2 ⟨_, rfl, walked, rfl⟩, ih.2 ⟨_, later, ?_⟩⟩⟩
        · rw [findMatches_apply, found]
        · rw [List.flatMap_cons, Outline.pushNodes_pushNodes]

end Runs

variable {settings : Settings} {recipe : Recipe} {node : NodeId} {parent childPrefix : String}
  {index : Nat} {output output' : Outline} {s t : Session Document}

theorem describeControl_cases {liveTag : String} {name : Option String}
    (h : describeControl settings recipe liveTag name node output s = (.ok output', t)) :
    (∃ key, liveTag = "select" ∧ name = some key ∧
        expandDropdown settings recipe key node output s = (.ok output', t)) ∨
      ((liveTag ≠ "select" ∨ name = none) ∧ output.SameBody output') := by
  unfold describeControl at h
  split at h
  · next hinput =>
    subst hinput
    exact .inr ⟨.inl (by decide), describeInput_sameBody h⟩
  · split at h
    · next hselect =>
      cases name with
      | none =>
        cases h
        exact .inr ⟨.inr rfl, .refl _⟩
      | some key => exact .inl ⟨key, hselect, rfl, h⟩
    · next hselect =>
      cases h
      exact .inr ⟨.inl hselect, .refl _⟩

theorem tag?_of_onPage {liveTag : String} (h : onPage (tag node) s = (.ok liveTag, t)) :
    s.page.tag? node = some liveTag ∧ t = s := by
  rw [tag, onPage_answer, Prod.mk.injEq] at h
  obtain ⟨hreply, rfl⟩ := h
  refine ⟨?_, rfl⟩
  rw [Document.reply] at hreply
  split at hreply
  · cases hreply
  · next htag =>
    cases hreply
    exact htag
  · cases hreply

theorem enter_eq_ok {head : Outline}
    (h : enter settings recipe node parent index s = (.ok (head, childPrefix), t)) :
    ∃ liveTag text entries, s.page.tag? node = some liveTag ∧
      resolveText recipe.directive node s = (.ok text, s) ∧
      let naming := recipe.directive.name.resolve parent text index
      childPrefix = naming.childPrefix ∧ head.children = entries.map Outline.toNode ∧
      head.text = (if recipe.directive.attachText ∧ text ≠ "" then some text else none) ∧
      (∀ name, liveTag = "select" → naming.usable? = some name → ∃ bare u, bare.children = [] ∧
        expandDropdown settings recipe name node bare u = (.ok head, t)) ∧
      (liveTag ≠ "select" ∨ naming.usable? = none → entries = []) := by
  rw [enter_eq, bind_eq_ok] at h
  obtain ⟨liveTag, u, htag, h⟩ := h
  obtain ⟨htag, rfl⟩ := tag?_of_onPage htag
  rw [bind_eq_ok] at h
  obtain ⟨text, v, htext, h⟩ := h
  obtain rfl : v = u := (congrArg Prod.snd htext).symm.trans (session_resolveText ..)
  obtain ⟨_, w, -, h⟩ := bind_eq_ok.1 h
  obtain ⟨_, x, -, h⟩ := bind_eq_ok.1 h
  obtain ⟨bare, y, hbare, h⟩ := bind_eq_ok.1 h
  obtain ⟨full, z, hfull, ⟨⟩⟩ := bind_eq_ok.1 h
  have hsame := composeAttributes_sameBody hbare
  have hchildren := hsame.children.trans (Directive.head_children ..)
  have hbody := hsame.text.trans (Directive.head_text ..)
  refine ⟨liveTag, text, ?_⟩
  rcases describeControl_cases hfull with ⟨key, hselect, hkey, hexpand⟩ | ⟨hnot, hfull⟩
  · obtain ⟨entries, rfl⟩ := expandDropdown_pushAll hexpand
    have hentries : (bare.pushAll entries).children = entries.map Outline.toNode := by
      rw [Outline.pushAll, Outline.pushNodes, hchildren, List.nil_append]
    refine ⟨entries, htag, htext, rfl, hentries, hbody, fun name _ hname ↦ ?_, ?_⟩
    · obtain rfl := Option.some.inj (hkey.symm.trans hname)
      exact ⟨bare, y, hchildren, hexpand⟩
    · rintro (hother | hnone)
      · exact absurd hselect hother
      · cases hkey.symm.trans hnone
  · refine ⟨[], htag, htext, rfl, hfull.children.trans hchildren, hfull.text.trans hbody,
      fun name hselect hname ↦ ?_, fun _ ↦ rfl⟩
    rcases hnot with hother | hnone
    · exact absurd hselect hother
    · cases hname.symm.trans hnone

theorem finish_children (d : Directive) (output : Outline) :
    (finish d output).children = output.children := by
  unfold finish
  split <;> rfl

theorem finish_of_empty {d : Directive} {placeholder : String} (hempty : output.children = [])
    (hset : d.emptyPlaceholder = some placeholder) :
    (finish d output).text = some placeholder := by
  rw [finish, hempty, hset]
  rfl

theorem finish_of_not_empty {d : Directive}
    (h : output.children ≠ [] ∨ d.emptyPlaceholder = none) : finish d output = output := by
  unfold finish
  split
  · next hempty hset =>
    rcases h with hne | hnone
    · exact absurd hempty hne
    · cases hset.symm.trans hnone
  · rfl

theorem separatorCount_eq_sum {every : Option Nat} {entries : List Outline}
    {groups : List (List (NodeId × Outline))}
    (h : output.children = entries.map Outline.toNode ++ groups.flatMap (blocks every 0)) :
    output.separatorCount =
      (groups.map fun made ↦ (blocks every 0 made).countP OutlineNode.isSeparator).sum := by
  have hentries : (entries.map Outline.toNode).countP OutlineNode.isSeparator = 0 := by
    rw [List.countP_map, List.countP_eq_zero]
    rintro entry - ⟨⟩
  rw [Outline.separatorCount, h, List.countP_append, hentries, Nat.zero_add, List.countP_flatMap]
  rfl

/-- An outline has its own text and, below the parts of a dropdown, the blocks of all matches in the
order of recipes and queries. -/
theorem process_shape (h : process settings recipe node parent index s = (.ok output, t)) :
    ∃ (liveTag text : String) (head : Outline) (entries : List Outline) (u : Session Document)
      (groups : List (List (NodeId × Outline))),
      s.page.tag? node = some liveTag ∧
      resolveText recipe.directive node s = (.ok text, s) ∧
      let d := recipe.directive
      let naming := d.name.resolve parent text index
      enter settings recipe node parent index s = (.ok (head, naming.childPrefix), u) ∧
      (∀ name, liveTag = "select" → naming.usable? = some name → ∃ bare v, bare.children = [] ∧
        expandDropdown settings recipe name node bare v = (.ok head, u)) ∧
      (liveTag ≠ "select" ∨ naming.usable? = none → entries = []) ∧
      head.children = entries.map Outline.toNode ∧
      MadeOfRecipes settings node naming.childPrefix recipe.children u groups t ∧
      output.children =
        entries.map Outline.toNode ++ groups.flatMap (blocks d.separatorEvery 0) ∧
      (d.separatorEvery = none → output.separatorCount = 0) ∧
      (d.separatorEvery = some 0 → output.separatorCount = (groups.map List.length).sum) ∧
      (∀ n, 0 < n → d.separatorEvery = some n →
        output.separatorCount =
            (groups.map fun made ↦ made.length + (made.length + n - 1) / n).sum ∧
          ∀ made, groups = [made] → made ≠ [] →
            output.separatorCount = made.length + (made.length - 1) / n + 1) ∧
      (∀ placeholder, output.children = [] → d.emptyPlaceholder = some placeholder →
        output.text = some placeholder) ∧
      (output.children ≠ [] ∨ d.emptyPlaceholder = none →
        output.text = if d.attachText ∧ text ≠ "" then some text else none) := by
  rw [process_eq, bind_eq_ok] at h
  obtain ⟨⟨head, childPrefix⟩, u, hentered, h⟩ := h
  obtain ⟨full, v, hfull, ⟨⟩⟩ := bind_eq_ok.1 h
  obtain ⟨groups, hmade, rfl⟩ := processChildren_eq_ok.1 hfull
  obtain ⟨liveTag, text, entries, htag, htext, rfl, hentries, hbody, hexpanded, hplain⟩ :=
    enter_eq_ok hentered
  have hchildren : (finish recipe.directive (head.pushNodes
      (groups.flatMap (blocks recipe.directive.separatorEvery 0)))).children =
      entries.map Outline.toNode ++
        groups.flatMap (blocks recipe.directive.separatorEvery 0) := by
    rw [finish_children, Outline.pushNodes, hentries]
  have hcount := separatorCount_eq_sum hchildren
  refine ⟨liveTag, text, head, entries, u, groups, htag, htext, hentered, hexpanded, hplain,
    hentries, hmade, hchildren, fun hevery ↦ ?_, fun hevery ↦ ?_, fun n hn hevery ↦ ?_, ?_, ?_⟩
  · rw [hcount, hevery]
    simp [countP_blocks_none]
  · rw [hcount, hevery]
    simp only [countP_blocks_zero]
  · rw [hcount, hevery]
    simp only [countP_blocks_start hn]
    refine ⟨trivial, ?_⟩
    rintro made rfl hne
    rw [List.map_singleton, List.sum_singleton,
      add_pred_div_of_pos (List.length_pos_of_ne_nil hne) hn, Nat.add_assoc]
  · intro placeholder hempty hset
    rw [finish_children] at hempty
    exact finish_of_empty hempty hset
  · intro hkept
    rw [finish_children] at hkept
    rw [finish_of_not_empty hkept, Outline.pushNodes]
    exact hbody

def pairedEntries : Recipe :=
  .node { Directive.ofSelector "ul" with separatorEvery := some 2 } [.ofSelector "li"]

theorem process_shape_latePage :
    ∃ output t,
      process {} pairedEntries Document.root "" 0 ⟨Document.latePage, ∅⟩ = (.ok output, t) ∧
      ∃ u groups, MadeOfRecipes {} Document.root "" pairedEntries.children u groups t ∧
        output.separatorCount = (groups.map fun made ↦ made.length + (made.length + 1) / 2).sum ∧
        output.separatorCount = 5 := by
  have hcount : (process {} pairedEntries Document.root "" 0
      ⟨Document.latePage, ∅⟩).1.toOption.map Outline.separatorCount = some 5 := by
    decide +kernel
  rcases hrun : process {} pairedEntries Document.root "" 0 ⟨Document.latePage, ∅⟩ with
    ⟨failure | output, t⟩
  · rw [hrun] at hcount
    cases hcount
  · rw [hrun] at hcount
    obtain ⟨liveTag, text, head, entries, u, groups, -, -, -, -, -, -, hmade, -, -, -, hevery, -⟩ :=
      process_shape hrun
    exact ⟨output, t, rfl, u, groups, hmade, (hevery 2 (by decide) rfl).1, Option.some.inj hcount⟩

end Pass

end PageOutline
