import PageOutline.Css.Nth
import PageOutline.Proofs.TokenText

namespace PageOutline.Css

open Lexer

mutual

def Component.blocks : Component → Nat
  | .leaf _ => 0
  | .block _ inside => blocksAll inside + 1

def blocksAll : List Component → Nat
  | [] => 0
  | c :: cs => c.blocks + blocksAll cs

end

theorem blocksAll_append (cs cs' : List Component) :
    blocksAll (cs ++ cs') = blocksAll cs + blocksAll cs' := by
  induction cs with
  | nil => exact (Nat.zero_add _).symm
  | cons c cs ih => rw [List.cons_append, blocksAll, blocksAll, ih, Nat.add_assoc]

theorem blocksAll_reverse (cs : List Component) : blocksAll cs.reverse = blocksAll cs := by
  induction cs with
  | nil => rfl
  | cons c cs ih =>
    rw [List.reverse_cons, blocksAll_append, ih, blocksAll, blocksAll, blocksAll]
    omega

theorem blocksAll_le_of_sublist {cs cs' : List Component} (h : cs.Sublist cs') :
    blocksAll cs ≤ blocksAll cs' := by
  induction h with
  | slnil => exact le_rfl
  | cons c _ ih =>
    rw [blocksAll]
    omega
  | cons_cons c _ ih =>
    rw [blocksAll, blocksAll]
    omega

def blocksOpen : List OpenBlock → Nat
  | [] => 0
  | b :: bs => blocksAll b.before + 1 + blocksOpen bs

theorem blocksAll_closeAll (inside : List Component) (stack : List OpenBlock) :
    blocksAll (closeAll inside stack) = blocksAll inside + blocksOpen stack := by
  induction stack generalizing inside with
  | nil => exact blocksAll_reverse inside
  | cons b bs ih =>
    rw [closeAll, ih, blocksAll, Component.blocks, blocksAll_reverse, blocksOpen]
    omega

def readToken (t : Token) (inside : List Component) (stack : List OpenBlock) :
    List Component × List OpenBlock :=
  if t.closer?.isSome then ([], ⟨t, inside⟩ :: stack)
  else
    match stack with
    | [] => (.leaf t :: inside, [])
    | b :: bs =>
      if b.opening.closer? = some t then (.block b.opening inside.reverse :: b.before, bs)
      else (.leaf t :: inside, b :: bs)

theorem nestFrom_cons (inside : List Component) (stack : List OpenBlock) (t : Token)
    (ts : List Token) :
    nestFrom inside stack (t :: ts) =
      nestFrom (readToken t inside stack).1 (readToken t inside stack).2 ts := by
  unfold readToken
  cases stack with
  | nil =>
    rw [nestFrom]
    split <;> rfl
  | cons b bs =>
    rw [nestFrom]
    dsimp only
    split_ifs <;> rfl

theorem blocksAll_readToken_le (t : Token) (inside : List Component) (stack : List OpenBlock) :
    blocksAll (readToken t inside stack).1 + blocksOpen (readToken t inside stack).2 ≤
      blocksAll inside + blocksOpen stack + 1 := by
  unfold readToken
  split
  · simp only [blocksAll, blocksOpen]
    omega
  · split
    · simp only [blocksAll, Component.blocks, blocksOpen]
      omega
    · split <;> simp only [blocksAll, Component.blocks, blocksAll_reverse, blocksOpen] <;> omega

theorem blocksAll_nestFrom_le (inside : List Component) (stack : List OpenBlock)
    (ts : List Token) :
    blocksAll (nestFrom inside stack ts) ≤ blocksAll inside + blocksOpen stack + ts.length := by
  induction ts generalizing inside stack with
  | nil => exact (blocksAll_closeAll inside stack).le
  | cons t ts ih =>
    have hrest := ih (readToken t inside stack).1 (readToken t inside stack).2
    have hstep := blocksAll_readToken_le t inside stack
    rw [nestFrom_cons, List.length_cons]
    omega

theorem blocksAll_components_le (s : String) : blocksAll (components s) ≤ s.length := by
  have hnest := blocksAll_nestFrom_le [] [] (tokens s)
  have htokens : (tokens s).length ≤ s.toList.length := length_tokensFrom_le ..
  rw [String.length_toList] at htokens
  rw [blocksAll, blocksOpen] at hnest
  exact hnest.trans (by omega)

def behind (front : List Component) :
    List Component → List OpenBlock → List Component × List OpenBlock
  | inside, [] => (inside ++ front, [])
  | inside, b :: bs => (inside, ⟨b.opening, (behind front b.before bs).1⟩ ::
      (behind front b.before bs).2)

theorem behind_cons (front : List Component) (c : Component) (inside : List Component)
    (stack : List OpenBlock) :
    behind front (c :: inside) stack =
      (c :: (behind front inside stack).1, (behind front inside stack).2) := by
  cases stack <;> rfl

theorem closeAll_behind (front inside : List Component) (stack : List OpenBlock) :
    closeAll (behind front inside stack).1 (behind front inside stack).2 =
      front.reverse ++ closeAll inside stack := by
  induction stack generalizing inside with
  | nil => exact List.reverse_append
  | cons b bs ih =>
    have houter := ih (.block b.opening inside.reverse :: b.before)
    rwa [behind_cons] at houter

theorem behind_readToken (front : List Component) (t : Token) (inside : List Component)
    (stack : List OpenBlock) :
    behind front (readToken t inside stack).1 (readToken t inside stack).2 =
      readToken t (behind front inside stack).1 (behind front inside stack).2 := by
  unfold readToken
  split
  · rfl
  · cases stack with
    | nil => rfl
    | cons b bs =>
      dsimp only [behind]
      split
      · exact behind_cons ..
      · rfl

theorem nestFrom_behind (front inside : List Component) (stack : List OpenBlock)
    (ts : List Token) :
    nestFrom (behind front inside stack).1 (behind front inside stack).2 ts =
      front.reverse ++ nestFrom inside stack ts := by
  induction ts generalizing inside stack with
  | nil => exact closeAll_behind front inside stack
  | cons t ts ih => rw [nestFrom_cons, ← behind_readToken, ih, nestFrom_cons]

theorem nest_cons {t : Token} (h : t.closer? = none) (ts : List Token) :
    nest (t :: ts) = .leaf t :: nest ts := by
  have hread : readToken t [] [] = behind [.leaf t] [] [] := by
    rw [readToken, h]
    rfl
  unfold nest
  rw [nestFrom_cons, hread, nestFrom_behind]
  rfl

theorem closer?_blank : Token.blank.closer? = none := rfl

theorem tokensOf_blank (cs : List Char) :
    tokensOf (' ' :: cs) = .blank :: tokensOf (cs.dropWhile isBlank) :=
  tokensOf_cons ' ' cs

theorem skipBlank_nest_dropWhile (cs : List Char) :
    Nth.skipBlank (nest (tokensOf (cs.dropWhile isBlank))) =
      Nth.skipBlank (nest (tokensOf cs)) := by
  cases cs with
  | nil => rfl
  | cons c cs =>
    by_cases hc : isBlank c
    · have htoken : token c cs = (some .blank, cs.dropWhile isBlank) := by
        unfold token
        rw [if_pos hc]
      rw [List.dropWhile_cons_of_pos hc, tokensOf_cons, htoken]
      exact (congrArg Nth.skipBlank (nest_cons closer?_blank _)).symm
    · rw [List.dropWhile_cons_of_neg hc]

theorem skipBlank_components_blank (cs : List Char) :
    Nth.skipBlank (nest (tokensOf (' ' :: cs))) = Nth.skipBlank (nest (tokensOf cs)) := by
  rw [tokensOf_blank, nest_cons closer?_blank]
  exact skipBlank_nest_dropWhile cs

end PageOutline.Css
