import PageOutline.Css.Matching
import PageOutline.Css.Parser

namespace PageOutline.Css

mutual

def Simple.attributeNames : Simple → List String
  | .attr name _ => [name]
  | .oneOf alternatives => alternativeNames alternatives
  | .noneOf alternatives => alternativeNames alternatives
  | .has alternatives => alternativeNames alternatives
  | _ => []

def partNames : List Simple → List String
  | [] => []
  | s :: ss => s.attributeNames ++ partNames ss

def Complex.attributeNames : Complex → List String
  | .anchor => []
  | .compound parts => partNames parts
  | .step left _ parts => left.attributeNames ++ partNames parts

def alternativeNames : List Complex → List String
  | [] => []
  | c :: cs => c.attributeNames ++ alternativeNames cs

end

namespace Selector

def attributeNames (s : Selector) : List String := alternativeNames s.alternatives

/-- No attribute selector in the text names one of `names`. A text that is no selector has none. -/
def Avoids (names : List String) (text : String) : Prop :=
  ∀ s ∈ parse? text, ∀ name ∈ s.attributeNames, name ∉ names

instance (names : List String) (text : String) : Decidable (Avoids names text) :=
  inferInstanceAs (Decidable (∀ s ∈ parse? text, _))

end Selector

/-- The view has the attributes in `attr` but for `names`, which are no ids and no classes. -/
structure View.AttrApart (names : List String) (view : View)
    (attr : Nat → String → Option String) : Prop where
  id : "id" ∉ names
  className : "class" ∉ names
  attr : ∀ e name, name ∉ names → attr e name = view.attr e name

section Apart

variable {names : List String} {view : View} {attr : Nat → String → Option String} {scope : Nat}

mutual

theorem Simple.matches_withAttr (h : view.AttrApart names attr) (s : Simple)
    (hs : ∀ name ∈ s.attributeNames, name ∉ names) (anchor e : Nat) :
    s.matches { view with attr := attr } scope anchor e = s.matches view scope anchor e := by
  cases s with
  | id name => simp only [Simple.matches, h.attr e "id" h.id]
  | className name => simp only [Simple.matches, h.attr e "class" h.className]
  | attr name test =>
    have hname : name ∉ names := hs name List.mem_cons_self
    simp only [Simple.matches, h.attr e name hname]
  | oneOf alternatives => exact anyMatches_withAttr h alternatives hs anchor e
  | noneOf alternatives =>
    exact congrArg (!·) (anyMatches_withAttr h alternatives hs anchor e)
  | has alternatives => exact anyReaches_withAttr h alternatives hs e
  | _ => rfl

theorem allMatch_withAttr (h : view.AttrApart names attr) (parts : List Simple)
    (hs : ∀ name ∈ partNames parts, name ∉ names) (anchor e : Nat) :
    allMatch { view with attr := attr } scope anchor parts e =
      allMatch view scope anchor parts e := by
  match parts with
  | [] => rfl
  | s :: ss =>
    rw [partNames, List.forall_mem_append] at hs
    rw [allMatch, allMatch, s.matches_withAttr h hs.1, allMatch_withAttr h ss hs.2]

theorem Complex.matches_withAttr (h : view.AttrApart names attr) (c : Complex)
    (hs : ∀ name ∈ c.attributeNames, name ∉ names) (anchor e : Nat) :
    c.matches { view with attr := attr } scope anchor e = c.matches view scope anchor e := by
  match c with
  | .anchor => rfl
  | .compound parts => exact allMatch_withAttr h parts hs anchor e
  | .step left combinator parts =>
    rw [Complex.attributeNames, List.forall_mem_append] at hs
    have hleft (x : Nat) := left.matches_withAttr h hs.1 anchor x
    simp only [Complex.matches, allMatch_withAttr h parts hs.2, hleft]
    rfl

theorem anyMatches_withAttr (h : view.AttrApart names attr) (cs : List Complex)
    (hs : ∀ name ∈ alternativeNames cs, name ∉ names) (anchor e : Nat) :
    anyMatches { view with attr := attr } scope anchor cs e =
      anyMatches view scope anchor cs e := by
  match cs with
  | [] => rfl
  | c :: cs =>
    rw [alternativeNames, List.forall_mem_append] at hs
    rw [anyMatches, anyMatches, c.matches_withAttr h hs.1, anyMatches_withAttr h cs hs.2]

theorem anyReaches_withAttr (h : view.AttrApart names attr) (cs : List Complex)
    (hs : ∀ name ∈ alternativeNames cs, name ∉ names) (e : Nat) :
    anyReaches { view with attr := attr } scope cs e = anyReaches view scope cs e := by
  match cs with
  | [] => rfl
  | c :: cs =>
    rw [alternativeNames, List.forall_mem_append] at hs
    have hmatches (x : Nat) := c.matches_withAttr h hs.1 e x
    simp only [anyReaches, hmatches, anyReaches_withAttr h cs hs.2]
    rfl

end

/-- A selector does not see attributes that none of its attribute selectors names, apart from the
id and the class. -/
theorem Selector.matches_withAttr (h : view.AttrApart names attr) (s : Selector)
    (hs : ∀ name ∈ s.attributeNames, name ∉ names) (e : Nat) :
    s.matches { view with attr := attr } scope e = s.matches view scope e :=
  anyMatches_withAttr h s.alternatives hs e e

end Apart

end PageOutline.Css
