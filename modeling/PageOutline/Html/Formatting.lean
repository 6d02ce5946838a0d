import PageOutline.Html.Builder

namespace PageOutline.Html

namespace Formatting

def hasId (id : Nat) : Formatting → Bool
  | .element id' _ => id' == id
  | .mark => false

def element? : Formatting → Option (Nat × Tag)
  | .element id tag => some (id, tag)
  | .mark => none

def sortedAttributes (tag : Tag) : List (String × String) :=
  tag.attributes.mergeSort fun a b ↦ a.1 ≤ b.1

/-- Whether two tags have the same name and the same attributes, in any order. -/
def sameTag (s t : Tag) : Bool := s.name == t.name && sortedAttributes s == sortedAttributes t

/-- Drops the earliest of three entries with the tag, where the latest come first. -/
def dropThird (tag : Tag) : Nat → List Formatting → List Formatting
  | _, [] => []
  | _, .mark :: es => .mark :: es
  | seen, .element id t :: es =>
    if sameTag tag t then
      if seen = 2 then es else .element id t :: dropThird tag (seen + 1) es
    else .element id t :: dropThird tag seen es

end Formatting

namespace Builder

def isOpenOrMark (b : Builder) : Formatting → Bool
  | .mark => true
  | .element id _ => b.stack.any (·.id == id)

def openFormatting (b : Builder) (tag : Tag) : Builder :=
  let b := b.openHtml tag
  { b with formatting := .element (b.draft.size - 1) tag :: b.formatting }

def reopenFormatting (b : Builder) : Builder :=
  let closed := b.formatting.takeWhile fun f ↦ !b.isOpenOrMark f
  let kept := b.formatting.drop closed.length
  (closed.reverse.filterMap Formatting.element?).foldl (fun b (_, tag) ↦ b.openFormatting tag)
    { b with formatting := kept }

def startFormatting (b : Builder) (tag : Tag) : Builder :=
  { b with formatting := Formatting.dropThird tag 0 b.formatting }.openFormatting tag

def forgetFormatting (b : Builder) (id : Nat) : Builder :=
  { b with formatting := b.formatting.filter fun f ↦ !f.hasId id }

def removeOpen (b : Builder) (id : Nat) : Builder :=
  { b with stack := b.stack.filter (·.id != id) }

/-- An end tag without a rule of its own closes the nearest element of its name, unless a special
element shields it. -/
def endOther (b : Builder) (name : String) : Builder :=
  b.close (·.isHtml name) OpenElement.isSpecial

def formattingNamed? (b : Builder) (name : String) : Option (Nat × Tag) :=
  ((b.formatting.takeWhile (· != .mark)).filterMap Formatting.element?).find? (·.2.name == name)

structure Carried where
  builder : Builder
  /-- The node that the next element takes in. -/
  last : Nat
  /-- The elements that stay open, the innermost last. -/
  kept : List OpenElement
  /-- The entry that the new formatting element comes right behind, if not at the place of the old
  one. -/
  behind : Option Nat

/-- Takes one element between the block and the formatting element along. The first three that are
formatting elements are opened anew around what is carried, and others are closed. -/
def carry (block : Nat) (count : Nat) (e : OpenElement) (c : Carried) : Carried :=
  let b := c.builder
  match b.formatting.find? (Formatting.hasId e.id) with
  | some (.element _ tag) =>
    if 3 < count then { c with builder := b.forgetFormatting e.id }
    else
      let id := b.draft.size
      let draft := b.draft.create (.element .html tag.name tag.attributes)
      let formatting := b.formatting.map fun f ↦ if f.hasId e.id then .element id tag else f
      { builder := { b with draft := (draft.detach c.last).append id c.last, formatting }
        last := id
        kept := ⟨id, .html, tag.name⟩ :: c.kept
        behind := if c.last = block then some id else c.behind }
  | _ => c

def carryAll (block : Nat) : Nat → List OpenElement → Carried → Carried
  | _, [], c => c
  | count, e :: es, c => carryAll block (count + 1) es (carry block count e c)

def insertBehind (id : Nat) (entry : Formatting) : List Formatting → List Formatting
  | [] => [entry]
  | f :: fs => if f.hasId id then entry :: f :: fs else f :: insertBehind id entry fs

/-- Splits the elements inside of a formatting element at the outermost special one: those inside of
it, the element, and those outside of it. -/
def splitAtBlock (inner : List OpenElement) :
    Option (List OpenElement × OpenElement × List OpenElement) :=
  match inner.reverse.dropWhile (!·.isSpecial) with
  | [] => none
  | block :: inside =>
    some (inside.reverse, block, (inner.reverse.takeWhile (!·.isSpecial)).reverse)

/-- Lets the block and what it holds trade places with the formatting element. -/
def tradePlaces (b : Builder) (id : Nat) (tag : Tag) (inside : List OpenElement)
    (block : OpenElement) (between : List OpenElement) (ancestor : OpenElement)
    (outer : List OpenElement) : Builder :=
  let c := carryAll block.id 1 between ⟨b, block.id, [], none⟩
  let b := { c.builder with draft := c.builder.draft.detach c.last }
  let placed := b.draft.put (b.placeIn ancestor) c.last
  let new := placed.size
  let draft := ((placed.create (.element .html tag.name tag.attributes)).moveChildren block.id
    new).append block.id new
  let entry := Formatting.element new tag
  let formatting := match c.behind with
    | none => b.formatting.map fun f ↦ if f.hasId id then entry else f
    | some previous => (insertBehind previous entry b.formatting).filter fun f ↦ !f.hasId id
  { b with
    draft
    formatting
    stack := inside ++ ⟨new, .html, tag.name⟩ :: block :: c.kept.reverse ++ ancestor :: outer }

/-- Ends a formatting element that other elements may overlap, in at most eight rounds. -/
def adopt (name : String) : Nat → Builder → Builder
  | 0, b => b
  | rounds + 1, b =>
    match b.formattingNamed? name with
    | none => b.endOther name
    | some (id, tag) =>
      match b.stack.dropWhile (·.id != id) with
      | [] => b.forgetFormatting id
      | _ :: outer =>
        if !inScope (·.id == id) OpenElement.shields b.stack then b
        else
          match splitAtBlock (b.stack.takeWhile (·.id != id)), outer with
          | none, _ => { b with stack := outer }.forgetFormatting id
          | some _, [] => b
          | some (inside, block, between), ancestor :: outer =>
            adopt name rounds (b.tradePlaces id tag inside block between ancestor outer)

def endFormatting (b : Builder) (name : String) : Builder :=
  match b.stack with
  | e :: _ =>
    if e.isHtml name && !b.formatting.any (Formatting.hasId e.id) then b.pop else adopt name 8 b
  | [] => b

def endOpenLink (b : Builder) : Builder :=
  match b.formattingNamed? "a" with
  | some (id, _) => ((b.endFormatting "a").forgetFormatting id).removeOpen id
  | none => b

end Builder

end PageOutline.Html
