import PageOutline.Page.Markup
import Mathlib.Data.List.Basic

namespace PageOutline.Markup

def attributeChars (a : String × String) : List Char :=
  ' ' :: a.1.toList ++ '=' :: '"' :: a.2.toList.flatMap escapeValueChar ++ ['"']

theorem toList_escapeText (s : String) :
    (escapeText s).toList = s.toList.flatMap escapeTextChar := String.toList_ofList

theorem toList_escapeValue (s : String) :
    (escapeValue s).toList = s.toList.flatMap escapeValueChar := String.toList_ofList

theorem toList_startTag (tag : String) (attributes : List (String × String)) :
    (startTag tag attributes).toList =
      '<' :: (tag.toList ++ (attributes.flatMap attributeChars ++ ['>'])) := by
  have hattribute (a : String × String) :
      (attributeMarkup a.1 a.2).toList = attributeChars a := by
    simp [attributeMarkup, attributeChars, escapeValue]
  simp [startTag, List.flatMap_map, hattribute]

theorem toList_endTag (tag : String) :
    (endTag tag).toList = '<' :: '/' :: (tag.toList ++ ['>']) := by
  simp [endTag]

def firstEscaped? : List Char → Option (Char × List Char)
  | '&' :: 'a' :: 'm' :: 'p' :: ';' :: r => some ('&', r)
  | '&' :: 'l' :: 't' :: ';' :: r => some ('<', r)
  | '&' :: 'g' :: 't' :: ';' :: r => some ('>', r)
  | '&' :: 'q' :: 'u' :: 'o' :: 't' :: ';' :: r => some ('"', r)
  | c :: r => some (c, r)
  | [] => none

theorem firstEscaped?_cons {c : Char} (h : c ≠ '&') (r : List Char) :
    firstEscaped? (c :: r) = some (c, r) := by
  rw [firstEscaped?]
  all_goals exact fun _ hc ↦ absurd hc h

theorem firstEscaped?_escapeTextChar (c : Char) (r : List Char) :
    firstEscaped? (escapeTextChar c ++ r) = some (c, r) := by
  unfold escapeTextChar
  simp only [beq_iff_eq]
  split_ifs with hamp hlt hgt
  · rw [hamp]
    rfl
  · rw [hlt]
    rfl
  · rw [hgt]
    rfl
  · exact firstEscaped?_cons hamp r

theorem firstEscaped?_escapeValueChar (c : Char) (r : List Char) :
    firstEscaped? (escapeValueChar c ++ r) = some (c, r) := by
  unfold escapeValueChar
  simp only [beq_iff_eq]
  split_ifs with hquote
  · rw [hquote]
    rfl
  · exact firstEscaped?_escapeTextChar c r

theorem flatMap_injective {f : Char → List Char}
    (hf : ∀ c r, firstEscaped? (f c ++ r) = some (c, r)) :
    Function.Injective fun s : List Char ↦ s.flatMap f := by
  intro s t h
  induction s generalizing t with
  | nil =>
    cases t with
    | nil => rfl
    | cons d t =>
      have hread := hf d (t.flatMap f)
      rw [← List.flatMap_cons, ← show [] = (d :: t).flatMap f from h] at hread
      cases hread
  | cons c s ih =>
    have hread := hf c (s.flatMap f)
    rw [← List.flatMap_cons, show (c :: s).flatMap f = t.flatMap f from h] at hread
    cases t with
    | nil => cases hread
    | cons d t =>
      rw [List.flatMap_cons, hf] at hread
      obtain ⟨rfl, hrest⟩ := Prod.mk.inj (Option.some.inj hread)
      rw [ih hrest.symm]

theorem not_mem_escapeTextChar (c : Char) : ∀ d ∈ escapeTextChar c, d ≠ '<' ∧ d ≠ '>' := by
  unfold escapeTextChar
  split_ifs <;> simp_all

theorem not_mem_escapeValueChar (c : Char) :
    ∀ d ∈ escapeValueChar c, d ≠ '"' ∧ d ≠ '<' ∧ d ≠ '>' := by
  unfold escapeValueChar escapeTextChar
  split_ifs <;> simp_all

theorem not_mem_escapeText (s : List Char) : ∀ d ∈ s.flatMap escapeTextChar, d ≠ '<' ∧ d ≠ '>' := by
  intro d hd
  obtain ⟨c, -, hc⟩ := List.mem_flatMap.1 hd
  exact not_mem_escapeTextChar c d hc

theorem not_mem_escapeValue (s : List Char) :
    ∀ d ∈ s.flatMap escapeValueChar, d ≠ '"' ∧ d ≠ '<' ∧ d ≠ '>' := by
  intro d hd
  obtain ⟨c, -, hc⟩ := List.mem_flatMap.1 hd
  exact not_mem_escapeValueChar c d hc

theorem append_cons_inj {p : Char → Prop} {x y r s : List Char} {a b : Char}
    (hx : ∀ c ∈ x, p c) (hy : ∀ c ∈ y, p c) (ha : ¬p a) (hb : ¬p b)
    (h : x ++ a :: r = y ++ b :: s) : x = y ∧ a = b ∧ r = s := by
  induction x generalizing y with
  | nil =>
    cases y with
    | nil => simpa using h
    | cons d y =>
      obtain ⟨rfl, -⟩ := List.cons.inj h
      exact absurd (hy a List.mem_cons_self) ha
  | cons c x ih =>
    rw [List.forall_mem_cons] at hx
    cases y with
    | nil =>
      obtain ⟨rfl, -⟩ := List.cons.inj h
      exact absurd hx.1 hb
    | cons d y =>
      rw [List.forall_mem_cons] at hy
      obtain ⟨rfl, htail⟩ := List.cons.inj h
      obtain ⟨rfl, hrest⟩ := ih hx.2 hy.2 htail
      exact ⟨rfl, hrest⟩

end PageOutline.Markup
