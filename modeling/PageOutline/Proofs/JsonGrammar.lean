import PageOutline.Json.Parser

namespace PageOutline.Json

open Text (isHexDigit ofDigits charOfCode)

structure Blank where
  chars : List Char
  isSpace : ∀ c ∈ chars, Parser.isSpace c

namespace Blank

def empty : Blank := ⟨[], by simp⟩

def append (a b : Blank) : Blank where
  chars := a.chars ++ b.chars
  isSpace := List.forall_mem_append.2 ⟨a.isSpace, b.isSpace⟩

end Blank

/-- One letter of a string: itself, or an escape. -/
inductive Letter where
  | plain (c : Char) (h : c ≠ '"' ∧ c ≠ '\\' ∧ 0x20 ≤ c.toNat)
  | escape (e c : Char) (h : Parser.simpleEscape? e = some c)
  | code (a b c d : Char) (h : [a, b, c, d].all isHexDigit)

namespace Letter

def chars : Letter → List Char
  | .plain c _ => [c]
  | .escape e _ _ => ['\\', e]
  | .code a b c d _ => ['\\', 'u', a, b, c, d]

/-- The text that letters stand for. One half of a surrogate pair stands for nothing. -/
def decode : List Letter → Option (List Char)
  | [] => some []
  | .plain c _ :: ls => (c :: ·) <$> decode ls
  | .escape _ c _ :: ls => (c :: ·) <$> decode ls
  | .code a b c d _ :: ls =>
    let high := ofDigits 16 [a, b, c, d]
    if 0xdc00 ≤ high ∧ high ≤ 0xdfff then none
    else if ¬(0xd800 ≤ high ∧ high ≤ 0xdbff) then (charOfCode high :: ·) <$> decode ls
    else
      match ls with
      | .code a b c d _ :: ls =>
        let low := ofDigits 16 [a, b, c, d]
        if 0xdc00 ≤ low ∧ low ≤ 0xdfff then
          (charOfCode (0x10000 + (high - 0xd800) * 0x400 + (low - 0xdc00)) :: ·) <$> decode ls
        else none
      | _ => none

def text? (ls : List Letter) : Option String := (decode ls).map String.ofList

def bodyChars (ls : List Letter) : List Char := ls.flatMap chars

@[simp] theorem bodyChars_plain {c : Char} (h) (ls : List Letter) :
    bodyChars (.plain c h :: ls) = c :: bodyChars ls := rfl

@[simp] theorem bodyChars_escape {e c : Char} (h) (ls : List Letter) :
    bodyChars (.escape e c h :: ls) = '\\' :: e :: bodyChars ls := rfl

@[simp] theorem bodyChars_code {a b c d : Char} (h) (ls : List Letter) :
    bodyChars (.code a b c d h :: ls) = '\\' :: 'u' :: a :: b :: c :: d :: bodyChars ls := rfl

def quotedChars (ls : List Letter) : List Char := '"' :: (bodyChars ls ++ ['"'])

end Letter

structure Digits where
  chars : List Char
  ne_nil : chars ≠ []
  isDigit : ∀ d ∈ chars, d.isDigit

theorem Digits.exists_cons (ds : Digits) : ∃ d rest, ds.chars = d :: rest ∧ d.isDigit := by
  cases h : ds.chars with
  | nil => exact absurd h ds.ne_nil
  | cons d rest => exact ⟨d, rest, rfl, ds.isDigit d (h ▸ List.mem_cons_self)⟩

inductive Sign where
  | absent
  | plus
  | minus

def Sign.chars : Sign → List Char
  | .absent => []
  | .plus => ['+']
  | .minus => ['-']

structure Exponent where
  mark : Char
  isMark : mark = 'e' ∨ mark = 'E'
  sign : Sign
  digits : Digits

namespace Exponent

def chars (e : Exponent) : List Char := e.mark :: (e.sign.chars ++ e.digits.chars)

def value (e : Exponent) : Int :=
  match e.sign with
  | .minus => -(ofDigits 10 e.digits.chars : Nat)
  | .absent | .plus => (ofDigits 10 e.digits.chars : Nat)

end Exponent

/-- A number. A zero before the point stands alone. -/
structure Numeral where
  negative : Bool
  digits : Digits
  alone : ∀ ds, digits.chars = '0' :: ds → ds = []
  decimals : Option Digits
  exponent : Option Exponent

namespace Numeral

def chars (n : Numeral) : List Char :=
  (if n.negative then ['-'] else []) ++ (n.digits.chars ++
    ((n.decimals.map fun ds ↦ '.' :: ds.chars).getD [] ++ (n.exponent.map Exponent.chars).getD []))

def parts (n : Numeral) : Parser.NumberText :=
  ⟨n.negative, n.digits.chars, n.decimals.map Digits.chars, n.exponent.map Exponent.value⟩

end Numeral

structure Padded (α : Type) where
  before : Blank
  inner : α
  after : Blank

/-- A value as it is written. Behind its opening bracket an array or an object has a blank, also
where it has nothing else. -/
inductive Written where
  | null
  | bool (b : Bool)
  | number (n : Numeral)
  | string (ls : List Letter)
  | array (blank : Blank) (items : List (Padded Written))
  | object (blank : Blank) (members : List (Padded (List Letter) × Padded Written))

abbrev Member := Padded (List Letter) × Padded Written

def Member.name? (m : Member) : Option String := Letter.text? m.1.inner

namespace Written

mutual

def chars : Written → List Char
  | .null => ['n', 'u', 'l', 'l']
  | .bool true => ['t', 'r', 'u', 'e']
  | .bool false => ['f', 'a', 'l', 's', 'e']
  | .number n => n.chars
  | .string ls => Letter.quotedChars ls
  | .array blank items => '[' :: (blank.chars ++ (itemsChars items ++ [']']))
  | .object blank members => '\x7b' :: (blank.chars ++ (membersChars members ++ ['\x7d']))

def itemsChars : List (Padded Written) → List Char
  | [] => []
  | [⟨b, w, a⟩] => b.chars ++ (w.chars ++ a.chars)
  | ⟨b, w, a⟩ :: p :: ps => b.chars ++ (w.chars ++ (a.chars ++ ',' :: itemsChars (p :: ps)))

def membersChars : List Member → List Char
  | [] => []
  | [(k, ⟨b, w, a⟩)] =>
    k.before.chars ++ (Letter.quotedChars k.inner ++ (k.after.chars ++
      ':' :: (b.chars ++ (w.chars ++ a.chars))))
  | (k, ⟨b, w, a⟩) :: m :: ms =>
    k.before.chars ++ (Letter.quotedChars k.inner ++ (k.after.chars ++
      ':' :: (b.chars ++ (w.chars ++ (a.chars ++ ',' :: membersChars (m :: ms))))))

end

mutual

/-- The value that is written, if all strings stand for texts and all numbers are in range. -/
def value? : Written → Option Json
  | .null => some .null
  | .bool b => some (.bool b)
  | .number n => n.parts.value?.map .number
  | .string ls => (Letter.text? ls).map .string
  | .array _ items => (itemValues? items).map .array
  | .object _ members => (memberValues? members).map .object

def itemValues? : List (Padded Written) → Option (List Json)
  | [] => some []
  | ⟨_, w, _⟩ :: ps => do return (← w.value?) :: (← itemValues? ps)

def memberValues? : List Member → Option (List (String × Json))
  | [] => some []
  | (k, ⟨_, w, _⟩) :: ms => do
    return (← Letter.text? k.inner, ← w.value?) :: (← memberValues? ms)

end

def names (ms : List Member) : List (Option String) := ms.map Member.name?

section Values

variable {ms : List Member} {members : List (String × Json)}

theorem memberValues?_cons {m : Member} (h : memberValues? (m :: ms) = some members) :
    ∃ name v later, m.name? = some name ∧ m.2.inner.value? = some v ∧
      memberValues? ms = some later ∧ members = (name, v) :: later := by
  simp only [memberValues?, Option.bind_eq_bind, Option.bind_eq_some_iff] at h
  obtain ⟨name, hname, v, hv, later, hlater, h⟩ := h
  cases h
  exact ⟨name, v, later, hname, hv, hlater, rfl⟩

theorem mem_of_memberValues? (h : memberValues? ms = some members) :
    ∀ m ∈ ms, ∃ name v, m.name? = some name ∧ m.2.inner.value? = some v ∧
      (name, v) ∈ members := by
  induction ms generalizing members with
  | nil => nofun
  | cons m ms ih =>
    obtain ⟨name, v, later, hname, hv, hlater, rfl⟩ := memberValues?_cons h
    refine List.forall_mem_cons.2 ⟨⟨name, v, hname, hv, List.mem_cons_self⟩, fun n hn ↦ ?_⟩
    obtain ⟨name, v, hname, hv, hmem⟩ := ih hlater n hn
    exact ⟨name, v, hname, hv, List.mem_cons_of_mem _ hmem⟩

theorem names_of_memberValues? (h : memberValues? ms = some members) :
    names ms = (members.map Prod.fst).map some := by
  induction ms generalizing members with
  | nil =>
    cases h
    rfl
  | cons m ms ih =>
    obtain ⟨name, v, later, hname, -, hlater, rfl⟩ := memberValues?_cons h
    have hrest := ih hlater
    rw [names] at hrest ⊢
    rw [List.map_cons, hrest, hname]
    rfl

theorem getElem?_of_itemValues? {ps qs : List (Padded Written)} {p : Padded Written}
    {items : List Json} (h : itemValues? (ps ++ p :: qs) = some items) :
    ∃ v, p.inner.value? = some v ∧ items[ps.length]? = some v := by
  induction ps generalizing items with
  | nil =>
    simp only [List.nil_append, itemValues?, Option.bind_eq_bind,
      Option.bind_eq_some_iff] at h
    obtain ⟨v, hv, later, -, h⟩ := h
    cases h
    exact ⟨v, hv, rfl⟩
  | cons q ps ih =>
    simp only [List.cons_append, itemValues?, Option.bind_eq_bind,
      Option.bind_eq_some_iff] at h
    obtain ⟨_, -, later, hlater, h⟩ := h
    cases h
    exact ih hlater

end Values

end Written

def Padded.text (t : Padded Written) : String :=
  String.ofList (t.before.chars ++ (t.inner.chars ++ t.after.chars))

end PageOutline.Json
