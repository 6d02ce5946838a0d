import PageOutline.Proofs.JsonText

namespace PageOutline.Json

variable {levels limit indent : Nat} {style : Style}

mutual

def depth : Json → Nat
  | .null | .bool _ | .number _ | .string _ => 0
  | .array items => depthItems items + 1
  | .object members => depthMembers members + 1

def depthItems : List Json → Nat
  | [] => 0
  | v :: vs => max v.depth (depthItems vs)

def depthMembers : List (String × Json) → Nat
  | [] => 0
  | (_, v) :: ms => max v.depth (depthMembers ms)

end

theorem depthItems_le_iff {items : List Json} :
    depthItems items ≤ levels ↔ ∀ v ∈ items, v.depth ≤ levels := by
  induction items with
  | nil => simp [depthItems]
  | cons v vs ih => rw [depthItems, Nat.max_le, ih, List.forall_mem_cons]

theorem depthMembers_le_iff {members : List (String × Json)} :
    depthMembers members ≤ levels ↔ ∀ m ∈ members, m.2.depth ≤ levels := by
  induction members with
  | nil => simp [depthMembers]
  | cons m ms ih => rw [depthMembers, Nat.max_le, ih, List.forall_mem_cons]

theorem depth_array_le_iff {items : List Json} :
    (array items).depth ≤ levels + 1 ↔ ∀ v ∈ items, v.depth ≤ levels := by
  rw [depth, Nat.add_le_add_iff_right, depthItems_le_iff]

theorem depth_object_le_iff {members : List (String × Json)} :
    (object members).depth ≤ levels + 1 ↔ ∀ m ∈ members, m.2.depth ≤ levels := by
  rw [depth, Nat.add_le_add_iff_right, depthMembers_le_iff]

def JsonNumber.isExact : JsonNumber → Bool
  | .int n => -Parser.negativeBound ≤ n && n < Parser.integerBound
  | .float _ => false

mutual

def isExact : Json → Bool
  | .null | .bool _ | .string _ => true
  | .number n => JsonNumber.isExact n
  | .array items => isExactItems items
  | .object members => isExactMembers members

def isExactItems : List Json → Bool
  | [] => true
  | v :: vs => v.isExact && isExactItems vs

def isExactMembers : List (String × Json) → Bool
  | [] => true
  | (_, v) :: ms => v.isExact && isExactMembers ms

end

theorem isExact_array {items : List Json} :
    (array items).isExact ↔ ∀ v ∈ items, v.isExact := by
  rw [isExact]
  induction items with
  | nil => simp [isExactItems]
  | cons v vs ih => rw [isExactItems, Bool.and_eq_true, ih, List.forall_mem_cons]

theorem isExact_object {members : List (String × Json)} :
    (object members).isExact ↔ ∀ m ∈ members, m.2.isExact := by
  rw [isExact]
  induction members with
  | nil => simp [isExactMembers]
  | cons m ms ih => rw [isExactMembers, Bool.and_eq_true, ih, List.forall_mem_cons]

theorem isExact_ofStrings (items : List String) : (ofStrings items).isExact := by
  rw [ofStrings, isExact_array, List.forall_mem_map]
  exact fun _ _ ↦ rfl

theorem isExact_ofMap (m : OrderedMap String) : (ofMap m).isExact := by
  rw [ofMap, isExact_object, List.forall_mem_map]
  exact fun _ _ ↦ rfl

theorem isExact_ofNat {n : Nat} (h : n < Parser.integerBound) : (ofNat n).isExact := by
  have hmin : -(Parser.negativeBound : Int) ≤ n := by omega
  have hmax : (n : Int) < Parser.integerBound := Int.ofNat_lt.2 h
  simp [ofNat, isExact, JsonNumber.isExact, hmin, hmax]

theorem fits_of_depth_le {levels : Nat} {v : Json} (hdepth : v.depth ≤ levels)
    (hexact : v.isExact) : v.fits levels := by
  match v, levels with
  | .null, _ | .bool _, _ | .string _, _ => rfl
  | .number (.int n), _ => exact hexact
  | .array items, levels + 1 =>
    rw [depth_array_le_iff] at hdepth
    rw [isExact_array] at hexact
    rw [fits, fitsItems_iff]
    exact fun v hv ↦ fits_of_depth_le (hdepth v hv) (hexact v hv)
  | .object members, levels + 1 =>
    rw [depth_object_le_iff] at hdepth
    rw [isExact_object] at hexact
    rw [fits, fitsMembers_iff]
    exact fun m hm ↦ fits_of_depth_le (hdepth m hm) (hexact m hm)

theorem parse_pretty {v : Json} (hv : v.fits maxDepth) : parse v.pretty .whole = .ok v :=
  parse_ofList_chars .pretty hv

namespace Parser

theorem read_whole (limit levels : Nat) (cs : List Char) :
    read limit levels .whole cs = value true limit levels cs := by
  cases levels <;> rfl

def memberBy (known : List (String × Reading))
    (listed : Reading → List Char → Except JsonFault (Json × List Char))
    (others : List Char → Except JsonFault (Option Json × List Char)) (key : String)
    (cs : List Char) : Except JsonFault (Option Json × List Char) :=
  match known.lookup key with
  | none => others cs
  | some reading => do
    let (v, cs) ← listed reading cs
    return (some v, cs)

theorem membersOf_chars {known : List (String × Reading)}
    {listed : Reading → List Char → Except JsonFault (Json × List Char)}
    (others : List Char → Except JsonFault (Option Json × List Char))
    {m : String × Json} {ms : List (String × Json)}
    (hopens : ∀ n ∈ m :: ms, Opens (n.2.chars style (indent + 1)))
    (hkey : ∀ n ∈ m :: ms, n.1.toList.length < limit)
    (hmember : ∀ n ∈ m :: ms, ∃ reading, known.lookup n.1 = some reading ∧ ∀ rest, Ends rest →
      listed reading (n.2.chars style (indent + 1) ++ rest) = .ok (n.2, rest))
    (hlimit : ms.length < limit) (rest : List Char) :
    ∃ cs, (object (m :: ms)).chars style indent ++ rest = '\x7b' :: cs ∧
      membersOf limit known listed others cs = .ok (object (m :: ms), rest) := by
  set tail := quoteChars m.1.toList ++ (style.colon ++ (m.2.chars style (indent + 1) ++
    (membersChars style (indent + 1) ms ++ (style.lineBreak indent ++ '\x7d' :: rest)))) with htail
  refine ⟨style.lineBreak (indent + 1) ++ tail, by simp [chars, htail], ?_⟩
  have hskip : skipSpace (style.lineBreak (indent + 1) ++ tail) = tail :=
    skipSpace_lineBreak (c := '"') rfl style (indent + 1) _
  have hsome : ∀ n ∈ m :: ms, ∀ rest, Ends rest →
      memberBy known listed others n.1 (n.2.chars style (indent + 1) ++ rest) =
        .ok (some n.2, rest) := by
    intro n hn rest hr
    obtain ⟨reading, hlookup, hread⟩ := hmember n hn
    simp only [memberBy, hlookup, hread rest hr]
    rfl
  have hread : objectMembers true limit (memberBy known listed others) limit tail = .ok (m :: ms, rest) :=
    objectMembers_chars true hopens hkey hsome hlimit rest
  rw [membersOf, hskip]
  exact congrArg (Except.map fun x ↦ (object x.1, x.2)) hread

theorem lt_limit_of_mem {m : String × Json} {ms : List (String × Json)}
    (hl : ((object (m :: ms)).chars style indent).length < limit) :
    ms.length < limit ∧ ∀ n ∈ m :: ms, n.1.toList.length < limit ∧
      (n.2.chars style (indent + 1)).length < limit := by
  have hlengths := length_membersChars style (indent + 1) ms
  have hkey := length_quoteChars m.1.toList
  simp only [chars, List.length_append, List.length_cons] at hl
  rw [List.forall_mem_cons]
  refine ⟨by omega, ⟨by omega, by omega⟩, fun n hn ↦ ?_⟩
  have hle := hlengths.2 n hn
  exact ⟨by omega, by omega⟩

end Parser

theorem parse_members {known : List (String × Reading)} {members : List (String × Json)}
    (hv : (object members).fits maxDepth)
    (hknown : ∀ m ∈ members, known.lookup m.1 = some .whole) (style : Style) :
    parse (String.ofList ((object members).chars style 0)) (.members known) =
      .ok (object members) := by
  match members with
  | [] =>
    rw [chars, parse, String.toList_ofList]
    rfl
  | m :: ms =>
    have hskip := (Parser.opens_chars hv style 0).skipSpace []
    have hlengths := Parser.lt_limit_of_mem
      (Nat.lt_add_one ((object (m :: ms)).chars style 0).length)
    rw [maxDepth, fits, fitsMembers_iff] at hv
    have hmember : ∀ n ∈ m :: ms, ∃ reading, known.lookup n.1 = some reading ∧
        ∀ rest, Parser.Ends rest → Parser.read (((object (m :: ms)).chars style 0).length + 1) 126
          reading (n.2.chars style 1 ++ rest) = .ok (n.2, rest) := by
      refine fun n hn ↦ ⟨.whole, hknown n hn, fun rest hr ↦ ?_⟩
      rw [Parser.read_whole]
      exact Parser.value_chars true (hv n hn) (hlengths.2 n hn).2 hr
    obtain ⟨cs, hcs, hread⟩ := Parser.membersOf_chars
      (Parser.skip (((object (m :: ms)).chars style 0).length + 1))
      (fun n hn ↦ Parser.opens_chars (hv n hn) style 1) (fun n hn ↦ (hlengths.2 n hn).1) hmember
      hlengths.1 []
    rw [List.append_nil] at hskip hcs
    rw [hcs] at hskip hread ⊢
    simp only [parse, String.toList_ofList, String.length_ofList, hskip, maxDepth, bind,
      Except.bind]
    rw [Parser.read, hread]
    rfl

end PageOutline.Json
