import PageOutline.Json.Decode
import PageOutline.Proofs.Canonical

namespace PageOutline.Json

variable {α : Type} {form : RecordForm} {members found : List (String × Json)}

section Reading

theorem fieldsOf_members (hnames : ∀ m ∈ members, m.1 ∈ form.names)
    (hnodup : (members.map Prod.fst).Nodup) : fieldsOf form (.object members) = .ok members := by
  have hknown : members.filter (fun m ↦ form.names.contains m.1) = members :=
    List.filter_eq_self.2 fun m hm ↦ List.contains_iff_mem.2 (hnames m hm)
  have honce : form.names.any (fun name ↦ 1 < members.countP (·.1 == name)) = false := by
    rw [List.any_eq_false]
    intro name _
    have hle := List.nodup_iff_count_le_one.1 hnodup name
    rw [List.count, List.countP_map] at hle
    exact fun h ↦ absurd hle (Nat.not_le.2 (of_decide_eq_true h))
  simp only [fieldsOf, hknown, honce, ne_eq, not_true_eq_false, decide_false, Bool.and_false,
    Bool.false_eq_true, if_false]

theorem fieldsOf_object_eq_ok_iff (hclosed : form.closed) :
    fieldsOf form (.object members) = .ok found ↔
      found = members ∧ (∀ m ∈ members, m.1 ∈ form.names) ∧ (members.map Prod.fst).Nodup := by
  refine ⟨fun h ↦ ?_, ?_⟩
  · simp only [fieldsOf, hclosed, Bool.true_and, decide_eq_true_eq, ne_eq] at h
    split_ifs at h with hall honce
    rw [List.length_filter_eq_length_iff] at hall
    have hnames : ∀ m ∈ members, m.1 ∈ form.names :=
      fun m hm ↦ List.contains_iff_mem.1 (hall m hm)
    rw [List.filter_eq_self.2 hall] at h honce
    refine ⟨(Except.ok.inj h).symm, hnames, List.nodup_iff_count_le_one.2 fun name ↦ ?_⟩
    by_cases hname : name ∈ form.names
    · have hcount := List.any_eq_false.1 (Bool.eq_false_iff.2 honce) name hname
      rw [List.count, List.countP_map]
      exact Nat.not_lt.1 fun hlt ↦ hcount (decide_eq_true hlt)
    · have hnone : name ∉ members.map Prod.fst := fun hmem ↦ by
        obtain ⟨m, hm, rfl⟩ := List.mem_map.1 hmem
        exact hname (hnames m hm)
      rw [List.count_eq_zero_of_not_mem hnone]
      exact Nat.zero_le 1
  · rintro ⟨rfl, hnames, hnodup⟩
    exact fieldsOf_members hnames hnodup

theorem asOption_of_ne_null {f : Json → Except JsonFault α} {v : Json} (h : v ≠ .null) :
    asOption f v = some <$> f v := by
  cases v <;> first | exact absurd rfl h | rfl

theorem mapM_map_eq_ok {β : Type} {f : β → Except JsonFault α} {g : α → β} {as : List α}
    (h : ∀ a ∈ as, f (g a) = .ok a) : (as.map g).mapM f = .ok as := by
  induction as with
  | nil => rfl
  | cons a as ih =>
    rw [List.forall_mem_cons] at h
    rw [List.map_cons, List.mapM_cons, h.1, ih h.2]
    rfl

theorem asList_ofStrings (items : List String) : asList asString (ofStrings items) = .ok items :=
  mapM_map_eq_ok fun _ _ ↦ rfl

theorem asMap_ofMap (m : OrderedMap String) : asMap (ofMap m) = .ok m := by
  have hpairs : (m.entries.map fun e ↦ (e.1, Json.string e.2)).mapM
      (fun e ↦ do return (e.1, ← e.2.asString)) = .ok m.entries := mapM_map_eq_ok fun _ _ ↦ rfl
  have hread : asMap (ofMap m) = .ok (.ofList m.entries) :=
    congrArg (Except.map OrderedMap.ofList) hpairs
  rw [hread, OrderedMap.ofList_entries]

end Reading

section Writing

variable {fields : List (String × Option Json)}

/-- The members that are written of a record: a field that is not given is left out. -/
def given (fields : List (String × Option Json)) : List (String × Json) :=
  fields.filterMap fun f ↦ f.2.map (f.1, ·)

@[simp] theorem given_nil : given [] = [] := rfl

theorem given_cons (name : String) (v : Option Json) (fields : List (String × Option Json)) :
    given ((name, v) :: fields) = (v.map (name, ·)).toList ++ given fields := by
  cases v <;> rfl

theorem keys_given (fields : List (String × Option Json)) :
    ((given fields).map Prod.fst).Sublist (fields.map Prod.fst) := by
  induction fields with
  | nil => exact .slnil
  | cons f fields ih =>
    obtain ⟨name, v⟩ := f
    rw [given_cons]
    cases v with
    | none => exact ih.cons name
    | some v => exact ih.cons_cons name

theorem lookup_given (hnodup : (fields.map Prod.fst).Nodup) (name : String) :
    (given fields).lookup name = (fields.lookup name).join := by
  induction fields with
  | nil => rfl
  | cons f fields ih =>
    obtain ⟨first, v⟩ := f
    rw [List.map_cons, List.nodup_cons] at hnodup
    rw [given_cons]
    by_cases hname : name = first
    · subst hname
      rw [List.lookup_cons_self]
      cases v with
      | none =>
        rw [Option.map_none, Option.toList_none, List.nil_append, Option.join_some,
          List.lookup_eq_none_iff]
        intro m hm
        rw [bne_iff_ne]
        rintro rfl
        exact hnodup.1 ((keys_given fields).subset (List.mem_map_of_mem hm))
      | some v => exact List.lookup_cons_self
    · have hbeq : (name == first) = false := beq_false_of_ne hname
      rw [List.lookup_cons, hbeq, ← ih hnodup.2]
      cases v with
      | none => rfl
      | some v =>
        rw [Option.map_some, Option.toList_some, List.singleton_append, List.lookup_cons, hbeq]

theorem fieldsOf_given (hnames : ∀ f ∈ fields, f.1 ∈ form.names)
    (hnodup : (fields.map Prod.fst).Nodup) :
    fieldsOf form (.object (given fields)) = .ok (given fields) := by
  refine fieldsOf_members (fun m hm ↦ ?_) ((keys_given fields).nodup hnodup)
  obtain ⟨f, hf, hname⟩ := List.mem_map.1 ((keys_given fields).subset (List.mem_map_of_mem hm))
  exact hname ▸ hnames f hf

theorem mem_given {m : String × Json} :
    m ∈ given fields ↔ (m.1, some m.2) ∈ fields := by
  simp only [given, List.mem_filterMap, Option.map_eq_some_iff]
  constructor
  · rintro ⟨⟨name, _⟩, hf, v, rfl, rfl⟩
    exact hf
  · intro h
    exact ⟨_, h, m.2, rfl, rfl⟩

theorem fieldOr_given (hnodup : (fields.map Prod.fst).Nodup) (name : String) (absent : α)
    (f : Json → Except JsonFault α) :
    fieldOr (given fields) name absent f = (fields.lookup name).join.elim (.ok absent) f := by
  rw [fieldOr, lookup_given hnodup]
  cases (fields.lookup name).join <;> rfl

theorem elim_map_asOption {f : Json → Except JsonFault α} {g : α → Json} (o : Option α)
    (h : ∀ a, g a ≠ .null ∧ f (g a) = .ok a) :
    (o.map g).elim (.ok none) (asOption f) = .ok o := by
  cases o with
  | none => rfl
  | some a =>
    rw [Option.map_some, Option.elim_some, asOption_of_ne_null (h a).1, (h a).2]
    rfl

theorem elim_items {f : Json → Except JsonFault α} {g : α → Json} {as : List α}
    (h : ∀ a ∈ as, f (g a) = .ok a) :
    (if (as.map g).isEmpty then none else some (array (as.map g))).elim (.ok []) (asList f) =
      .ok as := by
  have hlist : asList f (array (as.map g)) = .ok as := mapM_map_eq_ok h
  cases as with
  | nil => rfl
  | cons a as => exact hlist

theorem elim_map_string (o : Option String) :
    (o.map Json.string).elim (.ok none) (asOption asString) = .ok o :=
  elim_map_asOption o fun _ ↦ ⟨Json.noConfusion, rfl⟩

theorem elim_map_ofNat (o : Option Nat) :
    (o.map ofNat).elim (.ok none) (asOption asNat) = .ok o :=
  elim_map_asOption o fun _ ↦ ⟨Json.noConfusion, rfl⟩

end Writing

end PageOutline.Json
