import PageOutline.Engine

namespace PageOutline

variable {σ τ α β γ δ : Type}

theorem exists_ok_of_isOk {ε : Type} {x : Except ε α} (h : x.isOk) : ∃ a, x = .ok a := by
  cases x with
  | error failure => cases h
  | ok a => exact ⟨a, rfl⟩

theorem eq_ok_of_toOption {ε : Type} {x : Except ε α} {a : α} (h : x.toOption = some a) :
    x = .ok a := by
  cases x with
  | error failure => cases h
  | ok b => exact congrArg Except.ok (Option.some.inj h)

theorem Inquiry.run_ask [LivePage σ] (q : Question) (next : Except Failure q.Answer → Inquiry α)
    (page : σ) : (ask q next).run page =
      (next (LivePage.answer q page).1).run (LivePage.answer q page).2 := rfl

theorem Access.bind_of_ok {x : Access σ α} {f : α → Access σ β} {page next : σ} {a : α}
    (h : x page = (.ok a, next)) : (x >>= f) page = f a next := by
  change StateT.bind (m := Id) x (ExceptT.bindCont f) page = _
  simp only [StateT.bind, bind, h]
  rfl

namespace Pass

theorem bind_apply (x : Pass σ α) (f : α → Pass σ β) (s : Session σ) :
    (x >>= f) s = match x s with
      | (.ok a, t) => f a t
      | (.error failure, t) => (.error failure, t) := by
  change StateT.bind (m := Id) x (ExceptT.bindCont f) s = _
  simp only [StateT.bind, bind]
  rcases x s with ⟨_ | a, t⟩ <;> rfl

theorem bind_of_ok {x : Pass σ α} {f : α → Pass σ β} {s t : Session σ} {a : α}
    (h : x s = (.ok a, t)) : (x >>= f) s = f a t := by
  rw [bind_apply, h]

theorem bind_eq_ok {x : Pass σ α} {f : α → Pass σ β} {s u : Session σ} {b : β} :
    (x >>= f) s = (.ok b, u) ↔ ∃ a t, x s = (.ok a, t) ∧ f a t = (.ok b, u) := by
  rw [bind_apply]
  rcases x s with ⟨_ | a, t⟩
  · constructor
    · rintro ⟨⟩
    · rintro ⟨_, _, ⟨⟩, -⟩
  · refine ⟨fun h ↦ ⟨a, t, rfl, h⟩, ?_⟩
    rintro ⟨_, _, ⟨⟩, h⟩
    exact h

theorem bind_eq_error {x : Pass σ α} {f : α → Pass σ β} {s : Session σ} {failure : Failure} :
    ((x >>= f) s).1 = .error failure ↔
      (x s).1 = .error failure ∨ ∃ a t, x s = (.ok a, t) ∧ (f a t).1 = .error failure := by
  rw [bind_apply]
  rcases x s with ⟨_ | a, t⟩
  · constructor
    · rintro ⟨⟩
      exact .inl rfl
    · rintro (⟨⟨⟩⟩ | ⟨_, _, ⟨⟩, -⟩)
      rfl
  · refine ⟨fun h ↦ .inr ⟨a, t, rfl, h⟩, ?_⟩
    rintro (⟨⟨⟩⟩ | ⟨_, _, ⟨⟩, h⟩)
    exact h

theorem exists_eq_ok {x : Pass σ α} {s : Session σ} (h : (x s).1.isOk) :
    ∃ a t, x s = (.ok a, t) := by
  obtain ⟨a, ha⟩ := exists_ok_of_isOk h
  exact ⟨a, (x s).2, Prod.ext ha rfl⟩

theorem onPage_apply (x : Access σ α) (s : Session σ) :
    onPage x s = ((x s.page).1, { s with page := (x s.page).2 }) := rfl

theorem registry_of_onPage {x : Access σ α} {s t : Session σ} {result : Except Failure α}
    (h : onPage x s = (result, t)) : t.registry = s.registry :=
  (congrArg (fun p ↦ p.2.registry) h).symm

theorem onPage_bind (x : Access σ α) (f : α → Access σ β) :
    onPage (x >>= f) = onPage x >>= fun a ↦ onPage (f a) := by
  funext s
  have hbind : (x >>= f) s.page = StateT.bind (m := Id) x (ExceptT.bindCont f) s.page := rfl
  rw [bind_apply, onPage_apply, onPage_apply, hbind]
  simp only [StateT.bind, bind]
  rcases x s.page with ⟨_ | a, page⟩ <;> rfl

theorem onPage_attempt (x : Access σ α) (s : Session σ) :
    onPage (attempt x) s = (.ok (onPage x s).1, (onPage x s).2) := rfl

theorem answerOr_eq [LivePage σ] (default : α) (i : Inquiry α) (s : Session σ) :
    answerOr default i s = (.ok ((i.run s.page).1.toOption.getD default),
      { s with page := (i.run s.page).2 }) := by
  unfold answerOr
  rw [bind_apply, onPage_attempt, onPage_apply]
  cases (i.run s.page).1 <;> rfl

/-- From related sessions both computations give the same result and leave related sessions. -/
def Parallel (S : Session σ → Session τ → Prop) (x : Pass σ α) (y : Pass τ α) : Prop :=
  ∀ s t, S s t → (x s).1 = (y t).1 ∧ S (x s).2 (y t).2

/-- Both ends are answers that `R` relates, or the same failure. -/
def Outcome (R : α → β → Prop) : Except Failure α → Except Failure β → Prop
  | .ok a, .ok b => R a b
  | .error failure, .error failure' => failure = failure'
  | _, _ => False

/-- From related sessions both computations end with related answers or with the same failure, and
leave related sessions. -/
def Related (S : Session σ → Session τ → Prop) (R : α → β → Prop) (x : Pass σ α) (y : Pass τ β) :
    Prop :=
  ∀ s t, S s t → Outcome R (x s).1 (y t).1 ∧ S (x s).2 (y t).2

theorem outcome_eq {x y : Except Failure α} : Outcome Eq x y ↔ x = y := by
  cases x <;> cases y <;> simp [Outcome]

namespace Related

variable {S : Session σ → Session τ → Prop}

theorem pure {R : α → β → Prop} {a : α} {b : β} (h : R a b) :
    Related S R (Pure.pure a) (Pure.pure b) := fun _ _ hs ↦ ⟨h, hs⟩

theorem throw {R : α → β → Prop} (failure : Failure) :
    Related S R (MonadExcept.throw failure) (MonadExcept.throw failure) :=
  fun _ _ hs ↦ ⟨rfl, hs⟩

theorem bind_of_answers {R : α → β → Prop} {Q : γ → δ → Prop} {x : Pass σ α} {y : Pass τ β}
    {f : α → Pass σ γ} {g : β → Pass τ δ} (hx : Related S R x y)
    (hf : ∀ a b, R a b → (∃ s t, S s t ∧ (x s).1 = .ok a ∧ (y t).1 = .ok b) →
      Related S Q (f a) (g b)) : Related S Q (x >>= f) (y >>= g) := by
  intro s t h
  obtain ⟨hr, hs⟩ := hx s t h
  rw [bind_apply, bind_apply]
  rcases hxs : x s with ⟨result, s'⟩
  rcases hyt : y t with ⟨result', t'⟩
  rw [hxs, hyt] at hr hs
  cases result with
  | error failure =>
    cases result' with
    | error failure' => exact ⟨hr, hs⟩
    | ok b => exact hr.elim
  | ok a =>
    cases result' with
    | error failure' => exact hr.elim
    | ok b => exact hf a b hr ⟨s, t, h, by rw [hxs], by rw [hyt]⟩ s' t' hs

theorem bind {R : α → β → Prop} {Q : γ → δ → Prop} {x : Pass σ α} {y : Pass τ β}
    {f : α → Pass σ γ} {g : β → Pass τ δ} (hx : Related S R x y)
    (hf : ∀ a b, R a b → Related S Q (f a) (g b)) : Related S Q (x >>= f) (y >>= g) :=
  hx.bind_of_answers fun a b hab _ ↦ hf a b hab

theorem parallel {x : Pass σ α} {y : Pass τ α} (h : Related S Eq x y) : Parallel S x y := by
  intro s t hs
  obtain ⟨hr, ht⟩ := h s t hs
  exact ⟨outcome_eq.1 hr, ht⟩

end Related

namespace Parallel

variable {S : Session σ → Session τ → Prop}

theorem related {x : Pass σ α} {y : Pass τ α} (h : Parallel S x y) : Related S Eq x y := by
  intro s t hs
  obtain ⟨hr, ht⟩ := h s t hs
  exact ⟨outcome_eq.2 hr, ht⟩

theorem pure (a : α) : Parallel S (Pure.pure a) (Pure.pure a) := fun _ _ h ↦ ⟨rfl, h⟩

theorem throw (failure : Failure) :
    Parallel S (MonadExcept.throw failure : Pass σ α) (MonadExcept.throw failure) :=
  fun _ _ h ↦ ⟨rfl, h⟩

theorem bind_related_of_answer {R : γ → δ → Prop} {x : Pass σ α} {y : Pass τ α}
    {f : α → Pass σ γ} {g : α → Pass τ δ} (hx : Parallel S x y)
    (hf : ∀ a, (∃ s t, S s t ∧ (x s).1 = .ok a) → Related S R (f a) (g a)) :
    Related S R (x >>= f) (y >>= g) := by
  refine hx.related.bind_of_answers ?_
  rintro a _ rfl ⟨s, t, hs, hanswer, -⟩
  exact hf a ⟨s, t, hs, hanswer⟩

theorem bind_related {R : γ → δ → Prop} {x : Pass σ α} {y : Pass τ α} {f : α → Pass σ γ}
    {g : α → Pass τ δ} (hx : Parallel S x y) (hf : ∀ a, Related S R (f a) (g a)) :
    Related S R (x >>= f) (y >>= g) :=
  hx.bind_related_of_answer fun a _ ↦ hf a

theorem bind_of_answer {x : Pass σ α} {y : Pass τ α} {f : α → Pass σ β} {g : α → Pass τ β}
    (hx : Parallel S x y)
    (hf : ∀ a, (∃ s t, S s t ∧ (x s).1 = .ok a) → Parallel S (f a) (g a)) :
    Parallel S (x >>= f) (y >>= g) :=
  (hx.bind_related_of_answer fun a ha ↦ (hf a ha).related).parallel

theorem bind {x : Pass σ α} {y : Pass τ α} {f : α → Pass σ β} {g : α → Pass τ β}
    (hx : Parallel S x y) (hf : ∀ a, Parallel S (f a) (g a)) :
    Parallel S (x >>= f) (y >>= g) :=
  hx.bind_of_answer fun a _ ↦ hf a

theorem pure_bind (a : α) {f : α → Pass σ β} {g : α → Pass τ β} (h : Parallel S (f a) (g a)) :
    Parallel S (Pure.pure a >>= f) (Pure.pure a >>= g) := h

theorem attempt {x : Access σ α} {y : Access τ α} (h : Parallel S (onPage x) (onPage y)) :
    Parallel S (onPage (PageOutline.attempt x)) (onPage (PageOutline.attempt y)) := by
  intro s t hs
  obtain ⟨hr, ht⟩ := h s t hs
  rw [onPage_attempt, onPage_attempt]
  exact ⟨congrArg Except.ok hr, ht⟩

theorem access_bind {x : Access σ α} {y : Access τ α} {f : α → Access σ β} {g : α → Access τ β}
    (hx : Parallel S (onPage x) (onPage y))
    (hf : ∀ a, Parallel S (onPage (f a)) (onPage (g a))) :
    Parallel S (onPage (x >>= f)) (onPage (y >>= g)) := by
  rw [onPage_bind, onPage_bind]
  exact hx.bind hf

variable [LivePage σ] [LivePage τ]

theorem inquiry
    (h : ∀ q : Question, Parallel S (onPage (LivePage.answer q)) (onPage (LivePage.answer q)))
    (i : Inquiry α) : Parallel S (onPage i.run) (onPage i.run) := by
  induction i with
  | done a => exact pure a
  | fail failure => exact throw failure
  | ask q next ih => exact (h q).attempt.access_bind ih

theorem answerOr {i j : Inquiry α} (default : α) (h : Parallel S (onPage i.run) (onPage j.run)) :
    Parallel S (answerOr default i) (answerOr default j) := by
  refine h.attempt.bind fun result ↦ ?_
  cases result with
  | error _ => exact pure default
  | ok a => exact pure a

theorem queryFirst {context : NodeId} {selector : String}
    (h : Parallel S (onPage (LivePage.answer (.query context selector false)))
      (onPage (LivePage.answer (.query context selector false)))) :
    Parallel S (onPage (LivePage.queryFirst context selector))
      (onPage (LivePage.queryFirst context selector)) :=
  h.access_bind fun _ ↦ pure _

end Parallel

end Pass

end PageOutline
