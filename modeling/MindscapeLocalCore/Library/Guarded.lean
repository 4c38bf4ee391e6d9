/-!
Guarded computations: a check either lets the computation go on or ends it
with an error, and a computation that succeeded passed every check on its way.
-/

namespace MindscapeLocalCore.Library.Guarded

variable {ε ε' α β : Type}

/-- End the computation with `e` unless `c` holds. -/
def require (c : Prop) [Decidable c] (e : ε) : Except ε Unit :=
  if c then .ok () else .error e

@[simp] theorem require_eq_ok {c : Prop} [Decidable c] {e : ε} {u : Unit} :
    require c e = .ok u ↔ c := by
  unfold require
  split <;> simp_all

@[simp] theorem require_eq_error {c : Prop} [Decidable c] {e e' : ε} :
    require c e = .error e' ↔ ¬ c ∧ e = e' := by
  unfold require
  split <;> simp_all

theorem require_of {c : Prop} [Decidable c] {e : ε} (h : c) :
    require c e = .ok () := require_eq_ok.mpr h

theorem bind_eq_ok {x : Except ε α} {f : α → Except ε β} {b : β} :
    (x >>= f) = .ok b ↔ ∃ a, x = .ok a ∧ f a = .ok b := by
  cases x <;> simp [bind, Except.bind]

theorem exists_unit {p : Unit → Prop} : (∃ u, p u) ↔ p () :=
  ⟨fun ⟨_, h⟩ => h, fun h => ⟨(), h⟩⟩

theorem ite_require_eq_ok {c d : Prop} [Decidable c] [Decidable d] {e : ε}
    {x : Except ε β} {b : β} :
    (if c then require d e >>= fun _ => x else x) = .ok b ↔ (c → d) ∧ x = .ok b := by
  by_cases hc : c
  · rw [if_pos hc, bind_eq_ok]
    simp only [require_eq_ok, exists_unit, hc, true_imp_iff]
  · rw [if_neg hc, and_iff_right fun h => absurd h hc]

theorem bind_eq_error {x : Except ε α} {f : α → Except ε β} {e : ε} :
    (x >>= f) = .error e ↔
      x = .error e ∨ ∃ a, x = .ok a ∧ f a = .error e := by
  cases x <;> simp [bind, Except.bind]

@[simp] theorem ok_bind (a : α) (f : α → Except ε β) :
    ((Except.ok a : Except ε α) >>= f) = f a := rfl

@[simp] theorem error_bind (e : ε) (f : α → Except ε β) :
    ((Except.error e : Except ε α) >>= f) = .error e := rfl

@[simp] theorem pure_eq_ok (a : α) : (pure a : Except ε α) = .ok a := rfl

@[simp] theorem throw_eq_error (e : ε) :
    (throw e : Except ε α) = .error e := rfl

theorem map_bind {γ : Type} {x : Except ε α} {f : α → Except ε β} {g : β → γ} :
    (x >>= f).map g = x >>= fun a => (f a).map g := by
  cases x <;> rfl

theorem map_eq_bind {x : Except ε α} {g : α → β} : x.map g = x >>= fun a => .ok (g a) := by
  cases x <;> rfl

theorem map_eq_ok {x : Except ε α} {g : α → β} {b : β} :
    x.map g = .ok b ↔ ∃ a, x = .ok a ∧ g a = b := by
  cases x <;> simp [Except.map]

theorem invariant_of_foldlM {f : β → α → Except ε β} {holds : β → Prop} {items : List α}
    {b b' : β}
    (hstep : ∀ a ∈ items, ∀ b b', holds b → f b a = .ok b' → holds b')
    (hb : holds b) (h : items.foldlM f b = .ok b') : holds b' := by
  induction items generalizing b with
  | nil => exact Except.ok.inj h ▸ hb
  | cons a items ih =>
      obtain ⟨between, hfirst, hrest⟩ := bind_eq_ok.mp ((List.foldlM_cons ..).symm.trans h)
      exact ih (fun a hmem => hstep a (List.mem_cons_of_mem _ hmem))
        (hstep a List.mem_cons_self b between hb hfirst) hrest

/-- Run a check whose errors are one kind of the errors of the whole. -/
def lifted (wrap : ε → ε') : Except ε α → Except ε' α
  | .ok a => .ok a
  | .error e => .error (wrap e)

@[simp] theorem lifted_ok (wrap : ε → ε') (a : α) :
    lifted wrap (.ok a : Except ε α) = .ok a := rfl

@[simp] theorem lifted_eq_ok {wrap : ε → ε'} {x : Except ε α} {a : α} :
    lifted wrap x = .ok a ↔ x = .ok a := by
  cases x <;> simp [lifted]

@[simp] theorem lifted_eq_error {wrap : ε → ε'} {x : Except ε α} {e' : ε'} :
    lifted wrap x = .error e' ↔ ∃ e, x = .error e ∧ wrap e = e' := by
  cases x <;> simp [lifted]

/-- Every error of the computation is one of `P`. -/
def ErrorsIn (P : ε → Prop) (x : Except ε α) : Prop := ∀ e, x = .error e → P e

section Errors

variable {P : ε → Prop}

theorem errorsIn_ok (a : α) : ErrorsIn P (.ok a : Except ε α) :=
  fun _ h => nomatch h

theorem errorsIn_error {e : ε} (h : P e) : ErrorsIn P (.error e : Except ε α) := by
  rintro _ ⟨⟩
  exact h

theorem errorsIn_require {c : Prop} [Decidable c] {e : ε} (h : ¬ c → P e) :
    ErrorsIn P (require c e) := by
  intro e' he'
  obtain ⟨hc, rfl⟩ := require_eq_error.mp he'
  exact h hc

theorem errorsIn_bind {x : Except ε α} {f : α → Except ε β} (hx : ErrorsIn P x)
    (hf : ∀ a, x = .ok a → ErrorsIn P (f a)) : ErrorsIn P (x >>= f) := by
  intro e he
  rcases bind_eq_error.mp he with he | ⟨a, ha, he⟩
  · exact hx e he
  · exact hf a ha e he

theorem errorsIn_foldlM {f : β → α → Except ε β} {items : List α} {b : β}
    (hf : ∀ b, ∀ a ∈ items, ErrorsIn P (f b a)) : ErrorsIn P (items.foldlM f b) := by
  induction items generalizing b with
  | nil => exact errorsIn_ok b
  | cons a items ih =>
      rw [List.foldlM_cons]
      exact errorsIn_bind (hf b a List.mem_cons_self) fun _ _ =>
        ih fun b a hmem => hf b a (List.mem_cons_of_mem _ hmem)

theorem errorsIn_mono {Q : ε → Prop} {x : Except ε α} (hx : ErrorsIn P x)
    (h : ∀ e, P e → Q e) : ErrorsIn Q x := fun e he => h e (hx e he)

end Errors

inductive Related (R : α → β → Prop) : Except ε α → Except ε β → Prop where
  | ok {a : α} {b : β} (h : R a b) : Related R (.ok a) (.ok b)
  | error (e : ε) : Related R (.error e) (.error e)

variable {R : α → β → Prop}

theorem related_of_eq {x : Except ε α} {R : α → α → Prop} (h : ∀ a, R a a) :
    Related R x x := by
  cases x with
  | ok a => exact .ok (h a)
  | error e => exact .error e

theorem related_bind {γ δ : Type} {S : γ → δ → Prop} {x : Except ε α}
    {y : Except ε β} {f : α → Except ε γ} {g : β → Except ε δ}
    (h : Related R x y) (hfg : ∀ a b, R a b → Related S (f a) (g b)) :
    Related S (x >>= f) (y >>= g) := by
  cases h with
  | ok hab => exact hfg _ _ hab
  | error e => exact .error e

theorem related_bind_same {γ δ : Type} {S : γ → δ → Prop} {x : Except ε α}
    {f : α → Except ε γ} {g : α → Except ε δ}
    (hfg : ∀ a, Related S (f a) (g a)) : Related S (x >>= f) (x >>= g) :=
  related_bind (related_of_eq fun _ => rfl) fun a _ h => h ▸ hfg a

theorem eq_ok_of_related {x : Except ε α} {y : Except ε β} (h : Related R x y)
    {a : α} (ha : x = .ok a) : ∃ b, y = .ok b ∧ R a b := by
  cases h with
  | ok hab =>
      cases ha
      exact ⟨_, rfl, hab⟩
  | error e => cases ha

theorem mapM_eq_some {f : α → Option β} {items : List α} {results : List β} :
    items.mapM f = some results ↔ items.map f = results.map some := by
  induction items generalizing results with
  | nil =>
      rw [List.mapM_nil, List.map_nil]
      cases results with
      | nil => exact iff_of_true rfl rfl
      | cons b results => exact iff_of_false (by rintro ⟨⟩) (by rintro ⟨⟩)
  | cons a items ih =>
      rw [List.mapM_cons, Option.bind_eq_bind, Option.bind_eq_some_iff]
      constructor
      · rintro ⟨b, hb, h⟩
        obtain ⟨rest, hrest, hresults⟩ := Option.bind_eq_some_iff.mp h
        obtain rfl := Option.some.inj hresults
        rw [List.map_cons, hb, ih.mp hrest]
        rfl
      · intro h
        cases results with
        | nil => cases h
        | cons b results =>
            obtain ⟨hb, hrest⟩ := List.cons.inj h
            exact ⟨b, hb, Option.bind_eq_some_iff.mpr ⟨results, ih.mpr hrest, rfl⟩⟩

end MindscapeLocalCore.Library.Guarded
