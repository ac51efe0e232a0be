import Mathlib.Logic.Relation

/-!
# `Lib.Machine` — runs of a step function

A machine is a partial step function `step : σ → ε → Option σ`; an event that is not enabled, or whose
effect is undefined, has no successor. `Reaches step ok` is reachability along steps whose event satisfies
`ok` in the state before it, so a property of "every run whose steps all meet a condition" is a property of
`Reaches step ok`; unconditional reachability is `Reaches step anyStep`.

`Reaches.invariant` is the one induction over runs; `reaches_exec_of` enters a concrete run. `Leads` says what
events do to the part of a state that a `view` shows, from any state that looks the same.
-/

namespace Frrpc.Lib

variable {σ ε : Type}

/-- The trivial step condition. -/
def anyStep : σ → ε → Prop := fun _ _ => True

/-- One step whose event satisfies the condition `ok`. -/
def StepUnder (step : σ → ε → Option σ) (ok : σ → ε → Prop) (s s' : σ) : Prop :=
  ∃ e, ok s e ∧ step s e = some s'

/-- Finitely many steps, each satisfying `ok`. -/
def Reaches (step : σ → ε → Option σ) (ok : σ → ε → Prop) : σ → σ → Prop :=
  Relation.ReflTransGen (StepUnder step ok)

variable {step : σ → ε → Option σ} {ok : σ → ε → Prop}

theorem Reaches.refl (s : σ) : Reaches step ok s s := Relation.ReflTransGen.refl

theorem Reaches.snoc {s s' s'' : σ} {e : ε} (h : Reaches step ok s s') (hok : ok s' e)
    (he : step s' e = some s'') : Reaches step ok s s'' :=
  Relation.ReflTransGen.tail h ⟨e, hok, he⟩

theorem Reaches.trans {s s' s'' : σ} (h : Reaches step ok s s') (h' : Reaches step ok s' s'') :
    Reaches step ok s s'' := Relation.ReflTransGen.trans h h'

/-- A condition can be weakened. -/
theorem Reaches.mono {ok' : σ → ε → Prop} {s s' : σ} (h : Reaches step ok s s')
    (hok : ∀ s e, ok s e → ok' s e) : Reaches step ok' s s' := by
  refine Relation.ReflTransGen.mono ?_ s s' h
  rintro s₁ s₂ ⟨e, he, hstep⟩
  exact ⟨e, hok s₁ e he, hstep⟩

/-- **The invariant rule.** What holds at the start and is kept by every step that meets the condition
    holds in every state reached. -/
theorem Reaches.invariant {Inv : σ → Prop} {s s' : σ} (h : Reaches step ok s s') (hinit : Inv s)
    (hstep : ∀ s e s', ok s e → Inv s → step s e = some s' → Inv s') : Inv s' := by
  induction h with
  | refl => exact hinit
  | tail _ hlast ih =>
    obtain ⟨e, hok, he⟩ := hlast
    exact hstep _ e _ hok ih he

/-- Executing a list of events in order. -/
def exec (step : σ → ε → Option σ) (s : σ) (es : List ε) : Option σ := es.foldlM step s

theorem exec_append (s : σ) (es es' : List ε) :
    exec step s (es ++ es') = (exec step s es).bind fun s' => exec step s' es' := List.foldlM_append

/-- **A concrete run is a run**, under a condition that its events meet in every state. -/
theorem reaches_exec_of {s s' : σ} {es : List ε} (h : exec step s es = some s')
    (hok : ∀ e ∈ es, ∀ s, ok s e) : Reaches step ok s s' := by
  induction es generalizing s with
  | nil => simp only [exec, List.foldlM_nil, pure, Option.some.injEq] at h; subst h; exact .refl s
  | cons e es ih =>
    simp only [exec, List.foldlM_cons, Option.bind_eq_bind] at h
    obtain ⟨s₁, he, hrest⟩ := Option.bind_eq_some_iff.mp h
    have hlast := ih hrest fun e' he' => hok e' (List.mem_cons_of_mem e he')
    exact Reaches.trans (Reaches.snoc (.refl s) (hok e List.mem_cons_self s) he) hlast

theorem reaches_exec {s s' : σ} {es : List ε} (h : exec step s es = some s') :
    Reaches step anyStep s s' := reaches_exec_of h fun _ _ _ => trivial

/-- **The lockstep rule.** States between which every step keeps a relation, or is undefined in both, stay
    related over any events. -/
theorem exec_lockstep {R : σ → σ → Prop} (hstep : ∀ s t e, R s t → Option.Rel R (step s e) (step t e))
    {s t : σ} (h : R s t) (es : List ε) : Option.Rel R (exec step s es) (exec step t es) := by
  induction es generalizing s t with
  | nil => exact .some h
  | cons e es ih =>
    simp only [exec, List.foldlM_cons, Option.bind_eq_bind]
    have hfirst := hstep s t e h
    cases hs : step s e with
    | none =>
      rw [hs] at hfirst
      cases ht : step t e with
      | none => exact .none
      | some t' => rw [ht] at hfirst; cases hfirst
    | some s' =>
      rw [hs] at hfirst
      cases ht : step t e with
      | none => rw [ht] at hfirst; cases hfirst
      | some t' =>
        rw [ht] at hfirst
        cases hfirst with
        | some h' => exact ih h'

/-- The machine that stops where a step does not meet the condition. -/
def guarded (step : σ → ε → Option σ) (ok : σ → ε → Prop) [∀ s e, Decidable (ok s e)] (s : σ) (e : ε) :
    Option σ := if ok s e then step s e else none

theorem guarded_eq_some [∀ s e, Decidable (ok s e)] {s s' : σ} {e : ε} :
    guarded step ok s e = some s' ↔ ok s e ∧ step s e = some s' := by
  unfold guarded
  split
  · next hok => exact ⟨fun h => ⟨hok, h⟩, fun h => h.2⟩
  · next hnot => exact ⟨nofun, fun h => absurd h.1 hnot⟩

/-- **A concrete run is a run under a condition** that can be checked along the way. -/
theorem reaches_guarded [∀ s e, Decidable (ok s e)] {s s' : σ} {es : List ε}
    (h : exec (guarded step ok) s es = some s') : exec step s es = some s' ∧ Reaches step ok s s' := by
  induction es generalizing s with
  | nil =>
    obtain rfl := Option.some.inj h
    exact ⟨rfl, .refl s⟩
  | cons e es ih =>
    simp only [exec, List.foldlM_cons, Option.bind_eq_bind] at h ⊢
    obtain ⟨s₁, hfirst, hrest⟩ := Option.bind_eq_some_iff.mp h
    obtain ⟨hok, hstep⟩ := guarded_eq_some.mp hfirst
    obtain ⟨hexec, hreaches⟩ := ih hrest
    rw [hstep]
    exact ⟨hexec, ((Reaches.refl s).snoc hok hstep).trans hreaches⟩

/-! ## What a part of the state shows -/

/-- From every state that looks like `x`, these events are a run under the condition, and the state behind them
    looks like `y`. -/
def Leads {υ : Type} (step : σ → ε → Option σ) (ok : σ → ε → Prop) (view : σ → υ) (x : υ) (es : List ε)
    (y : υ) : Prop :=
  ∀ s, view s = x → ∃ s', exec step s es = some s' ∧ Reaches step ok s s' ∧ view s' = y

section

variable {υ : Type} {view : σ → υ} {x y z : υ} {es es' : List ε}

theorem Leads.refl (x : υ) : Leads step ok view x [] x := fun s hs => ⟨s, rfl, .refl s, hs⟩

/-- One event. -/
theorem Leads.one {e : ε}
    (h : ∀ s, view s = x → ok s e ∧ ∃ s', step s e = some s' ∧ view s' = y) :
    Leads step ok view x [e] y := by
  intro s hs
  obtain ⟨hok, s', hstep, hview⟩ := h s hs
  refine ⟨s', ?_, (Reaches.refl s).snoc hok hstep, hview⟩
  rw [exec, List.foldlM_cons, hstep]
  rfl

/-- **Runs compose.** -/
theorem Leads.trans (h : Leads step ok view x es y) (h' : Leads step ok view y es' z) :
    Leads step ok view x (es ++ es') z := by
  intro s hs
  obtain ⟨s₁, hexec, hreaches, hview⟩ := h s hs
  obtain ⟨s₂, hexec', hreaches', hview'⟩ := h' s₁ hview
  refine ⟨s₂, ?_, hreaches.trans hreaches', hview'⟩
  rw [exec_append, hexec]
  exact hexec'

end

end Frrpc.Lib
