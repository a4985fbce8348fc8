import LineShell.Action

/-!
Runs of actions. What a sequence of two actions does on a system is what the first one does and then what
the second one does in the state that is left, and so is its history. A `Trace` forgets the system: it is a
history that some answers lead to, with the result that they lead to, so that what holds of all traces
holds of all runs on all systems.
-/

namespace LineShell.Action

variable {σ α β : Type}

section
variable (system : System σ)

@[simp] theorem run_pure (a : α) (t : σ) : (pure a : Action α).run system t = (a, t) := rfl

@[simp] theorem history_pure (a : α) (t : σ) : (pure a : Action α).history system t = [] := rfl

@[simp] theorem run_request (r : Request) (t : σ) : (request r).run system t = system.answer r t := rfl

@[simp] theorem history_request (r : Request) (t : σ) :
    (request r).history system t = [⟨r, (system.answer r t).1⟩] := rfl

theorem run_bind (x : Action α) (f : α → Action β) (t : σ) :
    (x >>= f).run system t = (f (x.run system t).1).run system (x.run system t).2 := by
  induction x generalizing t with
  | done a => rfl
  | ask r next ih => exact ih _ _

theorem history_bind (x : Action α) (f : α → Action β) (t : σ) :
    (x >>= f).history system t =
      x.history system t ++ (f (x.run system t).1).history system (x.run system t).2 := by
  induction x generalizing t with
  | done a => rfl
  | ask r next ih => exact congrArg (_ :: ·) (ih _ _)

@[simp] theorem run_map (f : α → β) (x : Action α) (t : σ) :
    (f <$> x).run system t = (f (x.run system t).1, (x.run system t).2) := by
  rw [map_eq_pure_bind, run_bind]
  rfl

@[simp] theorem history_map (f : α → β) (x : Action α) (t : σ) :
    (f <$> x).history system t = x.history system t := by
  rw [map_eq_pure_bind, history_bind, history_pure, List.append_nil]

/-- What is in a history has been answered by the system. -/
theorem exists_answer_of_mem_history {x : Action α} {t : σ} {e : Event} (he : e ∈ x.history system t) :
    ∃ u, e.answer = (system.answer e.request u).1 := by
  induction x generalizing t with
  | done a => cases he
  | ask r next ih =>
    rcases List.mem_cons.mp he with rfl | he
    · exact ⟨t, rfl⟩
    · exact ih _ he

end

/-! ### Which requests an action can make -/

/-- Whatever the answers are, the action makes only requests that satisfy `P`. -/
def Only (P : Request → Prop) : Action α → Prop
  | .done _ => True
  | .ask r next => P r ∧ ∀ answer, (next answer).Only P

section
variable {P : Request → Prop}

theorem only_pure (a : α) : (pure a : Action α).Only P := trivial

theorem only_request {r : Request} (h : P r) : (request r).Only P := ⟨h, fun _ => trivial⟩

theorem Only.bind {x : Action α} {f : α → Action β} (hx : x.Only P) (hf : ∀ a, (f a).Only P) :
    (x >>= f).Only P := by
  induction x with
  | done a => exact hf a
  | ask r next ih => exact ⟨hx.1, fun answer => ih answer (hx.2 answer)⟩

theorem Only.mono {Q : Request → Prop} {x : Action α} (hx : x.Only P) (hPQ : ∀ r, P r → Q r) : x.Only Q := by
  induction x with
  | done a => trivial
  | ask r next ih => exact ⟨hPQ r hx.1, fun answer => ih answer (hx.2 answer)⟩

/-- What the answers to such requests keep, the run of the action keeps. -/
theorem Only.keeps {system : System σ} {I : σ → Prop} {x : Action α} (hx : x.Only P)
    (hkeep : ∀ r t, P r → I t → I (system.answer r t).2) {t : σ} (ht : I t) : I (x.run system t).2 := by
  induction x generalizing t with
  | done a => exact ht
  | ask r next ih => exact ih _ (hx.2 _) (hkeep r t hx.1 ht)

end

/-! ### Traces -/

/-- Some answers lead an action through these events to this result. -/
inductive Trace : Action α → List Event → α → Prop
  | done (a : α) : Trace (.done a) [] a
  | ask {r : Request} {next : r.Answer → Action α} {h : List Event} {a : α} (answer : r.Answer)
    (rest : Trace (next answer) h a) : Trace (.ask r next) (⟨r, answer⟩ :: h) a

theorem trace_run (system : System σ) (x : Action α) (t : σ) :
    Trace x (x.history system t) (x.run system t).1 := by
  induction x generalizing t with
  | done a => exact .done a
  | ask r next ih => exact .ask _ (ih _ _)

theorem Only.trace {P : Request → Prop} {x : Action α} {h : List Event} {a : α} (hx : x.Only P)
    (htrace : Trace x h a) : ∀ e ∈ h, P e.request := by
  induction htrace with
  | done a => simp
  | ask answer rest ih => exact List.forall_mem_cons.mpr ⟨hx.1, ih (hx.2 answer)⟩

theorem trace_pure {a b : α} {h : List Event} : Trace (pure a) h b ↔ h = [] ∧ b = a := by
  constructor
  · intro htrace
    cases htrace
    exact ⟨rfl, rfl⟩
  · rintro ⟨rfl, rfl⟩
    exact .done _

theorem trace_request {r : Request} {a : r.Answer} {h : List Event} :
    Trace (request r) h a ↔ h = [⟨r, a⟩] := by
  constructor
  · intro htrace
    cases htrace with
    | ask answer rest =>
      cases rest
      rfl
  · rintro rfl
    exact .ask a (.done a)

theorem trace_bind {x : Action α} {f : α → Action β} {h : List Event} {b : β} :
    Trace (x >>= f) h b ↔ ∃ h₁ a h₂, Trace x h₁ a ∧ Trace (f a) h₂ b ∧ h = h₁ ++ h₂ := by
  induction x generalizing h with
  | done a =>
    constructor
    · intro htrace
      exact ⟨[], a, h, .done a, htrace, rfl⟩
    · rintro ⟨h₁, a', h₂, hx, hf, rfl⟩
      cases hx
      exact hf
  | ask r next ih =>
    constructor
    · intro htrace
      cases htrace with
      | ask answer rest =>
        obtain ⟨h₁, a, h₂, hx, hf, rfl⟩ := (ih answer).mp rest
        exact ⟨_, a, h₂, .ask answer hx, hf, rfl⟩
    · rintro ⟨h₁, a, h₂, hx, hf, rfl⟩
      cases hx with
      | ask answer rest => exact .ask answer ((ih answer).mpr ⟨_, a, h₂, rest, hf, rfl⟩)

theorem trace_request_bind {r : Request} {f : r.Answer → Action β} {h : List Event} {b : β} :
    Trace (request r >>= f) h b ↔ ∃ answer k, Trace (f answer) k b ∧ h = ⟨r, answer⟩ :: k := by
  constructor
  · intro htrace
    obtain ⟨h₁, answer, k, hrequest, hrest, rfl⟩ := trace_bind.mp htrace
    obtain rfl := trace_request.mp hrequest
    exact ⟨answer, k, hrest, rfl⟩
  · rintro ⟨answer, k, hrest, rfl⟩
    exact trace_bind.mpr ⟨_, answer, k, trace_request.mpr rfl, hrest, rfl⟩

end LineShell.Action
