import DBlusBlus.Library.Span

/-! Computations that read and change a state. What was changed stays when the computation fails. -/

abbrev Edit (σ : Type) (ε : Type) (α : Type) := ExceptT (Span.Exit ε) (StateM σ) α

namespace Edit

open Span

variable {σ ε α β : Type} {x : Edit σ ε α} {f : α → Edit σ ε β} {s s' : σ} {a : α} {e : Exit ε}

def run (x : Edit σ ε α) (s : σ) : Except (Exit ε) α × σ := Id.run (StateT.run (ExceptT.run x) s)

def of (x : Except (Exit ε) α) : Edit σ ε α := ExceptT.mk (pure x)

def update (f : σ → Except (Exit ε) σ) : Edit σ ε Unit := ExceptT.mk fun s =>
  match f s with
  | .ok s' => (.ok (), s')
  | .error e => (.error e, s)

/-- Runs a handler when the computation fails with an error, and fails with that error. -/
def onError (x : Edit σ ε α) (handler : Edit σ ε Unit) : Edit σ ε α := ExceptT.mk fun s =>
  match run x s with
  | (.error (.error e), s') => (.error (.error e), (run handler s').2)
  | result => result

lemma run_get_bind {f : σ → Edit σ ε β} : run (get >>= f) s = run (f s) s := rfl

lemma run_set_bind {f : PUnit → Edit σ ε β} : run (set s' >>= f) s = run (f ⟨⟩) s' := rfl

lemma run_of {x : Except (Exit ε) α} : run (of x : Edit σ ε α) s = (x, s) := rfl

lemma run_pure : run (pure a : Edit σ ε α) s = (.ok a, s) := rfl

lemma run_bind_ok (h : run x s = (.ok a, s')) : run (x >>= f) s = run (f a) s' := by
  simp only [run, bind, ExceptT.bind, ExceptT.mk, StateT.bind, ExceptT.bindCont, ExceptT.run,
    StateT.run, Id.run] at h ⊢
  rw [h]

lemma run_bind_error (h : run x s = (.error e, s')) : run (x >>= f) s = (.error e, s') := by
  simp only [run, bind, ExceptT.bind, ExceptT.mk, StateT.bind, ExceptT.bindCont, ExceptT.run,
    StateT.run, Id.run] at h ⊢
  rw [h]
  rfl

lemma run_of_bind_ok {x : Except (Exit ε) α} (h : x = .ok a) :
    run (of x >>= f) s = run (f a) s :=
  run_bind_ok (by rw [run_of, h])

lemma run_of_bind_error {x : Except (Exit ε) α} (h : x = .error e) :
    run (of x >>= f) s = (.error e, s) :=
  run_bind_error (by rw [run_of, h])

lemma run_update {g : σ → Except (Exit ε) σ} (h : g s = .ok s') :
    run (update g) s = (.ok (), s') := by
  change (match g s with | .ok s' => (Except.ok (), s') | .error e => (.error e, s)) = _
  rw [h]

lemma run_update_bind {g : σ → Except (Exit ε) σ} {f : Unit → Edit σ ε β} (h : g s = .ok s') :
    run (update g >>= f) s = run (f ()) s' :=
  run_bind_ok (run_update h)

lemma run_onError_ok {handler : Edit σ ε Unit} (h : run x s = (.ok a, s')) :
    run (onError x handler) s = (.ok a, s') := by
  change (match run x s with
    | (.error (.error e), s') => (Except.error (Exit.error e), (run handler s').2)
    | result => result) = _
  rw [h]

lemma run_onError_error {handler : Edit σ ε Unit} {e : ε} (h : run x s = (.error (.error e), s')) :
    run (onError x handler) s = (.error (.error e), (run handler s').2) := by
  change (match run x s with
    | (.error (.error e), s') => (Except.error (Exit.error e), (run handler s').2)
    | result => result) = _
  rw [h]

end Edit
