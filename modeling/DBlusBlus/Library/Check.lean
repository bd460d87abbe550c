import Mathlib.Init

/-! Sequences of checks, each with the error that it reports. -/

namespace Check

variable {ε : Type*} {α β : Type}

def require (c : Prop) [Decidable c] (error : ε) : Except ε Unit :=
  if c then .ok () else .error error

def present (value : Option α) (error : ε) : Except ε α :=
  match value with
  | some a => .ok a
  | none => .error error

variable {c : Prop} [Decidable c] {x : Except ε α} {f : α → Except ε β} {e : ε} {a : α} {b : β}
  {value : Option α}

lemma bind_eq_ok : (x >>= f) = .ok b ↔ ∃ a, x = .ok a ∧ f a = .ok b := by
  cases x with
  | error e => simp [bind, Except.bind]
  | ok a => simp [bind, Except.bind]

lemma require_eq_ok : (require c e = .ok ()) ↔ c := by
  by_cases h : c <;> simp [require, h]

lemma present_eq_ok : present value e = .ok a ↔ value = some a := by
  cases value <;> simp [present]

lemma ok_bind : ((.ok a : Except ε α) >>= f) = f a := rfl

lemma error_bind : ((.error e : Except ε α) >>= f) = .error e := rfl

lemma require_pos (h : c) : require c e = .ok () := if_pos h

lemma require_neg (h : ¬ c) : require c e = .error e := if_neg h

lemma require_bind {f : Unit → Except ε β} :
    (require c e >>= f) = .ok b ↔ c ∧ f () = .ok b := by
  by_cases h : c <;> simp [require, h, bind, Except.bind]

lemma present_bind : (present value e >>= f) = .ok b ↔ ∃ a, value = some a ∧ f a = .ok b := by
  simp [bind_eq_ok, present_eq_ok]

end Check
