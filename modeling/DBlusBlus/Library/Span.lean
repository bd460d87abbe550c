import DBlusBlus.Library.Check
import DBlusBlus.Library.Codec

/-! Reads and writes through a part of a string. An access that leaves the string is a fault, which
is not among the errors that a program reports. -/

namespace Span

inductive Exit (ε : Type*)
  | fault
  | error (e : ε)

variable {ε ε' : Type*} {α β γ : Type} {s ys : List γ} {offset count index : ℕ}

def read (s : List γ) (offset count : ℕ) : Except (Exit ε) (List γ) :=
  if offset + count ≤ s.length then .ok ((s.drop offset).take count) else .error .fault

def get (s : List γ) (index : ℕ) : Except (Exit ε) γ :=
  Check.present s[index]? .fault

def write (s : List γ) (offset : ℕ) (ys : List γ) : Except (Exit ε) (List γ) :=
  if offset + ys.length ≤ s.length then .ok (Codec.splice s offset ys) else .error .fault

/-- Appends to an array of which `xs` is the part in use. -/
def push (capacity : ℕ) (xs : List γ) (x : γ) : Except (Exit ε) (List γ) :=
  if xs.length < capacity then .ok (xs ++ [x]) else .error .fault

def Exit.map (f : ε → ε') : Exit ε → Exit ε'
  | .fault => .fault
  | .error e => .error (f e)

/-- Reports the errors of a call as errors of the caller. -/
def report (f : ε → ε') : Except (Exit ε) α → Except (Exit ε') α
  | .ok a => .ok a
  | .error e => .error (e.map f)

/-- The result of a call whose errors are not looked at. -/
def attempt : Except (Exit ε) α → Except (Exit ε') (Option α)
  | .ok a => .ok (some a)
  | .error .fault => .error .fault
  | .error (.error _) => .ok none

section Values

variable {ys' : List γ} {a : γ} {b : β} {f : List γ → Except (Exit ε) β}

lemma read_eq (h : offset + count ≤ s.length) :
    (read s offset count : Except (Exit ε) _) = .ok ((s.drop offset).take count) :=
  if_pos h

lemma get_eq_ok : (get s index : Except (Exit ε) _) = .ok a ↔ s[index]? = some a :=
  Check.present_eq_ok

lemma write_eq (h : offset + ys.length ≤ s.length) :
    (write s offset ys : Except (Exit ε) _) = .ok (Codec.splice s offset ys) :=
  if_pos h

lemma push_eq {capacity : ℕ} (h : s.length < capacity) :
    (push capacity s a : Except (Exit ε) _) = .ok (s ++ [a]) :=
  if_pos h

lemma write_whole (h : s.length = ys.length) : (write s 0 ys : Except (Exit ε) _) = .ok ys := by
  rw [write_eq (by omega), Codec.splice_zero, List.drop_of_length_le h.le, List.append_nil]

lemma read_whole (h : s.length = count) : (read s 0 count : Except (Exit ε) _) = .ok s := by
  rw [read_eq (by omega), List.drop_zero, List.take_of_length_le h.le]

lemma read_bind : (read s offset count >>= f) = .ok b ↔
    offset + count ≤ s.length ∧ f ((s.drop offset).take count) = .ok b := by
  by_cases h : offset + count ≤ s.length <;> simp [read, h, bind, Except.bind]

lemma get_bind {f : γ → Except (Exit ε) β} :
    (get s index >>= f) = .ok b ↔ ∃ a, s[index]? = some a ∧ f a = .ok b :=
  Check.present_bind

lemma report_eq_ok {x : Except (Exit ε) α} {r : ε → ε'} {a : α} :
    report r x = .ok a ↔ x = .ok a := by
  cases x <;> simp [report]

end Values

def Safe (x : Except (Exit ε) α) : Prop := x ≠ .error .fault

namespace Safe

variable {x : Except (Exit ε) α} {f : α → Except (Exit ε) β} {c : Prop} [Decidable c] {e : ε}

lemma ok {a : α} : Safe (.ok a : Except (Exit ε) α) := fun h => by cases h

lemma error : Safe (.error (.error e) : Except (Exit ε) α) := fun h => by cases h

lemma bind (hx : Safe x) (hf : ∀ a, x = .ok a → Safe (f a)) : Safe (x >>= f) := by
  cases x with
  | ok a => exact hf a rfl
  | error e =>
    intro h
    refine hx ?_
    cases h
    rfl

lemma require : Safe (Check.require c (Exit.error e)) := by
  rw [Check.require]
  split
  · exact ok
  · exact error

lemma present {value : Option α} : Safe (Check.present value (Exit.error e)) := by
  cases value with
  | some a => exact ok
  | none => exact error

lemma get (h : index < s.length) : Safe (Span.get s index : Except (Exit ε) γ) := by
  rw [Span.get, List.getElem?_eq_getElem h]
  exact ok

lemma report {r : ε → ε'} (hx : Safe x) : Safe (Span.report r x) := by
  cases x with
  | ok a => exact ok
  | error e =>
    cases e with
    | fault => exact absurd rfl hx
    | error e => exact error

lemma attempt (hx : Safe x) : Safe (Span.attempt x : Except (Exit ε') (Option α)) := by
  cases x with
  | ok a => exact ok
  | error e =>
    cases e with
    | fault => exact absurd rfl hx
    | error e => exact ok

end Safe

/-- Every error that is reported has the property. -/
def Raises (p : ε → Prop) (x : Except (Exit ε) α) : Prop := ∀ e, x = .error (.error e) → p e

namespace Raises

variable {p : ε → Prop} {x : Except (Exit ε) α} {f : α → Except (Exit ε) β} {c : Prop}
  [Decidable c] {e : ε}

lemma ok {a : α} : Raises p (.ok a : Except (Exit ε) α) := fun _ h => by cases h

lemma fault : Raises p (.error .fault : Except (Exit ε) α) := fun _ h => by cases h

lemma error (h : p e) : Raises p (.error (.error e) : Except (Exit ε) α) := by
  rintro _ ⟨⟩
  exact h

lemma bind (hx : Raises p x) (hf : ∀ a, x = .ok a → Raises p (f a)) : Raises p (x >>= f) := by
  cases x with
  | ok a => exact hf a rfl
  | error e =>
    intro e' h
    refine hx e' ?_
    cases h
    rfl

lemma require (h : ¬ c → p e) : Raises p (Check.require c (Exit.error e)) := by
  rw [Check.require]
  split
  · exact ok
  · rename_i hc
    exact error (h hc)

lemma present {value : Option α} (h : value = none → p e) :
    Raises p (Check.present value (Exit.error e)) := by
  cases value with
  | some a => exact ok
  | none => exact error (h rfl)

lemma report {x : Except (Exit ε') α} {r : ε' → ε} (h : ∀ e, x = .error (.error e) → p (r e)) :
    Raises p (Span.report r x) := by
  cases x with
  | ok a => exact ok
  | error e =>
    cases e with
    | fault => exact fault
    | error e => exact error (h e rfl)

lemma get : Raises p (Span.get s index : Except (Exit ε) γ) := by
  rw [Span.get]
  cases s[index]? with
  | some a => exact ok
  | none => exact fault

lemma write : Raises p (Span.write s offset ys : Except (Exit ε) (List γ)) := by
  rw [Span.write]
  split
  · exact ok
  · exact fault

lemma push {capacity : ℕ} {x : γ} : Raises p (Span.push capacity s x : Except (Exit ε) (List γ)) := by
  rw [Span.push]
  split
  · exact ok
  · exact fault

end Raises

lemma Safe.read (h : offset + count ≤ s.length) :
    Safe (Span.read s offset count : Except (Exit ε) _) := by
  rw [read_eq h]
  exact ok

end Span
