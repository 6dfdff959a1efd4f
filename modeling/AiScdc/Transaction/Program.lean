import Mathlib.Logic.Function.Basic
import Mathlib.Tactic

namespace Transaction

variable {K : Type}

abbrev Db (V : K → Type) := ∀ k, V k

structure World (V : K → Type) where
  db : Db V
  next : ℕ

class Schema (V : K → Type) where
  rowEq : ∀ k, DecidableEq (V k)
  merge : ∀ k, V k → V k → V k → V k
  merge_loaded : ∀ k loaded new, merge k loaded new loaded = new

instance (V : K → Type) [s : Schema V] (k : K) : DecidableEq (V k) := s.rowEq k

structure Write (V : K → Type) (k : K) where
  loaded : V k
  value : V k

abbrev Pending (V : K → Type) := ∀ k, Option (Write V k)

namespace Pending

variable {V : K → Type}

def empty : Pending V := fun _ => none

def view (p : Pending V) (db : Db V) : Db V := fun k =>
  match p k with
  | some w => w.value
  | none => db k

@[simp] theorem view_empty (db : Db V) : (empty : Pending V).view db = db := rfl

@[simp] theorem empty_apply (k : K) : (empty : Pending V) k = none := rfl

theorem view_of_none {p : Pending V} {k : K} (h : p k = none) (db : Db V) :
    p.view db k = db k := by simp [view,h]

theorem view_of_some {p : Pending V} {k : K} {w : Write V k} (h : p k = some w) (db : Db V) :
    p.view db k = w.value := by simp [view,h]

section

variable [DecidableEq K]

-- The version a transaction first loaded stays with the row until its commit.
def put (p : Pending V) (k : K) (loaded value : V k) : Pending V :=
  Function.update p k (some ⟨((p k).map Write.loaded).getD loaded,value⟩)

@[simp] theorem view_put_self (p : Pending V) (k : K) (l v : V k) (db : Db V) :
    (p.put k l v).view db k = v := by simp [view,put]

theorem view_put_ne (p : Pending V) {k k' : K} (l v : V k) (db : Db V) (h : k' ≠ k) :
    (p.put k l v).view db k' = p.view db k' := by simp [view,put,h]

theorem put_ne (p : Pending V) {k k' : K} (l v : V k) (h : k' ≠ k) :
    p.put k l v k' = p k' := by simp [put,h]

theorem put_self (p : Pending V) (k : K) (l v : V k) :
    p.put k l v k = some ⟨((p k).map Write.loaded).getD l,v⟩ := by simp [put]

end

end Pending

inductive Prog (V : K → Type) (T ε α : Type) : Type
  | pure (a : α)
  | throw (e : ε)
  | utcNow (k : T → Prog V T ε α)
  | freshId (k : ℕ → Prog V T ε α)
  | select (k : Db V → ℕ → Prog V T ε α)
  | update (key : K) (guard : V key → Bool) (set : V key → V key) (k : Bool → Prog V T ε α)
  | flush (key : K) (loaded new : V key) (k : Prog V T ε α)
  | commit (k : Prog V T ε α)
  | rollback (k : Prog V T ε α)

namespace Prog

variable {V : K → Type} {T ε α β : Type}

def bind : Prog V T ε α → (α → Prog V T ε β) → Prog V T ε β
  | .pure a, f => f a
  | .throw e, _ => .throw e
  | .utcNow k, f => .utcNow fun t => (k t).bind f
  | .freshId k, f => .freshId fun n => (k n).bind f
  | .select k, f => .select fun db n => (k db n).bind f
  | .update key g s k, f => .update key g s fun b => (k b).bind f
  | .flush key l n k, f => .flush key l n (k.bind f)
  | .commit k, f => .commit (k.bind f)
  | .rollback k, f => .rollback (k.bind f)

def handle : Prog V T ε α → (ε → Prog V T ε α) → Prog V T ε α
  | .pure a, _ => .pure a
  | .throw e, h => h e
  | .utcNow k, h => .utcNow fun t => (k t).handle h
  | .freshId k, h => .freshId fun n => (k n).handle h
  | .select k, h => .select fun db n => (k db n).handle h
  | .update key g s k, h => .update key g s fun b => (k b).handle h
  | .flush key l n k, h => .flush key l n (k.handle h)
  | .commit k, h => .commit (k.handle h)
  | .rollback k, h => .rollback (k.handle h)

instance : Monad (Prog V T ε) where
  pure := Prog.pure
  bind := Prog.bind

instance : MonadExcept ε (Prog V T ε) where
  throw := Prog.throw
  tryCatch := Prog.handle

theorem bind_pure (p : Prog V T ε α) : p.bind Prog.pure = p := by
  induction p with
  | pure a => rfl
  | throw e => rfl
  | utcNow k ih => simp only [bind,ih]
  | freshId k ih => simp only [bind,ih]
  | select k ih => simp only [bind,ih]
  | update key g s k ih => simp only [bind,ih]
  | flush key l n k ih => simp only [bind,ih]
  | commit k ih => simp only [bind,ih]
  | rollback k ih => simp only [bind,ih]

theorem bind_assoc {γ : Type} (p : Prog V T ε α) (f : α → Prog V T ε β) (g : β → Prog V T ε γ) :
    (p.bind f).bind g = p.bind fun a => (f a).bind g := by
  induction p with
  | pure a => rfl
  | throw e => rfl
  | utcNow k ih => simp only [bind,ih]
  | freshId k ih => simp only [bind,ih]
  | select k ih => simp only [bind,ih]
  | update key g s k ih => simp only [bind,ih]
  | flush key l n k ih => simp only [bind,ih]
  | commit k ih => simp only [bind,ih]
  | rollback k ih => simp only [bind,ih]

instance : LawfulMonad (Prog V T ε) :=
  LawfulMonad.mk' _ (fun p => bind_pure p) (fun _ _ => rfl) bind_assoc

end Prog

end Transaction
