/-!
Programs as trees of requests. A program says what it asks for and how it goes on after each
possible answer; who answers, and when, is left open.
-/

namespace WorkQueue

/-- A kind of requests, each with the type of its answers. -/
structure Effects where
  Request : Type
  Answer : Request → Type

inductive Program (E : Effects) (α : Type)
  | done (a : α)
  | ask (r : E.Request) (next : E.Answer r → Program E α)

namespace Program

variable {E F : Effects} {α β σ : Type}

def bind (p : Program E α) (f : α → Program E β) : Program E β :=
  match p with
  | done a => f a
  | ask r next => ask r fun x => (next x).bind f

instance : Monad (Program E) where
  pure := done
  bind := bind

def request (r : E.Request) : Program E (E.Answer r) := ask r done

def mapRequests (f : (r : E.Request) → Program F (E.Answer r)) : Program E α → Program F α
  | done a => done a
  | ask r next => (f r).bind fun x => (next x).mapRequests f

def run (answer : (r : E.Request) → σ → E.Answer r × σ) : Program E α → σ → α × σ
  | done a, s => (a, s)
  | ask r next, s =>
    let (x, s) := answer r s
    (next x).run answer s

theorem bind_done (p : Program E α) : p.bind done = p := by
  induction p with
  | done a => rfl
  | ask r next ih => simp only [bind, ih]

theorem bind_assoc {γ : Type} (p : Program E α) (f : α → Program E β) (g : β → Program E γ) :
    (p.bind f).bind g = p.bind fun a => (f a).bind g := by
  induction p with
  | done a => rfl
  | ask r next ih => simp only [bind, ih]

instance : LawfulMonad (Program E) :=
  LawfulMonad.mk' _ bind_done (fun _ _ => rfl) bind_assoc

theorem run_bind (answer : (r : E.Request) → σ → E.Answer r × σ) (p : Program E α)
    (f : α → Program E β) (s : σ) :
    (p.bind f).run answer s = (f (p.run answer s).1).run answer (p.run answer s).2 := by
  induction p generalizing s with
  | done a => rfl
  | ask r next ih => simp only [bind, run, ih]

end Program

end WorkQueue
