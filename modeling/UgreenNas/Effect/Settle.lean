import Mathlib.Data.List.Perm.Basic
import UgreenNas.Effect.Sum
import UgreenNas.Effect.Walk

/-! # Programs whose result does not depend on the answers

    An environment without a state may still answer an operation in more
    than one way.  A program is `Settled` when all of its runs return the
    result it has under one fixed way of answering.
-/

namespace Effect.Prog

variable {S : Sig} {α β ι ε : Type}

/-- The result of `p` under the handler `h`. -/
def value (h : Handler S Unit) (p : Prog S α) : α := (exec h p ()).1

section value

variable {h : Handler S Unit}

@[simp] theorem value_pure (a : α) : value h (pure a) = a := rfl

@[simp] theorem value_bind (p : Prog S α) (f : α → Prog S β) :
    value h (p >>= f) = value h (f (value h p)) := by
  unfold value
  rw [← exec_bind]
  rfl

@[simp] theorem value_call (o : S.Op) : value h (call o) = (h () o).1 := rfl

/-- A pass computes a fold of its body. -/
theorem value_walk (body : β → ι → Prog S (Except ε β)) (b : β) (l : List ι) :
    value h (walk body b l) =
      l.foldl (fun st i => st.bind fun b => value h (body b i)) (.ok b) := by
  have hleft : ∀ (e : ε) (l : List ι),
      l.foldl (fun (st : Except ε β) i => st.bind fun b => value h (body b i)) (.error e) =
        .error e := by
    intro e l
    induction l with
    | nil => rfl
    | cons i rest ih => exact ih
  induction l generalizing b with
  | nil => rfl
  | cons i rest ih =>
    show value h (body b i >>= _) = _
    rw [value_bind, List.foldl_cons]
    show _ = List.foldl _ (value h (body b i)) rest
    cases hv : value h (body b i) with
    | error e => exact (hleft e rest).symm
    | ok b' => exact ih b'

end value

/-- Every run of `p` returns what `p` returns under `h`. -/
def Settled (E : Env S Unit) (h : Handler S Unit) (p : Prog S α) : Prop :=
  wp E (fun _ => True) p (fun a _ => a = value h p) ()

section settled

variable {E : Env S Unit} {h : Handler S Unit}

theorem Settled.runs {p : Prog S α} (hp : Settled E h p) {a : α} (hrun : Runs E p () a ()) :
    a = value h p := by
  have hvalue : wp E (fun _ => True) p (fun a _ => a = value h p) () := hp
  exact @wp_runs S Unit α E _ p (fun a _ => a = value h p) () () a hvalue hrun

/-- Two runs of a settled program agree. -/
theorem Settled.agree {p : Prog S α} (hp : Settled E h p) {a b : α} (ha : Runs E p () a ())
    (hb : Runs E p () b ()) : a = b :=
  (hp.runs ha).trans (hp.runs hb).symm

theorem settled_pure (a : α) : Settled E h (pure a) := Eq.refl a

theorem Settled.bind {p : Prog S α} {f : α → Prog S β} (hp : Settled E h p)
    (hf : Settled E h (f (value h p))) : Settled E h (p >>= f) := by
  show wp E _ (p.bind f) _ ()
  rw [wp_bind]
  apply wp_mono hp (fun _ hI => hI)
  intro a s ha
  subst ha
  rw [show value h (p >>= f) = value h (f (value h p)) from value_bind p f]
  exact hf

/-- An operation with a single answer. -/
theorem settled_call {o : S.Op} (hE : ∀ b, E () o b () → b = (h () o).1) :
    Settled E h (call o) := by
  intro b s' hstep
  exact ⟨trivial, hE b hstep⟩

/-- A program over operations that all have a single answer. -/
theorem settled_inl {T : Sig} {F : Env (S.sum T) Unit} {g : Handler (S.sum T) Unit}
    (hF : ∀ o b, F () (.inl o) b () → b = (g () (.inl o)).1) (p : Prog S α) :
    Settled F g p.inl := by
  induction p with
  | pure a => exact settled_pure a
  | op o k ih =>
    intro b s' hstep
    have hb := hF o b hstep
    subst hb
    exact ⟨trivial, ih _⟩

theorem settled_walk {body : β → ι → Prog S (Except ε β)} {l : List ι}
    (hbody : ∀ b, ∀ i ∈ l, Settled E h (body b i)) (b : β) : Settled E h (walk body b l) := by
  induction l generalizing b with
  | nil => exact settled_pure _
  | cons i rest ih =>
    apply Settled.bind (hbody b i List.mem_cons_self)
    cases value h (body b i) with
    | error e => exact settled_pure _
    | ok b' => exact ih (fun b j hj => hbody b j (List.mem_cons_of_mem i hj)) b'

end settled

/-! ## The order of a pass -/

/-- Related results of a pass: both left it, or their loop states are related. -/
inductive Alike (R : β → β → Prop) : Except ε β → Except ε β → Prop where
  | error (e e' : ε) : Alike R (.error e) (.error e')
  | ok {b c : β} : R b c → Alike R (.ok b) (.ok c)

theorem Alike.trans {R : β → β → Prop} (htrans : ∀ a b c, R a b → R b c → R a c)
    {x y z : Except ε β} (hxy : Alike R x y) (hyz : Alike R y z) : Alike R x z := by
  cases hxy with
  | error e e' =>
    cases hyz with
    | error _ e'' => exact .error e e''
  | ok hab =>
    cases hyz with
    | ok hbc => exact .ok (htrans _ _ _ hab hbc)

/-- A fold whose steps may be swapped may take its list in any order. -/
theorem fold_perm {R : β → β → Prop} (hrefl : ∀ b, R b b)
    (htrans : ∀ a b c, R a b → R b c → R a c) {step : β → ι → Except ε β}
    (hstep : ∀ b c i, R b c → Alike R (step b i) (step c i))
    (hswap : ∀ b i j, Alike R ((step b i).bind (step · j)) ((step b j).bind (step · i)))
    {l l' : List ι} (hperm : l.Perm l') (b : β) :
    Alike R (l.foldl (fun st i => st.bind (step · i)) (.ok b))
      (l'.foldl (fun st i => st.bind (step · i)) (.ok b)) := by
  have hcongr : ∀ (l : List ι) (x y : Except ε β), Alike R x y →
      Alike R (l.foldl (fun st i => st.bind (step · i)) x)
        (l.foldl (fun st i => st.bind (step · i)) y) := by
    intro l
    induction l with
    | nil => exact fun x y hxy => hxy
    | cons i rest ih =>
      intro x y hxy
      apply ih
      cases hxy with
      | error e e' => exact .error e e'
      | ok hbc => exact hstep _ _ i hbc
  have hself : ∀ x : Except ε β, Alike R x x := by
    intro x
    cases x with
    | error e => exact .error e e
    | ok b => exact .ok (hrefl b)
  suffices H : ∀ x : Except ε β, Alike R (l.foldl (fun st i => st.bind (step · i)) x)
      (l'.foldl (fun st i => st.bind (step · i)) x) from H (.ok b)
  induction hperm with
  | nil => exact hself
  | cons i _ ih => exact fun x => ih _
  | swap i j l =>
    intro x
    apply hcongr l
    cases x with
    | error e => exact .error e e
    | ok b => exact hswap b j i
  | trans _ _ ih ih' => exact fun x => (ih x).trans htrans (ih' x)

end Effect.Prog
