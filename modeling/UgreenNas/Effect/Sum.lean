import UgreenNas.Effect.Prog

/-! # Sums of signatures

    A program over the larger signature may call one over a part of it.
-/

namespace Effect

/-- The operations of either signature. -/
@[reducible] def Sig.sum (S T : Sig) : Sig := ⟨S.Op ⊕ T.Op, Sum.elim S.Ans T.Ans⟩

variable {S T : Sig} {σ α β : Type}

/-- The part of an environment that answers the operations on the left. -/
def Env.left (E : Env (S.sum T) σ) : Env S σ := fun s o b s' => E s (.inl o) b s'

namespace Prog

/-- A program over the left part, as one over the sum. -/
def inl : Prog S α → Prog (S.sum T) α
  | .pure a => .pure a
  | .op o k => .op (.inl o) fun b => (k b).inl

theorem inl_bind (p : Prog S α) (f : α → Prog S β) :
    (p.bind f).inl (T := T) = p.inl.bind fun a => (f a).inl := by
  induction p with
  | pure a => rfl
  | op o k ih =>
    show Prog.op _ _ = Prog.op _ _
    congr 1
    funext b
    exact ih b

theorem wp_inl {E : Env (S.sum T) σ} {I : σ → Prop} (p : Prog S α) (Q : α → σ → Prop) (s : σ) :
    wp E I p.inl Q s ↔ wp E.left I p Q s := by
  induction p generalizing s with
  | pure a => rfl
  | op o k ih =>
    constructor
    · intro h b s' hstep
      exact ⟨(h b s' hstep).1, (ih b s').mp (h b s' hstep).2⟩
    · intro h b s' hstep
      exact ⟨(h b s' hstep).1, (ih b s').mpr (h b s' hstep).2⟩

end Prog

end Effect
