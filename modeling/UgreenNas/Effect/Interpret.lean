import UgreenNas.Effect.Proc

/-! # Operations that are programs themselves

    What one layer asks for as an operation, the layer below does in several
    steps of its own, and remembers something between them.

    * `interpret`    : every operation replaced by the program for it;
    * `wp_interpret` : what is shown of a program over the upper layer holds
                       of it over the lower one, if every operation does
                       below what it is said to do above;
    * `wp_simulate`  : the same for two environments of one layer.
-/

namespace Effect.Prog

variable {S T : Sig} {ρ κ τ α β : Type}

/-- `p` with `impl o` for the operation `o`. -/
def interpret (impl : (o : S.Op) → κ → Prog T (S.Ans o × κ)) : Prog S α → κ → Prog T (α × κ)
  | .pure a, c => .pure (a, c)
  | .op o k, c => (impl o c).bind fun r => (k r.1).interpret impl r.2

variable {E : Env S ρ} {F : Env T τ} {I : ρ → Prop} {J : τ → Prop} {rel : ρ → κ → τ → Prop}
  {impl : (o : S.Op) → κ → Prog T (S.Ans o × κ)}

/-- `rel` tells which state of the upper layer a state of the lower one
    stands for.  An operation has to be right only where it is in order to
    ask for it. -/
theorem wp_interpret
    (himpl : ∀ o r c t, (∀ b r', E r o b r' → I r') → rel r c t →
      wp F J (impl o c) (fun x t' => ∃ r', E r o x.1 r' ∧ rel r' x.2 t') t)
    {p : Prog S α} {Q : α → ρ → Prop} {r : ρ} {c : κ} {t : τ} (h : wp E I p Q r)
    (hrel : rel r c t) :
    wp F J (p.interpret impl c) (fun x t' => ∃ r', Q x.1 r' ∧ rel r' x.2 t') t := by
  induction p generalizing r c t with
  | pure a => exact ⟨r, h, hrel⟩
  | op o k ih =>
    rw [interpret, wp_bind]
    have hop := himpl o r c t (fun b r' hstep => (h b r' hstep).1) hrel
    apply wp_mono hop (fun _ hJ => hJ)
    intro x t' hx
    obtain ⟨r', hstep, hrel'⟩ := hx
    exact ih x.1 (h x.1 r' hstep).2 hrel'

/-- `E` does what `F` does, as far as it is asked. -/
theorem wp_simulate {F : Env S τ} {rel : ρ → τ → Prop} {bad : S.Op → Prop}
    (hstep : ∀ o r t b t', ¬ bad o → rel r t → F t o b t' → J t' ∧ ∃ r', E r o b r' ∧ rel r' t')
    {p : Prog S α} (hp : p.Avoids bad) {Q : α → ρ → Prop} {r : ρ} {t : τ} (h : wp E I p Q r)
    (hrel : rel r t) : wp F J p (fun a t' => ∃ r', Q a r' ∧ rel r' t') t := by
  induction p generalizing r t with
  | pure a => exact ⟨r, h, hrel⟩
  | op o k ih =>
    intro b t' hans
    obtain ⟨hJ, r', hE, hrel'⟩ := hstep o r t b t' hp.1 hrel hans
    exact ⟨hJ, ih b (hp.2 b) (h b r' hE).2 hrel'⟩

end Effect.Prog
