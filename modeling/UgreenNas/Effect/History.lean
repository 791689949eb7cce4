import UgreenNas.Effect.Logs

/-! # Histories

    A component whose functions are called one after another, in any order
    and with any arguments, the context going from each call to the next.
    The environment answers anything; each call has a log of its own.

    * `History`             : the calls made, and what became of them;
    * `History.every`       : what each call shows, given an invariant of the
                              context;
    * `History.split`       : the context between two calls.
-/

namespace Effect

/-- One call: the context it found, its result, and its log. -/
structure Entry (S : Sig) (κ ι ε β : Type) where
  before : κ
  call : ι
  result : Except ε β
  log : List (Event S)

variable {S : Sig} {κ ι ε β : Type}

/-- `History perform c entries c'`: the calls of `entries`, made in the
    context `c`, may end in the context `c'`. -/
inductive History (perform : ι → Proc S κ ε β) : κ → List (Entry S κ ι ε β) → κ → Prop where
  | nil {c : κ} : History perform c [] c
  | cons {c c' c'' : κ} {call : ι} {result : Except ε β} {log : List (Event S)}
      {rest : List (Entry S κ ι ε β)} :
      Logs (perform call) c result c' log → History perform c' rest c'' →
      History perform c (⟨c, call, result, log⟩ :: rest) c''

namespace History

variable {perform : ι → Proc S κ ε β} {c c' : κ}

/-- What a call shows of the context it finds and leaves, it shows of every
    call of a history. -/
theorem every {I : κ → Prop} {P : Entry S κ ι ε β → Prop}
    (hcall : ∀ c call result c' log, I c →
      Logs (perform call) c result c' log → I c' ∧ P ⟨c, call, result, log⟩)
    {entries : List (Entry S κ ι ε β)} (h : History perform c entries c') (hc : I c) :
    I c' ∧ ∀ entry ∈ entries, P entry := by
  induction h with
  | nil => exact ⟨hc, fun _ hmem => (List.not_mem_nil hmem).elim⟩
  | cons hrun _ ih =>
    obtain ⟨hc', hfirst⟩ := hcall _ _ _ _ _ hc hrun
    obtain ⟨hlast, hrest⟩ := ih hc'
    refine ⟨hlast, ?_⟩
    intro entry hmem
    rcases List.mem_cons.mp hmem with rfl | hmem
    · exact hfirst
    · exact hrest entry hmem

/-- There is a context between two calls. -/
theorem split {first second : List (Entry S κ ι ε β)}
    (h : History perform c (first ++ second) c') :
    ∃ middle, History perform c first middle ∧ History perform middle second c' := by
  induction first generalizing c with
  | nil => exact ⟨c, .nil, h⟩
  | cons entry rest ih =>
    cases h with
    | cons hrun hrest =>
      obtain ⟨middle, hfirst, hsecond⟩ := ih hrest
      exact ⟨middle, .cons hrun hfirst, hsecond⟩

end History

end Effect
