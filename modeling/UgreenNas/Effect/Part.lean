import UgreenNas.Effect.Logs

/-! # Procedures of a part

    A component that is built from others asks for what its parts ask for,
    under names of its own.  A procedure of a part is then one of the whole,
    and what it writes down is written down under those names.
-/

namespace Effect

/-- The operations of `S` as operations of `T`, with the same answers. -/
structure Part (S T : Sig) where
  op : S.Op → T.Op
  ans : ∀ o, T.Ans (op o) → S.Ans o
  back : ∀ o, S.Ans o → T.Ans (op o)
  back_ans : ∀ o b, back o (ans o b) = b

variable {S T : Sig} {κ ε δ α β : Type}

namespace Part

/-- What is written down for an operation of the part. -/
def event (part : Part S T) (e : Event S) : Event T := ⟨part.op e.1, part.back e.1 e.2⟩

def events (part : Part S T) (log : List (Event S)) : List (Event T) := log.map part.event

@[simp] theorem events_nil (part : Part S T) : part.events [] = [] := rfl

@[simp] theorem events_cons (part : Part S T) (e : Event S) (log : List (Event S)) :
    part.events (e :: log) = part.event e :: part.events log := rfl

@[simp] theorem events_append (part : Part S T) (log log' : List (Event S)) :
    part.events (log ++ log') = part.events log ++ part.events log' :=
  List.map_append

theorem mem_events {part : Part S T} {log : List (Event S)} {e : Event T} :
    e ∈ part.events log ↔ ∃ e' ∈ log, part.event e' = e :=
  List.mem_map

end Part

namespace Prog

/-- A program over a part, as one over the whole. -/
def via (part : Part S T) : Prog S α → Prog T α
  | .pure a => .pure a
  | .op o k => .op (part.op o) fun b => (k (part.ans o b)).via part

/-- The whole writes down what the part would. -/
theorem runs_via {part : Part S T} {p : Prog S α} {a : α} {log : List (Event S)}
    {log' : List (Event T)} (h : Runs (recorded T) (p.via part) (part.events log) a log') :
    ∃ new, log' = part.events new ∧ Runs (recorded S) p log a new := by
  induction p generalizing log with
  | pure _ =>
    cases h
    exact ⟨log, rfl, .pure⟩
  | op o k ih =>
    cases h with
    | @op _ _ _ s' _ b _ hstep hrest =>
      have hs' : s' = part.events (log ++ [⟨o, part.ans o b⟩]) := by
        rw [show s' = part.events log ++ [⟨part.op o, b⟩] from hstep, Part.events_append]
        show _ = _ ++ [part.event ⟨o, part.ans o b⟩]
        unfold Part.event
        rw [part.back_ans]
      rw [hs'] at hrest
      obtain ⟨new, hnew, hruns⟩ := ih (part.ans o b) hrest
      have hwrite : recorded S log o (part.ans o b) (log ++ [⟨o, part.ans o b⟩]) := rfl
      exact ⟨new, hnew, .op hwrite hruns⟩

theorem avoids_via {part : Part S T} {bad : S.Op → Prop} {worse : T.Op → Prop} {p : Prog S α}
    (hp : p.Avoids bad) (hbad : ∀ o, worse (part.op o) → bad o) : (p.via part).Avoids worse := by
  induction p with
  | pure a => trivial
  | op o k ih => exact ⟨fun hworse => hp.1 (hbad o hworse), fun b => ih _ (hp.2 _)⟩

end Prog

namespace Proc

/-- A procedure over a part, as one over the whole. -/
def via (part : Part S T) (m : Proc S κ ε α) : Proc T κ ε α := fun c => (m c).via part

theorem Asks.via {part : Part S T} {P : S.Op → Prop} {Q : T.Op → Prop} {m : Proc S κ ε α}
    (hm : Asks P m) (hPQ : ∀ o, P o → Q (part.op o)) : Asks Q (m.via part) :=
  fun c => Prog.avoids_via (hm c) fun o hQ hP => hQ (hPQ o hP)

end Proc

namespace Logs

open Proc

theorem of_via {part : Part S T} {m : Proc S κ ε α} {c c' : κ} {r : Except ε α}
    {log : List (Event T)} (h : Logs (m.via part) c r c' log) :
    ∃ new, log = part.events new ∧ Logs m c r c' new := by
  have hruns : Prog.Runs (recorded T) ((m.run c).via part) (part.events []) (r, c') log := h
  exact Prog.runs_via hruns

/-- A failure is the translation of one. -/
theorem of_translated {m : Proc S κ ε α} {g : ε → δ} {c c' : κ} {r : Except δ α}
    {log : List (Event S)} (h : Logs (mapError m g) c r c' log) :
    ∃ x, r = x.mapError g ∧ Logs m c x c' log := by
  cases r with
  | ok a => exact ⟨.ok a, rfl, h.of_mapError⟩
  | error d =>
    obtain ⟨⟨x, c₁⟩, log₁, hfirst, hrest⟩ := Prog.Runs.of_bind h
    cases x with
    | ok a => cases hrest
    | error e =>
      cases hrest
      exact ⟨.error e, rfl, hfirst⟩

/-- A result that was there, or a failure. -/
theorem of_lift_cases {x : Except ε α} {f : α → Proc S κ ε β} {c c' : κ} {r : Except ε β}
    {log : List (Event S)} (h : Logs (lift x >>= f) c r c' log) :
    (∃ a, x = .ok a ∧ Logs (f a) c r c' log) ∨ ((∃ e, r = .error e) ∧ log = []) := by
  cases x with
  | ok a => exact .inl ⟨a, rfl, h⟩
  | error e =>
    obtain ⟨rfl, -, rfl⟩ := Logs.of_fail (e := e) h
    exact .inr ⟨⟨e, rfl⟩, rfl⟩

end Logs

end Effect
