import Mathlib.Data.List.Infix

/-! # Frames in a byte stream

    A stream carries its frames one after the other.  If they all have the
    same length, where one ends is known without looking at it, so a stream
    that is a prefix of another carries the first frames of the other.

    A *channel* is such a stream between a writer and a reader: everything
    written so far, and how much of it has been read.
-/

namespace Effect

variable {α : Type}

/-- Frames of one length are told apart by their positions. -/
theorem frames_prefix {n : Nat} (hn : 0 < n) {xs ys : List (List α)}
    (hxs : ∀ x ∈ xs, x.length = n) (hys : ∀ y ∈ ys, y.length = n)
    (h : xs.flatten <+: ys.flatten) : xs <+: ys := by
  induction xs generalizing ys with
  | nil => exact List.nil_prefix
  | cons x xs ih =>
    have hx : x.length = n := hxs x List.mem_cons_self
    cases ys with
    | nil =>
      have hnil := List.prefix_nil.mp h
      simp only [List.flatten_cons, List.append_eq_nil_iff] at hnil
      rw [hnil.1] at hx
      simp only [List.length_nil] at hx
      omega
    | cons y ys =>
      have hy : y.length = n := hys y List.mem_cons_self
      simp only [List.flatten_cons] at h
      obtain ⟨rest, hrest⟩ := h
      rw [List.append_assoc] at hrest
      -- the first frames have the same length, so they are the same
      obtain ⟨rfl, htail⟩ := List.append_inj hrest (hx.trans hy.symm)
      have hih := ih (fun x hx => hxs x (List.mem_cons_of_mem _ hx))
        (fun y hy => hys y (List.mem_cons_of_mem _ hy)) ⟨rest, htail⟩
      exact List.cons_prefix_cons.mpr ⟨rfl, hih⟩

/-- A prefix has the same elements at its positions. -/
theorem prefix_at {xs ys : List α} (h : xs <+: ys) {i : Nat} {x : α} (hx : xs[i]? = some x) :
    ys[i]? = some x := by
  obtain ⟨rest, rfl⟩ := h
  obtain ⟨hi, -⟩ := List.getElem?_eq_some_iff.mp hx
  rw [List.getElem?_append_left hi]
  exact hx

/-- The frame at a position. -/
theorem frame_at {n : Nat} {xs : List (List α)} (hxs : ∀ x ∈ xs, x.length = n) (rest : List α)
    {i : Nat} (hi : i < xs.length) : ((xs.flatten ++ rest).drop (n * i)).take n = xs[i] := by
  induction xs generalizing i with
  | nil => exact absurd hi (Nat.not_lt_zero i)
  | cons x xs ih =>
    have hx : x.length = n := hxs x List.mem_cons_self
    rw [List.flatten_cons, List.append_assoc]
    cases i with
    | zero =>
      rw [Nat.mul_zero, List.drop_zero, ← hx, List.take_left]
      rfl
    | succ i =>
      have hdrop : (x ++ (xs.flatten ++ rest)).drop n = xs.flatten ++ rest := by
        rw [← hx]
        exact List.drop_left
      rw [Nat.mul_succ, Nat.add_comm, ← List.drop_drop, hdrop]
      exact ih (fun y hy => hxs y (List.mem_cons_of_mem _ hy)) (Nat.lt_of_succ_lt_succ hi)

/-! ## Channels -/

/-- What has been written to a channel, and how much of it has been read. -/
structure Channel (α : Type) where
  sent : List α := []
  taken : Nat := 0

namespace Channel

/-- What has been read. -/
def received (c : Channel α) : List α := c.sent.take c.taken

/-- What is on its way. -/
def pending (c : Channel α) : List α := c.sent.drop c.taken

def put (c : Channel α) (xs : List α) : Channel α := { c with sent := c.sent ++ xs }

def take (c : Channel α) (n : Nat) : Channel α := { c with taken := c.taken + n }

@[simp] theorem put_sent (c : Channel α) (xs : List α) : (c.put xs).sent = c.sent ++ xs := rfl

@[simp] theorem put_taken (c : Channel α) (xs : List α) : (c.put xs).taken = c.taken := rfl

@[simp] theorem take_sent (c : Channel α) (n : Nat) : (c.take n).sent = c.sent := rfl

theorem put_nil (c : Channel α) : c.put [] = c := by
  unfold put
  rw [List.append_nil]

theorem received_prefix (c : Channel α) : c.received <+: c.sent := List.take_prefix _ _

/-- What is read next comes after what has been read. -/
theorem received_take (c : Channel α) {xs : List α} (h : xs <+: c.pending) :
    (c.take xs.length).received = c.received ++ xs := by
  unfold received take pending at *
  rw [List.take_add, ← List.prefix_iff_eq_take.mp h]

/-- No more has been read than was written. -/
def Sound (c : Channel α) : Prop := c.taken ≤ c.sent.length

theorem Sound.put {c : Channel α} (h : c.Sound) (xs : List α) : (c.put xs).Sound := by
  unfold Sound at *
  rw [put_sent, put_taken, List.length_append]
  omega

theorem Sound.take {c : Channel α} (h : c.Sound) {xs : List α} (hxs : xs <+: c.pending) :
    (c.take xs.length).Sound := by
  have hle := hxs.length_le
  unfold Sound pending Channel.take at *
  rw [List.length_drop] at hle
  dsimp only
  omega

/-- What was read stays read when more is written. -/
theorem Sound.received_put {c : Channel α} (h : c.Sound) (xs : List α) :
    (c.put xs).received = c.received := by
  unfold received Channel.put
  exact List.take_append_of_le_length h

end Channel

end Effect
