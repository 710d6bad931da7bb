import Mathlib.Data.List.Basic

/-!
# Buffered channels

A channel that may be closed once and must not be used for sending afterwards.
An operation that would panic has no result. What receivers have taken stays in
the record, so that all that was ever sent can be read off a channel.
-/

namespace Statora.Library
variable {α : Type}

structure Channel (α : Type) where
  capacity : ℕ
  buffer : List α := []
  taken : List α := []
  closed : Bool := false
  deriving DecidableEq, Repr

namespace Channel

def make (capacity : ℕ) : Channel α := { capacity := capacity }

def sent (ch : Channel α) : List α := ch.taken ++ ch.buffer

def close (ch : Channel α) : Option (Channel α) :=
  if ch.closed then none else some { ch with closed := true }

/-- A send that does not wait: the inner `none` says that the buffer is full. -/
def trySend (ch : Channel α) (a : α) : Option (Option (Channel α)) :=
  if ch.closed then none
  else if ch.buffer.length < ch.capacity then some (some { ch with buffer := ch.buffer ++ [a] })
  else some none

def receive (ch : Channel α) : Channel α :=
  match ch.buffer with
  | [] => ch
  | a :: rest => { ch with buffer := rest, taken := ch.taken ++ [a] }

variable {ch ch' : Channel α} {a : α}

@[simp] theorem sent_make (capacity : ℕ) : (make capacity : Channel α).sent = [] := rfl

@[simp] theorem closed_make (capacity : ℕ) : (make capacity : Channel α).closed = false := rfl

theorem close_of_open (h : ch.closed = false) : ch.close = some { ch with closed := true } := by
  simp [close, h]

theorem trySend_of_open (h : ch.closed = false) :
    (∃ ch', ch.trySend a = some (some ch') ∧ ch'.sent = ch.sent ++ [a] ∧ ch'.closed = false) ∨
      ch.trySend a = some none := by
  by_cases hroom : ch.buffer.length < ch.capacity
  · refine Or.inl ⟨{ ch with buffer := ch.buffer ++ [a] }, ?_, ?_, h⟩
    · simp [trySend, h, hroom]
    · exact (List.append_assoc _ _ _).symm
  · refine Or.inr ?_
    simp [trySend, h, hroom]

@[simp] theorem sent_receive : ch.receive.sent = ch.sent := by
  simp only [receive, sent]
  cases hbuffer : ch.buffer with
  | nil => simp [hbuffer]
  | cons a rest => simp

@[simp] theorem closed_receive : ch.receive.closed = ch.closed := by
  simp only [receive]
  cases ch.buffer <;> rfl

end Channel
end Statora.Library
