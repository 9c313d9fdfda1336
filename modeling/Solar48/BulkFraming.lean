/-
**Messages in packets of bounded length.**

A message is sent as full packets and one short one behind them, which may be empty: the short
packet is how the receiver knows where the message ends.  So a sequence of messages can be told from
its packets, and what was received at any time is known from what was sent.

Main definitions:

* `BulkFraming.packets` — the packets of a message;
* `BulkFraming.Receiver`, `BulkFraming.receive` — the messages of a sequence of packets, and the
  part of one that has no end yet.

Main results:

* `BulkFraming.packets_of_lt`, `BulkFraming.packets_of_ge` — the packets one after the other;
* `BulkFraming.receive_flatMap_packets` — **messages are received as they were sent**;
* `BulkFraming.receive_initial` — and at any time before the end those that have an end.
-/

import Mathlib.Data.List.Induction

set_option relaxedAutoImplicit false
set_option autoImplicit false

namespace BulkFraming

variable {α : Type*} {mps : ℕ}

/-! ### Packets -/

/-- The packets of a message: full ones, and a short one at its end. -/
def packets (mps : ℕ) (message : List α) : List (List α) :=
  (List.range (message.length / mps)).map (fun k => (message.drop (k * mps)).take mps) ++
    [message.drop (message.length / mps * mps)]

/-- A message shorter than a packet. -/
theorem packets_of_lt {message : List α} (h : message.length < mps) :
    packets mps message = [message] := by
  rw [packets, Nat.div_eq_of_lt h, Nat.zero_mul, List.drop_zero]
  rfl

@[simp] theorem packets_nil (h : 0 < mps) : packets mps ([] : List α) = [[]] := packets_of_lt h

/-- A longer one begins with a full packet. -/
theorem packets_of_ge {message : List α} (hpos : 0 < mps) (h : mps ≤ message.length) :
    packets mps message = message.take mps :: packets mps (message.drop mps) := by
  have hdiv : message.length / mps = (message.drop mps).length / mps + 1 := by
    rw [List.length_drop, ← Nat.add_div_right _ hpos, Nat.sub_add_cancel h]
  have hdrop : ∀ k, message.drop ((k + 1) * mps) = (message.drop mps).drop (k * mps) := by
    intro k
    rw [List.drop_drop, Nat.succ_mul, Nat.add_comm]
  rw [packets, packets, hdiv, List.range_succ_eq_map, List.map_cons, List.map_map, hdrop,
    Nat.zero_mul, List.drop_zero, List.cons_append]
  simp only [Function.comp_def, Nat.succ_eq_add_one, hdrop]

theorem length_packets (message : List α) :
    (packets mps message).length = message.length / mps + 1 := by
  rw [packets, List.length_append, List.length_map, List.length_range, List.length_singleton]

/-! ### The receiver -/

/-- What has been received: the messages that ended, and the beginning of the next one. -/
structure Receiver (α : Type*) where
  pending : List α
  messages : List (List α)

namespace Receiver

/-- A packet is received. -/
def take (mps : ℕ) (r : Receiver α) (packet : List α) : Receiver α :=
  if packet.length < mps then ⟨[], r.messages ++ [r.pending ++ packet]⟩
  else ⟨r.pending ++ packet, r.messages⟩

theorem take_of_lt {r : Receiver α} {packet : List α} (h : packet.length < mps) :
    r.take mps packet = ⟨[], r.messages ++ [r.pending ++ packet]⟩ := if_pos h

theorem take_of_ge {r : Receiver α} {packet : List α} (h : mps ≤ packet.length) :
    r.take mps packet = ⟨r.pending ++ packet, r.messages⟩ := if_neg (Nat.not_lt.2 h)

/-- Everything that was received, without the bounds. -/
def content (r : Receiver α) : List α := r.messages.flatten ++ r.pending

theorem content_take (r : Receiver α) (packet : List α) :
    (r.take mps packet).content = r.content ++ packet := by
  unfold take content
  split
  · rw [List.append_nil, List.flatten_append, List.flatten_singleton, List.append_assoc]
  · rw [List.append_assoc]

theorem messages_prefix_take (r : Receiver α) (packet : List α) :
    r.messages <+: (r.take mps packet).messages := by
  unfold take
  split
  · exact List.prefix_append _ _
  · exact List.prefix_rfl

theorem content_foldl_take (mps : ℕ) (r : Receiver α) (ps : List (List α)) :
    (ps.foldl (take mps) r).content = r.content ++ ps.flatten := by
  induction ps generalizing r with
  | nil => rw [List.foldl_nil, List.flatten_nil, List.append_nil]
  | cons p ps ih => rw [List.foldl_cons, ih, content_take, List.flatten_cons, List.append_assoc]

theorem messages_prefix_foldl_take (mps : ℕ) (r : Receiver α) (ps : List (List α)) :
    r.messages <+: (ps.foldl (take mps) r).messages := by
  induction ps generalizing r with
  | nil => exact List.prefix_rfl
  | cons p ps ih => exact (messages_prefix_take r p).trans (ih _)

/-- **The packets of a message end the message.** -/
theorem foldl_take_packets (hpos : 0 < mps) (r : Receiver α) (message : List α) :
    (packets mps message).foldl (take mps) r =
      ⟨[], r.messages ++ [r.pending ++ message]⟩ := by
  obtain ⟨n, hn⟩ : ∃ n, message.length = n := ⟨_, rfl⟩
  induction n using Nat.strongRecOn generalizing r message with
  | ind n ih =>
      rcases Nat.lt_or_ge message.length mps with hlt | hge
      · rw [packets_of_lt hlt, List.foldl_cons, List.foldl_nil, take_of_lt hlt]
      · have hfull : mps ≤ (message.take mps).length := by
          rw [List.length_take]
          omega
        have hrest : (message.drop mps).length < n := by
          rw [List.length_drop]
          omega
        rw [packets_of_ge hpos hge, List.foldl_cons, take_of_ge hfull, ih _ hrest _ _ rfl]
        rw [List.append_assoc, List.take_append_drop]

end Receiver

/-- What has been received, in all. -/
def receive (mps : ℕ) (ps : List (List α)) : Receiver α := ps.foldl (Receiver.take mps) ⟨[], []⟩

theorem receive_append (ps qs : List (List α)) :
    receive mps (ps ++ qs) = qs.foldl (Receiver.take mps) (receive mps ps) := List.foldl_append

/-- **Messages are received as they were sent.** -/
theorem receive_flatMap_packets (hpos : 0 < mps) (messages : List (List α)) :
    receive mps (messages.flatMap (packets mps)) = ⟨[], messages⟩ := by
  induction messages using List.reverseRecOn with
  | nil => rfl
  | append_singleton messages m ih =>
      rw [List.flatMap_append, List.flatMap_singleton, receive_append, ih,
        Receiver.foldl_take_packets hpos, List.nil_append]

/-- **At any time**: the messages received are the first ones that were sent, and the rest of what
was received is the beginning of the next. -/
theorem receive_initial (hpos : 0 < mps) {ps qs : List (List α)} {messages : List (List α)}
    (h : ps ++ qs = messages.flatMap (packets mps)) :
    (receive mps ps).messages <+: messages ∧ (receive mps ps).content <+: messages.flatten := by
  have hall := receive_flatMap_packets hpos messages
  rw [← h, receive_append] at hall
  refine ⟨?_, ⟨qs.flatten, ?_⟩⟩
  · have hinitial := Receiver.messages_prefix_foldl_take mps (receive mps ps) qs
    rwa [hall] at hinitial
  · rw [← Receiver.content_foldl_take mps, hall, Receiver.content, List.append_nil]

end BulkFraming
