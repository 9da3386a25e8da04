import Mathlib.Data.List.Nodup
import Mathlib.Data.List.Perm.Subperm
import Mathlib.Data.List.Range

/-! A ring of tickets, numbered as they join. A ticket joins the back as a request; when it gets to the front, it
joins the back again as a response, and when that gets to the front, it leaves. A request may be refused on its
way, and it may be dropped the first time it gets to the front, and so overtake others.

In a ring of bounded capacity, all tickets lie within a bounded distance of the last one issued. -/

namespace TicketRing

inductive Token where
  | request (ticket : Nat)
  | refused (ticket : Nat)
  | response (ticket : Nat)
  deriving DecidableEq, Repr

namespace Token

def ticket : Token → Nat
  | request p | refused p | response p => p

/-- The ticket, if it has not got to the front yet. -/
def fresh : Token → Option Nat
  | request p | refused p => some p
  | response _ => none

@[simp] theorem ticket_request (p : Nat) : (request p).ticket = p := rfl
@[simp] theorem ticket_refused (p : Nat) : (refused p).ticket = p := rfl
@[simp] theorem ticket_response (p : Nat) : (response p).ticket = p := rfl
@[simp] theorem fresh_request (p : Nat) : (request p).fresh = some p := rfl
@[simp] theorem fresh_refused (p : Nat) : (refused p).fresh = some p := rfl
@[simp] theorem fresh_response (p : Nat) : (response p).fresh = none := rfl

theorem fresh_eq_some {t : Token} {p : Nat} (h : t.fresh = some p) : t.ticket = p := by
  cases t with
  | request q => simpa using h
  | refused q => simpa using h
  | response q => cases h

end Token

end TicketRing

open TicketRing (Token)

structure TicketRing where
  /-- Front to back. -/
  tokens : List Token := []
  /-- The next ticket to get to the front for the first time. -/
  front : Nat := 0
  /-- The next ticket to join. -/
  issued : Nat := 0

namespace TicketRing
variable (capacity : Nat)

inductive Step : TicketRing → TicketRing → Prop where
  | stay (r) : Step r r
  | issue (r) (hroom : r.tokens.length < capacity) :
      Step r { r with tokens := r.tokens ++ [.request r.issued], issued := r.issued + 1 }
  | refuse (r) (ahead behind : List Token) (p : Nat) (h : r.tokens = ahead ++ .request p :: behind) :
      Step r { r with tokens := ahead ++ .refused p :: behind }
  | serve (r) (p : Nat) (rest : List Token) (h : r.tokens = .request p :: rest) :
      Step r { r with tokens := rest ++ [.response p], front := r.front + 1 }
  | drop (r) (t : Token) (p : Nat) (rest : List Token) (h : r.tokens = t :: rest) (ht : t.fresh = some p) :
      Step r { r with tokens := rest, front := r.front + 1 }
  | leave (r) (p : Nat) (rest : List Token) (h : r.tokens = .response p :: rest) : Step r { r with tokens := rest }

/-- Behind every response there are all tickets from some point on, which is not far from its own. -/
def Spaced (issued : Nat) : List Token → Prop
  | [] => True
  | t :: rest => (∀ p, t = .response p → ∃ c ≤ p + capacity, ∀ q, c ≤ q → q < issued → q ∈ rest.map Token.ticket) ∧
      Spaced issued rest

structure Inv (r : TicketRing) : Prop where
  room : r.tokens.length ≤ capacity
  front_le : r.front ≤ r.issued
  /-- The tickets that are to get to the front for the first time are in order, and none is missing. -/
  fresh : r.tokens.filterMap Token.fresh = List.range' r.front (r.issued - r.front)
  returned : ∀ p, .response p ∈ r.tokens → p < r.front
  nodup : (r.tokens.map Token.ticket).Nodup
  spaced : Spaced capacity r.issued r.tokens

variable {capacity} {r r' : TicketRing} {issued issued' : Nat}

/-! ### Spacing -/

theorem Spaced.snoc {tokens : List Token} {t : Token} (h : Spaced capacity issued tokens)
    (hlast : ∀ p, t = .response p → issued' ≤ p + capacity) (hissued : ∀ q < issued', q < issued ∨ q = t.ticket) :
    Spaced capacity issued' (tokens ++ [t]) := by
  induction tokens with
  | nil =>
    refine ⟨fun p hp => ⟨issued', hlast p hp, fun q hq hlt => ?_⟩, trivial⟩
    exact absurd hlt (Nat.not_lt.mpr hq)
  | cons x rest ih =>
    obtain ⟨hx, hrest⟩ := h
    rw [List.cons_append]
    refine ⟨fun p hp => ?_, ih hrest⟩
    obtain ⟨c, hc, hbehind⟩ := hx p hp
    refine ⟨c, hc, fun q hcq hq => ?_⟩
    rw [List.map_append, List.mem_append]
    rcases hissued q hq with hq | rfl
    · exact Or.inl (hbehind q hcq hq)
    · exact Or.inr (List.mem_singleton_self _)

theorem Spaced.refuse {ahead behind : List Token} {p : Nat}
    (h : Spaced capacity issued (ahead ++ .request p :: behind)) :
    Spaced capacity issued (ahead ++ .refused p :: behind) := by
  induction ahead with
  | nil => exact ⟨fun q hq => (nomatch hq), h.2⟩
  | cons x rest ih =>
    refine ⟨fun q hq => ?_, ih h.2⟩
    obtain ⟨c, hc, hbehind⟩ := h.1 q hq
    exact ⟨c, hc, by simpa using hbehind⟩

/-! ### The invariant -/

theorem Inv.empty : Inv capacity {} where
  room := Nat.zero_le _
  front_le := le_rfl
  fresh := rfl
  returned _ hp := nomatch hp
  nodup := List.nodup_nil
  spaced := trivial

theorem Inv.fresh_mem (h : r.Inv capacity) {p : Nat} :
    p ∈ r.tokens.filterMap Token.fresh ↔ r.front ≤ p ∧ p < r.issued := by
  rw [h.fresh, List.mem_range'_1]
  have hle := h.front_le
  omega

/-- A ticket in the ring has been issued. -/
theorem Inv.ticket_lt (h : r.Inv capacity) {t : Token} (ht : t ∈ r.tokens) : t.ticket < r.issued := by
  cases hf : t.fresh with
  | none =>
    cases t with
    | response p => exact lt_of_lt_of_le (h.returned p ht) h.front_le
    | request p => cases hf
    | refused p => cases hf
  | some p =>
    rw [Token.fresh_eq_some hf]
    exact (h.fresh_mem.mp (List.mem_filterMap.mpr ⟨t, ht, hf⟩)).2

/-- The token at the front that gets there for the first time has the ticket that is next. -/
theorem Inv.head_fresh (h : r.Inv capacity) {t : Token} {rest : List Token} (hr : r.tokens = t :: rest) {p : Nat}
    (ht : t.fresh = some p) : p = r.front ∧ r.front < r.issued ∧
      rest.filterMap Token.fresh = List.range' (r.front + 1) (r.issued - (r.front + 1)) := by
  have hfresh := h.fresh
  rw [hr, List.filterMap_cons_some ht] at hfresh
  cases hn : r.issued - r.front with
  | zero =>
    rw [hn] at hfresh
    cases hfresh
  | succ n =>
    rw [hn, List.range'_succ] at hfresh
    obtain ⟨hp, hrest⟩ := List.cons.inj hfresh
    exact ⟨hp, by omega, by rw [hrest, show r.issued - (r.front + 1) = n by omega]⟩

theorem Inv.fresh_length_le (h : r.Inv capacity) : r.issued - r.front ≤ r.tokens.length := by
  have hlen := List.length_filterMap_le Token.fresh r.tokens
  rwa [h.fresh, List.length_range'] at hlen

theorem Inv.step (h : r.Inv capacity) (hs : Step capacity r r') : r'.Inv capacity := by
  cases hs with
  | stay => exact h
  | issue hroom =>
    have hle := h.front_le
    refine ⟨by simpa using Nat.succ_le_of_lt hroom, by simp only; omega, ?_, fun p hp => ?_, ?_, ?_⟩
    · simp only [List.filterMap_append, h.fresh, List.filterMap_cons_some (Token.fresh_request _), List.filterMap_nil]
      rw [show r.issued + 1 - r.front = r.issued - r.front + 1 by omega, List.range'_concat]
      simp [Nat.add_sub_cancel' hle]
    · exact h.returned p (by simpa using hp)
    · -- The new ticket lies beyond all others.
      rw [List.map_append]
      refine List.nodup_append.mpr ⟨h.nodup, List.nodup_singleton _, fun a ha b hb => ?_⟩
      obtain ⟨t, ht, rfl⟩ := List.mem_map.mp ha
      rw [List.mem_singleton.mp hb]
      exact Nat.ne_of_lt (h.ticket_lt ht)
    · exact h.spaced.snoc (fun p hp => nomatch hp) fun q hq => Nat.lt_succ_iff_lt_or_eq.mp hq
  | refuse ahead behind p hr =>
    obtain ⟨hroom, hle, hfresh, hreturned, hnodup, hspaced⟩ := h
    rw [hr] at hroom hfresh hreturned hnodup hspaced
    refine ⟨by simpa using hroom, hle, ?_, fun q hq => hreturned q (by simpa using hq), ?_, hspaced.refuse⟩
    · simpa [List.filterMap_append] using hfresh
    · simpa using hnodup
  | serve p rest hr =>
    obtain ⟨rfl, hlt, hrest⟩ := h.head_fresh hr (Token.fresh_request p)
    have hfew := h.fresh_length_le
    obtain ⟨hroom, hle, -, hreturned, hnodup, hspaced⟩ := h
    rw [hr] at hroom hreturned hnodup hspaced hfew
    refine ⟨by simpa using hroom, hlt, ?_, fun q hq => ?_, ?_, ?_⟩
    · simp [List.filterMap_append, hrest]
    · rcases List.mem_append.mp hq with hq | hq
      · exact Nat.lt_succ_of_lt (hreturned q (List.mem_cons_of_mem _ hq))
      · cases List.mem_singleton.mp hq
        exact Nat.lt_succ_self _
    · have hperm : ((rest ++ [Token.response r.front]).map Token.ticket).Perm
          ((.request r.front :: rest).map Token.ticket) := by
        rw [List.map_append]
        exact List.perm_append_comm
      exact hperm.nodup_iff.mpr hnodup
    · -- All tickets from the front on are still in the ring.
      refine hspaced.2.snoc (fun q hq => ?_) fun q hq => Or.inl hq
      cases hq
      simp only
      omega
  | drop t p rest hr ht =>
    obtain ⟨rfl, hlt, hrest⟩ := h.head_fresh hr ht
    obtain ⟨hroom, hle, -, hreturned, hnodup, hspaced⟩ := h
    rw [hr] at hroom hreturned hnodup hspaced
    refine ⟨Nat.le_of_succ_le hroom, hlt, hrest, fun q hq => ?_, (List.nodup_cons.mp hnodup).2, hspaced.2⟩
    exact Nat.lt_succ_of_lt (hreturned q (List.mem_cons_of_mem _ hq))
  | leave p rest hr =>
    obtain ⟨hroom, hle, hfresh, hreturned, hnodup, hspaced⟩ := h
    rw [hr] at hroom hfresh hreturned hnodup hspaced
    refine ⟨Nat.le_of_succ_le hroom, hle, ?_, fun q hq => ?_, (List.nodup_cons.mp hnodup).2, hspaced.2⟩
    · rwa [List.filterMap_cons_none (Token.fresh_response p)] at hfresh
    · exact hreturned q (List.mem_cons_of_mem _ hq)

/-! ### Distances -/

theorem length_of_covers {l : List Nat} {c n : Nat} (h : ∀ q, c ≤ q → q < n → q ∈ l) : n - c ≤ l.length := by
  have hsub : List.range' c (n - c) ⊆ l := fun q hq => by
    obtain ⟨hle, hlt⟩ := List.mem_range'_1.mp hq
    exact h q hle (by omega)
  simpa using (List.subperm_of_subset List.nodup_range' hsub).length_le

theorem Spaced.near {tokens : List Token} (h : Spaced capacity issued tokens) {p : Nat}
    (hp : .response p ∈ tokens) : issued ≤ p + capacity + tokens.length := by
  induction tokens with
  | nil => cases hp
  | cons t rest ih =>
    rcases List.mem_cons.mp hp with rfl | hp
    · obtain ⟨c, hc, hbehind⟩ := h.1 p rfl
      have hlen := length_of_covers hbehind
      rw [List.length_map] at hlen
      simp only [List.length_cons]
      omega
    · have hrest := ih h.2 hp
      simp only [List.length_cons]
      omega

/-- No ticket in the ring is far behind the last one issued. -/
theorem Inv.near (h : r.Inv capacity) {t : Token} (ht : t ∈ r.tokens) : r.issued ≤ t.ticket + 2 * capacity := by
  have hroom := h.room
  cases hf : t.fresh with
  | none =>
    cases t with
    | response p =>
      have hnear := h.spaced.near ht
      simp only [Token.ticket_response]
      omega
    | request p => cases hf
    | refused p => cases hf
  | some p =>
    rw [Token.fresh_eq_some hf]
    have hfew := h.fresh_length_le
    have hp := (h.fresh_mem.mp (List.mem_filterMap.mpr ⟨t, ht, hf⟩)).1
    omega

end TicketRing
