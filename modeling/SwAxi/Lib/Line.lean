import Mathlib.Data.List.Basic

/-! Messages on a line. The writer puts its message on the line a piece at a time; the reader takes off pieces, none of
which goes beyond the message that it has begun. Whatever the pieces, the messages come off whole and in their order. -/

/-- How messages are marked off on a line: what a message is there, and how much a reader that has begun one asks for. -/
structure Line.Code (M α : Type) where
  encode : M → List α
  asks : List α → Nat

/-- Both ends of a line and what is between them. -/
structure Line (α : Type) where
  /-- What is still to be written of the message at hand. -/
  rest : List α := []
  transit : List α := []
  /-- What has been read of the next message. -/
  begun : List α := []
  deriving DecidableEq, Repr

namespace Line
variable {M α : Type}

/-- A reader asks for more as long as it has part of the message, and for no more than there is of it. -/
structure Code.Marks (c : Code M α) (m : M) : Prop where
  part : ∀ n < (c.encode m).length,
    0 < c.asks ((c.encode m).take n) ∧ n + c.asks ((c.encode m).take n) ≤ (c.encode m).length
  whole : c.asks (c.encode m) = 0
  nonempty : c.encode m ≠ []

def write (l : Line α) (n : Nat) : Line α := { l with rest := l.rest.drop n, transit := l.transit ++ l.rest.take n }

def read (l : Line α) (n : Nat) : Line α := { l with transit := l.transit.drop n, begun := l.begun ++ l.transit.take n }

/-- The messages have been written and not been read to their ends, in this order; the writer may have begun another. -/
structure Carries (c : Code M α) (l : Line α) (msgs : List M) (current : Option M) : Prop where
  marks : ∀ m ∈ msgs ++ current.toList, c.Marks m
  stream : ∃ done, l.begun ++ l.transit = msgs.flatMap c.encode ++ done ∧ done ++ l.rest = current.toList.flatMap c.encode
  unfinished : ∀ m, current = some m → l.rest ≠ []
  unread : ∀ m, msgs.head? = some m → l.begun.length < (c.encode m).length

variable {c : Code M α} {l : Line α} {m : M} {msgs : List M} {current : Option M} {n : Nat}

theorem carries_nothing : ({} : Line α).Carries c [] none where
  marks := by simp
  stream := ⟨[], rfl, rfl⟩
  unfinished := by simp
  unread := by simp

/-! ### The writer -/

theorem Carries.rest_eq (h : l.Carries c msgs none) : l.rest = [] := by
  obtain ⟨done, -, hrest⟩ := h.stream
  exact (List.append_eq_nil_iff.mp hrest).2

/-- The writer has a message at hand. -/
theorem Carries.start (h : l.Carries c msgs none) (hm : c.Marks m) :
    ({ l with rest := c.encode m } : Line α).Carries c msgs (some m) where
  marks := by
    intro x hx
    rcases List.mem_append.mp hx with hx | hx
    · exact h.marks x (List.mem_append_left _ hx)
    · obtain rfl : x = m := by simpa using hx
      exact hm
  stream := by
    obtain ⟨done, hstream, hrest⟩ := h.stream
    obtain ⟨rfl, -⟩ := List.append_eq_nil_iff.mp hrest
    exact ⟨[], hstream, by simp⟩
  unfinished _ _ := hm.nonempty
  unread := h.unread

theorem Carries.write (h : l.Carries c msgs (some m)) (hn : n < l.rest.length) : (l.write n).Carries c msgs (some m) where
  marks := h.marks
  stream := by
    obtain ⟨done, hstream, hrest⟩ := h.stream
    refine ⟨done ++ l.rest.take n, ?_, ?_⟩
    · rw [← List.append_assoc, ← hstream, List.append_assoc]
      rfl
    · rw [List.append_assoc, ← hrest]
      exact congrArg _ (List.take_append_drop n l.rest)
  unfinished _ _ := by
    intro hnil
    have hlen := congrArg List.length hnil
    simp only [Line.write, List.length_drop, List.length_nil] at hlen
    omega
  unread := h.unread

/-- The writer has come to the end of its message. -/
theorem Carries.written (h : l.Carries c msgs (some m)) (hn : l.rest.length ≤ n) :
    (l.write n).Carries c (msgs ++ [m]) none where
  marks := by simpa using h.marks
  stream := by
    obtain ⟨done, hstream, hrest⟩ := h.stream
    have hm : done ++ l.rest = c.encode m := by simpa using hrest
    refine ⟨[], ?_, by simp [Line.write, List.drop_of_length_le hn]⟩
    simp only [Line.write, List.take_of_length_le hn]
    rw [← List.append_assoc, hstream, List.append_assoc, hm]
    simp
  unfinished := by simp
  unread x hx := by
    cases msgs with
    | cons y rest => exact h.unread x (by simpa using hx)
    | nil =>
      -- What has been read is part of what has been written of the message.
      obtain rfl : m = x := by simpa using hx
      obtain ⟨done, hstream, hrest⟩ := h.stream
      have hle : l.begun.length ≤ done.length := by
        have hlen := congrArg List.length hstream
        simp only [List.length_append, List.flatMap_nil, List.length_nil] at hlen
        omega
      have hlt : done.length < (c.encode m).length := by
        have hlen := congrArg List.length hrest
        have hpos := List.length_pos_iff.mpr (h.unfinished m rfl)
        simp only [List.length_append, Option.toList_some, List.flatMap_singleton] at hlen
        omega
      exact Nat.lt_of_le_of_lt hle hlt

/-! ### The reader -/

/-- What the reader has begun is the beginning of the first message on the line, if not of the one at hand. -/
theorem Carries.next (h : l.Carries c msgs current) (htransit : l.transit ≠ []) :
    ∃ x, c.Marks x ∧ l.begun.length < (c.encode x).length ∧
      ((∃ rest, msgs = x :: rest ∧ c.encode x <+: l.begun ++ l.transit) ∨
        (msgs = [] ∧ current = some x ∧ l.begun ++ l.transit <+: c.encode x ∧
          (l.begun ++ l.transit).length < (c.encode x).length)) := by
  obtain ⟨done, hstream, hrest⟩ := h.stream
  cases msgs with
  | cons x rest =>
    refine ⟨x, h.marks x (by simp), h.unread x rfl, Or.inl ⟨rest, rfl, ?_⟩⟩
    rw [hstream, List.flatMap_cons, List.append_assoc]
    exact List.prefix_append _ _
  | nil =>
    cases current with
    | none =>
      obtain ⟨rfl, -⟩ := List.append_eq_nil_iff.mp hrest
      exact absurd (List.append_eq_nil_iff.mp hstream).2 htransit
    | some x =>
      have hx : done ++ l.rest = c.encode x := by simpa using hrest
      have hdone : l.begun ++ l.transit = done := by simpa using hstream
      have hlt : done.length < (c.encode x).length := by
        have hpos := List.length_pos_iff.mpr (h.unfinished x rfl)
        rw [← hx, List.length_append]
        omega
      rw [hdone]
      refine ⟨x, h.marks x (by simp), ?_, Or.inr ⟨rfl, rfl, hx ▸ List.prefix_append _ _, hlt⟩⟩
      rw [← hdone, List.length_append] at hlt
      omega

/-- There is something to be read as long as there is a message. -/
theorem Carries.transit_ne (h : l.Carries c msgs current) (hmsgs : msgs ≠ []) : l.transit ≠ [] := by
  obtain ⟨x, rest, rfl⟩ := List.exists_cons_of_ne_nil hmsgs
  obtain ⟨done, hstream, -⟩ := h.stream
  intro hnil
  have hunread := h.unread x rfl
  rw [hnil, List.append_nil] at hstream
  rw [hstream, List.flatMap_cons, List.append_assoc, List.length_append] at hunread
  omega

theorem begun_eq {x : M} (hlt : l.begun.length < (c.encode x).length)
    (h : c.encode x <+: l.begun ++ l.transit ∨ l.begun ++ l.transit <+: c.encode x) :
    l.begun = (c.encode x).take l.begun.length := by
  have hbegun : l.begun <+: l.begun ++ l.transit := List.prefix_append _ _
  rcases h with hpre | hpre
  · exact List.prefix_iff_eq_take.mp (List.prefix_of_prefix_length_le hbegun hpre (Nat.le_of_lt hlt))
  · exact List.prefix_iff_eq_take.mp (hbegun.trans hpre)

/-- The reader asks for something as long as there is something to be read. -/
theorem Carries.asks_pos (h : l.Carries c msgs current) (htransit : l.transit ≠ []) : 0 < c.asks l.begun := by
  obtain ⟨x, hx, hlt, hcase⟩ := h.next htransit
  have hbegun : l.begun = (c.encode x).take l.begun.length := by
    rcases hcase with ⟨-, -, hpre⟩ | ⟨-, -, hpre, -⟩
    · exact begun_eq hlt (Or.inl hpre)
    · exact begun_eq hlt (Or.inr hpre)
  rw [hbegun]
  exact (hx.part _ hlt).1

/-- What is read is more of the same message. -/
theorem Carries.read_begun (h : l.Carries c msgs current) (hpos : 0 < n) (hasks : n ≤ c.asks l.begun)
    (hn : n ≤ l.transit.length) :
    ∃ x, c.Marks x ∧ (l.read n).begun = (c.encode x).take (l.begun.length + n) ∧
      l.begun.length + n ≤ (c.encode x).length ∧
      ((∃ rest, msgs = x :: rest) ∨ (msgs = [] ∧ l.begun.length + n < (c.encode x).length)) := by
  have htransit : l.transit ≠ [] := List.ne_nil_of_length_pos (by omega)
  obtain ⟨x, hx, hlt, hcase⟩ := h.next htransit
  have htake : (l.read n).begun = (l.begun ++ l.transit).take (l.begun.length + n) := by
    rw [List.take_length_add_append]
    rfl
  have hbegun : l.begun = (c.encode x).take l.begun.length := by
    rcases hcase with ⟨-, -, hpre⟩ | ⟨-, -, hpre, -⟩
    · exact begun_eq hlt (Or.inl hpre)
    · exact begun_eq hlt (Or.inr hpre)
  have hle : l.begun.length + n ≤ (c.encode x).length := by
    have hpart := (hx.part _ hlt).2
    rw [← hbegun] at hpart
    omega
  have hlen : l.begun.length + n ≤ (l.begun ++ l.transit).length := by
    rw [List.length_append]
    omega
  refine ⟨x, hx, ?_, hle, ?_⟩
  · rw [htake]
    rcases hcase with ⟨-, -, hpre⟩ | ⟨-, -, hpre, -⟩
    · obtain ⟨more, hmore⟩ := hpre
      rw [← hmore, List.take_append_of_le_length hle]
    · obtain ⟨more, hmore⟩ := hpre
      rw [← hmore, List.take_append_of_le_length hlen]
  · rcases hcase with ⟨rest, heq, -⟩ | ⟨hnil, -, -, hshort⟩
    · exact Or.inl ⟨rest, heq⟩
    · exact Or.inr ⟨hnil, Nat.lt_of_le_of_lt hlen hshort⟩

theorem read_stream : (l.read n).begun ++ (l.read n).transit = l.begun ++ l.transit := by
  simp [read, List.append_assoc]

/-- The reader has not come to the end of its message. -/
theorem Carries.read (h : l.Carries c msgs current) (hpos : 0 < n) (hasks : n ≤ c.asks l.begun) (hn : n ≤ l.transit.length)
    (hmore : c.asks (l.read n).begun ≠ 0) : (l.read n).Carries c msgs current where
  marks := h.marks
  stream := by
    obtain ⟨done, hstream, hrest⟩ := h.stream
    exact ⟨done, read_stream.trans hstream, hrest⟩
  unfinished := h.unfinished
  unread y hy := by
    obtain ⟨x, hx, hbegun, hle, ⟨rest, rfl⟩ | ⟨rfl, -⟩⟩ := h.read_begun hpos hasks hn
    · obtain rfl : x = y := by simpa using hy
      rw [hbegun, List.length_take, Nat.min_eq_left hle]
      refine Nat.lt_of_le_of_ne hle fun heq => hmore ?_
      rw [hbegun, heq, List.take_length]
      exact hx.whole
    · cases hy

/-- The reader has come to the end of its message: it is the first one on the line. -/
theorem Carries.taken (h : l.Carries c msgs current) (hpos : 0 < n) (hasks : n ≤ c.asks l.begun) (hn : n ≤ l.transit.length)
    (hwhole : c.asks (l.read n).begun = 0) :
    ∃ x rest, msgs = x :: rest ∧ (l.read n).begun = c.encode x ∧
      ({ l.read n with begun := [] } : Line α).Carries c rest current := by
  obtain ⟨x, hx, hbegun, hle, hcase⟩ := h.read_begun hpos hasks hn
  -- Part of a message asks for more.
  have hlen : l.begun.length + n = (c.encode x).length := by
    refine Nat.le_antisymm hle (Nat.le_of_not_lt fun hlt => ?_)
    have hpart := (hx.part _ hlt).1
    rw [← hbegun, hwhole] at hpart
    exact absurd hpart (Nat.lt_irrefl 0)
  have hall : (l.read n).begun = c.encode x := by rw [hbegun, hlen, List.take_length]
  rcases hcase with ⟨rest, rfl⟩ | ⟨-, hlt⟩
  · refine ⟨x, rest, rfl, hall, ?_⟩
    refine { marks := fun y hy => h.marks y (List.mem_cons_of_mem _ hy), stream := ?_, unfinished := h.unfinished,
             unread := fun y hy => ?_ }
    · obtain ⟨done, hstream, hrest⟩ := h.stream
      refine ⟨done, ?_, hrest⟩
      rw [← read_stream (l := l) (n := n), hall, List.flatMap_cons, List.append_assoc] at hstream
      exact List.append_cancel_left hstream
    · have hmem : y ∈ rest := List.mem_of_mem_head? (by simpa using hy)
      have hmarks := h.marks y (List.mem_append_left _ (List.mem_cons_of_mem _ hmem))
      exact List.length_pos_iff.mpr hmarks.nonempty
  · omega

end Line
