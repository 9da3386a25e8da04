import SwAxi.Streams
import SwAxi.Closedown
import SwAxi.Lib.Simulation

/-! The system over streams of bytes refines the one over sockets of messages: however the calls of `write` and `read`
cut up the bytes, as long as none of them splits a size at the C++ end, the processes do nothing that they could not do
if every message went through its socket in one piece. -/

namespace SwAxi
open Wire (Flatbuffers Streamed)
open Wire.Flatbuffers (getRoot)
open Wire.Streamed (bytesOf messageOf)
open Transition

/-! ### Messages on a line -/

section
variable {Buf : Type} [Streamed Buf] {line line' : Line UInt8} {msgArr : Buf} {msgs : List Buf} {n : Nat}

theorem length_frame : (frame msgArr).length = 8 + (bytesOf msgArr).length := by simp [frame]

theorem drop_frame : (frame msgArr).drop 8 = bytesOf msgArr := rfl

theorem declared_frame (h : Portable msgArr) (k : Nat) :
    declared ((frame msgArr).take (8 + k)) = (bytesOf msgArr).length := by
  have hsize : ((frame msgArr).take (8 + k)).take 8 = putUint64 (UInt64.ofNat (bytesOf msgArr).length) := by
    rw [List.take_take, Nat.min_eq_left (Nat.le_add_right 8 k)]
    rfl
  rw [declared, hsize]
  exact getUint64_size ⟨bytesOf msgArr, h.1⟩

/-- The size in front of a message marks it off. -/
theorem Portable.marks (h : Portable msgArr) : (code : Line.Code Buf UInt8).Marks msgArr where
  part n hn := by
    change n < (frame msgArr).length at hn
    change 0 < missing ((frame msgArr).take n) ∧ n + missing ((frame msgArr).take n) ≤ (frame msgArr).length
    have hlen : ((frame msgArr).take n).length = n := by
      rw [List.length_take, Nat.min_eq_left (Nat.le_of_lt hn)]
    rw [length_frame] at hn
    rw [missing, hlen, length_frame]
    split
    · omega
    · obtain ⟨k, rfl⟩ : ∃ k, n = 8 + k := ⟨n - 8, by omega⟩
      rw [declared_frame h]
      omega
  whole := by
    change missing (frame msgArr) = 0
    have hall : (frame msgArr).take (8 + (bytesOf msgArr).length) = frame msgArr := by
      rw [← length_frame, List.take_length]
    have hdeclared := declared_frame h (bytesOf msgArr).length
    rw [hall] at hdeclared
    rw [missing, hdeclared, length_frame, if_neg (by omega)]
    omega
  nonempty := List.ne_nil_of_length_pos (by
    change 0 < (frame msgArr).length
    rw [length_frame]
    omega)

/-- The messages are on the line, and one that is being written is at the writer's hand. -/
def Carried (line : Line UInt8) (msgs : List Buf) (writing : Buf → Prop) : Prop :=
  ∃ current, line.Carries code msgs current ∧ (∀ m ∈ msgs ++ current.toList, Portable m) ∧
    ∀ m, current = some m → writing m

theorem carried_nothing (writing : Buf → Prop) : Carried {} [] writing :=
  ⟨none, Line.carries_nothing, by simp, by simp⟩

/-- The writer takes up its message, or is at it. -/
theorem Carried.hold {writing : Buf → Prop} (h : Carried line msgs writing) (hm : Portable msgArr)
    (hwriting : ∀ m, writing m → m = msgArr) :
    (hold line msgArr).Carries code msgs (some msgArr) ∧ ∀ m ∈ msgs ++ [msgArr], Portable m := by
  obtain ⟨current, hcarries, hportable, hcurrent⟩ := h
  constructor
  · unfold SwAxi.hold
    cases current with
    | none =>
      rw [if_pos hcarries.rest_eq]
      exact hcarries.start hm.marks
    | some m =>
      obtain rfl := hwriting m (hcurrent m rfl)
      rw [if_neg (hcarries.unfinished m rfl)]
      exact hcarries
  · intro m hmem
    rcases List.mem_append.mp hmem with hmem | hmem
    · exact hportable m (List.mem_append_left _ hmem)
    · rw [List.mem_singleton.mp hmem]
      exact hm

/-- A call of `write` takes the message on, or to its end. -/
theorem Carried.wrote {writing : Buf → Prop} (h : Carried line msgs writing) (hm : Portable msgArr)
    (hwriting : ∀ m, writing m → m = msgArr) (hw : wrote line msgArr n = some line') :
    (line'.rest = [] ∧ ∀ writing', Carried line' (msgs ++ [msgArr]) writing') ∨
      (line'.rest ≠ [] ∧ (writing msgArr → Carried line' msgs writing)) := by
  obtain ⟨hl, hall⟩ := h.hold hm hwriting
  obtain ⟨-, hoffers, rfl⟩ := wrote_inv hw
  rcases Nat.lt_or_ge n (SwAxi.hold line msgArr).rest.length with hlt | hge
  · have hpart := hl.write hlt
    refine Or.inr ⟨hpart.unfinished msgArr rfl, fun hwriting => ⟨some msgArr, hpart, hall, fun m heq => ?_⟩⟩
    cases heq
    exact hwriting
  · have hwhole := hl.written hge
    exact Or.inl ⟨hwhole.rest_eq, fun _ => ⟨none, hwhole, by simpa using hall, by simp⟩⟩

/-- A call of `read` takes off part of a message, or the rest of the first one. -/
theorem Carried.got {writing : Buf → Prop} (h : Carried line msgs writing) {o : Option Buf}
    (hgot : got line n = some (line', o)) :
    (o = none ∧ Carried line' msgs writing) ∨
      ∃ m rest, o = some m ∧ msgs = m :: rest ∧ Carried line' rest writing := by
  obtain ⟨current, hcarries, hportable, hcurrent⟩ := h
  obtain ⟨hpos, hasks, hlen, ⟨hwhole, rfl, rfl⟩ | ⟨hpart, rfl, rfl⟩⟩ := got_inv hgot
  · obtain ⟨m, rest, rfl, hbegun, hrest⟩ := hcarries.taken hpos hasks hlen hwhole
    have hbegun : (line.read n).begun = frame m := hbegun
    refine Or.inr ⟨m, rest, ?_, rfl, current, hrest, fun x hx => hportable x (List.mem_cons_of_mem _ hx), hcurrent⟩
    rw [hbegun, drop_frame, (hportable m (by simp)).2]
  · exact Or.inl ⟨rfl, current, hcarries.read hpos hasks hlen hpart, hportable, hcurrent⟩

/-- There is always something to be written of a message at hand. -/
theorem exists_wrote (line : Line UInt8) (msgArr : Buf) : ∃ line', wrote line msgArr 1 = some line' := by
  have hrest : 0 < (hold line msgArr).rest.length := by
    unfold hold
    split
    · change 0 < (frame msgArr).length
      rw [length_frame]
      omega
    · exact List.length_pos_iff.mpr ‹_›
  have hoffers : 1 ≤ offers msgArr (hold line msgArr).rest := by
    unfold offers
    split <;> omega
  exact ⟨_, if_pos ⟨Nat.one_pos, hoffers⟩⟩

/-- There is something to be read as long as a message is in the socket. -/
theorem Carried.exists_got {line : Line UInt8} {msgs : List Buf} {writing : Buf → Prop} (h : Carried line msgs writing)
    (hmsgs : msgs ≠ []) : ∃ r : Line UInt8 × Option Buf, SwAxi.got line 1 = some r := by
  obtain ⟨current, hcarries, -, -⟩ := h
  have htransit := hcarries.transit_ne hmsgs
  have hasks : 1 ≤ missing line.begun := hcarries.asks_pos htransit
  have hlen : 1 ≤ line.transit.length := List.length_pos_iff.mpr htransit
  unfold SwAxi.got
  rw [if_pos ⟨Nat.one_pos, hasks, hlen⟩]
  simp only
  split
  · exact ⟨_, rfl⟩
  · exact ⟨_, rfl⟩

end

/-! ### Steps that move no bytes -/

section
variable {S Buf : Type}

/-- The endpoint with these messages in its socket. -/
def Endpoint.withSocket (c : Endpoint S Buf) (toRouter toClient : List Buf) : Endpoint S Buf :=
  { c with toRouter, toClient }

/-- The system with these messages in its sockets. -/
def System.withSockets (s : System S Buf) (up down : Nat → List Buf) : System S Buf :=
  { s with endpoints := fun i => (s.endpoints i).withSocket (up i) (down i) }

namespace System
variable {s : System S Buf} {up down : Nat → List Buf}

theorem withSockets_setEndpoint (i : Nat) (c : Endpoint S Buf) :
    (s.withSockets up down).setEndpoint i (c.withSocket (up i) (down i)) = (s.setEndpoint i c).withSockets up down := by
  unfold withSockets setEndpoint
  congr 1
  funext j
  by_cases hj : j = i
  · subst hj
    simp
  · simp [hj]

theorem withSockets_endpointStep {i : Nat} {next : Endpoint S Buf → Option (Endpoint S Buf)}
    (hnext : next ((s.endpoints i).withSocket (up i) (down i)) =
      (next (s.endpoints i)).map fun c => c.withSocket (up i) (down i)) :
    (s.withSockets up down).endpointStep i next = (s.endpointStep i next).map fun t => t.withSockets up down := by
  have hclients : (s.withSockets up down).clients = s.clients := rfl
  have hendpoint : (s.withSockets up down).endpoints i = (s.endpoints i).withSocket (up i) (down i) := rfl
  unfold endpointStep
  rw [hclients, hendpoint, hnext]
  split
  · simp only [Option.map_map]
    exact congrArg (Option.map · _) (funext fun c => withSockets_setEndpoint i c)
  · rfl

theorem withSocket_possible {c : Endpoint S Buf} {u d : List Buf} (e : Bridge.Event Buf) :
    (c.withSocket u d).Possible e ↔ c.Possible e := by
  cases e <;> exact Iff.rfl

variable [Slave S] [Flatbuffers Buf]

theorem withSocket_local? {c : Endpoint S Buf} {u d : List Buf} (e : Bridge.Event Buf) :
    (c.withSocket u d).local? e = (c.local? e).map fun c => c.withSocket u d := by
  have hbridge : (c.withSocket u d).bridge = c.bridge := rfl
  unfold Endpoint.local?
  simp only [withSocket_possible, hbridge]
  split
  · rw [Option.map_map]
    rfl
  · rfl

omit [Slave S] in
theorem withSockets_take (i : Nat) (order : List IpInfo) :
    (s.withSockets up down).take i order = (s.take i order).map fun t => t.withSockets up down := by
  have hroute : (s.withSockets up down).route = s.route := rfl
  have hreader : ((s.withSockets up down).endpoints i).reader = (s.endpoints i).reader := rfl
  have horder : (s.withSockets up down).router.IterationOrder order ↔ s.router.IterationOrder order := Iff.rfl
  unfold take
  rw [hroute, hreader]
  split
  · rename_i msgArr _ _
    simp only [horder]
    split
    · exact congrArg (fun t : System S Buf => some { t with
          router := (s.router.route order msgArr).1
          route := routeLoop (s.router.route order msgArr).2
          record := s.record.turn msgArr (s.router.route order msgArr).2 })
        (withSockets_setEndpoint i { s.endpoints i with reader := .reading })
    · rfl
  · rfl

omit [Slave S] in
theorem withSockets_hand : (s.withSockets up down).hand = s.hand.map fun t => t.withSockets up down := by
  have hroute : (s.withSockets up down).route = s.route := rfl
  have hclients : (s.withSockets up down).clients = s.clients := rfl
  have hlistening : ∀ j, ((s.withSockets up down).endpoints j).listening = (s.endpoints j).listening := fun _ => rfl
  simp only [hand, hroute, hclients, hlistening]
  split
  · rename_i j msgArr _
    split
    · exact congrArg (fun t : System S Buf => some { t with route := .receiving })
        (withSockets_setEndpoint j { s.endpoints j with writer := .writing msgArr })
    · rfl
  · rename_i j _
    split
    · exact congrArg (fun t : System S Buf => some { t with
          route := if j + 1 < s.clients then .sendDone (j + 1) else .exited })
        (withSockets_setEndpoint j { s.endpoints j with writer := .writing Router.doneMessage })
    · rfl
  · rfl

/-- What is in the sockets makes no difference to a step that moves no bytes. -/
theorem withSockets_step {w : Cabled S Buf} {e : Event Buf} (he : w.Inner e) :
    (w.system.withSockets up down).step e = (w.system.step e).map fun t => t.withSockets up down := by
  have hclients : (w.system.withSockets up down).clients = w.system.clients := rfl
  cases e with
  | bridge i e =>
    simp only [step]
    exact withSockets_endpointStep (withSocket_local? e)
  | sent i =>
    simp only [step]
    refine withSockets_endpointStep ?_
    have hstate : (w.system.endpoints i).bridge.client.state ≠ .started := he.1
    unfold Endpoint.sent
    simp only [Endpoint.withSocket, hstate, if_false]
    split <;> rfl
  | receive i =>
    simp only [step]
    refine withSockets_endpointStep ?_
    have hstate : (w.system.endpoints i).bridge.client.state ≠ .started := he.1
    unfold Endpoint.receive
    simp only [Endpoint.withSocket, hstate, if_false]
    split <;> rfl
  | readMsg i => exact he.elim
  | writeMsg i => exact he.elim
  | take i order =>
    simp only [step, hclients, withSockets_take]
    split <;> rfl
  | hand =>
    simp only [step]
    exact withSockets_hand

end System

end

/-! ### What is under way in a socket -/

section
variable {S Buf : Type} [Flatbuffers Buf] [Streamed Buf]

namespace Cabled
variable {w w' : Cabled S Buf} {up down : Nat → List Buf}

/-- The sockets carry these messages; one that is on its way into a socket is the one that the writer has. -/
structure Linked (w : Cabled S Buf) (up down : Nat → List Buf) : Prop where
  toRouter : ∀ i < w.system.clients, Carried (w.toRouter i) (up i) fun m => (w.system.endpoints i).sending = [m]
  toClient : ∀ i < w.system.clients, Carried (w.toClient i) (down i) fun m => (w.system.endpoints i).written = [m]

/-- The system with messages in its sockets that the bytes in the sockets stand for. -/
def Shows (w : Cabled S Buf) (t : System S Buf) : Prop := ∃ up down, t = w.system.withSockets up down ∧ w.Linked up down

/-- No call splits a size at the C++ end, and the messages that are written are portable. -/
def Sound (w : Cabled S Buf) : Event Buf → Prop
  | .send i n => (∀ m ∈ (w.system.endpoints i).sending, Portable m) ∧ ((w.toRouter i).rest = [] → n = 8)
  | .writeMsg i _ => ∀ m ∈ (w.system.endpoints i).written, Portable m
  | .receive i n => (w.toClient i).begun = [] → n = 8
  | .inner _ | .readMsg _ _ => True

instance [DecidableEq Buf] (e : Event Buf) : Decidable (w.Sound e) := by
  cases e <;> unfold Sound <;> infer_instance

theorem Linked.setUp (h : w.Linked up down) {i : Nat} {c : Endpoint S Buf} {line : Line UInt8} {msgs : List Buf}
    (hline : Carried line msgs fun m => c.sending = [m]) (hwriter : c.writer = (w.system.endpoints i).writer) :
    (w.setUp i c line).Linked (Function.update up i msgs) down where
  toRouter j hj := by
    by_cases hji : j = i
    · subst hji
      simpa [Cabled.setUp, System.setEndpoint] using hline
    · simpa [Cabled.setUp, System.setEndpoint, hji] using h.toRouter j hj
  toClient j hj := by
    have hwritten : ((w.setUp i c line).system.endpoints j).written = (w.system.endpoints j).written := by
      by_cases hji : j = i
      · subst hji
        simp [Cabled.setUp, System.setEndpoint, Endpoint.written, hwriter]
      · simp [Cabled.setUp, System.setEndpoint, hji]
    rw [hwritten]
    exact h.toClient j hj

theorem Linked.setDown (h : w.Linked up down) {i : Nat} {c : Endpoint S Buf} {line : Line UInt8} {msgs : List Buf}
    (hline : Carried line msgs fun m => c.written = [m])
    (hwriter : c.bridge.writerThread = (w.system.endpoints i).bridge.writerThread) :
    (w.setDown i c line).Linked up (Function.update down i msgs) where
  toRouter j hj := by
    have hsending : ((w.setDown i c line).system.endpoints j).sending = (w.system.endpoints j).sending := by
      by_cases hji : j = i
      · subst hji
        simp [Cabled.setDown, System.setEndpoint, Endpoint.sending, hwriter]
      · simp [Cabled.setDown, System.setEndpoint, hji]
    rw [hsending]
    exact h.toRouter j hj
  toClient j hj := by
    by_cases hji : j = i
    · subst hji
      simpa [Cabled.setDown, System.setEndpoint] using hline
    · simpa [Cabled.setDown, System.setEndpoint, hji] using h.toClient j hj

end Cabled

namespace System
variable {s : System S Buf} {up down : Nat → List Buf}

omit [Flatbuffers Buf] [Streamed Buf] in
/-- A step of an endpoint at its socket. -/
theorem socket_step {i : Nat} {next : Endpoint S Buf → Option (Endpoint S Buf)} (hi : i < s.clients)
    {c : Endpoint S Buf} {u d : List Buf} (hnext : next ((s.endpoints i).withSocket (up i) (down i)) = some (c.withSocket u d)) :
    (s.withSockets up down).endpointStep i next =
      some ((s.setEndpoint i c).withSockets (Function.update up i u) (Function.update down i d)) := by
  have hclients : (s.withSockets up down).clients = s.clients := rfl
  have hendpoint : (s.withSockets up down).endpoints i = (s.endpoints i).withSocket (up i) (down i) := rfl
  rw [endpointStep, hclients, hendpoint, if_pos hi, hnext, Option.map_some]
  refine congrArg some ?_
  unfold withSockets setEndpoint
  congr 1
  funext j
  by_cases hj : j = i
  · subst hj
    simp
  · simp [hj]

end System

/-! ### Calls at the sockets -/

namespace Cabled
variable [Slave S] {w w' : Cabled S Buf} {up down : Nat → List Buf} {o : Option (System.Event Buf)} {i n : Nat}

theorem Linked.send (h : w.Linked up down) (hi : i < w.system.clients) (hsound : w.Sound (.send i n))
    (hs : w.send i n = some (w', o)) :
    ∃ t, run System.step (w.system.withSockets up down) o.toList = some t ∧ w'.Shows t := by
  obtain ⟨hportable, hheader⟩ := hsound
  unfold Cabled.send at hs
  simp only at hs
  split at hs
  · rename_i out hw
    have hsending : (w.system.endpoints i).sending = [(out.message : Buf)] := by simp [Endpoint.sending, hw]
    split at hs
    · rename_i hstate
      obtain ⟨line, hline, heq⟩ := Option.map_eq_some_iff.mp hs
      rw [if_neg fun hsplit => hsplit.2 (hheader hsplit.1)] at heq
      have hwrote := (h.toRouter i hi).wrote (hportable _ (by simp [hsending])) (fun m hm => ?_) hline
      · rcases hwrote with ⟨hnil, hcarried⟩ | ⟨hrest, hcarried⟩
        · -- The message is whole.
          rw [if_pos hnil] at heq
          cases heq
          have hstep : System.step (w.system.withSockets up down) (.sent i) = some ((w.system.setEndpoint i
              { w.system.endpoints i with bridge := (w.system.endpoints i).bridge.writerSent out (.ok ()) }).withSockets
                (Function.update up i (up i ++ [out.message])) (Function.update down i (down i))) := by
            simp only [System.step]
            refine System.socket_step hi ?_
            simp [Endpoint.sent, Endpoint.withSocket, hw, hstate]
          rw [Function.update_eq_self] at hstep
          exact ⟨_, (run_cons hstep).mpr rfl, _, _, rfl, h.setUp (hcarried _) rfl⟩
        · rw [if_neg hrest] at heq
          cases heq
          refine ⟨_, rfl, up, down, ?_, ?_⟩
          · simp [Cabled.setUp, System.setEndpoint]
          · have hlinked := h.setUp (hcarried hsending) rfl
            rwa [Function.update_eq_self] at hlinked
      · rw [hsending] at hm
        exact (List.singleton_inj.mp hm).symm
    · cases hs
  · cases hs

theorem Linked.readMsg (h : w.Linked up down) (hi : i < w.system.clients) (hrunning : w.system.running = true)
    (hs : w.readMsg i n = some (w', o)) :
    ∃ t, run System.step (w.system.withSockets up down) o.toList = some t ∧ w'.Shows t := by
  have hrunning' : (w.system.withSockets up down).running = true := hrunning
  unfold Cabled.readMsg at hs
  simp only at hs
  split at hs
  · rename_i hreader
    obtain ⟨⟨line, taken⟩, hline, heq⟩ := Option.map_eq_some_iff.mp hs
    rcases (h.toRouter i hi).got hline with ⟨rfl, hcarried⟩ | ⟨m, rest, rfl, hup, hcarried⟩
    · cases heq
      refine ⟨_, rfl, up, down, ?_, ?_⟩
      · simp [Cabled.setUp, System.setEndpoint]
      · have hlinked := h.setUp hcarried rfl
        rwa [Function.update_eq_self] at hlinked
    · cases heq
      have hstep : System.step (w.system.withSockets up down) (.readMsg i) = some ((w.system.setEndpoint i
          { w.system.endpoints i with
            reader := if (getRoot m).getType = .done then .done else .offering m }).withSockets
              (Function.update up i rest) (Function.update down i (down i))) := by
        simp only [System.step, hrunning', if_true]
        refine System.socket_step hi ?_
        simp [Endpoint.readMsg, Endpoint.withSocket, hreader, hup]
      rw [Function.update_eq_self] at hstep
      refine ⟨_, (run_cons hstep).mpr rfl, _, _, rfl, h.setUp ?_ rfl⟩
      exact hcarried
  · cases hs

theorem Linked.writeMsg (h : w.Linked up down) (hi : i < w.system.clients) (hrunning : w.system.running = true)
    (hsound : w.Sound (.writeMsg i n)) (hs : w.writeMsg i n = some (w', o)) :
    ∃ t, run System.step (w.system.withSockets up down) o.toList = some t ∧ w'.Shows t := by
  have hrunning' : (w.system.withSockets up down).running = true := hrunning
  unfold Cabled.writeMsg at hs
  simp only at hs
  split at hs
  · rename_i msgArr hw
    have hwritten : (w.system.endpoints i).written = [msgArr] := by simp [Endpoint.written, hw]
    obtain ⟨line, hline, heq⟩ := Option.map_eq_some_iff.mp hs
    have hwrote := (h.toClient i hi).wrote (hsound _ (by simp [hwritten])) (fun m hm => ?_) hline
    · rcases hwrote with ⟨hnil, hcarried⟩ | ⟨hrest, hcarried⟩
      · rw [if_pos hnil] at heq
        cases heq
        have hstep : System.step (w.system.withSockets up down) (.writeMsg i) = some ((w.system.setEndpoint i
            { w.system.endpoints i with
              writer := if (getRoot msgArr).getType = .done then .done else .waiting }).withSockets
                (Function.update up i (up i)) (Function.update down i (down i ++ [msgArr]))) := by
          simp only [System.step, hrunning', if_true]
          refine System.socket_step hi ?_
          simp [Endpoint.writeMsg, Endpoint.withSocket, hw]
        rw [Function.update_eq_self] at hstep
        exact ⟨_, (run_cons hstep).mpr rfl, _, _, rfl, h.setDown (hcarried _) rfl⟩
      · rw [if_neg hrest] at heq
        cases heq
        refine ⟨_, rfl, up, down, ?_, ?_⟩
        · simp [Cabled.setDown, System.setEndpoint]
        · have hlinked := h.setDown (hcarried hwritten) rfl
          rwa [Function.update_eq_self] at hlinked
    · rw [hwritten] at hm
      exact (List.singleton_inj.mp hm).symm
  · cases hs

theorem Linked.receive (h : w.Linked up down) (hi : i < w.system.clients) (hsound : w.Sound (.receive i n))
    (hs : w.receive i n = some (w', o)) :
    ∃ t, run System.step (w.system.withSockets up down) o.toList = some t ∧ w'.Shows t := by
  unfold Cabled.receive at hs
  simp only at hs
  split at hs
  · rename_i hreceiving
    obtain ⟨hreader, hstate⟩ := hreceiving
    obtain ⟨⟨line, taken⟩, hline, heq⟩ := Option.map_eq_some_iff.mp hs
    rw [if_neg fun hsplit => hsplit.2 (hsound hsplit.1)] at heq
    rcases (h.toClient i hi).got hline with ⟨rfl, hcarried⟩ | ⟨m, rest, rfl, hdown, hcarried⟩
    · cases heq
      refine ⟨_, rfl, up, down, ?_, ?_⟩
      · simp [Cabled.setDown, System.setEndpoint]
      · have hlinked := h.setDown hcarried rfl
        rwa [Function.update_eq_self] at hlinked
    · cases heq
      have hstep : System.step (w.system.withSockets up down) (.receive i) = some ((w.system.setEndpoint i
          { w.system.endpoints i with bridge := (w.system.endpoints i).bridge.readerReceive (.ok m) }).withSockets
              (Function.update up i (up i)) (Function.update down i rest)) := by
        simp only [System.step]
        refine System.socket_step hi ?_
        simp [Endpoint.receive, Endpoint.withSocket, hreader, hstate, hdown]
      rw [Function.update_eq_self] at hstep
      refine ⟨_, (run_cons hstep).mpr rfl, _, _, rfl, h.setDown hcarried ?_⟩
      exact (Bridge.byReader_receive (.ok m)).thread
  · cases hs

end Cabled

/-! ### Steps in between -/

omit [Streamed Buf] in
/-- The writer stays in its send operation. -/
theorem Bridge.step_sending [Slave S] {b t : Bridge S} {e : Bridge.Event Buf} {out : Outgoing}
    (hw : b.writerThread = some (.sending out)) (hs : b.step e = some t) (hsent : ∀ write, e ≠ .sent write) :
    t.writerThread = some (.sending out) := by
  cases Bridge.moves_of_step hs with
  | read m buffer => exact hw
  | write m buffer => exact hw
  | terminate m => exact hw
  | notify q hq => exact hw
  | spurious q hq => exact hw
  | pop q r hpopping hq =>
    rw [hw] at hpopping
    cases hpopping
  | resume q r hpopping hq =>
    rw [hw] at hpopping
    cases hpopping
  | dispatch tx hholding =>
    rw [hw] at hholding
    cases hholding
  | sent out write _ => exact absurd rfl (hsent write)
  | receive read hr => exact (byReader_receive read).thread.trans hw
  | process txn hr => exact (byReader_process txn).thread.trans hw

omit [Streamed Buf] in
theorem Endpoint.sending_eq_singleton {c : Endpoint S Buf} {m : Buf} :
    c.sending = [m] ↔ ∃ out, c.bridge.writerThread = some (.sending out) ∧ m = out.message := by
  unfold Endpoint.sending
  split
  · rename_i out hw
    simp [hw, eq_comm]
  · rename_i hno
    simp only [List.nil_eq, List.cons_ne_nil, false_iff, not_exists, not_and]
    exact fun out hw => absurd hw (hno out)

omit [Flatbuffers Buf] [Streamed Buf] in
theorem Endpoint.written_eq_singleton {c : Endpoint S Buf} {m : Buf} : c.written = [m] ↔ c.writer = .writing m := by
  unfold Endpoint.written
  split <;> simp_all

omit [Streamed Buf] in
theorem Endpoint.receive_writer {c c' : Endpoint S Buf} (hs : c.receive = some c') : c'.writer = c.writer := by
  unfold Endpoint.receive at hs
  split at hs
  · split at hs
    · split at hs
      · cases hs
      · cases hs
        rfl
    · cases hs
      rfl
  · cases hs

omit [Streamed Buf] in
theorem Endpoint.sent_writer {c c' : Endpoint S Buf} (hs : c.sent = some c') : c'.writer = c.writer := by
  unfold Endpoint.sent at hs
  split at hs
  · cases hs
    rfl
  · cases hs

namespace Cabled
variable [Slave S] {w : Cabled S Buf} {up down : Nat → List Buf} {e : System.Event Buf} {t : System S Buf} {m : Buf}

omit [Streamed Buf] in
/-- A writer goes on with its send operation. -/
theorem Inner.sending (he : w.Inner e) (hs : w.system.step e = some t) {i : Nat} (hrest : (w.toRouter i).rest ≠ [])
    (hsending : (w.system.endpoints i).sending = [m]) : (t.endpoints i).sending = [m] := by
  obtain ⟨out, hw, hm⟩ := Endpoint.sending_eq_singleton.mp hsending
  refine Endpoint.sending_eq_singleton.mpr ⟨out, ?_, hm⟩
  obtain ⟨-, hsame | ⟨j, -, e', hdrives, he', hothers⟩⟩ := System.bridge_of_step hs
  · rw [hsame i]
    exact hw
  · by_cases hij : i = j
    · subst hij
      refine Bridge.step_sending hw he' ?_
      rintro write rfl
      cases hdrives with
      | bridge i e hsent => exact hsent write rfl
      | sent i => exact hrest he.2
    · rw [hothers i hij]
      exact hw

omit [Streamed Buf] in
/-- A goroutine goes on with its call of `writeMsg`. -/
theorem Inner.written (he : w.Inner e) (hs : w.system.step e = some t) {i : Nat}
    (hwritten : (w.system.endpoints i).written = [m]) : (t.endpoints i).written = [m] := by
  have hw : (w.system.endpoints i).writer = .writing m := Endpoint.written_eq_singleton.mp hwritten
  refine Endpoint.written_eq_singleton.mpr ?_
  have hset : ∀ {j : Nat} {c : Endpoint S Buf}, (j = i → c.writer = .writing m) →
      ((w.system.setEndpoint j c).endpoints i).writer = .writing m := by
    intro j c hc
    by_cases hji : j = i
    · subst hji
      rw [System.setEndpoint_self]
      exact hc rfl
    · rw [System.setEndpoint_ne (Ne.symm hji)]
      exact hw
  have hwaiting : ∀ {j : Nat}, (w.system.endpoints j).listening = true → j ≠ i := by
    rintro j hlistening rfl
    simp [Endpoint.listening, hw] at hlistening
  cases e with
  | bridge j e =>
    simp only [System.step] at hs
    obtain ⟨-, c, hc, rfl⟩ := System.endpointStep_inv hs
    obtain ⟨-, b, -, rfl⟩ := Endpoint.local?_inv hc
    refine hset ?_
    rintro rfl
    exact hw
  | sent j =>
    simp only [System.step] at hs
    obtain ⟨-, c, hc, rfl⟩ := System.endpointStep_inv hs
    refine hset ?_
    rintro rfl
    rw [Endpoint.sent_writer hc]
    exact hw
  | receive j =>
    simp only [System.step] at hs
    obtain ⟨-, c, hc, rfl⟩ := System.endpointStep_inv hs
    refine hset ?_
    rintro rfl
    rw [Endpoint.receive_writer hc]
    exact hw
  | readMsg j => exact he.elim
  | writeMsg j => exact he.elim
  | take j order =>
    simp only [System.step] at hs
    split at hs
    · unfold System.take at hs
      split at hs
      · split at hs
        · cases hs
          refine hset ?_
          rintro rfl
          exact hw
        · cases hs
      · cases hs
    · cases hs
  | hand =>
    simp only [System.step] at hs
    unfold System.hand at hs
    split at hs
    · split at hs
      · cases hs
        exact hset fun hji => absurd hji (hwaiting ‹_›)
      · cases hs
    · split at hs
      · cases hs
        exact hset fun hji => absurd hji (hwaiting ‹_›)
      · cases hs
    · cases hs

theorem Linked.inner (h : w.Linked up down) (he : w.Inner e) (hs : w.system.step e = some t) :
    (w.system.withSockets up down).step e = some (t.withSockets up down) ∧
      ({ w with system := t } : Cabled S Buf).Linked up down := by
  have hclients : t.clients = w.system.clients := (System.step_move (System.keeps_anyone e) hs).clients
  refine ⟨by rw [System.withSockets_step he, hs, Option.map_some], ⟨fun i hi => ?_, fun i hi => ?_⟩⟩
  · obtain ⟨current, hcarries, hportable, hcurrent⟩ := h.toRouter i (hclients ▸ hi)
    exact ⟨current, hcarries, hportable, fun m hm => he.sending hs (hcarries.unfinished m hm) (hcurrent m hm)⟩
  · obtain ⟨current, hcarries, hportable, hcurrent⟩ := h.toClient i (hclients ▸ hi)
    exact ⟨current, hcarries, hportable, fun m hm => he.written hs (hcurrent m hm)⟩

/-- A step over bytes is the step over messages that it completes, if it completes one. -/
theorem Shows.step {w' : Cabled S Buf} {e : Event Buf} (h : w.Shows t) (hsound : w.Sound e) (hs : w.step e = some w') :
    ∃ t', run System.step t (w.completes e) = some t' ∧ w'.Shows t' := by
  obtain ⟨up, down, rfl, hlinked⟩ := h
  obtain ⟨⟨w', o⟩, hact, rfl⟩ := Option.map_eq_some_iff.mp hs
  have hcompletes : w.completes e = o.toList := by simp [completes, hact]
  rw [hcompletes]
  cases e with
  | inner e =>
    simp only [act] at hact
    split at hact
    · rename_i he
      obtain ⟨t, ht, heq⟩ := Option.map_eq_some_iff.mp hact
      cases heq
      obtain ⟨hstep, hlinked⟩ := hlinked.inner he ht
      exact ⟨_, (run_cons hstep).mpr rfl, up, down, rfl, hlinked⟩
    · cases hact
  | send i n =>
    simp only [act] at hact
    split at hact
    · exact hlinked.send ‹_› hsound hact
    · cases hact
  | readMsg i n =>
    simp only [act] at hact
    split at hact
    · rename_i hi
      exact hlinked.readMsg hi.2 hi.1 hact
    · cases hact
  | writeMsg i n =>
    simp only [act] at hact
    split at hact
    · rename_i hi
      exact hlinked.writeMsg hi.2 hi.1 hsound hact
    · cases hact
  | receive i n =>
    simp only [act] at hact
    split at hact
    · exact hlinked.receive ‹_› hsound hact
    · cases hact

end Cabled

/-! ### Nothing is left undone -/

namespace Bridge
omit [Streamed Buf]
variable {b t : Bridge S}

/-- The writer logs out only once the queue is finished. -/
def LastOut (b : Bridge S) : Prop :=
  b.writerThread = some (.sending .logout) ∨ b.writerThread = some .returned → b.queue.done = true

theorem done_receive (read : RouterClient.Received Buf) (h : b.queue.done = true) :
    (b.readerReceive read).queue.done = true := by
  unfold readerReceive readerReturn
  split
  · exact h
  · simp only
    split
    · rfl
    · split <;> exact h

omit [Flatbuffers Buf] in
theorem done_process [Slave S] (txn : Transaction) (h : b.queue.done = true) :
    (b.readerProcess txn).queue.done = true := by
  unfold readerProcess
  split
  · unfold readerRequest
    split
    · rfl
    · exact h
  · unfold readerResponse
    split
    · rfl
    · rename_i md _
      split
      · rfl
      · rename_i tx _
        rcases b.resolve_cases md tx txn with ⟨-, buffers, heq⟩ | ⟨p, -, -, heq⟩ <;> rw [heq] <;> exact h

theorem LastOut.receive (h : b.LastOut) (read : RouterClient.Received Buf) : (b.readerReceive read).LastOut := by
  intro hout
  rw [(byReader_receive read).thread] at hout
  exact done_receive read (h hout)

theorem LastOut.step [Slave S] (h : b.LastOut) {e : Event Buf} (hs : b.step e = some t)
    (hsent : ∀ write, e ≠ .sent write) : t.LastOut := by
  cases moves_of_step hs with
  | read m buffer => exact h
  | write m buffer => exact h
  | terminate m => exact h
  | notify q hq =>
    obtain ⟨c, -, rfl⟩ := Option.map_eq_some_iff.mp hq
    exact h
  | spurious q hq =>
    obtain ⟨c, -, rfl⟩ := Option.map_eq_some_iff.mp hq
    exact h
  | pop q r hw hq =>
    have hhead := (Queue.pop_inv hq).2
    rcases Queue.loopHead_cases (q := b.queue) with ⟨-, heq⟩ | ⟨tx, rest, -, heq⟩
    all_goals
      rw [heq] at hhead
      cases hhead
      intro hout
      simp [popped, hw] at hout
  | resume q r hw hq =>
    rcases (Queue.resume_inv hq).2 with ⟨hdone, rfl, rfl⟩ | ⟨-, hhead⟩
    · exact fun _ => hdone
    · rcases Queue.loopHead_cases (q := b.queue) with ⟨-, heq⟩ | ⟨tx, rest, -, heq⟩
      all_goals
        rw [heq] at hhead
        cases hhead
        intro hout
        simp [popped, hw] at hout
  | dispatch tx hw =>
    rcases writerDispatch_cases (b := b) tx with ⟨-, heq⟩ | ⟨-, heq⟩ | ⟨-, -, heq⟩
    all_goals
      rw [heq]
      intro hout
      simp [assign] at hout
  | sent out write hw => exact absurd rfl (hsent write)
  | receive read hr => exact h.receive read
  | process txn hr =>
    intro hout
    rw [(byReader_process txn).thread] at hout
    exact done_process txn (h hout)

omit [Flatbuffers Buf] in
theorem LastOut.sent (h : b.LastOut) {out : Outgoing} (hw : b.writerThread = some (.sending out))
    (hstate : b.client.state = .started) : (b.writerSent out (.ok ())).LastOut := by
  rcases writerSent_started hstate out with ⟨rfl, heq⟩ | ⟨-, heq⟩ <;> rw [heq]
  · exact fun _ => h (Or.inl hw)
  · intro hout
    simp at hout

end Bridge

namespace System
omit [Streamed Buf]
variable [Slave S] {s t : System S Buf}

/-- A client that has not returned is started. -/
structure Attended (s : System S Buf) : Prop where
  piping : ∃ own, s.Piping (unrestricted S) own
  ending : s.Ending
  last : ∀ i < s.clients, (s.endpoints i).bridge.LastOut

theorem Opened.attended (h : s.Opened) : s.Attended where
  piping := h.closing.piping
  ending := h.ready.ending
  last i hi hout := by
    rw [(h.ready.bridges i hi).writer] at hout
    simp at hout

theorem Attended.sending (h : s.Attended) {i : Nat} (hi : i < s.clients) {out : Outgoing}
    (hw : (s.endpoints i).bridge.writerThread = some (.sending out)) :
    (s.endpoints i).bridge.client.state = .started := by
  obtain ⟨own, hpiping⟩ := h.piping
  have hintact : decide ((s.endpoints i).bridge.client.state = .started ∨
      (s.endpoints i).bridge.writerThread = some .returned) = true := (hpiping.within.flows i hi).intact
  rcases of_decide_eq_true hintact with hstate | hreturned
  · exact hstate
  · rw [hw] at hreturned
    cases hreturned

theorem Attended.receiving (h : s.Attended) {i : Nat} (hi : i < s.clients)
    (hr : (s.endpoints i).bridge.readerThread = some .receiving) : (s.endpoints i).bridge.client.state = .started := by
  obtain ⟨own, hpiping⟩ := h.piping
  have hintact : decide ((s.endpoints i).bridge.client.state = .started ∨
      (s.endpoints i).bridge.writerThread = some .returned) = true := (hpiping.within.flows i hi).intact
  rcases of_decide_eq_true hintact with hstate | hreturned
  · exact hstate
  · have hdone := (h.ending i hi).finished.mp (h.last i hi (Or.inr hreturned))
    rw [hr] at hdone
    cases hdone

theorem Attended.last_step (h : s.Attended) {e : Event Buf} (hs : s.step e = some t) :
    ∀ i < s.clients, (t.endpoints i).bridge.LastOut := by
  obtain ⟨-, hsame | ⟨i, hi, e', hdrives, he', hothers⟩⟩ := bridge_of_step hs
  · intro j hj
    rw [hsame j]
    exact h.last j hj
  · intro j hj
    by_cases hji : j = i
    · subst hji
      generalize (t.endpoints j).bridge = b at he' ⊢
      cases hdrives with
      | bridge j e hsent => exact (h.last j hi).step he' hsent
      | sent j =>
        cases Bridge.moves_of_step he' with
        | sent out write hw => exact (h.last j hi).sent hw (h.sending hi hw)
      | receive j read =>
        cases Bridge.moves_of_step he' with
        | receive read hr => exact (h.last j hi).receive read
    · rw [hothers j hji]
      exact h.last j hj

theorem Attended.step (h : s.Attended) {e : Event Buf} (hs : s.step e = some t) : t.Attended where
  piping := by
    obtain ⟨own, hpiping⟩ := h.piping
    exact ⟨own, hpiping.step (keeps_unrestricted e) hs⟩
  ending := by
    obtain ⟨own, hpiping⟩ := h.piping
    exact h.ending.step hpiping hs
  last := by
    have hclients : t.clients = s.clients := (step_move (keeps_anyone e) hs).clients
    rw [hclients]
    exact h.last_step hs

end System

namespace Cabled
variable [Slave S] {w : Cabled S Buf} {up down : Nat → List Buf} {i : Nat} {msgArr : Buf}

/-- A step of a reader, of a writer, or of `route`, or a call that one of them makes at its socket. -/
def Event.OfThread : Event Buf → Prop
  | .inner e => e.OfThread
  | .send _ _ | .readMsg _ _ | .writeMsg _ _ | .receive _ _ => True

def AtRest (w : Cabled S Buf) : Prop := ∀ e, Event.OfThread e → w.step e = none

theorem AtRest.inner (h : w.AtRest) {e : System.Event Buf} (hthread : e.OfThread) (he : w.Inner e) :
    w.system.step e = none := by
  have hnone := h (.inner e) hthread
  simpa [step, act, he] using hnone

theorem AtRest.send (h : w.AtRest) (hi : i < w.system.clients) {out : Outgoing}
    (hw : (w.system.endpoints i).bridge.writerThread = some (.sending out)) :
    (w.system.endpoints i).bridge.client.state ≠ .started := by
  intro hstate
  obtain ⟨line, hline⟩ := exists_wrote (w.toRouter i) (out.message : Buf)
  have hnone := h (.send i 1) trivial
  simp [step, act, hi, Cabled.send, hw, hstate, hline] at hnone

theorem AtRest.writeMsg (h : w.AtRest) (hi : i < w.system.clients) (hrunning : w.system.running = true) :
    (w.system.endpoints i).writer ≠ .writing msgArr := by
  intro hw
  obtain ⟨line, hline⟩ := exists_wrote (w.toClient i) msgArr
  have hnone := h (.writeMsg i 1) trivial
  simp [step, act, hi, hrunning, Cabled.writeMsg, hw, hline] at hnone

theorem Linked.up_eq_nil (h : w.Linked up down) (hrest : w.AtRest) (hi : i < w.system.clients)
    (hrunning : w.system.running = true) (hreader : (w.system.endpoints i).reader = .reading) : up i = [] := by
  refine Classical.byContradiction fun hup => ?_
  obtain ⟨r, hgot⟩ := Carried.exists_got (h.toRouter i hi) hup
  have hnone := hrest (.readMsg i 1) trivial
  simp [step, act, hi, hrunning, Cabled.readMsg, hreader, hgot] at hnone

theorem Linked.down_eq_nil (h : w.Linked up down) (hrest : w.AtRest) (hi : i < w.system.clients)
    (hreader : (w.system.endpoints i).bridge.readerThread = some .receiving)
    (hstate : (w.system.endpoints i).bridge.client.state = .started) : down i = [] := by
  refine Classical.byContradiction fun hdown => ?_
  obtain ⟨r, hgot⟩ := Carried.exists_got (h.toClient i hi) hdown
  have hnone := hrest (.receive i 1) trivial
  simp [step, act, hi, Cabled.receive, hreader, hstate, hgot] at hnone

/-- Where nothing can be done over bytes, nothing could be done over messages. -/
theorem Linked.atRest (h : w.Linked up down) (hattended : (w.system.withSockets up down).Attended) (hrest : w.AtRest) :
    (w.system.withSockets up down).AtRest := by
  have hinner : ∀ e : System.Event Buf, e.OfThread → w.Inner e → (w.system.withSockets up down).step e = none :=
    fun e hthread he => by rw [System.withSockets_step he, hrest.inner hthread he, Option.map_none]
  have hrunning : (w.system.withSockets up down).running = w.system.running := rfl
  intro e hthread
  cases e with
  | bridge i e => exact hinner _ hthread trivial
  | take i order => exact hinner _ hthread trivial
  | hand => exact hinner _ hthread trivial
  | sent i =>
    refine Option.eq_none_iff_forall_ne_some.mpr fun t hs => ?_
    simp only [System.step] at hs
    obtain ⟨hi, c, hc, -⟩ := System.endpointStep_inv hs
    unfold Endpoint.sent at hc
    split at hc
    · rename_i out hw
      exact hrest.send hi hw (hattended.sending hi hw)
    · cases hc
  | receive i =>
    refine Option.eq_none_iff_forall_ne_some.mpr fun t hs => ?_
    simp only [System.step] at hs
    obtain ⟨hi, c, hc, -⟩ := System.endpointStep_inv hs
    unfold Endpoint.receive at hc
    split at hc
    · rename_i hreader
      have hstate := hattended.receiving hi hreader
      have hnil : down i = [] := h.down_eq_nil hrest hi hreader hstate
      rw [if_pos hstate] at hc
      split at hc
      · cases hc
      · rename_i msgArr rest hdown
        exact absurd (hdown.symm.trans hnil) (List.cons_ne_nil _ _)
    · cases hc
  | readMsg i =>
    refine Option.eq_none_iff_forall_ne_some.mpr fun t hs => ?_
    simp only [System.step, hrunning] at hs
    split at hs
    · rename_i hrun
      obtain ⟨hi, c, hc, -⟩ := System.endpointStep_inv hs
      unfold Endpoint.readMsg at hc
      split at hc
      · rename_i msgArr rest hreader hup
        have hnil : up i = [] := h.up_eq_nil hrest hi hrun hreader
        exact absurd (hup.symm.trans hnil) (List.cons_ne_nil _ _)
      · cases hc
    · cases hs
  | writeMsg i =>
    refine Option.eq_none_iff_forall_ne_some.mpr fun t hs => ?_
    simp only [System.step, hrunning] at hs
    split at hs
    · rename_i hrun
      obtain ⟨hi, c, hc, -⟩ := System.endpointStep_inv hs
      unfold Endpoint.writeMsg at hc
      split at hc
      · exact hrest.writeMsg hi hrun ‹_›
      · cases hc
    · cases hs

omit [Slave S] in
/-- Before any byte is moved, the sockets are as the handshake has left them. -/
theorem shows_opened {s : System S Buf} (hs : s.Opened) : ({ system := s } : Cabled S Buf).Shows s := by
  refine ⟨fun i => (s.endpoints i).toRouter, fun i => (s.endpoints i).toClient, rfl, fun i hi => ?_, fun i hi => ?_⟩
  · simp only [(hs.ready.sockets i hi).1]
    exact carried_nothing _
  · simp only [(hs.ready.sockets i hi).2]
    exact carried_nothing _

/-- Whatever the processes do over streams of bytes, as long as no call splits a size at the C++ end, they could do as
    well over sockets of messages: the messages that come to the ends of the sockets make up a run of theirs, in whose
    last state everything but the sockets is the same, and in which nothing is left to be done if nothing is over
    bytes. -/
theorem refines_messages {s : System S Buf} (hs : s.Opened) {es : List (Event Buf)}
    (hes : EveryStep step Sound { system := s } es) (hr : run step { system := s } es = some w) :
    ∃ up down, run System.step s (outputs step completes { system := s } es) = some (w.system.withSockets up down) ∧
      w.Linked up down ∧ (w.AtRest → (w.system.withSockets up down).AtRest) := by
  have match_step : ∀ (w : Cabled S Buf) e w' t, w.Shows t → w.Sound e → w.step e = some w' →
      ∃ t', run System.step t (w.completes e) = some t' ∧ w'.Shows t' := fun _ _ _ _ h hsound hs => h.step hsound hs
  obtain ⟨t, ht, up, down, rfl, hlinked⟩ := run_simulation match_step (shows_opened hs) hes hr
  have hattended : (w.system.withSockets up down).Attended :=
    run_invariant (fun _ _ _ h hs => h.step hs) hs.attended ht
  exact ⟨up, down, ht, hlinked, hlinked.atRest hattended⟩

end Cabled

end

/-! ### A run over bytes -/

namespace Cabled

/-- A read of two bytes, as it goes to the slave and as it comes back. -/
def readMessages : List Wire.Message :=
  let txn : Wire.Transaction :=
    { initiator := some 1, address := some 0x1000, size := some 2, data := some [], ok := some true, message := some "" }
  [{ type := some .transaction, txn := some txn },
    { type := some .transaction, txn := some { txn with type := some .readResp, data := some [0, 0] } }]

/-- Three bytes stand for each of them. -/
instance : Streamed Wire.Message where
  bytesOf m := List.replicate 3 (UInt8.ofNat (readMessages.idxOf m))
  messageOf bs := readMessages.getD (bs.headD 0).toNat {}

/-- The run of `System.readAnswered`, with the messages in pieces. -/
def readInPieces : List (Event Wire.Message) :=
  let order := System.opened.router.ipMMap.map Prod.snd
  [.inner (.bridge 0 (.read 1 { data := [0, 0], size := 2, address := 0x1000 })), .inner (.bridge 0 .pop),
    .inner (.bridge 0 .dispatch), .send 0 8, .readMsg 0 3, .send 0 1, .readMsg 0 5, .readMsg 0 1, .send 0 2, .readMsg 0 2,
    .inner (.take 0 order), .inner .hand, .writeMsg 0 3, .writeMsg 0 5, .receive 0 8, .writeMsg 0 3, .receive 0 2,
    .receive 0 1, .inner (.bridge 0 .process), .inner (.bridge 0 .pop), .inner (.bridge 0 .dispatch), .send 0 8, .send 0 3,
    .readMsg 0 8, .readMsg 0 3, .inner (.take 0 order), .inner .hand, .writeMsg 0 8, .receive 0 8, .writeMsg 0 2,
    .receive 0 1, .writeMsg 0 1, .receive 0 2, .inner (.bridge 0 .process)]

theorem refines_messages_readInPieces : ∃ w up down, run step { system := System.opened } readInPieces = some w ∧
    (w.system.endpoints 0).bridge.futures 0 = some {} ∧ w.Linked up down ∧
    run System.step System.opened System.readAnswered = some (w.system.withSockets up down) := by
  have hrun : ∃ w, run step { system := System.opened } readInPieces = some w ∧
      (w.system.endpoints 0).bridge.futures 0 = some {} := ⟨_, rfl, rfl⟩
  obtain ⟨w, hr, hp⟩ := hrun
  have hout : outputs step completes { system := System.opened } readInPieces = System.readAnswered := rfl
  obtain ⟨up, down, ht, hlinked, -⟩ := refines_messages System.opened_opened (by decide) hr
  exact ⟨w, up, down, hr, hp, hlinked, hout ▸ ht⟩

end Cabled

end SwAxi
